import ReleaseSync.Artifact
import ReleaseSync.CommandLine
import ReleaseSync.Configuration.Basic
import ReleaseSync.Configuration.Check
import ReleaseSync.Configuration.Load
import ReleaseSync.Configuration.Read
import ReleaseSync.Configuration.Shape
import ReleaseSync.Disk
import ReleaseSync.Double
import ReleaseSync.Failure
import ReleaseSync.FileTree
import ReleaseSync.Host
import ReleaseSync.Json.Cursor
import ReleaseSync.Json.Member
import ReleaseSync.Json.Number
import ReleaseSync.Json.Parser
import ReleaseSync.Json.Printer
import ReleaseSync.Json.Text
import ReleaseSync.Json.Value
import ReleaseSync.Main
import ReleaseSync.Outcome
import ReleaseSync.Path
import ReleaseSync.Pattern.Basic
import ReleaseSync.Pattern.Bracket
import ReleaseSync.Pattern.Class
import ReleaseSync.Pattern.Footprint
import ReleaseSync.Pattern.Literal
import ReleaseSync.Pattern.Mode
import ReleaseSync.Pattern.Named
import ReleaseSync.Pattern.Read
import ReleaseSync.Pattern.Scan
import ReleaseSync.Pattern.Search
import ReleaseSync.Program
import ReleaseSync.Project
import ReleaseSync.Store
import ReleaseSync.Style
import ReleaseSync.Substitution
import ReleaseSync.Synchronizer
import ReleaseSync.Task
import ReleaseSync.Text.Blank
import ReleaseSync.Text.Replace
import ReleaseSync.Text.Shown
import ReleaseSync.Toml.Data
import ReleaseSync.Toml.Document
import ReleaseSync.Toml.Field
import ReleaseSync.Toml.Layout
import ReleaseSync.Toml.Moment
import ReleaseSync.Toml.Node
import ReleaseSync.Toml.Placement
import ReleaseSync.Toml.Printer
import ReleaseSync.Toml.Quoted
import ReleaseSync.Toml.Reader
import ReleaseSync.Toml.Scalar
import ReleaseSync.Unicode.Case
import ReleaseSync.Unicode.Category
import ReleaseSync.Unicode.Listed
import ReleaseSync.Unicode.Property
import ReleaseSync.Unicode.Ranges
import ReleaseSync.Unicode.Script
import ReleaseSync.Version
import ReleaseSync.Workflow
import ReleaseSync.Proofs.Pattern.Attempt
import ReleaseSync.Proofs.Pattern.Hits
import ReleaseSync.Proofs.Pattern.Leftmost
import ReleaseSync.Proofs.Pattern.Many
import ReleaseSync.Proofs.Pattern.Reading
import ReleaseSync.Proofs.Absorb
import ReleaseSync.Proofs.BuiltIn
import ReleaseSync.Proofs.Bump
import ReleaseSync.Proofs.DiskBelow
import ReleaseSync.Proofs.Listener
import ReleaseSync.Proofs.Mirror
import ReleaseSync.Proofs.Rejection
import ReleaseSync.Proofs.Stop
import ReleaseSync.Proofs.Account
import ReleaseSync.Proofs.ArtifactPath
import ReleaseSync.Proofs.Alone
import ReleaseSync.Proofs.Marker
import ReleaseSync.Proofs.Arrival
import ReleaseSync.Proofs.Growth
import ReleaseSync.Proofs.Agree
import ReleaseSync.Proofs.Look
import ReleaseSync.Proofs.Machine
import ReleaseSync.Proofs.Confined
import ReleaseSync.Proofs.Compile
import ReleaseSync.Proofs.Json.Field
import ReleaseSync.Proofs.Gates
import ReleaseSync.Proofs.Order
import ReleaseSync.Proofs.Within
import ReleaseSync.Proofs.Alongside
import ReleaseSync.Proofs.Copies
import ReleaseSync.Proofs.Again
import ReleaseSync.Proofs.Toml.Edit
import ReleaseSync.Proofs.Toml.Gap
import ReleaseSync.Proofs.Toml.Quoted
import ReleaseSync.Proofs.Toml.Printed
import ReleaseSync.Proofs.Toml.Form
import ReleaseSync.Proofs.Toml.Word
import ReleaseSync.Proofs.Toml.Write
import ReleaseSync.Proofs.Toml.Sound
import ReleaseSync.Proofs.Toml.Legible
import ReleaseSync.Proofs.Toml.Fill
import ReleaseSync.Proofs.Toml.Reread
import ReleaseSync.Proofs.Toml.Set
import ReleaseSync.Proofs.Toml.Order
import ReleaseSync.Proofs.Toml.Numbered
import ReleaseSync.Proofs.Toml.Ending
import ReleaseSync.Proofs.Toml.Sections
import ReleaseSync.Proofs.Toml.Located
import ReleaseSync.Proofs.Toml.Grown
import ReleaseSync.Proofs.Toml.Growing
import ReleaseSync.Proofs.Toml.Rewritten
import ReleaseSync.Proofs.Toml.Renumbered
import ReleaseSync.Proofs.Toml.Mirrored
import ReleaseSync.Proofs.Toml.Rereading
import ReleaseSync.Proofs.Toml.Reprinted
import ReleaseSync.Proofs.Toml.Lookup
import ReleaseSync.Proofs.Toml.Output
import ReleaseSync.Proofs.Toml.Assigned
import ReleaseSync.Proofs.Commute
import ReleaseSync.Proofs.Replacement
import ReleaseSync.Proofs.Refresh
import ReleaseSync.Proofs.Reference
import ReleaseSync.Proofs.ProjectPath
import ReleaseSync.Proofs.Shape
import ReleaseSync.Proofs.Acceptance
import ReleaseSync.Proofs.Saved
import ReleaseSync.Proofs.Canonical
import ReleaseSync.Proofs.LineEnd
