import ReleaseSync.Json.Parser
import ReleaseSync.Json.Printer

/-!
# Setting a member of a JSON document

A document is an object. Setting one of its members to a string reads the
document, gives the member its new value at its old place or behind the
others, and prints the whole in the indented layout.

So the layout of the document is not kept, but its data are, with the order
of members and the digits of numbers. A key with points in it is one key: no
member of a member can be set.
-/

namespace ReleaseSync.Json

/-- Why a text is not a JSON document. -/
inductive DocumentFault where
  /-- it is not JSON -/
  | syntaxFault (f : Fault)
  /-- it is JSON, but no object -/
  | notAnObject
deriving DecidableEq, Repr

/-- The words for it. -/
def DocumentFault.message : DocumentFault → String
  | syntaxFault f => "invalid JSON: " ++ f.message
  | notAnObject => "top-level value is not an object"

/-- The members of a document. -/
def parseDocument (content : String) : Except DocumentFault Members :=
  match Value.parse content.toList with
  | .error f => .error (.syntaxFault f)
  | .ok (.object members) => .ok members
  | .ok _ => .error .notAnObject

/-- The old value of a member and the document with the new one. The old
value may be of any kind. -/
def setField (content field value : String) : Except DocumentFault (Option Value × String) :=
  match parseDocument content with
  | .error f => .error f
  | .ok members =>
    .ok (members.get? field, (Value.object (members.set field (.string value))).toDocument)

end ReleaseSync.Json
