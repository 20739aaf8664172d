import ReleaseSync.Workflow

/-!
# The command line

The command line has one argument, the version, and options before and after
it. An option with a value takes it from the same word or from the next one,
unless that looks like an option. After a word of two dashes everything is
an argument. Words are looked at one by one, and the first that cannot be
understood decides; an option that waits for its value is settled when the
next word has been understood.

The reader keeps what has been understood so far, with at most one option
that waits. Options of one letter may stand together behind one dash, and
the first of them that takes a value takes the rest of the word. An option
that is given twice is a conflict; so the order of the words matters for
which mistake is told, and otherwise not.
-/

namespace ReleaseSync.CommandLine

/-- Why a command line asks for no run: a mistake in it, or a question about
the program. -/
inductive Stop where
  | missingRequiredArgument
  | unknownArgument
  | argumentConflict
  | invalidValue
  | tooManyValues
  | displayHelp
  | displayVersion
deriving DecidableEq, Repr

namespace Stop

/-- The name of the reason. -/
def name : Stop → String
  | missingRequiredArgument => "MissingRequiredArgument"
  | unknownArgument => "UnknownArgument"
  | argumentConflict => "ArgumentConflict"
  | invalidValue => "InvalidValue"
  | tooManyValues => "TooManyValues"
  | displayHelp => "DisplayHelp"
  | displayVersion => "DisplayVersion"

/-- The exit status: asking for help or for the version is no mistake. -/
def status : Stop → Nat
  | displayHelp => 0
  | displayVersion => 0
  | _ => 2

end Stop

/-- The options, with a letter and a long name each. -/
inductive Flag where
  | path
  | config
  | verbose
  | help
  | version
deriving DecidableEq, Repr

namespace Flag

/-- Whether an option has a value. The others are switches. -/
def takesValue : Flag → Bool
  | path => true
  | config => true
  | _ => false

/-- The option of a letter, in which upper and lower case are different. -/
def ofLetter? : Char → Option Flag
  | 'p' => some path
  | 'c' => some config
  | 'v' => some verbose
  | 'h' => some help
  | 'V' => some version
  | _ => none

/-- The option of a long name, which must be written in full. -/
def ofName? (name : List Char) : Option Flag :=
  [("path", path), ("config", config), ("verbose", verbose), ("help", help),
    ("version", version)].findSome? fun (n, f) => if n.toList = name then some f else none

end Flag

/-- What has been understood so far. -/
structure Parsed where
  /-- the argument -/
  version : Option String
  /-- the project directory, if it was named -/
  path : Option String
  /-- the configuration file, if it was named -/
  config : Option String
  /-- whether details were asked for -/
  verbose : Bool
  /-- an option that is not settled yet, and its value once it is known -/
  pending : Option (Flag × Option String)
deriving DecidableEq, Repr

namespace Parsed

/-- Nothing has been understood yet. -/
def empty : Parsed := ⟨none, none, none, false, none⟩

/-- An option that has been given its value, once. A second value is a
conflict. -/
def assign (p : Parsed) (f : Flag) (value : String) : Except Stop Parsed :=
  match f with
  | .path => if p.path.isSome then .error .argumentConflict else .ok { p with path := value }
  | .config =>
    if p.config.isSome then .error .argumentConflict else .ok { p with config := value }
  | _ => .ok p

/-- The option that waits is settled: it gets its value, and without one the
command line is wrong. -/
def settle (p : Parsed) : Except Stop Parsed :=
  match p.pending with
  | none => .ok p
  | some (_, none) => .error .invalidValue
  | some (f, some value) => assign { p with pending := none } f value

/-- An option without value. Help and version end the reading at once. -/
def switch (p : Parsed) (f : Flag) : Except Stop Parsed := do
  let p ← p.settle
  match f with
  | .help => .error .displayHelp
  | .version => .error .displayVersion
  | .verbose => if p.verbose then .error .argumentConflict else .ok { p with verbose := true }
  | _ => .ok p

/-- An option with its value in the same word. -/
def attach (p : Parsed) (f : Flag) (value : List Char) : Except Stop Parsed := do
  (← p.settle).assign f (String.ofList value)

/-- An option whose value is the next word. -/
def await (p : Parsed) (f : Flag) : Except Stop Parsed := do
  let p ← p.settle
  .ok { p with pending := some (f, none) }

/-- An argument. -/
def argument (p : Parsed) (word : String) : Except Stop Parsed :=
  match p.version with
  | some _ => .error .unknownArgument
  | none => do
    let p ← p.settle
    .ok { p with version := some word }

/-- A word that is no option: the value of the option that waits for one, or
an argument. -/
def plain (p : Parsed) (word : String) : Except Stop Parsed :=
  match p.pending with
  | some (f, none) => .ok { p with pending := some (f, some word) }
  | _ => p.argument word

/-- A word of one dash and letters. The first letter that takes a value
takes what is behind it, with or without an equals sign. -/
def letters (p : Parsed) : List Char → Except Stop Parsed
  | [] => .ok p
  | c :: rest =>
    match Flag.ofLetter? c with
    | none => .error .unknownArgument
    | some f =>
      if f.takesValue then
        match rest with
        | [] => p.await f
        | '=' :: value => p.attach f value
        | value => p.attach f value
      else do letters (← p.switch f) rest

/-- A word of two dashes and a name, with perhaps a value after an equals
sign. -/
def long (p : Parsed) (word : List Char) : Except Stop Parsed :=
  match Flag.ofName? (word.takeWhile (· != '=')), word.dropWhile (· != '=') with
  | none, _ => .error .unknownArgument
  | some f, [] => if f.takesValue then p.await f else p.switch f
  | some f, _ :: value => if f.takesValue then p.attach f value else .error .tooManyValues

/-- One more word before a word of two dashes. -/
def word (p : Parsed) (w : String) : Except Stop Parsed :=
  match w.toList with
  | '-' :: '-' :: name => p.long name
  | '-' :: c :: rest => p.letters (c :: rest)
  | _ => p.plain w

/-- All words, up to the last. Behind two dashes each word is an argument. -/
def words (p : Parsed) : List String → Except Stop Parsed
  | [] => .ok p
  | w :: rest =>
    if w = "--" then rest.foldlM argument p
    else do words (← p.word w) rest

/-- What was asked for, once every word has been understood. Without a path
the project is the working directory. -/
def request (p : Parsed) : Except Stop Request := do
  let p ← p.settle
  match p.version with
  | none => .error .missingRequiredArgument
  | some version => .ok ⟨version, p.path.getD ".", p.config, p.verbose⟩

end Parsed

/-- **What a command line asks for**, or why it asks for no run: the first
word that cannot be understood decides. -/
def parse (args : List String) : Except Stop Request := do
  (← Parsed.empty.words args).request

end ReleaseSync.CommandLine
