/-!
# Paths

A path is a text. Slashes divide it into components; a slash at its start
names the root. Slashes that repeat or stand at the end say nothing, nor
does a single point, except that a path that starts with one keeps it: `./a`
and `a` are different paths. Two paths are the same when their components
are.

Two points stay a component of their own. What they lead to depends on the
links on the way, so a path cannot be made shorter by dropping the name
before them, and whether a path leaves a directory cannot be told by looking
at its text – except that a path without them, and without a slash at its
start, does not leave it by itself.

There is no test here of whether a path exists: paths are compared, joined
and taken apart as texts, and only a file tree says where one leads.
-/

namespace ReleaseSync

/-- One step of a path. -/
inductive Component where
  /-- the root, which only a path that starts with a slash has -/
  | root
  /-- a point at the start of a path -/
  | here
  /-- two points -/
  | parent
  /-- the name of an entry in a directory -/
  | name (n : List Char)
deriving DecidableEq, Repr

/-- How a component is written. The root is written as nothing, since the
slash behind it is that between components. -/
def Component.text : Component → List Char
  | root => []
  | here => ['.']
  | parent => ['.', '.']
  | name n => n

namespace Path

/-- The component a segment after the first one stands for. An empty segment
stands for none, and neither does a single point. -/
def component? (segment : List Char) : Option Component :=
  if segment = [] || segment = ['.'] then none
  else if segment = ['.', '.'] then some .parent
  else some (.name segment)

/-- The components of a path. Only the first segment can be the root, if it
is empty and something is cut off behind it, or a point that is kept. -/
def components (path : String) : List Component :=
  match path.toList.splitOn '/' with
  | [] => []
  | first :: segments =>
    let rest := segments.filterMap component?
    if first = ['.'] then .here :: rest
    else if first = [] && !segments.isEmpty then .root :: rest
    else (component? first).toList ++ rest

/-- Whether two texts name the same path: a store keeps one file for all of
them. -/
def same (a b : String) : Bool := components a = components b

/-- Whether a path is below another, or is it. Whole components are
compared, so `/etcetera` is not below `/etc`. -/
def startsWith (path base : String) : Bool := (components base).isPrefixOf (components path)

/-- A path taken from a directory; an absolute path stays as it is. No slash
is put where there is one already. -/
def join (base path : String) : String :=
  if path.startsWith "/" then path
  else if base.isEmpty || base.endsWith "/" then base ++ path
  else base ++ "/" ++ path

/-- The text of components, with single slashes between them. -/
def ofComponents : List Component → List Char
  | [] => []
  | .root :: rest => '/' :: ['/'].intercalate (rest.map Component.text)
  | cs => ['/'].intercalate (cs.map Component.text)

/-- The path of the directory a path stands in; the root and the empty path
stand in none. -/
def parent? (path : String) : Option String :=
  match (components path).reverse with
  | [] | .root :: _ => none
  | _ :: rest => some (String.ofList (ofComponents rest.reverse))

/-- The path of that directory as it is written in the path, with all that
says nothing in it but at its end. It may be longer than the path of its
components, and the length of a path is counted as it is written. -/
def textAbove (path : String) : List Char :=
  let isSilent := fun name : List Char => name = [] || name = ['.']
  let names := (path.toList.splitOn '/').reverse.dropWhile isSilent
  ['/'].intercalate ((names.drop 1).dropWhile isSilent).reverse

/-- The name a path ends in, if it ends in one, and not in the root or in
points. -/
def fileName? (path : String) : Option (List Char) :=
  match (components path).getLast? with
  | some (.name n) => some n
  | _ => none

end Path

end ReleaseSync
