/-!
# Paths of files

A path is a text whose components stand between slashes. Components that are
empty or a single point name nothing of their own, except that a point may be
the first component of a relative path.
-/

namespace JvmGenerics.Path

def isAbsolute (path : String) : Bool :=
  path.toList.head? == some '/'

/-- A path below a base. An absolute path stays as it is; a separator is put in
unless the base is empty or ends with one. -/
def join (base path : String) : String :=
  if isAbsolute path then path
  else match base.toList.getLast? with
    | none => path
    | some last => if last = '/' then base ++ path else base ++ "/" ++ path

/-- Whether a component inside a path names nothing of its own. -/
def isIdle (component : List Char) : Bool :=
  component = [] || component = ['.']

/-- Whether a component leads from a directory to an entry of it, and not nowhere or to the
directory above. -/
def isPlain (component : List Char) : Bool :=
  !isIdle component && component ≠ ['.', '.']

/-- The characters in front of all components that may be idle: the slash of an
absolute path, or the point that begins a relative one. -/
def split : List Char → List Char × List Char
  | '/' :: rest => (['/'], rest)
  | ['.'] => (['.'], [])
  | '.' :: '/' :: rest => (['.'], '/' :: rest)
  | path => ([], path)

/-- The path without its last component, if it has one. -/
def parent? (path : String) : Option String :=
  let (lead, body) := split path.toList
  match (body.splitOn '/').reverse.dropWhile isIdle with
  | _ :: above =>
    some (String.ofList (lead ++ ['/'].intercalate (above.dropWhile isIdle).reverse))
  | [] => if lead = ['.'] then some "" else none

end JvmGenerics.Path
