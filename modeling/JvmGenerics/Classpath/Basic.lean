import JvmGenerics.ClassFile.Decoder
import JvmGenerics.ClassInfo

/-!
# Classpaths

A classpath finds classes by name. A name that it does not know and a class that
it cannot read are two different answers, but neither yields a class.
-/

namespace JvmGenerics

/-- The reasons why a class cannot be read. -/
inductive ClasspathError
  | invalidName (name : String)
  | unreadable (path reason : String)
  | invalidClassFile (path : String) (error : ClassFile.DecodeError)
  | nameMismatch (path expected found : String)
deriving DecidableEq

def ClasspathError.message : ClasspathError → String
  | invalidName name => "`" ++ name ++ "` does not name a class file below a classpath root"
  | unreadable path reason => "failed to read " ++ path ++ ": " ++ reason
  | invalidClassFile path error => "invalid class file " ++ path ++ ": " ++ error.message
  | nameMismatch path expected found =>
    path ++ " declares `" ++ found ++ "`, expected `" ++ expected ++ "`"

/-- A classpath always answers the same for the same name, and it finds classes
for finitely many names only, all of which are in `names`.

The bound is part of a classpath, so whatever is proved of an import is proved of
imports from such classpaths. It is what makes an import end: a class that is
loaded may ask for further ones, and a classpath that made up a class for every
name could go on with that forever. Every directory and every table has one. -/
structure Classpath where
  read : String → Except ClasspathError (Option ClassInfo)
  names : List String
  mem_names : ∀ {name info}, read name = .ok (some info) → name ∈ names

namespace Classpath

/-- The class found for a name, where an unreadable class counts as missing. -/
def load (classpath : Classpath) (name : String) : Option ClassInfo :=
  match classpath.read name with
  | .ok found => found
  | .error _ => none

/-- A classpath that answers from a table. The first entry for a name counts, and
an entry may hold a class of another name than the one it is found under. -/
def ofTable (table : List (String × ClassInfo)) : Classpath where
  read name := .ok (table.lookup name)
  names := table.map Prod.fst
  mem_names found := by
    simp only [Except.ok.injEq] at found
    induction table with
    | nil => simp at found
    | cons entry rest ih =>
      rw [List.lookup_cons] at found
      split at found
      · simp_all
      · simp [ih found]

/-- A table of classes under their own names, where the last class of a name counts. -/
def tableOf (classes : List ClassInfo) : List (String × ClassInfo) :=
  (classes.map fun info => (info.name, info)).reverse

def ofClasses (classes : List ClassInfo) : Classpath :=
  ofTable (tableOf classes)

def empty : Classpath :=
  ofTable []

end Classpath

end JvmGenerics
