import JvmGenerics.ClassFile.Decode
import JvmGenerics.Classpath.Basic
import JvmGenerics.Text.Path

/-!
# Directories of class files

A directory classpath is a list of roots. The file of a class stands below a
root where its internal name says, and the first root that has such a file
decides, even if the file cannot be read, is no class file or holds another class.
-/

namespace JvmGenerics

/-- The regular files by path. A file that is there may still not be readable, for
some reason. Many paths may lead to one file, but there are finitely many contents. -/
structure FileSystem where
  file? : String → Option (Except String (List UInt8))
  contents : List (List UInt8)
  mem_contents : ∀ {path bytes}, file? path = some (.ok bytes) → bytes ∈ contents

namespace FileSystem

/-- Readable files in a table by their paths, where the first entry for a path counts. -/
def ofTable (table : List (String × List UInt8)) : FileSystem where
  file? path := (table.lookup path).map .ok
  contents := table.map Prod.snd
  mem_contents present := by
    rw [Option.map_eq_some_iff] at present
    obtain ⟨bytes, entry, same⟩ := present
    obtain ⟨before, after, rfl, -⟩ := List.lookup_eq_some_iff.mp entry
    cases same
    simp

end FileSystem

namespace Classpath

/-- Read a file, which was opened or could not be, as the class of a given name. -/
def readFile (path name : String) :
    Except String (List UInt8) → Except ClasspathError ClassInfo
  | .error reason => .error (.unreadable path reason)
  | .ok bytes =>
    match ClassFile.decode bytes with
    | .error error => .error (.invalidClassFile path error)
    | .ok file =>
      let info := ClassInfo.ofClassFile file
      if info.name = name then .ok info else .error (.nameMismatch path name info.name)

/-- The name of the class in a file, if the bytes are those of a class file. -/
def className? (bytes : List UInt8) : Option String :=
  match ClassFile.decode bytes with
  | .error _ => none
  | .ok file => some (ClassInfo.ofClassFile file).name

/-- Whether an internal name leads to a place below a root: all its parts between
slashes are plain components. -/
def isBelowRoot (internalName : String) : Bool :=
  (internalName.toList.splitOn '/').all Path.isPlain

/-- Read a class from the first of some roots that has a file at a given place below it. -/
def readFirst (system : FileSystem) (relative name : String) :
    List String → Except ClasspathError (Option ClassInfo)
  | [] => .ok none
  | root :: rest =>
    let path := Path.join root relative
    match system.file? path with
    | none => readFirst system relative name rest
    | some content => (readFile path name content).map some

/-- Read a class from the first root that has a file for it. -/
def readClass (system : FileSystem) (roots : List String) (name : String) :
    Except ClasspathError (Option ClassInfo) :=
  let internalName := internalOfBinary name
  if isBelowRoot internalName then
    readFirst system (internalName ++ ".class") name roots
  else .error (.invalidName name)

/-- A class that is found in a file is the class that the file declares, and has the name
that was asked for. -/
theorem exists_decode_of_readFile {path name : String} {content : Except String (List UInt8)}
    {info : ClassInfo} (found : readFile path name content = .ok info) :
    ∃ bytes file, content = .ok bytes ∧ ClassFile.decode bytes = .ok file ∧
      ClassInfo.ofClassFile file = info ∧ info.name = name := by
  cases content with
  | error reason => cases found
  | ok bytes =>
    rw [readFile] at found
    split at found
    · cases found
    · next file decoded =>
      dsimp only at found
      split at found
      · next same =>
        cases found
        exact ⟨bytes, file, rfl, decoded, rfl, same⟩
      · cases found

/-- A class that is found is in a readable file of one of the roots. -/
theorem exists_file_of_readFirst {system : FileSystem} {relative name : String}
    {roots : List String} {info : ClassInfo}
    (found : readFirst system relative name roots = .ok (some info)) :
    ∃ root ∈ roots, ∃ bytes file, system.file? (Path.join root relative) = some (.ok bytes) ∧
      ClassFile.decode bytes = .ok file ∧ ClassInfo.ofClassFile file = info ∧
        info.name = name := by
  induction roots with
  | nil => cases found
  | cons root rest ih =>
    rw [readFirst] at found
    split at found
    · obtain ⟨other, member, further⟩ := ih found
      exact ⟨other, List.mem_cons_of_mem root member, further⟩
    · next content present =>
      cases read : readFile (Path.join root relative) name content with
      | error error =>
        rw [read] at found
        cases found
      | ok other =>
        rw [read] at found
        cases found
        obtain ⟨bytes, file, rfl, further⟩ := exists_decode_of_readFile read
        exact ⟨root, List.mem_cons_self, bytes, file, present, further⟩

/-- The classes below some roots. What is found is the class of some file. -/
def ofDirectories (system : FileSystem) (roots : List String) : Classpath where
  read := readClass system roots
  names := system.contents.filterMap className?
  mem_names found := by
    rw [readClass] at found
    split at found
    · obtain ⟨root, -, bytes, file, present, decoded, rfl, same⟩ := exists_file_of_readFirst found
      refine List.mem_filterMap.mpr ⟨bytes, system.mem_contents present, ?_⟩
      rw [className?, decoded]
      exact congrArg some same
    · cases found

end Classpath

end JvmGenerics
