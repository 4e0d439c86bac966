import JvmGenerics.Classpath.Directory
import Mathlib.Data.List.Basic

/-!
# Looking classes up in directories

Names come from descriptors and class files, and any text may be one. Whatever the name, only
one file of each root is looked at, which stands below the root in directories that are called
as the parts of the name are; and what is found there is the class of that name or nothing.
-/

namespace JvmGenerics

/-- The parts of a name between points and slashes. -/
def nameSegments (name : String) : List (List Char) :=
  name.toList.splitOnP fun c => c == '.' || c == '/'

/-- A directory with a separator behind it, unless it is empty or ends with one. -/
def Path.withSeparator (base : String) : String :=
  match base.toList.getLast? with
  | none => base
  | some last => if last = '/' then base else base ++ "/"

/-- The class file below a root that given segments lead to. -/
def classFilePath (root : String) (segments : List (List Char)) : String :=
  Path.withSeparator root ++ ("/".intercalate (segments.map String.ofList) ++ ".class")

section Splitting

variable {α : Type} {cuts : α → Bool}

/-- Entries may be changed before a list is split if only separators are changed, and only to
the separator. -/
theorem splitOn_map [BEq α] {separator : α} {change : α → α}
    (agree : ∀ entry, (change entry == separator) = cuts entry)
    (keep : ∀ entry, cuts entry = false → change entry = entry) (list : List α) :
    (list.map change).splitOn separator = list.splitOnP cuts := by
  induction list with
  | nil => rfl
  | cons entry rest ih =>
    rw [List.map_cons, List.splitOn_cons_eq_if_modifyHead, List.splitOnP_cons_eq_if_modifyHead,
      ih, agree]
    cases cut : cuts entry with
    | true => rfl
    | false => rw [keep entry cut]

/-- No separator is left in what a list is split into. -/
theorem cuts_eq_false_of_mem_splitOnP {list segment : List α}
    (member : segment ∈ list.splitOnP cuts) : ∀ entry ∈ segment, cuts entry = false := by
  induction list generalizing segment with
  | nil =>
    rw [List.splitOnP_nil, List.mem_singleton] at member
    simp [member]
  | cons first rest ih =>
    rw [List.splitOnP_cons_eq_if_modifyHead] at member
    cases cut : cuts first with
    | true =>
      rw [cut, if_pos rfl, List.mem_cons] at member
      rcases member with rfl | later
      · exact List.forall_mem_nil _
      · exact ih later
    | false =>
      obtain ⟨head, tail, split⟩ := List.exists_cons_of_ne_nil (List.splitOnP_ne_nil cuts rest)
      rw [cut, if_neg Bool.false_ne_true, split, List.modifyHead_cons, List.mem_cons] at member
      rw [split] at ih
      rcases member with rfl | later
      · exact List.forall_mem_cons.mpr ⟨cut, ih List.mem_cons_self⟩
      · exact ih (List.mem_cons_of_mem head later)

end Splitting

theorem notMem_of_mem_nameSegments {name : String} {segment : List Char}
    (member : segment ∈ nameSegments name) : '.' ∉ segment ∧ '/' ∉ segment := by
  have plain := cuts_eq_false_of_mem_splitOnP member
  exact ⟨fun point => absurd (plain _ point) (by decide),
    fun slash => absurd (plain _ slash) (by decide)⟩

theorem ne_points_of_mem_nameSegments {name : String} {segment : List Char}
    (member : segment ∈ nameSegments name) : segment ≠ ['.'] ∧ segment ≠ ['.', '.'] := by
  have noPoint := (notMem_of_mem_nameSegments member).1
  constructor
  · rintro rfl
    exact noPoint List.mem_cons_self
  · rintro rfl
    exact noPoint List.mem_cons_self

/-- The internal name has the segments of the binary name. -/
theorem splitOn_internalOfBinary (name : String) :
    (internalOfBinary name).toList.splitOn '/' = nameSegments name := by
  rw [internalOfBinary, String.toList_ofList]
  refine splitOn_map (fun c => ?_) (fun c kept => ?_) name.toList
  · by_cases point : c = '.'
    · subst point
      rfl
    · simp [point]
  · rw [if_neg]
    rintro rfl
    cases kept

theorem internalOfBinary_eq_intercalate (name : String) :
    internalOfBinary name = "/".intercalate ((nameSegments name).map String.ofList) := by
  rw [← String.toList_inj, String.toList_intercalate, ← splitOn_internalOfBinary]
  simp [Function.comp_def, List.intercalate_splitOn]

theorem isPlain_iff_of_mem {name : String} {segment : List Char}
    (member : segment ∈ nameSegments name) : Path.isPlain segment = true ↔ segment ≠ [] := by
  have notPoints := ne_points_of_mem_nameSegments member
  simp [Path.isPlain, Path.isIdle, notPoints.1, notPoints.2]

namespace Classpath

theorem isBelowRoot_iff (name : String) :
    isBelowRoot (internalOfBinary name) = true ↔ [] ∉ nameSegments name := by
  rw [isBelowRoot, splitOn_internalOfBinary, List.all_eq_true]
  constructor
  · intro plain empty
    exact (isPlain_iff_of_mem empty).mp (plain [] empty) rfl
  · intro noEmpty segment member
    refine (isPlain_iff_of_mem member).mpr ?_
    rintro rfl
    exact noEmpty member

/-- An internal name that starts with a slash has an empty segment. -/
theorem isAbsolute_eq_false {name : String} (noEmpty : [] ∉ nameSegments name) :
    Path.isAbsolute (internalOfBinary name ++ ".class") = false := by
  rw [← splitOn_internalOfBinary] at noEmpty
  rw [Path.isAbsolute, String.toList_append]
  cases characters : (internalOfBinary name).toList with
  | nil => rfl
  | cons first rest =>
    rw [characters, List.splitOn_cons_eq_if_modifyHead] at noEmpty
    by_cases slash : first = '/'
    · simp [slash] at noEmpty
    · simp [slash]

end Classpath

theorem Path.join_eq_withSeparator {path : String} (relative : isAbsolute path = false)
    (base : String) : join base path = withSeparator base ++ path := by
  rw [join, relative, withSeparator]
  cases ending : base.toList.getLast? with
  | none =>
    have empty : base = "" := by simpa using ending
    simp [empty]
  | some last =>
    by_cases slash : last = '/' <;> simp [slash]

theorem join_eq_classFilePath {name : String} (noEmpty : [] ∉ nameSegments name) (root : String) :
    Path.join root (internalOfBinary name ++ ".class") =
      classFilePath root (nameSegments name) := by
  rw [Path.join_eq_withSeparator (Classpath.isAbsolute_eq_false noEmpty), classFilePath,
    internalOfBinary_eq_intercalate]

namespace Classpath

variable {system : FileSystem} {relative name : String}

theorem readFirst_congr {other : FileSystem} {roots : List String}
    (agree : ∀ root ∈ roots,
      other.file? (Path.join root relative) = system.file? (Path.join root relative)) :
    readFirst other relative name roots = readFirst system relative name roots := by
  induction roots with
  | nil => rfl
  | cons root rest ih =>
    rw [List.forall_mem_cons] at agree
    rw [readFirst, readFirst, agree.1, ih agree.2]

/-- Roots without the file are passed over. -/
theorem readFirst_append_of_missing {before : List String}
    (missing : ∀ root ∈ before, system.file? (Path.join root relative) = none)
    (after : List String) :
    readFirst system relative name (before ++ after) = readFirst system relative name after := by
  induction before with
  | nil => rfl
  | cons root rest ih =>
    rw [List.forall_mem_cons] at missing
    rw [List.cons_append, readFirst, missing.1, ih missing.2]

/-- A root with the file decides, whatever the roots after it have. -/
theorem readFirst_cons_of_present {root : String} {content : Except String (List UInt8)}
    (present : system.file? (Path.join root relative) = some content) (after : List String) :
    readFirst system relative name (root :: after) =
      (readFile (Path.join root relative) name content).map some := by
  rw [readFirst, present]

theorem readFirst_eq_none_iff {roots : List String} :
    readFirst system relative name roots = .ok none ↔
      ∀ root ∈ roots, system.file? (Path.join root relative) = none := by
  induction roots with
  | nil => simp [readFirst]
  | cons root rest ih =>
    rw [List.forall_mem_cons]
    cases present : system.file? (Path.join root relative) with
    | none =>
      rw [readFirst, present, ih]
      simp
    | some content =>
      rw [readFirst_cons_of_present present]
      cases readFile (Path.join root relative) name content <;> simp [Except.map]

theorem readFile_ne_invalidName (path name : String) (content : Except String (List UInt8))
    (invalid : String) : readFile path name content ≠ .error (.invalidName invalid) := by
  cases content with
  | error reason => simp [readFile]
  | ok bytes =>
    rw [readFile]
    split
    · simp
    · dsimp only
      split <;> simp

theorem readFirst_ne_invalidName (roots : List String) (invalid : String) :
    readFirst system relative name roots ≠ .error (.invalidName invalid) := by
  induction roots with
  | nil => simp [readFirst]
  | cons root rest ih =>
    cases present : system.file? (Path.join root relative) with
    | none => rwa [readFirst, present]
    | some content =>
      rw [readFirst_cons_of_present present]
      have other := readFile_ne_invalidName (Path.join root relative) name content invalid
      cases read : readFile (Path.join root relative) name content with
      | ok info => simp [Except.map]
      | error error => simpa [read, Except.map] using other

theorem readClass_of_valid (system : FileSystem) (roots : List String) {name : String}
    (noEmpty : [] ∉ nameSegments name) : readClass system roots name =
      readFirst system (internalOfBinary name ++ ".class") name roots := by
  rw [readClass, if_pos ((isBelowRoot_iff name).mpr noEmpty)]

theorem readClass_of_invalid (system : FileSystem) (roots : List String) {name : String}
    (empty : [] ∈ nameSegments name) :
    readClass system roots name = .error (.invalidName name) := by
  rw [readClass, if_neg fun below => (isBelowRoot_iff name).mp below empty]

theorem readClass_eq_invalidName_iff {roots : List String} {name invalid : String} :
    readClass system roots name = .error (.invalidName invalid) ↔
      [] ∈ nameSegments name ∧ invalid = name := by
  by_cases empty : [] ∈ nameSegments name
  · rw [readClass_of_invalid system roots empty, and_iff_right empty]
    simp [eq_comm]
  · rw [readClass_of_valid system roots empty]
    exact iff_of_false (readFirst_ne_invalidName roots invalid) fun both => empty both.1

section Valid

variable {roots : List String} (valid : [] ∉ nameSegments name)
include valid

theorem readClass_congr {other : FileSystem}
    (agree : ∀ root ∈ roots, other.file? (classFilePath root (nameSegments name)) =
      system.file? (classFilePath root (nameSegments name))) :
    readClass other roots name = readClass system roots name := by
  rw [readClass_of_valid other roots valid, readClass_of_valid system roots valid]
  refine readFirst_congr fun root member => ?_
  rw [join_eq_classFilePath valid]
  exact agree root member

theorem readClass_eq_none_iff : readClass system roots name = .ok none ↔
    ∀ root ∈ roots, system.file? (classFilePath root (nameSegments name)) = none := by
  rw [readClass_of_valid system roots valid, readFirst_eq_none_iff]
  simp only [join_eq_classFilePath valid]

/-- The first root with the file decides. -/
theorem readClass_of_first {before : List String} {root : String} (after : List String)
    {content : Except String (List UInt8)}
    (missing : ∀ earlier ∈ before,
      system.file? (classFilePath earlier (nameSegments name)) = none)
    (present : system.file? (classFilePath root (nameSegments name)) = some content) :
    readClass system (before ++ root :: after) name =
      (readFile (classFilePath root (nameSegments name)) name content).map some := by
  simp only [← join_eq_classFilePath valid] at missing present ⊢
  rw [readClass_of_valid system _ valid, readFirst_append_of_missing missing,
    readFirst_cons_of_present present]

end Valid

theorem exists_file_of_readClass {roots : List String} {info : ClassInfo}
    (found : readClass system roots name = .ok (some info)) :
    ∃ root ∈ roots, ∃ bytes file,
      system.file? (classFilePath root (nameSegments name)) = some (.ok bytes) ∧
        ClassFile.decode bytes = .ok file ∧ ClassInfo.ofClassFile file = info ∧
          info.name = name := by
  have valid : [] ∉ nameSegments name := fun empty => by
    rw [readClass_of_invalid system roots empty] at found
    cases found
  rw [readClass_of_valid system roots valid] at found
  simpa only [join_eq_classFilePath valid] using exists_file_of_readFirst found

end Classpath

theorem notMem_binaryOfInternal (internalName : String) :
    '/' ∉ (binaryOfInternal internalName).toList := by
  rw [binaryOfInternal, String.toList_ofList, List.mem_map]
  rintro ⟨c, -, slash⟩
  split at slash
  · cases slash
  · contradiction

namespace Classpath

variable {system : FileSystem} {name : String}

theorem load_eq_some_iff {classpath : Classpath} {info : ClassInfo} :
    classpath.load name = some info ↔ classpath.read name = .ok (some info) := by
  rw [load]
  cases classpath.read name with
  | error error => simp
  | ok found => simp

theorem read_ofDirectories (system : FileSystem) (roots : List String) :
    (ofDirectories system roots).read = readClass system roots := by
  rw [ofDirectories]

theorem load_ofDirectories_eq_some_iff {roots : List String} {info : ClassInfo} :
    (ofDirectories system roots).load name = some info ↔
      readClass system roots name = .ok (some info) := by
  rw [load_eq_some_iff, read_ofDirectories]

/-- The name of a class in a file has points where its internal name has slashes. -/
theorem load_of_slash {roots : List String} (slash : '/' ∈ name.toList) :
    (ofDirectories system roots).load name = none := by
  cases loaded : (ofDirectories system roots).load name with
  | none => rfl
  | some info =>
    have found := load_ofDirectories_eq_some_iff.mp loaded
    obtain ⟨root, -, bytes, file, -, -, declared, same⟩ := exists_file_of_readClass found
    rw [← same, ← declared] at slash
    exact absurd slash (notMem_binaryOfInternal file.thisClass)

end Classpath

open Classpath in
/-- A name is refused exactly if it has an empty segment. Otherwise each root has one place for
the class, below it and in directories with the names of the segments, and no other file matters.
The first root that has a file there decides, even if that file is of no use; no class is found
exactly if no root has one. A class that is found has the name that was asked for, and a readable
file of one of the roots declares it. A class is loaded exactly if one is found, so none is for a
name with a slash. -/
theorem directory_lookup (system : FileSystem) (roots : List String) (name : String) :
    let segments := nameSegments name
    let answer := readClass system roots name
    (∀ invalid, answer = .error (.invalidName invalid) ↔
      [] ∈ segments ∧ invalid = name) ∧
    ([] ∉ segments →
      (∀ segment ∈ segments, (segment ≠ [] ∧ segment ≠ ['.'] ∧ segment ≠ ['.', '.']) ∧
        '.' ∉ segment ∧ '/' ∉ segment) ∧
      (∀ other : FileSystem, (∀ root ∈ roots, other.file? (classFilePath root segments) =
          system.file? (classFilePath root segments)) →
        readClass other roots name = answer) ∧
      (answer = .ok none ↔
        ∀ root ∈ roots, system.file? (classFilePath root segments) = none) ∧
      ∀ before root after content, roots = before ++ root :: after →
        (∀ earlier ∈ before, system.file? (classFilePath earlier segments) = none) →
        system.file? (classFilePath root segments) = some content →
          answer = (readFile (classFilePath root segments) name content).map some) ∧
    (∀ info, answer = .ok (some info) → info.name = name ∧
      ∃ root ∈ roots, ∃ bytes file, system.file? (classFilePath root segments) = some (.ok bytes) ∧
        ClassFile.decode bytes = .ok file ∧ binaryOfInternal file.thisClass = name ∧
        ClassInfo.ofClassFile file = info) ∧
    (∀ info, (ofDirectories system roots).load name = some info ↔ answer = .ok (some info)) ∧
    ('/' ∈ name.toList → (ofDirectories system roots).load name = none) := by
  intro segments answer
  refine ⟨fun invalid => readClass_eq_invalidName_iff, fun valid => ⟨fun segment member => ?_,
    fun other agree => readClass_congr valid agree, readClass_eq_none_iff valid, ?_⟩,
    fun info found => ?_, fun info => load_ofDirectories_eq_some_iff, load_of_slash⟩
  · refine ⟨⟨?_, ne_points_of_mem_nameSegments member⟩, notMem_of_mem_nameSegments member⟩
    rintro rfl
    exact valid member
  · rintro before root after content rfl missing present
    exact readClass_of_first valid after missing present
  · obtain ⟨root, member, bytes, file, present, decoded, rfl, same⟩ :=
      exists_file_of_readClass found
    exact ⟨same, root, member, bytes, file, present, decoded, same, rfl⟩

/-- No root is searched for these names. -/
example : ∀ name ∈ [".etc.passwd", "com..Foo", "", "com.example.", "..secret"],
    [] ∈ nameSegments name := by
  decide

open Classpath in
/-- Two roots have a file for `p.A`. That of the first is cut off after a byte, and so there is
no answer from the second. -/
theorem directory_lookup_truncated :
    let system := FileSystem.ofTable [("r0/p/A.class", [0xCA]), ("r1/p/A.class", [])]
    [] ∉ nameSegments "p.A" ∧ system.file? "r0/p/A.class" = some (.ok [0xCA]) ∧
      readClass system ["r0", "r1"] "p.A" =
        .error (.invalidClassFile "r0/p/A.class" .unexpectedEnd) := by
  intro system
  have valid : [] ∉ nameSegments "p.A" := by decide
  have place : classFilePath "r0" (nameSegments "p.A") = "r0/p/A.class" := by decide
  have present : system.file? "r0/p/A.class" = some (.ok [0xCA]) := rfl
  have first := ((directory_lookup system ["r0", "r1"] "p.A").2.1 valid).2.2.2
  rw [← place] at present ⊢
  refine ⟨valid, present, ?_⟩
  exact first [] "r0" ["r1"] (.ok [0xCA]) rfl (List.forall_mem_nil _) present

end JvmGenerics
