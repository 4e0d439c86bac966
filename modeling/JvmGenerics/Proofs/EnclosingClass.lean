import JvmGenerics.ClassInfo

/-!
# The class around a class

A class file may list its own class among the nested classes, and even more than once. The
outer class and the static flag are looked up in that list one after the other, so they agree
with a single entry exactly if the first entry about the class speaks for all of them.
-/

namespace JvmGenerics

namespace ClassFile

/-- Whether the entry calls its class static. -/
def InnerClass.isStatic (entry : InnerClass) : Bool :=
  entry.accessFlags &&& ClassInfo.staticFlag != 0

/-- The place of the class of an entry, if the entry has an outer class: inside that class, and
static if the entry says so. -/
def InnerClass.place? (entry : InnerClass) : Option Enclosing :=
  entry.outerClass.map fun outer => ⟨binaryOfInternal outer, none, entry.isStatic⟩

/-- The entries about the class of the file itself. -/
def ownEntries (file : ClassFile) : List InnerClass :=
  file.innerClasses.filter fun entry => entry.innerClass == file.thisClass

/-- The place of the class by a single statement of the file. This is the enclosing method if
there is one, and else the first entry about the class that has an outer class. -/
def statedPlace (file : ClassFile) : Option Enclosing :=
  match file.enclosingMethod with
  | some place => some ⟨binaryOfInternal place.className, place.method, false⟩
  | none => file.ownEntries.findSome? InnerClass.place?

/-- The first entry about the class speaks for all: if it has no outer class, then no other has
one, and if it has one and is not static, then no other is static. -/
def FirstEntryDecides (file : ClassFile) : Prop :=
  ∀ first later, file.ownEntries = first :: later →
    (first.outerClass = none → ∀ entry ∈ later, entry.outerClass = none) ∧
    (first.outerClass ≠ none → first.isStatic = false → ∀ entry ∈ later, entry.isStatic = false)

theorem InnerClass.place?_eq_none_iff {entry : InnerClass} :
    entry.place? = none ↔ entry.outerClass = none :=
  Option.map_eq_none_iff

theorem isStaticMember_eq (file : ClassFile) :
    ClassInfo.isStaticMember file = file.ownEntries.any InnerClass.isStatic := by
  rw [ownEntries, List.any_filter]
  rfl

/-- The outer class and the flag, each with its own search through the entries. -/
theorem enclosingOf_eq (file : ClassFile) (noMethod : file.enclosingMethod = none) :
    ClassInfo.enclosingOf file = (file.ownEntries.head?.bind InnerClass.outerClass).map fun outer =>
      ⟨binaryOfInternal outer, none, file.ownEntries.any InnerClass.isStatic⟩ := by
  rw [ClassInfo.enclosingOf, enclosingClass, noMethod, isStaticMember_eq, ownEntries,
    List.head?_filter]

theorem any_isStatic_eq_iff {first : InnerClass} {later : List InnerClass} :
    (first :: later).any InnerClass.isStatic = first.isStatic ↔
      (first.isStatic = false → ∀ entry ∈ later, entry.isStatic = false) := by
  rw [List.any_cons]
  cases first.isStatic <;> simp

/-- What two searches find in some entries is what one search finds exactly if the first of
the entries speaks for all. -/
theorem searches_agree_iff (first : InnerClass) (later : List InnerClass) :
    (first.outerClass.map fun outer => (⟨binaryOfInternal outer, none,
        (first :: later).any InnerClass.isStatic⟩ : Enclosing)) =
      (first :: later).findSome? InnerClass.place? ↔
    (first.outerClass = none → ∀ entry ∈ later, entry.outerClass = none) ∧
      (first.outerClass ≠ none → first.isStatic = false →
        ∀ entry ∈ later, entry.isStatic = false) := by
  rw [List.findSome?_cons, InnerClass.place?]
  cases first.outerClass with
  | none =>
    simp only [Option.map_none, ne_eq, not_true_eq_false, false_imp_iff, and_true, true_imp_iff]
    rw [eq_comm, List.findSome?_eq_none_iff]
    simp only [InnerClass.place?_eq_none_iff]
  | some outer =>
    simp only [Option.map_some, Option.some.injEq, Enclosing.mk.injEq, true_and, any_isStatic_eq_iff,
      reduceCtorEq, false_imp_iff, ne_eq, not_false_eq_true, true_imp_iff]

theorem enclosingOf_eq_statedPlace_iff (file : ClassFile) :
    ClassInfo.enclosingOf file = file.statedPlace ↔
      file.enclosingMethod.isSome ∨ file.FirstEntryDecides := by
  cases method : file.enclosingMethod with
  | some place => simp [ClassInfo.enclosingOf, statedPlace, method]
  | none =>
    rw [enclosingOf_eq file method, statedPlace, method, FirstEntryDecides]
    cases file.ownEntries with
    | nil => simp
    | cons first later =>
      simpa using searches_agree_iff first later

/-- The class around a class is that of the enclosing method, or else comes with its static flag
from the first entry about the class that has an outer class, unless the first entry about the
class does not speak for all of them: that is the only case in which the flag, or the lack of an
outer class, is of another entry. One entry about the class, as there should be, always speaks
for itself. The class around is in any case the one that the file names. -/
theorem enclosing_exact (file : ClassFile) :
    ((ClassInfo.ofClassFile file).enclosing = file.statedPlace ↔
      file.enclosingMethod.isSome ∨ file.FirstEntryDecides) ∧
    (file.ownEntries.length ≤ 1 → (ClassInfo.ofClassFile file).enclosing = file.statedPlace) ∧
    (ClassInfo.ofClassFile file).enclosing.map Enclosing.className =
      file.enclosingClass.map binaryOfInternal := by
  have exact_iff := enclosingOf_eq_statedPlace_iff file
  refine ⟨exact_iff, fun single => exact_iff.mpr (Or.inr ?_), ?_⟩
  · intro first later entries
    have alone : later = [] := by
      rw [entries] at single
      simpa using single
    simp [alone]
  · cases method : file.enclosingMethod with
    | some place => simp [ClassInfo.ofClassFile, ClassInfo.enclosingOf, enclosingClass, method]
    | none =>
      simp [ClassInfo.ofClassFile, ClassInfo.enclosingOf, enclosingClass, method,
        Function.comp_def]

/-- The class file of `p.A$B` with given entries and without an enclosing method. -/
def listing (entries : List InnerClass) : ClassFile where
  minorVersion := 0
  majorVersion := 52
  accessFlags := 33
  thisClass := "p/A$B"
  superclass := none
  interfaces := []
  fields := []
  methods := []
  signature := none
  innerClasses := entries
  enclosingMethod := none

/-- Two class files in which the first entry about the class does not speak for all. In the one
the flag is taken from the second entry although the outer class is that of the first; in the
other the outer class of the second entry is not found. -/
theorem entries_disagree :
    let entry (outer : Option String) (flags : UInt16) : InnerClass := ⟨"p/A$B", outer, none, flags⟩
    let twice := listing [entry (some "p/A") 1, entry (some "p/A") 9]
    let late := listing [entry none 1, entry (some "p/A") 1]
    ((ClassInfo.ofClassFile twice).enclosing = some ⟨"p.A", none, true⟩ ∧
      twice.statedPlace = some ⟨"p.A", none, false⟩) ∧
    (ClassInfo.ofClassFile late).enclosing = none ∧
      late.statedPlace = some ⟨"p.A", none, false⟩ := by
  decide

end ClassFile

end JvmGenerics
