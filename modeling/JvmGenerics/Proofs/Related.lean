import Mathlib.Data.List.Forall2
import Mathlib.Data.List.Infix
import Mathlib.Data.List.Nodup

/-!
# Related lists

Lists and options that are related entry by entry, and what follows for the entries that
are found in them. Besides, lists whose entries are looked at with what came before them.
-/

namespace JvmGenerics

/-- If no key occurs twice, a search by key finds the entry with that key. -/
theorem find?_eq_some_iff_of_nodup {α κ : Type} [BEq κ] [LawfulBEq κ] {key : α → κ} {list : List α}
    (distinct : (list.map key).Nodup) {name : κ} {entry : α} :
    list.find? (fun entry => key entry == name) = some entry ↔
      entry ∈ list ∧ key entry = name := by
  constructor
  · intro found
    exact ⟨List.mem_of_find?_eq_some found, by simpa using List.find?_some found⟩
  · rintro ⟨member, rfl⟩
    cases other : list.find? fun other => key other == key entry with
    | none => simpa using List.find?_eq_none.mp other entry member
    | some present =>
      have same : key present = key entry := by simpa using List.find?_some other
      rw [List.inj_on_of_nodup_map distinct (List.mem_of_find?_eq_some other) member same]

/-- The entries of a list, each with those before it. -/
def withEarlier {α : Type} (list : List α) : List (List α × α) :=
  list.inits.zip list

theorem withEarlier_cons {α : Type} (entry : α) (rest : List α) :
    withEarlier (entry :: rest) =
      ([], entry) :: (withEarlier rest).map (Prod.map (entry :: ·) id) := by
  rw [withEarlier, List.inits_cons, List.zip_cons_cons, List.zip_map_left, withEarlier]

theorem map_snd_withEarlier {α : Type} (list : List α) :
    (withEarlier list).map Prod.snd = list := by
  induction list with
  | nil => rfl
  | cons entry rest ih => simpa [withEarlier_cons, Function.comp_def] using ih

theorem withEarlier_map {α β : Type} (value : α → β) (list : List α) :
    withEarlier (list.map value) = (withEarlier list).map (Prod.map (List.map value) value) := by
  induction list with
  | nil => rfl
  | cons entry rest ih =>
    rw [List.map_cons, withEarlier_cons, withEarlier_cons, ih, List.map_cons, List.map_map,
      List.map_map]
    rfl

section Options

variable {α β : Type} {related : α → β → Prop} {first : Option α} {second : Option β}

theorem eq_none_of_rel (same : Option.Rel related none second) : second = none := by
  cases same
  rfl

theorem exists_of_rel_some {entry : α} (same : Option.Rel related (some entry) second) :
    ∃ other, second = some other ∧ related entry other := by
  cases same with
  | some same => exact ⟨_, rfl, same⟩

theorem rel_filter (same : Option.Rel related first second) (keep : α → Bool) (other : β → Bool)
    (agree : ∀ entry otherEntry, related entry otherEntry → keep entry = other otherEntry) :
    Option.Rel related (first.filter keep) (second.filter other) := by
  cases same with
  | none => exact .none
  | @some entry otherEntry same =>
    rw [Option.filter_some, Option.filter_some, agree entry otherEntry same]
    cases other otherEntry with
    | true => exact .some same
    | false => exact .none

theorem rel_of_isSome (isSome : first.isSome = second.isSome)
    (relate : ∀ entry other, first = some entry → second = some other → related entry other) :
    Option.Rel related first second := by
  cases first <;> cases second
  · exact .none
  · cases isSome
  · cases isSome
  · exact .some (relate _ _ rfl rfl)

theorem forall₂_toList (rel : Option.Rel related first second) :
    List.Forall₂ related first.toList second.toList := by
  cases rel with
  | none => exact .nil
  | some same => exact .cons same .nil

theorem rel_map {γ δ : Type} {values : γ → δ → Prop} {value : α → γ} {other : β → δ}
    (rel : Option.Rel related first second)
    (relate : ∀ entry otherEntry, related entry otherEntry →
      values (value entry) (other otherEntry)) :
    Option.Rel values (first.map value) (second.map other) := by
  cases rel with
  | none => exact .none
  | some same => exact .some (relate _ _ same)

theorem rel_through {γ δ : Type} {yields : α → γ → Prop} {others : β → δ → Prop}
    {result : Option γ} {otherResult : Option δ} (same : Option.Rel related first second)
    (own : Option.Rel yields first result) (other : Option.Rel others second otherResult) :
    Option.Rel (fun value otherValue => ∃ entry otherEntry, related entry otherEntry ∧
      yields entry value ∧ others otherEntry otherValue) result otherResult := by
  cases same with
  | none =>
    cases own
    cases other
    exact .none
  | some same =>
    cases own with
    | some own =>
      cases other with
      | some other => exact .some ⟨_, _, same, own, other⟩

end Options

section Lists

variable {α β : Type} {related : α → β → Prop} {firsts : List α} {seconds : List β}

theorem exists_of_mem_right (same : List.Forall₂ related firsts seconds) {second : β}
    (member : second ∈ seconds) : ∃ first ∈ firsts, related first second := by
  induction same with
  | nil => cases member
  | cons head _ ih =>
    rcases List.mem_cons.mp member with rfl | member
    · exact ⟨_, List.mem_cons_self, head⟩
    · obtain ⟨first, listed, found⟩ := ih member
      exact ⟨first, List.mem_cons_of_mem _ listed, found⟩

theorem rel_getElem? (same : List.Forall₂ related firsts seconds) (index : Nat) :
    Option.Rel related firsts[index]? seconds[index]? := by
  induction same generalizing index with
  | nil => exact .none
  | cons head _ ih =>
    cases index with
    | zero => exact .some head
    | succ index => exact ih index

/-- The first entries that satisfy two conditions which agree on related entries. -/
theorem rel_find? (same : List.Forall₂ related firsts seconds) {first : α → Bool}
    {second : β → Bool}
    (agree : ∀ entry other, related entry other → first entry = second other) :
    Option.Rel related (firsts.find? first) (seconds.find? second) := by
  induction same with
  | nil => exact .none
  | @cons entry other _ _ head _ ih =>
    rw [List.find?_cons, List.find?_cons, agree entry other head]
    cases second other with
    | true => exact .some head
    | false => exact ih

theorem forall₂_map_iff {γ δ : Type} {values : γ → δ → Prop} {value : α → γ} {other : β → δ} :
    List.Forall₂ values (firsts.map value) (seconds.map other) ↔
      List.Forall₂ (fun entry otherEntry => values (value entry) (other otherEntry)) firsts
        seconds := by
  rw [List.forall₂_map_left_iff, List.forall₂_map_right_iff]

theorem map_eq_map_iff_forall₂ {γ : Type} {value : α → γ} {other : β → γ} :
    firsts.map value = seconds.map other ↔
      List.Forall₂ (fun entry otherEntry => value entry = other otherEntry) firsts seconds := by
  rw [← forall₂_map_iff, List.forall₂_eq_eq_eq]

/-- What becomes of related lists, entry by entry. -/
theorem forall₂_through {γ δ : Type} {yields : α → γ → Prop} {others : β → δ → Prop}
    {results : List γ} {otherResults : List δ} (same : List.Forall₂ related firsts seconds)
    (own : List.Forall₂ yields firsts results) (other : List.Forall₂ others seconds otherResults) :
    List.Forall₂ (fun value otherValue => ∃ entry otherEntry, related entry otherEntry ∧
      yields entry value ∧ others otherEntry otherValue) results otherResults := by
  induction same generalizing results otherResults with
  | nil =>
    cases own
    cases other
    exact .nil
  | cons head _ ih =>
    cases own with
    | cons own restOwn =>
      cases other with
      | cons other restOther => exact .cons ⟨_, _, head, own, other⟩ (ih restOwn restOther)

theorem flatMap_eq_of_forall₂ {γ : Type} (same : List.Forall₂ related firsts seconds)
    {collect : α → List γ} {other : β → List γ}
    (agree : ∀ first second, related first second → collect first = other second) :
    firsts.flatMap collect = seconds.flatMap other := by
  induction same with
  | nil => rfl
  | cons head _ ih => rw [List.flatMap_cons, List.flatMap_cons, agree _ _ head, ih]

theorem flatMap_sublist_of_forall₂ {γ : Type} (same : List.Forall₂ related firsts seconds)
    {collect : α → List γ} {other : β → List γ}
    (fewer : ∀ first second, related first second → (other second).Sublist (collect first)) :
    (seconds.flatMap other).Sublist (firsts.flatMap collect) := by
  induction same with
  | nil => exact List.Sublist.refl []
  | cons head _ ih =>
    rw [List.flatMap_cons, List.flatMap_cons]
    exact (fewer _ _ head).append ih

theorem perm_append_swap {γ : Type} (first second third fourth : List γ) :
    ((first ++ second) ++ (third ++ fourth)).Perm ((first ++ third) ++ (second ++ fourth)) := by
  rw [List.append_assoc, List.append_assoc]
  refine List.Perm.append_left first ?_
  rw [← List.append_assoc, ← List.append_assoc]
  exact List.perm_append_comm.append_right fourth

/-- What is collected from one list, against what is collected from the other one and what
each pair adds to it. -/
theorem flatMap_perm_of_forall₂ {γ : Type} (same : List.Forall₂ related firsts seconds)
    {collect : α → List γ} {other : β → List γ} {more : α → β → List γ}
    (agree : ∀ first second, related first second →
      (collect first).Perm (other second ++ more first second)) :
    (firsts.flatMap collect).Perm (seconds.flatMap other ++
      (firsts.zip seconds).flatMap fun pair => more pair.1 pair.2) := by
  induction same with
  | nil => exact List.Perm.refl []
  | cons head _ ih =>
    simp only [List.flatMap_cons, List.zip_cons_cons]
    exact ((agree _ _ head).append ih).trans (perm_append_swap _ _ _ _)

theorem forall₂_of_forall_mem {together : α → β → Prop} {holds : α → Prop} {others : β → Prop}
    (same : List.Forall₂ related firsts seconds) (first : ∀ entry ∈ firsts, holds entry)
    (second : ∀ entry ∈ seconds, others entry)
    (combine : ∀ entry other, holds entry → others other → related entry other →
      together entry other) :
    List.Forall₂ together firsts seconds := by
  have left := (List.forall₂_and_left _ _).mpr ⟨first, same⟩
  have both := (List.forall₂_and_left _ _).mpr ⟨second, left.flip⟩
  exact both.flip.imp fun entry other found => combine entry other found.2.1 found.1 found.2.2

end Lists

end JvmGenerics
