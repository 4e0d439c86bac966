import JvmGenerics.Text.Parser
import Mathlib.Data.List.Basic
import Mathlib.Data.List.Chain
import Mathlib.Data.List.TakeWhile

/-!
# Parsers and the texts of their values

A parser and a rendering belong together in two ways. What the parser accepts is the text
of the value that it answers. And on the text of a value the parser answers that value, if
the value fits, and it stops otherwise. Both are carried here from the parts of a parser to
the whole of it, and from an item to a list of such items.
-/

namespace JvmGenerics.TextParser

variable {ε α β γ : Type} {text rest : List Char}

section Steps

variable {parser : TextParser ε α} {next : α → TextParser ε β} {first : α} {value : β}
variable {between : List Char} {stopped : Stop ε}

theorem bind_of_ok (read : parser text = .ok (first, between)) :
    (parser >>= next) text = next first between := by
  change Except.bind (parser text) _ = _
  rw [read]
  rfl

theorem bind_of_error (failed : parser text = .error stopped) :
    (parser >>= next) text = .error stopped := by
  change Except.bind (parser text) _ = _
  rw [failed]
  rfl

/-- Only what is read of this text, and what follows that, matters to the sequence. -/
theorem bind_congr_at {other : TextParser ε α} {further : α → TextParser ε β}
    (same : parser text = other text)
    (follows : ∀ first between, parser text = .ok (first, between) →
      next first between = further first between) :
    (parser >>= next) text = (other >>= further) text := by
  cases read : parser text with
  | error stopped => rw [bind_of_error read, bind_of_error (same ▸ read)]
  | ok answer =>
    obtain ⟨first, between⟩ := answer
    rw [bind_of_ok read, bind_of_ok (same ▸ read), follows first between read]

theorem bind_eq_ok_iff : (parser >>= next) text = .ok (value, rest) ↔
    ∃ first between, parser text = .ok (first, between) ∧
      next first between = .ok (value, rest) := by
  constructor
  · intro read
    cases start : parser text with
    | error stopped =>
      rw [bind_of_error start] at read
      cases read
    | ok answer =>
      obtain ⟨first, between⟩ := answer
      rw [bind_of_ok start] at read
      exact ⟨first, between, rfl, read⟩
  · rintro ⟨first, between, start, read⟩
    rw [bind_of_ok start, read]

theorem map_eq_ok_iff {transform : α → β} : (transform <$> parser) text = .ok (value, rest) ↔
    ∃ first, parser text = .ok (first, rest) ∧ transform first = value := by
  rw [map_eq_pure_bind, bind_eq_ok_iff]
  constructor
  · rintro ⟨first, between, start, read⟩
    cases read
    exact ⟨first, start, rfl⟩
  · rintro ⟨first, start, rfl⟩
    exact ⟨first, rest, start, rfl⟩

theorem pure_eq_ok_iff {answer : α} : (pure answer : TextParser ε α) text = .ok (first, rest) ↔
    answer = first ∧ text = rest := by
  constructor
  · intro read
    cases read
    exact ⟨rfl, rfl⟩
  · rintro ⟨rfl, rfl⟩
    rfl

theorem peek_bind (next : Option Char → TextParser ε β) (text : List Char) :
    (peek >>= next) text = next text.head? text :=
  rfl

theorem eat_self (wanted : Char) (rest : List Char) :
    (eat wanted : TextParser ε Bool) (wanted :: rest) = .ok (true, rest) :=
  if_pos rfl

theorem eat_of_ne {wanted : Char} (other : ∀ c ∈ text.head?, c ≠ wanted) :
    (eat wanted : TextParser ε Bool) text = .ok (false, text) := by
  cases text with
  | nil => rfl
  | cons c rest => exact if_neg (other c rfl)

theorem eat_eq_ok {wanted : Char} {found : Bool}
    (read : (eat wanted : TextParser ε Bool) text = .ok (found, rest)) :
    text = (if found then [wanted] else []) ++ rest := by
  cases text with
  | nil =>
    cases read
    rfl
  | cons c more =>
    by_cases same : c = wanted
    · rw [same, eat_self] at read
      cases read
      rw [same]
      rfl
    · rw [eat_of_ne (by simpa using same)] at read
      cases read
      rfl

theorem expect_self (wanted : Char) (reason : ε) (rest : List Char) :
    expect wanted reason (wanted :: rest) = .ok ((), rest) :=
  if_pos rfl

theorem expect_of_ne {wanted : Char} (reason : ε) (other : ∀ c ∈ text.head?, c ≠ wanted) :
    expect wanted reason text = .error ⟨text, reason⟩ := by
  cases text with
  | nil => rfl
  | cons c rest => exact if_neg (other c rfl)

theorem expect_eq_ok {wanted : Char} {reason : ε} {answer : Unit}
    (read : expect wanted reason text = .ok (answer, rest)) : text = wanted :: rest := by
  cases text with
  | nil => cases read
  | cons c more =>
    by_cases same : c = wanted
    · rw [same, expect_self] at read
      cases read
      rw [same]
    · rw [expect_of_ne reason (by simpa using same)] at read
      cases read

theorem eat_bind_eq_ok {wanted : Char} {next : Bool → TextParser ε β}
    (read : (eat wanted >>= next) text = .ok (value, rest)) :
    ∃ found between, next found between = .ok (value, rest) ∧
      text = (if found then [wanted] else []) ++ between := by
  obtain ⟨found, between, eaten, read⟩ := bind_eq_ok_iff.mp read
  exact ⟨found, between, read, eat_eq_ok eaten⟩

theorem expect_bind_eq_ok {wanted : Char} {reason : ε} {next : Unit → TextParser ε β}
    (read : (expect wanted reason >>= next) text = .ok (value, rest)) :
    ∃ between, next () between = .ok (value, rest) ∧ text = wanted :: between := by
  obtain ⟨_, between, found, read⟩ := bind_eq_ok_iff.mp read
  exact ⟨between, read, expect_eq_ok found⟩

theorem finish_eq_ok {reason : ε} {answer : Unit}
    (read : finish reason text = .ok (answer, rest)) : text = [] ∧ rest = [] := by
  cases text with
  | nil =>
    cases read
    exact ⟨rfl, rfl⟩
  | cons c more => cases read

theorem takeWhile_eq_ok {accepts : Char → Bool} {taken : List Char}
    (read : (takeWhile accepts : TextParser ε (List Char)) text = .ok (taken, rest)) :
    text = taken ++ rest ∧ (∀ c ∈ taken, accepts c = true) ∧
      ∀ c ∈ rest.head?, accepts c = false := by
  cases read
  refine ⟨by simp, fun c member => List.mem_takeWhile_imp member, fun c first => ?_⟩
  have stopped := List.head?_dropWhile_not accepts text
  rw [Option.mem_def.mp first] at stopped
  exact stopped

/-- Every text begins with the longest run of accepted characters. -/
theorem exists_run (accepts : Char → Bool) (text : List Char) : ∃ taken rest,
    text = taken ++ rest ∧ (∀ c ∈ taken, accepts c = true) ∧
      ∀ c ∈ rest.head?, accepts c = false := by
  have read : (takeWhile accepts : TextParser Unit (List Char)) text =
    .ok (text.takeWhile accepts, text.dropWhile accepts) := rfl
  exact ⟨_, _, takeWhile_eq_ok read⟩

theorem takeWhile1_eq_ok {accepts : Char → Bool} {reason : ε} {taken : List Char}
    (read : takeWhile1 accepts reason text = .ok (taken, rest)) :
    text = taken ++ rest ∧ taken ≠ [] ∧ ∀ c ∈ taken, accepts c = true := by
  cases text with
  | nil => cases read
  | cons c more =>
    rw [takeWhile1] at read
    split at read
    · next accepted =>
      cases read
      refine ⟨by simp, by simp, ?_⟩
      rw [List.forall_mem_cons]
      exact ⟨accepted, fun other member => List.mem_takeWhile_imp member⟩
    · cases read

/-- What is taken is the longest run. -/
theorem takeWhile1_eq_takeWhile {accepts : Char → Bool} {reason : ε} {taken : List Char}
    (read : takeWhile1 accepts reason text = .ok (taken, rest)) :
    text.takeWhile accepts = taken ∧ text.dropWhile accepts = rest := by
  cases text with
  | nil => cases read
  | cons c more =>
    rw [takeWhile1] at read
    split at read
    · next accepted =>
      cases read
      simp [accepted]
    · cases read

theorem takeWhile_append_of_all {accepts : Char → Bool} {taken : List Char}
    (all : ∀ c ∈ taken, accepts c = true) (ended : ∀ c ∈ rest.head?, accepts c = false) :
    (taken ++ rest).takeWhile accepts = taken ∧ (taken ++ rest).dropWhile accepts = rest := by
  rw [List.takeWhile_append_of_pos all, List.dropWhile_append_of_pos all]
  cases rest with
  | nil => simp
  | cons c more => simp [ended c rfl]

theorem takeWhile1_of_all {accepts : Char → Bool} {taken : List Char} (reason : ε)
    (nonempty : taken ≠ []) (all : ∀ c ∈ taken, accepts c = true)
    (ended : ∀ c ∈ rest.head?, accepts c = false) :
    takeWhile1 accepts reason (taken ++ rest) = .ok (taken, rest) := by
  cases taken with
  | nil => contradiction
  | cons c more =>
    rw [List.forall_mem_cons] at all
    have ⟨taken, left⟩ := takeWhile_append_of_all all.2 ended
    rw [List.cons_append, takeWhile1, if_pos all.1, taken, left]

theorem takeWhile1_of_none {accepts : Char → Bool} (reason : ε)
    (rejected : ∀ c ∈ text.head?, accepts c = false) :
    takeWhile1 accepts reason text = .error ⟨text, reason⟩ := by
  cases text with
  | nil => rfl
  | cons c rest => simp [takeWhile1, rejected c rfl]

end Steps

/-- Whatever the parser reads is the text of its answer, and the answer is `good`. -/
def Accepts (parser : TextParser ε α) (render : α → List Char) (good : α → Prop) : Prop :=
  ∀ ⦃text value rest⦄, parser text = .ok (value, rest) → text = render value ++ rest ∧ good value

theorem Accepts.of_bind {parser : TextParser ε α} {render : α → List Char} {good : α → Prop}
    {next : α → TextParser ε β} {value : β} (accepts : parser.Accepts render good)
    (read : (parser >>= next) text = .ok (value, rest)) :
    ∃ first between, good first ∧ next first between = .ok (value, rest) ∧
      text = render first ++ between := by
  obtain ⟨first, between, start, read⟩ := bind_eq_ok_iff.mp read
  obtain ⟨split, goodFirst⟩ := accepts start
  exact ⟨first, between, goodFirst, read, split⟩

/-- The text of an item that may be missing, where `closing` stands for its absence. -/
def itemText (render : α → List Char) (closing : List Char) : Option α → List Char
  | none => closing
  | some item => render item

theorem collect_accepts {item : TextParser ε (Option α)} {render : α → List Char}
    {closing : List Char} {good : α → Prop} (stuck : ε)
    (accepts : item.Accepts (itemText render closing) fun found => ∀ entry ∈ found, good entry) :
    (collect stuck item).Accepts (fun list => list.flatMap render ++ closing)
      fun list => ∀ entry ∈ list, good entry := by
  intro text list rest read
  rw [collect] at read
  generalize text.length + 1 = rounds at read
  induction rounds generalizing text list rest with
  | zero => cases read
  | succ rounds ih =>
    rw [collectWithin, bind_eq_ok_iff] at read
    obtain ⟨found, between, start, read⟩ := read
    obtain ⟨rfl, good⟩ := accepts start
    cases found with
    | none =>
      obtain ⟨rfl, rfl⟩ := pure_eq_ok_iff.mp read
      exact ⟨rfl, by simp⟩
    | some first =>
      obtain ⟨others, _, allGood, answer, rfl⟩ := Accepts.of_bind ih read
      obtain ⟨rfl, rfl⟩ := pure_eq_ok_iff.mp answer
      exact ⟨by simp [itemText], List.forall_mem_cons.mpr ⟨good first rfl, allGood⟩⟩

/-- What the list leaves is what its last round leaves. -/
theorem collect_rest {item : TextParser ε (Option α)} {stuck : ε} (ended : List Char → Prop)
    (ends : ∀ ⦃text rest⦄, item text = .ok (none, rest) → ended rest) {list : List α}
    (read : collect stuck item text = .ok (list, rest)) : ended rest := by
  rw [collect] at read
  generalize text.length + 1 = rounds at read
  induction rounds generalizing text list with
  | zero => cases read
  | succ rounds ih =>
    rw [collectWithin, bind_eq_ok_iff] at read
    obtain ⟨found, between, start, read⟩ := read
    cases found with
    | none =>
      obtain ⟨-, rfl⟩ := pure_eq_ok_iff.mp read
      exact ends start
    | some first =>
      obtain ⟨others, _, more, answer⟩ := bind_eq_ok_iff.mp read
      obtain ⟨-, rfl⟩ := pure_eq_ok_iff.mp answer
      exact ih more

/-- The parser answers `value` and leaves `rest` if the value fits, and it stops if not. -/
def Reads (parser : TextParser ε α) (text : List Char) (fits : Prop) (value : α)
    (rest : List Char) : Prop :=
  (fits → parser text = .ok (value, rest)) ∧ (¬fits → ∃ stopped, parser text = .error stopped)

namespace Reads

variable {parser : TextParser ε α} {next : α → TextParser ε β} {fits further : Prop}
variable {first : α} {value : β} {between : List Char}

theorem of_ok (read : parser text = .ok (first, rest)) : parser.Reads text True first rest :=
  ⟨fun _ => read, fun unfit => absurd trivial unfit⟩

theorem of_error {stopped : Stop ε} (failed : parser text = .error stopped) (unfit : ¬fits) :
    parser.Reads text fits first rest :=
  ⟨fun fit => absurd fit unfit, fun _ => ⟨stopped, failed⟩⟩

theorem congr (same : fits ↔ further) (reads : parser.Reads text fits first rest) :
    parser.Reads text further first rest := by
  rwa [propext same] at reads

theorem of_eq {other : TextParser ε α} (same : parser text = other text)
    (reads : other.Reads text fits first rest) : parser.Reads text fits first rest := by
  rwa [Reads, same]

/-- A step that cannot stop does not matter to what fits. -/
theorem after (read : parser text = .ok (first, between))
    (reads : (next first).Reads between fits value rest) :
    (parser >>= next).Reads text fits value rest := by
  rwa [Reads, bind_of_ok read]

theorem bind (reads : parser.Reads text fits first between)
    (thenReads : (next first).Reads between further value rest) :
    (parser >>= next).Reads text (fits ∧ further) value rest := by
  by_cases fit : fits
  · exact after (reads.1 fit) (thenReads.congr (and_iff_right fit).symm)
  · obtain ⟨stopped, failed⟩ := reads.2 fit
    exact of_error (bind_of_error failed) fun both => fit both.1

theorem bind_pure (transform : α → β) (reads : parser.Reads text fits first rest) :
    (parser >>= fun value => pure (transform value)).Reads text fits (transform first) rest :=
  (reads.bind (of_ok rfl)).congr (iff_of_eq (and_true fits))

theorem map (transform : α → β) (reads : parser.Reads text fits first rest) :
    (transform <$> parser).Reads text fits (transform first) rest := by
  rw [map_eq_pure_bind]
  exact reads.bind_pure transform

end Reads

/-- A list of items is read one after the other. Whether an item fits may depend on the
items that come after it. -/
theorem collectWithin_reads {item : TextParser ε (Option α)} {render : α → List Char}
    {closing : List Char} {fits : α → List α → Prop} (stuck : ε) (rounds : Nat) {list : List α}
    (enough : list.length < rounds)
    (items : ∀ entry others, entry :: others <:+ list →
      item.Reads (render entry ++ (others.flatMap render ++ closing))
        (fits entry others) (some entry) (others.flatMap render ++ closing))
    (ends : item closing = .ok (none, rest)) :
    (collectWithin stuck item rounds).Reads (list.flatMap render ++ closing)
      (∀ entry others, entry :: others <:+ list → fits entry others) list rest := by
  induction list generalizing rounds with
  | nil =>
    cases rounds with
    | zero => exact absurd enough (Nat.not_lt_zero _)
    | succ rounds =>
      refine (Reads.after ends (Reads.of_ok rfl)).congr (iff_of_true trivial ?_)
      intro entry others isSuffix
      cases List.suffix_nil.mp isSuffix
  | cons entry others ih =>
    cases rounds with
    | zero => exact absurd enough (Nat.not_lt_zero _)
    | succ rounds =>
      have first := items entry others (List.suffix_refl _)
      have rest := ih rounds (Nat.lt_of_succ_lt_succ enough) fun next more isSuffix =>
        items next more (isSuffix.trans (List.suffix_cons entry others))
      rw [List.flatMap_cons, List.append_assoc]
      refine (first.bind (rest.bind (Reads.of_ok rfl))).congr ?_
      rw [and_true]
      constructor
      · rintro ⟨fit, allFit⟩ next more isSuffix
        rcases List.suffix_cons_iff.mp isSuffix with same | isSuffix
        · cases same
          exact fit
        · exact allFit next more isSuffix
      · intro allFit
        exact ⟨allFit entry others (List.suffix_refl _), fun next more isSuffix =>
          allFit next more (isSuffix.trans (List.suffix_cons entry others))⟩

theorem length_le_of_ne_nil {render : α → List Char} {list : List α}
    (nonempty : ∀ entry ∈ list, render entry ≠ []) :
    list.length ≤ (list.flatMap render).length := by
  induction list with
  | nil => exact Nat.zero_le _
  | cons entry others ih =>
    rw [List.forall_mem_cons] at nonempty
    have first := List.length_pos_iff.mpr nonempty.1
    have rest := ih nonempty.2
    simp only [List.flatMap_cons, List.length_append, List.length_cons]
    omega

/-- No item is empty, so there are rounds enough for all of them. -/
theorem collect_reads {item : TextParser ε (Option α)} {render : α → List Char}
    {closing : List Char} {fits : α → List α → Prop} (stuck : ε) {list : List α}
    (nonempty : ∀ entry ∈ list, render entry ≠ [])
    (items : ∀ entry others, entry :: others <:+ list →
      item.Reads (render entry ++ (others.flatMap render ++ closing))
        (fits entry others) (some entry) (others.flatMap render ++ closing))
    (ends : item closing = .ok (none, rest)) :
    (collect stuck item).Reads (list.flatMap render ++ closing)
      (∀ entry others, entry :: others <:+ list → fits entry others) list rest := by
  refine collectWithin_reads stuck _ ?_ items ends
  have length := length_le_of_ne_nil nonempty
  rw [List.length_append]
  omega

/-- Items that fit or do not fit whatever comes after them. -/
theorem collect_reads_each {item : TextParser ε (Option α)} {render : α → List Char}
    {closing : List Char} {fits : α → Prop} (stuck : ε) {list : List α}
    (nonempty : ∀ entry ∈ list, render entry ≠ [])
    (items : ∀ entry others, entry :: others <:+ list →
      item.Reads (render entry ++ (others.flatMap render ++ closing))
        (fits entry) (some entry) (others.flatMap render ++ closing))
    (ends : item closing = .ok (none, rest)) :
    (collect stuck item).Reads (list.flatMap render ++ closing)
      (∀ entry ∈ list, fits entry) list rest := by
  refine (collect_reads stuck nonempty items ends).congr ⟨fun allFit entry member => ?_,
    fun allFit entry others isSuffix => allFit entry (isSuffix.subset List.mem_cons_self)⟩
  obtain ⟨before, others, split⟩ := List.append_of_mem member
  exact allFit entry others ⟨before, split.symm⟩

/-- Items that fit or do not fit depending on the item that comes next. -/
theorem collect_reads_chain {item : TextParser ε (Option α)} {render : α → List Char}
    {closing : List Char} {fits : α → Prop} {agrees : α → α → Prop} (stuck : ε) {list : List α}
    (nonempty : ∀ entry ∈ list, render entry ≠ [])
    (items : ∀ entry others, entry :: others <:+ list →
      item.Reads (render entry ++ (others.flatMap render ++ closing))
        (fits entry ∧ ∀ next ∈ others.head?, agrees entry next) (some entry)
        (others.flatMap render ++ closing))
    (ends : item closing = .ok (none, rest)) :
    (collect stuck item).Reads (list.flatMap render ++ closing)
      ((∀ entry ∈ list, fits entry) ∧ list.IsChain agrees) list rest := by
  refine (collect_reads stuck nonempty items ends).congr ?_
  clear nonempty items
  induction list with
  | nil => simp
  | cons entry others ih =>
    rw [List.forall_mem_cons, List.isChain_cons, and_and_and_comm, ← ih]
    constructor
    · exact fun each => ⟨each entry others (List.suffix_refl _), fun next more isSuffix =>
        each next more (isSuffix.trans (List.suffix_cons entry others))⟩
    · rintro ⟨first, each⟩ next more isSuffix
      rcases List.suffix_cons_iff.mp isSuffix with same | isSuffix
      · cases same
        exact first
      · exact each next more isSuffix

end JvmGenerics.TextParser
