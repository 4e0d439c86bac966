import JvmGenerics.Proofs.Text.Reading

/-!
# Deciding on the next character

A predictive parser decides on the next character alone, and it does not tell characters beyond
ASCII apart. Whatever it makes of a text, it makes the same of every other text that agrees with
the first one as far as it has read and then goes on with the same character, or with one that
it cannot tell from it. On its way it passes over single ASCII characters and over whole names.
-/

namespace JvmGenerics.TextParser

/-- The two characters are the same, or neither of them is ASCII. -/
def Alike (c d : Char) : Prop :=
  c = d ∨ 128 ≤ c.toNat ∧ 128 ≤ d.toNat

/-- Both texts are at their ends, or they go on with characters that are alike. -/
inductive StartAlike : List Char → List Char → Prop
  | ends : StartAlike [] []
  | goesOn {c d : Char} (alike : Alike c d) (rest other : List Char) :
      StartAlike (c :: rest) (d :: other)

/-- A question about characters is uniform if no character beyond ASCII is accepted. -/
def Uniform (accepts : Char → Bool) : Prop :=
  ∀ ⦃c : Char⦄, accepts c = true → c.toNat < 128

theorem uniform_of_ascii {wanted : Char} (ascii : wanted.toNat < 128) :
    Uniform (· == wanted) := by
  intro c same
  rwa [eq_of_beq same]

theorem ne_of_beyond {c wanted : Char} (beyond : 128 ≤ c.toNat) (ascii : wanted.toNat < 128) :
    c ≠ wanted := by
  rintro rfl
  omega

namespace StartAlike

variable {text rest other : List Char} {accepts : Char → Bool}

theorem refl (text : List Char) : StartAlike text text := by
  cases text with
  | nil => exact .ends
  | cons c rest => exact .goesOn (Or.inl rfl) rest rest

theorem append (taken : List Char) (alike : StartAlike rest other) :
    StartAlike (taken ++ rest) (taken ++ other) := by
  cases taken with
  | nil => exact alike
  | cons c taken => exact .goesOn (Or.inl rfl) _ _

/-- A uniform question has the same answer for both texts. -/
theorem answers (uniform : Uniform accepts) {answer : Bool} (alike : StartAlike text other)
    (answers : ∀ c ∈ text.head?, accepts c = answer) : ∀ c ∈ other.head?, accepts c = answer := by
  cases alike with
  | ends => exact answers
  | goesOn alike rest other =>
    rcases alike with rfl | ⟨first, second⟩
    · exact answers
    · have rejected {c : Char} (beyond : 128 ≤ c.toNat) : accepts c = false := by
        rw [← Bool.not_eq_true]
        exact fun accepted => Nat.not_lt_of_le beyond (uniform accepted)
      rintro d ⟨⟩
      rw [rejected second, ← answers _ rfl, rejected first]

end StartAlike

/-- What is passed over in front of `rest`: ASCII characters one by one, and names, each as far
as the next delimiter. -/
inductive Passes (delimits : Char → Bool) : List Char → List Char → Prop
  | nothing (rest : List Char) : Passes delimits [] rest
  | token {c : Char} {taken rest : List Char} (ascii : c.toNat < 128) :
      Passes delimits taken rest → Passes delimits (c :: taken) rest
  | name {name taken rest : List Char} (whole : ∀ c ∈ name, delimits c = false)
      (ended : ∀ c ∈ (taken ++ rest).head?, delimits c = true) :
      Passes delimits taken rest → Passes delimits (name ++ taken) rest

namespace Passes

variable {delimits : Char → Bool} {first second taken rest : List Char}

theorem append (passes : Passes delimits first (second ++ rest))
    (further : Passes delimits second rest) : Passes delimits (first ++ second) rest := by
  generalize between : second ++ rest = middle at passes
  induction passes with
  | nothing => exact further
  | token ascii _ ih => exact .token ascii (ih between)
  | name whole ended _ ih =>
    subst between
    rw [List.append_assoc]
    exact .name whole (by rwa [List.append_assoc]) (ih rfl)

theorem tokens (ascii : ∀ c ∈ taken, c.toNat < 128) : Passes delimits taken rest := by
  induction taken with
  | nil => exact .nothing rest
  | cons c taken ih =>
    rw [List.forall_mem_cons] at ascii
    exact .token ascii.1 (ih ascii.2)

end Passes

variable {ε α β : Type} {delimits : Char → Bool}

/-- What a parser has left, whether it has stopped there or not. -/
def ahead : Except (Stop ε) (α × List Char) → List Char
  | .ok (_, rest) => rest
  | .error stopped => stopped.ahead

/-- The same outcome in front of another text. -/
def inFrontOf (other : List Char) :
    Except (Stop ε) (α × List Char) → Except (Stop ε) (α × List Char)
  | .ok (value, _) => .ok (value, other)
  | .error stopped => .error ⟨other, stopped.reason⟩

@[simp] theorem ahead_inFrontOf (other : List Char)
    (outcome : Except (Stop ε) (α × List Char)) : ahead (inFrontOf other outcome) = other := by
  cases outcome <;> rfl

@[simp] theorem inFrontOf_inFrontOf (other text : List Char)
    (outcome : Except (Stop ε) (α × List Char)) :
    inFrontOf other (inFrontOf text outcome) = inFrontOf other outcome := by
  cases outcome <;> rfl

/-- What the parser has taken of the text leads to the same outcome in front of every text that
goes on alike. -/
def PredictsAt (delimits : Char → Bool) (parser : TextParser ε α) (text : List Char) : Prop :=
  ∃ taken, text = taken ++ ahead (parser text) ∧
    Passes delimits taken (ahead (parser text)) ∧
      ∀ other, StartAlike (ahead (parser text)) other →
        parser (taken ++ other) = inFrontOf other (parser text)

/-- The parser decides on the next character alone, wherever it stands. -/
def Predictive (delimits : Char → Bool) (parser : TextParser ε α) : Prop :=
  ∀ text, parser.PredictsAt delimits text

section Steps

variable {parser : TextParser ε α} {next : α → TextParser ε β} {text : List Char}

/-- Where nothing is taken, it is enough that texts which start alike have one outcome. -/
theorem PredictsAt.of_stay (outcome : Except (Stop ε) (α × List Char))
    (stays : ∀ other, StartAlike text other → parser other = inFrontOf other outcome) :
    parser.PredictsAt delimits text := by
  have here := stays text (.refl text)
  rw [PredictsAt, here, ahead_inFrontOf]
  refine ⟨[], rfl, .nothing text, fun other alike => ?_⟩
  rw [inFrontOf_inFrontOf]
  exact stays other alike

theorem PredictsAt.bind (first : parser.PredictsAt delimits text)
    (second : ∀ value between, parser text = .ok (value, between) →
      (next value).PredictsAt delimits between) :
    (parser >>= next).PredictsAt delimits text := by
  obtain ⟨taken, split, passes, decided⟩ := first
  cases read : parser text with
  | error stopped =>
    rw [read] at split passes decided
    rw [PredictsAt, bind_of_error read]
    exact ⟨taken, split, passes, fun other alike => bind_of_error (decided other alike)⟩
  | ok answer =>
    obtain ⟨value, between⟩ := answer
    rw [read] at split passes decided
    rw [PredictsAt, bind_of_ok read]
    obtain ⟨more, splitMore, passesMore, decidedMore⟩ := second value between read
    change Passes delimits taken between at passes
    refine ⟨taken ++ more, ?_, ?_, fun other alike => ?_⟩
    · rw [List.append_assoc, ← splitMore]
      exact split
    · rw [splitMore] at passes
      exact passes.append passesMore
    · have same := decided (more ++ other) (by
        change StartAlike between (more ++ other)
        rw [splitMore]
        exact alike.append more)
      rw [List.append_assoc, bind_of_ok same]
      exact decidedMore other alike

namespace Predictive

theorem bind (first : parser.Predictive delimits)
    (second : ∀ value, (next value).Predictive delimits) :
    (parser >>= next).Predictive delimits :=
  fun text => (first text).bind fun value between _ => second value between

theorem pure (value : α) : Predictive delimits (pure value : TextParser ε α) :=
  fun _ => .of_stay (.ok (value, [])) fun _ _ => rfl

theorem stop (reason : ε) : Predictive delimits (stop reason : TextParser ε α) :=
  fun _ => .of_stay (.error ⟨[], reason⟩) fun _ _ => rfl

/-- What is made of an answer afterwards does not matter. -/
theorem bind_pure (transform : α → β) (predicts : parser.Predictive delimits) :
    Predictive delimits (parser >>= fun value => Pure.pure (transform value)) :=
  predicts.bind fun value => pure (transform value)

theorem map (transform : α → β) (predicts : parser.Predictive delimits) :
    (transform <$> parser).Predictive delimits := by
  rw [map_eq_pure_bind]
  exact predicts.bind_pure transform

/-- Looking at the next character, where all characters beyond ASCII are treated alike. -/
theorem peek_bind {next : Option Char → TextParser ε β}
    (each : ∀ found, (next found).Predictive delimits)
    (same : ∀ c d : Char, 128 ≤ c.toNat → 128 ≤ d.toNat → next (some c) = next (some d)) :
    (peek >>= next).Predictive delimits := by
  intro text
  rw [PredictsAt, TextParser.peek_bind]
  obtain ⟨taken, split, passes, decided⟩ := each text.head? text
  refine ⟨taken, split, passes, fun other alike => ?_⟩
  rw [TextParser.peek_bind, ← decided other alike]
  -- The two texts start with the same character unless nothing has been taken.
  generalize ahead (next text.head? text) = rest at *
  subst split
  cases taken with
  | cons c taken => rfl
  | nil =>
    cases alike with
    | ends => rfl
    | @goesOn c d alike rest other =>
      rcases alike with rfl | ⟨first, second⟩
      · rfl
      · exact congrFun (same d c second first) _

/-- A step that takes `wanted` if it comes next, and takes nothing if it does not. -/
theorem of_token {wanted : Char} (ascii : wanted.toNat < 128) {value : α}
    (outcome : Except (Stop ε) (α × List Char))
    (found : ∀ rest, parser (wanted :: rest) = .ok (value, rest))
    (missing : ∀ {text}, (∀ c ∈ text.head?, c ≠ wanted) → parser text = inFrontOf text outcome) :
    parser.Predictive delimits := by
  intro text
  by_cases differs : ∀ c ∈ text.head?, (c == wanted) = false
  · refine .of_stay outcome fun other alike => missing ?_
    have stillDiffers := alike.answers (uniform_of_ascii ascii) differs
    simpa using stillDiffers
  · obtain ⟨rest, rfl⟩ : ∃ rest, text = wanted :: rest := by
      cases text with
      | nil => simp at differs
      | cons c rest => exact ⟨rest, by simpa using differs⟩
    rw [PredictsAt, found]
    exact ⟨[wanted], rfl, .token ascii (.nothing rest), fun other _ => found other⟩

theorem eat {wanted : Char} (ascii : wanted.toNat < 128) :
    Predictive delimits (eat wanted : TextParser ε Bool) :=
  of_token ascii (.ok (false, [])) (eat_self wanted) eat_of_ne

theorem expect {wanted : Char} (ascii : wanted.toNat < 128) (reason : ε) :
    Predictive delimits (expect wanted reason) :=
  of_token ascii (.error ⟨[], reason⟩) (expect_self wanted reason) (expect_of_ne reason)

theorem finish (reason : ε) : Predictive delimits (finish reason) := by
  intro text
  cases text with
  | nil =>
    refine .of_stay (.ok ((), [])) fun other alike => ?_
    cases alike
    rfl
  | cons c rest =>
    refine .of_stay (.error ⟨[], reason⟩) fun other alike => ?_
    cases alike
    rfl

/-- A run of ASCII characters. -/
theorem takeWhile {accepts : Char → Bool} (uniform : Uniform accepts) :
    Predictive delimits (takeWhile accepts : TextParser ε (List Char)) := by
  intro text
  obtain ⟨taken, rest, rfl, all, ended⟩ := exists_run accepts text
  have read {other : List Char} (ended : ∀ c ∈ other.head?, accepts c = false) :
      (TextParser.takeWhile accepts : TextParser ε (List Char)) (taken ++ other) =
        .ok (taken, other) := by
    have ⟨run, left⟩ := takeWhile_append_of_all all ended
    rw [TextParser.takeWhile, run, left]
  rw [PredictsAt, read ended]
  refine ⟨taken, rfl, ?_, fun other alike => read (alike.answers uniform ended)⟩
  exact .tokens fun c member => uniform (all c member)

/-- A name, which goes on as far as the next delimiter. -/
theorem name (uniform : Uniform delimits) (reason : ε) :
    Predictive delimits (takeWhile1 (fun c => !delimits c) reason) := by
  intro text
  obtain ⟨taken, rest, rfl, all, ended⟩ := exists_run (fun c => !delimits c) text
  -- Names end alike: a delimiter is ASCII, so no other character is like it.
  have delimited : ∀ c ∈ rest.head?, delimits c = true := by simpa using ended
  have endsAlike {other : List Char} (alike : StartAlike rest other) :
      ∀ c ∈ other.head?, (!delimits c) = false := by
    simpa using alike.answers uniform delimited
  by_cases empty : taken = []
  · subst empty
    exact .of_stay (.error ⟨[], reason⟩) fun other alike =>
      takeWhile1_of_none reason (endsAlike alike)
  · rw [PredictsAt, takeWhile1_of_all reason empty all ended]
    refine ⟨taken, rfl, ?_, fun other alike =>
      takeWhile1_of_all reason empty all (endsAlike alike)⟩
    have passes : Passes delimits (taken ++ []) rest :=
      .name (by simpa using all) (by simpa using delimited) (.nothing rest)
    rwa [List.append_nil] at passes

end Predictive

end Steps

/-- An item that is found takes at least one character. -/
def Advances (item : TextParser ε (Option α)) : Prop :=
  ∀ ⦃text value rest⦄, item text = .ok (some value, rest) → rest.length < text.length

/-- Where the text of an item is never empty, reading the item takes something. -/
theorem Advances.of_accepts {item : TextParser ε (Option α)} {render : α → List Char}
    {closing : List Char} {good : α → Prop}
    (accepts : item.Accepts (itemText render closing) fun found => ∀ entry ∈ found, good entry)
    (nonempty : ∀ entry, good entry → render entry ≠ []) : Advances item := by
  intro text entry rest read
  obtain ⟨rfl, isGood⟩ := accepts read
  have positive := List.length_pos_iff.mpr (nonempty entry (isGood entry rfl))
  rw [itemText, List.length_append]
  omega

section Repetition

variable {item : TextParser ε (Option α)}

/-- The bound on the rounds is not felt as soon as there are more rounds than characters. -/
theorem collectWithin_eq (advances : Advances item) (stuck : ε) {rounds others : Nat}
    {text : List Char} (enough : text.length < rounds) (alsoEnough : text.length < others) :
    collectWithin stuck item rounds text = collectWithin stuck item others text := by
  induction rounds generalizing others text with
  | zero => exact absurd enough (Nat.not_lt_zero _)
  | succ rounds ih =>
    cases others with
    | zero => exact absurd alsoEnough (Nat.not_lt_zero _)
    | succ others =>
      refine bind_congr_at rfl fun found rest read => ?_
      cases found with
      | none => rfl
      | some first =>
        have shorter := advances read
        exact bind_congr_at (ih (by omega) (by omega)) fun _ _ _ => rfl

/-- Read an item, and if there was one, the items that follow it. -/
theorem collect_eq (advances : Advances item) (stuck : ε) :
    collect stuck item = item >>= fun found =>
      match found with
      | none => pure []
      | some first => collect stuck item >>= fun others => pure (first :: others) := by
  funext text
  refine bind_congr_at rfl fun found rest read => ?_
  cases found with
  | none => rfl
  | some first =>
    have same := collectWithin_eq advances stuck (advances read) (Nat.lt_succ_self rest.length)
    exact bind_congr_at same fun _ _ _ => rfl

theorem Predictive.collect (predicts : item.Predictive delimits) (advances : Advances item)
    (stuck : ε) : (collect stuck item).Predictive delimits := by
  intro text
  induction length : text.length using Nat.strong_induction_on generalizing text with
  | _ length ih =>
    rw [collect_eq advances]
    refine (predicts text).bind fun found rest read => ?_
    cases found with
    | none => exact Predictive.pure [] rest
    | some first =>
      have others := ih rest.length (length ▸ advances read) rest rfl
      exact others.bind fun list between _ => Predictive.pure (first :: list) between

end Repetition

end JvmGenerics.TextParser
