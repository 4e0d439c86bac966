import JvmGenerics.Proofs.Signature.Predictive
import JvmGenerics.Proofs.Text.Utf8
import JvmGenerics.Signature.ByteReader

/-!
# Bytes and characters are read alike

A reader of bytes that stands between two characters makes the same of the text as the parser of
its characters, and it stops between two characters again, at the depth at which it started. So
no name is ever cut out inside of a character, and the levels that a parser has left are those
that the count of the reader leaves up to the limit.
-/

namespace JvmGenerics.Signature

open TextParser Utf8

variable {α β : Type} {depth : Nat}

namespace ByteReader

/-- The reader stands between two characters. -/
def between (before after : List Char) (depth : Nat) : ByteReader :=
  ⟨String.ofList (before ++ after), (encode before).length, depth⟩

/-- The reader stops where it stands, with the outcome of a parser. -/
def stops (reader : ByteReader) :
    Except (Stop Reason) (α × List Char) → Except Fault α × ByteReader
  | .ok (value, _) => (.ok value, reader)
  | .error stopped => (.error (.refused ⟨reader.text, reader.position, stopped.reason⟩), reader)

variable (before taken after : List Char) (depth)

@[simp] theorem position_between : (between before after depth).position = (encode before).length :=
  rfl

@[simp] theorem bytes_between :
    bytes (between before after depth).text = encode (before ++ after) := by
  rw [bytes_eq, between, String.toList_ofList]

/-- Behind the characters that were taken, only the place has changed. -/
theorem between_append : between (before ++ taken) after depth =
    { between before (taken ++ after) depth with
      position := (encode (before ++ taken)).length } := by
  simp [between]

end ByteReader

open ByteReader

section Runs

variable {reading : Reading α} {next : α → Reading β} {reader later : ByteReader}

theorem run_bind_of_ok {value : α} (read : reading.run.run reader = (.ok value, later)) :
    (reading >>= next).run.run reader = (next value).run.run later := by
  rw [ExceptT.run_bind, StateT.run_bind, read]
  rfl

theorem run_bind_of_error {fault : Fault}
    (failed : reading.run.run reader = (.error fault, later)) :
    (reading >>= next).run.run reader = (.error fault, later) := by
  rw [ExceptT.run_bind, StateT.run_bind, failed]
  rfl

theorem run_observing {answer : Except Fault α} (read : reading.run.run reader = (answer, later)) :
    (observing reading).run.run reader = (.ok answer, later) := by
  rw [observing, ExceptT.run_tryCatch, StateT.run_bind]
  cases answer with
  | ok value =>
    rw [run_bind_of_ok read]
    rfl
  | error fault =>
    rw [run_bind_of_error read]
    rfl

/-- Behind a type the count is what it was in front of it, whatever became of the type. -/
theorem run_nested (reader : ByteReader) {answer : Except Fault α}
    (room : reader.depth < maxNesting)
    (inside : reading.run.run { reader with depth := reader.depth + 1 } = (answer, later)) :
    (Reading.nested reading).run.run reader =
      (answer, { later with depth := later.depth - 1 }) := by
  change ((if maxNesting ≤ reader.depth then _ else _ : Reading α)).run.run reader = _
  rw [if_neg (Nat.not_le_of_lt room)]
  refine (run_bind_of_ok rfl).trans ?_
  refine (run_bind_of_ok (run_observing inside)).trans ?_
  refine (run_bind_of_ok rfl).trans ?_
  cases answer <;> rfl

theorem run_nested_of_le (deep : maxNesting ≤ reader.depth) :
    (Reading.nested reading).run.run reader =
      (.error (.refused ⟨reader.text, reader.position, .nesting⟩), reader) := by
  change ((if maxNesting ≤ reader.depth then _ else _ : Reading α)).run.run reader = _
  rw [if_pos deep]
  exact run_bind_of_error rfl

theorem run_eat (wanted : Char) {found : Option Char}
    (peeked : Reading.peek.run.run reader = (.ok found, reader)) :
    (Reading.eat wanted).run.run reader =
      if found = some wanted then (.ok true, { reader with position := reader.position + 1 })
      else (.ok false, reader) := by
  rw [Reading.eat, run_bind_of_ok peeked]
  split <;> rfl

theorem run_takeWhile {accepts : Char → Bool} {found : List UInt8}
    (run : ((bytes reader.text).drop reader.position).takeWhile (accepts ∘ Char.ofUInt8) = found) :
    (Reading.takeWhile accepts).run.run reader = (.ok (found.map Char.ofUInt8),
      { reader with position := reader.position + found.length }) := by
  subst run
  rfl

theorem run_identifier_of_eq
    (empty : nameEnd isDelimiter (bytes reader.text) reader.position = reader.position) :
    Reading.identifier.run.run reader =
      (.error (.refused ⟨reader.text, reader.position, .identifier⟩), reader) := by
  refine (run_bind_of_ok rfl).trans ?_
  rw [empty]
  refine (run_bind_of_ok rfl).trans ?_
  rw [if_pos rfl]
  exact run_bind_of_error rfl

theorem run_identifier {last : Nat} {name : String}
    (ends : nameEnd isDelimiter (bytes reader.text) reader.position = last)
    (further : reader.position < last) (cut : slice? reader.text reader.position last = some name) :
    Reading.identifier.run.run reader = (.ok name, { reader with position := last }) := by
  refine (run_bind_of_ok rfl).trans ?_
  rw [ends]
  refine (run_bind_of_ok rfl).trans ?_
  rw [if_neg (Nat.ne_of_gt further), cut]
  rfl

end Runs

/-- In front of `after`, the reader takes the same characters as the parser, with the same
outcome, and it stops at the depth at which it started. -/
def FollowsAt (depth : Nat) (reading : Reading α) (parser : Parser α) (before after : List Char) :
    Prop :=
  ∃ taken, after = taken ++ ahead (parser after) ∧
    reading.run.run (.between before after depth) =
      (between (before ++ taken) (ahead (parser after)) depth).stops (parser after)

/-- The reader follows the parser through every text. -/
def Follows (depth : Nat) (reading : Reading α) (parser : Parser α) : Prop :=
  ∀ before after, FollowsAt depth reading parser before after

section Steps

variable {reading : Reading α} {next : α → Reading β} {parser : Parser α} {further : α → Parser β}
variable {before after : List Char}

theorem FollowsAt.of_stay (stays : ahead (parser after) = after)
    (same : reading.run.run (.between before after depth) =
      (between before after depth).stops (parser after)) :
    FollowsAt depth reading parser before after := by
  refine ⟨[], stays.symm, ?_⟩
  rw [stays, List.append_nil]
  exact same

theorem FollowsAt.congr {alsoReading : Reading α} {alsoParser : Parser α}
    (same : reading.run.run (.between before after depth) =
      alsoReading.run.run (.between before after depth))
    (alsoSame : parser after = alsoParser after)
    (follows : FollowsAt depth alsoReading alsoParser before after) :
    FollowsAt depth reading parser before after := by
  rwa [FollowsAt, same, alsoSame]

theorem FollowsAt.bind (first : FollowsAt depth reading parser before after)
    (second : ∀ value taken rest, parser after = .ok (value, rest) →
      FollowsAt depth (next value) (further value) (before ++ taken) rest) :
    FollowsAt depth (reading >>= next) (parser >>= further) before after := by
  obtain ⟨taken, split, same⟩ := first
  cases read : parser after with
  | error stopped =>
    rw [read] at split same
    rw [FollowsAt, bind_of_error read]
    exact ⟨taken, split, run_bind_of_error same⟩
  | ok answer =>
    obtain ⟨value, rest⟩ := answer
    rw [read] at split same
    rw [FollowsAt, bind_of_ok read]
    obtain ⟨more, splitMore, alsoSame⟩ := second value taken rest read
    refine ⟨taken ++ more, ?_, ?_⟩
    · rw [List.append_assoc, ← splitMore]
      exact split
    · rw [← List.append_assoc]
      exact (run_bind_of_ok same).trans alsoSame

namespace Follows

theorem bind (first : Follows depth reading parser)
    (second : ∀ value, Follows depth (next value) (further value)) :
    Follows depth (reading >>= next) (parser >>= further) := by
  intro before after
  exact (first before after).bind fun value taken rest _ => second value (before ++ taken) rest

theorem pure (value : α) : Follows depth (pure value) (pure value) :=
  fun _ _ => .of_stay rfl rfl

theorem refuse (reason : Reason) : Follows depth (Reading.refuse (α := α) reason) (stop reason) :=
  fun _ _ => .of_stay rfl rfl

theorem bind_pure (transform : α → β) (follows : Follows depth reading parser) :
    Follows depth (reading >>= fun value => Pure.pure (transform value))
      (parser >>= fun value => Pure.pure (transform value)) :=
  follows.bind fun value => pure (transform value)

theorem map (transform : α → β) (follows : Follows depth reading parser) :
    Follows depth (transform <$> reading) (transform <$> parser) := by
  rw [map_eq_pure_bind, map_eq_pure_bind]
  exact follows.bind_pure transform

end Follows

/-- The reader finds the character that comes next, or another one beyond ASCII. -/
theorem exists_run_peek (before rest : List Char) (c : Char) :
    ∃ d, Alike c d ∧ Reading.peek.run.run (.between before (c :: rest) depth) =
      (.ok (some d), .between before (c :: rest) depth) := by
  obtain ⟨d, found, alike⟩ := exists_alike before rest c
  rw [← bytes_between depth before (c :: rest)] at found
  refine ⟨d, alike, ?_⟩
  rw [← found]
  rfl

theorem run_peek_end (before : List Char) :
    Reading.peek.run.run (.between before [] depth) = (.ok none, .between before [] depth) := by
  have ends : (bytes (between before [] depth).text)[(between before [] depth).position]?.map
      Char.ofUInt8 = none := by simp
  rw [← ends]
  rfl

namespace Follows

/-- Looking at the next character, where all characters beyond ASCII are treated alike. -/
theorem peek_bind {next : Option Char → Reading β} {further : Option Char → Parser β}
    (each : ∀ found, Follows depth (next found) (further found))
    (same : ∀ c d : Char, 128 ≤ c.toNat → 128 ≤ d.toNat → further (some c) = further (some d)) :
    Follows depth (Reading.peek >>= next) (peek >>= further) := by
  intro before after
  cases after with
  | nil => exact (each none before []).congr (run_bind_of_ok (run_peek_end before)) rfl
  | cons c rest =>
    obtain ⟨d, alike, peeked⟩ := exists_run_peek before rest c
    refine (each (some d) before (c :: rest)).congr (run_bind_of_ok peeked) ?_
    rcases alike with rfl | ⟨beyond, alsoBeyond⟩
    · rfl
    · exact congrFun (same c d beyond alsoBeyond) (c :: rest)

theorem eat {wanted : Char} (ascii : wanted.toNat < 128) :
    Follows depth (Reading.eat wanted) (eat wanted) := by
  intro before after
  cases after with
  | nil => exact .of_stay rfl (run_eat wanted (run_peek_end before))
  | cons c rest =>
    obtain ⟨d, alike, peeked⟩ := exists_run_peek before rest c
    have found := run_eat wanted peeked
    by_cases same : c = wanted
    · subst same
      obtain rfl : c = d := alike.resolve_right fun beyond => Nat.not_lt_of_le beyond.1 ascii
      rw [if_pos rfl] at found
      refine ⟨[c], by rw [eat_self]; rfl, ?_⟩
      have oneByte : (encode (before ++ [c])).length = (encode before).length + 1 := by
        simp [encode, encode_of_ascii ascii]
      rw [eat_self, found]
      change _ = (Except.ok true, between (before ++ [c]) rest depth)
      rw [between_append, oneByte]
      rfl
    · have alsoDiffers : d ≠ wanted := by
        rcases alike with rfl | ⟨-, beyond⟩
        · exact same
        · exact ne_of_beyond beyond ascii
      have missing : (TextParser.eat wanted : Parser Bool) (c :: rest) = .ok (false, c :: rest) :=
        eat_of_ne (by simpa using same)
      rw [if_neg (by simpa using alsoDiffers)] at found
      refine .of_stay ?_ ?_
      · rw [missing]
        rfl
      · rw [missing]
        exact found

theorem expect {wanted : Char} (ascii : wanted.toNat < 128) (reason : Reason) :
    Follows depth (Reading.expect wanted reason) (expect wanted reason) := by
  have parts : (TextParser.expect wanted reason : Parser Unit) =
      TextParser.eat wanted >>= fun found => if found then Pure.pure () else stop reason := by
    funext text
    cases text with
    | nil => rfl
    | cons c rest =>
      by_cases same : c = wanted
      · rw [same, expect_self, bind_of_ok (eat_self wanted rest)]
        rfl
      · have differs : ∀ d ∈ (c :: rest).head?, d ≠ wanted := by simpa using same
        rw [expect_of_ne reason differs, bind_of_ok (eat_of_ne differs)]
        rfl
  rw [parts]
  refine (eat ascii).bind fun found => ?_
  cases found with
  | true => exact .pure ()
  | false => exact .refuse reason

theorem finish (reason : Reason) :
    Follows depth (Reading.finish reason) (finish reason) := by
  have parts : (TextParser.finish reason : Parser Unit) =
      peek >>= fun found => if found.isSome then stop reason else Pure.pure () := by
    funext text
    cases text <;> rfl
  rw [parts]
  refine peek_bind (fun found => ?_) fun _ _ _ _ => rfl
  cases found with
  | none => exact .pure ()
  | some _ => exact .refuse reason

/-- A run of ASCII characters is a run of bytes. -/
theorem takeWhile {accepts : Char → Bool} (uniform : Uniform accepts) :
    Follows depth (Reading.takeWhile accepts) (takeWhile accepts) := by
  intro before after
  have ascii : ∀ c ∈ after.takeWhile accepts, c.toNat < 128 := fun c member =>
    uniform (List.mem_takeWhile_imp member)
  have found : ((bytes (between before after depth).text).drop
      (between before after depth).position).takeWhile (accepts ∘ Char.ofUInt8) =
        encode (after.takeWhile accepts) := by
    rw [bytes_between, position_between, encode_append, List.drop_left]
    exact takeWhile_encode accepts (fun _ _ => ofUInt8_of_mem_encode uniform) after
  refine ⟨after.takeWhile accepts, List.takeWhile_append_dropWhile.symm, ?_⟩
  change _ = (Except.ok (after.takeWhile accepts),
    between (before ++ after.takeWhile accepts) (after.dropWhile accepts) depth)
  rw [run_takeWhile found, map_ofUInt8_encode ascii, between_append,
    List.takeWhile_append_dropWhile, encode_append, List.length_append]
  rfl

/-- A name is read in front of a delimiter, so both of its ends are between two characters. -/
theorem identifier : Follows depth Reading.identifier identifier := by
  intro before after
  obtain ⟨name, rest, rfl, all, ended⟩ := exists_run (fun c => !isDelimiter c) after
  have ends : nameEnd isDelimiter (bytes (between before (name ++ rest) depth).text)
      (between before (name ++ rest) depth).position = (encode (before ++ name)).length := by
    rw [bytes_between, position_between, nameEnd_encode uniform_isDelimiter,
      (takeWhile_append_of_all all ended).1]
  by_cases empty : name = []
  · subst empty
    have refused : Signature.identifier rest = .error ⟨rest, .identifier⟩ := by
      rw [Signature.identifier, map_eq_pure_bind]
      exact bind_of_error (takeWhile1_of_none _ ended)
    rw [List.append_nil] at ends
    refine .of_stay ?_ ?_
    · rw [List.nil_append, refused]
      rfl
    · rw [List.nil_append, refused]
      exact run_identifier_of_eq ends
  · have accepted : Signature.identifier (name ++ rest) = .ok (String.ofList name, rest) :=
      map_eq_ok_iff.mpr ⟨name, takeWhile1_of_all _ empty all ended, rfl⟩
    have split : (between before (name ++ rest) depth).text.toList = before ++ name ++ rest := by
      simp [between]
    have further : (encode before).length < (encode (before ++ name)).length := by
      have positive := List.length_pos_iff.mpr empty
      have fewer := length_le_length_encode name
      rw [encode_append, List.length_append]
      omega
    refine ⟨name, by rw [accepted]; rfl, ?_⟩
    rw [accepted, run_identifier ends further (slice?_eq_some split)]
    change _ = (Except.ok _, between (before ++ name) rest depth)
    rw [between_append]

section Repetition

variable {reading : Reading (Option α)} {item : Parser (Option α)}

theorem collectWithin (follows : Follows depth reading item) (advances : Advances item)
    (stuck : Reason) {rounds : Nat} (before after : List Char) (enough : after.length < rounds) :
    FollowsAt depth (Reading.collectWithin reading rounds) (collect stuck item) before after := by
  induction rounds generalizing before after with
  | zero => exact absurd enough (Nat.not_lt_zero _)
  | succ rounds ih =>
    rw [collect_eq advances]
    refine (follows before after).bind fun found taken rest read => ?_
    cases found with
    | none => exact pure [] _ _
    | some first =>
      have shorter := advances read
      exact (ih _ _ (by omega)).bind fun others _ _ _ => pure (first :: others) _ _

/-- A reader has at least as many bytes in front of it as a parser has characters. -/
theorem collect (follows : Follows depth reading item) (advances : Advances item)
    (stuck : Reason) : Follows depth (Reading.collect reading) (collect stuck item) := by
  intro before after
  have enough : after.length < (bytes (between before after depth).text).length -
      (between before after depth).position + 1 := by
    have fewer := length_le_length_encode after
    rw [bytes_between, position_between, encode_append, List.length_append]
    omega
  exact (follows.collectWithin advances stuck before after enough).congr rfl rfl

end Repetition

/-- One level deeper, a reader has one level less left. -/
theorem nested (room : depth < maxNesting) (follows : Follows (depth + 1) reading parser) :
    Follows depth (Reading.nested reading) parser := by
  intro before after
  obtain ⟨taken, split, inside⟩ := follows before after
  refine ⟨taken, split, ?_⟩
  cases read : parser after with
  | ok answer =>
    rw [read] at inside
    exact run_nested (between before after depth) room inside
  | error stopped =>
    rw [read] at inside
    exact run_nested (between before after depth) room inside

theorem nested_of_le (deep : maxNesting ≤ depth) :
    Follows depth (Reading.nested reading) (stop (α := α) .nesting) :=
  fun _ _ => .of_stay rfl (run_nested_of_le deep)

end Follows

end Steps

theorem furtherPackageName_follows :
    Follows depth Reading.furtherPackageName furtherPackageName := by
  refine (Follows.eat (by decide)).bind fun slash => ?_
  cases slash with
  | true => exact Follows.identifier.bind_pure some
  | false => exact .pure none

theorem typeVariable_follows : Follows depth Reading.typeVariable typeVariable := by
  refine (Follows.expect (by decide) _).bind fun _ => ?_
  refine Follows.identifier.bind fun name => ?_
  exact (Follows.expect (by decide) _).bind_pure _

section Parts

variable {reading : Reading ReferenceType} {reference : Parser ReferenceType} {levels : Nat}
variable (accepts : reference.Accepts ReferenceType.render
  fun type => type.WellFormed ∧ type.Fits levels)
variable (follows : Follows depth reading reference)
include follows

theorem argument_follows : Follows depth (Reading.argument reading) (argument reference) := by
  refine Follows.peek_bind (fun found => ?_) ?_
  · split
    · exact .refuse _
    · exact (Follows.expect (by decide) _).bind_pure _
    · exact (Follows.expect (by decide) _).bind_pure _
    · exact (Follows.expect (by decide) _).bind fun _ => follows.bind_pure _
    · exact (Follows.expect (by decide) _).bind fun _ => follows.bind_pure _
    · simpa only using
        follows.bind_pure fun type => some (TypeArgument.bounded .invariant type)
  · intro c d first second
    simp [ne_of_beyond first, ne_of_beyond second]

theorem typeSignature_follows :
    Follows depth (Reading.typeSignature reading) (typeSignature reference) := by
  refine Follows.peek_bind (fun found => ?_) ?_
  · cases found.bind BaseType.ofLetter? with
    | none => exact follows.bind_pure _
    | some type => exact (Follows.expect (letter_toNat_lt type) _).bind_pure _
  · intro c d first second
    simp only [Option.bind_some, ofLetter?_of_beyond first, ofLetter?_of_beyond second]

include accepts

theorem arguments_follows : Follows depth (Reading.arguments reading) (arguments reference) := by
  refine (Follows.eat (by decide)).bind fun bracket => ?_
  cases bracket with
  | false => exact .pure []
  | true =>
    have found := (argument_follows follows).collect (argument_advances accepts)
    refine (found _).bind fun found => ?_
    cases found with
    | nil => exact .refuse _
    | cons first others => exact .pure (first :: others)

theorem memberClass_follows :
    Follows depth (Reading.memberClass reading) (memberClass reference) := by
  refine (Follows.eat (by decide)).bind fun point => ?_
  cases point with
  | false => exact .pure none
  | true =>
    refine Follows.identifier.bind fun name => ?_
    exact (arguments_follows accepts follows).bind_pure _

theorem classType_follows : Follows depth (Reading.classType reading) (classType reference) := by
  refine (Follows.expect (by decide) _).bind fun _ => ?_
  refine Follows.identifier.bind fun first => ?_
  refine (furtherPackageName_follows.collect furtherPackageName_advances _).bind fun further => ?_
  refine (arguments_follows accepts follows).bind fun list => ?_
  have members := (memberClass_follows accepts follows).collect (memberClass_advances accepts)
  refine (members _).bind fun members => ?_
  exact (Follows.expect (by decide) _).bind_pure _

theorem referenceTypeOver_follows :
    Follows depth (Reading.referenceTypeOver reading) (referenceTypeOver reference) := by
  refine Follows.peek_bind (fun found => ?_) ?_
  · split
    · exact .refuse _
    · exact (classType_follows accepts follows).bind_pure _
    · exact typeVariable_follows
    · refine (Follows.takeWhile (uniform_of_ascii (by decide))).bind fun brackets => ?_
      have component := typeSignature_follows follows
      by_cases tooMany : brackets.length > maxDimensions
      · rw [if_pos tooMany, if_pos tooMany]
        exact (Follows.refuse _).bind fun _ => component.bind_pure _
      · rw [if_neg tooMany, if_neg tooMany]
        exact component.bind_pure _
    · simpa only using Follows.refuse .referenceType
  · intro c d first second
    simp [ne_of_beyond first, ne_of_beyond second]

end Parts

/-- The levels that are left to the parser are those up to the limit, and the rounds of the
reader are never used up. -/
theorem referenceTypeBy_follows (rounds depth : Nat) (enough : maxNesting ≤ depth + rounds) :
    Follows depth (Reading.referenceTypeBy (rounds + 1))
      (referenceTypeWithin (maxNesting - depth)) := by
  induction rounds generalizing depth with
  | zero =>
    have deep : maxNesting ≤ depth := enough
    rw [Nat.sub_eq_zero_of_le deep]
    exact .nested_of_le deep
  | succ rounds ih =>
    by_cases room : depth < maxNesting
    · have levels : maxNesting - depth = maxNesting - (depth + 1) + 1 := by omega
      have parts := ih (depth + 1) (by omega)
      rw [levels]
      exact .nested room (referenceTypeOver_follows (referenceTypeWithin_accepts _) parts)
    · have deep := Nat.le_of_not_lt room
      rw [Nat.sub_eq_zero_of_le deep]
      exact .nested_of_le deep

theorem referenceType_follows : Follows 0 Reading.referenceType referenceType :=
  referenceTypeBy_follows maxNesting 0 (Nat.le_of_eq (Nat.zero_add maxNesting).symm)

theorem standingClass_follows :
    Follows 0 (Reading.classType Reading.referenceType) (classType referenceType) :=
  classType_follows referenceType_accepts referenceType_follows

theorem interfaceBound_follows : Follows 0 Reading.interfaceBound interfaceBound := by
  refine (Follows.eat (by decide)).bind fun colon => ?_
  cases colon with
  | false => exact .pure none
  | true => exact referenceType_follows.bind_pure _

theorem classBound_follows : Follows 0 Reading.classBound classBound := by
  refine Follows.peek_bind (fun found => ?_) ?_
  · split
    · exact referenceType_follows.bind_pure _
    · exact referenceType_follows.bind_pure _
    · exact referenceType_follows.bind_pure _
    · simpa only using Follows.pure none
  · intro c d first second
    simp [ne_of_beyond first, ne_of_beyond second]

theorem typeParameter_follows : Follows 0 Reading.typeParameter typeParameter := by
  refine Follows.peek_bind (fun found => ?_) ?_
  · cases found with
    | none => exact .refuse _
    | some c =>
      by_cases closing : c = '>'
      · subst closing
        exact (Follows.expect (by decide) _).bind_pure _
      · simp only
        refine Follows.identifier.bind fun name => ?_
        refine (Follows.expect (by decide) _).bind fun _ => ?_
        refine classBound_follows.bind fun first => ?_
        exact (interfaceBound_follows.collect interfaceBound_advances _).bind_pure _
  · intro c d first second
    simp [ne_of_beyond first, ne_of_beyond second]

theorem typeParameters_follows : Follows 0 Reading.typeParameters typeParameters := by
  refine (Follows.eat (by decide)).bind fun bracket => ?_
  cases bracket with
  | false => exact .pure []
  | true =>
    refine (typeParameter_follows.collect typeParameter_advances _).bind fun found => ?_
    cases found with
    | nil => exact .refuse _
    | cons first others => exact .pure (first :: others)

theorem interface_follows : Follows 0 Reading.interface interface := by
  refine Follows.peek_bind (fun found => ?_) fun _ _ _ _ => rfl
  cases found with
  | none => exact .pure none
  | some _ => exact standingClass_follows.bind_pure _

theorem parameter_follows : Follows 0 Reading.parameter parameter := by
  refine (Follows.eat (by decide)).bind fun closed => ?_
  cases closed with
  | true => exact .pure none
  | false => exact (typeSignature_follows referenceType_follows).bind_pure _

theorem thrown_follows : Follows 0 Reading.thrown thrown := by
  refine (Follows.eat (by decide)).bind fun circumflex => ?_
  cases circumflex with
  | false => exact .pure none
  | true =>
    refine Follows.peek_bind (fun found => ?_) ?_
    · split
      · exact typeVariable_follows.bind_pure _
      · simpa only using
          standingClass_follows.bind_pure fun type => some (ReferenceType.classType type)
    · intro c d first second
      simp [ne_of_beyond first, ne_of_beyond second]

theorem returnType_follows : Follows 0 Reading.returnType returnType := by
  refine (Follows.eat (by decide)).bind fun returnsNothing => ?_
  cases returnsNothing with
  | true => exact .pure none
  | false => exact (typeSignature_follows referenceType_follows).map some

theorem classSignature_follows : Follows 0 Reading.classSignature classSignature := by
  refine typeParameters_follows.bind fun parameters => ?_
  refine standingClass_follows.bind fun superclass => ?_
  exact (interface_follows.collect interface_advances _).bind_pure _

theorem methodSignature_follows : Follows 0 Reading.methodSignature methodSignature := by
  rw [methodSignature_eq]
  refine typeParameters_follows.bind fun declared => ?_
  refine (Follows.expect (by decide) _).bind fun _ => ?_
  refine (parameter_follows.collect parameter_advances _).bind fun parameters => ?_
  refine returnType_follows.bind fun returned => ?_
  refine (thrown_follows.collect thrown_advances _).bind fun throws => ?_
  exact (Follows.finish _).bind_pure _

theorem fieldSignature_follows : Follows 0 Reading.fieldSignature fieldSignature :=
  referenceType_follows.bind fun _ => (Follows.finish _).bind_pure _

theorem utf8Length_eq (text : List Char) : utf8Length text = (encode text).length := by
  induction text with
  | nil => rfl
  | cons c rest ih =>
    rw [encode_cons, List.length_append, String.length_utf8EncodeChar, ← ih]
    rfl

/-- What was taken before the parser stopped is the place of the fault. -/
theorem run_eq_error {parser : Parser α} {text : String} {taken ahead : List Char}
    {reason : Reason} (split : text.toList = taken ++ ahead)
    (failed : parser text.toList = .error ⟨ahead, reason⟩) :
    run parser text = .error ⟨text, (encode taken).length, reason⟩ := by
  have place : utf8Length text.toList - utf8Length ahead = (encode taken).length := by
    rw [split, utf8Length_eq, utf8Length_eq, encode_append, List.length_append]
    omega
  rw [run, parse, failed, ← place]
  rfl

/-- Read by bytes, a text gives the same signature or the same error, at the same place. -/
theorem Follows.parse_eq {reading : Reading α} {parser : Parser α}
    (follows : Follows 0 reading parser) (text : String) : reading.parse text = (run parser text).mapError .refused := by
  obtain ⟨taken, split, same⟩ := follows [] text.toList
  have start : between [] text.toList 0 = ⟨text, 0, 0⟩ := by
    rw [between, List.nil_append, String.ofList_toList]
    rfl
  rw [Reading.parse, ← start, same, List.nil_append]
  cases parsed : parser text.toList with
  | ok answer =>
    rw [run, TextParser.parse, parsed]
    rfl
  | error stopped =>
    rw [parsed] at split
    have whole : (between taken stopped.ahead 0).text = text := by
      change String.ofList (taken ++ stopped.ahead) = text
      rw [← String.ofList_toList (s := text), split]
      rfl
    rw [run_eq_error split parsed]
    change Except.error (Fault.refused ⟨(between taken stopped.ahead 0).text, _, _⟩) = _
    rw [whole]
    rfl

end JvmGenerics.Signature
