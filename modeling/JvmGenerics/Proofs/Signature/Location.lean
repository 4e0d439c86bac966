import JvmGenerics.Proofs.Signature.ByteReader

/-!
# Where a text stops being a signature

Every production of the grammar is predictive, so the place of a fault is decided by the bytes
in front of it and by the one byte that stands there: no text that begins with them is a
signature, and all such texts are refused for the same reason. The place is between two
characters, although the bytes are looked at one by one, and so are both ends of every name.
-/

namespace JvmGenerics.Signature

open TextParser Utf8

/-- A name that begins at a place is cut out of the text between two characters, and it is the
name that is read there. -/
structure CutsName (text : String) (place : Nat) : Prop where
  starts : (String.Pos.Raw.mk place).IsValid text
  ends : (String.Pos.Raw.mk (nameEnd isDelimiter (bytes text) place)).IsValid text
  reads : ∀ before after name rest, text.toList = before ++ after →
    (encode before).length = place → identifier after = .ok (name, rest) →
      text.toList = before ++ name.toList ++ rest ∧
        (encode (before ++ name.toList)).length = nameEnd isDelimiter (bytes text) place

/-- The error that `parse` reports for a text is located precisely: it lies between two
characters, at a place that a reader of the bytes comes to, and every text that begins with the
same bytes, up to the one at that place, is refused there for the same reason. -/
structure Located {α : Type} (parse : String → Except ParseError α) (text : String)
    (error : ParseError) : Prop where
  signature : error.signature = text
  within : error.position ≤ text.utf8ByteSize
  boundary : (String.Pos.Raw.mk error.position).IsValid text
  reached : Cursor isDelimiter (bytes text) error.position
  decided : error.position < text.utf8ByteSize → ∀ other : String,
    (bytes other).take (error.position + 1) = (bytes text).take (error.position + 1) →
      parse other = .error ⟨other, error.position, error.reason⟩

theorem cutsName_of_cursor {text : String} {place : Nat}
    (cursor : Cursor isDelimiter (bytes text) place) : CutsName text place := by
  have valid {place : Nat} (cursor : Cursor isDelimiter (bytes text) place) :
      (String.Pos.Raw.mk place).IsValid text := by
    rw [bytes_eq] at cursor
    obtain ⟨before, after, split, rfl⟩ := cursor.exists_split uniform_isDelimiter
    exact isValid_of_split split
  refine ⟨valid cursor, valid cursor.name, ?_⟩
  rintro before after name rest split rfl read
  obtain ⟨taken, took, rfl⟩ := map_eq_ok_iff.mp read
  obtain ⟨rfl, rfl⟩ := takeWhile1_eq_takeWhile took
  rw [bytes_eq, split, nameEnd_encode uniform_isDelimiter, String.toList_ofList]
  exact ⟨by simp, rfl⟩

theorem located_of_predicts {α : Type} {parser : Parser α} (predicts : Predicts parser)
    {text : String} {error : ParseError} (refused : run parser text = .error error) :
    Located (run parser) text error := by
  obtain ⟨taken, split, passes, decided⟩ := predicts text.toList
  cases failed : parser text.toList with
  | ok answer =>
    rw [run, parse, failed] at refused
    cases refused
  | error stopped =>
    rw [failed] at split passes decided
    have reported := run_eq_error split failed
    rw [refused] at reported
    obtain rfl := Except.error.inj reported
    exact {
      signature := rfl
      within := by
        rw [utf8ByteSize_of_split split]
        exact Nat.le_add_right _ _
      boundary := isValid_of_split split
      reached := by
        rw [bytes_eq, split]
        exact .of_passes uniform_isDelimiter passes [] .start
      decided := by
        intro inside other same
        obtain ⟨tail, otherSplit, alike⟩ := exists_startAlike split inside same
        have alsoFailed : parser (taken ++ tail) = .error ⟨tail, stopped.reason⟩ :=
          decided tail alike
        rw [← otherSplit] at alsoFailed
        exact run_eq_error otherSplit alsoFailed }

/-- Errors in signatures are located precisely, and wherever a reader of the bytes comes to, the
name that it cuts out there consists of whole characters. No name is ever cut in another way: the
reader that fails on a name cut inside of a character gives the same signatures and the same
errors as the parsers, so it never meets one. -/
theorem faults_located :
    (∀ text error, parseClass text = .error error → Located parseClass text error) ∧
      (∀ text error, parseMethod text = .error error → Located parseMethod text error) ∧
        (∀ text error, parseField text = .error error → Located parseField text error) ∧
          (∀ text place, Cursor isDelimiter (bytes text) place → CutsName text place) ∧
            (∀ text, Reading.parseClass text = (parseClass text).mapError .refused) ∧
              (∀ text, Reading.parseMethod text = (parseMethod text).mapError .refused) ∧
                ∀ text, Reading.parseField text = (parseField text).mapError .refused :=
  ⟨fun _ _ => located_of_predicts classSignature_predicts,
    fun _ _ => located_of_predicts methodSignature_predicts,
    fun _ _ => located_of_predicts fieldSignature_predicts, fun _ _ => cutsName_of_cursor,
    classSignature_follows.parse_eq, methodSignature_follows.parse_eq,
    fieldSignature_follows.parse_eq⟩

/-- The two letters share their first byte, at which both texts stop being signatures. -/
theorem faults_located_accent :
    parseMethod "(é)V" = .error ⟨"(é)V", 1, .referenceType⟩ ∧
      parseMethod "(è)V" = .error ⟨"(è)V", 1, .referenceType⟩ := by
  have refused : parseMethod "(é)V" = .error ⟨"(é)V", 1, .referenceType⟩ := rfl
  have located := faults_located.2.1 "(é)V" _ refused
  exact ⟨refused, located.decided (by decide) "(è)V" (by decide)⟩

end JvmGenerics.Signature
