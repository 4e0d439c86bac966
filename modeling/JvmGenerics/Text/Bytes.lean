/-!
# Places in the bytes of a text

A reader of bytes moves through a text without regard to its characters. A name goes on from a
place as far as the next byte that looks like a delimiter, and what stands between two places is
a text only if no character is cut.
-/

namespace JvmGenerics.Utf8

/-- The bytes of a text in UTF-8. -/
def bytes (text : String) : List UInt8 :=
  text.toUTF8.data.toList

/-- Where the name ends that begins at a place: in front of the next byte that is a delimiter. -/
def nameEnd (delimits : Char → Bool) (bytes : List UInt8) (place : Nat) : Nat :=
  place + ((bytes.drop place).takeWhile fun byte => !delimits (.ofUInt8 byte)).length

/-- What stands between two places of a text; `none` if one of them is inside a character. -/
def slice? (text : String) (first last : Nat) : Option String :=
  if whole : (String.Pos.Raw.mk first).IsValid text ∧ (String.Pos.Raw.mk last).IsValid text then
    some (text.extract ⟨⟨first⟩, whole.1⟩ ⟨⟨last⟩, whole.2⟩)
  else none

end JvmGenerics.Utf8
