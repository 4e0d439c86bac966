import JvmGenerics.Proofs.Types.Alike
import JvmGenerics.Types.Text

/-!
# Texts of alike types

The source form and the canonical name of a type show neither origins nor scopes. Its
signature shows which references are primitive, and nothing else of the origins.
-/

namespace JvmGenerics

variable {origins : String → Origin → Origin → Prop}
variable {scopes : String → Option ScopeId → Option ScopeId → Prop}

theorem ClassRef.Alike.arrayName_eq {first second : ClassRef}
    (alike : first.Alike origins second) : second.arrayName = first.arrayName := by
  rw [arrayName, arrayName, alike.1, alike.2.1]

namespace JavaType

mutual

theorem Alike.display_eq : ∀ first second : JavaType,
    first.Alike origins scopes second → second.display = first.display
  | classRef _, classRef _, alike => ClassRef.Alike.arrayName_eq alike
  | parameterized _ arguments, parameterized _ others, alike => by
    simp only [display, AlikeEach.displayEach_eq arguments others alike.2, alike.1.1]
  | typeVariable _, typeVariable _, alike => alike.1.symm
  | wildcard upper lower, wildcard otherUpper otherLower, alike => by
    simp only [display, AlikeEach.displayEach_eq upper otherUpper alike.1,
      AlikeEach.displayEach_eq lower otherLower alike.2]
  | genericArray element _, genericArray other _, alike => by
    simp only [display, Alike.display_eq element other alike.1, alike.2]
termination_by structural first => first

theorem AlikeEach.displayEach_eq : ∀ firsts seconds : List JavaType,
    AlikeEach origins scopes firsts seconds → displayEach seconds = displayEach firsts
  | [], [], _ => rfl
  | first :: firsts, second :: seconds, alike => by
    simp only [displayEach, Alike.display_eq first second alike.1,
      AlikeEach.displayEach_eq firsts seconds alike.2]
termination_by structural firsts => firsts

end

mutual

theorem Alike.name_eq : ∀ first second : JavaType,
    first.Alike origins scopes second → second.name = first.name
  | classRef _, classRef _, alike => ClassRef.Alike.arrayName_eq alike
  | parameterized _ _, parameterized _ _, alike => ClassRef.Alike.arrayName_eq alike.1
  | typeVariable _, typeVariable _, alike => alike.1.symm
  | wildcard upper lower, wildcard otherUpper otherLower, alike => by
    simp only [name, AlikeEach.nameEach_eq upper otherUpper alike.1,
      AlikeEach.nameEach_eq lower otherLower alike.2]
  | genericArray element _, genericArray other _, alike => by
    simp only [name, Alike.display_eq element other alike.1, alike.2]
termination_by structural first => first

theorem AlikeEach.nameEach_eq : ∀ firsts seconds : List JavaType,
    AlikeEach origins scopes firsts seconds → nameEach seconds = nameEach firsts
  | [], [], _ => rfl
  | first :: firsts, second :: seconds, alike => by
    simp only [nameEach, Alike.name_eq first second alike.1,
      AlikeEach.nameEach_eq firsts seconds alike.2]
termination_by structural firsts => firsts

end

theorem classRef_signature_eq
    (primitive : ∀ {name origin other}, origins name origin other →
      (other = .primitive ↔ origin = .primitive))
    {first second : ClassRef} (alike : first.Alike origins second) :
    second.signature = first.signature := by
  have same : second.isPrimitive = first.isPrimitive := by
    rw [ClassRef.isPrimitive, ClassRef.isPrimitive, Bool.eq_iff_iff, beq_iff_eq, beq_iff_eq]
    exact primitive alike.2.2
  rw [ClassRef.signature, ClassRef.signature, same, alike.1, alike.2.1]

mutual

theorem Alike.signature_eq
    (primitive : ∀ {name origin other}, origins name origin other →
      (other = .primitive ↔ origin = .primitive)) :
    ∀ first second : JavaType, first.Alike origins scopes second →
      second.signature = first.signature
  | classRef _, classRef _, alike => classRef_signature_eq primitive alike
  | parameterized _ arguments, parameterized _ others, alike => by
    simp only [signature, AlikeEach.signatureEach_eq primitive arguments others alike.2, alike.1.1]
  | typeVariable _, typeVariable _, alike => by simp only [signature, alike.1]
  | wildcard upper lower, wildcard otherUpper otherLower, alike => by
    simp only [signature, AlikeEach.signatureEach_eq primitive upper otherUpper alike.1,
      AlikeEach.signatureEach_eq primitive lower otherLower alike.2]
  | genericArray element _, genericArray other _, alike => by
    simp only [signature, Alike.signature_eq primitive element other alike.1, alike.2]
termination_by structural first => first

theorem AlikeEach.signatureEach_eq
    (primitive : ∀ {name origin other}, origins name origin other →
      (other = .primitive ↔ origin = .primitive)) :
    ∀ firsts seconds : List JavaType, AlikeEach origins scopes firsts seconds →
      signatureEach seconds = signatureEach firsts
  | [], [], _ => rfl
  | first :: firsts, second :: seconds, alike => by
    simp only [signatureEach, Alike.signature_eq primitive first second alike.1,
      AlikeEach.signatureEach_eq primitive firsts seconds alike.2]
termination_by structural firsts => firsts

end

end JavaType

end JvmGenerics
