import JvmGenerics.ClassFile.Decode
import JvmGenerics.Proofs.ClassFile.Pool

/-!
# Class files and their bytes

A layout is a class file before it is written. It has a constant pool of any constants, and
attributes of any kind in any order. Wherever a number should name a text, a class, or a name
with a descriptor, it does, and every count and every length fits into its field. Nothing else
is required of it. The bytes of a layout are decoded to what the layout means, and attributes
that are not recognised make no difference.
-/

namespace JvmGenerics.ClassFile

open Encoder Decoder

variable {pool : PoolLayout} {carrier : Carrier}

/-- A statement about one nested class. -/
structure InnerClassLayout (pool : PoolLayout) where
  inner : ClassNumber pool
  outer : Option (ClassNumber pool)
  name : Option (TextNumber pool)
  accessFlags : UInt16

namespace InnerClassLayout

def encode (entry : InnerClassLayout pool) : List UInt8 :=
  u2 entry.inner.number ++ (u2 (optionalNumber ClassNumber.number entry.outer) ++
    (u2 (optionalNumber TextNumber.number entry.name) ++ u2 entry.accessFlags))

def meaning (entry : InnerClassLayout pool) : InnerClass where
  innerClass := entry.inner.text
  outerClass := entry.outer.map ClassNumber.text
  innerName := entry.name.map TextNumber.text
  accessFlags := entry.accessFlags

theorem decoder_decodes (entry : InnerClassLayout pool) :
    (InnerClass.decoder pool.pool).Decodes entry.encode entry.meaning := by
  have outer := optional_eq (fun found : ClassNumber pool => found.holds.ne_zero)
    ClassNumber.className_eq entry.outer
  have name := optional_eq (fun found : TextNumber pool => found.holds.ne_zero)
    TextNumber.utf8_eq entry.name
  apply (u2_decodes _).bind
  apply (u2_decodes _).bind
  apply (u2_decodes _).bind
  apply (u2_decodes entry.accessFlags).bind_last
  exact .after entry.inner.className_eq (.after outer (.after name (.pure entry.meaning)))

end InnerClassLayout

/-- Whether an attribute of this name is recognised. On a member the statements about nested
classes and the enclosing method are not. -/
def IsRecognised (carrier : Carrier) (name : String) : Prop :=
  name = "Signature" ∨ carrier = .wholeClass ∧ (name = "InnerClasses" ∨ name = "EnclosingMethod")

/-- What an attribute holds: something that is recognised, or any bytes. -/
inductive AttributeContent (pool : PoolLayout)
  | signature (reference : TextNumber pool)
  | innerClasses (entries : Counted (InnerClassLayout pool))
  | enclosingMethod (outer : ClassNumber pool) (method : Option (MethodNumber pool))
  | other (info : List UInt8)

namespace AttributeContent

def encode : AttributeContent pool → List UInt8
  | signature reference => u2 reference.number
  | innerClasses entries => table InnerClassLayout.encode entries
  | enclosingMethod outer method =>
    u2 outer.number ++ u2 (optionalNumber MethodNumber.number method)
  | other info => info

/-- The attribute has the name that belongs to its content. -/
def HasName (carrier : Carrier) (name : String) : AttributeContent pool → Prop
  | signature _ => name = "Signature"
  | innerClasses _ => carrier = .wholeClass ∧ name = "InnerClasses"
  | enclosingMethod _ _ => carrier = .wholeClass ∧ name = "EnclosingMethod"
  | other _ => ¬IsRecognised carrier name

def meaning : AttributeContent pool → Attribute
  | signature reference => .signature reference.text
  | innerClasses entries => .innerClasses (entries.val.map InnerClassLayout.meaning)
  | enclosingMethod outer method => .enclosingMethod ⟨outer.text, method.map MethodNumber.key⟩
  | other _ => .unrecognised

def signature? : AttributeContent pool → Option String
  | signature reference => some reference.text
  | _ => none

def innerClassEntries : AttributeContent pool → List InnerClass
  | innerClasses entries => entries.val.map InnerClassLayout.meaning
  | _ => []

def enclosingMethod? : AttributeContent pool → Option EnclosingMethod
  | enclosingMethod outer method => some ⟨outer.text, method.map MethodNumber.key⟩
  | _ => none

def isOther : AttributeContent pool → Bool
  | other _ => true
  | _ => false

/-- A recognised content is what the body of this name is decoded to. -/
theorem body?_eq_some {content : AttributeContent pool} {name : String}
    (hasName : content.HasName carrier name) (recognised : content.isOther = false) :
    ∃ body, Attribute.body? pool.pool carrier name = some body ∧
      body.Decodes content.encode content.meaning := by
  cases content with
  | signature reference =>
    obtain rfl : name = "Signature" := hasName
    refine ⟨Attribute.signatureBody pool.pool, rfl, ?_⟩
    exact (u2_decodes reference.number).bind_last (.after reference.utf8_eq (.pure _))
  | innerClasses entries =>
    obtain ⟨rfl, rfl⟩ := hasName
    refine ⟨Attribute.innerClassesBody pool.pool, rfl, ?_⟩
    exact (table_decodes fun entry _ => entry.decoder_decodes).bind_pure Attribute.innerClasses
  | enclosingMethod outer method =>
    obtain ⟨rfl, rfl⟩ := hasName
    have found := optional_eq (fun found : MethodNumber pool => found.holds.ne_zero)
      MethodNumber.nameAndType_eq method
    refine ⟨Attribute.enclosingMethodBody pool.pool, rfl, ?_⟩
    apply (u2_decodes outer.number).bind
    apply Decodes.after outer.className_eq
    exact (u2_decodes _).bind_last (.after found (.pure _))
  | other info => cases recognised

theorem body?_eq_none {name : String} (unrecognised : ¬IsRecognised carrier name) :
    Attribute.body? pool.pool carrier name = none := by
  unfold Attribute.body?
  split
  · exact absurd (Or.inl rfl) unrecognised
  · exact absurd (Or.inr ⟨rfl, Or.inl rfl⟩) unrecognised
  · exact absurd (Or.inr ⟨rfl, Or.inr rfl⟩) unrecognised
  · rfl

end AttributeContent

/-- An attribute of a class or a member, whose length fits into four bytes. -/
structure AttributeLayout (pool : PoolLayout) (carrier : Carrier) where
  name : TextNumber pool
  content : AttributeContent pool
  hasName : content.HasName carrier name.text
  short : content.encode.length < 4294967296

namespace AttributeLayout

def encode (entry : AttributeLayout pool carrier) : List UInt8 :=
  u2 entry.name.number ++ (u4 (UInt32.ofNat entry.content.encode.length) ++ entry.content.encode)

theorem decoder_decodes (entry : AttributeLayout pool carrier) :
    (Attribute.decoder pool.pool carrier).Decodes entry.encode entry.content.meaning := by
  obtain ⟨name, content, hasName, short⟩ := entry
  apply (u2_decodes name.number).bind
  apply (u4_decodes _).bind
  rw [UInt32.toNat_ofNat_of_lt' short]
  apply (bytes_decode content.encode).bind_last
  apply Decodes.after name.utf8_eq
  cases other : content.isOther with
  | false =>
    obtain ⟨body, isBody, decodes⟩ := content.body?_eq_some hasName other
    rw [isBody]
    exact Decodes.lookup (whole_of_decodes _ decodes)
  | true =>
    cases content with
    | other info =>
      rw [AttributeContent.body?_eq_none hasName]
      exact Decodes.pure Attribute.unrecognised
    | _ => cases other

end AttributeLayout

/-- The last of the signatures among some attributes. -/
def signatureOf (attributes : Counted (AttributeLayout pool carrier)) : Option String :=
  (attributes.val.filterMap fun entry => entry.content.signature?).getLast?

/-- All statements about nested classes among some attributes, in their order. -/
def innerClassesOf (attributes : Counted (AttributeLayout pool carrier)) : List InnerClass :=
  attributes.val.flatMap fun entry => entry.content.innerClassEntries

/-- The last of the enclosing methods among some attributes. -/
def enclosingMethodOf (attributes : Counted (AttributeLayout pool carrier)) :
    Option EnclosingMethod :=
  (attributes.val.filterMap fun entry => entry.content.enclosingMethod?).getLast?

section Meaning

variable (attributes : Counted (AttributeLayout pool carrier))

theorem lastSignature_eq : lastSignature (attributes.val.map fun entry => entry.content.meaning) =
    signatureOf attributes := by
  rw [lastSignature, signatureOf, List.filterMap_map]
  congr 2
  funext ⟨name, content, hasName, short⟩
  cases content <;> rfl

theorem allInnerClasses_eq :
    allInnerClasses (attributes.val.map fun entry => entry.content.meaning) =
      innerClassesOf attributes := by
  rw [allInnerClasses, innerClassesOf, List.flatMap_map]
  congr 1
  funext ⟨name, content, hasName, short⟩
  cases content <;> rfl

theorem lastEnclosingMethod_eq :
    lastEnclosingMethod (attributes.val.map fun entry => entry.content.meaning) =
      enclosingMethodOf attributes := by
  rw [lastEnclosingMethod, enclosingMethodOf, List.filterMap_map]
  congr 2
  funext ⟨name, content, hasName, short⟩
  cases content <;> rfl

theorem attributes_decode :
    (Decoder.table (Attribute.decoder pool.pool carrier)).Decodes
      (Encoder.table AttributeLayout.encode attributes)
      (attributes.val.map fun entry => entry.content.meaning) :=
  table_decodes fun entry _ => entry.decoder_decodes

end Meaning

/-- A field or a method. -/
structure MemberLayout (pool : PoolLayout) where
  accessFlags : UInt16
  name : TextNumber pool
  descriptor : TextNumber pool
  attributes : Counted (AttributeLayout pool .member)

namespace MemberLayout

def encode (entry : MemberLayout pool) : List UInt8 :=
  u2 entry.accessFlags ++ (u2 entry.name.number ++ (u2 entry.descriptor.number ++
    Encoder.table AttributeLayout.encode entry.attributes))

def meaning (entry : MemberLayout pool) : Member where
  accessFlags := entry.accessFlags
  name := entry.name.text
  descriptor := entry.descriptor.text
  signature := signatureOf entry.attributes

theorem decoder_decodes (entry : MemberLayout pool) :
    (Member.decoder pool.pool).Decodes entry.encode entry.meaning := by
  apply (u2_decodes entry.accessFlags).bind
  apply (u2_decodes entry.name.number).bind
  apply Decodes.after entry.name.utf8_eq
  apply (u2_decodes entry.descriptor.number).bind
  apply Decodes.after entry.descriptor.utf8_eq
  apply (attributes_decode entry.attributes).bind_last
  rw [lastSignature_eq]
  exact Decodes.pure entry.meaning

end MemberLayout

/-- A class file before it is written. -/
structure Layout where
  minorVersion : UInt16
  majorVersion : UInt16
  pool : PoolLayout
  accessFlags : UInt16
  thisClass : ClassNumber pool
  superclass : Option (ClassNumber pool)
  interfaces : Counted (ClassNumber pool)
  fields : Counted (MemberLayout pool)
  methods : Counted (MemberLayout pool)
  attributes : Counted (AttributeLayout pool .wholeClass)

namespace Layout

def encode (file : Layout) : List UInt8 :=
  u4 magic ++ (u2 file.minorVersion ++ (u2 file.majorVersion ++ (file.pool.encode ++
    (u2 file.accessFlags ++ (u2 file.thisClass.number ++
      (u2 (optionalNumber ClassNumber.number file.superclass) ++
        (Encoder.table (fun entry => u2 entry.number) file.interfaces ++
          (Encoder.table MemberLayout.encode file.fields ++
            (Encoder.table MemberLayout.encode file.methods ++
              Encoder.table AttributeLayout.encode file.attributes)))))))))

/-- What the class file says. -/
def meaning (file : Layout) : ClassFile where
  minorVersion := file.minorVersion
  majorVersion := file.majorVersion
  accessFlags := file.accessFlags
  thisClass := file.thisClass.text
  superclass := file.superclass.map ClassNumber.text
  interfaces := file.interfaces.val.map ClassNumber.text
  fields := file.fields.val.map MemberLayout.meaning
  methods := file.methods.val.map MemberLayout.meaning
  signature := signatureOf file.attributes
  innerClasses := innerClassesOf file.attributes
  enclosingMethod := enclosingMethodOf file.attributes

theorem interface_decodes {pool : PoolLayout} (entry : ClassNumber pool) :
    Decodes (do pool.pool.className (← Decoder.u2)) (u2 entry.number) entry.text :=
  (u2_decodes entry.number).bind_last (.lookup entry.className_eq)

theorem decoder_decodes (file : Layout) : decoder.Decodes file.encode file.meaning := by
  have superclass := optional_eq (fun found : ClassNumber file.pool => found.holds.ne_zero)
    ClassNumber.className_eq file.superclass
  apply (u4_decodes magic).bind
  apply (u2_decodes file.minorVersion).bind
  apply (u2_decodes file.majorVersion).bind
  apply file.pool.decoder_decodes.bind
  apply (u2_decodes file.accessFlags).bind
  apply (u2_decodes file.thisClass.number).bind
  apply Decodes.after file.thisClass.className_eq
  apply (u2_decodes _).bind
  apply Decodes.after superclass
  apply (table_decodes fun entry _ => interface_decodes entry).bind
  apply (table_decodes fun entry _ => MemberLayout.decoder_decodes entry).bind
  apply (table_decodes fun entry _ => MemberLayout.decoder_decodes entry).bind
  apply (attributes_decode file.attributes).bind_last
  rw [lastSignature_eq, allInnerClasses_eq, lastEnclosingMethod_eq]
  exact Decodes.pure file.meaning

end Layout

/-- The recognised ones among some attributes. -/
def recognisedOf (attributes : Counted (AttributeLayout pool carrier)) :
    Counted (AttributeLayout pool carrier) :=
  ⟨attributes.val.filter fun entry => !entry.content.isOther,
    Nat.lt_of_le_of_lt (List.length_filter_le _ _) attributes.property⟩

section Recognised

variable (attributes : Counted (AttributeLayout pool carrier)) {α : Type}

/-- What bytes that are not recognised give nothing to is collected from the others. -/
theorem flatMap_recognisedOf (collect : AttributeContent pool → List α)
    (nothing : ∀ info, collect (.other info) = []) :
    ((recognisedOf attributes).val.flatMap fun entry => collect entry.content) =
      attributes.val.flatMap fun entry => collect entry.content := by
  obtain ⟨list, few⟩ := attributes
  rw [recognisedOf]
  dsimp only
  clear few
  induction list with
  | nil => rfl
  | cons entry others ih =>
    obtain ⟨name, content, hasName, short⟩ := entry
    cases content with
    | other info =>
      rw [List.filter_cons_of_neg (by simp [AttributeContent.isOther]), List.flatMap_cons,
        nothing, ih, List.nil_append]
    | _ =>
      rw [List.filter_cons_of_pos (by rfl), List.flatMap_cons, List.flatMap_cons, ih]

theorem filterMap_recognisedOf (pick : AttributeContent pool → Option α)
    (nothing : ∀ info, pick (.other info) = none) :
    ((recognisedOf attributes).val.filterMap fun entry => pick entry.content) =
      attributes.val.filterMap fun entry => pick entry.content := by
  simp only [List.filterMap_eq_flatMap_toList]
  apply flatMap_recognisedOf attributes fun content => (pick content).toList
  intro info
  rw [nothing, Option.toList_none]

theorem signatureOf_recognisedOf :
    signatureOf (recognisedOf attributes) = signatureOf attributes := by
  rw [signatureOf, filterMap_recognisedOf attributes _ fun _ => rfl, signatureOf]

theorem innerClassesOf_recognisedOf :
    innerClassesOf (recognisedOf attributes) = innerClassesOf attributes :=
  flatMap_recognisedOf attributes _ fun _ => rfl

theorem enclosingMethodOf_recognisedOf :
    enclosingMethodOf (recognisedOf attributes) = enclosingMethodOf attributes := by
  rw [enclosingMethodOf, filterMap_recognisedOf attributes _ fun _ => rfl, enclosingMethodOf]

end Recognised

/-- The member with the attributes that are recognised. -/
def MemberLayout.recognised (entry : MemberLayout pool) : MemberLayout pool :=
  { entry with attributes := recognisedOf entry.attributes }

theorem MemberLayout.meaning_recognised (entry : MemberLayout pool) :
    entry.recognised.meaning = entry.meaning := by
  rw [meaning, recognised, signatureOf_recognisedOf, meaning]

namespace Layout

/-- The class file with the attributes that are recognised, those of its members included. -/
def recognised (file : Layout) : Layout :=
  { file with
    fields := ⟨file.fields.val.map MemberLayout.recognised, by
      rw [List.length_map]
      exact file.fields.property⟩
    methods := ⟨file.methods.val.map MemberLayout.recognised, by
      rw [List.length_map]
      exact file.methods.property⟩
    attributes := recognisedOf file.attributes }

theorem meaning_recognised (file : Layout) : file.recognised.meaning = file.meaning := by
  have members (list : List (MemberLayout file.pool)) :
      (list.map MemberLayout.recognised).map MemberLayout.meaning =
        list.map MemberLayout.meaning := by
    rw [List.map_map]
    exact List.map_congr_left fun entry _ => entry.meaning_recognised
  simp only [meaning, recognised, members, signatureOf_recognisedOf, innerClassesOf_recognisedOf,
    enclosingMethodOf_recognisedOf]

end Layout

/-- The bytes of a class file are decoded to what it means: its names, flags and versions, with
the last signature of each element, all statements about nested classes and the last enclosing
method. Attributes that are not recognised may be left out of it, with the same result. -/
theorem decode_layout (file : Layout) :
    decode file.encode = .ok file.meaning ∧ decode file.recognised.encode = .ok file.meaning := by
  have decodes (file : Layout) : decode file.encode = .ok file.meaning :=
    whole_of_decodes .trailingBytes file.decoder_decodes
  refine ⟨decodes file, ?_⟩
  rw [decodes, file.meaning_recognised]

/-- Constants after a wide one: the class `Box`, the names of two attributes, the name and the
descriptor of a method, and the signature of the class. -/
def PoolLayout.box : PoolLayout where
  constants := [.long 7, .utf8 "Box", .classInfo 3, .utf8 "Signature", .utf8 "Code", .utf8 "get",
    .utf8 "()V", .utf8 "<T:>LBase;"]
  encodable := by
    simp only [List.forall_mem_cons, List.not_mem_nil, false_imp_iff, implies_true, and_true,
      Constant.Encodable]
    decide
  few := by decide

/-- The text that stands in a given place of those constants. -/
def TextNumber.box (place : Nat) (number : UInt16) (text : String)
    (found : PoolLayout.box.constants = PoolLayout.box.constants.take place ++
      .utf8 text :: PoolLayout.box.constants.drop (place + 1))
    (position : number.toNat =
      Constant.slotCount (PoolLayout.box.constants.take place) + 1) : TextNumber .box :=
  ⟨number, text, _, _, found, position⟩

/-- Some bytes that are not recognised. -/
def AttributeLayout.code (carrier : Carrier) : AttributeLayout .box carrier where
  name := .box 4 6 "Code" rfl rfl
  content := .other [0xDE, 0xAD]
  hasName := by
    rintro (same | ⟨-, same | same⟩)
    all_goals exact absurd same (by decide)
  short := by decide

def AttributeLayout.signature (carrier : Carrier) (text : TextNumber .box) :
    AttributeLayout .box carrier where
  name := .box 3 5 "Signature" rfl rfl
  content := .signature text
  hasName := rfl
  short := by
    change 2 < 4294967296
    decide

/-- The class `Box` with two signatures, of which the last counts. -/
def Layout.box : Layout where
  minorVersion := 0
  majorVersion := 52
  pool := .box
  accessFlags := 0x21
  thisClass := ⟨4, .box 1 3 "Box" rfl rfl, [.long 7, .utf8 "Box"], _, rfl, rfl⟩
  superclass := none
  interfaces := ⟨[], by decide⟩
  fields := ⟨[], by decide⟩
  methods := ⟨[⟨1, .box 5 7 "get" rfl rfl, .box 6 8 "()V" rfl rfl, ⟨[.code .member], by decide⟩⟩],
    by decide⟩
  attributes := ⟨[.signature .wholeClass (.box 6 8 "()V" rfl rfl), .code .wholeClass,
    .signature .wholeClass (.box 7 9 "<T:>LBase;" rfl rfl)], by decide⟩

/-- With and without the unrecognised attributes, the bytes of `Box` give its last signature. -/
theorem decode_layout_box :
    Layout.box.encode.length = 126 ∧ Layout.box.recognised.encode.length = 110 ∧
      decode Layout.box.encode = .ok ⟨0, 52, 0x21, "Box", none, [], [], [⟨1, "get", "()V", none⟩],
        some "<T:>LBase;", [], none⟩ := by
  refine ⟨by decide +kernel, by decide +kernel, ?_⟩
  exact (decode_layout Layout.box).1

end JvmGenerics.ClassFile
