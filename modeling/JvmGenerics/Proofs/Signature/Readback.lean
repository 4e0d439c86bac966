import JvmGenerics.Proofs.Signature.Accepted

/-!
# Reading the text of a signature

The other direction: from the text of a well-formed type that type is read again if it keeps
within the limits, and reading stops if it does not. A reference type ends where its text
ends, whatever comes after it. A type parameter does not: one without bounds ends where the
next character cannot start a bound.
-/

namespace JvmGenerics.Signature

open TextParser

variable {text rest : List Char}

/-- No name can go on with this text. -/
def EndsName (text : List Char) : Prop :=
  ∀ c ∈ text.head?, isDelimiter c = true

/-- A class with its type arguments, or a class name alone, can end in front of this text. -/
def EndsClass (text : List Char) : Prop :=
  ∀ c ∈ text.head?, c = '.' ∨ c = ';'

theorem EndsClass.endsName (ended : EndsClass text) : EndsName text := by
  intro c first
  rcases ended c first with rfl | rfl <;> rfl

theorem EndsClass.noBracket (ended : EndsClass text) : ∀ c ∈ text.head?, c ≠ '<' := by
  intro c first
  rcases ended c first with rfl | rfl <;> decide

theorem mem_head?_flatMap_append {α : Type} {lead : Char} {tail : α → List Char} {list : List α}
    {c : Char} (first : c ∈ (list.flatMap (fun entry => lead :: tail entry) ++ rest).head?) :
    c = lead ∨ c ∈ rest.head? := by
  cases list with
  | nil => exact .inr first
  | cons entry others => exact .inl (Option.mem_some_iff.mp first).symm

theorem mem_head?_bracketed_append {α : Type} {list : List α} {entries : List Char}
    {c : Char} (first : c ∈ (bracketed list entries ++ rest).head?) :
    c = '<' ∨ c ∈ rest.head? := by
  cases list with
  | nil => exact .inr first
  | cons entry others => exact .inl (Option.mem_some_iff.mp first).symm

theorem bracketed_cons_append {α : Type} (first : α) (others : List α) (entries rest : List Char) :
    bracketed (first :: others) entries ++ rest = '<' :: (entries ++ '>' :: rest) := by
  simp [bracketed]

theorem EndsName.bracketed {α : Type} (ended : EndsName rest) (list : List α)
    (entries : List Char) : EndsName (bracketed list entries ++ rest) := by
  intro c first
  rcases mem_head?_bracketed_append first with rfl | first
  · rfl
  · exact ended c first

theorem EndsName.furtherNames (ended : EndsName rest) (names : List String) :
    EndsName ((names.flatMap fun name => '/' :: name.toList) ++ rest) := by
  intro c first
  rcases mem_head?_flatMap_append first with rfl | first
  · rfl
  · exact ended c first

theorem identifier_reads {name : String} (isIdentifier : IsIdentifier name)
    (ended : EndsName rest) : identifier (name.toList ++ rest) = .ok (name, rest) := by
  refine map_eq_ok_iff.mpr ⟨name.toList, ?_, String.ofList_toList⟩
  refine takeWhile1_of_all _ isIdentifier.1 ?_ ?_
  · intro c member
    simp [isIdentifier.2 c member]
  · intro c first
    simp [ended c first]

theorem typeVariable_reads {name : String} (isIdentifier : IsIdentifier name)
    (rest : List Char) : typeVariable ((ReferenceType.typeVariable name).render ++ rest) =
      .ok (.typeVariable name, rest) := by
  rw [typeVariable, ReferenceType.render, List.append_assoc, List.cons_append,
    bind_of_ok (expect_self _ _ _),
    bind_of_ok (identifier_reads isIdentifier (by simp [EndsName, isDelimiter]))]
  exact bind_of_ok (expect_self _ _ _)

theorem furtherPackageNames_read {names : List String} (stuck : Reason)
    (areIdentifiers : ∀ name ∈ names, IsIdentifier name) (ended : EndsName rest)
    (noSlash : ∀ c ∈ rest.head?, c ≠ '/') :
    collect stuck furtherPackageName ((names.flatMap fun name => '/' :: name.toList) ++ rest) =
      .ok (names, rest) := by
  have reads : (collect stuck furtherPackageName).Reads
      ((names.flatMap fun name => '/' :: name.toList) ++ rest)
      (∀ name ∈ names, True) names rest := by
    refine collect_reads_each stuck (by simp) (fun name others isSuffix => ?_)
      (bind_of_ok (eat_of_ne noSlash))
    have ends := ended.furtherNames others
    have isIdentifier := areIdentifiers name (isSuffix.subset List.mem_cons_self)
    exact .after (eat_self _ _) (.after (identifier_reads isIdentifier ends) (.of_ok rfl))
  exact reads.1 fun _ _ => trivial

section Parts

variable {reference : Parser ReferenceType} {levels : Nat}

/-- A parser for reference types that has a number of levels left reads the type. -/
def ReadBy (reference : Parser ReferenceType) (levels : Nat) (type : ReferenceType) : Prop :=
  ∀ rest, reference.Reads (type.render ++ rest) (type.Fits levels) type rest

theorem argument_reads {argument : TypeArgument}
    (wellFormed : ∀ type ∈ argument.type?, type.WellFormed)
    (readable : ∀ type ∈ argument.type?, ReadBy reference levels type) (rest : List Char) :
    (Signature.argument reference).Reads (argument.render ++ rest)
      (∀ type ∈ argument.type?, type.Fits levels) (some argument) rest := by
  cases argument with
  | any => exact (Reads.of_ok rfl).congr (by simp [TypeArgument.type?])
  | bounded variance type =>
    have bounded := (readable type rfl rest).bind_pure fun type =>
      some (TypeArgument.bounded variance type)
    refine (?_ : Reads _ _ (type.Fits levels) _ rest).congr (by simp [TypeArgument.type?])
    cases variance with
    | covariant => exact .after rfl (.after (expect_self _ _ _) bounded)
    | contravariant => exact .after rfl (.after (expect_self _ _ _) bounded)
    | invariant =>
      obtain ⟨tail, starts⟩ := ReferenceType.exists_render_eq (wellFormed type rfl)
      change Reads _ (type.render ++ rest) _ _ rest
      rw [starts] at bounded ⊢
      cases type <;> exact bounded

theorem arguments_reads {list : List TypeArgument}
    (wellFormed : TypeArgument.WellFormedEach list)
    (readable : ∀ argument ∈ list, ∀ type ∈ argument.type?, ReadBy reference levels type)
    (ended : EndsClass rest) :
    (arguments reference).Reads (bracketed list (TypeArgument.renderEach list) ++ rest)
      (TypeArgument.FitsEach levels list) list rest := by
  rw [TypeArgument.wellFormedEach_iff] at wellFormed
  rw [TypeArgument.renderEach_eq_flatMap]
  refine Reads.congr TypeArgument.fitsEach_iff.symm ?_
  cases list with
  | nil => exact (Reads.after (eat_of_ne ended.noBracket) (.of_ok rfl)).congr (by simp)
  | cons argument others =>
    have nonempty : ∀ entry ∈ argument :: others, entry.render ≠ [] :=
      fun entry member => TypeArgument.render_ne_nil (wellFormed entry member)
    have items := collect_reads_each (ε := Reason) .endOfSignature nonempty
      (fun entry following isSuffix =>
        have member := isSuffix.subset List.mem_cons_self
        argument_reads (wellFormed entry member) (readable entry member) _)
      (rfl : Signature.argument reference ('>' :: rest) = .ok (none, rest))
    rw [bracketed_cons_append]
    exact (Reads.after (eat_self _ _) (items.bind (.of_ok rfl))).congr (by rw [and_true])

theorem endsClass_members (members : List (String × List TypeArgument)) (rest : List Char) :
    EndsClass ((members.flatMap fun member => '.' :: ClassType.segmentText member) ++
      ';' :: rest) := by
  intro c first
  rcases mem_head?_flatMap_append first with rfl | first
  · exact .inl rfl
  · exact .inr (Option.mem_some_iff.mp first).symm

theorem memberClasses_read {members : List (String × List TypeArgument)}
    (wellFormed : ∀ member ∈ members,
      IsIdentifier member.1 ∧ TypeArgument.WellFormedEach member.2)
    (readable : ∀ member ∈ members, ∀ argument ∈ member.2,
      ∀ type ∈ argument.type?, ReadBy reference levels type) (rest : List Char) :
    (collect .endOfSignature (memberClass reference)).Reads
      ((members.flatMap fun member => '.' :: ClassType.segmentText member) ++ ';' :: rest)
      (∀ member ∈ members, TypeArgument.FitsEach levels member.2) members (';' :: rest) := by
  refine collect_reads_each _ (by simp) (fun member others isSuffix => ?_) rfl
  have isMember := isSuffix.subset List.mem_cons_self
  obtain ⟨isIdentifier, argumentsWellFormed⟩ := wellFormed member isMember
  have ended := endsClass_members others rest
  have named := identifier_reads isIdentifier
    (ended.endsName.bracketed member.2 (TypeArgument.renderEach member.2))
  have given := arguments_reads argumentsWellFormed (readable member isMember) ended
  rw [ClassType.segmentText, List.cons_append, List.append_assoc]
  exact .after (eat_self _ _) (.after named (given.bind_pure fun list => some (member.1, list)))

/-- The parser reads one list of names and takes the last of them for the class. -/
theorem exists_names (package : List String) (name : String) : ∃ first further,
    first :: further = package ++ [name] ∧ (first :: further).dropLast = package ∧
      (first :: further).getLastD first = name := by
  obtain ⟨first, further, names⟩ : ∃ first further, package ++ [name] = first :: further :=
    List.exists_cons_of_ne_nil (by simp)
  refine ⟨first, further, names.symm, ?_, ?_⟩
  · rw [← names, List.dropLast_concat]
  · rw [← names]
    simp

theorem classType_reads {type : ClassType} (wellFormed : type.WellFormed)
    (readable : ∀ segment ∈ type.segments, ∀ argument ∈ segment.2,
      ∀ inner ∈ argument.type?, ReadBy reference levels inner) (rest : List Char) :
    (classType reference).Reads (type.render ++ rest) (type.Fits levels) type rest := by
  obtain ⟨package, name, list, members, rfl⟩ := type.exists_parts
  rw [ClassType.wellFormed_iff, ClassType.packageNames_ofParts, ClassType.segments_ofParts,
    List.forall_mem_cons] at wellFormed
  rw [ClassType.segments_ofParts, List.forall_mem_cons] at readable
  obtain ⟨inPackage, ⟨isIdentifier, argumentsWellFormed⟩, membersWellFormed⟩ := wellFormed
  obtain ⟨first, further, names, package_eq, name_eq⟩ := exists_names package name
  have areIdentifiers : ∀ entry ∈ first :: further, IsIdentifier entry := by
    rw [names, List.forall_mem_append, List.forall_mem_singleton]
    exact ⟨inPackage, isIdentifier⟩
  obtain ⟨firstIsIdentifier, furtherAreIdentifiers⟩ := List.forall_mem_cons.mp areIdentifiers
  have packageText := packageText_eq first further
  rw [package_eq, name_eq] at packageText
  have ended := endsClass_members members rest
  have namesEnd := ended.endsName.bracketed list (TypeArgument.renderEach list)
  have firstRead := identifier_reads firstIsIdentifier (namesEnd.furtherNames further)
  have furtherRead := furtherPackageNames_read .endOfSignature furtherAreIdentifiers namesEnd
    fun c first => by
      rcases mem_head?_bracketed_append first with rfl | first
      · decide
      · rcases ended c first with rfl | rfl <;> decide
  have argumentsRead := arguments_reads argumentsWellFormed readable.1 ended
  have membersRead := memberClasses_read membersWellFormed readable.2 rest
  rw [ClassType.render, ClassType.renderOpen_ofParts, ClassType.fits_iff,
    ClassType.segments_ofParts, List.forall_mem_cons]
  simp only [ClassType.segmentText, ← List.append_assoc (package.flatMap _), packageText]
  simp only [List.append_assoc, List.cons_append, List.nil_append]
  refine Reads.congr ?_ (.after (expect_self _ _ _) (.after firstRead (.after furtherRead
    (argumentsRead.bind (membersRead.bind (.after (expect_self _ _ _) (.of_ok ?_)))))))
  · rw [and_true]
  · rw [package_eq, name_eq]
    rfl

theorem typeSignature_reads {type : TypeSignature} (wellFormed : type.WellFormed)
    (readable : ∀ inner ∈ type.reference?, ReadBy reference levels inner) (rest : List Char) :
    (typeSignature reference).Reads (type.render ++ rest) (type.Fits levels) type rest := by
  cases type with
  | base type =>
    refine Reads.congr (iff_of_true trivial (TypeSignature.fits_base levels type)) ?_
    cases type <;> exact .of_ok rfl
  | reference type =>
    have given := (readable type rfl rest).bind_pure TypeSignature.reference
    obtain ⟨tail, starts⟩ := ReferenceType.exists_render_eq wellFormed
    rw [TypeSignature.render, TypeSignature.fits_reference_iff]
    rw [starts] at given ⊢
    cases type <;> exact given

theorem array_reads {dimensions : Nat} {component : TypeSignature}
    (wellFormed : (ReferenceType.array dimensions component).WellFormed)
    (readable : ∀ inner ∈ component.reference?, ReadBy reference levels inner) (rest : List Char) :
    (referenceTypeOver reference).Reads ((ReferenceType.array dimensions component).render ++ rest)
      ((ReferenceType.array dimensions component).Fits (levels + 1)) (.array dimensions component)
      rest := by
  obtain ⟨tail, starts⟩ := ReferenceType.exists_render_eq wellFormed
  obtain ⟨-, notArray, componentWellFormed⟩ := wellFormed
  obtain ⟨componentTail, componentStarts⟩ := TypeSignature.exists_render_eq componentWellFormed
  have componentRead := (typeSignature_reads componentWellFormed readable rest).bind_pure
    (ReferenceType.array dimensions)
  have peeked : (peek : Parser (Option Char))
      ((ReferenceType.array dimensions component).render ++ rest) =
        .ok (some '[', (ReferenceType.array dimensions component).render ++ rest) := by
    rw [starts]
    rfl
  -- All brackets in a row belong to this array, because its component starts with none.
  have ended : ∀ c ∈ (component.render ++ rest).head?, (c == '[') = false := by
    rw [componentStarts]
    rintro c ⟨⟩
    rw [beq_eq_false_iff_ne, Ne, ← TypeSignature.isArray_eq_true_iff, notArray]
    decide
  have taken : (takeWhile (· == '[') : Parser (List Char))
      (List.replicate dimensions '[' ++ (component.render ++ rest)) =
        .ok (List.replicate dimensions '[', component.render ++ rest) := by
    have all : ∀ c ∈ List.replicate dimensions '[', (c == '[') = true := by simp
    have ⟨brackets, left⟩ := takeWhile_append_of_all all ended
    rw [takeWhile, brackets, left]
  refine .after peeked ?_
  rw [ReferenceType.render, List.append_assoc]
  refine .after taken ?_
  rw [List.length_replicate, ReferenceType.fits_array_iff]
  by_cases many : dimensions > maxDimensions
  · rw [if_pos many]
    exact .of_error (bind_of_error rfl) fun fits => absurd fits.1 (Nat.not_le_of_lt many)
  · rw [if_neg many]
    exact componentRead.congr (and_iff_right (Nat.le_of_not_lt many)).symm

end Parts

/-- On the text of a well-formed type, whatever comes after it, the type is read if it fits
into the levels that are left, and reading stops if it does not. -/
theorem referenceTypeWithin_reads (type : ReferenceType) (wellFormed : type.WellFormed)
    (levels : Nat) : ReadBy (referenceTypeWithin levels) levels type := by
  induction type using ReferenceType.inductionOn generalizing levels with
  | typeVariable name =>
    intro rest
    cases levels with
    | zero => exact .of_error rfl (ReferenceType.not_fits_zero _)
    | succ levels =>
      refine Reads.congr (iff_of_true trivial (ReferenceType.fits_typeVariable name)) ?_
      exact .after rfl (.of_ok (typeVariable_reads wellFormed rest))
  | array dimensions component ih =>
    intro rest
    cases levels with
    | zero => exact .of_error rfl (ReferenceType.not_fits_zero _)
    | succ levels =>
      refine array_reads wellFormed (fun inner given => ih inner given ?_ levels) rest
      exact TypeSignature.wellFormed_iff.mp wellFormed.2.2 inner given
  | classType type ih =>
    intro rest
    cases levels with
    | zero => exact .of_error rfl (ReferenceType.not_fits_zero _)
    | succ levels =>
      have readable : ∀ segment ∈ type.segments, ∀ argument ∈ segment.2,
          ∀ inner ∈ argument.type?, ReadBy (referenceTypeWithin levels) levels inner :=
        fun segment isSegment argument member inner given => ih segment isSegment argument member
          inner given (ClassType.WellFormed.inner wellFormed segment isSegment argument member
            inner given) levels
      have read := (classType_reads wellFormed readable rest).bind_pure ReferenceType.classType
      obtain ⟨tail, starts⟩ := type.exists_renderOpen_eq
      rw [ReferenceType.fits_classType_iff]
      change Reads _ (type.render ++ rest) _ _ _
      rw [ClassType.render, starts] at read ⊢
      exact .after rfl read

theorem referenceType_reads (type : ReferenceType) (wellFormed : type.WellFormed) :
    ReadBy referenceType maxNesting type :=
  referenceTypeWithin_reads type wellFormed maxNesting

theorem interfaceBounds_read {bounds : List ReferenceType}
    (wellFormed : ∀ bound ∈ bounds, bound.WellFormed) (noColon : ∀ c ∈ rest.head?, c ≠ ':') :
    (collect .endOfSignature interfaceBound).Reads
      ((bounds.flatMap fun bound => ':' :: bound.render) ++ rest)
      (∀ bound ∈ bounds, bound.Fits maxNesting) bounds rest := by
  refine collect_reads_each _ (by simp) (fun bound others isSuffix => ?_)
    (bind_of_ok (eat_of_ne noColon))
  have bounded := referenceType_reads bound (wellFormed bound (isSuffix.subset List.mem_cons_self))
    ((others.flatMap fun bound => ':' :: bound.render) ++ rest)
  exact .after (eat_self _ _) (bounded.bind_pure some)

theorem classBound_reads {bound : ReferenceType} (wellFormed : bound.WellFormed)
    (rest : List Char) :
    classBound.Reads (bound.render ++ rest) (bound.Fits maxNesting) (some bound) rest := by
  have given := (referenceType_reads bound wellFormed rest).bind_pure some
  obtain ⟨tail, starts⟩ := ReferenceType.exists_render_eq wellFormed
  rw [starts] at given ⊢
  cases bound <;> exact .after rfl given

theorem classBound_of_missing (ended : ∀ c ∈ text.head?, c ≠ 'L' ∧ c ≠ 'T' ∧ c ≠ '[') :
    classBound text = .ok (none, text) := by
  rw [classBound, peek_bind]
  generalize text.head? = next at ended ⊢
  split
  · exact absurd rfl (ended _ rfl).1
  · exact absurd rfl (ended _ rfl).2.1
  · exact absurd rfl (ended _ rfl).2.2
  · rfl

/-- What follows the first character of a name is a name again, or nothing. -/
theorem identifier_of_tail {tail : List Char} (isName : ∀ c ∈ tail, isDelimiter c = false)
    (rest : List Char) :
    (∃ name, identifier (tail ++ ':' :: rest) = .ok (name, ':' :: rest)) ∨
      ∃ stopped, identifier (tail ++ ':' :: rest) = .error stopped := by
  cases tail with
  | nil => exact .inr ⟨_, rfl⟩
  | cons c more =>
    have isIdentifier : IsIdentifier (String.ofList (c :: more)) := by
      rw [IsIdentifier, String.toList_ofList]
      exact ⟨by simp, isName⟩
    have ended : EndsName (':' :: rest) := by simp [EndsName, isDelimiter]
    have read := identifier_reads isIdentifier ended
    rw [String.toList_ofList] at read
    exact .inl ⟨_, read⟩

/-- A parser that goes on after a name and does not go on at a colon stops in front of it. -/
theorem exists_stop_of_name {α : Type} {lead : Char} {reason : Reason} {next : String → Parser α}
    {tail : List Char} (isName : ∀ c ∈ tail, isDelimiter c = false) (rest : List Char)
    (stops : ∀ name, ∃ stopped, next name (':' :: rest) = .error stopped) :
    ∃ stopped, (expect lead reason >>= fun _ => identifier >>= next)
      (lead :: (tail ++ ':' :: rest)) = .error stopped := by
  rw [bind_of_ok (expect_self _ _ _)]
  rcases identifier_of_tail isName rest with ⟨name, read⟩ | ⟨stopped, failed⟩
  · rw [bind_of_ok read]
    exact stops name
  · exact ⟨stopped, bind_of_error failed⟩

/-- A name that starts like a type is read as one, and the colon after it closes no type. -/
theorem referenceType_of_name {lead : Char} (isLead : lead = 'L' ∨ lead = 'T') {tail : List Char}
    (isName : ∀ c ∈ tail, isDelimiter c = false) (rest : List Char) :
    ∃ stopped, referenceType (lead :: (tail ++ ':' :: rest)) = .error stopped := by
  rcases isLead with rfl | rfl
  · have stops : ∃ stopped, classType (referenceTypeWithin 255) ('L' :: (tail ++ ':' :: rest)) =
        .error stopped := exists_stop_of_name isName rest fun _ => ⟨_, rfl⟩
    obtain ⟨stopped, failed⟩ := stops
    exact ⟨stopped, (bind_of_ok rfl).trans (bind_of_error failed)⟩
  · have stops : ∃ stopped, typeVariable ('T' :: (tail ++ ':' :: rest)) = .error stopped :=
      exists_stop_of_name isName rest fun _ => ⟨_, rfl⟩
    exact stops

theorem classBound_of_name {parameter : TypeParameter} (isIdentifier : IsIdentifier parameter.name)
    (looksLikeBound : parameter.looksLikeBound = true) (rest : List Char) :
    ∃ stopped, classBound (parameter.name.toList ++ ':' :: rest) = .error stopped := by
  obtain ⟨lead, tail, starts⟩ := List.exists_cons_of_ne_nil isIdentifier.1
  have isName : ∀ c ∈ tail, isDelimiter c = false := fun c member =>
    isIdentifier.2 c (starts ▸ List.mem_cons_of_mem lead member)
  rw [TypeParameter.looksLikeBound, starts] at looksLikeBound
  have isLead : lead = 'L' ∨ lead = 'T' := by simpa using looksLikeBound
  obtain ⟨stopped, failed⟩ := referenceType_of_name isLead isName rest
  rw [starts, List.cons_append]
  rcases isLead with rfl | rfl <;>
    exact ⟨stopped, (bind_of_ok rfl).trans (bind_of_error failed)⟩

/-- The text of the bounds of a parameter, after the colon that stands before them. -/
def TypeParameter.boundsText (parameter : TypeParameter) : List Char :=
  parameter.classBound.elim [] ReferenceType.render ++
    parameter.interfaceBounds.flatMap fun bound => ':' :: bound.render

theorem TypeParameter.render_append (parameter : TypeParameter) (rest : List Char) :
    parameter.render ++ rest =
      parameter.name.toList ++ ':' :: (parameter.boundsText ++ rest) := by
  rw [render, ← boundsText, List.append_assoc, List.cons_append]

/-- A parameter begins with the first character of its name. -/
theorem TypeParameter.exists_render_eq {parameter : TypeParameter}
    (isIdentifier : IsIdentifier parameter.name) : ∃ lead tail,
      parameter.render = lead :: tail ∧ parameter.name.toList.head? = some lead ∧
        isDelimiter lead = false := by
  obtain ⟨nonempty, isName⟩ := isIdentifier
  obtain ⟨lead, tail, starts⟩ := List.exists_cons_of_ne_nil nonempty
  rw [TypeParameter.render, starts]
  exact ⟨lead, _, rfl, rfl, isName lead (starts ▸ List.mem_cons_self)⟩

/-- What comes after a parameter is the name of the next one, or the closing bracket. -/
theorem mem_head?_parameters {parameters : List TypeParameter}
    (wellFormed : ∀ parameter ∈ parameters, parameter.WellFormed) {c : Char}
    (first : c ∈ (parameters.flatMap TypeParameter.render ++ '>' :: rest).head?) :
    c = '>' ∨ isDelimiter c = false := by
  cases parameters with
  | nil => exact .inl (Option.mem_some_iff.mp first).symm
  | cons parameter others =>
    obtain ⟨lead, tail, starts, -, notDelimiter⟩ :=
      TypeParameter.exists_render_eq (wellFormed parameter List.mem_cons_self).1
    rw [List.flatMap_cons, starts] at first
    obtain rfl := Option.mem_some_iff.mp first
    exact .inr notDelimiter

/-- A missing class bound is seen as missing unless the next parameter looks like a bound. -/
theorem missingBound_reads {parameter : TypeParameter} {others : List TypeParameter}
    (wellFormed : ∀ next ∈ others, next.WellFormed) (unbounded : parameter.bounds = [])
    (rest : List Char) :
    classBound.Reads (others.flatMap TypeParameter.render ++ '>' :: rest)
      (∀ next ∈ others.head?, parameter.Separates next) none
      (others.flatMap TypeParameter.render ++ '>' :: rest) := by
  cases others with
  | nil => exact (Reads.of_ok rfl).congr (by simp)
  | cons next more =>
    have isIdentifier := (wellFormed next List.mem_cons_self).1
    rw [List.flatMap_cons, List.append_assoc]
    cases looks : next.looksLikeBound with
    | true =>
      obtain ⟨stopped, failed⟩ := classBound_of_name isIdentifier looks
        (next.boundsText ++ (more.flatMap TypeParameter.render ++ '>' :: rest))
      rw [next.render_append]
      refine .of_error failed fun separates => ?_
      have notLooks := separates next rfl unbounded
      rw [looks] at notLooks
      cases notLooks
    | false =>
      obtain ⟨lead, tail, starts, head, notDelimiter⟩ :=
        TypeParameter.exists_render_eq isIdentifier
      rw [TypeParameter.looksLikeBound, head] at looks
      rw [starts]
      have missing : ∀ c ∈ (lead :: tail ++ (more.flatMap TypeParameter.render ++
          '>' :: rest)).head?, c ≠ 'L' ∧ c ≠ 'T' ∧ c ≠ '[' := by
        rintro c ⟨⟩
        refine ⟨?_, ?_, ?_⟩ <;> rintro rfl
        · cases looks
        · cases looks
        · cases notDelimiter
      refine (Reads.of_ok (classBound_of_missing missing)).congr (iff_of_true trivial ?_)
      rintro next ⟨⟩ -
      rw [TypeParameter.looksLikeBound, head]
      exact looks

/-- The bounds of a parameter are read up to the next parameter or the closing bracket. -/
theorem bounds_read {parameter : TypeParameter} {others : List TypeParameter}
    (wellFormed : parameter.WellFormed) (othersWellFormed : ∀ next ∈ others, next.WellFormed)
    (rest : List Char) :
    (classBound >>= fun first => collect .endOfSignature interfaceBound >>= fun more =>
      pure (some (TypeParameter.mk parameter.name first more))).Reads
        (parameter.boundsText ++ (others.flatMap TypeParameter.render ++ '>' :: rest))
        (parameter.Fits ∧ ∀ next ∈ others.head?, parameter.Separates next) (some parameter)
        (others.flatMap TypeParameter.render ++ '>' :: rest) := by
  have noColon : ∀ c ∈ (others.flatMap TypeParameter.render ++ '>' :: rest).head?, c ≠ ':' := by
    rintro c first rfl
    rcases mem_head?_parameters othersWellFormed first with isBracket | notDelimiter
    · cases isBracket
    · cases notDelimiter
  obtain ⟨name, first, more⟩ := parameter
  obtain ⟨-, boundsWellFormed⟩ := wellFormed
  rw [TypeParameter.bounds, List.forall_mem_append] at boundsWellFormed
  have moreRead := interfaceBounds_read boundsWellFormed.2 noColon
  rw [TypeParameter.boundsText, List.append_assoc]
  cases first with
  | some bound =>
    have firstRead := classBound_reads (boundsWellFormed.1 bound (by simp))
    refine ((firstRead _).bind (moreRead.bind (.of_ok rfl))).congr ?_
    simp [TypeParameter.Fits, TypeParameter.Separates, TypeParameter.bounds]
  | none =>
    cases more with
    | nil =>
      have unbounded : (TypeParameter.mk name none []).bounds = [] := rfl
      have firstRead := missingBound_reads othersWellFormed unbounded rest
      refine (firstRead.bind (moreRead.bind (.of_ok rfl))).congr ?_
      simp [TypeParameter.Fits, TypeParameter.bounds]
    | cons bound bounds =>
      refine (Reads.after (classBound_of_missing (by simp)) (moreRead.bind (.of_ok rfl))).congr ?_
      simp [TypeParameter.Fits, TypeParameter.Separates, TypeParameter.bounds]

theorem typeParameter_of_ne {c : Char} (other : c ≠ '>') (text : List Char) :
    typeParameter (c :: text) = (identifier >>= fun name => do
      expect ':' .parameterColon
      return some (TypeParameter.mk name (← classBound)
        (← collect .endOfSignature interfaceBound))) (c :: text) := by
  rw [typeParameter, peek_bind, List.head?_cons]
  generalize head : some c = next
  split
  · cases head
  · cases head
    contradiction
  · rfl

theorem typeParameter_reads {parameter : TypeParameter} {others : List TypeParameter}
    (wellFormed : parameter.WellFormed) (othersWellFormed : ∀ next ∈ others, next.WellFormed)
    (rest : List Char) :
    typeParameter.Reads (parameter.render ++ (others.flatMap TypeParameter.render ++ '>' :: rest))
      (parameter.Fits ∧ ∀ next ∈ others.head?, parameter.Separates next) (some parameter)
      (others.flatMap TypeParameter.render ++ '>' :: rest) := by
  have boundsRead := bounds_read wellFormed othersWellFormed rest
  obtain ⟨lead, tail, starts, -, notDelimiter⟩ := TypeParameter.exists_render_eq wellFormed.1
  have notBracket : lead ≠ '>' := by
    rintro rfl
    cases notDelimiter
  have same := typeParameter_of_ne notBracket
    (tail ++ (others.flatMap TypeParameter.render ++ '>' :: rest))
  rw [← List.cons_append, ← starts] at same
  refine .of_eq same ?_
  rw [parameter.render_append]
  exact .after (identifier_reads wellFormed.1 (by simp [EndsName, isDelimiter]))
    (.after (expect_self _ _ _) boundsRead)

theorem typeParameters_reads {list : List TypeParameter}
    (wellFormed : ∀ parameter ∈ list, parameter.WellFormed)
    (noBracket : ∀ c ∈ rest.head?, c ≠ '<') :
    typeParameters.Reads (TypeParameter.renderList list ++ rest)
      ((∀ parameter ∈ list, parameter.Fits) ∧ list.IsChain TypeParameter.Separates) list rest := by
  rw [TypeParameter.renderList]
  cases list with
  | nil => exact (Reads.after (eat_of_ne noBracket) (.of_ok rfl)).congr (by simp)
  | cons parameter others =>
    have items := collect_reads_chain (ε := Reason) .endOfSignature
      (fun entry _ => by simp [TypeParameter.render])
      (fun entry following isSuffix => typeParameter_reads
        (wellFormed entry (isSuffix.subset List.mem_cons_self))
        (fun next member => wellFormed next (isSuffix.subset (List.mem_cons_of_mem entry member)))
        rest)
      (rfl : typeParameter ('>' :: rest) = .ok (none, rest))
    rw [bracketed_cons_append]
    exact (Reads.after (eat_self _ _) (items.bind (.of_ok rfl))).congr (by rw [and_true])

theorem standingClass_reads {type : ClassType} (wellFormed : type.WellFormed) (rest : List Char) :
    (classType referenceType).Reads (type.render ++ rest) (type.Fits maxNesting) type rest :=
  classType_reads wellFormed (fun segment isSegment argument member inner given =>
    referenceType_reads inner (wellFormed.inner segment isSegment argument member inner given)) rest

theorem standingType_reads {type : TypeSignature} (wellFormed : type.WellFormed)
    (rest : List Char) :
    (typeSignature referenceType).Reads (type.render ++ rest) (type.Fits maxNesting) type rest :=
  typeSignature_reads wellFormed (fun inner given =>
    referenceType_reads inner (TypeSignature.wellFormed_iff.mp wellFormed inner given)) rest

theorem interface_reads {type : ClassType} (wellFormed : type.WellFormed) (rest : List Char) :
    interface.Reads (type.render ++ rest) (type.Fits maxNesting) (some type) rest := by
  have read := (standingClass_reads wellFormed rest).bind_pure some
  obtain ⟨tail, starts⟩ := type.exists_renderOpen_eq
  rw [ClassType.render, starts] at read ⊢
  exact .after rfl read

/-- The text of a well-formed class signature is read to its end, unless a type in it does
not keep within the limits or two type parameters in a row cannot be told apart. -/
theorem classSignature_reads {signature : ClassSignature} (wellFormed : signature.WellFormed) :
    classSignature.Reads signature.render
      (signature.Fits ∧ signature.typeParameters.IsChain TypeParameter.Separates) signature [] := by
  have interfacesRead := collect_reads_each (ε := Reason) .endOfSignature
    (fun (type : ClassType) _ => by simp [ClassType.render])
    (fun type others isSuffix =>
      interface_reads (wellFormed.interfaces type (isSuffix.subset List.mem_cons_self)) _)
    (rfl : interface [] = .ok (none, []))
  have superclassRead := standingClass_reads wellFormed.superclass
    (signature.interfaces.flatMap ClassType.render ++ [])
  obtain ⟨tail, starts⟩ := signature.superclass.exists_renderOpen_eq
  have noBracket : ∀ c ∈ (signature.superclass.render ++
      (signature.interfaces.flatMap ClassType.render ++ [])).head?, c ≠ '<' := by
    simp [ClassType.render, starts]
  have parametersRead := typeParameters_reads wellFormed.typeParameters noBracket
  have text : signature.render = TypeParameter.renderList signature.typeParameters ++
      (signature.superclass.render ++ (signature.interfaces.flatMap ClassType.render ++ [])) := by
    simp [ClassSignature.render]
  rw [text]
  refine (parametersRead.bind (superclassRead.bind (interfacesRead.bind (.of_ok rfl)))).congr ?_
  constructor
  · rintro ⟨⟨parameters, separate⟩, superclass, interfaces, -⟩
    exact ⟨⟨parameters, superclass, interfaces⟩, separate⟩
  · rintro ⟨⟨parameters, superclass, interfaces⟩, separate⟩
    exact ⟨⟨parameters, separate⟩, superclass, interfaces, trivial⟩

theorem parameter_reads {type : TypeSignature} (wellFormed : type.WellFormed)
    (rest : List Char) :
    parameter.Reads (type.render ++ rest) (type.Fits maxNesting) (some type) rest := by
  have read := (standingType_reads wellFormed rest).bind_pure some
  obtain ⟨tail, starts⟩ := TypeSignature.exists_render_eq wellFormed
  have noParenthesis : ∀ c ∈ (type.render ++ rest).head?, c ≠ ')' := by
    rw [starts]
    rintro c ⟨⟩
    exact (TypeSignature.lead_ne type).1
  exact .after (eat_of_ne noParenthesis) read

theorem returnType_reads {returned : Option TypeSignature}
    (wellFormed : ∀ type ∈ returned, type.WellFormed) (rest : List Char) :
    returnType.Reads (returned.elim ['V'] TypeSignature.render ++ rest)
      (∀ type ∈ returned, type.Fits maxNesting) returned rest := by
  cases returned with
  | none => exact (Reads.after (eat_self _ _) (.of_ok rfl)).congr (by simp)
  | some type =>
    have wellFormed := wellFormed type rfl
    have read := (standingType_reads wellFormed rest).map some
    obtain ⟨tail, starts⟩ := TypeSignature.exists_render_eq wellFormed
    have returnsValue : ∀ c ∈ (type.render ++ rest).head?, c ≠ 'V' := by
      rw [starts]
      rintro c ⟨⟩
      exact (TypeSignature.lead_ne type).2
    exact (Reads.after (eat_of_ne returnsValue) read).congr (by simp)

theorem thrown_reads {type : ReferenceType} (wellFormed : type.WellFormed)
    (notArray : type.isArray = false) (rest : List Char) :
    thrown.Reads ('^' :: type.render ++ rest) (type.Fits (maxNesting + 1)) (some type) rest := by
  refine .after (eat_self _ _) ?_
  cases type with
  | array dimensions component => cases notArray
  | typeVariable name =>
    refine Reads.congr (iff_of_true trivial (ReferenceType.fits_typeVariable name)) ?_
    exact .after rfl (.after (typeVariable_reads wellFormed rest) (.of_ok rfl))
  | classType type =>
    have read := (standingClass_reads wellFormed rest).bind_pure fun type =>
      some (ReferenceType.classType type)
    obtain ⟨tail, starts⟩ := type.exists_renderOpen_eq
    rw [ReferenceType.fits_classType_iff]
    change Reads _ (type.render ++ rest) _ _ _
    rw [ClassType.render, starts] at read ⊢
    exact .after rfl read

/-- The text of a well-formed method signature is read to its end, unless a type in it does
not keep within the limits or two type parameters in a row cannot be told apart. -/
theorem methodSignature_reads {signature : MethodSignature} (wellFormed : signature.WellFormed) :
    methodSignature.Reads signature.render
      (signature.Fits ∧ signature.typeParameters.IsChain TypeParameter.Separates) signature [] := by
  have throwsRead := collect_reads_each (ε := Reason) .endOfSignature
    (fun (type : ReferenceType) _ => by simp)
    (fun type others isSuffix =>
      have isThrown := wellFormed.throws type (isSuffix.subset List.mem_cons_self)
      thrown_reads isThrown.1 isThrown.2 _)
    (rfl : thrown [] = .ok (none, []))
  have returnRead := returnType_reads wellFormed.returnType
    ((signature.throws.flatMap fun type => '^' :: type.render) ++ [])
  have parametersRead := collect_reads_each (ε := Reason) .endOfSignature
    (fun type member => TypeSignature.render_ne_nil (wellFormed.parameters type member))
    (fun type others isSuffix =>
      parameter_reads (wellFormed.parameters type (isSuffix.subset List.mem_cons_self)) _)
    (rfl : parameter (')' :: (signature.returnType.elim ['V'] TypeSignature.render ++
      ((signature.throws.flatMap fun type => '^' :: type.render) ++ []))) = .ok (none, _))
  have text : signature.render = TypeParameter.renderList signature.typeParameters ++ '(' ::
      (signature.parameters.flatMap TypeSignature.render ++ ')' ::
        (signature.returnType.elim ['V'] TypeSignature.render ++
          ((signature.throws.flatMap fun type => '^' :: type.render) ++ []))) := by
    simp [MethodSignature.render]
  rw [methodSignature_eq, text]
  refine ((typeParameters_reads wellFormed.typeParameters (by simp)).bind
    (.after (expect_self _ _ _) (parametersRead.bind (returnRead.bind
      (throwsRead.bind (.after rfl (.of_ok rfl))))))).congr ?_
  constructor
  · rintro ⟨⟨declared, separate⟩, parameters, returned, throws, -⟩
    exact ⟨⟨declared, parameters, returned, throws⟩, separate⟩
  · rintro ⟨⟨declared, parameters, returned, throws⟩, separate⟩
    exact ⟨⟨declared, separate⟩, parameters, returned, throws, trivial⟩

theorem fieldSignature_reads {type : ReferenceType} (wellFormed : type.WellFormed) :
    fieldSignature.Reads type.render (type.Fits maxNesting) type [] := by
  have read := referenceType_reads type wellFormed []
  rw [List.append_nil] at read
  exact (read.bind (.after rfl (.of_ok rfl))).congr (by rw [and_true])

end JvmGenerics.Signature
