import JvmGenerics.Import.Model
import JvmGenerics.Import.State
import JvmGenerics.Proofs.Related

/-!
# Lexical chains

The scopes that are visible in a class follow from a few facts about it and about
the classes around it. Whether these are taken from the table of an import or from
its result makes no difference, and neither do the numbers of the scopes.
-/

namespace JvmGenerics

/-- What a lexical chain depends on in a class. -/
structure Outline where
  name : String
  enclosing : Option Enclosing
  scope : Option ScopeId
  methodScopes : List (MethodKey × ScopeId)
deriving DecidableEq

namespace Outline

/-- The scope of a method, if the method declares type parameters. -/
def methodScope? (outline : Outline) (key : MethodKey) : Option ScopeId :=
  (outline.methodScopes.find? fun entry => entry.1 == key).map Prod.snd

/-- The scopes of the class and of its methods. -/
def scopes (outline : Outline) : List ScopeId :=
  outline.scope.toList ++ outline.methodScopes.map Prod.snd

theorem mem_scopes_of_methodScope? {outline : Outline} {key : MethodKey} {scope : ScopeId}
    (found : outline.methodScope? key = some scope) : scope ∈ outline.scopes := by
  rw [methodScope?, Option.map_eq_some_iff] at found
  obtain ⟨entry, present, rfl⟩ := found
  exact List.mem_append_right _ (List.mem_map_of_mem (List.mem_of_find?_eq_some present))

end Outline

/-- The scopes that are visible in a class, innermost first, where the classes of the
given names were passed on the way from the inside. The scope of the class comes first,
if it has one; then the scope of the method around it, if that method has one; then
what is visible in the class around it. The chain ends at a class that stands alone, at
a class that is static, before a class that is not in the table, and before a class that
was passed already. -/
inductive LexicalChain (table : String → Option Outline) :
    List String → Outline → ScopeChain → Prop
  | passed {visited : List String} {outline : Outline} :
      outline.name ∈ visited → LexicalChain table visited outline []
  | alone {visited : List String} {outline : Outline} :
      outline.name ∉ visited → outline.enclosing = none →
        LexicalChain table visited outline outline.scope.toList
  | cut {visited : List String} {outline : Outline} {place : Enclosing} :
      outline.name ∉ visited → outline.enclosing = some place → place.isStatic = true →
        LexicalChain table visited outline outline.scope.toList
  | missing {visited : List String} {outline : Outline} {place : Enclosing} :
      outline.name ∉ visited → outline.enclosing = some place → place.isStatic = false →
        table place.className = none →
          LexicalChain table visited outline outline.scope.toList
  | nested {visited : List String} {outline outer : Outline} {place : Enclosing}
      {outwards : ScopeChain} :
      outline.name ∉ visited → outline.enclosing = some place → place.isStatic = false →
        table place.className = some outer →
          LexicalChain table (outline.name :: visited) outer outwards →
            LexicalChain table visited outline (outline.scope.toList ++
              (place.method.bind outer.methodScope?).toList ++ outwards)

namespace LexicalChain

/-- All scopes of a chain belong to the class or to classes of the table. -/
theorem forall_mem {table : String → Option Outline} {holds : ScopeId → Prop}
    (known : ∀ {name outline}, table name = some outline → ∀ scope ∈ outline.scopes, holds scope)
    {visited : List String} {outline : Outline} {chain : ScopeChain}
    (lexical : LexicalChain table visited outline chain)
    (own : ∀ scope ∈ outline.scopes, holds scope) :
    ∀ scope ∈ chain, holds scope := by
  have ownScope {outline : Outline} (own : ∀ scope ∈ outline.scopes, holds scope) :
      ∀ scope ∈ outline.scope.toList, holds scope :=
    fun scope member => own scope (List.mem_append_left _ member)
  induction lexical with
  | passed => simp
  | alone => exact ownScope own
  | cut => exact ownScope own
  | missing => exact ownScope own
  | @nested visited outline outer place outwards _ _ _ found _ ih =>
    simp only [List.forall_mem_append]
    refine ⟨⟨ownScope own, ?_⟩, ih (known found)⟩
    intro scope member
    rw [Option.mem_toList, Option.bind_eq_some_iff] at member
    obtain ⟨key, -, around⟩ := member
    exact known found scope (Outline.mem_scopes_of_methodScope? around)

section Inversion

variable {table : String → Option Outline} {visited : List String} {outline : Outline}
variable {chain : ScopeChain} {place : Enclosing}

theorem eq_nil_of_passed (lexical : LexicalChain table visited outline chain)
    (passed : outline.name ∈ visited) : chain = [] := by
  cases lexical with
  | passed => rfl
  | _ => contradiction

theorem eq_of_alone (lexical : LexicalChain table visited outline chain)
    (fresh : outline.name ∉ visited) (alone : outline.enclosing = none) :
    chain = outline.scope.toList := by
  cases lexical with
  | passed => contradiction
  | alone => rfl
  | _ => simp_all

theorem eq_of_cut (lexical : LexicalChain table visited outline chain)
    (fresh : outline.name ∉ visited) (enclosing : outline.enclosing = some place)
    (isStatic : place.isStatic = true) : chain = outline.scope.toList := by
  cases lexical with
  | passed => contradiction
  | cut => rfl
  | _ => simp_all

theorem eq_of_missing (lexical : LexicalChain table visited outline chain)
    (fresh : outline.name ∉ visited) (enclosing : outline.enclosing = some place)
    (isMember : place.isStatic = false) (absent : table place.className = none) :
    chain = outline.scope.toList := by
  cases lexical with
  | passed => contradiction
  | missing => rfl
  | _ => simp_all

theorem exists_of_nested {outer : Outline} (lexical : LexicalChain table visited outline chain)
    (fresh : outline.name ∉ visited) (enclosing : outline.enclosing = some place)
    (isMember : place.isStatic = false) (found : table place.className = some outer) :
    ∃ outwards, LexicalChain table (outline.name :: visited) outer outwards ∧
      chain = outline.scope.toList ++ (place.method.bind outer.methodScope?).toList ++
        outwards := by
  cases lexical with
  | passed => contradiction
  | nested _ otherEnclosing _ otherFound further =>
    obtain rfl := Option.some.inj (enclosing.symm.trans otherEnclosing)
    obtain rfl := Option.some.inj (found.symm.trans otherFound)
    exact ⟨_, further, rfl⟩
  | _ => simp_all

end Inversion

end LexicalChain

/-- Outlines of one class, the scopes of which may have different numbers. -/
structure Outline.Related (paired : ScopeId → ScopeId → Prop) (first second : Outline) :
    Prop where
  name : first.name = second.name
  enclosing : first.enclosing = second.enclosing
  scope : Option.Rel paired first.scope second.scope
  methodScopes : List.Forall₂ (fun entry other => entry.1 = other.1 ∧ paired entry.2 other.2)
    first.methodScopes second.methodScopes

variable {paired : ScopeId → ScopeId → Prop}

theorem Outline.rel_methodScope? {first second : Outline}
    (same : List.Forall₂ (fun entry other => entry.1 = other.1 ∧ paired entry.2 other.2)
      first.methodScopes second.methodScopes) (key : MethodKey) :
    Option.Rel paired (first.methodScope? key) (second.methodScope? key) := by
  have entries := rel_find? same fun entry other pair => congrArg (· == key) pair.1
  exact rel_map entries fun _ _ pair => pair.2

/-- Outlines of one class whose parts of a chain are related to each other. -/
structure Outline.Alike (related : ScopeChain → ScopeChain → Prop) (first second : Outline) :
    Prop where
  name : first.name = second.name
  enclosing : first.enclosing = second.enclosing
  scope : related first.scope.toList second.scope.toList
  methodScope : ∀ key, related (first.methodScope? key).toList (second.methodScope? key).toList

/-- Chains of alike classes in alike tables are related, if that is so part by part. -/
theorem LexicalChain.alike {related : ScopeChain → ScopeChain → Prop} (nil : related [] [])
    (append : ∀ {inner other outer otherOuter}, related inner other → related outer otherOuter →
      related (inner ++ outer) (other ++ otherOuter))
    {table others : String → Option Outline}
    (tables : ∀ name, Option.Rel (Outline.Alike related) (table name) (others name))
    {visited : List String} {outline other : Outline} {chain otherChain : ScopeChain}
    (lexical : LexicalChain table visited outline chain)
    (otherLexical : LexicalChain others visited other otherChain)
    (same : outline.Alike related other) : related chain otherChain := by
  induction lexical generalizing other otherChain with
  | passed member =>
    rw [same.name] at member
    rw [otherLexical.eq_nil_of_passed member]
    exact nil
  | alone fresh alone =>
    rw [same.name] at fresh
    rw [same.enclosing] at alone
    rw [otherLexical.eq_of_alone fresh alone]
    exact same.scope
  | cut fresh enclosing isStatic =>
    rw [same.name] at fresh
    rw [same.enclosing] at enclosing
    rw [otherLexical.eq_of_cut fresh enclosing isStatic]
    exact same.scope
  | @missing visited outline place fresh enclosing isMember absent =>
    have rel := tables place.className
    rw [absent] at rel
    rw [same.name] at fresh
    rw [same.enclosing] at enclosing
    rw [otherLexical.eq_of_missing fresh enclosing isMember (eq_none_of_rel rel)]
    exact same.scope
  | @nested visited outline outer place outwards fresh enclosing isMember found _ ih =>
    have rel := tables place.className
    rw [found] at rel
    rw [same.name] at fresh ih
    rw [same.enclosing] at enclosing
    obtain ⟨otherOuter, otherFound, outerSame⟩ := exists_of_rel_some rel
    obtain ⟨otherOutwards, further, rfl⟩ :=
      otherLexical.exists_of_nested fresh enclosing isMember otherFound
    have around : related (place.method.bind outer.methodScope?).toList
        (place.method.bind otherOuter.methodScope?).toList := by
      cases place.method with
      | none => exact nil
      | some key => exact outerSame.methodScope key
    exact append (append same.scope around) (ih further outerSame)

theorem Outline.Related.alike {first second : Outline} (same : first.Related paired second) :
    first.Alike (List.Forall₂ paired) second :=
  ⟨same.name, same.enclosing, forall₂_toList same.scope,
    fun key => forall₂_toList (Outline.rel_methodScope? same.methodScopes key)⟩

/-- Chains of related classes in related tables are related, scope by scope. -/
theorem LexicalChain.related {table others : String → Option Outline}
    (tables : ∀ name, Option.Rel (Outline.Related paired) (table name) (others name))
    {visited : List String} {outline other : Outline} {chain otherChain : ScopeChain}
    (lexical : LexicalChain table visited outline chain)
    (otherLexical : LexicalChain others visited other otherChain)
    (same : outline.Related paired other) :
    List.Forall₂ paired chain otherChain := by
  have alike (name : String) :
      Option.Rel (Outline.Alike (List.Forall₂ paired)) (table name) (others name) := by
    have rel := tables name
    generalize table name = outline, others name = other at rel
    cases rel with
    | none => exact .none
    | some same => exact .some same.alike
  exact LexicalChain.alike List.Forall₂.nil (fun inner outer => List.rel_append inner outer) alike
    lexical otherLexical same.alike

/-- A class has one chain at most. -/
theorem LexicalChain.unique {table : String → Option Outline} {visited : List String}
    {outline : Outline} {first second : ScopeChain}
    (lexical : LexicalChain table visited outline first)
    (otherLexical : LexicalChain table visited outline second) : first = second := by
  have self (outline : Outline) : outline.Related Eq outline :=
    ⟨rfl, rfl, by cases outline.scope <;> constructor; rfl,
      List.forall₂_same.mpr fun _ _ => ⟨rfl, rfl⟩⟩
  have tables (name : String) : Option.Rel (Outline.Related Eq) (table name) (table name) := by
    cases table name with
    | none => exact .none
    | some outline => exact .some (self outline)
  have same := lexical.related tables otherLexical (self outline)
  rwa [List.forall₂_eq_eq_eq] at same

/-- The scope of a class that was not passed before comes first in its chain. -/
theorem LexicalChain.scope_isPrefix {table : String → Option Outline} {visited : List String}
    {outline : Outline} {chain : ScopeChain} (lexical : LexicalChain table visited outline chain)
    (fresh : outline.name ∉ visited) : outline.scope.toList <+: chain := by
  cases lexical with
  | passed => contradiction
  | nested =>
    rw [List.append_assoc]
    exact List.prefix_append _ _
  | _ => exact List.prefix_rfl

/-- With more classes in the table, a chain can only become longer at its end. -/
theorem LexicalChain.isPrefix {table others : String → Option Outline}
    (included : ∀ {name outline}, table name = some outline → others name = some outline)
    {visited : List String} {outline : Outline} {chain longer : ScopeChain}
    (lexical : LexicalChain table visited outline chain)
    (otherLexical : LexicalChain others visited outline longer) : chain <+: longer := by
  induction lexical generalizing longer with
  | passed => exact List.nil_prefix
  | alone fresh => exact otherLexical.scope_isPrefix fresh
  | cut fresh => exact otherLexical.scope_isPrefix fresh
  | missing fresh => exact otherLexical.scope_isPrefix fresh
  | nested fresh enclosing isMember found _ ih =>
    obtain ⟨outwards, further, rfl⟩ :=
      otherLexical.exists_of_nested fresh enclosing isMember (included found)
    exact (List.prefix_append_right_inj _).mpr (ih further)

def DeclaredClass.outline (declared : DeclaredClass) : Outline :=
  ⟨declared.name, declared.info.enclosing, declared.generics.scope,
    declared.methods.filterMap fun method =>
      method.generics.scope.map fun scope => (method.info.key, scope)⟩

/-- Methods with related scopes have related scopes in the outlines of their classes. -/
theorem DeclaredClass.methodScopes_related {paired : ScopeId → ScopeId → Prop}
    {declared other : DeclaredClass}
    (same : List.Forall₂ (fun method otherMethod => otherMethod.info.key = method.info.key ∧
      Option.Rel paired method.generics.scope otherMethod.generics.scope)
        declared.methods other.methods) :
    List.Forall₂ (fun entry otherEntry => entry.1 = otherEntry.1 ∧ paired entry.2 otherEntry.2)
      declared.outline.methodScopes other.outline.methodScopes := by
  refine List.rel_filterMap (fun method otherMethod related => ?_) same
  obtain ⟨key, scopes⟩ := related
  rw [key]
  exact rel_map scopes fun _ _ pair => ⟨rfl, pair⟩

def ImportedClass.outline (imported : ImportedClass) : Outline :=
  ⟨imported.name, imported.info.enclosing, imported.scope,
    imported.methods.filterMap fun method =>
      method.scope.map fun scope => (method.info.key, scope)⟩

def ImportState.outline? (state : ImportState) (name : String) : Option Outline :=
  (state.class? name).map DeclaredClass.outline

def Imported.outline? (imported : Imported) (name : String) : Option Outline :=
  (imported.class? name).map ImportedClass.outline

end JvmGenerics
