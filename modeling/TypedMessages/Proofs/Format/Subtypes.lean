import TypedMessages.Proofs.Format.References
import TypedMessages.Proofs.Types.Supertypes

/-!
# Message texts under subtypes

What a text demands of an argument is a category, and if no declarations run in a circle, a type is in every category of its supertypes. So a text that fits its arguments fits subtypes in their place as well, and it does not look at arguments that it does not refer to.
-/

namespace TypedMessages

/-- An argument that belongs to every category of another one. -/
def ArgumentType.Refines (other argument : ArgumentType) : Prop :=
  ∀ category, argument.belongsTo category = true → other.belongsTo category = true

/-! ### Categories of subtypes -/

namespace Catalog

open TypeTable

theorem belongsTo_argumentType {catalog : Catalog} {name : String} {isArray : Bool} {category : TypeCategory} :
    (catalog.argumentType name isArray).belongsTo category = true ↔
      isArray = false ∧ ∃ root ∈ catalog.roots.ofCategory category, catalog.isSubtypeOf name root = true := by
  have hall : category ∈ TypeCategory.all := by cases category <;> decide
  cases isArray with
  | false => simp [ArgumentType.belongsTo, argumentType, categories, isSubtypeOfAny, hall]
  | true => simp [ArgumentType.belongsTo, argumentType, categories]

def argumentTypes (catalog : Catalog) (named : List (String × Bool)) : List ArgumentType :=
  named.map fun (name, isArray) => catalog.argumentType name isArray

theorem getElem?_argumentTypes_eq_some_iff {catalog : Catalog} {named : List (String × Bool)} {place : Nat}
    {argument : ArgumentType} :
    (catalog.argumentTypes named)[place]? = some argument ↔
      ∃ name isArray, named[place]? = some (name, isArray) ∧ catalog.argumentType name isArray = argument := by
  rw [argumentTypes, List.getElem?_map, Option.map_eq_some_iff, Prod.exists]

variable {types : List TypeDeclaration} {roots : TypeRoots} {order : List String} {sub middle super : String}

theorem isSubtypeOf_trans (hcovers : ∀ name ∈ names (builtinTypes ++ types), name ∈ order)
    (hacyclic : Acyclic (builtinTypes ++ types))
    (hsub : (buildAlong order types roots).isSubtypeOf sub middle = true)
    (hmiddle : (buildAlong order types roots).isSubtypeOf middle super = true) :
    (buildAlong order types roots).isSubtypeOf sub super = true :=
  isSubtypeOf_of_reaches hcovers (hacyclic.cycleFreeAbove sub)
    ((reaches_of_isSubtypeOf hsub).trans (reaches_of_isSubtypeOf hmiddle))

theorem refines_argumentType_of_isSubtypeOf (hcovers : ∀ name ∈ names (builtinTypes ++ types), name ∈ order)
    (hacyclic : Acyclic (builtinTypes ++ types))
    (hsub : (buildAlong order types roots).isSubtypeOf sub super = true) (isArray : Bool) :
    ((buildAlong order types roots).argumentType sub isArray).Refines
      ((buildAlong order types roots).argumentType super isArray) := by
  intro category hbelongs
  obtain ⟨harray, root, hroot, hsuper⟩ := belongsTo_argumentType.1 hbelongs
  exact belongsTo_argumentType.2 ⟨harray, root, hroot, isSubtypeOf_trans hcovers hacyclic hsub hsuper⟩

end Catalog

/-! ### Arguments in the place of others -/

theorem Showing.accepts_of_refines {showing : Showing} {argument other : ArgumentType} (hrefines : other.Refines argument)
    (h : showing.accepts argument = true) : showing.accepts other = true :=
  accepts_iff.2 ((accepts_iff.1 h).imp_right fun ⟨wanted, hwanted, hbelongs⟩ =>
    ⟨wanted, hwanted, hrefines wanted hbelongs⟩)

section Arguments

variable {kind : FormatKind} {parts : List Part} {types others : List ArgumentType}

/-- A text that fits its arguments fits others that refine those it refers to. -/
theorem argumentFault?_eq_none_of_refines (h : argumentFault? kind parts types = none)
    (hrefines : ∀ place ∈ referencedArguments kind parts, ∀ argument, types[place]? = some argument →
      ∃ other, others[place]? = some other ∧ other.Refines argument) :
    argumentFault? kind parts others = none := by
  obtain ⟨shape, hshape⟩ := exists_formatShape_of_fits h
  refine (argumentFault?_eq_none_iff hshape).2 fun use huse => ?_
  obtain ⟨place, argument, hplace, hargument, haccepts⟩ := (argumentFault?_eq_none_iff hshape).1 h use huse
  obtain ⟨other, hother, hrefine⟩ := hrefines place (mem_referencedArguments hshape huse hplace) argument hargument
  exact ⟨place, other, hplace, hother, Showing.accepts_of_refines hrefine haccepts⟩

end Arguments

/-- **A text that fits its arguments fits subtypes in their place.** If no declared types run in a circle, a text that fits fits any arguments that have subtypes of the ones it refers to, arrays for arrays; and it fits any that only keep those, whatever else is added, left out or changed. -/
theorem argumentFault?_eq_none_of_subtypes (types : List TypeDeclaration) (roots : TypeRoots) (order : List String)
    (hcovers : ∀ name ∈ TypeTable.names (builtinTypes ++ types), name ∈ order)
    (hacyclic : TypeTable.Acyclic (builtinTypes ++ types)) (kind : FormatKind) (parts : List Part)
    (given : List (String × Bool))
    (h : argumentFault? kind parts ((Catalog.buildAlong order types roots).argumentTypes given) = none) :
    (∀ replaced : List (String × Bool),
      (∀ place ∈ referencedArguments kind parts, ∃ name isArray, replaced[place]? = some (name, isArray) ∧
        ∀ oldName wasArray, given[place]? = some (oldName, wasArray) →
          isArray = wasArray ∧ (Catalog.buildAlong order types roots).isSubtypeOf name oldName = true) →
      argumentFault? kind parts ((Catalog.buildAlong order types roots).argumentTypes replaced) = none) ∧
    ∀ others : List (String × Bool),
      (∀ place ∈ referencedArguments kind parts, ∀ argument, given[place]? = some argument →
        others[place]? = some argument) →
      argumentFault? kind parts ((Catalog.buildAlong order types roots).argumentTypes others) = none := by
  constructor
  · intro replaced hreplaced
    refine argumentFault?_eq_none_of_refines h fun place hplace argument hargument => ?_
    obtain ⟨oldName, wasArray, hold, rfl⟩ := Catalog.getElem?_argumentTypes_eq_some_iff.1 hargument
    obtain ⟨name, isArray, hnew, hsubtype⟩ := hreplaced place hplace
    obtain ⟨rfl, hsub⟩ := hsubtype oldName wasArray hold
    exact ⟨_, Catalog.getElem?_argumentTypes_eq_some_iff.2 ⟨name, isArray, hnew, rfl⟩,
      Catalog.refines_argumentType_of_isSubtypeOf hcovers hacyclic hsub isArray⟩
  · intro others hothers
    refine argumentFault?_eq_none_of_refines h fun place hplace argument hargument => ?_
    obtain ⟨name, isArray, hnamed, hkind⟩ := Catalog.getElem?_argumentTypes_eq_some_iff.1 hargument
    have hother := hothers place hplace _ hnamed
    exact ⟨argument, Catalog.getElem?_argumentTypes_eq_some_iff.2 ⟨name, isArray, hother, hkind⟩, fun _ => id⟩

def codes : List TypeDeclaration :=
  [⟨"a.Code", ["java.math.BigInteger"], []⟩]

/-- The argument in the middle is not referred to, so it may be anything, and there may be more at the end. -/
theorem argumentFault?_eq_none_of_subtypes_codes :
    ∃ parts, parseFormat .printf "%3$d: %1$s" = .ok parts ∧ referencedArguments .printf parts = [0, 2] ∧
      argumentFault? .printf parts ((Catalog.build codes {}).argumentTypes
        [("java.lang.Number", false), ("void", false), ("java.math.BigInteger", false)]) = none ∧
      argumentFault? .printf parts ((Catalog.build codes {}).argumentTypes
        [("a.Code", false), ("a.Code", true), ("a.Code", false), ("java.util.Date", false)]) = none := by
  obtain ⟨parts, hparse, hreferenced, hgiven⟩ : ∃ parts, parseFormat .printf "%3$d: %1$s" = .ok parts ∧
      referencedArguments .printf parts = [0, 2] ∧
      argumentFault? .printf parts ((Catalog.build codes {}).argumentTypes
        [("java.lang.Number", false), ("void", false), ("java.math.BigInteger", false)]) = none := by
    rw [Catalog.build, Catalog.buildAlong_eq_collectWithin]
    decide +kernel
  have hacyclic : TypeTable.Acyclic (builtinTypes ++ codes) :=
    TypeTable.acyclic_of_ranked
      ("java.lang.CharSequence" :: "java.time.temporal.TemporalAccessor" :: TypeTable.names (builtinTypes ++ codes))
      (by decide +kernel) (by decide +kernel)
  have hsubtype : ∀ {sub super : String}, Relation.TransGen (TypeTable.HasSupertype (builtinTypes ++ codes)) sub super →
      (Catalog.build codes {}).isSubtypeOf sub super = true := fun hreach =>
    Catalog.isSubtypeOf_of_reaches (fun _ hname => hname) (hacyclic.cycleFreeAbove _) hreach.to_reflTransGen
  have hinteger : TypeTable.HasSupertype (builtinTypes ++ codes) "a.Code" "java.math.BigInteger" := by decide +kernel
  have hnumber : TypeTable.HasSupertype (builtinTypes ++ codes) "java.math.BigInteger" "java.lang.Number" := by
    decide +kernel
  have hreplaced := (argumentFault?_eq_none_of_subtypes codes {} (TypeTable.names (builtinTypes ++ codes))
    (fun _ hname => hname) hacyclic .printf parts _ hgiven).1
  refine ⟨parts, hparse, hreferenced, hgiven, hreplaced _ ?_⟩
  rw [hreferenced, List.forall_mem_cons, List.forall_mem_singleton]
  refine ⟨⟨"a.Code", false, rfl, ?_⟩, ⟨"a.Code", false, rfl, ?_⟩⟩
  · rintro _ _ ⟨⟩
    exact ⟨rfl, hsubtype (.tail (.single hinteger) hnumber)⟩
  · rintro _ _ ⟨⟩
    exact ⟨rfl, hsubtype (.single hinteger)⟩

end TypedMessages
