import TypedMessages.Check.Pipeline
import TypedMessages.Interface.Basic
import TypedMessages.Proofs.Types.Supertypes

/-!
# The order in which types are visited

The catalog collects the supertypes of one type after the other, and any order will do. If no type is among its own supertypes, all orders lead to one relation of subtypes. A circle can be entered at any of its types, and the walk is cut short in another place each time; then two orders can disagree.

Whatever is built or checked with a catalog asks it for subtypes, for the constructors in its table and for its roots. So two catalogs that agree on these can take each other's place.
-/

namespace TypedMessages

namespace Catalog

open TypeTable

/-- Two catalogs that give the same answers. -/
structure Agrees (catalog other : Catalog) : Prop where
  isSubtypeOf : catalog.isSubtypeOf = other.isSubtypeOf
  table : catalog.table = other.table
  roots : catalog.roots = other.roots

/-- Visited in the one order or in the other, the types have the same supertypes. -/
def OrdersAgree (types : List TypeDeclaration) (order other : List String) : Prop :=
  ∀ sub super,
    (buildAlong order types {}).isSubtypeOf sub super = (buildAlong other types {}).isSubtypeOf sub super

section Orders

variable {types : List TypeDeclaration} {roots : TypeRoots} {order other : List String} {sub : String}

theorem OrdersAgree.agrees (h : OrdersAgree types order other) :
    (buildAlong order types roots).Agrees (buildAlong other types roots) where
  isSubtypeOf := by
    funext sub super
    exact h sub super
  table := rfl
  roots := rfl

theorem OrdersAgree.symm (h : OrdersAgree types order other) : OrdersAgree types other order :=
  fun sub super => (h sub super).symm

/-- Orders can only disagree on types from which a circle can be reached. -/
theorem isSubtypeOf_eq_of_cycleFreeAbove (horder : ∀ name ∈ names (builtinTypes ++ types), name ∈ order)
    (hother : ∀ name ∈ names (builtinTypes ++ types), name ∈ other)
    (hfree : CycleFreeAbove (builtinTypes ++ types) sub) (super : String) :
    (buildAlong order types roots).isSubtypeOf sub super = (buildAlong other types roots).isSubtypeOf sub super := by
  rw [Bool.eq_iff_iff]
  constructor
  · intro hsub
    have hreach := reaches_of_isSubtypeOf hsub
    exact isSubtypeOf_of_reaches hother hfree hreach
  · intro hsub
    have hreach := reaches_of_isSubtypeOf hsub
    exact isSubtypeOf_of_reaches horder hfree hreach

theorem ordersAgree_of_acyclic (hacyclic : Acyclic (builtinTypes ++ types))
    (horder : ∀ name ∈ names (builtinTypes ++ types), name ∈ order)
    (hother : ∀ name ∈ names (builtinTypes ++ types), name ∈ other) : OrdersAgree types order other := by
  intro sub super
  have hfree : CycleFreeAbove (builtinTypes ++ types) sub := hacyclic.cycleFreeAbove sub
  exact isSubtypeOf_eq_of_cycleFreeAbove horder hother hfree super

end Orders

/-! ### What is built and checked with a catalog -/

section Agrees

variable {catalog other : Catalog}

theorem Agrees.throwable (h : catalog.Agrees other) : catalog.throwable = other.throwable := by
  funext name signature
  simp only [Catalog.throwable, constructorsOf, isChecked, isThrowable, isSubtypeOfAny, h.isSubtypeOf, h.table, h.roots]

theorem Agrees.returnType (h : catalog.Agrees other) : catalog.returnType = other.returnType := by
  have hvoid : catalog.isVoid = other.isVoid := by
    funext name
    rw [isVoid, isVoid, h.roots]
  have hstring : catalog.isString = other.isString := by
    funext name
    rw [isString, isString, h.isSubtypeOf, h.roots]
  have hthrowable : catalog.isThrowable = other.isThrowable := by
    funext name
    rw [isThrowable, isThrowable, h.isSubtypeOf, h.roots]
  funext name signature
  simp only [Catalog.returnType, hvoid, hstring, hthrowable, h.throwable]

theorem Agrees.argumentType (h : catalog.Agrees other) : catalog.argumentType = other.argumentType := by
  funext name isArray
  simp only [Catalog.argumentType, categories, isSubtypeOfAny, h.isSubtypeOf, h.roots]

theorem Agrees.parameter (h : catalog.Agrees other) : Parameter.ofDeclaration catalog = Parameter.ofDeclaration other := by
  funext declaration
  simp only [Parameter.ofDeclaration, isPrimitive, h.roots]

theorem Agrees.method (h : catalog.Agrees other) : Method.ofDeclaration catalog = Method.ofDeclaration other := by
  funext declaring declaration
  simp only [Method.ofDeclaration, h.parameter, h.returnType, h.throwable]

end Agrees

end Catalog

theorem Model.assemble_eq_of_agrees {model other : Model} (h : model.catalog.Agrees other.catalog) :
    model.assemble = other.assemble := by
  funext declaration flattened
  simp only [assemble, h.method]

/-- Of all checks, that of message texts alone asks the catalog. -/
theorem Check.run_eq_of_agrees {context other : CheckContext} (hcatalog : context.catalog.Agrees other.catalog)
    (hoptions : context.options = other.options) (check : Check) : check.run context = check.run other := by
  have hargument : FormatArgument.argumentType context.catalog = FormatArgument.argumentType other.catalog := by
    funext argument
    simp only [FormatArgument.argumentType, hcatalog.argumentType]
  have hformats : formats context.catalog = formats other.catalog := by
    funext strict resolved
    simp only [formats, messageFormat, hargument]
  funext interfaces
  cases check with
  | format => rw [run, run, hformats, hoptions]
  | _ => rfl

theorem Check.runAll_eq_of_agrees {context other : CheckContext} (hcatalog : context.catalog.Agrees other.catalog)
    (hoptions : context.options = other.options) (checks : List Check) : runAll context checks = runAll other checks := by
  have hrun : run context = run other := funext (run_eq_of_agrees hcatalog hoptions)
  funext interfaces
  rw [runAll, runAll, hrun]

/-! ### Texts in a circle -/

/-- Two types that each name the other one as a supertype. One of them is a text. -/
def circledTexts : List TypeDeclaration :=
  [⟨"a.Label", ["a.Text", "java.lang.String"], []⟩, ⟨"a.Text", ["a.Label"], []⟩]

/-- The types as they are declared, so that the circle is entered at the label. -/
def labelFirst : List String :=
  TypeTable.names (builtinTypes ++ circledTexts)

/-- The types from the last one to the first one, so that the circle is entered at the text. -/
def textFirst : List String :=
  labelFirst.reverse

namespace Catalog

theorem returnType_labelFirst :
    (buildAlong labelFirst circledTexts {}).returnType "a.Text" none = .other "a.Text" := by
  rw [buildAlong_eq_collectWithin]
  decide +kernel

theorem returnType_textFirst :
    (buildAlong textFirst circledTexts {}).returnType "a.Text" none = .string "a.Text" := by
  rw [buildAlong_eq_collectWithin]
  decide +kernel

end Catalog

end TypedMessages
