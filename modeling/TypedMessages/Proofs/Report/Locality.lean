import TypedMessages.Proofs.Extension.Agreement
import TypedMessages.Proofs.Extension.WellFormed
import TypedMessages.Proofs.Interface.Flattening
import TypedMessages.Proofs.Report.Completion
import TypedMessages.Proofs.Types.VisitingOrder

/-!
# What an interface depends on

An interface is built from its own declaration and those above it, resolved with the distances between them, and checked by itself. So what comes of it does not depend on any other declaration of the batch, nor on the order in which all of them stand.

It does depend on the types, and through them on the order in which they are visited. Two sessions process an interface alike, whatever is declared out of its reach, exactly if their orders agree on the types.
-/

namespace TypedMessages

/-- The second name is the first one or lies above it, logger bases and what they extend included. -/
def Reaches (interfaces : List InterfaceDeclaration) (name above : String) : Prop :=
  Relation.ReflTransGen (fun child parent => IsParent interfaces parent child) name above

/-- The name is declared in the same way on both sides, or on neither. -/
def DeclaredAlike (interfaces others : List InterfaceDeclaration) (name : String) : Prop :=
  ∀ declaration, declaration.name = name → (declaration ∈ interfaces ↔ declaration ∈ others)

theorem findInterface?_eq_of_declaredAlike {interfaces others : List InterfaceDeclaration} {name : String}
    (hdistinct : (interfaces.map (·.name)).Nodup) (hothers : (others.map (·.name)).Nodup)
    (halike : DeclaredAlike interfaces others name) : findInterface? interfaces name = findInterface? others name := by
  ext declaration
  rw [findInterface?_eq_some_iff hdistinct, findInterface?_eq_some_iff hothers]
  exact and_congr_left (halike declaration)

theorem find?_eq_findInterface? {interfaces : List InterfaceDeclaration} (hdistinct : (interfaces.map (·.name)).Nodup)
    (name : String) : interfaces.find? (·.name == name) = findInterface? interfaces name := by
  have hreverse : (interfaces.reverse.map (·.name)).Nodup := by
    rw [List.map_reverse, List.nodup_reverse]
    exact hdistinct
  rw [← findInterface?_eq_of_declaredAlike hreverse hdistinct fun _ _ => List.mem_reverse, findInterface?,
    List.reverse_reverse]

/-! ### Distances between methods -/

namespace Hierarchy

variable {h other : Hierarchy} {interface : MessageInterface}

/-- A hierarchy is only asked for distances between interfaces that declare methods. -/
theorem resolve_eq_of_distances
    (hdistances : ∀ source ∈ interface.methods, ∀ target ∈ interface.methods,
      h.distance? source.declaringInterface target.declaringInterface =
        other.distance? source.declaringInterface target.declaringInterface) :
    h.resolve interface = other.resolve interface := by
  have hids : ∀ method ∈ interface.methods, h.inheritedId? interface method = other.inheritedId? interface method := by
    intro method hmethod
    have hcandidates : h.idCandidates interface method = other.idCandidates interface method := by
      refine List.filterMap_congr fun candidate hcandidate => ?_
      obtain ⟨hmem, _⟩ := List.mem_filter.1 hcandidate
      rw [hdistances method hmethod candidate hmem]
    rw [inheritedId?, inheritedId?, hcandidates]
  have hresolutions : interface.methods.map (h.resolveMethod interface) =
      interface.methods.map (other.resolveMethod interface) := by
    refine List.map_congr_left fun method hmethod => ?_
    rw [resolveMethod, resolveMethod, resolveMessage, resolveMessage, hids method hmethod]
  rw [resolve, resolve, hresolutions]

end Hierarchy

/-! ### The types of a batch -/

section Types

variable {batch other : Batch} {order otherOrder : List String}

theorem Model.catalog_agrees (hoptions : batch.options = other.options) (htypes : batch.types = other.types)
    (horders : Catalog.OrdersAgree batch.types order otherOrder) :
    (Model.ofBatchAlong order batch).catalog.Agrees (Model.ofBatchAlong otherOrder other).catalog := by
  have hroots : batch.options.typeRoots = other.options.typeRoots := congrArg Options.typeRoots hoptions
  simp only [Model.ofBatchAlong, ← htypes, ← hroots]
  exact horders.agrees

/-- All checks find the same in what is resolved. -/
theorem Session.runAll_eq (hoptions : batch.options = other.options) (htypes : batch.types = other.types)
    (horders : Catalog.OrdersAgree batch.types order otherOrder) (checks : List Check) :
    Check.runAll (Session.ofBatchAlong order batch).context checks =
      Check.runAll (Session.ofBatchAlong otherOrder other).context checks :=
  Check.runAll_eq_of_agrees (Model.catalog_agrees hoptions htypes horders) hoptions checks

end Types

/-! ### Batches alike above an interface -/

/-- Two batches that differ in nothing that an interface can reach. -/
structure Batch.SameAbove (batch other : Batch) (name : String) : Prop where
  options : batch.options = other.options
  types : batch.types = other.types
  distinct : batch.interfaceNames.Nodup
  othersDistinct : other.interfaceNames.Nodup
  alike : ∀ above, Reaches batch.interfaces name above → DeclaredAlike batch.interfaces other.interfaces above

namespace Batch.SameAbove

variable {batch other : Batch} {name : String} {order otherOrder : List String}

theorem refl (hdistinct : batch.interfaceNames.Nodup) (name : String) : batch.SameAbove batch name where
  options := rfl
  types := rfl
  distinct := hdistinct
  othersDistinct := hdistinct
  alike _ _ _ _ := Iff.rfl

theorem agreeOn (h : batch.SameAbove other name) :
    (Hierarchy.ofBatch batch).AgreeOn (Hierarchy.ofBatch other) (Reaches batch.interfaces name) where
  loggerBases := congrArg Options.loggerBases h.options
  declaration above habove := findInterface?_eq_of_declaredAlike h.distinct h.othersDistinct (h.alike above habove)
  parents _ habove _ hparent := habove.tail (Hierarchy.isParent_of_mem_parents hparent)

theorem find?_eq (h : batch.SameAbove other name) :
    batch.interfaces.find? (·.name == name) = other.interfaces.find? (·.name == name) := by
  rw [find?_eq_findInterface? h.distinct, find?_eq_findInterface? h.othersDistinct]
  exact h.agreeOn.declaration name .refl

/-- The interface is built in the same way, or fails to be built in the same way. -/
theorem interface_eq (h : batch.SameAbove other name) (horders : Catalog.OrdersAgree batch.types order otherOrder) :
    (Model.ofBatchAlong order batch).interface name = (Model.ofBatchAlong otherOrder other).interface name := by
  have hfind : (Model.ofBatchAlong order batch).batch.interfaces.find? (·.name == name) =
    (Model.ofBatchAlong otherOrder other).batch.interfaces.find? (·.name == name) := h.find?_eq
  have hassemble : (Model.ofBatchAlong order batch).assemble = (Model.ofBatchAlong otherOrder other).assemble :=
    Model.assemble_eq_of_agrees (Model.catalog_agrees h.options h.types horders)
  rw [Model.interface, Model.interface, ← hfind]
  cases hdeclared : (Model.ofBatchAlong order batch).batch.interfaces.find? (·.name == name) with
  | none => rfl
  | some declaration =>
    have hdeclaration : (Hierarchy.ofBatch batch).declaration? name = some declaration :=
      (find?_eq_findInterface? h.distinct name).symm.trans hdeclared
    have hclosure : (Model.ofBatchAlong order batch).hierarchy.closureOf name =
        (Model.ofBatchAlong otherOrder other).hierarchy.closureOf name :=
      h.agreeOn.closureOf_eq .refl hdeclaration
    have hflattened : (Model.ofBatchAlong order batch).hierarchy.flattenedMethods name =
        (Model.ofBatchAlong otherOrder other).hierarchy.flattenedMethods name :=
      h.agreeOn.flattenedMethods_eq .refl hdeclaration
    simp only [hclosure, hflattened, hassemble]

theorem declared_of_mem_methods (h : batch.SameAbove other name) {interface : MessageInterface}
    (hinterface : (Model.ofBatchAlong order batch).interface name = .ok interface) :
    ∀ method ∈ interface.methods, Reaches batch.interfaces name method.declaringInterface ∧
      ∃ declaration, (Hierarchy.ofBatch batch).declaration? method.declaringInterface = some declaration := by
  obtain ⟨_, flattened, _, hflattened, rfl⟩ := Model.interface_eq_ok_iff.1 hinterface
  intro method hmethod
  rw [Model.methods_assemble] at hmethod
  obtain ⟨declared, hmem, rfl⟩ := List.mem_map.1 hmethod
  obtain ⟨member, hmember, hfind, _⟩ := Hierarchy.offersMethod_of_mem hflattened hmem
  have hname : declared.1.name = member := (mem_of_findInterface? hfind).2
  subst hname
  exact ⟨h.agreeOn.mem_of_mem_closure .refl _ hmember, declared.1, hfind⟩

theorem resolve_eq (h : batch.SameAbove other name) (horders : Catalog.OrdersAgree batch.types order otherOrder) :
    (Model.ofBatchAlong order batch).resolve name = (Model.ofBatchAlong otherOrder other).resolve name := by
  rw [Model.resolve, Model.resolve, ← h.interface_eq horders]
  refine map_congr fun interface hinterface => Hierarchy.resolve_eq_of_distances fun source hsource target htarget => ?_
  obtain ⟨hsourceReached, _, hsourceFind⟩ := h.declared_of_mem_methods hinterface source hsource
  obtain ⟨htargetReached, _, htargetFind⟩ := h.declared_of_mem_methods hinterface target htarget
  exact h.agreeOn.distance?_eq hsourceReached htargetReached hsourceFind htargetFind

theorem process_eq (h : batch.SameAbove other name) (horders : Catalog.OrdersAgree batch.types order otherOrder) :
    (Session.ofBatchAlong order batch).process name = (Session.ofBatchAlong otherOrder other).process name := by
  have hresolve : (Session.ofBatchAlong order batch).model.resolve name =
      (Session.ofBatchAlong otherOrder other).model.resolve name := h.resolve_eq horders
  rw [Session.process, Session.process, hresolve]
  refine map_congr fun resolved _ => ?_
  rw [Session.interfaceDiagnostics, Session.interfaceDiagnostics, Session.runAll_eq h.options h.types horders]
  rfl

end Batch.SameAbove

/-! ### A greeting -/

/-- A bundle with one greeting, which is of the given type. -/
def greetingBundle (result : String) : InterfaceDeclaration :=
  { name := "a.Messages", kind := .bundle
    methods :=
      [{ name := "greet", returnType := result, message := some { value := "Hello", format := .noFormat } }] }

/-- The bundle as a batch, with types to understand the result by. -/
def greetingBatch (types : List TypeDeclaration) (roots : TypeRoots) (result : String) : Batch :=
  { options := { typeRoots := roots }, types, interfaces := [greetingBundle result] }

namespace Greeting

variable (order otherOrder : List String) (types : List TypeDeclaration) (roots : TypeRoots) (result : String)

theorem distinct : (greetingBatch types roots result).interfaceNames.Nodup :=
  List.nodup_singleton _

def interface (type : ReturnType) : MessageInterface :=
  { name := "a.Messages", projectCode := "", kind := .bundle, parents := [], delegated := []
    validIdRanges := [], idLength := 0
    methods :=
      [{ declaringInterface := "a.Messages", name := "greet", parameters := [], returnType := type
         thrownTypes := [], message := some { text := "Hello", format := .noFormat, id := .unspecified }
         logLevel := none, translations := [], formatParameterCount := 0 }] }

def resolved : ResolvedInterface :=
  (Hierarchy.ofBatch (greetingBatch types roots result)).resolve
    (interface ((Catalog.buildAlong order types roots).returnType result none))

theorem resolve_messages :
    (Model.ofBatchAlong order (greetingBatch types roots result)).resolve "a.Messages" =
      .ok (resolved order types roots result) := by
  have hflattened : (Hierarchy.ofBatch (greetingBatch types roots result)).flattenedMethods "a.Messages" =
      .ok ⟨firstByKey [] (Hierarchy.methodsOf [greetingBundle result]), []⟩ :=
    Hierarchy.flattenedMethods_of_root rfl rfl rfl rfl
  refine Model.resolve_eq_ok_iff.2 ⟨_, Model.interface_eq_ok_iff.2 ?_, rfl⟩
  exact ⟨greetingBundle result, _, rfl, hflattened, rfl⟩

theorem process_messages :
    (Session.ofBatchAlong order (greetingBatch types roots result)).process "a.Messages" =
      .ok ((Session.ofBatchAlong order (greetingBatch types roots result)).outcomeOf
        (resolved order types roots result)) := by
  have hresolve := resolve_messages order types roots result
  exact map_eq_ok_iff.2 ⟨_, hresolve, rfl⟩

theorem returnTypes_resolved :
    (resolved order types roots result).resolutions.map (·.descriptor.returnType) =
      [(Catalog.buildAlong order types roots).returnType result none] :=
  rfl

theorem returnType_eq_of_process_eq
    (hprocess : (Session.ofBatchAlong order (greetingBatch types roots result)).process "a.Messages" =
      (Session.ofBatchAlong otherOrder (greetingBatch types roots result)).process "a.Messages") :
    (Catalog.buildAlong order types roots).returnType result none =
      (Catalog.buildAlong otherOrder types roots).returnType result none := by
  rw [process_messages, process_messages] at hprocess
  have houtcome := Except.ok.inj hprocess
  have hresolved : resolved order types roots result = resolved otherOrder types roots result :=
    congrArg Outcome.resolved houtcome
  have htypes := returnTypes_resolved order types roots result
  rw [hresolved, returnTypes_resolved] at htypes
  exact (List.singleton_inj.1 htypes).symm

end Greeting

/-! ### Greetings that tell orders apart -/

namespace Catalog

/-- Roots by which a type is a text if it lies below the given one. -/
def textRoots (super : String) : TypeRoots :=
  { voidType := super, stringType := super, throwableType := super }

theorem returnType_textRoots {types : List TypeDeclaration} {order : List String} {sub super : String}
    (hname : sub ≠ super) :
    (buildAlong order types (textRoots super)).returnType sub none =
      if (buildAlong order types {}).isSubtypeOf sub super then .string sub else .other sub := by
  have hvoid : (buildAlong order types (textRoots super)).isVoid sub = false := beq_false_of_ne hname
  have hstring : (buildAlong order types (textRoots super)).isString sub =
      (buildAlong order types {}).isSubtypeOf sub super := rfl
  have hthrowable : (buildAlong order types (textRoots super)).isThrowable sub =
      (buildAlong order types {}).isSubtypeOf sub super := rfl
  rw [returnType, hvoid, hstring, hthrowable, if_neg Bool.false_ne_true]
  split
  · rfl
  · rfl

/-- Orders that process every greeting alike agree on the types. -/
theorem ordersAgree_of_greetings {types : List TypeDeclaration} {order otherOrder : List String}
    (hgreetings : ∀ roots result,
      (Session.ofBatchAlong order (greetingBatch types roots result)).process "a.Messages" =
        (Session.ofBatchAlong otherOrder (greetingBatch types roots result)).process "a.Messages") :
    OrdersAgree types order otherOrder := by
  intro sub super
  by_cases hname : sub = super
  · rw [isSubtypeOf_iff.2 (.inl hname), isSubtypeOf_iff.2 (.inl hname)]
  have hsame := Greeting.returnType_eq_of_process_eq order otherOrder types (textRoots super) sub (hgreetings _ sub)
  rw [returnType_textRoots hname, returnType_textRoots hname] at hsame
  cases hone : (buildAlong order types {}).isSubtypeOf sub super with
  | true =>
    cases hother : (buildAlong otherOrder types {}).isSubtypeOf sub super with
    | true => rfl
    | false => simp [hone, hother] at hsame
  | false =>
    cases hother : (buildAlong otherOrder types {}).isSubtypeOf sub super with
    | true => simp [hone, hother] at hsame
    | false => rfl

end Catalog

/-- **What lies out of reach makes no difference, unless the types are visited differently.** Take any two batches with the same options and the given types that name no interface twice and declare everything alike that an interface reaches through extensions. Processing this interface always gives the same in both, the same methods, resolutions and diagnostics or the same error, exactly if the orders in which the two sessions visit the types agree. Two orders that leave out no type agree if no type is among its own supertypes. -/
theorem process_local_iff_ordersAgree (types : List TypeDeclaration) (order otherOrder : List String) :
    ((∀ batch other name, batch.types = types → batch.SameAbove other name →
        (Session.ofBatchAlong order batch).process name = (Session.ofBatchAlong otherOrder other).process name) ↔
      Catalog.OrdersAgree types order otherOrder) ∧
    (TypeTable.Acyclic (builtinTypes ++ types) → (∀ name ∈ TypeTable.names (builtinTypes ++ types), name ∈ order) →
      (∀ name ∈ TypeTable.names (builtinTypes ++ types), name ∈ otherOrder) →
        Catalog.OrdersAgree types order otherOrder) := by
  refine ⟨⟨fun hlocal => ?_, fun horders batch other name htypes hsame => ?_⟩, Catalog.ordersAgree_of_acyclic⟩
  · apply Catalog.ordersAgree_of_greetings
    intro roots result
    exact hlocal _ _ "a.Messages" rfl (.refl (Greeting.distinct types roots result) _)
  · subst htypes
    exact hsame.process_eq horders

/-! ### A stranger -/

def strangerInterface (methods : List MethodDeclaration) : InterfaceDeclaration :=
  { name := "a.Stranger", kind := .bundle, parents := ["a.Lower"], methods }

/-- The two interfaces with a stranger, in another order. -/
def withStranger (upper lower stranger : List MethodDeclaration) : Batch :=
  { interfaces := [strangerInterface stranger, lowerInterface lower, upperInterface upper] }

theorem reached_from_lower {upper lower stranger : List MethodDeclaration} {above : String}
    (habove : Reaches (withStranger upper lower stranger).interfaces "a.Lower" above) :
    above = "a.Lower" ∨ above = "a.Upper" := by
  induction habove with
  | refl => exact Or.inl rfl
  | tail _ hstep ih =>
    obtain ⟨interface, hmem, rfl, hparent⟩ := hstep
    simp only [withStranger, List.mem_cons, List.not_mem_nil, or_false] at hmem
    rcases hmem with rfl | rfl | rfl
    · exact absurd ih (by simp [strangerInterface])
    · exact Or.inr (List.mem_singleton.1 hparent)
    · cases hparent

theorem sameAbove_withStranger (upper lower stranger : List MethodDeclaration) :
    (withStranger upper lower stranger).SameAbove (stacked upper lower) "a.Lower" where
  options := rfl
  types := rfl
  distinct := (by decide : ["a.Stranger", "a.Lower", "a.Upper"].Nodup)
  othersDistinct := (by decide : ["a.Upper", "a.Lower"].Nodup)
  alike := by
    intro above habove declaration hname
    have hne : declaration ≠ strangerInterface stranger := by
      rintro rfl
      subst hname
      exact absurd (reached_from_lower habove) (by simp [strangerInterface])
    simp only [withStranger, stacked, List.mem_cons, List.not_mem_nil, or_false]
    exact (or_iff_right hne).trans or_comm

theorem acyclic_builtinTypes : TypeTable.Acyclic (builtinTypes ++ []) :=
  TypeTable.acyclic_of_ranked
    (["java.lang.CharSequence", "java.time.temporal.TemporalAccessor"] ++ TypeTable.names builtinTypes)
    (by decide +kernel) (by decide +kernel)

theorem process_local_iff_ordersAgree_stranger :
    (withStranger [{ name := "lost" }] [] [{ name := "found" }]).SameAbove (stacked [{ name := "lost" }] []) "a.Lower" ∧
      (Session.ofBatchAlong (TypeTable.names builtinTypes)
          (withStranger [{ name := "lost" }] [] [{ name := "found" }])).process "a.Lower" =
        (Session.ofBatchAlong (TypeTable.names builtinTypes).reverse (stacked [{ name := "lost" }] [])).process
          "a.Lower" := by
  have hsame := sameAbove_withStranger [{ name := "lost" }] [] [{ name := "found" }]
  obtain ⟨hlocal, horders⟩ :=
    process_local_iff_ordersAgree [] (TypeTable.names builtinTypes) (TypeTable.names builtinTypes).reverse
  have hagree := horders acyclic_builtinTypes (fun _ hname => hname) fun _ hname => List.mem_reverse.2 hname
  exact ⟨hsame, hlocal.2 hagree _ _ "a.Lower" rfl hsame⟩

/-- A text in a circle of types is none if the circle is entered at the other type. -/
theorem process_differs_circledTexts :
    textFirst.Perm labelFirst ∧ (∀ name ∈ TypeTable.names (builtinTypes ++ circledTexts), name ∈ labelFirst) ∧
      (greetingBatch circledTexts {} "a.Text").SameAbove (greetingBatch circledTexts {} "a.Text") "a.Messages" ∧
      ∃ outcome otherOutcome,
        (Session.ofBatchAlong labelFirst (greetingBatch circledTexts {} "a.Text")).process "a.Messages" = .ok outcome ∧
        (Session.ofBatchAlong textFirst (greetingBatch circledTexts {} "a.Text")).process "a.Messages" =
          .ok otherOutcome ∧
        outcome.resolved.resolutions.map (·.descriptor.returnType) = [.other "a.Text"] ∧
        otherOutcome.resolved.resolutions.map (·.descriptor.returnType) = [.string "a.Text"] := by
  have hlabel := Greeting.returnTypes_resolved labelFirst circledTexts {} "a.Text"
  have htext := Greeting.returnTypes_resolved textFirst circledTexts {} "a.Text"
  rw [Catalog.returnType_labelFirst] at hlabel
  rw [Catalog.returnType_textFirst] at htext
  exact ⟨List.reverse_perm _, fun _ hname => hname, .refl (Greeting.distinct ..) _, _, _, Greeting.process_messages ..,
    Greeting.process_messages .., hlabel, htext⟩

end TypedMessages
