import TypedMessages.Proofs.Extension.Reach
import TypedMessages.Proofs.Names.Extremes
import TypedMessages.Proofs.Resolution.View

/-!
# Inherited ids

An id is inherited from the nearest method of the same name that declares one. It is searched among the methods of the interface that is resolved, not among those of the interface that declares the method. So a method can get different ids in two interfaces that keep it: if one of them keeps another method in place of the one that the id is from, if it reaches more interfaces, or if it meets equally near methods in another order. Where none of this happens the id is the same.
-/

namespace TypedMessages

/-! ### Offered ids -/

namespace Hierarchy

/-- The id that a declared method offers to those of some name that inherit theirs in an interface, with the distance from that interface. -/
def idOffer? (h : Hierarchy) (inheriting name : String) (declared : InterfaceDeclaration × MethodDeclaration) :
    Option (Nat × MessageId) :=
  if declared.2.name = name then do
    let message ← declared.2.message
    let id ← message.id.declared?
    let distance ← h.distance? inheriting declared.1.name
    return (distance, id)
  else none

def idFound? (h : Hierarchy) (inheriting name : String) (flattened : FlattenedMethods) : Option MessageId :=
  (firstMinBy (·.1) (flattened.methods.filterMap (h.idOffer? inheriting name))).map (·.2)

variable {h : Hierarchy} {inheriting name : String} {declared : InterfaceDeclaration × MethodDeclaration}

theorem distance?_self (hname : h.contains name = true) : h.distance? name name = some 0 := by
  rw [distance?, hname, Bool.and_self, if_pos rfl, distanceFrom, if_pos (List.mem_singleton_self _)]

theorem idOffer?_eq_some_iff {offer : Nat × MessageId} :
    h.idOffer? inheriting name declared = some offer ↔
      declared.2.name = name ∧ h.distance? inheriting declared.1.name = some offer.1 ∧
        ∃ message, declared.2.message = some message ∧ message.id.declared? = some offer.2 := by
  obtain ⟨distance, id⟩ := offer
  unfold idOffer?
  split
  · next hname =>
    simp only [Option.bind_eq_bind, Option.bind_eq_some_iff, Option.pure_def, Option.some.injEq, Prod.mk.injEq, hname,
      true_and]
    constructor
    · rintro ⟨message, hmessage, _, hid, _, hdistance, rfl, rfl⟩
      exact ⟨hdistance, message, hmessage, hid⟩
    · rintro ⟨hdistance, message, hmessage, hid⟩
      exact ⟨message, hmessage, id, hid, distance, hdistance, rfl, rfl⟩
  · next hname => simp [hname]

theorem idOffer?_eq_none (hundeclared : ∀ message, declared.2.message = some message → message.id.declared? = none) :
    h.idOffer? inheriting name declared = none := by
  refine Option.eq_none_iff_forall_ne_some.2 fun offer hoffer => ?_
  obtain ⟨_, _, message, hmessage, hdeclared⟩ := idOffer?_eq_some_iff.1 hoffer
  cases (hundeclared message hmessage).symm.trans hdeclared

theorem idFound?_eq_none_iff {flattened : FlattenedMethods} :
    h.idFound? inheriting name flattened = none ↔
      ∀ method ∈ flattened.methods, h.idOffer? inheriting name method = none := by
  rw [idFound?, Option.map_eq_none_iff, firstMinBy_eq_none_iff, List.filterMap_eq_nil_iff]

end Hierarchy

theorem Model.inheritedId?_assemble (model : Model) (declaration : InterfaceDeclaration) (flattened : FlattenedMethods)
    (declared : InterfaceDeclaration × MethodDeclaration) :
    model.hierarchy.inheritedId? (model.assemble declaration flattened) (model.methodOf flattened declared) =
      model.hierarchy.idFound? declared.1.name declared.2.name flattened := by
  have hcandidates : model.hierarchy.idCandidates (model.assemble declaration flattened)
      (model.methodOf flattened declared) =
        flattened.methods.filterMap (model.hierarchy.idOffer? declared.1.name declared.2.name) := by
    rw [Hierarchy.idCandidates, MessageInterface.methodsNamed, methods_assemble, List.filterMap_filter,
      List.filterMap_map]
    refine List.filterMap_congr fun other _ => ?_
    simp only [Hierarchy.idOffer?, methodOf, Method.amongSiblings, Method.ofDeclaration,
      beq_iff_eq, Option.bind_eq_bind, Option.bind_map, Function.comp_def]
  rw [Hierarchy.inheritedId?, hcandidates]
  rfl

theorem Hierarchy.resolveMessage_of_inherited {h : Hierarchy} {interface : MessageInterface} {method : Method}
    {message : Message} (hmessage : method.message = some message) (hid : message.id = .inherited) :
    h.resolveMessage interface method =
      (some { message with id := (h.inheritedId? interface method).getD .inherited },
        if h.inheritedId? interface method = none then [.missingInheritableId method.name] else []) := by
  rw [resolveMessage, MessageInterface.effectiveMessage?, hmessage]
  simp only [if_pos hid]
  cases h.inheritedId? interface method with
  | none => rw [Option.getD_none, ← hid, if_pos rfl]
  | some id => rw [Option.getD_some, if_neg (by simp)]

theorem Model.resolveMessage_of_inherited (model : Model) (declaration : InterfaceDeclaration)
    (flattened : FlattenedMethods) {declared : InterfaceDeclaration × MethodDeclaration} {message : MessageDeclaration}
    (hmessage : declared.2.message = some message) (hid : message.id = .inherited) :
    model.hierarchy.resolveMessage (model.assemble declaration flattened) (model.methodOf flattened declared) =
      (some { text := message.value, format := message.format,
              id := (model.hierarchy.idFound? declared.1.name declared.2.name flattened).getD .inherited },
        if model.hierarchy.idFound? declared.1.name declared.2.name flattened = none then
          [.missingInheritableId declared.2.name] else []) := by
  have hown : (model.methodOf flattened declared).message =
      some { text := message.value, format := message.format, id := message.id } := by
    simp [methodOf, Method.amongSiblings, Method.ofDeclaration, hmessage]
  rw [Hierarchy.resolveMessage_of_inherited hown hid, inheritedId?_assemble]
  rfl

namespace Model.View

variable {model : Model} {name : String} {view : model.View name} {message : MessageDeclaration}
  {declared : InterfaceDeclaration × MethodDeclaration} {resolution : Resolution}

theorem message_of_inherited (hmem : (declared, resolution) ∈ view.resolutions)
    (hmessage : declared.2.message = some message) (hid : message.id = .inherited) :
    resolution.descriptor.message =
      some { text := message.value, format := message.format,
             id := (model.hierarchy.idFound? declared.1.name declared.2.name view.flattened).getD .inherited } := by
  obtain ⟨_, declaration, rfl⟩ := mem_resolutions hmem
  exact congrArg Prod.fst (resolveMessage_of_inherited model declaration view.flattened hmessage hid)

theorem failures_of_inherited (hmem : (declared, resolution) ∈ view.resolutions)
    (hmessage : declared.2.message = some message) (hid : message.id = .inherited) :
    resolution.failures =
      (if model.hierarchy.idFound? declared.1.name declared.2.name view.flattened = none then
        [.missingInheritableId declared.2.name] else []) ++
      (resolveConstruction (Method.ofDeclaration model.catalog declared.1.name declared.2)).2 := by
  obtain ⟨_, declaration, rfl⟩ := mem_resolutions hmem
  have hmessages := congrArg Prod.snd (resolveMessage_of_inherited model declaration view.flattened hmessage hid)
  exact congrArg₂ (· ++ ·) hmessages rfl

end Model.View

/-! ### Two views -/

namespace Hierarchy

/-- What an interface has to leave alone, of the methods that an interface above it is flattened to, so that it finds for those of some name the same ids: of several methods with one key it keeps the same, it finds no ids beyond the closure of the interface above, and it meets different ids from equally far away in the same order. -/
structure LeavesAlone (h : Hierarchy) (above name : String) (kept own : FlattenedMethods) : Prop where
  unreplaced : ∀ method ∈ own.methods, ∀ other ∈ kept.methods, method.2.signatureKey = other.2.signatureKey →
    (h.idOffer? above name method).isSome = true ∨ (h.idOffer? above name other).isSome = true → method = other
  bounded : ∀ method ∈ kept.methods, (h.idOffer? above name method).isSome = true → method.1.name ∈ h.closure above
  ordered : ∀ first ∈ own.methods, ∀ second ∈ own.methods, ∀ offer rival,
    h.idOffer? above name first = some offer → h.idOffer? above name second = some rival →
      offer.1 = rival.1 → offer.2 ≠ rival.2 → own.methods.idxOf first < own.methods.idxOf second →
        kept.methods.idxOf first < kept.methods.idxOf second

variable {h : Hierarchy} {below above name : String} {kept own : FlattenedMethods}
  {method : InterfaceDeclaration × MethodDeclaration}

theorem offersMethod_of_above (habove : above ∈ h.closure below) (hmethod : h.OffersMethod above method) :
    h.OffersMethod below method := by
  obtain ⟨member, hmember, hdeclared⟩ := hmethod
  exact ⟨member, closure_subset habove hmember, hdeclared⟩

/-- Nothing is disturbed where every key is declared once, logger bases extend nothing, and ids that are equally far away are the same. -/
theorem LeavesAlone.of_declaredOnce (habove : above ∈ h.closure below) (hown : h.flattenedMethods above = .ok own)
    (hkept : h.flattenedMethods below = .ok kept) (hbases : ∀ base ∈ h.loggerBases, h.parents base = [])
    (honce : ∀ method other, h.OffersMethod below method → h.OffersMethod below other →
      method.2.signatureKey = other.2.signatureKey → method = other)
    (htied : ∀ first ∈ own.methods, ∀ second ∈ own.methods, ∀ offer rival, h.idOffer? above name first = some offer →
      h.idOffer? above name second = some rival → offer.1 = rival.1 → offer.2 = rival.2) :
    h.LeavesAlone above name kept own where
  unreplaced method hmethod other hother hkey _ :=
    honce method other (offersMethod_of_above habove (offersMethod_of_mem hown hmethod))
      (offersMethod_of_mem hkept hother) hkey
  bounded method hmethod hoffer :=
    mem_closure_of_distance? hbases (not_base_of_mem_closure habove)
      (not_base_of_mem_closure (flattenedMethods_declaring_mem hkept method hmethod))
      (Option.isSome_iff_exists.2 ⟨_, (idOffer?_eq_some_iff.1 (Option.eq_some_of_isSome hoffer)).2.1⟩)
  ordered first hfirst second hsecond offer rival hoffer hrival heq hne _ :=
    absurd (htied first hfirst second hsecond offer rival hoffer hrival heq) hne

theorem LeavesAlone.mem_iff (halone : h.LeavesAlone above name kept own) (habove : above ∈ h.closure below)
    (hown : h.flattenedMethods above = .ok own) (hkept : h.flattenedMethods below = .ok kept)
    (hoffer : (h.idOffer? above name method).isSome = true) : method ∈ own.methods ↔ method ∈ kept.methods := by
  constructor
  · -- The closure below holds the one above, so it keeps a method with this key, and that is this one.
    intro hmethod
    have hoffers := offersMethod_of_above habove (offersMethod_of_mem hown hmethod)
    obtain ⟨other, hother, hkey⟩ := exists_kept_of_offersMethod hkept hoffers
    rw [halone.unreplaced method hmethod other hother hkey.symm (Or.inl hoffer)]
    exact hother
  · -- A method that offers an id from within the closure above has a key that is kept there as well.
    intro hmethod
    obtain ⟨member, _, hfind, hdeclares⟩ := offersMethod_of_mem hkept hmethod
    have hname : method.1.name = member := (mem_of_findInterface? hfind).2
    have hmember := halone.bounded method hmethod hoffer
    rw [hname] at hmember
    obtain ⟨other, hother, hkey⟩ := exists_kept_of_offersMethod hown ⟨member, hmember, hfind, hdeclares⟩
    rw [← halone.unreplaced other hother method hmethod hkey (Or.inr hoffer)]
    exact hother

/-- Whoever leaves alone what is above finds the same ids there. -/
theorem LeavesAlone.idFound?_eq (halone : h.LeavesAlone above name kept own) (habove : above ∈ h.closure below)
    (hown : h.flattenedMethods above = .ok own) (hkept : h.flattenedMethods below = .ok kept) :
    h.idFound? above name own = h.idFound? above name kept := by
  refine firstMinBy_filterMap_congr (fun method offer hoffer => ?_) halone.ordered
  exact halone.mem_iff habove hown hkept (Option.isSome_iff_exists.2 ⟨offer, hoffer⟩)

end Hierarchy

/-- **An inherited id does not depend on the view, where what is above is left alone.** In a batch without faults, a method whose own message inherits its id has the same message, with the same id, in the interface that declares it and in every interface below that keeps it: the id that is found among the methods of the interface that declares it. It has the same failures in both, so it lacks an id in one exactly if it lacks one in the other. This holds for every interface below that leaves alone the ids declared above. -/
theorem inheritedId_eq_of_leavesAlone (batch : Batch) (hfaults : batch.faults = []) {below above : String}
    (hbelow : below ∈ (Session.ofBatch batch).interfaceNames) (habove : above ∈ (Session.ofBatch batch).interfaceNames) :
    ∃ (kept : (Model.ofBatch batch).View below) (own : (Model.ofBatch batch).View above),
      ∀ (declared : InterfaceDeclaration × MethodDeclaration) (seen original : Resolution) (message : MessageDeclaration),
        (declared, seen) ∈ kept.resolutions → (declared, original) ∈ own.resolutions → declared.1.name = above →
        declared.2.message = some message → message.id = .inherited →
        (Hierarchy.ofBatch batch).LeavesAlone above declared.2.name kept.flattened own.flattened →
          seen.descriptor.message = original.descriptor.message ∧ seen.failures = original.failures ∧
          seen.descriptor.message.map (·.id) = some (((Hierarchy.ofBatch batch).idFound? above declared.2.name
            own.flattened).getD .inherited) := by
  have hnames := Batch.namesResolved_of_faults hfaults
  obtain ⟨kept⟩ := Model.View.nonempty hnames (List.mem_filter.1 hbelow).1
  obtain ⟨own⟩ := Model.View.nonempty hnames (List.mem_filter.1 habove).1
  refine ⟨kept, own, ?_⟩
  rintro declared seen original message hseen horiginal rfl hmessage hid halone
  have hmember := Hierarchy.flattenedMethods_declaring_mem kept.flattens declared (Model.View.mem_resolutions hseen).1
  have hids : (Model.ofBatch batch).hierarchy.idFound? declared.1.name declared.2.name kept.flattened =
      (Model.ofBatch batch).hierarchy.idFound? declared.1.name declared.2.name own.flattened :=
    (halone.idFound?_eq hmember own.flattens kept.flattens).symm
  rw [Model.View.message_of_inherited hseen hmessage hid, Model.View.message_of_inherited horiginal hmessage hid,
    Model.View.failures_of_inherited hseen hmessage hid, Model.View.failures_of_inherited horiginal hmessage hid, hids]
  exact ⟨rfl, rfl, rfl⟩

/-! ### A loss and one below it -/

/-- A loss with an id, and one that inherits its id. -/
def losses : List MethodDeclaration :=
  [{ name := "lost", returnType := "java.lang.String", message := some { value := "Lost", id := .explicit 5 } },
   { name := "lost", returnType := "java.lang.String", message := some { value := "Lost %s", id := .inherited },
     parameters := [{ name := "place", typeName := "java.lang.String" }] }]

abbrev lossBatch (parameters : List ParameterDeclaration) : Batch :=
  stacked losses
    [{ name := "lost", returnType := "java.lang.String", message := some { value := "Gone" }, parameters }]

def inheritingLoss : InterfaceDeclaration × MethodDeclaration :=
  (upperInterface losses, losses[1])

section Losses

variable {parameters : List ParameterDeclaration}

theorem flattened_upper (view : (Model.ofBatch (lossBatch parameters)).View "a.Upper") :
    view.flattened = ⟨losses.map (upperInterface losses, ·), []⟩ := by
  have hmethods : firstByKey [] (Hierarchy.methodsOf [upperInterface losses]) =
      losses.map (upperInterface losses, ·) := by decide +kernel
  rw [Except.ok.inj (view.flattens.symm.trans Stacked.flattenedMethods_upper), hmethods]

theorem idFound?_upper (view : (Model.ofBatch (lossBatch parameters)).View "a.Upper") :
    (Hierarchy.ofBatch (lossBatch parameters)).idFound? "a.Upper" "lost" view.flattened =
      some (.explicit 5) := by
  have hself : (Hierarchy.ofBatch (lossBatch parameters)).distance? "a.Upper" "a.Upper" = some 0 :=
    Hierarchy.distance?_self rfl
  have hname : (upperInterface losses).name = "a.Upper" := rfl
  rw [Hierarchy.idFound?, flattened_upper]
  generalize upperInterface losses = upper, Hierarchy.ofBatch (lossBatch parameters) = h at *
  simp [losses, Hierarchy.idOffer?, MessageId.declared?, hname, hself, firstMinBy]

theorem eq_of_idOffer?_upper {view : (Model.ofBatch (lossBatch parameters)).View "a.Upper"}
    {method : InterfaceDeclaration × MethodDeclaration} (hmethod : method ∈ view.flattened.methods)
    {offer : Nat × MessageId}
    (hoffer : (Hierarchy.ofBatch (lossBatch parameters)).idOffer? "a.Upper" "lost" method = some offer) :
    offer.2 = .explicit 5 := by
  have hid : ∀ method ∈ losses, ∀ message, method.message = some message →
      message.id.declared? = none ∨ message.id.declared? = some (.explicit 5) := by decide
  rw [flattened_upper] at hmethod
  obtain ⟨loss, hloss, rfl⟩ := List.mem_map.1 hmethod
  obtain ⟨_, _, message, hmessage, hdeclared⟩ := Hierarchy.idOffer?_eq_some_iff.1 hoffer
  rcases hid loss hloss message hmessage with hnone | hsome
  · cases hdeclared.symm.trans hnone
  · exact Option.some.inj (hdeclared.symm.trans hsome)

theorem message_upper {view : (Model.ofBatch (lossBatch parameters)).View "a.Upper"} {resolution : Resolution}
    (hmem : (inheritingLoss, resolution) ∈ view.resolutions) :
    resolution.descriptor.message = some { text := "Lost %s", format := .printf, id := .explicit 5 } := by
  have hfound : (Model.ofBatch (lossBatch parameters)).hierarchy.idFound? inheritingLoss.1.name inheritingLoss.2.name
      view.flattened = some (.explicit 5) := idFound?_upper view
  rw [Model.View.message_of_inherited hmem rfl rfl, hfound]
  rfl

theorem inheritingLoss_mem_upper (view : (Model.ofBatch (lossBatch parameters)).View "a.Upper") :
    inheritingLoss ∈ view.flattened.methods := by
  rw [flattened_upper]
  decide

end Losses

def lossCount : ParameterDeclaration :=
  { name := "count", typeName := "int" }

theorem leavesAlone_lossBatch (kept : (Model.ofBatch (lossBatch [lossCount])).View "a.Lower")
    (own : (Model.ofBatch (lossBatch [lossCount])).View "a.Upper") :
    (Hierarchy.ofBatch (lossBatch [lossCount])).LeavesAlone "a.Upper" "lost" kept.flattened own.flattened := by
  refine .of_declaredOnce Stacked.upper_mem_closure own.flattens kept.flattens (by decide) ?_ ?_
  · intro method other hmethod hother hkey
    have hkeys : ((Hierarchy.methodsOf (lossBatch [lossCount]).interfaces.reverse).map (·.2.signatureKey)).Nodup := by
      decide +kernel
    have hmem := (Hierarchy.offersMethod_iff Stacked.closure_lower).1 hmethod
    have hotherMem := (Hierarchy.offersMethod_iff Stacked.closure_lower).1 hother
    exact List.inj_on_of_nodup_map hkeys hmem hotherMem hkey
  · intro first hfirst second hsecond offer rival hoffer hrival _
    rw [eq_of_idOffer?_upper hfirst hoffer, eq_of_idOffer?_upper hsecond hrival]

theorem inheritedId_eq_of_leavesAlone_loss :
    (lossBatch [lossCount]).faults = [] ∧
      ∃ (kept : (Model.ofBatch (lossBatch [lossCount])).View "a.Lower")
        (own : (Model.ofBatch (lossBatch [lossCount])).View "a.Upper") (seen original : Resolution),
        (inheritingLoss, seen) ∈ kept.resolutions ∧ (inheritingLoss, original) ∈ own.resolutions ∧
        (Hierarchy.ofBatch (lossBatch [lossCount])).LeavesAlone "a.Upper" "lost" kept.flattened own.flattened ∧
        seen.descriptor.message = some { text := "Lost %s", format := .printf, id := .explicit 5 } ∧
        seen.failures = original.failures := by
  have hbelow : "a.Lower" ∈ (Session.ofBatch (lossBatch [lossCount])).interfaceNames := by decide
  have habove : "a.Upper" ∈ (Session.ofBatch (lossBatch [lossCount])).interfaceNames := by decide
  obtain ⟨kept, own, hall⟩ := inheritedId_eq_of_leavesAlone _ Stacked.faults_eq_nil hbelow habove
  have hkept : inheritingLoss ∈ kept.flattened.methods := by
    have hflattened := Except.ok.inj (kept.flattens.symm.trans Stacked.flattenedMethods_lower)
    rw [hflattened]
    decide +kernel
  obtain ⟨seen, hseen⟩ := kept.exists_mem_resolutions hkept
  obtain ⟨original, horiginal⟩ := own.exists_mem_resolutions (inheritingLoss_mem_upper own)
  have halone := leavesAlone_lossBatch kept own
  obtain ⟨hmessage, hfailures, _⟩ := hall inheritingLoss seen original _ hseen horiginal rfl rfl rfl halone
  have hid := hmessage.trans (message_upper horiginal)
  exact ⟨Stacked.faults_eq_nil, kept, own, seen, original, hseen, horiginal, halone, hid, hfailures⟩

/-- A loss with the same key replaces the one that has the id, and below it no id is found. -/
theorem inheritedId_ne_loss :
    (lossBatch []).faults = [] ∧ "a.Lower" ∈ (Session.ofBatch (lossBatch [])).interfaceNames ∧
      "a.Upper" ∈ (Session.ofBatch (lossBatch [])).interfaceNames ∧
      "a.Upper" ∈ (Hierarchy.ofBatch (lossBatch [])).closure "a.Lower" ∧
      ∃ (kept : (Model.ofBatch (lossBatch [])).View "a.Lower") (own : (Model.ofBatch (lossBatch [])).View "a.Upper")
        (seen original : Resolution),
        (inheritingLoss, seen) ∈ kept.resolutions ∧ (inheritingLoss, original) ∈ own.resolutions ∧
        original.descriptor.message = some { text := "Lost %s", format := .printf, id := .explicit 5 } ∧
        seen.descriptor.message = some { text := "Lost %s", format := .printf, id := .inherited } ∧
        original.failures = [] ∧ seen.failures = [.missingInheritableId "lost"] := by
  have hbelow : "a.Lower" ∈ (Session.ofBatch (lossBatch [])).interfaceNames := by decide
  have habove : "a.Upper" ∈ (Session.ofBatch (lossBatch [])).interfaceNames := by decide
  have hnames := Batch.namesResolved_of_faults (Stacked.faults_eq_nil : (lossBatch []).faults = [])
  obtain ⟨kept⟩ := Model.View.nonempty hnames (List.mem_filter.1 hbelow).1
  obtain ⟨own⟩ := Model.View.nonempty hnames (List.mem_filter.1 habove).1
  have hflattened : kept.flattened = _ := Except.ok.inj (kept.flattens.symm.trans Stacked.flattenedMethods_lower)
  have hkept : inheritingLoss ∈ kept.flattened.methods := by
    rw [hflattened]
    decide +kernel
  obtain ⟨seen, hseen⟩ := kept.exists_mem_resolutions hkept
  obtain ⟨original, horiginal⟩ := own.exists_mem_resolutions (inheritingLoss_mem_upper own)
  have hundeclared : ∀ method ∈ kept.flattened.methods, ∀ message, method.2.message = some message →
      message.id.declared? = none := by
    rw [hflattened]
    decide +kernel
  have hnone : (Model.ofBatch (lossBatch [])).hierarchy.idFound? inheritingLoss.1.name inheritingLoss.2.name
      kept.flattened = none :=
    Hierarchy.idFound?_eq_none_iff.2 fun method hmethod => Hierarchy.idOffer?_eq_none (hundeclared method hmethod)
  have hsome : (Model.ofBatch (lossBatch [])).hierarchy.idFound? inheritingLoss.1.name inheritingLoss.2.name
      own.flattened = some (.explicit 5) := idFound?_upper own
  have hmessage : inheritingLoss.2.message = some { value := "Lost %s", id := .inherited } := rfl
  refine ⟨Stacked.faults_eq_nil, hbelow, habove, Stacked.upper_mem_closure, kept, own, seen, original, hseen, horiginal,
    message_upper horiginal, ?_, ?_, ?_⟩
  · rw [Model.View.message_of_inherited hseen hmessage rfl, hnone]
    rfl
  · rw [Model.View.failures_of_inherited horiginal hmessage rfl, hsome]
    rfl
  · rw [Model.View.failures_of_inherited hseen hmessage rfl, hnone]
    rfl

end TypedMessages
