import TypedMessages.Format.Translation
import TypedMessages.Proofs.Errors

/-!
# Numbers in place of indices

Which argument a conversion shows depends on the conversions before it: one that takes the next argument counts those that did so before, one that takes the previous argument looks back to its neighbour. Line separators show nothing and are passed over. This fails only where nothing precedes the first look back.

Once the numbers are found they can stand in the text themselves, in place of the indices. Such a text says the same in every respect that is ever looked at, though nothing in it depends on what comes before.
-/

namespace TypedMessages

/-! ### The numbers that indices denote -/

def takenInTurn (uses : List ArgumentUse) : Nat :=
  uses.countP fun use => use.2.content.index == .implicit

/-- The number that an index denotes behind conversions that have theirs. -/
inductive Denotes (earlier : List ArgumentUse) : ArgumentIndex → Nat → Prop
  | explicit (number : Nat) : Denotes earlier (.explicit number) number
  | implicit : Denotes earlier .implicit (1 + takenInTurn earlier)
  | previous {before : List ArgumentUse} {nearest : ArgumentUse} :
      earlier = before ++ [nearest] → Denotes earlier .previous nearest.1

/-- Behind the earlier conversions each of the others has the number that its index denotes. -/
def Numbered (earlier uses : List ArgumentUse) : Prop :=
  ∀ before use after, uses = before ++ use :: after → Denotes (earlier ++ before) use.2.content.index use.1

theorem numbered_nil (earlier : List ArgumentUse) : Numbered earlier [] := by
  intro before use after hsplit
  simp at hsplit

theorem numbered_cons {earlier uses : List ArgumentUse} {use : ArgumentUse} :
    Numbered earlier (use :: uses) ↔ Denotes earlier use.2.content.index use.1 ∧ Numbered (earlier ++ [use]) uses := by
  constructor
  · intro h
    refine ⟨?_, fun before other after hsplit => ?_⟩
    · simpa using h [] use uses rfl
    · have hbehind := h (use :: before) other after (by rw [hsplit]; rfl)
      rwa [List.append_cons] at hbehind
  · rintro ⟨hfirst, hrest⟩ before other after hsplit
    rcases List.cons_eq_append_iff.1 hsplit with ⟨rfl, hother⟩ | ⟨between, rfl, hafter⟩
    · cases hother
      simpa using hfirst
    · rw [List.append_cons]
      exact hrest between other after hafter

theorem takenInTurn_concat (earlier : List ArgumentUse) (use : ArgumentUse) :
    takenInTurn (earlier ++ [use]) = takenInTurn earlier + if use.2.content.index = .implicit then 1 else 0 := by
  simp [takenInTurn, List.countP_singleton]

/-- What is carried along from one conversion to the next says which number an index denotes. -/
theorem nextIndex_eq_some_iff {earlier : List ArgumentUse} {specifier : Located Specifier} {number next : Nat} :
    nextIndex (takenInTurn earlier) (earlier.getLast?.map (·.1)) specifier.content.index = some (number, next) ↔
      Denotes earlier specifier.content.index number ∧ next = takenInTurn (earlier ++ [(number, specifier)]) := by
  rw [takenInTurn_concat]
  cases specifier.content.index with
  | implicit =>
    rw [nextIndex, Option.some_inj, Prod.mk.injEq, Nat.add_comm, if_pos rfl]
    constructor
    · rintro ⟨rfl, rfl⟩
      exact ⟨.implicit, Nat.add_comm ..⟩
    · rintro ⟨hdenotes, rfl⟩
      cases hdenotes
      exact ⟨rfl, Nat.add_comm ..⟩
  | explicit stated =>
    rw [nextIndex, Option.some_inj, Prod.mk.injEq, if_neg (by simp)]
    constructor
    · rintro ⟨rfl, rfl⟩
      exact ⟨.explicit stated, rfl⟩
    · rintro ⟨hdenotes, rfl⟩
      cases hdenotes
      exact ⟨rfl, rfl⟩
  | previous =>
    rw [nextIndex, Option.map_map, Option.map_eq_some_iff, if_neg (by simp)]
    constructor
    · rintro ⟨nearest, hlast, heq⟩
      obtain ⟨before, hbefore⟩ := List.getLast?_eq_some_iff.1 hlast
      cases heq
      exact ⟨.previous hbefore, rfl⟩
    · rintro ⟨hdenotes, rfl⟩
      cases hdenotes with
      | previous hbefore => exact ⟨_, List.getLast?_eq_some_iff.2 ⟨_, hbefore⟩, rfl⟩

/-! ### Finding the numbers -/

theorem resolveIndices_eq_ok_iff {earlier uses : List ArgumentUse} {conversions : List (Located Specifier)} :
    resolveIndices (takenInTurn earlier) (earlier.getLast?.map (·.1)) conversions = .ok uses ↔
      uses.map (·.2) = conversions ∧ Numbered earlier uses := by
  induction conversions generalizing earlier uses with
  | nil =>
    rw [resolveIndices, Except.ok.injEq, List.map_eq_nil_iff]
    constructor
    · rintro rfl
      exact ⟨rfl, numbered_nil earlier⟩
    · rintro ⟨rfl, _⟩
      rfl
  | cons specifier rest ih =>
    have hbehind (number : Nat) (others : List ArgumentUse) :
        resolveIndices (takenInTurn (earlier ++ [(number, specifier)])) (some number) rest = .ok others ↔
          others.map (·.2) = rest ∧ Numbered (earlier ++ [(number, specifier)]) others := by
      rw [← ih, List.getLast?_concat]
      rfl
    constructor
    · intro h
      rw [resolveIndices] at h
      split at h
      · cases h
      · next number next hnext =>
        obtain ⟨hdenotes, rfl⟩ := nextIndex_eq_some_iff.1 hnext
        obtain ⟨others, hothers, rfl⟩ := map_eq_ok_iff.1 h
        obtain ⟨hrest, hnumbered⟩ := (hbehind number others).1 hothers
        exact ⟨by rw [List.map_cons, hrest], numbered_cons.2 ⟨hdenotes, hnumbered⟩⟩
    · rintro ⟨hmap, hnumbered⟩
      cases uses with
      | nil => cases hmap
      | cons use others =>
        obtain ⟨number, shown⟩ := use
        obtain ⟨rfl, hrest⟩ := List.cons.inj hmap
        obtain ⟨hdenotes, hnumbered⟩ := numbered_cons.1 hnumbered
        have hothers := (hbehind number others).2 ⟨hrest, hnumbered⟩
        rw [resolveIndices, nextIndex_eq_some_iff.2 ⟨hdenotes, rfl⟩]
        exact map_eq_ok_iff.2 ⟨others, hothers, rfl⟩

/-- The conversions that show an argument, with its number, are those that are numbered from the first on. -/
theorem argumentUses_eq_ok_iff {parts : List Part} {uses : List ArgumentUse} :
    argumentUses parts = .ok uses ↔ uses.map (·.2) = argumentConversions parts ∧ Numbered [] uses := by
  show resolveIndices (takenInTurn []) (([] : List ArgumentUse).getLast?.map (·.1)) _ = _ ↔ _
  exact resolveIndices_eq_ok_iff

theorem exists_resolveIndices (count number : Nat) (conversions : List (Located Specifier)) :
    ∃ uses, resolveIndices count (some number) conversions = .ok uses := by
  induction conversions generalizing count number with
  | nil => exact ⟨[], rfl⟩
  | cons specifier rest ih =>
    obtain ⟨found, next, hnext⟩ : ∃ found next,
        nextIndex count (some number) specifier.content.index = some (found, next) := by
      cases specifier.content.index with
      | implicit => exact ⟨_, _, rfl⟩
      | explicit stated => exact ⟨_, _, rfl⟩
      | previous => exact ⟨_, _, rfl⟩
    obtain ⟨others, hothers⟩ := ih next found
    refine ⟨(found, specifier) :: others, ?_⟩
    rw [resolveIndices, hnext]
    exact map_eq_ok_iff.2 ⟨others, hothers, rfl⟩

theorem argumentUses_eq_error_iff {parts : List Part} {fault : ArgumentFault} :
    argumentUses parts = .error fault ↔
      ∃ first rest, argumentConversions parts = first :: rest ∧ first.content.index = .previous ∧
        fault = .noPrevious first := by
  rw [argumentUses]
  cases argumentConversions parts with
  | nil => simp [resolveIndices]
  | cons specifier rest =>
    rw [resolveIndices]
    cases hindex : specifier.content.index with
    | previous => simp [nextIndex, hindex, eq_comm]
    | implicit =>
      obtain ⟨others, hothers⟩ := exists_resolveIndices 1 1 rest
      simp [nextIndex, hindex, hothers, Except.map]
    | explicit number =>
      obtain ⟨others, hothers⟩ := exists_resolveIndices 0 number rest
      simp [nextIndex, hindex, hothers, Except.map]

/-! ### Putting the numbers in -/

/-- The same specifier with a number for its index. -/
def Located.numbered (specifier : Located Specifier) (number : Nat) : Located Specifier :=
  { specifier with content := { specifier.content with index := .explicit number } }

/-- The same parts with numbers, in turn, for the indices of the conversions that show an argument. -/
def Part.renumber (numbers : List Nat) : List Part → List Part
  | [] => []
  | .conversion specifier :: parts =>
    match specifier.content.conversion.takesArgument, numbers with
    | true, number :: numbers => .conversion (specifier.numbered number) :: renumber numbers parts
    | _, numbers => .conversion specifier :: renumber numbers parts
  | part :: parts => part :: renumber numbers parts

def withNumbers (uses : List ArgumentUse) : List ArgumentUse :=
  uses.map fun (number, specifier) => (number, specifier.numbered number)

theorem argumentConversions_cons_conversion (specifier : Located Specifier) (parts : List Part) :
    argumentConversions (.conversion specifier :: parts) =
      if specifier.content.conversion.takesArgument then specifier :: argumentConversions parts
      else argumentConversions parts :=
  List.filter_cons

theorem Part.renumber_cons_of_takesArgument {specifier : Located Specifier} (number : Nat) (numbers : List Nat)
    (parts : List Part) (h : specifier.content.conversion.takesArgument = true) :
    Part.renumber (number :: numbers) (.conversion specifier :: parts) =
      .conversion (specifier.numbered number) :: Part.renumber numbers parts := by
  simp only [Part.renumber, h]

theorem argumentConversions_renumber {parts : List Part} {uses : List ArgumentUse}
    (h : uses.map (·.2) = argumentConversions parts) :
    argumentConversions (Part.renumber (uses.map (·.1)) parts) = (withNumbers uses).map (·.2) := by
  induction parts generalizing uses with
  | nil =>
    cases List.map_eq_nil_iff.1 h
    rfl
  | cons part parts ih =>
    cases part with
    | literal text => exact ih h
    | placeholder located => exact ih h
    | conversion specifier =>
      rw [argumentConversions_cons_conversion] at h
      cases htakes : specifier.content.conversion.takesArgument with
      | false =>
        have hsame : Part.renumber (uses.map (·.1)) (.conversion specifier :: parts) =
            .conversion specifier :: Part.renumber (uses.map (·.1)) parts := by
          simp only [Part.renumber, htakes]
        rw [htakes] at h
        rw [hsame, argumentConversions_cons_conversion, htakes, ← ih h]
        rfl
      | true =>
        rw [htakes, if_pos rfl] at h
        cases uses with
        | nil => cases h
        | cons use uses =>
          obtain ⟨number, shown⟩ := use
          obtain ⟨rfl, hrest⟩ := List.cons.inj h
          rw [List.map_cons, Part.renumber_cons_of_takesArgument _ _ _ htakes, argumentConversions_cons_conversion,
            ih hrest]
          exact if_pos htakes

theorem map_conversion_conversionsOf_renumber (numbers : List Nat) (parts : List Part) :
    (conversionsOf (Part.renumber numbers parts)).map (·.content.conversion) =
      (conversionsOf parts).map (·.content.conversion) := by
  induction parts generalizing numbers with
  | nil => rfl
  | cons part parts ih =>
    cases part with
    | literal text => exact ih numbers
    | placeholder located => exact ih numbers
    | conversion specifier =>
      unfold Part.renumber
      split
      · exact congrArg (specifier.content.conversion :: ·) (ih _)
      · exact congrArg (specifier.content.conversion :: ·) (ih _)

theorem numbered_withNumbers (earlier uses : List ArgumentUse) : Numbered earlier (withNumbers uses) := by
  intro before use after hsplit
  have huse : use ∈ withNumbers uses := by
    rw [hsplit]
    exact List.mem_append_right _ (List.mem_cons_self ..)
  obtain ⟨⟨number, specifier⟩, _, rfl⟩ := List.mem_map.1 huse
  exact .explicit number

theorem argumentUses_renumber {parts : List Part} {uses : List ArgumentUse} (h : argumentUses parts = .ok uses) :
    argumentUses (Part.renumber (uses.map (·.1)) parts) = .ok (withNumbers uses) :=
  argumentUses_eq_ok_iff.2
    ⟨(argumentConversions_renumber (argumentUses_eq_ok_iff.1 h).1).symm, numbered_withNumbers [] uses⟩

/-- The fault of a conversion is told by its text and its number, not by its index. -/
theorem message_conversionFault?_numbered (types : List ArgumentType) (number : Nat) (specifier : Located Specifier) :
    (conversionFault? types (number, specifier.numbered number)).map ArgumentFault.message =
      (conversionFault? types (number, specifier)).map ArgumentFault.message := by
  cases number with
  | zero => rfl
  | succ place =>
    rw [conversionFault?, conversionFault?]
    cases types[place]? with
    | none => rfl
    | some argument =>
      by_cases haccepts : specifier.content.conversion.category.accepts argument
      · have hnumbered : (specifier.numbered (place + 1)).content.conversion.category.accepts argument := haccepts
        simp only [if_pos haccepts, if_pos hnumbered]
      · have hnumbered : ¬(specifier.numbered (place + 1)).content.conversion.category.accepts argument := haccepts
        simp only [if_neg haccepts, if_neg hnumbered]
        rfl

section Renumbered

variable {parts : List Part} {uses : List ArgumentUse} (h : argumentUses parts = .ok uses)
include h

theorem message_argumentFault?_renumber (types : List ArgumentType) :
    (argumentFault? .printf (Part.renumber (uses.map (·.1)) parts) types).map ArgumentFault.message =
      (argumentFault? .printf parts types).map ArgumentFault.message := by
  simp only [argumentFault?, argumentUses_renumber h, h, withNumbers, List.findSome?_map, List.map_findSome?]
  congr 1
  funext ⟨number, specifier⟩
  exact message_conversionFault?_numbered types number specifier

theorem referencedArguments_renumber :
    referencedArguments .printf (Part.renumber (uses.map (·.1)) parts) = referencedArguments .printf parts := by
  simp only [referencedArguments, argumentUses_renumber h, h, withNumbers, List.map_map]
  rfl

theorem formatShape_renumber :
    formatShape .printf (Part.renumber (uses.map (·.1)) parts) = formatShape .printf parts := by
  have hseparators : (conversionsOf (Part.renumber (uses.map (·.1)) parts)).countP (·.content.conversion == .lineSeparator) =
      (conversionsOf parts).countP (·.content.conversion == .lineSeparator) := by
    have hsame := congrArg (List.countP (· == .lineSeparator))
      (map_conversion_conversionsOf_renumber (uses.map (·.1)) parts)
    rwa [List.countP_map, List.countP_map] at hsame
  simp only [formatShape, argumentUses_renumber h, h, withNumbers, hseparators]
  simp [bind, Except.bind, Located.numbered, Function.comp_def]

end Renumbered

/-- **Numbers can stand in place of indices.** The numbers of conversions are found unless the first one that shows an argument takes the previous one, which is then the fault. They are the stated ones, one more than the conversions before that take the next argument, and that of the nearest conversion before. With these numbers for indices the conversions keep them, and the parts have the same faults against any arguments, told in the same words, refer to the same arguments and have the same shape. -/
theorem argumentUses_numbering (parts : List Part) :
    (∀ fault, argumentUses parts = .error fault ↔
      ∃ first rest, argumentConversions parts = first :: rest ∧ first.content.index = .previous ∧
        fault = .noPrevious first) ∧
    (∀ uses, argumentUses parts = .ok uses ↔ uses.map (·.2) = argumentConversions parts ∧ Numbered [] uses) ∧
    ∀ uses, argumentUses parts = .ok uses →
      argumentUses (Part.renumber (uses.map (·.1)) parts) = .ok (withNumbers uses) ∧
      (∀ types, (argumentFault? .printf (Part.renumber (uses.map (·.1)) parts) types).map ArgumentFault.message =
        (argumentFault? .printf parts types).map ArgumentFault.message) ∧
      referencedArguments .printf (Part.renumber (uses.map (·.1)) parts) = referencedArguments .printf parts ∧
      formatShape .printf (Part.renumber (uses.map (·.1)) parts) = formatShape .printf parts :=
  ⟨fun _ => argumentUses_eq_error_iff, fun _ => argumentUses_eq_ok_iff, fun _ h =>
    ⟨argumentUses_renumber h, message_argumentFault?_renumber h, referencedArguments_renumber h,
      formatShape_renumber h⟩⟩

/-- The line separator and the stated number are not counted, and looking back skips the one and finds the other. -/
theorem argumentUses_numbering_mixed :
    ∃ parts uses, parseFormat .printf "%2$s%n%<d %s" = .ok parts ∧ argumentUses parts = .ok uses ∧
      uses.map (·.1) = [2, 2, 1] ∧
      (argumentFault? .printf (Part.renumber [2, 2, 1] parts) [⟨"a.Code", [.integral]⟩]).map
        ArgumentFault.message =
          some "Conversion '%2$s' at position 0 refers to argument 2 but only 1 argument(s) are available" ∧
      referencedArguments .printf (Part.renumber [2, 2, 1] parts) = [0, 1] := by
  obtain ⟨parts, hparse, ⟨uses, huses, hnumbers⟩, hfault, hreferenced⟩ : ∃ parts,
      parseFormat .printf "%2$s%n%<d %s" = .ok parts ∧
      (∃ uses, argumentUses parts = .ok uses ∧ uses.map (·.1) = [2, 2, 1]) ∧
      (argumentFault? .printf parts [⟨"a.Code", [.integral]⟩]).map ArgumentFault.message =
        some "Conversion '%2$s' at position 0 refers to argument 2 but only 1 argument(s) are available" ∧
      referencedArguments .printf parts = [0, 1] := by
    decide +kernel
  obtain ⟨_, _, hrenumber⟩ := argumentUses_numbering parts
  obtain ⟨_, hmessage, hsame, _⟩ := hrenumber uses huses
  rw [hnumbers] at hmessage hsame
  have hrenumbered := (hmessage [⟨"a.Code", [.integral]⟩]).trans hfault
  exact ⟨parts, uses, hparse, huses, hnumbers, hrenumbered, hsame.trans hreferenced⟩

end TypedMessages
