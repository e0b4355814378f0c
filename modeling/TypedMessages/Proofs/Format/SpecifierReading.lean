import TypedMessages.Proofs.Format.SpecifierForm

/-!
# Reading a specifier

Each stage of the reader takes the written form of its part off the front of a text, and where it succeeds it has taken such a form. Composed, the reader gives a specifier exactly when a form with that meaning stands at the front, and leaves what follows it.
-/

namespace TypedMessages

namespace Specifier

open SpecifierForm

variable {text rest : List Char}

/-! ### The argument number -/

theorem dollar_not_mem_front (flags : List Flag) (width precision : Option Numeral) :
    '$' ∉ flags.map Flag.toChar ++ (writtenWidth width ++ writtenPrecision precision) := by
  have hdigits : ∀ numeral : Numeral, '$' ∉ numeral.digits := fun numeral hmem => by
    have := numeral.decimal '$' hmem
    revert this
    decide
  have hflags : '$' ∉ flags.map Flag.toChar := by
    intro hmem
    obtain ⟨flag, _, hflag⟩ := List.mem_map.1 hmem
    revert hflag
    cases flag <;> decide
  cases width <;> cases precision <;> simp [writtenWidth, writtenPrecision, hdigits, hflags]

theorem readIndex_numeral {numeral : Numeral} (hcounted : 0 < numeral.value) (rest : List Char) :
    readIndex (numeral.digits ++ '$' :: rest) = .ok (.explicit numeral.value, rest) := by
  have hspan : spanDigits (numeral.digits ++ '$' :: rest) = (numeral.digits, '$' :: rest) := by
    apply spanDigits_of_append numeral.decimal
    intro c hc
    cases hc
    decide
  obtain ⟨digit, digits, hdigits⟩ := List.exists_cons_of_ne_nil numeral.nonempty
  obtain ⟨below, hbelow⟩ := Nat.exists_eq_succ_of_ne_zero (Nat.pos_iff_ne_zero.1 hcounted)
  have hvalue := numeral.numeralBelow_digits
  rw [readIndex, hspan]
  rw [hdigits] at hvalue ⊢
  rw [hbelow] at hvalue ⊢
  simp only [hvalue]

/-- Where no dollar sign comes before the end of a form, there is no argument number. -/
theorem readIndex_of_no_dollar {front : List Char} {c : Char} (hfront : '$' ∉ front) (hclosing : Closing c)
    (rest : List Char) : readIndex (front ++ c :: rest) = .ok (.implicit, front ++ c :: rest) := by
  have happend := spanDigits_append (front ++ c :: rest)
  have hdecimal := @isDigit_of_mem_spanDigits (front ++ c :: rest)
  unfold readIndex
  split
  · next digit digits left hspan =>
    exfalso
    rw [hspan] at happend hdecimal
    -- The dollar sign behind the digits lies in the front, at the closing character or behind it.
    rcases List.append_eq_append_iff.1 happend with ⟨between, hinside, hdollar⟩ | ⟨between, hinside, hdollar⟩
    · cases between with
      | nil =>
        cases hdollar
        exact hclosing.notDollar rfl
      | cons first between =>
        cases hdollar
        apply hfront
        rw [hinside]
        exact List.mem_append_right _ (List.mem_cons_self ..)
    · cases between with
      | nil =>
        cases hdollar
        exact hclosing.notDollar rfl
      | cons first between =>
        cases hdollar
        have hdigit : c.isDigit = true := by
          apply hdecimal
          rw [hinside]
          exact List.mem_append_right _ (List.mem_cons_self ..)
        rw [hclosing.notDigit] at hdigit
        cases hdigit
  · rfl

theorem of_readIndex {index : ArgumentIndex} (h : readIndex text = .ok (index, rest)) :
    ∃ number : Option Numeral, (∀ numeral ∈ number, 0 < numeral.value) ∧ index = indexOf number ∧
      text = writtenNumber number ++ rest := by
  have happend := spanDigits_append text
  have hdecimal := @isDigit_of_mem_spanDigits text
  unfold readIndex at h
  split at h
  · next digit digits left hspan =>
    rw [hspan] at happend hdecimal
    split at h
    · next below hvalue =>
      cases h
      obtain ⟨numeral, hdigits, hnumber⟩ := exists_numeral (List.cons_ne_nil digit digits) hdecimal hvalue
      refine ⟨some numeral, ?_, ?_, ?_⟩
      · rintro _ ⟨⟩
        rw [hnumber]
        exact Nat.succ_pos below
      · exact congrArg ArgumentIndex.explicit hnumber.symm
      · rw [← happend, ← hdigits]
        simp [writtenNumber]
    · cases h
  · cases h
    refine ⟨none, ?_, rfl, rfl⟩
    rintro numeral ⟨⟩

/-! ### Flags -/

theorem readFlags_written {seen flags : List Flag} (hdistinct : flags.Nodup) (hnew : ∀ flag ∈ flags, flag ∉ seen)
    (hrest : ∀ c ∈ rest.head?, Flag.ofChar? c = none) :
    readFlags seen (flags.map Flag.toChar ++ rest) = .ok (flags, rest) := by
  induction flags generalizing seen with
  | nil =>
    cases rest with
    | nil => rfl
    | cons c rest =>
      have hc : Flag.ofChar? c = none := hrest c rfl
      simp only [List.map_nil, List.nil_append, readFlags, hc]
  | cons flag flags ih =>
    obtain ⟨hfirst, hdistinct⟩ := List.nodup_cons.1 hdistinct
    have hothers : ∀ other ∈ flags, other ∉ flag :: seen := by
      intro other hother
      rw [List.mem_cons, not_or]
      refine ⟨?_, hnew other (List.mem_cons_of_mem _ hother)⟩
      rintro rfl
      exact hfirst hother
    simp only [List.map_cons, List.cons_append, readFlags, Flag.ofChar?_toChar]
    rw [if_neg (hnew flag (List.mem_cons_self ..)), ih hdistinct hothers]

theorem of_readFlags {seen flags : List Flag} (h : readFlags seen text = .ok (flags, rest)) :
    text = flags.map Flag.toChar ++ rest ∧ flags.Nodup ∧ (∀ flag ∈ flags, flag ∉ seen) ∧
      ∀ c ∈ rest.head?, Flag.ofChar? c = none := by
  induction text generalizing seen flags with
  | nil =>
    cases h
    simp
  | cons c text ih =>
    unfold readFlags at h
    split at h
    · next hc =>
      cases h
      simp [hc]
    · next flag hflag =>
      split at h
      · cases h
      · next hnew =>
        split at h
        · cases h
        · next others left hread =>
          cases h
          obtain ⟨rfl, hdistinct, hothers, hleft⟩ := ih hread
          refine ⟨?_, ?_, ?_, hleft⟩
          · rw [List.map_cons, Flag.toChar_of_ofChar? hflag]
            rfl
          · rw [List.nodup_cons]
            exact ⟨fun hmem => hothers flag hmem (List.mem_cons_self ..), hdistinct⟩
          · intro other hother
            rcases List.mem_cons.1 hother with rfl | hother
            · exact hnew
            · exact fun hseen => hothers other hother (List.mem_cons_of_mem _ hseen)

/-! ### Width and precision -/

theorem readWidth_written (width : Option Numeral) (hrest : ∀ c ∈ rest.head?, c.isDigit = false) :
    readWidth (writtenWidth width ++ rest) = .ok (width.map Numeral.value, rest) := by
  cases width with
  | none =>
    have hspan : spanDigits rest = ([], rest) :=
      spanDigits_of_append (fun c hc => absurd hc List.not_mem_nil) hrest
    simp only [writtenWidth, Option.elim_none, List.nil_append, readWidth, hspan]
    rfl
  | some numeral =>
    obtain ⟨digit, digits, hdigits⟩ := List.exists_cons_of_ne_nil numeral.nonempty
    have hvalue := numeral.numeralBelow_digits
    have hspan : spanDigits (numeral.digits ++ rest) = (numeral.digits, rest) :=
      spanDigits_of_append numeral.decimal hrest
    simp only [writtenWidth, Option.elim_some, readWidth, hspan]
    rw [hdigits] at hvalue ⊢
    simp only [hvalue]
    rfl

theorem of_readWidth {width : Option Nat} (h : readWidth text = .ok (width, rest)) :
    ∃ numeral : Option Numeral, width = numeral.map Numeral.value ∧ text = writtenWidth numeral ++ rest := by
  have happend := spanDigits_append text
  have hdecimal := @isDigit_of_mem_spanDigits text
  unfold readWidth at h
  split at h
  · cases h
    exact ⟨none, rfl, rfl⟩
  · next digits left hnonempty hspan =>
    rw [hspan] at happend hdecimal
    split at h
    · next value hvalue =>
      cases h
      have hnonempty : digits ≠ [] := by
        rintro rfl
        exact hnonempty rfl
      obtain ⟨numeral, hdigits, rfl⟩ := exists_numeral hnonempty hdecimal hvalue
      refine ⟨some numeral, rfl, ?_⟩
      rw [← happend, ← hdigits]
      rfl
    · cases h

theorem readPrecision_written (precision : Option Numeral) (hrest : ∀ c ∈ rest.head?, Closing c) :
    readPrecision (writtenPrecision precision ++ rest) = .ok (precision.map Numeral.value, rest) := by
  cases precision with
  | none =>
    simp only [writtenPrecision, Option.elim_none, List.nil_append]
    unfold readPrecision
    split
    · next left => exact absurd rfl (hrest '.' rfl).notPoint
    · rfl
  | some numeral =>
    have hread := readWidth_written (some numeral) fun c hc => (hrest c hc).notDigit
    simp only [writtenWidth, Option.elim_some, Option.map_some] at hread
    simp only [writtenPrecision, Option.elim_some, List.cons_append, readPrecision, hread, Option.map_some]

theorem of_readPrecision {precision : Option Nat} (h : readPrecision text = .ok (precision, rest)) :
    ∃ numeral : Option Numeral, precision = numeral.map Numeral.value ∧ text = writtenPrecision numeral ++ rest := by
  unfold readPrecision at h
  split at h
  · next digits =>
    split at h
    · cases h
    · next reading hread =>
      obtain ⟨numeral, rfl, hdigits⟩ := of_readWidth h
      cases numeral with
      | none => exact absurd h (hread rest)
      | some numeral => exact ⟨some numeral, rfl, by rw [hdigits]; rfl⟩
  · cases h
    exact ⟨none, rfl, rfl⟩

/-! ### The conversion -/

theorem readConversion_letter {c : Char} {conversion : Conversion} {suffix : Option Char} (hc : c ≠ '%')
    (hletter : Conversion.ofChar? c = some conversion) (hsuffixed : suffix.isSome = true ↔ conversion = .dateTime)
    (hknown : ∀ d ∈ suffix, d ∈ dateTimeSuffixes) (rest : List Char) :
    readConversion (c :: (suffix.toList ++ rest)) = .ok (some (conversion, c.isUpper, suffix), rest) := by
  unfold readConversion
  split
  · next heq => cases heq
  · next heq =>
    cases heq
    exact absurd rfl hc
  · next heq =>
    cases heq
    cases suffix with
    | none =>
      have hdate : conversion ≠ .dateTime := fun hdate => Bool.false_ne_true (hsuffixed.2 hdate)
      simp only [hletter]
      rfl
    | some d =>
      have hdate := hsuffixed.1 rfl
      subst hdate
      simp [hletter, hknown d rfl]

theorem readConversion_written (conversion : Option ConversionForm) (rest : List Char) :
    readConversion (writtenConversion conversion ++ rest) =
      .ok (conversion.map fun form => (form.conversion, form.upperCase, form.suffix), rest) := by
  cases conversion with
  | none => rfl
  | some form =>
    obtain ⟨hletter, hupper⟩ := Conversion.ofChar?_letter form.cased
    have hpercent := form.conversion.letter_ne_percent form.upperCase
    have hread := readConversion_letter hpercent hletter form.suffixed form.known rest
    rw [hupper] at hread
    exact hread

theorem of_readConversion {reading : Option (Conversion × Bool × Option Char)}
    (h : readConversion text = .ok (reading, rest)) :
    ∃ conversion : Option ConversionForm,
      reading = conversion.map (fun form => (form.conversion, form.upperCase, form.suffix)) ∧
        text = writtenConversion conversion ++ rest := by
  unfold readConversion at h
  split at h
  · cases h
  · cases h
    exact ⟨none, rfl, rfl⟩
  · next c text hpercent =>
    split at h
    · cases h
    · next hletter =>
      obtain ⟨hc, hcased⟩ := Conversion.eq_letter_of_ofChar? hletter
      split at h
      · cases h
      · next suffix left =>
        split at h
        · next hsuffix =>
          cases h
          refine ⟨some ⟨.dateTime, c.isUpper, some suffix, hcased, by simp, ?_⟩, rfl, ?_⟩
          · rintro _ ⟨⟩
            exact hsuffix
          · simp only [writtenConversion, Option.elim_some, ConversionForm.written, ← hc]
            rfl
        · cases h
    · next conversion hdate hletter =>
      cases h
      obtain ⟨hc, hcased⟩ := Conversion.eq_letter_of_ofChar? hletter
      refine ⟨some ⟨conversion, c.isUpper, none, hcased, ?_, ?_⟩, rfl, ?_⟩
      · simpa using hdate
      · intro suffix hsuffix
        cases hsuffix
      · simp only [writtenConversion, Option.elim_some, ConversionForm.written, ← hc]
        rfl

/-! ### The whole specifier -/

theorem readIndex_written (form : SpecifierForm) (rest : List Char) :
    readIndex (form.written ++ rest) =
      .ok (indexOf form.number, form.flags.map Flag.toChar ++ (writtenWidth form.width ++
        (writtenPrecision form.precision ++ (writtenConversion form.conversion ++ rest)))) := by
  simp only [SpecifierForm.written, List.append_assoc]
  cases hnumber : form.number with
  | some numeral =>
    simp only [writtenNumber, Option.elim_some, List.append_assoc, List.cons_append, List.nil_append]
    exact readIndex_numeral (form.counted numeral hnumber) _
  | none =>
    obtain ⟨c, left, hwritten, hclosing⟩ := exists_closing form.conversion
    have hfront := dollar_not_mem_front form.flags form.width form.precision
    have hread := readIndex_of_no_dollar hfront hclosing (left ++ rest)
    simp only [List.append_assoc] at hread
    rw [hwritten]
    exact hread

theorem head_writtenWidth_append {width : Option Numeral} (hunpadded : ∀ numeral ∈ width, numeral.digits.head? ≠ some '0')
    (precision : Option Numeral) (conversion : Option ConversionForm) (rest : List Char) :
    ∀ c ∈ (writtenWidth width ++ (writtenPrecision precision ++ (writtenConversion conversion ++ rest))).head?,
      Flag.ofChar? c = none := by
  cases width with
  | none =>
    obtain ⟨first, left, heq, hfirst⟩ := head_writtenPrecision_append precision conversion rest
    simp only [writtenWidth, Option.elim_none, List.nil_append, heq]
    rintro _ ⟨⟩
    rcases hfirst with rfl | hclosing
    · rfl
    · exact hclosing.notFlag
  | some numeral =>
    obtain ⟨digit, digits, hdigits⟩ := List.exists_cons_of_ne_nil numeral.nonempty
    simp only [writtenWidth, Option.elim_some, hdigits, List.cons_append]
    rintro _ ⟨⟩
    have hdigit : digit.isDigit = true := numeral.decimal digit (by rw [hdigits]; exact List.mem_cons_self ..)
    apply Flag.ofChar?_of_isDigit hdigit
    rintro rfl
    exact hunpadded numeral rfl (by rw [hdigits]; rfl)

theorem unpadded_of_head {width : Option Numeral}
    (h : ∀ c ∈ (writtenWidth width ++ rest).head?, Flag.ofChar? c = none) :
    ∀ numeral ∈ width, numeral.digits.head? ≠ some '0' := by
  rintro numeral ⟨⟩ hzero
  obtain ⟨left, hdigits⟩ := List.head?_eq_some_iff.1 hzero
  have hflag := h '0' (by rw [writtenWidth, Option.elim_some, hdigits]; rfl)
  cases hflag

/-- A form at the front of a text is read, whatever follows it. -/
theorem read_written (form : SpecifierForm) (rest : List Char) :
    read (form.written ++ rest) = .ok (form.specifier?, rest) := by
  obtain ⟨first, left, hend, hfirst⟩ := head_writtenPrecision_append form.precision form.conversion rest
  obtain ⟨closing, _, hclosed, hclosing⟩ := exists_closing form.conversion
  have hindex := readIndex_written form rest
  have hflags := readFlags_written form.distinct (fun _ _ => List.not_mem_nil)
    (head_writtenWidth_append form.unpadded form.precision form.conversion rest)
  have hwidth : readWidth (writtenWidth form.width ++
      (writtenPrecision form.precision ++ (writtenConversion form.conversion ++ rest))) =
      .ok (form.width.map Numeral.value,
        writtenPrecision form.precision ++ (writtenConversion form.conversion ++ rest)) := by
    apply readWidth_written
    rw [hend]
    rintro _ ⟨⟩
    rcases hfirst with rfl | hfirst
    · decide
    · exact hfirst.notDigit
  have hprecision : readPrecision (writtenPrecision form.precision ++ (writtenConversion form.conversion ++ rest)) =
      .ok (form.precision.map Numeral.value, writtenConversion form.conversion ++ rest) := by
    apply readPrecision_written
    rw [hclosed]
    rintro _ ⟨⟩
    exact hclosing
  have hconversion := readConversion_written form.conversion rest
  simp only [read, hindex, hflags, hwidth, hprecision, hconversion, bind, Except.bind, pure, Except.pure,
    specifier?, Option.map_map]
  rfl

/-- The reader takes a form off the front of a text, and nothing else. -/
theorem read_eq_ok_iff {specifier : Option Specifier} :
    read text = .ok (specifier, rest) ↔
      ∃ form : SpecifierForm, text = form.written ++ rest ∧ form.specifier? = specifier := by
  constructor
  · intro h
    obtain ⟨⟨index, afterIndex⟩, hindex, h⟩ := bind_eq_ok_iff.1 h
    obtain ⟨⟨flags, afterFlags⟩, hflags, h⟩ := bind_eq_ok_iff.1 h
    obtain ⟨⟨width, afterWidth⟩, hwidth, h⟩ := bind_eq_ok_iff.1 h
    obtain ⟨⟨precision, afterPrecision⟩, hprecision, h⟩ := bind_eq_ok_iff.1 h
    obtain ⟨⟨conversion, afterConversion⟩, hconversion, h⟩ := bind_eq_ok_iff.1 h
    cases h
    obtain ⟨number, hcounted, rfl, rfl⟩ := of_readIndex hindex
    obtain ⟨rfl, hdistinct, _, hflagged⟩ := of_readFlags hflags
    obtain ⟨width, rfl, rfl⟩ := of_readWidth hwidth
    obtain ⟨precision, rfl, rfl⟩ := of_readPrecision hprecision
    obtain ⟨conversion, rfl, rfl⟩ := of_readConversion hconversion
    have hunpadded := unpadded_of_head hflagged
    refine ⟨⟨number, flags, width, precision, conversion, hcounted, hdistinct, hunpadded⟩, ?_, ?_⟩
    · simp only [SpecifierForm.written, List.append_assoc]
    · cases conversion <;> rfl
  · rintro ⟨form, rfl, rfl⟩
    exact read_written form rest

end Specifier

end TypedMessages
