import Mathlib.Data.List.TakeWhile
import Mathlib.Data.Nat.Digits.Defs
import TypedMessages.Format.Printf
import TypedMessages.Proofs.Errors

/-!
# The grammar of percent conversions

What may be written behind a percent sign, and what it means: an argument number with a dollar sign, flags, a width, a precision behind a point, and a conversion letter or a second percent sign, all but the last of them optional. A form below is one way to write a specifier, with the conditions that its parts have to meet, so forms are exactly the derivations of the grammar.

The reader takes a form off the front of a text whatever follows it, and takes nothing else: digits in front of a dollar sign can only be an argument number, a zero that stands before the width can only be a flag, and the letter ends the form.
-/

namespace TypedMessages

/-! ### Numerals -/

/-- The number that digits stand for in base ten. -/
def decimalValue (digits : List Char) : Nat :=
  Nat.ofDigits 10 (digits.reverse.map digitValue)

theorem numeralValue_eq_decimalValue (digits : List Char) : numeralValue digits = decimalValue digits := by
  rw [decimalValue, Nat.ofDigits_eq_foldr, List.foldr_map, List.foldr_reverse, numeralValue]
  congr 1
  funext value c
  rw [Nat.add_comm]
  rfl

/-- A run of digits that stands for a number below the limit of counts. -/
structure Numeral where
  digits : List Char
  nonempty : digits ≠ []
  decimal : ∀ c ∈ digits, c.isDigit = true
  bounded : decimalValue digits < countLimit

def Numeral.value (numeral : Numeral) : Nat :=
  decimalValue numeral.digits

theorem Numeral.numeralBelow_digits (numeral : Numeral) :
    numeralBelow countLimit numeral.digits = some numeral.value := by
  rw [numeralBelow_eq_some_iff, numeralValue_eq_decimalValue]
  exact ⟨rfl, numeral.bounded⟩

theorem exists_numeral {digits : List Char} {value : Nat} (hnonempty : digits ≠ [])
    (hdecimal : ∀ c ∈ digits, c.isDigit = true) (hvalue : numeralBelow countLimit digits = some value) :
    ∃ numeral : Numeral, numeral.digits = digits ∧ numeral.value = value := by
  rw [numeralBelow_eq_some_iff, numeralValue_eq_decimalValue] at hvalue
  obtain ⟨rfl, hbounded⟩ := hvalue
  exact ⟨⟨digits, hnonempty, hdecimal, hbounded⟩, rfl, rfl⟩

theorem isDigit_of_mem_spanDigits {text : List Char} : ∀ c ∈ (spanDigits text).1, c.isDigit = true :=
  fun _ hc => List.mem_takeWhile_imp hc

theorem spanDigits_of_append {digits rest : List Char} (hdigits : ∀ c ∈ digits, c.isDigit = true)
    (hrest : ∀ c ∈ rest.head?, c.isDigit = false) : spanDigits (digits ++ rest) = (digits, rest) := by
  rw [spanDigits, List.takeWhile_append_of_pos hdigits, List.dropWhile_append_of_pos hdigits]
  cases rest with
  | nil => simp
  | cons c rest =>
    have hc : c.isDigit = false := hrest c rfl
    simp [hc]

/-! ### Forms -/

/-- Whether the letter of a conversion may be written in upper case. -/
def Conversion.hasUpperCase : Conversion → Bool
  | decimalInteger | octalInteger | decimal | lineSeparator => false
  | _ => true

def Conversion.letter (conversion : Conversion) (upperCase : Bool) : Char :=
  if upperCase then conversion.toChar.toUpper else conversion.toChar

/-- A conversion letter, and behind that of dates and times a second letter. -/
structure ConversionForm where
  conversion : Conversion
  upperCase : Bool
  suffix : Option Char
  cased : upperCase = true → conversion.hasUpperCase = true
  suffixed : suffix.isSome = true ↔ conversion = .dateTime
  known : ∀ c ∈ suffix, c ∈ dateTimeSuffixes

def ConversionForm.written (form : ConversionForm) : List Char :=
  form.conversion.letter form.upperCase :: form.suffix.toList

/-- What stands behind a percent sign. Without a conversion it ends with a second percent sign. -/
structure SpecifierForm where
  number : Option Numeral
  flags : List Flag
  width : Option Numeral
  precision : Option Numeral
  conversion : Option ConversionForm
  counted : ∀ numeral ∈ number, 0 < numeral.value
  distinct : flags.Nodup
  unpadded : ∀ numeral ∈ width, numeral.digits.head? ≠ some '0'

namespace SpecifierForm

def writtenNumber (number : Option Numeral) : List Char :=
  number.elim [] fun numeral => numeral.digits ++ ['$']

def writtenWidth (width : Option Numeral) : List Char :=
  width.elim [] Numeral.digits

def writtenPrecision (precision : Option Numeral) : List Char :=
  precision.elim [] fun numeral => '.' :: numeral.digits

def writtenConversion (conversion : Option ConversionForm) : List Char :=
  conversion.elim ['%'] ConversionForm.written

/-- The text of the form, its leading percent sign left out. -/
def written (form : SpecifierForm) : List Char :=
  writtenNumber form.number ++ (form.flags.map Flag.toChar ++
    (writtenWidth form.width ++ (writtenPrecision form.precision ++ writtenConversion form.conversion)))

def indexOf (number : Option Numeral) : ArgumentIndex :=
  number.elim .implicit fun numeral => .explicit numeral.value

/-- What the form means: the flag for the previous argument wins over an argument number, and a second percent sign is no conversion. -/
def specifier? (form : SpecifierForm) : Option Specifier :=
  form.conversion.map fun conversion =>
    { index := if Flag.previous ∈ form.flags then .previous else indexOf form.number
      flags := form.flags
      width := form.width.map Numeral.value
      precision := form.precision.map Numeral.value
      conversion := conversion.conversion
      upperCase := conversion.upperCase
      dateTime := conversion.suffix }

end SpecifierForm

/-! ### Letters -/

theorem Flag.toChar_of_ofChar? {c : Char} {flag : Flag} (h : Flag.ofChar? c = some flag) : flag.toChar = c := by
  unfold Flag.ofChar? at h
  split at h <;> cases h <;> rfl

theorem Flag.ofChar?_of_isDigit {c : Char} (hdigit : c.isDigit = true) (hzero : c ≠ '0') : Flag.ofChar? c = none := by
  cases hflag : Flag.ofChar? c with
  | none => rfl
  | some flag =>
    have hc := Flag.toChar_of_ofChar? hflag
    subst hc
    cases flag <;> revert hdigit hzero <;> decide

theorem Conversion.ofChar?_letter {conversion : Conversion} {upperCase : Bool}
    (hcased : upperCase = true → conversion.hasUpperCase = true) :
    Conversion.ofChar? (conversion.letter upperCase) = some conversion ∧
      (conversion.letter upperCase).isUpper = upperCase := by
  cases upperCase with
  | false => cases conversion <;> decide
  | true =>
    have hupper := hcased rfl
    cases conversion <;> revert hupper <;> decide

theorem Conversion.eq_letter_of_ofChar? {c : Char} {conversion : Conversion}
    (h : Conversion.ofChar? c = some conversion) :
    c = conversion.letter c.isUpper ∧ (c.isUpper = true → conversion.hasUpperCase = true) := by
  unfold Conversion.ofChar? at h
  split at h <;> cases h <;> decide

/-- A character that can only be the end of a specifier. -/
structure Closing (c : Char) : Prop where
  notFlag : Flag.ofChar? c = none
  notDigit : c.isDigit = false
  notDollar : c ≠ '$'
  notPoint : c ≠ '.'

theorem closing_percent : Closing '%' := ⟨by decide, by decide, by decide, by decide⟩

theorem Conversion.closing_letter (conversion : Conversion) (upperCase : Bool) :
    Closing (conversion.letter upperCase) := by
  cases conversion <;> cases upperCase <;> exact ⟨by decide, by decide, by decide, by decide⟩

theorem Conversion.letter_ne_percent (conversion : Conversion) (upperCase : Bool) :
    conversion.letter upperCase ≠ '%' := by
  cases conversion <;> cases upperCase <;> decide

namespace SpecifierForm

theorem exists_closing (conversion : Option ConversionForm) :
    ∃ c rest, writtenConversion conversion = c :: rest ∧ Closing c := by
  cases conversion with
  | none => exact ⟨'%', [], rfl, closing_percent⟩
  | some form => exact ⟨_, _, rfl, form.conversion.closing_letter form.upperCase⟩

theorem head_writtenPrecision_append (precision : Option Numeral) (conversion : Option ConversionForm) (rest : List Char) :
    ∃ c left, writtenPrecision precision ++ (writtenConversion conversion ++ rest) = c :: left ∧
      (c = '.' ∨ Closing c) := by
  cases precision with
  | none =>
    obtain ⟨c, left, hwritten, hclosing⟩ := exists_closing conversion
    exact ⟨c, left ++ rest, by rw [hwritten]; rfl, Or.inr hclosing⟩
  | some numeral => exact ⟨'.', _, rfl, Or.inl rfl⟩

end SpecifierForm

end TypedMessages
