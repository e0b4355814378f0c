import TypedMessages.Format.Part
import TypedMessages.Format.ParseError
import TypedMessages.Text.Numeral

/-!
# Percent conversions

A specifier is a percent sign followed by an optional argument number with a dollar sign, flags, an optional width, an optional precision after a point, and a conversion letter; date and time conversions take one more letter. A doubled percent sign stands for the sign itself and may carry flags and a width as well; it stays literal text.

Each reader below takes the text at its stage and gives what it read together with the text that is left. When it fails it also says what is left, so that the text of the fault is what was consumed until then.
-/

namespace TypedMessages

namespace Specifier

/-- What reading one stage gives: a value and the rest, or a fault and the rest. -/
abbrev Reading (α : Type) := Except (FormatFault × List Char) (α × List Char)

/-- Digits are an argument number only before a dollar sign; elsewhere nothing is read. -/
def readIndex (text : List Char) : Reading ArgumentIndex :=
  match spanDigits text with
  | (digit :: digits, '$' :: rest) =>
    match numeralBelow countLimit (digit :: digits) with
    | some (number + 1) => .ok (.explicit (number + 1), rest)
    | _ => .error (.invalidIndex, rest)
  | _ => .ok (.implicit, text)

/-- Reads flags until another character comes; none may be given twice. -/
def readFlags (seen : List Flag) : List Char → Reading (List Flag)
  | [] => .ok ([], [])
  | c :: rest =>
    match Flag.ofChar? c with
    | none => .ok ([], c :: rest)
    | some flag =>
      if flag ∈ seen then .error (.duplicateFlag c, rest)
      else
        match readFlags (flag :: seen) rest with
        | .error fault => .error fault
        | .ok (flags, rest) => .ok (flag :: flags, rest)

def readWidth (text : List Char) : Reading (Option Nat) :=
  match spanDigits text with
  | ([], _) => .ok (none, text)
  | (digits, rest) =>
    match numeralBelow countLimit digits with
    | some number => .ok (some number, rest)
    | none => .error (.invalidNumber, rest)

/-- After a point a number must follow. -/
def readPrecision : List Char → Reading (Option Nat)
  | '.' :: text =>
    match readWidth text with
    | .ok (none, rest) => .error (.invalidNumber, rest)
    | reading => reading
  | text => .ok (none, text)

/-- Reads the conversion letter and, after a date or time conversion, its suffix. A percent sign gives no conversion. -/
def readConversion : List Char → Reading (Option (Conversion × Bool × Option Char))
  | [] => .error (.unterminated, [])
  | '%' :: rest => .ok (none, rest)
  | c :: rest =>
    match Conversion.ofChar? c with
    | none => .error (.unknownConversion c, rest)
    | some .dateTime =>
      match rest with
      | [] => .error (.unterminated, [])
      | suffix :: rest =>
        if suffix ∈ dateTimeSuffixes then .ok (some (.dateTime, c.isUpper, some suffix), rest)
        else .error (.unknownDateTimeConversion suffix, rest)
    | some conversion => .ok (some (conversion, c.isUpper, none), rest)

/-- Reads a specifier after its percent sign. The flag for the previous argument wins over an argument number. -/
def read (text : List Char) : Except (FormatFault × List Char) (Option Specifier × List Char) := do
  let (index, rest) ← readIndex text
  let (flags, rest) ← readFlags [] rest
  let (width, rest) ← readWidth rest
  let (precision, rest) ← readPrecision rest
  let (conversion, rest) ← readConversion rest
  return (conversion.map fun (conversion, upperCase, dateTime) =>
    { index := if Flag.previous ∈ flags then .previous else index
      flags, width, precision, conversion, upperCase, dateTime }, rest)

theorem spanDigits_rest_le (text : List Char) : (spanDigits text).2.length ≤ text.length := by
  have := congrArg List.length (spanDigits_append text)
  simp only [List.length_append] at this
  omega

theorem readIndex_rest_le {text rest : List Char} {index : ArgumentIndex}
    (h : readIndex text = .ok (index, rest)) : rest.length ≤ text.length := by
  have hle := spanDigits_rest_le text
  unfold readIndex at h
  split at h
  · next hspan =>
    rw [hspan] at hle
    split at h
    · cases h
      exact Nat.le_of_succ_le hle
    · cases h
  · cases h
    exact Nat.le_refl _

theorem readFlags_rest_le {text rest : List Char} {seen flags : List Flag}
    (h : readFlags seen text = .ok (flags, rest)) : rest.length ≤ text.length := by
  induction text generalizing seen flags with
  | nil => cases h; exact Nat.le_refl _
  | cons c text ih =>
    unfold readFlags at h
    split at h
    · cases h; exact Nat.le_refl _
    · split at h
      · cases h
      · split at h
        · cases h
        · next hread =>
          cases h
          exact Nat.le_succ_of_le (ih hread)

theorem readWidth_rest_le {text rest : List Char} {width : Option Nat}
    (h : readWidth text = .ok (width, rest)) : rest.length ≤ text.length := by
  have hle := spanDigits_rest_le text
  unfold readWidth at h
  split at h
  · cases h; exact Nat.le_refl _
  · next hspan =>
    rw [hspan] at hle
    split at h
    · cases h; exact hle
    · cases h

theorem readPrecision_rest_le {text rest : List Char} {precision : Option Nat}
    (h : readPrecision text = .ok (precision, rest)) : rest.length ≤ text.length := by
  unfold readPrecision at h
  split at h
  · split at h
    · cases h
    · exact Nat.le_succ_of_le (readWidth_rest_le h)
  · cases h; exact Nat.le_refl _

theorem readConversion_rest_lt {text rest : List Char} {conversion : Option (Conversion × Bool × Option Char)}
    (h : readConversion text = .ok (conversion, rest)) : rest.length < text.length := by
  unfold readConversion at h
  split at h
  · cases h
  · cases h; simp
  · split at h
    · cases h
    · split at h
      · cases h
      · split at h
        · cases h; simp only [List.length_cons]; omega
        · cases h
    · cases h; simp

/-- A specifier has at least its conversion letter, so reading one leaves less text. -/
theorem read_rest_lt {text rest : List Char} {specifier : Option Specifier}
    (h : read text = .ok (specifier, rest)) : rest.length < text.length := by
  simp only [read, bind, Except.bind] at h
  split at h
  · cases h
  · next hindex =>
    split at h
    · cases h
    · next hflags =>
      split at h
      · cases h
      · next hwidth =>
        split at h
        · cases h
        · next hprecision =>
          split at h
          · cases h
          · next hconversion =>
            cases h
            have := readIndex_rest_le hindex
            have := readFlags_rest_le hflags
            have := readWidth_rest_le hwidth
            have := readPrecision_rest_le hprecision
            have := readConversion_rest_lt hconversion
            omega

end Specifier

namespace Printf

/-- The pieces of a text that starts at a byte offset: single characters, doubled percent signs and conversions. -/
def pieces (position : Nat) : List Char → Except ParseError (List Part)
  | [] => .ok []
  | '%' :: rest =>
    match _hread : Specifier.read rest with
    | .error (fault, left) => .error ⟨fault, position, String.ofList ('%' :: consumed rest left)⟩
    | .ok (specifier, left) => do
      let text := String.ofList ('%' :: consumed rest left)
      let others ← pieces (position + text.utf8ByteSize) left
      match specifier with
      | none => return .literal text :: others
      | some specifier => return .conversion ⟨specifier, position, text⟩ :: others
  | c :: rest => do
    let others ← pieces (position + c.utf8Size) rest
    return .literal (String.singleton c) :: others
termination_by text => text.length
decreasing_by
  · have := Specifier.read_rest_lt _hread
    simp only [List.length_cons]
    omega
  · simp

def parse (text : String) : Except ParseError (List Part) :=
  (pieces 0 text.toList).map Part.joinLiterals

end Printf

end TypedMessages
