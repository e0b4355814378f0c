import TypedMessages.Yaml.Node

/-!
# Plain scalars that are more than text

A plain scalar may stand for nothing, a truth value or a number. Numbers may have a sign and, after a zero and a letter, hexadecimal, octal or binary digits; a zero in front of further decimal digits makes text of them.
-/

namespace TypedMessages.Yaml

inductive Meaning
  | null
  | bool (value : Bool)
  | integer (value : Int)
  | other
  | text (text : String)
  deriving DecidableEq, Repr

def isNullWord (text : String) : Bool :=
  ["~", "null", "Null", "NULL"].contains text

def boolWord? (text : String) : Option Bool :=
  if ["true", "True", "TRUE"].contains text then some true
  else if ["false", "False", "FALSE"].contains text then some false
  else none

def numberInBase? (base : Nat) (digits : List Char) : Option Nat :=
  if digits.isEmpty then none
  else digits.foldl (fun value c => do
    let digit ← Json.hexValue? c
    if digit < base then return base * (← value) + digit else none) (some 0)

def unsigned? (text : List Char) : Option Nat :=
  match text with
  | '0' :: 'x' :: digits => numberInBase? 16 digits
  | '0' :: 'o' :: digits => numberInBase? 8 digits
  | '0' :: 'b' :: digits => numberInBase? 2 digits
  | '0' :: _ :: _ => none
  | digits => numberInBase? 10 digits

def natural? (text : String) : Option Nat :=
  match text.toList with
  | '+' :: rest => unsigned? rest
  | text => unsigned? text

def integer? (text : String) : Option Int :=
  match text.toList with
  | '-' :: rest => (unsigned? rest).map fun n => -(n : Int)
  | _ => (natural? text).map fun n => (n : Int)

/-- The least number too large for a floating point number of double precision, and what rounds to it. -/
def floatOverflow : Nat := Nat.pow 2 1024 - Nat.pow 2 970

/-- Whether the number with these digits, times a power of ten, is within the range of floating point numbers. -/
def isFiniteDecimal (digits : List Char) (exponent : Int) : Bool :=
  let mantissa := numeralValue digits
  let size : Int := (toString mantissa).length
  mantissa == 0 || size + exponent < 300 ||
    (size + exponent < 400 &&
      (if exponent < 0 then mantissa < floatOverflow * Nat.pow 10 exponent.natAbs
       else mantissa * Nat.pow 10 exponent.natAbs < floatOverflow))

def isDecimal (text : List Char) : Bool :=
  let (whole, rest) := spanDigits text
  let (fraction, rest) := match rest with
    | '.' :: rest => spanDigits rest
    | rest => ([], rest)
  if whole.isEmpty && fraction.isEmpty then false
  else
    match rest with
    | [] => isFiniteDecimal (whole ++ fraction) (-(fraction.length : Int))
    | c :: rest =>
      let (negative, digits) := match rest with
        | '-' :: digits => (true, digits)
        | '+' :: digits => (false, digits)
        | digits => (false, digits)
      (c == 'e' || c == 'E') && !digits.isEmpty && digits.all Char.isDigit &&
        isFiniteDecimal (whole ++ fraction)
          ((if negative then -(numeralValue digits : Int) else numeralValue digits) - fraction.length)

def isFloat (text : String) : Bool :=
  let signed := text.toList
  let unsigned := match signed with
    | '+' :: rest => rest
    | '-' :: rest => rest
    | text => text
  let leadingZeros := unsigned.length > 1 && unsigned.head? == some '0' && unsigned.all Char.isDigit
  [".inf", ".Inf", ".INF"].contains (String.ofList unsigned) || [".nan", ".NaN", ".NAN"].contains text ||
    (!leadingZeros && isDecimal unsigned)

/-- Whether a whole number fits into 128 bits, with or without a sign. -/
def fitsWord (value : Int) : Bool :=
  -(Nat.pow 2 127 : Nat) ≤ value && value < (Nat.pow 2 128 : Nat)

/-- What a scalar stands for; only plain ones are more than text. Whole numbers too long for 128 bits are floating point numbers, or text if they are beyond those too. -/
def meaning (text : String) (plain : Bool) : Meaning :=
  if !plain then .text text
  else if text.isEmpty || isNullWord text then .null
  else
    match boolWord? text with
    | some value => .bool value
    | none =>
      match (integer? text).filter fitsWord with
      | some value => .integer value
      | none => if isFloat text then .other else .text text

end TypedMessages.Yaml
