import TypedMessages.Json.Basic
import TypedMessages.Text.Numeral

/-!
# Reading JSON

Reads one value with blanks around it. Of several fields with one name the last one counts. Each reader gives the value and the text that is left of it, or nothing if there is no such value; all of them take a bound on their depth, which the length of the text provides.
-/

namespace TypedMessages

namespace Json

def skipSpace (text : List Char) : List Char :=
  text.dropWhile fun c => c == ' ' || c == '\t' || c == '\n' || c == '\r'

def hexValue? (c : Char) : Option Nat :=
  if c.isDigit then some (c.toNat - '0'.toNat)
  else if 'a' ≤ c ∧ c ≤ 'f' then some (c.toNat - 'a'.toNat + 10)
  else if 'A' ≤ c ∧ c ≤ 'F' then some (c.toNat - 'A'.toNat + 10)
  else none

def hexNumber? (digits : List Char) : Option Nat :=
  digits.foldl (fun value c => do return 16 * (← value) + (← hexValue? c)) (some 0)

/-- The character with a code point, unless that is half of a pair or beyond the last one. -/
def scalar? (code : Nat) : Option Char :=
  if h : code.isValidChar then some (Char.ofNatAux code h) else none

/-- Reads what follows the opening quote of a string. Code points above the basic plane are escaped as pairs. -/
def readQuoted : List Char → Option (List Char × List Char)
  | '"' :: rest => some ([], rest)
  | '\\' :: 'u' :: a :: b :: c :: d :: rest =>
    match hexNumber? [a, b, c, d] with
    | none => none
    | some high =>
      if 0xD800 ≤ high ∧ high < 0xDC00 then
        match rest with
        | '\\' :: 'u' :: e :: f :: g :: h :: rest =>
          match hexNumber? [e, f, g, h] with
          | none => none
          | some low =>
            if 0xDC00 ≤ low ∧ low < 0xE000 then
              match scalar? (0x10000 + (high - 0xD800) * 0x400 + (low - 0xDC00)), readQuoted rest with
              | some c, some (text, rest) => some (c :: text, rest)
              | _, _ => none
            else none
        | _ => none
      else
        match scalar? high, readQuoted rest with
        | some c, some (text, rest) => some (c :: text, rest)
        | _, _ => none
  | '\\' :: c :: rest =>
    let meaning := match c with
      | '"' => some '"'
      | '\\' => some '\\'
      | '/' => some '/'
      | 'b' => some (Char.ofNat 8)
      | 'f' => some (Char.ofNat 12)
      | 'n' => some '\n'
      | 'r' => some '\r'
      | 't' => some '\t'
      | _ => none
    match meaning, readQuoted rest with
    | some c, some (text, rest) => some (c :: text, rest)
    | _, _ => none
  | c :: rest =>
    if c.toNat < 32 then none else (readQuoted rest).map fun (text, rest) => (c :: text, rest)
  | [] => none

def readDigits (text : List Char) : Option (List Char × List Char) :=
  let (digits, rest) := spanDigits text
  if digits.isEmpty then none else some (digits, rest)

def readFraction : List Char → Option (List Char × List Char)
  | '.' :: rest => (readDigits rest).map fun (digits, rest) => ('.' :: digits, rest)
  | rest => some ([], rest)

def readExponent : List Char → Option (List Char × List Char)
  | c :: rest =>
    if c = 'e' ∨ c = 'E' then
      let (sign, rest) := match rest with
        | '+' :: rest => (['+'], rest)
        | '-' :: rest => (['-'], rest)
        | rest => ([], rest)
      (readDigits rest).map fun (digits, rest) => (c :: sign ++ digits, rest)
    else some ([], c :: rest)
  | [] => some ([], [])

/-- Reads a number. Only what has neither fraction nor exponent is a whole number, and minus zero is none. -/
def readNumber (text : List Char) : Option (Json × List Char) := do
  let (sign, rest) := match text with
    | '-' :: rest => (['-'], rest)
    | rest => ([], rest)
  let (digits, rest) ← readDigits rest
  if digits.length > 1 ∧ digits.head? = some '0' then none
  let (fraction, rest) ← readFraction rest
  let (exponent, rest) ← readExponent rest
  let value := numeralValue digits
  if fraction.isEmpty ∧ exponent.isEmpty ∧ (sign.isEmpty ∨ value ≠ 0) then
    return (.integer (if sign.isEmpty then value else -value), rest)
  else
    return (.decimal (String.ofList (sign ++ digits ++ fraction ++ exponent)), rest)

/-- Adds a field, in the place of an earlier one of the same name if there is one. -/
def setField (fields : List (String × Json)) (name : String) (value : Json) : List (String × Json) :=
  if fields.any (·.1 == name) then fields.map fun field => if field.1 == name then (name, value) else field
  else fields ++ [(name, value)]

mutual

def readValue (depth : Nat) (text : List Char) : Option (Json × List Char) :=
  match depth with
  | 0 => none
  | depth + 1 =>
    match skipSpace text with
    | 'n' :: 'u' :: 'l' :: 'l' :: rest => some (.null, rest)
    | 't' :: 'r' :: 'u' :: 'e' :: rest => some (.bool true, rest)
    | 'f' :: 'a' :: 'l' :: 's' :: 'e' :: rest => some (.bool false, rest)
    | '"' :: rest => (readQuoted rest).map fun (text, rest) => (.string (String.ofList text), rest)
    | '[' :: rest =>
      match skipSpace rest with
      | ']' :: rest => some (.array [], rest)
      | rest => (readItems depth rest).map fun (items, rest) => (.array items, rest)
    | '{' :: rest =>
      match skipSpace rest with
      | '}' :: rest => some (.object [], rest)
      | rest => (readFields depth [] rest).map fun (fields, rest) => (.object fields, rest)
    | text => readNumber text

/-- Reads the items of an array, of which there is at least one, and its closing bracket. -/
def readItems (depth : Nat) (text : List Char) : Option (List Json × List Char) :=
  match depth with
  | 0 => none
  | depth + 1 => do
    let (item, rest) ← readValue depth text
    match skipSpace rest with
    | ',' :: rest => do
      let (items, rest) ← readItems depth rest
      return (item :: items, rest)
    | ']' :: rest => return ([item], rest)
    | _ => none

/-- Reads the fields of an object, of which there is at least one, and its closing brace. -/
def readFields (depth : Nat) (fields : List (String × Json)) (text : List Char) :
    Option (List (String × Json) × List Char) :=
  match depth with
  | 0 => none
  | depth + 1 =>
    match skipSpace text with
    | '"' :: rest => do
      let (name, rest) ← readQuoted rest
      match skipSpace rest with
      | ':' :: rest => do
        let (value, rest) ← readValue depth rest
        let fields := setField fields (String.ofList name) value
        match skipSpace rest with
        | ',' :: rest => readFields depth fields rest
        | '}' :: rest => return (fields, rest)
        | _ => none
      | _ => none
    | _ => none

end

def parse? (text : String) : Option Json :=
  let chars := text.toList
  match readValue (2 * chars.length + 2) chars with
  | some (value, rest) => if (skipSpace rest).isEmpty then some value else none
  | none => none

end Json

end TypedMessages
