/-!
# Lengths of time

How a length of time, counted in nanoseconds, is written: in the largest unit of which it has at least one, with as many decimals as it needs.
-/

namespace TypedMessages

def microsecond : Nat := 1000

def millisecond : Nat := 1000000

def second : Nat := 1000000000

/-- The digits of `value` behind a decimal point, for so many places, without the zeros at the end. -/
def fractionDigits (places value : Nat) : List Char :=
  let digits := Nat.toDigits 10 value
  let padded := List.replicate (places - digits.length) '0' ++ digits
  (padded.reverse.dropWhile (· == '0')).reverse

/-- A length of time in a unit, which has a nanosecond as its last decimal place. -/
def inUnit (unit places nanoseconds : Nat) : String :=
  let whole := toString (nanoseconds / unit)
  match fractionDigits places (nanoseconds % unit) with
  | [] => whole
  | digits => whole ++ "." ++ String.ofList digits

def elapsedText (nanoseconds : Nat) : String :=
  if second ≤ nanoseconds then inUnit second 9 nanoseconds ++ "s"
  else if millisecond ≤ nanoseconds then inUnit millisecond 6 nanoseconds ++ "ms"
  else if microsecond ≤ nanoseconds then inUnit microsecond 3 nanoseconds ++ "µs"
  else toString nanoseconds ++ "ns"

end TypedMessages
