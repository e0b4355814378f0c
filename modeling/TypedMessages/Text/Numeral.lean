/-!
# Numerals

Reading decimal numerals that have an upper bound.
-/

namespace TypedMessages

/-- The bound of every count, index, width and precision: one more than the largest of them. -/
def countLimit : Nat := 18446744073709551616

def digitValue (c : Char) : Nat := c.toNat - '0'.toNat

def numeralValue (digits : List Char) : Nat :=
  digits.foldl (fun value c => 10 * value + digitValue c) 0

/-- The number that a run of decimal digits stands for, if it is below the limit. -/
def numeralBelow (limit : Nat) (digits : List Char) : Option Nat :=
  let value := numeralValue digits
  if value < limit then some value else none

theorem numeralBelow_eq_some_iff {limit value : Nat} {digits : List Char} :
    numeralBelow limit digits = some value ↔ numeralValue digits = value ∧ value < limit := by
  simp only [numeralBelow]
  split <;> simp_all <;> omega

def spanDigits (text : List Char) : List Char × List Char :=
  (text.takeWhile Char.isDigit, text.dropWhile Char.isDigit)

theorem spanDigits_append (text : List Char) : (spanDigits text).1 ++ (spanDigits text).2 = text :=
  List.takeWhile_append_dropWhile

/-- What was read of a text when only `rest` is left of it. -/
def consumed (text rest : List Char) : List Char :=
  text.take (text.length - rest.length)

@[simp]
theorem consumed_append (front rest : List Char) : consumed (front ++ rest) rest = front := by
  simp [consumed]

end TypedMessages
