import TypedMessages.Check.Message

/-!
# Checks across interfaces

Interfaces with the same project code share one space of message ids. Their ranges of valid ids do not overlap, their ids are padded to the same length, and no id is used by two of them.
-/

namespace TypedMessages.Check

/-! ### Ranges of ids -/

/-- A range of valid ids with the interface that claimed it. -/
abbrev RangeClaim := MessageInterface × IdRange

/-- The claims of earlier interfaces with the same project code that a range overlaps. -/
def overlappedClaims (claimed : List RangeClaim) (interface : MessageInterface) (range : IdRange) : List RangeClaim :=
  if interface.projectCode.isEmpty then []
  else
    claimed.filter fun (other, existing) =>
      other.name != interface.name && other.projectCode == interface.projectCode && existing.overlaps range

def rangeProblems (claimed : List RangeClaim) (interface : MessageInterface) (range : IdRange) : List Problem :=
  if range.max < range.min then [.emptyRange range]
  else
    (overlappedClaims claimed interface range).map fun (other, existing) =>
      .overlappingRange range existing other.name interface.projectCode

def wellFormedRanges (interface : MessageInterface) : List IdRange :=
  interface.validIdRanges.filter fun range => range.min ≤ range.max

/-- The declared methods with ids outside all ranges, if the interface has any range. -/
def idsOutsideRanges (interface : MessageInterface) : List (Nat × Method) :=
  if interface.validIdRanges.isEmpty then []
  else
    (explicitIds interface.declaredMethods).filter fun (id, _) =>
      !(wellFormedRanges interface).any (·.contains id)

def interfaceRanges (claimed : List RangeClaim) (interface : MessageInterface) : List Diagnostic :=
  (interface.validIdRanges.flatMap (rangeProblems claimed interface)).map (Diagnostic.ofInterface interface) ++
    (idsOutsideRanges interface).map fun (id, method) =>
      Diagnostic.ofMethod interface method (.idOutsideRanges id interface.validIdRanges)

def rangesAfter (claimed : List RangeClaim) : List MessageInterface → List Diagnostic
  | [] => []
  | interface :: interfaces =>
    interfaceRanges claimed interface ++
      rangesAfter (claimed ++ (wellFormedRanges interface).map (interface, ·)) interfaces

def idRanges (batch : List ResolvedInterface) : List Diagnostic :=
  rangesAfter [] (batch.map (·.interface))

/-! ### Length of ids -/

def hasValidIdLength (interface : MessageInterface) : Bool :=
  interface.idLength == 0 || (minIdLength ≤ interface.idLength && interface.idLength ≤ maxIdLength)

def idLengthProblem? (first : Option MessageInterface) (interface : MessageInterface) : Option Problem :=
  if !hasValidIdLength interface then some (.idLengthOutside interface.idLength)
  else
    match first with
    | none => none
    | some first =>
      if first.idLength = interface.idLength then none
      else some (.idLengthDiffers interface.idLength first.idLength first.name interface.projectCode)

/-- The first of some interfaces with the project code of an interface and a valid length of ids. -/
def lengthReference? (earlier : List MessageInterface) (interface : MessageInterface) : Option MessageInterface :=
  if interface.projectCode.isEmpty then none
  else earlier.find? fun other => hasValidIdLength other && other.projectCode == interface.projectCode

def idLengthsAfter (earlier : List MessageInterface) : List MessageInterface → List Diagnostic
  | [] => []
  | interface :: interfaces =>
    ((idLengthProblem? (lengthReference? earlier interface) interface).map (Diagnostic.ofInterface interface)).toList ++
      idLengthsAfter (earlier ++ [interface]) interfaces

def idLengths (batch : List ResolvedInterface) : List Diagnostic :=
  idLengthsAfter [] (batch.map (·.interface))

/-! ### Ids of a project -/

/-- An id that a declared method uses. -/
structure IdUse where
  interface : MessageInterface
  method : Method
  id : Nat

def IdUse.isSame (left right : IdUse) : Bool :=
  left.interface.projectCode == right.interface.projectCode && left.id == right.id

def idUses (interfaces : List MessageInterface) : List IdUse :=
  (interfaces.filter (!·.projectCode.isEmpty)).flatMap fun interface =>
    (explicitIds interface.declaredMethods).map fun (id, method) => { interface, method, id }

/-- An id first used by another interface of the project is reported; repetitions within an interface are not. -/
def projectIds (batch : List ResolvedInterface) : List Diagnostic :=
  let uses := clashes IdUse.isSame [] (idUses (batch.map (·.interface)))
  (uses.filter fun (use, first) => first.interface.name != use.interface.name).map fun (use, first) =>
    Diagnostic.ofMethod use.interface use.method
      (.idTaken use.interface.projectCode use.id first.interface.name first.method.signature)

end TypedMessages.Check
