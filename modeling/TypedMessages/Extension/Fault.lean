import TypedMessages.Declaration.Basic
import TypedMessages.Names.Unseen

/-!
# Faults of a batch

What can be wrong with the names and extension edges of a batch: names that are declared twice, parents that are neither declared nor logger bases, and interfaces that extend themselves. Cycles are looked for only when nothing else is wrong, and the first one found is reported, as the path that leads around it.
-/

namespace TypedMessages

inductive BatchFault
  | cyclicExtension (cycle : List String)
  | unresolvedInterface (interface missing : String)
  | duplicateInterface (interface : String)
  | duplicateType (type : String)
  deriving DecidableEq, Repr

def BatchFault.message : BatchFault → String
  | cyclicExtension cycle => "Cyclic interface extension detected: " ++ " -> ".intercalate cycle
  | unresolvedInterface interface missing =>
    s!"Interface '{interface}' extends '{missing}' which is not declared"
  | duplicateInterface interface => s!"Duplicate interface declaration: '{interface}'"
  | duplicateType type => s!"Duplicate type declaration: '{type}'"

/-- The names of a list that occur earlier in it, or among those already seen, once for each repetition. -/
def repetitions (seen : List String) : List String → List String
  | [] => []
  | name :: names =>
    if name ∈ seen then name :: repetitions seen names else repetitions (name :: seen) names

namespace Batch

/-- The parents that are neither declared nor logger bases, with the interfaces that name them. -/
def unresolvedParents (batch : Batch) : List (String × String) :=
  batch.interfaces.flatMap fun interface =>
    (interface.parents.filter fun parent =>
      !batch.interfaceNames.contains parent && !batch.options.isLoggerBase parent).map (interface.name, ·)

end Batch

/-! ### Cycles -/

/-- The path that closes when a name on it is met again; the path is given with its end first. -/
def closedPath (path : List String) (name : String) : List String :=
  name :: (path.takeWhile (· != name)).reverse ++ [name]

mutual

/-- Looks for a cycle above a name, at the end of a path. Names that were left behind are not entered again; what was visited is given back. -/
def findCycle (interfaces : List InterfaceDeclaration) (path visited : List String) (name : String) :
    Option (List String) × List String :=
  if name ∈ path then (some (closedPath path name), visited)
  else if name ∈ visited then (none, visited)
  else
    match _hfind : findInterface? interfaces name with
    | none => (none, name :: visited)
    | some interface => findCycleAmong interfaces (name :: path) (name :: visited) interface.parents
termination_by (unseen (interfaces.map (·.name)) path, 0)
decreasing_by
  exact Prod.Lex.left _ _ (unseen_cons_lt (mem_names_of_findInterface? _hfind) (by assumption))

/-- Looks for a cycle above each of some names in turn. -/
def findCycleAmong (interfaces : List InterfaceDeclaration) (path visited names : List String) :
    Option (List String) × List String :=
  match names with
  | [] => (none, visited)
  | name :: names =>
    match findCycle interfaces path visited name with
    | (some cycle, visited) => (some cycle, visited)
    | (none, visited) => findCycleAmong interfaces path visited names
termination_by (unseen (interfaces.map (·.name)) path, names.length + 1)

end

namespace Batch

/-- The first cycle met when walking up from each interface in the order of their declaration. -/
def cycle? (batch : Batch) : Option (List String) :=
  (findCycleAmong batch.interfaces [] [] batch.interfaceNames).1

def nameFaults (batch : Batch) : List BatchFault :=
  (repetitions [] batch.interfaceNames).map .duplicateInterface ++
    (repetitions [] (batch.types.map (·.name))).map .duplicateType ++
    batch.unresolvedParents.map fun (interface, missing) => .unresolvedInterface interface missing

def faults (batch : Batch) : List BatchFault :=
  match batch.nameFaults with
  | [] => (batch.cycle?.map BatchFault.cyclicExtension).toList
  | faults => faults

end Batch

end TypedMessages
