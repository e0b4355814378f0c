import TypedMessages.Declaration.Basic
import TypedMessages.Names.Unseen

/-!
# The extension hierarchy

Which interfaces an interface extends, directly or not, and how far away they are. The names of the hierarchy are those that are declared and those that are mentioned as parents; a name without a declaration extends nothing. Of several declarations with one name the last one counts.

The closure of an interface is the interface itself and its ancestors, depth first, each at its first visit, with the parents of an interface in their order. A logger base is not part of it, and neither is what can only be reached through one.
-/

namespace TypedMessages

/-- A method and the interface that declares it. Where the interface as a whole is meant the method has no name. -/
structure MethodOrigin where
  declaring : String
  method : String := ""
  deriving DecidableEq, Repr

/-- Why a batch cannot be processed at all; a batch without faults never gets here. -/
inductive EngineError
  | unknownInterface (interface : String)
  | incompleteClosure (interface : String) (origin : MethodOrigin)
  deriving DecidableEq, Repr

def EngineError.message : EngineError → String
  | unknownInterface interface => s!"Interface '{interface}' is not part of the resolved hierarchy"
  | incompleteClosure interface origin =>
    s!"Method '{origin.method}' is declared by '{origin.declaring}' which is not in the closure of '{interface}'"

/-- The extension edges of a batch, and the names that it treats as logger bases. -/
structure Hierarchy where
  declarations : List InterfaceDeclaration
  loggerBases : List String

namespace Hierarchy

def ofBatch (batch : Batch) : Hierarchy :=
  { declarations := batch.interfaces, loggerBases := batch.options.loggerBases }

def declaredNames (h : Hierarchy) : List String :=
  h.declarations.map (·.name)

def names (h : Hierarchy) : List String :=
  h.declaredNames ++ h.declarations.flatMap (·.parents)

def contains (h : Hierarchy) (name : String) : Bool :=
  h.names.contains name

def declaration? (h : Hierarchy) (name : String) : Option InterfaceDeclaration :=
  findInterface? h.declarations name

def parents (h : Hierarchy) (name : String) : List String :=
  match h.declaration? name with
  | some declaration => declaration.parents
  | none => []

/-- Whether the hierarchy knows the name, as that of a logger base. -/
def isLoggerBase (h : Hierarchy) (name : String) : Bool :=
  h.contains name && h.loggerBases.contains name

theorem mem_names_of_mem_parents {h : Hierarchy} {name parent : String} (hparent : parent ∈ h.parents name) :
    parent ∈ h.names := by
  unfold parents at hparent
  split at hparent
  · next declaration hfind =>
    exact List.mem_append_right _ (List.mem_flatMap.2 ⟨declaration, (mem_of_findInterface? hfind).1, hparent⟩)
  · cases hparent

/-! ### Walking up -/

/-- What a walk meets: the interfaces to resolve, and the logger bases at its ends. -/
structure Walk where
  members : List String
  bases : List String
  deriving DecidableEq, Repr

/-- Walks up from a stack of names, past those already seen. -/
def walkFrom (h : Hierarchy) (seen stack : List String) : Walk :=
  match stack with
  | [] => ⟨[], []⟩
  | name :: stack =>
    if name ∈ seen then h.walkFrom seen stack
    else if h.loggerBases.contains name then
      let walk := h.walkFrom (name :: seen) stack
      { walk with bases := name :: walk.bases }
    else
      match _hfind : h.declaration? name with
      | none =>
        let walk := h.walkFrom (name :: seen) stack
        { walk with members := name :: walk.members }
      | some declaration =>
        let walk := h.walkFrom (name :: seen) (declaration.parents ++ stack)
        { walk with members := name :: walk.members }
termination_by (unseen h.declaredNames seen, stack.length)
decreasing_by
  · exact Prod.Lex.right _ (by simp)
  · rcases Nat.lt_or_eq_of_le (unseen_cons_le h.declaredNames seen name) with hlt | heq
    · exact Prod.Lex.left _ _ hlt
    · rw [heq]; exact Prod.Lex.right _ (by simp)
  · rcases Nat.lt_or_eq_of_le (unseen_cons_le h.declaredNames seen name) with hlt | heq
    · exact Prod.Lex.left _ _ hlt
    · rw [heq]; exact Prod.Lex.right _ (by simp)
  · exact Prod.Lex.left _ _ (unseen_cons_lt (mem_names_of_findInterface? _hfind) (by assumption))

def walk (h : Hierarchy) (name : String) : Walk :=
  h.walkFrom [] [name]

/-- The interfaces that an interface is resolved with: itself first, then its ancestors. -/
def closure (h : Hierarchy) (name : String) : List String :=
  (h.walk name).members

def basesOf (h : Hierarchy) (name : String) : List String :=
  (h.walk name).bases

def closureOf (h : Hierarchy) (name : String) : Except EngineError (List String) :=
  if h.contains name then .ok (h.closure name) else .error (.unknownInterface name)

def loggerBasesOf (h : Hierarchy) (name : String) : Except EngineError (List String) :=
  if h.contains name then .ok (h.basesOf name) else .error (.unknownInterface name)

/-! ### Distances -/

/-- The parents of a level of names that have not been met before. -/
def nextLevel (h : Hierarchy) (met level : List String) : List String :=
  ((level.flatMap h.parents).filter (· ∉ met)).eraseDups

theorem mem_nextLevel {h : Hierarchy} {met level : List String} {name : String}
    (hname : name ∈ h.nextLevel met level) : name ∈ h.names ∧ name ∉ met := by
  have hmem := List.mem_eraseDups.1 hname
  obtain ⟨hflat, hnew⟩ := List.mem_filter.1 hmem
  obtain ⟨child, _, hparent⟩ := List.mem_flatMap.1 hflat
  exact ⟨mem_names_of_mem_parents hparent, by simpa using hnew⟩

/-- The number of levels from the given one up to the one with the target. -/
def distanceFrom (h : Hierarchy) (target : String) (met level : List String) : Option Nat :=
  if target ∈ level then some 0
  else
    match _hnext : h.nextLevel (met ++ level) level with
    | [] => none
    | name :: rest => (h.distanceFrom target (met ++ level) (name :: rest)).map (· + 1)
termination_by unseen h.names (met ++ level)
decreasing_by
  have hmem : name ∈ h.names ∧ name ∉ met ++ level :=
    mem_nextLevel (by rw [_hnext]; exact List.mem_cons_self ..)
  exact unseen_lt_of_subset (fun _ hold => List.mem_append_left _ hold) hmem.1 hmem.2
    (List.mem_append_right _ (List.mem_cons_self ..))

def distance? (h : Hierarchy) (source target : String) : Option Nat :=
  if h.contains source && h.contains target then h.distanceFrom target [] [source] else none

end Hierarchy

end TypedMessages
