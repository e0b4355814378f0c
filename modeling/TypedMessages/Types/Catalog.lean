import TypedMessages.Names.Unseen
import TypedMessages.Types.Builtin

/-!
# The type catalog

The catalog knows, for every type of a batch, all its supertypes. They are collected once, type by type: the supertypes of a type are its direct ones and theirs, and what was collected for one type is kept for those that come later. A walk stops where it meets a type that it is still collecting, so declarations that run in a circle come to an end. What is collected for the types of a circle, or below one, depends on the order in which the types are visited.
-/

namespace TypedMessages

/-- Type declarations; of several with one name the last one counts. -/
abbrev TypeTable := List TypeDeclaration

def TypeTable.find? (table : TypeTable) (name : String) : Option TypeDeclaration :=
  table.reverse.find? (·.name == name)

def TypeTable.names (table : TypeTable) : List String :=
  table.map (·.name)

theorem TypeTable.mem_names_of_find? {table : TypeTable} {name : String} {type : TypeDeclaration}
    (h : table.find? name = some type) : name ∈ table.names := by
  have hmem := List.mem_reverse.1 (List.mem_of_find?_eq_some h)
  have hname := List.find?_some h
  exact List.mem_map.2 ⟨type, hmem, by simpa using hname⟩

/-- The supertypes collected so far, type by type. -/
abbrev SupertypeMemo := List (String × List String)

namespace SupertypeMemo

mutual

/-- The supertypes of a type, and the memo with the types met on the way. -/
def collect (table : TypeTable) (visiting : List String) (name : String) (memo : SupertypeMemo) :
    List String × SupertypeMemo :=
  match memo.lookup name with
  | some supertypes => (supertypes, memo)
  | none =>
    if _hvisiting : name ∈ visiting then ([], memo)
    else
      match _hfind : table.find? name with
      | none => ([], (name, []) :: memo)
      | some type =>
        let (supertypes, memo) := collectAll table (name :: visiting) type.supertypes memo
        (supertypes, (name, supertypes) :: memo)
termination_by (unseen table.names visiting, 0)
decreasing_by exact Prod.Lex.left _ _ (unseen_cons_lt (TypeTable.mem_names_of_find? _hfind) _hvisiting)

def collectAll (table : TypeTable) (visiting : List String) (parents : List String) (memo : SupertypeMemo) :
    List String × SupertypeMemo :=
  match parents with
  | [] => ([], memo)
  | parent :: parents =>
    let (above, memo) := collect table visiting parent memo
    let (others, memo) := collectAll table visiting parents memo
    (parent :: above ++ others, memo)
termination_by (unseen table.names visiting, parents.length + 1)

end

end SupertypeMemo

structure Catalog where
  supertypes : SupertypeMemo
  table : TypeTable
  roots : TypeRoots

namespace Catalog

/-- The catalog of a batch, with the supertypes collected in the given order of names. -/
def buildAlong (order : List String) (types : List TypeDeclaration) (roots : TypeRoots) : Catalog :=
  let table := builtinTypes ++ types
  { supertypes := order.foldl (fun memo name => (SupertypeMemo.collect table [] name memo).2) []
    table, roots }

/-- The catalog of a batch: the built-in types and the declared ones, which replace built-in types of the same name. They are visited in the order of their declaration, which is one order out of many. -/
def build (types : List TypeDeclaration) (roots : TypeRoots) : Catalog :=
  buildAlong (TypeTable.names (builtinTypes ++ types)) types roots

def isSubtypeOf (catalog : Catalog) (sub super : String) : Bool :=
  sub == super || ((catalog.supertypes.lookup sub).getD []).contains super

def isSubtypeOfAny (catalog : Catalog) (name : String) (candidates : List String) : Bool :=
  candidates.any (catalog.isSubtypeOf name)

def isVoid (catalog : Catalog) (name : String) : Bool :=
  name == catalog.roots.voidType

def isString (catalog : Catalog) (name : String) : Bool :=
  catalog.isSubtypeOf name catalog.roots.stringType

def isThrowable (catalog : Catalog) (name : String) : Bool :=
  catalog.isSubtypeOf name catalog.roots.throwableType

/-- Exceptions that a method has to declare: those that are under no unchecked type. -/
def isChecked (catalog : Catalog) (name : String) : Bool :=
  catalog.isThrowable name && !catalog.isSubtypeOfAny name catalog.roots.uncheckedTypes

def isPrimitive (catalog : Catalog) (name : String) : Bool :=
  catalog.roots.primitiveTypes.contains name

def constructorsOf (catalog : Catalog) (name : String) : List ConstructorShape :=
  match catalog.table.find? name with
  | some type => ConstructorShape.ordered type.constructors
  | none => []

/-- The categories that a type belongs to. Arrays belong to none. -/
def categories (catalog : Catalog) (name : String) (isArray : Bool) : List TypeCategory :=
  if isArray then [] else
    TypeCategory.all.filter fun category => catalog.isSubtypeOfAny name (catalog.roots.ofCategory category)

def argumentType (catalog : Catalog) (name : String) (isArray : Bool) : ArgumentType :=
  { name := if isArray then name ++ "[]" else name
    categories := catalog.categories name isArray }

def throwable (catalog : Catalog) (name : String) (signature : Option ConstructionSignature) : ThrowableType :=
  { name, constructors := catalog.constructorsOf name, signature, isChecked := catalog.isChecked name }

/-- The kind of a return type. Nothing goes before text, and text before exceptions. -/
def returnType (catalog : Catalog) (name : String) (signature : Option ConstructionSignature) : ReturnType :=
  if catalog.isVoid name then .void
  else if catalog.isString name then .string name
  else if catalog.isThrowable name then .throwable (catalog.throwable name signature)
  else .other name

end Catalog

end TypedMessages
