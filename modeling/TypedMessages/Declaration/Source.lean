import TypedMessages.Json.Basic
import TypedMessages.Yaml.Resolve

/-!
# Notations of declarations

What has to be known of a data notation to read declarations from it, and the two notations in use. JSON says of each value what it is; of a YAML scalar that is left to the reader, so any scalar can be read as text.

A record is a collection of named fields; either notation also allows to list the values of the fields in their order. A choice is one of several names, which JSON also allows to be written as an object whose only field has that name and is null.
-/

namespace TypedMessages

/-- The ways to read a value of a notation; each gives nothing if the value cannot be read so. -/
class DataSource (ν : Type) where
  isAbsent : ν → Bool
  text? : ν → Option String
  flag? : ν → Option Bool
  natural? : ν → Option Nat
  items? : ν → Option (List ν)
  /-- The fields of a record whose possible fields are given; none may occur twice. -/
  fields? : List String → ν → Option (List (String × ν))
  /-- The entries of a mapping from names. -/
  entries? : ν → Option (List (String × ν))
  choice? : ν → Option String
  /-- What a scalar stands for on its own account. -/
  meaning : ν → Yaml.Meaning
  /-- A choice that is also allowed to be something else. -/
  word? : ν → Option String

def fieldsInOrder {ν : Type} (names : List String) (items : List ν) : Option (List (String × ν)) :=
  if items.length ≤ names.length then some (names.zip items) else none

namespace Json

def choice? : Json → Option String
  | string text => some text
  | object [(name, null)] => some name
  | _ => none

instance : DataSource Json where
  isAbsent
    | null => true
    | _ => false
  text?
    | string text => some text
    | _ => none
  flag?
    | bool value => some value
    | _ => none
  natural?
    | integer value => value.toNat?
    | _ => none
  items?
    | array items => some items
    | _ => none
  fields? names
    | object fields => some (fields.filter (names.contains ·.1))
    | array items => fieldsInOrder names items
    | _ => none
  entries?
    | object fields => some fields
    | _ => none
  choice? := choice?
  meaning
    | null => .null
    | bool value => .bool value
    | integer value => .integer value
    | string text => .text text
    | _ => .other
  word? := choice?

end Json

namespace Yaml.Node

def isEmpty : Node → Bool
  | scalar text plain => plain && text.isEmpty
  | _ => false

def text? : Node → Option String
  | scalar text _ => some text
  | _ => none

/-- The entries of a mapping whose keys are scalars. -/
def entries? : Node → Option (List (String × Node))
  | mapping entries => entries.mapM fun (key, value) => key.text?.map fun name => (name, value)
  | node => if node.isEmpty then some [] else none

def meaning : Node → Meaning
  | scalar text plain => Yaml.meaning text plain
  | _ => .other

/-- A word, or a mapping from a word to nothing. -/
def word? (node : Node) : Option String :=
  let word (node : Node) : Option String :=
    match node.meaning with
    | .text text => some text
    | _ => none
  match node with
  | mapping [(key, value)] => if value.meaning = .null then word key else none
  | node => word node

def hasRepeats (names : List String) : Bool :=
  names.eraseDups.length < names.length

instance : DataSource Node where
  isAbsent
    | scalar text plain => plain && (text.isEmpty || isNullWord text)
    | _ => false
  text? := text?
  flag?
    | scalar text true => boolWord? text
    | _ => none
  natural?
    | scalar text true => Yaml.natural? text
    | _ => none
  items?
    | sequence items => some items
    | node => if node.isEmpty then some [] else none
  fields? names node :=
    match node with
    | sequence items => fieldsInOrder names items
    | node => do
      let fields := (← node.entries?).filter (names.contains ·.1)
      if hasRepeats (fields.map (·.1)) then none else return fields
  entries? := entries?
  choice? := text?
  meaning := meaning
  word? := word?

end Yaml.Node

end TypedMessages
