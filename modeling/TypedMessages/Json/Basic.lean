/-!
# JSON values and their text

A value keeps the fields of its objects in the order in which they are listed. It is written in one line, or over several lines with two spaces for each level. Whole numbers are kept as numbers; a number with a fraction or an exponent is kept as the text it was read from, since nothing here computes with one.
-/

namespace TypedMessages

inductive Json
  | null
  | bool (value : Bool)
  | integer (value : Int)
  | decimal (text : String)
  | string (text : String)
  | array (items : List Json)
  | object (fields : List (String × Json))
  deriving Repr

namespace Json

def natural (n : Nat) : Json := .integer n

def strings (texts : List String) : Json := .array (texts.map .string)

def optional {α : Type} (encode : α → Json) : Option α → Json
  | none => .null
  | some value => encode value

def optionalField {α : Type} (name : String) (encode : α → Json) : Option α → List (String × Json)
  | none => []
  | some value => [(name, encode value)]

def listField {α : Type} (name : String) (encode : α → Json) (items : List α) : List (String × Json) :=
  if items.isEmpty then [] else [(name, .array (items.map encode))]

def field? (name : String) : Json → Option Json
  | object fields => fields.lookup name
  | _ => none

def hexDigit (n : Nat) : Char :=
  if n < 10 then Char.ofNat ('0'.toNat + n) else Char.ofNat ('a'.toNat + (n - 10))

def escapeChar (c : Char) : List Char :=
  match c with
  | '"' => ['\\', '"']
  | '\\' => ['\\', '\\']
  | '\n' => ['\\', 'n']
  | '\r' => ['\\', 'r']
  | '\t' => ['\\', 't']
  | c =>
    if c.toNat = 8 then ['\\', 'b']
    else if c.toNat = 12 then ['\\', 'f']
    else if c.toNat < 32 then ['\\', 'u', '0', '0', hexDigit (c.toNat / 16), hexDigit (c.toNat % 16)]
    else [c]

def quote (text : String) : String :=
  String.ofList ('"' :: text.toList.flatMap escapeChar ++ ['"'])

def quoteKey (pretty : Bool) (key : String) : String :=
  quote key ++ (if pretty then ": " else ":")

/-- Joins the written items of an array or object between its brackets. -/
def bracket (pretty : Bool) (indent : Nat) (opening closing : String) (items : List String) : String :=
  if items.isEmpty then opening ++ closing
  else if pretty then
    let line := "\n" ++ String.ofList (List.replicate (2 * indent) ' ')
    opening ++ line ++ "  " ++ ("," ++ line ++ "  ").intercalate items ++ line ++ closing
  else opening ++ ",".intercalate items ++ closing

mutual

/-- The text of a value that stands `indent` levels deep. -/
def write (pretty : Bool) (indent : Nat) : Json → String
  | null => "null"
  | bool value => if value then "true" else "false"
  | integer value => toString value
  | decimal text => text
  | string text => quote text
  | array items => bracket pretty indent "[" "]" (writeItems pretty (indent + 1) items)
  | object fields => bracket pretty indent "\x7b" "\x7d" (writeFields pretty (indent + 1) fields)

def writeItems (pretty : Bool) (indent : Nat) : List Json → List String
  | [] => []
  | item :: items => write pretty indent item :: writeItems pretty indent items

def writeFields (pretty : Bool) (indent : Nat) : List (String × Json) → List String
  | [] => []
  | (key, value) :: fields => (quoteKey pretty key ++ write pretty indent value) :: writeFields pretty indent fields

end

def compact (json : Json) : String := json.write false 0

def pretty (json : Json) : String := json.write true 0

end Json

end TypedMessages
