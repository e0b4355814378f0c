import TypedMessages.Yaml.Token

/-!
# Nodes of a YAML text

Builds the tree of scalars, sequences and mappings from the tokens of a text that holds one document. Where a node is missing an empty plain scalar stands for it.
-/

namespace TypedMessages.Yaml

inductive Node
  | scalar (text : String) (plain : Bool)
  | sequence (items : List Node)
  | mapping (entries : List (Node × Node))
  deriving Repr

namespace Node

def empty : Node := scalar "" true

mutual

/-- Reads a node. Within a block a collection may be given by indentation, and as the value of a key a sequence need not be indented further than the key. -/
def read (inBlock afterKey : Bool) : (fuel : Nat) → List Token → Option (Node × List Token)
  | 0, _ => none
  | fuel + 1, tokens =>
    match tokens with
    | .scalar text plain :: rest => some (scalar text plain, rest)
    | .flowSequenceStart :: rest => (readFlowItems true fuel rest).map fun (items, rest) => (sequence items, rest)
    | .flowMappingStart :: rest => (readFlowEntries true fuel rest).map fun (entries, rest) => (mapping entries, rest)
    | .blockEntry :: _ =>
      if afterKey then (readIndentless fuel tokens).map fun (items, rest) => (sequence items, rest) else none
    | .blockSequenceStart :: rest =>
      if inBlock then (readBlockItems fuel rest).map fun (items, rest) => (sequence items, rest) else none
    | .blockMappingStart :: rest =>
      if inBlock then (readBlockEntries fuel rest).map fun (entries, rest) => (mapping entries, rest) else none
    | _ => none

def readUnless (stops : List Token) (inBlock afterKey : Bool) : (fuel : Nat) → List Token → Option (Node × List Token)
  | 0, _ => none
  | fuel + 1, tokens =>
    match tokens with
    | [] => some (empty, [])
    | token :: _ => if token ∈ stops then some (empty, tokens) else read inBlock afterKey fuel tokens

def readBlockItems : (fuel : Nat) → List Token → Option (List Node × List Token)
  | 0, _ => none
  | _ + 1, .blockEnd :: rest => some ([], rest)
  | fuel + 1, .blockEntry :: rest => do
    let (item, rest) ← readUnless [.blockEntry, .blockEnd] true false fuel rest
    let (items, rest) ← readBlockItems fuel rest
    return (item :: items, rest)
  | _, _ => none

/-- Reads the items of a sequence that stands at the indentation of its key. -/
def readIndentless : (fuel : Nat) → List Token → Option (List Node × List Token)
  | 0, _ => none
  | fuel + 1, .blockEntry :: rest => do
    let (item, rest) ← readUnless [.blockEntry, .key, .value, .blockEnd] true false fuel rest
    let (items, rest) ← readIndentless fuel rest
    return (item :: items, rest)
  | _, rest => some ([], rest)

def readBlockEntries : (fuel : Nat) → List Token → Option (List (Node × Node) × List Token)
  | 0, _ => none
  | _ + 1, .blockEnd :: rest => some ([], rest)
  | fuel + 1, .key :: rest => do
    let (key, rest) ← readUnless [.key, .value, .blockEnd] true true fuel rest
    let (value, rest) ←
      match rest with
      | .value :: rest => readUnless [.key, .value, .blockEnd] true true fuel rest
      | rest => some (empty, rest)
    let (entries, rest) ← readBlockEntries fuel rest
    return ((key, value) :: entries, rest)
  | _, _ => none

/-- Reads the items of a sequence in brackets. An item with a colon in it is a mapping of one entry. -/
def readFlowItems (isFirst : Bool) : (fuel : Nat) → List Token → Option (List Node × List Token)
  | 0, _ => none
  | _ + 1, .flowSequenceEnd :: rest => some ([], rest)
  | fuel + 1, tokens => do
    let tokens ← if isFirst then some tokens else match tokens with
      | .flowEntry :: rest => some rest
      | _ => none
    match tokens with
    | .flowSequenceEnd :: rest => return ([], rest)
    | .key :: rest => do
      let (key, rest) ← readUnless [.value, .flowEntry, .flowSequenceEnd] false false fuel rest
      let (value, rest) ←
        match rest with
        | .value :: rest => readUnless [.flowEntry, .flowSequenceEnd] false false fuel rest
        | rest => some (empty, rest)
      let (items, rest) ← readFlowItems false fuel rest
      return (mapping [(key, value)] :: items, rest)
    | tokens => do
      let (item, rest) ← read false false fuel tokens
      let (items, rest) ← readFlowItems false fuel rest
      return (item :: items, rest)

/-- Reads the entries of a mapping in braces. An entry without a colon has an empty value. -/
def readFlowEntries (isFirst : Bool) : (fuel : Nat) → List Token → Option (List (Node × Node) × List Token)
  | 0, _ => none
  | _ + 1, .flowMappingEnd :: rest => some ([], rest)
  | fuel + 1, tokens => do
    let tokens ← if isFirst then some tokens else match tokens with
      | .flowEntry :: rest => some rest
      | _ => none
    match tokens with
    | .flowMappingEnd :: rest => return ([], rest)
    | .key :: rest => do
      let (key, rest) ← readUnless [.value, .flowEntry, .flowMappingEnd] false false fuel rest
      let (value, rest) ←
        match rest with
        | .value :: rest => readUnless [.flowEntry, .flowMappingEnd] false false fuel rest
        | rest => some (empty, rest)
      let (entries, rest) ← readFlowEntries false fuel rest
      return ((key, value) :: entries, rest)
    | tokens => do
      let (key, rest) ← read false false fuel tokens
      let (entries, rest) ← readFlowEntries false fuel rest
      return ((key, empty) :: entries, rest)

end

/-- The node of the one document among the tokens; without a document it is empty. -/
def ofTokens? (tokens : List Token) : Option Node := do
  let depth := 4 * tokens.length + 4
  let (node, rest) ←
    match tokens with
    | [] => some (empty, [])
    | .documentStart :: rest => readUnless [.documentStart, .documentEnd] true false depth rest
    | tokens => read true false depth tokens
  if (rest.dropWhile (· == .documentEnd)).isEmpty then return node else none

def parse? (text : String) : Option Node :=
  (tokens? text).bind ofTokens?

end Node

end TypedMessages.Yaml
