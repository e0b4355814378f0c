import TypedMessages.Yaml.Scalar

/-!
# Tokens of a YAML text

Cuts a text into tokens. Outside brackets and braces the structure is given by indentation: a deeper line opens a block, a shallower one closes the blocks it leaves. A key is recognised only when the colon after it is met, on the line where the key starts, so tokens are put in front of it afterwards. Directives, anchors, aliases and tags are refused.
-/

namespace TypedMessages.Yaml

inductive Token
  | documentStart
  | documentEnd
  | blockSequenceStart
  | blockMappingStart
  | blockEnd
  | flowSequenceStart
  | flowSequenceEnd
  | flowMappingStart
  | flowMappingEnd
  | blockEntry
  | flowEntry
  | key
  | value
  | scalar (text : String) (plain : Bool)
  deriving DecidableEq, Repr

/-- A token that turns out to be a key if a colon follows it: where it stands in the text and among the tokens. -/
structure SimpleKey where
  required : Bool
  tokenNumber : Nat
  index : Nat
  line : Nat
  column : Nat

/-- The text that is left, with the place where it starts; what was read of it; and the blocks, brackets and braces that are open. -/
structure Scanner where
  rest : List Char
  index : Nat := 0
  line : Nat := 0
  column : Nat := 0
  tokens : Array Token := #[]
  /-- The indentation of the innermost block, if there is any, and those of the blocks around it. -/
  indent : Option Nat := none
  outerIndents : List (Option Nat) := []
  /-- Whether a key may start here. -/
  keyAllowed : Bool := true
  /-- The possible key at the level outside brackets and braces, and at the levels inside them, innermost first. -/
  key? : Option SimpleKey := none
  outerKeys : List (Option SimpleKey) := []

namespace Scanner

def inFlow (s : Scanner) : Bool := !s.outerKeys.isEmpty

/-- Passes over one character. -/
def skip (s : Scanner) : Scanner :=
  match s.rest with
  | [] => s
  | c :: rest =>
    if isBreak c then { s with rest, index := s.index + 1, line := s.line + 1, column := 0 }
    else { s with rest, index := s.index + 1, column := s.column + 1 }

def skipMany : Nat → Scanner → Scanner
  | 0, s => s
  | n + 1, s => skipMany n s.skip

def skipTo (s : Scanner) (rest : List Char) : Scanner :=
  skipMany (s.rest.length - rest.length) s

def emit (s : Scanner) (token : Token) : Scanner :=
  { s with tokens := s.tokens.push token }

/-- Whether a column is deeper than the innermost block. -/
def isDeeper (s : Scanner) (column : Nat) : Bool :=
  match s.indent with
  | none => true
  | some indent => indent < column

/-- Opens a block at a column that is deeper than the innermost one, with its token in front of the token of a given number. -/
def openBlock (s : Scanner) (column : Nat) (number : Nat) (token : Token) : Scanner :=
  if !s.inFlow && s.isDeeper column then
    { s with
      tokens := s.tokens.insertIdxIfInBounds number token
      indent := some column
      outerIndents := s.indent :: s.outerIndents }
  else s

/-- Closes the blocks that are deeper than a column; without a column, all of them. -/
def closeBlocks (column : Option Nat) : List (Option Nat) → Scanner → Scanner
  | [], s => s
  | outer :: outerIndents, s =>
    match s.indent with
    | none => s
    | some indent =>
      let leaves := match column with
        | none => true
        | some column => column < indent
      if leaves then
        closeBlocks column outerIndents { s.emit .blockEnd with indent := outer, outerIndents }
      else s

def unroll (s : Scanner) (column : Option Nat) : Scanner :=
  if s.inFlow then s else closeBlocks column s.outerIndents s

/-- Drops a possible key for which no colon can come any more, unless it had to be one. -/
def checkKey (s : Scanner) (key : Option SimpleKey) : Option (Option SimpleKey) :=
  match key with
  | none => some none
  | some key =>
    if key.line < s.line || key.index + 1024 < s.index then
      if key.required then none else some none
    else some (some key)

def dropStaleKeys (s : Scanner) : Option Scanner := do
  let key? ← s.checkKey s.key?
  let outerKeys ← s.outerKeys.mapM s.checkKey
  return { s with key?, outerKeys }

def removeKey (s : Scanner) : Option Scanner :=
  match s.key? with
  | some key => if key.required then none else some { s with key? := none }
  | none => some s

/-- Notes that the next token may be a key. It has to be one if it starts a line of a block. -/
def saveKey (s : Scanner) : Option Scanner :=
  if s.keyAllowed then do
    let s ← s.removeKey
    return { s with
      key? := some
        { required := !s.inFlow && s.indent == some s.column
          tokenNumber := s.tokens.size
          index := s.index
          line := s.line
          column := s.column } }
  else some s

/-- Passes over blanks, comments and line breaks up to the next token. Tabs do not indent, and outside brackets a key may start after a line break. -/
def skipGap : Nat → Scanner → Scanner
  | 0, s => s
  | fuel + 1, s =>
    match s.rest with
    | [] => s
    | c :: _ =>
      if c == ' ' || (c == '\t' && (s.inFlow || !s.keyAllowed)) then skipGap fuel s.skip
      else if c == '#' then skipGap fuel (s.skipTo (s.rest.dropWhile (!isBreak ·)))
      else if isBreak c then skipGap fuel { s.skip with keyAllowed := s.keyAllowed || !s.inFlow }
      else s

def documentMark (s : Scanner) (token : Token) : Option Scanner := do
  let s ← (s.unroll none).removeKey
  return { (skipMany 3 s).emit token with keyAllowed := false }

def openFlow (s : Scanner) (token : Token) : Option Scanner := do
  let s ← s.saveKey
  return { s.skip.emit token with key? := none, outerKeys := s.key? :: s.outerKeys, keyAllowed := true }

def closeFlow (s : Scanner) (token : Token) : Option Scanner := do
  let s ← s.removeKey
  let s := { s.skip.emit token with keyAllowed := false }
  match s.outerKeys with
  | [] => return s
  | key? :: outerKeys => return { s with key?, outerKeys }

def flowEntry (s : Scanner) : Option Scanner := do
  let s ← s.removeKey
  return { s.skip.emit .flowEntry with keyAllowed := true }

def blockEntry (s : Scanner) : Option Scanner := do
  if !s.inFlow && !s.keyAllowed then none
  let s ← (s.openBlock s.column s.tokens.size .blockSequenceStart).removeKey
  return { s.skip.emit .blockEntry with keyAllowed := true }

def explicitKey (s : Scanner) : Option Scanner := do
  if !s.inFlow && !s.keyAllowed then none
  let s ← (s.openBlock s.column s.tokens.size .blockMappingStart).removeKey
  return { s.skip.emit .key with keyAllowed := !s.inFlow }

/-- A colon makes a key of the token noted as one; otherwise its key is empty. -/
def value (s : Scanner) : Option Scanner :=
  match s.key? with
  | some key =>
    let s := { s with tokens := s.tokens.insertIdxIfInBounds key.tokenNumber .key }
    let s := s.openBlock key.column key.tokenNumber .blockMappingStart
    some { s.skip.emit .value with key? := none, keyAllowed := false }
  | none =>
    if !s.inFlow && !s.keyAllowed then none
    else
      let s := s.openBlock s.column s.tokens.size .blockMappingStart
      some { s.skip.emit .value with keyAllowed := !s.inFlow }

def blockScalar (s : Scanner) (folds : Bool) : Option Scanner := do
  let s := { ← s.removeKey with keyAllowed := true }
  let (text, rest) ← readBlock folds s.indent s.rest.tail
  return (s.skipTo rest).emit (.scalar text false)

def quotedScalar (s : Scanner) (read : List Char → Option (String × List Char)) : Option Scanner := do
  let s := { ← s.saveKey with keyAllowed := false }
  let (text, rest) ← read s.rest.tail
  return (s.skipTo rest).emit (.scalar text false)

def plainScalar (s : Scanner) : Option Scanner := do
  let s := { ← s.saveKey with keyAllowed := false }
  let found ← readPlain s.inFlow ((s.indent.map (· + 1)).getD 0) s.column [] none s.rest
  let s := (s.skipTo found.rest).emit (.scalar found.text true)
  return { s with keyAllowed := found.brokeLine }

def startsPlain (s : Scanner) : Bool :=
  match s.rest with
  | [] => false
  | c :: rest =>
    !("-?:,[]{}#&*!|>'\"%@".toList.contains c || c.toNat == 96 || atGap s.rest) ||
      (c == '-' && !(rest.head?.map isSpacing).getD false) ||
      (!s.inFlow && (c == '?' || c == ':') && !atGap rest)

/-- Reads the next token, if any text is left. -/
def step (s : Scanner) : Option Scanner := do
  let s ← dropStaleKeys (skipGap (s.rest.length + 1) s)
  let s := s.unroll (some s.column)
  match s.rest with
  | [] => return s
  | c :: rest =>
    if s.column == 0 && c == '%' then none
    else if s.column == 0 && c == '-' && atDocumentMark s.rest then s.documentMark .documentStart
    else if s.column == 0 && c == '.' && atDocumentMark s.rest then s.documentMark .documentEnd
    else if c == '[' then s.openFlow .flowSequenceStart
    else if c == '{' then s.openFlow .flowMappingStart
    else if c == ']' then s.closeFlow .flowSequenceEnd
    else if c == '}' then s.closeFlow .flowMappingEnd
    else if c == ',' then s.flowEntry
    else if c == '-' && atGap rest then s.blockEntry
    else if c == '?' && (s.inFlow || atGap rest) then s.explicitKey
    else if c == ':' && (s.inFlow || atGap rest) then s.value
    else if c == '|' && !s.inFlow then s.blockScalar false
    else if c == '>' && !s.inFlow then s.blockScalar true
    else if c == '\'' then s.quotedScalar (readSingleQuoted [] none false)
    else if c == '"' then s.quotedScalar (readDoubleQuoted [] none false)
    else if s.startsPlain then s.plainScalar
    else none

/-- Reads all tokens; every step takes some of the text. -/
def run : Nat → Scanner → Option (Array Token)
  | 0, _ => none
  | fuel + 1, s => do
    let s ← s.step
    if s.rest.isEmpty then
      let s := s.unroll none
      let s ← s.removeKey
      return s.tokens
    else run fuel s

end Scanner

def isPrintable (c : Char) : Bool :=
  let code := c.toNat
  code == 9 || code == 10 || code == 13 || (0x20 ≤ code && code ≤ 0x7E) || code == 0x85 ||
    (0xA0 ≤ code && code ≤ 0xFFFD) || 0x10000 ≤ code

/-- The text with newlines for its other line breaks, apart from the two separators of the Unicode standard. -/
def normalizeBreaks : List Char → List Char
  | '\r' :: '\n' :: rest => '\n' :: normalizeBreaks rest
  | c :: rest => (if c == '\r' || c.toNat == 0x85 then '\n' else c) :: normalizeBreaks rest
  | [] => []

/-- The tokens of a text. A byte order mark in front of it is passed over. -/
def tokens? (text : String) : Option (List Token) :=
  let chars := match text.toList with
    | c :: rest => if c.toNat == 0xFEFF then rest else c :: rest
    | [] => []
  if chars.all isPrintable then
    let chars := normalizeBreaks chars
    (Scanner.run (chars.length + 2) { rest := chars }).map Array.toList
  else none

end TypedMessages.Yaml
