import TypedMessages.Json.Reader

/-!
# Scalars of a YAML text

Reading the three styles of scalar: plain ones, quoted ones and block ones. A scalar may run over several lines; a single line break within plain or quoted text is a space, and further ones are kept. The readers work on a text in which every line break is a newline or one of the two separators of the Unicode standard, and give the text of the scalar together with what is left.
-/

namespace TypedMessages.Yaml

def isBreak (c : Char) : Bool :=
  c == '\n' || c.toNat == 0x2028 || c.toNat == 0x2029

def isSpacing (c : Char) : Bool :=
  c == ' ' || c == '\t'

/-- Whether a text starts with blank space or has ended. -/
def atGap : List Char → Bool
  | [] => true
  | c :: _ => isSpacing c || isBreak c

/-- Whether a text starts with the line that opens or closes a document. -/
def atDocumentMark : List Char → Bool
  | '-' :: '-' :: '-' :: rest => atGap rest
  | '.' :: '.' :: '.' :: rest => atGap rest
  | _ => false

/-- Blank space met within a scalar: blanks on one line, or line breaks, the last one first. An escaped line break counts only for those after it. -/
inductive Gap
  | blanks (reversed : List Char)
  | breaks (escaped : Bool) (reversed : List Char)

namespace Gap

def hasBreak : Gap → Bool
  | blanks _ => false
  | breaks _ _ => true

/-- A further blank; blanks at the start of a line are dropped. -/
def addBlank (c : Char) : Gap → Gap
  | blanks reversed => blanks (c :: reversed)
  | gap => gap

/-- A further line break; blanks at the end of a line are dropped. -/
def addBreak (c : Char) : Gap → Gap
  | blanks _ => breaks false [c]
  | breaks escaped reversed => breaks escaped (c :: reversed)

/-- What the gap stands for, last character first. -/
def folded : Gap → List Char
  | blanks reversed => reversed
  | breaks true reversed => reversed
  | breaks false reversed =>
    match reversed.getLast? with
    | some '\n' => if reversed.length = 1 then [' '] else reversed.dropLast
    | _ => reversed

end Gap

/-- Where a plain scalar ends: its text, the text that is left, and whether line breaks stand between the two. -/
structure PlainEnd where
  text : String
  rest : List Char
  brokeLine : Bool

/-- Reads a plain scalar from a column on, with the characters read so far (last one first) and the gap after them. Within brackets and braces some characters end it that otherwise do not, and outside of them so does a line that is not indented by `indent`. -/
def readPlain (inFlow : Bool) (indent : Nat) (column : Nat) (reversed : List Char) (gap : Option Gap) :
    List Char → Option PlainEnd
  | [] => finish []
  | c :: rest =>
    if isBreak c then readPlain inFlow indent 0 reversed (some ((gap.getD (.blanks [])).addBreak c)) rest
    else if isSpacing c then
      if c == '\t' && (gap.map Gap.hasBreak).getD false && column < indent then none
      else readPlain inFlow indent (column + 1) reversed (some ((gap.getD (.blanks [])).addBlank c)) rest
    else if gap.isSome && (c == '#' || (!inFlow && column < indent) || (column == 0 && atDocumentMark (c :: rest))) then
      finish (c :: rest)
    else if inFlow && c == ':' && (rest.head?.map (",?[]{}".toList.contains ·)).getD false then none
    else if (c == ':' && atGap rest) || (inFlow && ",[]{}".toList.contains c) then finish (c :: rest)
    else
      readPlain inFlow indent (column + 1) (c :: ((gap.map Gap.folded).getD [] ++ reversed)) none rest
where
  finish (rest : List Char) : Option PlainEnd :=
    some { text := String.ofList reversed.reverse, rest, brokeLine := (gap.map Gap.hasBreak).getD false }

/-- Reads what follows the opening quote of a single-quoted scalar. A doubled quote stands for one. -/
def readSingleQuoted (reversed : List Char) (gap : Option Gap) (lineStart : Bool) : List Char → Option (String × List Char)
  | [] => none
  | '\'' :: '\'' :: rest => readSingleQuoted ('\'' :: ((gap.map Gap.folded).getD [] ++ reversed)) none false rest
  | c :: rest =>
    if isBreak c then readSingleQuoted reversed (some ((gap.getD (.blanks [])).addBreak c)) true rest
    else if isSpacing c then readSingleQuoted reversed (some ((gap.getD (.blanks [])).addBlank c)) false rest
    else if lineStart && atDocumentMark (c :: rest) then none
    else
      let reversed := (gap.map Gap.folded).getD [] ++ reversed
      if c == '\'' then some (String.ofList reversed.reverse, rest)
      else readSingleQuoted (c :: reversed) none false rest

def simpleEscape? : Char → Option Char
  | '0' => some (Char.ofNat 0)
  | 'a' => some (Char.ofNat 7)
  | 'b' => some (Char.ofNat 8)
  | 't' | '\t' => some '\t'
  | 'n' => some '\n'
  | 'v' => some (Char.ofNat 11)
  | 'f' => some (Char.ofNat 12)
  | 'r' => some '\r'
  | 'e' => some (Char.ofNat 27)
  | ' ' => some ' '
  | '"' => some '"'
  | '/' => some '/'
  | '\\' => some '\\'
  | 'N' => some (Char.ofNat 0x85)
  | '_' => some (Char.ofNat 0xA0)
  | 'L' => some (Char.ofNat 0x2028)
  | 'P' => some (Char.ofNat 0x2029)
  | _ => none

def codeEscape? (digits : List Char) : Option Char :=
  (Json.hexNumber? digits).bind Json.scalar?

def readDoubleQuoted (reversed : List Char) (gap : Option Gap) (lineStart : Bool) :
    List Char → Option (String × List Char)
  | [] => none
  | '\\' :: 'x' :: a :: b :: rest =>
    match codeEscape? [a, b] with
    | none => none
    | some c => readDoubleQuoted (c :: ((gap.map Gap.folded).getD [] ++ reversed)) none false rest
  | '\\' :: 'u' :: a :: b :: c :: d :: rest =>
    match codeEscape? [a, b, c, d] with
    | none => none
    | some c => readDoubleQuoted (c :: ((gap.map Gap.folded).getD [] ++ reversed)) none false rest
  | '\\' :: 'U' :: a :: b :: c :: d :: e :: f :: g :: h :: rest =>
    match codeEscape? [a, b, c, d, e, f, g, h] with
    | none => none
    | some c => readDoubleQuoted (c :: ((gap.map Gap.folded).getD [] ++ reversed)) none false rest
  | '\\' :: c :: rest =>
    let reversed := (gap.map Gap.folded).getD [] ++ reversed
    if isBreak c then readDoubleQuoted reversed (some (.breaks true [])) true rest
    else
      match simpleEscape? c with
      | none => none
      | some c => readDoubleQuoted (c :: reversed) none false rest
  | c :: rest =>
    if isBreak c then readDoubleQuoted reversed (some ((gap.getD (.blanks [])).addBreak c)) true rest
    else if isSpacing c then readDoubleQuoted reversed (some ((gap.getD (.blanks [])).addBlank c)) false rest
    else if lineStart && atDocumentMark (c :: rest) then none
    else
      let reversed := (gap.map Gap.folded).getD [] ++ reversed
      if c == '"' then some (String.ofList reversed.reverse, rest)
      else readDoubleQuoted (c :: reversed) none false rest

/-- What becomes of the line breaks at the end of a block scalar: none are kept, one is, or all are. -/
inductive Chomping
  | strip
  | clip
  | keep
  deriving DecidableEq

structure BlockHeader where
  chomping : Chomping := .clip
  indent : Nat := 0

def readBlockHeader (text : List Char) : Option (BlockHeader × List Char) := do
  let chomping? : Char → Option Chomping := fun c => if c = '+' then some .keep else if c = '-' then some .strip else none
  let indent? : Char → Option Nat := fun c => if c.isDigit ∧ c ≠ '0' then some (c.toNat - '0'.toNat) else none
  let (header, rest) : BlockHeader × List Char :=
    match text with
    | c :: rest =>
      match chomping? c, indent? c with
      | some chomping, _ =>
        match rest with
        | d :: further => match indent? d with
          | some indent => ({ chomping, indent }, further)
          | none => ({ chomping }, rest)
        | [] => ({ chomping }, rest)
      | none, some indent =>
        match rest with
        | d :: further => match chomping? d with
          | some chomping => ({ chomping, indent }, further)
          | none => ({ indent }, rest)
        | [] => ({ indent }, rest)
      | none, none => ({}, text)
    | [] => ({}, text)
  let rest := rest.dropWhile isSpacing
  let rest := if rest.head? = some '#' then rest.dropWhile (!isBreak ·) else rest
  match rest with
  | [] => return (header, [])
  | c :: rest => if isBreak c then return (header, rest) else none

/-- Lines without text within a block scalar: their breaks (last one first), how far the line after them is indented, how far any of them was, and the text from there on. -/
structure BlankLines where
  breaks : List Char
  column : Nat
  deepest : Nat
  rest : List Char

/-- Reads lines without text, and the indentation of the line after them, of which at most `indent` blanks are taken unless that is zero. -/
def readBlankLines (indent column deepest : Nat) (breaks : List Char) : List Char → Option BlankLines
  | [] => some { breaks, column, deepest, rest := [] }
  | c :: rest =>
    let shallow := indent = 0 ∨ column < indent
    if c = ' ' ∧ shallow then readBlankLines indent (column + 1) (max deepest (column + 1)) breaks rest
    else if c = '\t' ∧ shallow then none
    else if isBreak c then readBlankLines indent 0 deepest (c :: breaks) rest
    else some { breaks, column, deepest, rest := c :: rest }

/-- Reads the lines of a block scalar that are indented by `indent`. The text so far, the break that ends it and those of blank lines after that all come last character first. -/
def readBlockLines (folds : Bool) (chomping : Chomping) (indent : Nat) :
    (fuel : Nat) → (reversed : List Char) → (lastBreak : Option Char) → (afterBlank : Bool) → BlankLines →
      Option (String × List Char)
  | 0, _, _, _, _ => none
  | fuel + 1, reversed, lastBreak, afterBlank, lines =>
    match lines.rest with
    | [] => finish reversed lastBreak lines
    | c :: rest =>
      if lines.column = indent then
        let startsBlank := isSpacing c
        let joined :=
          if folds ∧ lastBreak = some '\n' ∧ ¬ afterBlank ∧ ¬ startsBlank then
            if lines.breaks.isEmpty then ' ' :: reversed else lines.breaks ++ reversed
          else lines.breaks ++ lastBreak.toList ++ reversed
        let line := (c :: rest).takeWhile (!isBreak ·)
        let after := (c :: rest).dropWhile (!isBreak ·)
        match readBlankLines indent 0 0 [] after.tail with
        | none => none
        | some blankLines =>
          readBlockLines folds chomping indent fuel (line.reverse ++ joined) after.head? startsBlank blankLines
      else finish reversed lastBreak lines
where
  finish (reversed : List Char) (lastBreak : Option Char) (lines : BlankLines) : Option (String × List Char) :=
    let ending := match chomping with
      | .strip => []
      | .clip => lastBreak.toList
      | .keep => lines.breaks ++ lastBreak.toList
    some (String.ofList (ending ++ reversed).reverse, lines.rest)

/-- Reads a block scalar after its indicator, inside a block whose indentation is `parentIndent`, or that is outermost. Without an indentation of its own it has that of its first line of text. -/
def readBlock (folds : Bool) (parentIndent : Option Nat) (text : List Char) : Option (String × List Char) := do
  let (header, rest) ← readBlockHeader text
  let declared := if header.indent = 0 then 0 else parentIndent.getD 0 + header.indent
  let lines ← readBlankLines declared 0 0 [] rest
  let least := (parentIndent.map (· + 1)).getD 1
  let indent := if declared = 0 then max lines.deepest (max least 1) else declared
  readBlockLines folds header.chomping indent (text.length + 1) [] none false lines

end TypedMessages.Yaml
