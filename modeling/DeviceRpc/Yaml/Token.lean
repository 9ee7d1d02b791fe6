import DeviceRpc.Yaml.Scalar
import DeviceRpc.Yaml.Tag

/-!
# Tokens

A document as a row of tokens in which indentation has become explicit: a
collection whose items are told by their column opens and closes with a token of
its own. That a scalar was a key shows only at the colon after it, so the scanner
remembers for every nesting where a key may have begun (`Candidate`) and puts the
key's token there when the colon comes.
-/

namespace DeviceRpc.Yaml

/-- A token. -/
inductive Token where
  | documentStart | documentEnd
  | blockSequenceStart | blockMappingStart | blockEnd
  | flowSequenceStart | flowSequenceEnd | flowMappingStart | flowMappingEnd
  | blockEntry | flowEntry | key | value
  | alias (name : String) | anchor (name : String)
  | tag (t : Tag)
  | directive (d : Directive)
  | scalar (style : ScalarStyle) (text : String)
  deriving DecidableEq, Repr

/-- Where a key may have begun. -/
structure Candidate where
  /-- How many tokens stand before it. -/
  position : Nat
  line : Nat
  column : Nat
  offset : Nat
  /-- At the column of a block collection nothing but a key can stand. -/
  required : Bool

/-- The scanner between two tokens. -/
structure Scanner where
  cursor : Cursor
  tokens : Array Token := #[]
  /-- The columns of the open block collections, innermost first. -/
  indents : List Nat := []
  /-- Whether a key may begin here. -/
  keyAllowed : Bool := true
  /-- For the block context and every open bracket, innermost first, where a key
  may have begun. -/
  candidates : List (Option Candidate) := [none]

namespace Scanner

/-- Whether a bracket is open. -/
def inFlow (s : Scanner) : Bool := 1 < s.candidates.length

/-- Adds a token and moves on. -/
def emit (t : Token) (width : Nat) (s : Scanner) : Scanner :=
  { s with tokens := s.tokens.push t, cursor := s.cursor.skip width }

/-- Whether a column lies inside the innermost block collection. -/
def isDeeper (column : Nat) (s : Scanner) : Bool := s.indents.head?.all (· < column)

/-- Opens a block collection at a column, unless one is open there; its token goes
to `position`. -/
def openBlock (column position : Nat) (t : Token) (s : Scanner) : Scanner :=
  if !s.inFlow && s.isDeeper column then
    { s with
      indents := column :: s.indents
      tokens := s.tokens.insertIdxIfInBounds position t }
  else s

/-- Closes the block collections that a column lies outside of. -/
def closeBlocks (column : Nat) (s : Scanner) : Scanner :=
  if s.inFlow then s
  else
    let closed := s.indents.takeWhile (column < ·)
    { s with
      indents := s.indents.dropWhile (column < ·)
      tokens := s.tokens ++ (closed.map fun _ => Token.blockEnd) }

/-- Closes every block collection. -/
def closeAll (s : Scanner) : Scanner :=
  if s.inFlow then s
  else { s with indents := [], tokens := s.tokens ++ (s.indents.map fun _ => Token.blockEnd) }

/-- Forgets where a key of the innermost nesting may have begun; malformed where
it had to be one. -/
def dropCandidate (s : Scanner) : Option Scanner :=
  match s.candidates with
  | some c :: rest => if c.required then none else some { s with candidates := none :: rest }
  | _ => some s

/-- Remembers that a key may begin here. -/
def saveCandidate (s : Scanner) : Option Scanner :=
  if s.keyAllowed then do
    let s ← s.dropCandidate
    let c := s.cursor
    let here : Candidate := {
      position := s.tokens.size, line := c.line, column := c.column, offset := c.offset
      required := !s.inFlow && s.indents.head? = some c.column }
    return { s with candidates := some here :: s.candidates.drop 1 }
  else some s

/-- Forgets the candidates that are too far back: a key stands on one line and has
at most 1024 bytes. -/
def dropStale (s : Scanner) : Option Scanner := do
  let candidates ← s.candidates.mapM fun
    | some c =>
      if c.line < s.cursor.line || c.offset + 1024 < s.cursor.offset then
        if c.required then none else some none
      else some (some c)
    | none => some none
  return { s with candidates }

/-- Skips space and comments, and a byte order mark at the beginning of a line. -/
def skipSpace : (fuel : Nat) → Scanner → Scanner
  | 0, s => s
  | fuel + 1, s =>
    let c := s.cursor
    let c := if c.column = 0 && c.rest.head? = some '\uFEFF' then c.skip 1 else c
    let c := c.skipWhile fun d => d = ' ' || ((s.inFlow || !s.keyAllowed) && d = '\t')
    let c := if c.rest.head? = some '#' then c.skipWhile fun d => !isBreak d else c
    if c.rest.head?.any isBreak then
      skipSpace fuel
        { s with cursor := c.readBreak.2, keyAllowed := s.keyAllowed || !s.inFlow }
    else { s with cursor := c }

/-- A scalar that is read already. -/
def emitScalar (style : ScalarStyle) (text : String) (keyAllowed : Bool) (c : Cursor)
    (s : Scanner) : Scanner :=
  { s with tokens := s.tokens.push (.scalar style text), cursor := c, keyAllowed }

/-- An opening bracket. -/
def openFlow (t : Token) (s : Scanner) : Option Scanner := do
  let s ← s.saveCandidate
  return { s.emit t 1 with candidates := none :: s.candidates, keyAllowed := true }

/-- A closing bracket. -/
def closeFlow (t : Token) (s : Scanner) : Option Scanner := do
  let s ← s.dropCandidate
  let candidates := if s.inFlow then s.candidates.drop 1 else s.candidates
  return { s.emit t 1 with candidates, keyAllowed := false }

/-- A comma between brackets. -/
def flowEntry (s : Scanner) : Option Scanner := do
  let s ← s.dropCandidate
  return { s.emit .flowEntry 1 with keyAllowed := true }

/-- The dash of an item. -/
def blockEntry (s : Scanner) : Option Scanner := do
  if !s.inFlow && !s.keyAllowed then none
  else
    let s := s.openBlock s.cursor.column s.tokens.size .blockSequenceStart
    let s ← s.dropCandidate
    return { s.emit .blockEntry 1 with keyAllowed := true }

/-- The question mark of a key. -/
def explicitKey (s : Scanner) : Option Scanner := do
  if !s.inFlow && !s.keyAllowed then none
  else
    let s := s.openBlock s.cursor.column s.tokens.size .blockMappingStart
    let s ← s.dropCandidate
    return { s.emit .key 1 with keyAllowed := !s.inFlow }

/-- The colon of a value. -/
def value (s : Scanner) : Option Scanner :=
  match s.candidates with
  | some c :: rest =>
    let s := { s with
      candidates := none :: rest
      tokens := s.tokens.insertIdxIfInBounds c.position .key }
    let s := s.openBlock c.column c.position .blockMappingStart
    some { s.emit .value 1 with keyAllowed := false }
  | _ =>
    if !s.inFlow && !s.keyAllowed then none
    else
      let s := s.openBlock s.cursor.column s.tokens.size .blockMappingStart
      some { s.emit .value 1 with keyAllowed := !s.inFlow }

/-- The mark that a document begins or ends. -/
def documentMark (t : Token) (s : Scanner) : Option Scanner := do
  let s ← s.closeAll.dropCandidate
  return { s.emit t 3 with keyAllowed := false }

/-- A line at the head of a document. -/
def directive (s : Scanner) : Option Scanner := do
  let s ← s.closeAll.dropCandidate
  let (d, rest) ← Directive.read (s.cursor.rest.drop 1)
  return { s with
    tokens := s.tokens.push (.directive d)
    cursor := (s.cursor.skipTo rest).readBreak.2
    keyAllowed := false }

/-- The name of an anchor or an alias. -/
def anchorName (s : Scanner) : Option (List Char) :=
  let name := (s.cursor.rest.drop 1).takeWhile isWord
  let rest := s.cursor.rest.drop (name.length + 1)
  let ends := atSpace rest || rest.head?.any ("?:,]\x7d%@\x60".toList.contains ·)
  if name ≠ [] && ends then some name
  else none

/-- An anchor or an alias. -/
def anchor (token : String → Token) (s : Scanner) : Option Scanner := do
  let s ← s.saveCandidate
  let name ← s.anchorName
  return { s.emit (token (String.ofList name)) (name.length + 1) with keyAllowed := false }

/-- A tag. Space follows it, or a comma between brackets. -/
def tag (s : Scanner) : Option Scanner := do
  let s ← s.saveCandidate
  let (t, rest) ← Tag.read s.cursor.rest
  if atSpace rest || (s.inFlow && rest.head? = some ',') then
    return { s with
      tokens := s.tokens.push (.tag t)
      cursor := s.cursor.skipTo rest
      keyAllowed := false }
  else none

/-- A plain scalar. -/
def plain (s : Scanner) : Option Scanner := do
  let s ← s.saveCandidate
  let (text, broken, c) ← plainScalar s.inFlow (s.indents.head?.elim 0 (· + 1)) s.cursor
  return s.emitScalar .plain text broken c

/-- A quoted scalar. -/
def quoted (style : ScalarStyle) (quote : Char) (s : Scanner) : Option Scanner := do
  let s ← s.saveCandidate
  let (text, c) ← quotedScalar quote s.cursor
  return s.emitScalar style text false c

/-- A block scalar. -/
def block (style : ScalarStyle) (s : Scanner) : Option Scanner := do
  let s ← s.dropCandidate
  let (text, c) ← blockScalar (style = .folded) s.indents.head? s.cursor
  return s.emitScalar style text true c

/-- The next token, at a character that is not space. -/
def token (d : Char) (rest : List Char) (s : Scanner) : Option Scanner :=
  if s.cursor.column = 0 && d = '%' then s.directive
  else if s.cursor.marks '-' then s.documentMark .documentStart
  else if s.cursor.marks '.' then s.documentMark .documentEnd
  else match d with
    | '[' => s.openFlow .flowSequenceStart
    | '{' => s.openFlow .flowMappingStart
    | ']' => s.closeFlow .flowSequenceEnd
    | '}' => s.closeFlow .flowMappingEnd
    | ',' => s.flowEntry
    | '*' => s.anchor .alias
    | '&' => s.anchor .anchor
    | '!' => s.tag
    | '\'' => s.quoted .singleQuoted '\''
    | '"' => s.quoted .doubleQuoted '"'
    | '-' => if atSpace rest then s.blockEntry else s.plain
    | '?' => if s.inFlow || atSpace rest then s.explicitKey else s.plain
    | ':' => if s.inFlow || atSpace rest then s.value else s.plain
    | '|' => if s.inFlow then none else s.block .literal
    | '>' => if s.inFlow then none else s.block .folded
    | '#' | '%' | '@' | '\x60' | '\t' => none
    | _ => s.plain

/-- The tokens of what is left. -/
def run : (fuel : Nat) → Scanner → Option (List Token)
  | 0, _ => none
  | fuel + 1, s => do
    let s ← (s.skipSpace (s.cursor.rest.length + 1)).dropStale
    match s.cursor.rest with
    | [] =>
      let s ← s.closeAll.dropCandidate
      return s.tokens.toList
    | d :: rest => run fuel (← (s.closeBlocks s.cursor.column).token d rest)

end Scanner

/-- The tokens of a document, `none` where it is malformed. -/
def tokens? (s : String) : Option (List Token) :=
  let cs := s.toList
  if cs.all isPrintable then Scanner.run (cs.length + 2) { cursor := { rest := cs } } else none

end DeviceRpc.Yaml
