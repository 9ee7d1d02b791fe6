/-!
# Positions in a document

What is left of a document, with the line and the column it stands at, and the
folding of line breaks that every scalar over several lines goes through: one
break between two words is a space, and of more than one the first is dropped.
-/

namespace DeviceRpc.Yaml

/-- Whether a character ends a line. -/
def isBreak (c : Char) : Bool :=
  c = '\n' || c = '\r' || c = '\u0085' || c = '\u2028' || c = '\u2029'

/-- Whether a character separates words of a line. -/
def isBlank (c : Char) : Bool := c = ' ' || c = '\t'

/-- Whether a text ends or goes on with space. -/
def atSpace : List Char → Bool
  | [] => true
  | c :: _ => isBlank c || isBreak c

/-- Whether a character is part of a word: a letter, a digit, a dash or an
underscore. -/
def isWord (c : Char) : Bool := c.isAlphanum || c = '_' || c = '-'

/-- Whether a character may stand in a document at all. -/
def isPrintable (c : Char) : Bool :=
  let n := c.toNat
  n = 0x9 || n = 0xA || n = 0xD || (0x20 ≤ n && n ≤ 0x7E) || n = 0x85
    || (0xA0 ≤ n && n ≤ 0xD7FF) || (0xE000 ≤ n && n ≤ 0xFFFD) || 0x10000 ≤ n

/-- The value of a hexadecimal digit. -/
def hexDigit? (c : Char) : Option Nat :=
  if '0' ≤ c ∧ c ≤ '9' then some (c.toNat - '0'.toNat)
  else if 'a' ≤ c ∧ c ≤ 'f' then some (c.toNat - 'a'.toNat + 10)
  else if 'A' ≤ c ∧ c ≤ 'F' then some (c.toNat - 'A'.toNat + 10)
  else none

/-- The length of characters in bytes. -/
def byteLength (cs : List Char) : Nat := cs.foldl (fun n c => n + c.utf8Size) 0

/-- Where reading stands. -/
structure Cursor where
  rest : List Char
  line : Nat := 0
  column : Nat := 0
  /-- How many bytes were read. -/
  offset : Nat := 0

namespace Cursor

/-- Past `n` characters of the same line. -/
def skip (n : Nat) (c : Cursor) : Cursor :=
  { c with
    rest := c.rest.drop n
    column := c.column + n
    offset := c.offset + byteLength (c.rest.take n) }

/-- Past the characters of the same line that have a property. -/
def skipWhile (p : Char → Bool) (c : Cursor) : Cursor := c.skip (c.rest.takeWhile p).length

/-- Past what is read already; `rest` is an end of what is left. -/
def skipTo (rest : List Char) (c : Cursor) : Cursor := c.skip (c.rest.length - rest.length)

/-- The line break at the cursor as a scalar keeps it, and what follows it. A
carriage return and a line feed together are one break. -/
def readBreak (c : Cursor) : String × Cursor :=
  let next (n : Nat) : Cursor := { c.skip n with line := c.line + 1, column := 0 }
  match c.rest with
  | '\r' :: '\n' :: _ => ("\n", next 2)
  | '\u2028' :: _ => ("\u2028", next 1)
  | '\u2029' :: _ => ("\u2029", next 1)
  | [] => ("", c)
  | _ :: _ => ("\n", next 1)

/-- Whether a line of the cursor opens with three of a character, and then
space. -/
def marks (mark : Char) (c : Cursor) : Bool :=
  c.column = 0 && c.rest.take 3 = [mark, mark, mark] && atSpace (c.rest.drop 3)

/-- Whether a document begins or ends here. -/
def atDocumentMark (c : Cursor) : Bool := c.marks '-' || c.marks '.'

end Cursor

/-- A scalar as far as it was read: its text, and the space after it, which counts
only if a word follows. -/
structure Fold where
  text : String := ""
  /-- Blanks since the last word, on its line. -/
  blanks : String := ""
  /-- Whether a line break followed the last word. -/
  broken : Bool := false
  /-- The first break. -/
  first : String := ""
  /-- The other breaks. -/
  others : String := ""

namespace Fold

/-- The space after the last word added to the text. -/
def flush (f : Fold) : Fold :=
  if f.broken then
    { text := f.text ++
        if f.first = "\n" then (if f.others = "" then " " else f.others)
        else f.first ++ f.others }
  else { text := f.text ++ f.blanks }

/-- Another word. -/
def append (word : List Char) (f : Fold) : Fold :=
  let f := f.flush
  { f with text := f.text ++ String.ofList word }

/-- Another blank. -/
def blank (c : Char) (f : Fold) : Fold :=
  if f.broken then f else { f with blanks := f.blanks.push c }

/-- Another line break. -/
def lineBreak (s : String) (f : Fold) : Fold :=
  if f.broken then { f with others := f.others ++ s }
  else { f with broken := true, blanks := "", first := s }

end Fold

end DeviceRpc.Yaml
