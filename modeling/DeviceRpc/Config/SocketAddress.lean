import DeviceRpc.Text.Numeral

/-!
# Socket addresses

The addresses that the operations listener takes: four octets and a port, or an
IPv6 address in brackets, with a numeric scope or none, and a port. Each reader
takes what it reads off the front of the text and gives the rest; it never gives
back what a longer reading would need, since no reading is a beginning of
another here.
-/

namespace DeviceRpc.SocketAddress

/-- Reads off the front and gives the rest. -/
abbrev Reader := List Char → Option (List Char)

/-- One given character. -/
def char (c : Char) : Reader
  | d :: rest => if d = c then some rest else none
  | [] => none

/-- The value of a hexadecimal digit. -/
def hexValue (c : Char) : Nat :=
  if Text.isDigit c then c.toNat - '0'.toNat
  else if 'a' ≤ c ∧ c ≤ 'f' then c.toNat - 'a'.toNat + 10
  else c.toNat - 'A'.toNat + 10

/-- Whether a character is a hexadecimal digit. -/
def isHexDigit (c : Char) : Bool :=
  Text.isDigit c || ('a' ≤ c && c ≤ 'f') || ('A' ≤ c && c ≤ 'F')

/-- Decimal digits that spell a number below `bound`, leading zeros allowed. -/
def decimal (bound : Nat) : Reader := fun cs =>
  let digits := cs.takeWhile Text.isDigit
  if digits ≠ [] ∧ Text.digitsValue digits < bound then some (cs.dropWhile Text.isDigit) else none

/-- An octet, without leading zeros. -/
def octet : Reader := fun cs =>
  let digits := cs.takeWhile Text.isDigit
  if digits.length ≤ 3 ∧ (digits.length = 1 ∨ digits.head? ≠ some '0') then decimal 256 cs
  else none

/-- Four octets with points between them. -/
def ipv4 : Reader := fun cs => do
  let cs ← octet cs >>= char '.'
  let cs ← octet cs >>= char '.'
  let cs ← octet cs >>= char '.'
  octet cs

/-- One to four hexadecimal digits. -/
def group : Reader := fun cs =>
  let digits := cs.takeWhile isHexDigit
  if digits ≠ [] ∧ digits.length ≤ 4 then some (cs.dropWhile isHexDigit) else none

/-- A colon in front, except of the first item. -/
def separated (first : Bool) (read : Reader) : Reader := fun cs =>
  if first then read cs else char ':' cs >>= read

/-- Up to `room` groups with colons between them; the last two may be written as
four octets. Gives how many there were, whether octets ended them, and the
rest. -/
def groups : (room : Nat) → (first : Bool) → List Char → Nat × Bool × List Char
  | 0, _, cs => (0, false, cs)
  | room + 1, first, cs =>
    match if 0 < room then separated first ipv4 cs else none with
    | some rest => (2, true, rest)
    | none =>
      match separated first group cs with
      | some rest =>
        let (n, octets, rest) := groups room false rest
        (n + 1, octets, rest)
      | none => (0, false, cs)

/-- Eight groups, or fewer around a double colon that stands for at least one. -/
def ipv6 : Reader := fun cs =>
  let (n, octets, rest) := groups 8 true cs
  if n = 8 then some rest
  else if octets then none
  else do
    let rest ← char ':' rest >>= char ':'
    return (groups (7 - n) true rest).2.2

/-- A colon and a port. -/
def port : Reader := fun cs => char ':' cs >>= decimal UInt16.size

/-- An address in brackets, with a scope or none, and a port. -/
def bracketed : Reader := fun cs => do
  let cs ← char '[' cs >>= ipv6
  let cs ← match cs with
    | '%' :: cs => decimal UInt32.size cs
    | cs => some cs
  char ']' cs >>= port

/-- Whether the whole text is a socket address. -/
def accepts (s : String) : Bool :=
  let cs := s.toList
  (ipv4 cs >>= port) = some [] || bracketed cs = some []

end DeviceRpc.SocketAddress
