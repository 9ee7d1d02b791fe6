import DeviceRpc.Yaml.Cursor

/-!
# Tags and directives

A tag says of what kind a node is. It is written in full between angle brackets, or
as a handle with a suffix, and a directive at the head of a document tells what
text a handle stands for. A percent sign with two digits is an octet of an encoded
character; such an octet is kept as the character with its number, and a tag ends
before an octet that is zero.

Every reader here gives what it read with the rest of the line, or nothing where
the text is malformed.
-/

namespace DeviceRpc.Yaml

/-- A tag as it is written. Without a handle the suffix is all of it. -/
structure Tag where
  handle : String
  suffix : String
  deriving DecidableEq, Repr

/-- A line at the head of a document. -/
inductive Directive where
  /-- The version of the format. -/
  | version (major minor : Nat)
  /-- What a handle stands for. -/
  | handle (name text : String)
  deriving DecidableEq, Repr

/-! ## Resource names -/

/-- Whether a character may stand in a tag; what stands between angle brackets and
what a handle stands for may have some more. -/
def isTagChar (wide : Bool) (c : Char) : Bool :=
  isWord c || c = '\'' || ";/?:@&=+$.%!~*()".toList.contains c
    || (wide && ",[]".toList.contains c)

/-- An octet as a percent sign and two digits. -/
def octet? : List Char → Option (Nat × List Char)
  | '%' :: high :: low :: rest => do
    return (16 * (← hexDigit? high) + (← hexDigit? low), rest)
  | _ => none

/-- How many octets follow the first one of an encoded character. -/
def followers? (octet : Nat) : Option Nat :=
  if octet < 0x80 then some 0
  else if octet < 0xC0 then none
  else if octet < 0xE0 then some 1
  else if octet < 0xF0 then some 2
  else if octet < 0xF8 then some 3
  else none

/-- The octets that continue an encoded character. -/
def continued : (count : Nat) → List Char → Option (List Char × List Char)
  | 0, cs => some ([], cs)
  | count + 1, cs => do
    let (octet, cs) ← octet? cs
    if octet / 64 ≠ 2 then none
    else
      let (octets, cs) ← continued count cs
      return (Char.ofNat octet :: octets, cs)

/-- The characters of a tag with its octets decoded. -/
def decodeTag : (fuel : Nat) → List Char → Option (List Char)
  | 0, _ => some []
  | fuel + 1, cs =>
    match cs with
    | [] => some []
    | '%' :: _ => do
      let (octet, cs) ← octet? cs
      let (octets, cs) ← continued (← followers? octet) cs
      return Char.ofNat octet :: octets ++ (← decodeTag fuel cs)
    | c :: cs => (c :: ·) <$> decodeTag fuel cs

/-- Some characters of a tag, possibly none, and the rest. -/
def tagText (wide : Bool) (cs : List Char) : Option (String × List Char) := do
  let text := cs.takeWhile (isTagChar wide)
  let decoded ← decodeTag text.length text
  return (String.ofList (decoded.takeWhile (· ≠ '\x00')), cs.drop text.length)

/-- At least one character of a tag, and the rest. -/
def someTagText (wide : Bool) (cs : List Char) : Option (String × List Char) :=
  if cs.head?.any (isTagChar wide) then tagText wide cs else none

/-! ## Tags -/

/-- A tag from its exclamation mark on. One that is nothing but this mark stands for
itself. -/
def Tag.read : List Char → Option (Tag × List Char)
  | '!' :: '<' :: cs => do
    let (suffix, cs) ← someTagText true cs
    match cs with
    | '>' :: cs => return ({ handle := "", suffix }, cs)
    | _ => none
  | '!' :: cs =>
    let word := cs.takeWhile isWord
    match cs.drop word.length with
    | '!' :: cs => do
      let (suffix, cs) ← someTagText false cs
      return ({ handle := "!" ++ String.ofList word ++ "!", suffix }, cs)
    | _ => do
      let (suffix, cs) ← tagText false cs
      return (if suffix = "" then { handle := "", suffix := "!" } else { handle := "!", suffix },
        cs)
  | _ => none

/-! ## Directives -/

/-- Past the blanks. -/
def dropBlanks (cs : List Char) : List Char := cs.dropWhile isBlank

/-- A number of at most nine digits. -/
def versionNumber? (cs : List Char) : Option (Nat × List Char) :=
  let digits := cs.takeWhile Char.isDigit
  if digits = [] ∨ 9 < digits.length then none
  else some (digits.foldl (fun n c => 10 * n + (c.toNat - '0'.toNat)) 0, cs.drop digits.length)

/-- The version that a directive tells. -/
def versionDirective? (cs : List Char) : Option (Directive × List Char) := do
  let (major, cs) ← versionNumber? (dropBlanks cs)
  match cs with
  | '.' :: cs =>
    let (minor, cs) ← versionNumber? cs
    return (.version major minor, cs)
  | _ => none

/-- A handle as a directive names it. -/
def handleName? : List Char → Option (String × List Char)
  | '!' :: cs =>
    let word := cs.takeWhile isWord
    match word, cs.drop word.length with
    | _, '!' :: cs => some ("!" ++ String.ofList word ++ "!", cs)
    | [], cs => some ("!", cs)
    | _, _ => none
  | _ => none

/-- What a directive says of a handle. -/
def handleDirective? (cs : List Char) : Option (Directive × List Char) := do
  let (name, cs) ← handleName? (dropBlanks cs)
  if !(cs.head?.any isBlank) then none
  else
    let (text, cs) ← someTagText true (dropBlanks cs)
    if atSpace cs then return (.handle name text, cs) else none

/-- A directive from the character after the percent sign on. Nothing but a comment
may follow it on its line. -/
def Directive.read (cs : List Char) : Option (Directive × List Char) := do
  let name := cs.takeWhile isWord
  let cs := cs.drop name.length
  if !atSpace cs then none
  else
    let (directive, cs) ←
      if name = "YAML".toList then versionDirective? cs
      else if name = "TAG".toList then handleDirective? cs
      else none
    let cs := dropBlanks cs
    let cs := if cs.head? = some '#' then cs.dropWhile fun c => !isBreak c else cs
    if cs.head?.all isBreak then return (directive, cs) else none

end DeviceRpc.Yaml
