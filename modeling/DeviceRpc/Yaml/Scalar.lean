import DeviceRpc.Yaml.Cursor

/-!
# Scalars

The four ways to write a text in a document: plain, in single quotes, in double
quotes with escapes, and as a block of lines, kept or folded. Each reader starts
at the first character and gives the text and the place after it, or nothing
where the text is malformed.
-/

namespace DeviceRpc.Yaml

/-- How a text is written. -/
inductive ScalarStyle where
  | plain | singleQuoted | doubleQuoted | literal | folded
  deriving DecidableEq, Repr

/-! ## Plain -/

/-- Whether a character ends a plain word inside brackets. -/
def isFlowMark (c : Char) : Bool := c = ',' || c = '[' || c = ']' || c = '{' || c = '}'

/-- A plain word and the rest. A colon before space ends it, and inside brackets
so does a comma or a bracket; a colon right before one of those is malformed. -/
def plainWord (flow : Bool) : List Char → Option (List Char × List Char)
  | [] => some ([], [])
  | c :: rest =>
    if isBlank c || isBreak c then some ([], c :: rest)
    else if flow && c = ':' && (rest.head?.any fun d => isFlowMark d || d = '?') then none
    else if c = ':' && atSpace rest then some ([], c :: rest)
    else if flow && isFlowMark c then some ([], c :: rest)
    else (plainWord flow rest).map fun (word, rest) => (c :: word, rest)

/-- The blanks and breaks at a cursor; a tab that stands for indentation on a
later line is malformed. -/
def plainGap (indent : Nat) : (fuel : Nat) → Cursor → Fold → Option (Cursor × Fold)
  | 0, c, f => some (c, f)
  | fuel + 1, c, f =>
    match c.rest with
    | [] => some (c, f)
    | d :: _ =>
      if isBlank d then
        if f.broken && c.column < indent && d = '\t' then none
        else plainGap indent fuel (c.skip 1) (f.blank d)
      else if isBreak d then
        let (s, c) := c.readBreak
        plainGap indent fuel c (f.lineBreak s)
      else some (c, f)

/-- Plain words up to the end of the scalar; in block context a line that is
indented less than `indent` ends it. -/
def plainWords (flow : Bool) (indent : Nat) : (fuel : Nat) → Cursor → Fold → Option (Fold × Cursor)
  | 0, c, f => some (f, c)
  | fuel + 1, c, f =>
    if c.atDocumentMark || c.rest.head? = some '#' then some (f, c)
    else do
      let (word, rest) ← plainWord flow c.rest
      let f := if word = [] then f else f.append word
      let c := c.skip word.length
      if rest = [] || !atSpace rest then some (f, c)
      else
        let (c, f) ← plainGap indent rest.length c f
        if !flow && c.column < indent then some (f, c) else plainWords flow indent fuel c f

/-- A plain scalar, and whether a line break follows it. -/
def plainScalar (flow : Bool) (indent : Nat) (c : Cursor) : Option (String × Bool × Cursor) :=
  (plainWords flow indent (c.rest.length + 1) c {}).map fun (f, c) => (f.text, f.broken, c)

/-! ## Quoted -/

/-- The character of `n` hexadecimal digits. -/
def codePoint? (n : Nat) (cs : List Char) : Option Char := do
  let digits := cs.take n
  if digits.length ≠ n then none
  else
    let code ← digits.foldlM (fun v c => return 16 * v + (← hexDigit? c)) 0
    if code.isValidChar then some (Char.ofNat code) else none

/-- The character that an escape stands for, and how many characters after the
backslash it takes. -/
def escape? : List Char → Option (Char × Nat)
  | [] => none
  | c :: rest =>
    match c with
    | '0' => some ('\x00', 1) | 'a' => some ('\x07', 1) | 'b' => some ('\x08', 1)
    | 't' | '\t' => some ('\t', 1) | 'n' => some ('\n', 1) | 'v' => some ('\x0b', 1)
    | 'f' => some ('\x0c', 1) | 'r' => some ('\r', 1) | 'e' => some ('\x1b', 1)
    | ' ' => some (' ', 1) | '"' => some ('"', 1) | '/' => some ('/', 1)
    | '\\' => some ('\\', 1) | 'N' => some ('\u0085', 1) | '_' => some ('\u00a0', 1)
    | 'L' => some ('\u2028', 1) | 'P' => some ('\u2029', 1)
    | 'x' => (codePoint? 2 rest).map (·, 3)
    | 'u' => (codePoint? 4 rest).map (·, 5)
    | 'U' => (codePoint? 8 rest).map (·, 9)
    | _ => none

/-- Reads on inside quotes. -/
def quotedRest (quote : Char) : (fuel : Nat) → Cursor → Fold → Option (String × Cursor)
  | 0, _, _ => none
  | fuel + 1, c, f =>
    if c.atDocumentMark then none
    else match c.rest with
      | [] => none
      | d :: rest =>
        if d = quote then
          if quote = '\'' && rest.head? = some '\'' then
            quotedRest quote fuel (c.skip 2) (f.append ['\''])
          else some (f.flush.text, c.skip 1)
        else if quote = '"' && d = '\\' then
          if rest.head?.any isBreak then
            quotedRest quote fuel (c.skip 1).readBreak.2 { f.flush with broken := true }
          else match escape? rest with
            | some (e, n) => quotedRest quote fuel (c.skip (n + 1)) (f.append [e])
            | none => none
        else if isBlank d then quotedRest quote fuel (c.skip 1) (f.blank d)
        else if isBreak d then
          let (s, c) := c.readBreak
          quotedRest quote fuel c (f.lineBreak s)
        else quotedRest quote fuel (c.skip 1) (f.append [d])

/-- A quoted scalar, from its first quote on. -/
def quotedScalar (quote : Char) (c : Cursor) : Option (String × Cursor) :=
  quotedRest quote (c.rest.length + 1) (c.skip 1) {}

/-! ## Blocks -/

/-- What to do with the line breaks at the end of a block. -/
inductive Chomp where
  | strip | clip | keep
  deriving DecidableEq

/-- The signs after a block's mark: chomping and indentation, in either order. -/
def blockSigns (c : Cursor) : Option (Chomp × Option Nat × Cursor) :=
  let sign? (d : Char) : Option Chomp :=
    if d = '+' then some .keep else if d = '-' then some .strip else none
  let digit? (d : Char) : Option Nat :=
    if '0' ≤ d ∧ d ≤ '9' then some (d.toNat - '0'.toNat) else none
  let indent (n : Nat) (chomp : Chomp) (c : Cursor) : Option (Chomp × Option Nat × Cursor) :=
    if n = 0 then none else some (chomp, some n, c)
  match c.rest with
  | d :: rest =>
    match sign? d, digit? d with
    | some chomp, _ =>
      match rest.head?.bind digit? with
      | some n => indent n chomp (c.skip 2)
      | none => some (chomp, none, c.skip 1)
    | none, some n =>
      match rest.head?.bind sign? with
      | some chomp => indent n chomp (c.skip 2)
      | none => indent n .clip (c.skip 1)
    | none, none => some (.clip, none, c)
  | [] => some (.clip, none, c)

/-- The empty lines before a line of a block, and the widest of their
indentations. Without an indentation that is known, `limit` is `none`. -/
def blockBreaks (limit : Option Nat) :
    (fuel : Nat) → (widest : Nat) → Cursor → String → Option (Nat × Cursor × String)
  | 0, widest, c, out => some (widest, c, out)
  | fuel + 1, widest, c, out =>
    let spaces := c.rest.takeWhile (· = ' ')
    let c := c.skip <| match limit with
      | none => spaces.length
      | some n => min spaces.length (n - c.column)
    let widest := max widest c.column
    match c.rest with
    | '\t' :: _ =>
      if limit.all (c.column < ·) then none else some (widest, c, out)
    | d :: _ =>
      if isBreak d then
        let (s, c) := c.readBreak
        blockBreaks limit fuel widest c (out ++ s)
      else some (widest, c, out)
    | [] => some (widest, c, out)

/-- The lines of a block whose indentation is known. `pending` is the break after
the last line and `empty` are those of the empty lines after it. -/
def blockLines (folded : Bool) (chomp : Chomp) (indent : Nat) :
    (fuel : Nat) → Cursor → (text pending empty : String) → (wasBlank : Bool) →
      Option (String × Cursor)
  | 0, c, text, _, _, _ => some (text, c)
  | fuel + 1, c, text, pending, empty, wasBlank =>
    if c.column = indent && c.rest ≠ [] then do
      let blank := c.rest.head?.any isBlank
      let joined :=
        if folded && pending = "\n" && !wasBlank && !blank then (if empty = "" then " " else "")
        else pending
      let line := c.rest.takeWhile fun d => !isBreak d
      let (s, c) := (c.skip line.length).readBreak
      let (_, c, empty') ← blockBreaks (some indent) (c.rest.length + 1) 0 c ""
      blockLines folded chomp indent fuel c (text ++ joined ++ empty ++ String.ofList line) s empty'
        blank
    else
      some (text ++ (if chomp = .strip then "" else pending)
        ++ (if chomp = .keep then empty else ""), c)

/-- A block scalar, from its mark on; `parent` is the indentation of the
collection around it. -/
def blockScalar (folded : Bool) (parent : Option Nat) (c : Cursor) :
    Option (String × Cursor) := do
  let (chomp, given, c) ← blockSigns (c.skip 1)
  let c := c.skipWhile isBlank
  let c := if c.rest.head? = some '#' then c.skipWhile fun d => !isBreak d else c
  if c.rest ≠ [] && !(c.rest.head?.any isBreak) then none
  else
    let c := c.readBreak.2
    let limit := given.map (· + parent.getD 0)
    let (widest, c, empty) ← blockBreaks limit (c.rest.length + 1) 0 c ""
    let indent := limit.getD (max widest (max (parent.elim 0 (· + 1)) 1))
    blockLines folded chomp indent (c.rest.length + 1) c "" "" empty false

end DeviceRpc.Yaml
