import DeviceRpc.Text.Shown

/-!
# Quoted text

How a message shows a text it was given: between double quotes, with a backslash
before a quote and before a backslash, and with the characters spelled out that
would not show.
-/

namespace DeviceRpc.Text

/-- A character by its code point, in lower-case hexadecimal. -/
def spelled (c : Char) : List Char :=
  ['\\', 'u', '\x7b'] ++ Nat.toDigits 16 c.toNat ++ ['\x7d']

/-- One character as quoted text shows it. -/
def quotedChar (c : Char) : List Char :=
  match c with
  | '"' => ['\\', '"']
  | '\\' => ['\\', '\\']
  | '\t' => ['\\', 't']
  | '\n' => ['\\', 'n']
  | '\r' => ['\\', 'r']
  | '\x00' => ['\\', '0']
  | c => if isShown c then [c] else spelled c

/-- A text between double quotes. -/
def quoted (s : String) : String :=
  String.ofList ('"' :: s.toList.flatMap quotedChar ++ ['"'])

end DeviceRpc.Text
