import ScriptBundle.Text.Property

/-! # Quoted text in messages

A message that shows a text from outside puts it between double quotes and writes every character that
would not be seen, or not be seen as itself, as an escape.
-/

namespace ScriptBundle

namespace Quoted

def hexDigits (n : Nat) : List Char := Nat.toDigits 16 n

def codePoint (c : Char) : List Char := ['\\', 'u', '\x7b'] ++ hexDigits c.toNat ++ ['\x7d']

/-- How a character is written. Marks that attach to the character before them are escaped, since after
an escape or a quote they would change its look. -/
def escape (c : Char) : List Char :=
  if c = '\x00' then ['\\', '0']
  else if c = '\t' then ['\\', 't']
  else if c = '\r' then ['\\', 'r']
  else if c = '\n' then ['\\', 'n']
  else if c = '"' then ['\\', '"']
  else if c = '\\' then ['\\', '\\']
  else if 0x20 ≤ c.toNat && c.toNat < 0x7F then [c]
  else if Property.graphemeExtend.contains c then codePoint c
  else if Property.printable.contains c then [c]
  else codePoint c

end Quoted

def quoted (s : String) : String :=
  String.ofList (['"'] ++ s.toList.flatMap Quoted.escape ++ ['"'])

end ScriptBundle
