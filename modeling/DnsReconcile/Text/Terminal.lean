import DnsReconcile.Text.Digits

/-!
Text for a terminal.

A log may repeat text that came from elsewhere, such as the name of a zone. The
characters by which such text could make a terminal ring, erase or obey are
spelled out. Line breaks and tabs stay as they are.
-/

namespace DnsReconcile.Text

/-- Whether a terminal acts on a character: the bell, the backspace, the form
feed, the escape character, the delete character and the second block of
controls. -/
def isTerminalControl (c : Char) : Bool :=
  c.toNat = 0x07 || c.toNat = 0x08 || c.toNat = 0x0C || c.toNat = 0x1B ||
    (0x7F ≤ c.toNat && c.toNat ≤ 0x9F)

/-- At least two hexadecimal digits. -/
def hexadecimalPair (n : Nat) : List Char :=
  if n < 16 then '0' :: hexadecimal n else hexadecimal n

def terminalChar (c : Char) : List Char :=
  if !isTerminalControl c then [c]
  else if c.toNat < 0x80 then '\\' :: 'x' :: hexadecimalPair c.toNat
  else '\\' :: 'u' :: '\x7b' :: hexadecimal c.toNat ++ ['\x7d']

def terminalText (s : String) : String := String.ofList (s.toList.flatMap terminalChar)

end DnsReconcile.Text
