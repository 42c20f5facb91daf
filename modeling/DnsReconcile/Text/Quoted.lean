import DnsReconcile.Text.Digits
import DnsReconcile.Text.Unseen

/-!
Quoted text.

`quoted` is the form that record texts use: between double quotes, with a
backslash before every double quote and every backslash that belongs to the
text. `shownQuoted` is for readers: it also spells out the characters that
would not be seen.
-/

namespace DnsReconcile.Text

def escaped : List Char → List Char
  | [] => []
  | c :: rest => if c = '"' ∨ c = '\\' then '\\' :: c :: escaped rest else c :: escaped rest

/-- The quoted form of a text. -/
def quoted (s : String) : String :=
  String.ofList ('"' :: escaped s.toList ++ ['"'])

/-- A character as a reader is shown it between double quotes. -/
def shownChar (c : Char) : List Char :=
  if c = '"' ∨ c = '\\' then ['\\', c]
  else if c = '\n' then ['\\', 'n']
  else if c = '\r' then ['\\', 'r']
  else if c = '\t' then ['\\', 't']
  else if c.toNat = 0 then ['\\', '0']
  else if isUnseen c then
    '\\' :: 'u' :: '\x7b' :: hexadecimal c.toNat ++ ['\x7d']
  else [c]

def shownQuoted (s : String) : String :=
  String.ofList ('"' :: s.toList.flatMap shownChar ++ ['"'])

end DnsReconcile.Text
