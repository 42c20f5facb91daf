import DnsReconcile.Text.Digits

/-!
Percent encoding: a byte of the UTF-8 form of a text, written as a percent sign
and two hexadecimal digits.
-/

namespace DnsReconcile.Http

open Text

def capitalHexDigit (n : Nat) : Char :=
  if n < 10 then Char.ofNat (48 + n) else Char.ofNat (55 + n)

def percentEncoded (b : UInt8) : List Char :=
  ['%', capitalHexDigit (b.toNat / 16), capitalHexDigit (b.toNat % 16)]

/-- A character, encoded if it is outside printable ASCII or among `special`. -/
def encodedChar (special : List Char) (c : Char) : List Char :=
  if c.toNat < 32 || 126 < c.toNat || special.contains c then
    (String.singleton c).toUTF8.toList.flatMap percentEncoded
  else [c]

/-- The bytes of a text with its encoded bytes decoded. A percent sign without
two digits behind it stands for itself. -/
def percentDecoded : List Char → List UInt8
  | '%' :: high :: low :: rest =>
    match hexValue? high, hexValue? low with
    | some h, some l => UInt8.ofNat (16 * h + l) :: percentDecoded rest
    | _, _ => '%'.toNat.toUInt8 :: percentDecoded (high :: low :: rest)
  | c :: rest => (String.singleton c).toUTF8.toList ++ percentDecoded rest
  | [] => []

end DnsReconcile.Http
