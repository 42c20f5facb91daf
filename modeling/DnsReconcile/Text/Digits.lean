/-!
Numbers in text: the digits of a natural number and the reading of a run of
digits, in the bases ten and sixteen.
-/

namespace DnsReconcile.Text

/-- The decimal digits of a number, without leading zeros. -/
def decimal (n : Nat) : List Char := Nat.toDigits 10 n

/-- The hexadecimal digits of a number, in small letters, without leading
zeros. -/
def hexadecimal (n : Nat) : List Char := Nat.toDigits 16 n

/-- The value of a decimal digit, else zero. -/
def digitValue (c : Char) : Nat := c.toNat - '0'.toNat

/-- The number that a list of decimal digits writes, whatever its leading
zeros. -/
def ofDigits (ds : List Char) : Nat := ds.foldl (fun n c => 10 * n + digitValue c) 0

def hexValue? (c : Char) : Option Nat :=
  let n := c.toNat
  if 48 ≤ n ∧ n ≤ 57 then some (n - 48)
  else if 97 ≤ n ∧ n ≤ 102 then some (n - 87)
  else if 65 ≤ n ∧ n ≤ 70 then some (n - 55)
  else none

def isHexDigit (c : Char) : Bool := (hexValue? c).isSome

def ofHexDigits (ds : List Char) : Nat :=
  ds.foldl (fun n c => 16 * n + (hexValue? c).getD 0) 0

/-- Reads a whole text as a natural number: one or more decimal digits, after
an optional plus sign. -/
def unsigned? (cs : List Char) : Option Nat :=
  let ds := match cs with
    | '+' :: rest => rest
    | _ => cs
  if ds ≠ [] ∧ ds.all Char.isDigit then some (ofDigits ds) else none

end DnsReconcile.Text
