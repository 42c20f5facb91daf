import DnsReconcile.Text.Digits

/-!
IPv4 addresses and their text: four decimal numbers below 256 without leading
zeros, with dots between them.
-/

namespace DnsReconcile

structure IPv4 where
  first : UInt8
  second : UInt8
  third : UInt8
  fourth : UInt8
  deriving DecidableEq, Inhabited

namespace IPv4

open Text

def octets (a : IPv4) : List Nat :=
  [a.first.toNat, a.second.toNat, a.third.toNat, a.fourth.toNat]

def chars (a : IPv4) : List Char :=
  decimal a.first.toNat ++ '.' :: decimal a.second.toNat ++ '.' :: decimal a.third.toNat ++
    '.' :: decimal a.fourth.toNat

def text (a : IPv4) : String := String.ofList a.chars

/-- Reads one octet at the front of a text: its whole run of digits, which has
at most three and no leading zero. -/
def readOctet (cs : List Char) : Option (UInt8 × List Char) :=
  let ds := cs.takeWhile Char.isDigit
  let n := ofDigits ds
  if ds = [] ∨ 3 < ds.length ∨ 255 < n ∨ (ds.head? = some '0' ∧ 1 < ds.length) then none
  else some (UInt8.ofNat n, cs.dropWhile Char.isDigit)

def readDottedOctet : List Char → Option (UInt8 × List Char)
  | '.' :: rest => readOctet rest
  | _ => none

def read (cs : List Char) : Option (IPv4 × List Char) := do
  let (a, cs) ← readOctet cs
  let (b, cs) ← readDottedOctet cs
  let (c, cs) ← readDottedOctet cs
  let (d, cs) ← readDottedOctet cs
  return (⟨a, b, c, d⟩, cs)

def ofString? (s : String) : Option IPv4 :=
  match read s.toList with
  | some (a, []) => some a
  | _ => none

end IPv4

end DnsReconcile
