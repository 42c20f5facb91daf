import DnsReconcile.Address.IPv6
import DnsReconcile.Http.Percent
import DnsReconcile.Idna

/-!
Hosts: how a URL tells the server.

An IPv6 address stands in square brackets. Anything else is a name, which may
be percent-encoded and is brought to ASCII. A name whose last label is a number
must be an IPv4 address: one to four numbers, decimal, octal behind `0` or
hexadecimal behind `0x`, the last of which fills all octets that are left.
-/

namespace DnsReconcile.Http

open Text

inductive Host where
  | name (ascii : String)
  | v4 (address : IPv4)
  | v6 (address : IPv6)
  deriving DecidableEq

def numberInBase? (base : Nat) (ds : List Char) : Option Nat :=
  ds.foldlM (fun n c => do
    let d ← hexValue? c
    if d < base then some (base * n + d) else none) 0

def ipv4Number? : List Char → Option Nat
  | [] => none
  | '0' :: 'x' :: ds => numberInBase? 16 ds
  | '0' :: d :: ds => numberInBase? 8 (d :: ds)
  | ds => numberInBase? 10 ds

/-- The parts of a name between its dots, without an empty one at the end. -/
def hostParts (cs : List Char) : List (List Char) :=
  let parts := splitDots cs
  if 1 < parts.length ∧ parts.getLast? = some [] then parts.dropLast else parts

def endsInNumber (cs : List Char) : Bool :=
  match (hostParts cs).getLast? with
  | some last => last != [] && (last.all Char.isDigit || (ipv4Number? last).isSome)
  | none => false

/-- The IPv4 address of a number below `2 ^ 32`. -/
def ipv4OfNumber (n : Nat) : IPv4 :=
  ⟨UInt8.ofNat (n / Nat.pow 256 3), UInt8.ofNat (n / Nat.pow 256 2), UInt8.ofNat (n / 256),
    UInt8.ofNat n⟩

def ipv4OfNumbers? (ns : List Nat) : Option IPv4 :=
  match ns.reverse with
  | [] => none
  | last :: others =>
    let others := others.reverse
    let room := Nat.pow 256 (4 - others.length)
    if 3 < others.length ∨ others.any (255 < ·) ∨ room ≤ last then none
    else
      let high := others.foldl (fun n octet => 256 * n + octet) 0
      some (ipv4OfNumber (high * room + last))

namespace Host

def ofAscii? (cs : List Char) : Option Host :=
  if cs.isEmpty then none
  else if endsInNumber cs then do
    let ns ← (hostParts cs).mapM ipv4Number?
    let address ← ipv4OfNumbers? ns
    return .v4 address
  else some (.name (String.ofList cs))

def ofChars? (cs : List Char) : Option Host :=
  match cs with
  | '[' :: rest => do
    if rest.getLast? == some ']' then
      let address ← IPv6.ofString? (String.ofList rest.dropLast)
      return .v6 address
    else none
  | _ => do
    let name ← String.fromUTF8? ⟨(percentDecoded cs).toArray⟩
    let ascii ← Idna.toAscii? name.toList
    ofAscii? ascii

/-- The groups of an IPv6 address, with no dotted part. -/
def groupChars (a : IPv6) : List Char :=
  let start := IPv6.longestZeroRun a.groups
  let run := IPv6.zeroRun a.groups start
  if 1 < run then
    IPv6.colonSeparated (a.groups.take start) ++
      ':' :: ':' :: IPv6.colonSeparated (a.groups.drop (start + run))
  else IPv6.colonSeparated a.groups

def text : Host → String
  | name ascii => ascii
  | v4 address => address.text
  | v6 address => String.ofList ('[' :: groupChars address ++ [']'])

end Host

end DnsReconcile.Http
