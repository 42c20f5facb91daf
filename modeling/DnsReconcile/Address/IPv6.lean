import DnsReconcile.Address.IPv4

/-!
IPv6 addresses and their text.

Reading takes groups of one to four hexadecimal digits in either case, one
double colon for one or more groups of zero, and a dotted IPv4 address in place
of the last two groups. Writing uses small letters, compresses the first of the
longest runs of two or more zero groups, and keeps the dotted form for
addresses mapped from IPv4.
-/

namespace DnsReconcile

structure IPv6 where
  groups : List UInt16
  size_eq : groups.length = 8
  deriving DecidableEq

namespace IPv6

open Text

def ofGroups? (gs : List UInt16) : Option IPv6 :=
  if h : gs.length = 8 then some ⟨gs, h⟩ else none

def colonSeparated : List UInt16 → List Char
  | [] => []
  | [g] => hexadecimal g.toNat
  | g :: rest => hexadecimal g.toNat ++ ':' :: colonSeparated rest

def zeroRun (gs : List UInt16) (start : Nat) : Nat :=
  ((gs.drop start).takeWhile (· == 0)).length

/-- Where the first of the longest runs of zero groups starts. -/
def longestZeroRun (gs : List UInt16) : Nat :=
  (List.range gs.length).foldl
    (fun best i => if zeroRun gs best < zeroRun gs i then i else best) 0

def embeddedIPv4 (high low : UInt16) : IPv4 :=
  ⟨(high >>> 8).toUInt8, high.toUInt8, (low >>> 8).toUInt8, low.toUInt8⟩

def groupsOfIPv4 (a : IPv4) : List UInt16 :=
  [a.first.toUInt16 <<< 8 ||| a.second.toUInt16, a.third.toUInt16 <<< 8 ||| a.fourth.toUInt16]

def charsOfGroups (gs : List UInt16) : List Char :=
  match gs with
  | [0, 0, 0, 0, 0, 0xffff, high, low] =>
    [':', ':', 'f', 'f', 'f', 'f', ':'] ++ (embeddedIPv4 high low).chars
  | _ =>
    let start := longestZeroRun gs
    let run := zeroRun gs start
    if 1 < run then
      colonSeparated (gs.take start) ++ ':' :: ':' :: colonSeparated (gs.drop (start + run))
    else colonSeparated gs

def chars (a : IPv6) : List Char := charsOfGroups a.groups

def text (a : IPv6) : String := String.ofList a.chars

/-- Reads one group: its whole run of hexadecimal digits, at most four. -/
def readGroup (cs : List Char) : Option (UInt16 × List Char) :=
  let ds := cs.takeWhile isHexDigit
  if ds = [] ∨ 4 < ds.length then none
  else some (UInt16.ofNat (ofHexDigits ds), cs.dropWhile isHexDigit)

/-- What follows the colon before a group; the first group has none. -/
def afterSeparator (isFirst : Bool) (cs : List Char) : Option (List Char) :=
  if isFirst then some cs
  else match cs with
    | ':' :: rest => some rest
    | _ => none

/-- Reads at most `limit` groups. The flag tells whether the last two came from
a dotted IPv4 address, which ends the groups; the rest starts where no further
group could be read. -/
def readGroups : Nat → Bool → List Char → List UInt16 × Bool × List Char
  | 0, _, cs => ([], false, cs)
  | limit + 1, isFirst, cs =>
    match afterSeparator isFirst cs with
    | none => ([], false, cs)
    | some body =>
      match if limit = 0 then none else IPv4.read body with
      | some (a, rest) => (groupsOfIPv4 a, true, rest)
      | none =>
        match readGroup body with
        | none => ([], false, cs)
        | some (g, rest) =>
          let (gs, dotted, rest) := readGroups limit false rest
          (g :: gs, dotted, rest)

def readAddress (cs : List Char) : Option (List UInt16) :=
  let (head, dotted, rest) := readGroups 8 true cs
  if head.length = 8 then if rest = [] then some head else none
  else if dotted then none
  else match rest with
    | ':' :: ':' :: rest =>
      let (tail, _, rest) := readGroups (7 - head.length) true rest
      if rest = [] then
        some (head ++ List.replicate (8 - head.length - tail.length) 0 ++ tail)
      else none
    | _ => none

def ofString? (s : String) : Option IPv6 :=
  (readAddress s.toList).bind ofGroups?

end IPv6

end DnsReconcile
