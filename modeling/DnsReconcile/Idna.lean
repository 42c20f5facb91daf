import DnsReconcile.Idna.CodePoints
import DnsReconcile.Idna.Joining
import DnsReconcile.Idna.Punycode
import DnsReconcile.Idna.Replacement
import DnsReconcile.Name

/-!
International host names.

A name of any characters becomes one of ASCII: characters are replaced by
simpler equivalents, the text is composed, and each label that is still not of
ASCII is written in Punycode behind `xn--`. A label that comes with that mark
must be what some other label is written as. A text that is no name becomes
nothing.
-/

namespace DnsReconcile.Idna

open Text

/-- What stands for a character in a name: nothing at all if no name holds it. -/
def replaced? (c : Char) : Option (List Char) :=
  if c.toNat < 128 then some [c.toLower]
  else if inRanges ignored c then some []
  else match replacement? c with
    | some cs => some cs
    | none => if inRanges disallowed c then none else some [c]

/-- A name with simpler equivalents for its characters, composed. -/
def normalized? (cs : List Char) : Option (List Char) :=
  (cs.mapM replaced?).map (fun parts => composed parts.flatten)

def isForbidden (c : Char) : Bool :=
  c.toNat ≤ 32 || c.toNat == 127 ||
    ['%', '#', '/', ':', '<', '>', '?', '@', '[', '\\', ']', '^', '|'].contains c

/-- A label of a name: its characters, and the form of it in ASCII. -/
structure HostLabel where
  characters : List Char
  ascii : List Char

/-- The mark of a label that is written in Punycode. -/
def codedMark : List Char := ['x', 'n', '-', '-']

/-- The most characters that a label may have to be written in Punycode. -/
def longestPlain : Nat := 1000

/-- The most characters behind the mark of a label that is read as Punycode. -/
def longestCoded : Nat := 2000

/-- Whether a label needs no change to its characters and is well joined. -/
def isSettled (label : List Char) : Bool :=
  normalized? label == some label && isWellJoined label

namespace HostLabel

def ofCoded? (cs : List Char) : Option HostLabel := do
  let coded := cs.drop codedMark.length
  if longestCoded < coded.length || cs.getLast? == some '-' then none
  else
    let characters ← Punycode.decode? coded
    if isSettled characters then some ⟨characters, cs⟩ else none

def ofChars? (cs : List Char) : Option HostLabel :=
  if codedMark.isPrefixOf cs then ofCoded? cs
  else if cs.all Punycode.isPlain then some ⟨cs, cs⟩
  else if isWellJoined cs && cs.length ≤ longestPlain then
    some ⟨cs, codedMark ++ Punycode.encode cs⟩
  else none

end HostLabel

def toAscii? (cs : List Char) : Option (List Char) := do
  let normal ← normalized? cs
  if normal.any isForbidden then none
  else
    let labels ← (splitDots normal).mapM HostLabel.ofChars?
    if directionsAgree (labels.map (·.characters)) then
      some (List.intercalate ['.'] (labels.map (·.ascii)))
    else none

end DnsReconcile.Idna
