import DnsReconcile.Text.Ascii

/-!
Domain names in canonical form: small ASCII letters and one final dot, so that
two spellings of a name that mean the same are the same text.

`fqdn` brings any text into that form and changes nothing on a text that
already has it (`fqdn_fqdn`); `Name` is the type of the texts it leaves alone.
`Name.qualify` reads a name relative to a zone, and `Name.isWithin` tells
whether a name lies in a zone.
-/

namespace DnsReconcile

open Text

/-- The canonical form on characters: trimmed, without its final dots, in
small letters, and closed by one dot. Of the empty text only the dot is left,
which is the root. -/
def canonicalChars (cs : List Char) : List Char :=
  match dropEndWhile (· == '.') (trim cs) with
  | [] => ['.']
  | body => body.map Char.toLower ++ ['.']

/-- The canonical absolute form of a name. -/
def fqdn (s : String) : String :=
  String.ofList (canonicalChars s.toList)

/-- What stands before the final dot of a name in canonical form: small letters,
no white space in front and no dot behind. The body of the root is empty. -/
structure IsNameBody (body : List Char) : Prop where
  low : body.map Char.toLower = body
  start : body.dropWhile isBlank = body
  dots : dropEndWhile (· == '.') body = body

theorem isNameBody_nil : IsNameBody [] := ⟨rfl, rfl, rfl⟩

/-- The canonical form is a body closed by one dot. -/
theorem exists_nameBody (cs : List Char) :
    ∃ body, IsNameBody body ∧ canonicalChars cs = body ++ ['.'] := by
  cases hbody : dropEndWhile (· == '.') (trim cs) with
  | nil => exact ⟨[], isNameBody_nil, by simp [canonicalChars, hbody]⟩
  | cons c rest =>
    refine ⟨(c :: rest).map Char.toLower, ⟨map_toLower_map_toLower _, ?_, ?_⟩,
      by simp [canonicalChars, hbody]⟩
    · rw [List.dropWhile_map]
      have hcomp : isBlank ∘ Char.toLower = isBlank := funext isBlank_toLower
      rw [hcomp]
      have hpre := dropEndWhile_isPrefix (· == '.') (trim cs)
      rw [hbody] at hpre
      obtain ⟨tail, htail⟩ := hpre
      have hc : isBlank c = false := by
        have h := List.head?_dropWhile_not isBlank (trim cs)
        rw [dropWhile_isBlank_trim, ← htail] at h
        simpa using h
      simp [hc]
    · rw [dropEndWhile_map Char.toLower toLower_eq_dot, ← hbody, dropEndWhile_dropEndWhile]

/-- A body closed by one dot is left as it is. -/
theorem canonicalChars_closed {body : List Char} (h : IsNameBody body) :
    canonicalChars (body ++ ['.']) = body ++ ['.'] := by
  cases body with
  | nil => rfl
  | cons c rest =>
    have hstart : isBlank c = false := by
      have hc := List.head?_dropWhile_not isBlank (c :: rest)
      rw [h.start] at hc
      exact hc
    have htrim : trim (c :: rest ++ ['.']) = c :: rest ++ ['.'] := by
      apply trim_eq_self
      · simp [hstart]
      · exact dropEndWhile_concat_of_neg rfl (c :: rest)
    unfold canonicalChars
    rw [htrim, dropEndWhile_concat_of_pos rfl, h.dots]
    simp only [h.low]

theorem canonicalChars_canonicalChars (cs : List Char) :
    canonicalChars (canonicalChars cs) = canonicalChars cs := by
  obtain ⟨body, hbody, hcs⟩ := exists_nameBody cs
  rw [hcs, canonicalChars_closed hbody]

theorem fqdn_fqdn (s : String) : fqdn (fqdn s) = fqdn s := by
  simp [fqdn, canonicalChars_canonicalChars]

/-- A domain name in canonical form. -/
structure Name where
  text : String
  canonical : fqdn text = text
  deriving DecidableEq

namespace Name

def ofString (s : String) : Name := ⟨fqdn s, fqdn_fqdn s⟩

def root : Name := ofString ""

instance : Inhabited Name := ⟨root⟩

/-- Names are ordered as their texts are, by code point. -/
instance : Ord Name := ⟨compareOn text⟩

instance : Std.TransOrd Name :=
  inferInstanceAs (Std.TransCmp (compareOn text))

theorem ext_text {a b : Name} (h : a.text = b.text) : a = b := by
  cases a; cases b; cases h; rfl

instance : Std.LawfulEqOrd Name where
  eq_of_compare {a b} h :=
    ext_text (Std.LawfulEqCmp.eq_of_compare (show compare a.text b.text = .eq from h))

@[simp] theorem ofString_text (n : Name) : ofString n.text = n :=
  ext_text n.canonical

theorem ofString_eq_iff {s t : String} : ofString s = ofString t ↔ fqdn s = fqdn t :=
  ⟨congrArg text, fun h => ext_text h⟩

/-- The name that a text spells inside a zone. The empty text and `@` are the
zone itself, a text with a final dot is absolute, and any other text is
relative to the zone. -/
def qualify (name zone : String) : Name :=
  let own := trim name.toList
  if own = [] ∨ own = ['@'] then ofString zone
  else if own.getLast? = some '.' then ofString name
  else if ofString zone = root then ofString name
  else ofString (String.ofList (own ++ ['.']) ++ (ofString zone).text)

/-- Whether a name is the zone's own or lies below it. -/
def isWithin (name zone : Name) : Bool :=
  zone == root || name == zone || ('.' :: zone.text.toList).isSuffixOf name.text.toList

end Name

def splitDots : List Char → List (List Char)
  | [] => [[]]
  | c :: rest =>
    if c = '.' then [] :: splitDots rest
    else match splitDots rest with
      | [] => [[c]]
      | part :: parts => (c :: part) :: parts

/-- The text without one final dot, for readers that leave that dot out. -/
def withoutFinalDot (s : String) : String :=
  match s.toList.reverse with
  | '.' :: rest => String.ofList rest.reverse
  | _ => s

end DnsReconcile
