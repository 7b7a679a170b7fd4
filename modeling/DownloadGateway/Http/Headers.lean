import DownloadGateway.Text.Utf8
/-!
# Header fields

A list of fields with lower-case names. A name may occur more than once;
`get?` is its first value. What a field may hold is fixed by two predicates on
bytes: `isLegalValue` for anything that can be sent, `isVisible` for what can be
read as text.
-/

namespace DownloadGateway.Http

/-- Header fields in the order in which they were added, names in lower case. -/
abbrev Headers := List (String × Bytes)

namespace Headers

/-- The first value of a name. -/
def get? (hs : Headers) (name : String) : Option Bytes :=
  (hs.find? (·.1 = name)).map (·.2)

/-- Adds a value after those the name has. -/
def append (hs : Headers) (name : String) (value : Bytes) : Headers := hs ++ [(name, value)]

/-- Gives a name one value in place of all it has. -/
def insert (hs : Headers) (name : String) (value : Bytes) : Headers :=
  hs.filter (·.1 ≠ name) ++ [(name, value)]

/-- All values of a name, in order. -/
def values (hs : Headers) (name : String) : List Bytes :=
  (hs.filter (·.1 = name)).map (·.2)

@[simp] theorem values_append (hs : Headers) (name other : String) (value : Bytes) :
    (hs.append name value).values other = hs.values other ++ if name = other then [value] else [] := by
  by_cases h : name = other <;> simp [values, append, h]

@[simp] theorem values_insert (hs : Headers) (name other : String) (value : Bytes) :
    (hs.insert name value).values other = if name = other then [value] else hs.values other := by
  by_cases h : name = other
  · subst h
    simp [values, insert, List.filter_filter]
  · have : hs.filter (fun p => decide (p.1 = other) && !decide (p.1 = name))
        = hs.filter (fun p => decide (p.1 = other)) := by
      refine List.filter_congr fun p _ => ?_
      by_cases e : p.1 = other
      · simp [e, Ne.symm h]
      · simp [e]
    simp [values, insert, List.filter_filter, h, this]

end Headers

/-- Whether a byte string can be sent as a field value: no control byte but tab. -/
def isLegalValue (value : Bytes) : Bool :=
  value.all fun b => (b.toNat ≥ 0x20 && b.toNat != 0x7F) || b.toNat == 0x09

/-- Whether a field value is plain text: tab and printable ASCII. -/
def isVisible (value : Bytes) : Bool :=
  value.all fun b => (b.toNat ≥ 0x20 && b.toNat < 0x7F) || b.toNat == 0x09

/-- Whether a character may occur in a method or a field name. -/
def isTokenChar (c : Char) : Bool := c.isAlphanum || "!#$%&'*+-.^_\x60|~".toList.contains c

/-- Whether a text is a token, as a method is. -/
def isToken (s : String) : Bool := s.toList ≠ [] && s.toList.all isTokenChar

/-- The longest field name. -/
def maxName : Nat := 65535

/-- Whether a text is a field name. -/
def isName (s : String) : Bool := isToken s && s.length ≤ maxName

end DownloadGateway.Http
