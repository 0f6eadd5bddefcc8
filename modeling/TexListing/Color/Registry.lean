import TexListing.Color.Nearest

/-!
# The colours of one listing

The colours that a listing has used so far, in the order of their first use, each under a name of
its own.

* `claimsOf`, `addClaim`: how many colours took a palette name, which is counted as they come.
* `Registry.nameFor`: the name of a colour, which is given on first sight and then kept.
* `Registry.definitions`: the lines that define the names.
-/

namespace TexListing

/-- A colour in use, and the name that it goes by. -/
structure Entry where
  color : Rgb
  name : String
deriving DecidableEq, Repr, Inhabited

/-- The line that defines the colour of an entry. -/
def Entry.definition (e : Entry) : String :=
  "\\definecolor\x7b" ++ e.name ++ "\x7d\x7bRGB\x7d\x7b" ++ e.color.triplet ++ "\x7d\n"

/-- The number of colours that took a palette name. -/
def claimsOf (base : String) (claims : List (String × Nat)) : Nat :=
  (claims.lookup base).getD 0

/-- One more colour takes a palette name. -/
def addClaim (base : String) : List (String × Nat) → List (String × Nat)
  | [] => [(base, 1)]
  | (other, n) :: rest =>
    if base = other then (other, n + 1) :: rest else (other, n) :: addClaim base rest

theorem claimsOf_cons (base other : String) (n : Nat) (claims : List (String × Nat)) :
    claimsOf base ((other, n) :: claims) = if base = other then n else claimsOf base claims := by
  by_cases h : base = other
  · simp [claimsOf, h]
  · have hne : (base == other) = false := by simpa using h
    simp [claimsOf, List.lookup_cons, h, hne]

theorem claimsOf_addClaim (base other : String) (claims : List (String × Nat)) :
    claimsOf other (addClaim base claims) =
      claimsOf other claims + if other = base then 1 else 0 := by
  induction claims with
  | nil => rw [addClaim, claimsOf_cons]; simp [claimsOf]
  | cons claim rest ih =>
    obtain ⟨name, n⟩ := claim
    rw [addClaim, claimsOf_cons other name n]
    by_cases hb : base = name
    · rw [if_pos hb, claimsOf_cons]
      by_cases ho : other = name <;> simp [hb, ho]
    · rw [if_neg hb, claimsOf_cons]
      by_cases ho : other = name
      · simp [ho, Ne.symm hb]
      · simp only [ho, if_false]; exact ih

/-- A palette name for the first colour that takes it, and with an ordinal after it for others. -/
def ordinalName (base : String) (ordinal : Nat) : String :=
  if ordinal = 1 then base else base ++ toString ordinal

/-- The colours in use, the earliest first, and how many of them took each palette name. -/
structure Registry where
  entries : List Entry
  claims : List (String × Nat)
deriving DecidableEq, Repr, Inhabited

namespace Registry

/-- No colour is in use. -/
def empty : Registry := ⟨[], []⟩

/-- How many colours are in use. -/
def size (reg : Registry) : Nat :=
  reg.entries.length

/-- The name of a colour that is in use. -/
def get? (reg : Registry) (color : Rgb) : Option String :=
  (reg.entries.find? (·.color == color)).map Entry.name

/-- The name of a colour, with the registry in which it is in use. A new colour takes its palette
name, and the number of colours that have taken it by then is the ordinal. -/
def nameFor (reg : Registry) (color : Rgb) : String × Registry :=
  match reg.get? color with
  | some name => (name, reg)
  | none =>
    let base := colorName color
    let claims := addClaim base reg.claims
    let name := ordinalName base (claimsOf base claims)
    (name, ⟨reg.entries ++ [⟨color, name⟩], claims⟩)

/-- The lines that define the colours, in the order of their first use. -/
def definitions (reg : Registry) : String :=
  String.join (reg.entries.map Entry.definition)

end Registry

end TexListing
