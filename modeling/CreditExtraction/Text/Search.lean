/-!
# Finding text inside text

Searching for a piece of text in a longer one, on lists of characters: where it first occurs,
where it last occurs, and whether it occurs at all. An empty piece occurs at the start.
Taking every occurrence of a piece out of a text (`eraseAll`) searches from the left, as
replacing by nothing does.
-/

namespace CreditExtraction.Text

/-- The first position at which `needle` occurs in `hay`. -/
def findFrom (needle : List Char) : List Char → Nat → Option Nat
  | [], i => if needle.isEmpty then some i else none
  | c :: rest, i => if needle.isPrefixOf (c :: rest) then some i else findFrom needle rest (i + 1)

/-- The first position at which `needle` occurs in `hay`. -/
def indexOf? (hay needle : List Char) : Option Nat := findFrom needle hay 0

/-- Does `needle` occur in `hay`? -/
def occursIn (hay needle : List Char) : Bool := (indexOf? hay needle).isSome

/-- Does the text `needle` occur in the text `hay`? -/
def containsText (hay needle : String) : Bool := occursIn hay.toList needle.toList

/-- The last position at which a character satisfying `p` stands. -/
def lastIndexWhere (p : Char → Bool) (cs : List Char) : Option Nat :=
  (cs.zipIdx.filter fun (c, _) => p c).getLast?.map (·.2)

/-- The first position at which a character satisfying `p` stands. -/
def firstIndexWhere (p : Char → Bool) (cs : List Char) : Option Nat :=
  (cs.zipIdx.find? fun (c, _) => p c).map (·.2)

/-- `cs` with every occurrence of `pat` taken out, found from the left: an occurrence is taken
out whole and the search goes on after it. An empty piece takes nothing out. -/
def eraseAll (pat : List Char) (cs : List Char) : List Char :=
  match cs with
  | [] => []
  | c :: rest =>
    if h : pat ≠ [] ∧ pat <+: c :: rest then eraseAll pat ((c :: rest).drop pat.length)
    else c :: eraseAll pat rest
termination_by cs.length
decreasing_by
  · have := List.length_pos_iff.mpr h.1
    simp only [List.length_drop, List.length_cons]
    omega
  · simp

/-- The part of `cs` from position `i` to before position `j`. -/
def slice (cs : List Char) (i j : Nat) : List Char := (cs.drop i).take (j - i)

end CreditExtraction.Text
