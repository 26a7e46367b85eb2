import CreditExtraction.Text.UnicodeData

/-!
# Character classes and case maps of Unicode

The classes and simple case mappings that the extraction rules use, on characters and strings:

* `isSpace` — the White_Space property;
* `isControl` — the C0 and C1 control characters;
* `isCurrencySymbol` — the general category Sc;
* `isPrint` — letters, marks, numbers, punctuation, symbols and the ASCII space;
* `toLower`, `toUpper` — simple (one-to-one) case mappings; a character without one maps to itself;
* `equalFold` — equality up to simple case folding.

The categories and mappings come from the tables of `UnicodeData`; the two classes a number's
text is cleaned of, `isSpace` and `isCurrencySymbol`, are written out as ranges.
-/

namespace CreditExtraction.Text.CharClass

open UnicodeData

/-- Is `n` in one of the closed ranges? -/
def inRanges (n : Nat) : List (Nat × Nat) → Bool
  | [] => false
  | (lo, hi) :: rest => (lo ≤ n && n ≤ hi) || inRanges n rest

/-- The White_Space property. -/
def isSpace (c : Char) : Bool :=
  inRanges c.toNat [(0x09, 0x0D), (0x20, 0x20), (0x85, 0x85), (0xA0, 0xA0), (0x1680, 0x1680),
    (0x2000, 0x200A), (0x2028, 0x2029), (0x202F, 0x202F), (0x205F, 0x205F), (0x3000, 0x3000)]

/-- The C0 and C1 control characters. -/
def isControl (c : Char) : Bool :=
  c.toNat < 0x20 || (0x7F ≤ c.toNat && c.toNat < 0xA0)

/-- General category Sc, currency symbols: the ranges of the category table. -/
def isCurrencySymbol (c : Char) : Bool :=
  inRanges c.toNat [(0x24, 0x24), (0xA2, 0xA5), (0x58F, 0x58F), (0x60B, 0x60B), (0x7FE, 0x7FF),
    (0x9F2, 0x9F3), (0x9FB, 0x9FB), (0xAF1, 0xAF1), (0xBF9, 0xBF9), (0xE3F, 0xE3F),
    (0x17DB, 0x17DB), (0x20A0, 0x20C0), (0xA838, 0xA838), (0xFDFC, 0xFDFC), (0xFE69, 0xFE69),
    (0xFF04, 0xFF04), (0xFFE0, 0xFFE1), (0xFFE5, 0xFFE6), (0x11FDD, 0x11FE0), (0x1E2FF, 0x1E2FF),
    (0x1ECB0, 0x1ECB0)]

/-- Letters, marks, numbers, punctuation, symbols and the ASCII space. -/
def isPrint (c : Char) : Bool :=
  c == ' ' || ["L", "M", "N", "P", "S"].contains (String.ofList ((generalCategory c.toNat).toList.take 1))

/-- The simple lower-case mapping. -/
def toLower (c : Char) : Char :=
  if c.toNat < 0x80 then c.toLower else Char.ofNat (lowerCode c.toNat)

/-- The simple upper-case mapping. -/
def toUpper (c : Char) : Char :=
  if c.toNat < 0x80 then c.toUpper else Char.ofNat (upperCode c.toNat)

/-- Lower-cases every character. -/
def lowerString (s : String) : String := s.map toLower

/-- Upper-cases every character. -/
def upperString (s : String) : String := s.map toUpper

/-- Are two characters equal up to simple case folding: is one in the orbit of the other? -/
def foldEq (a b : Char) : Bool := (orbit a.toNat).contains b.toNat

/-- Are two strings equal up to simple case folding, character by character? -/
def equalFold (s t : String) : Bool :=
  s.length == t.length && (s.toList.zip t.toList).all fun (a, b) => foldEq a b

/-- Removes leading and trailing White_Space characters. -/
def trimSpace (s : String) : String :=
  String.ofList (((s.toList.dropWhile isSpace).reverse.dropWhile isSpace).reverse)

/-- The words of `s`: maximal runs of characters that are not White_Space. -/
def fields (s : String) : List String :=
  (s.toList.splitBy fun a b => isSpace a == isSpace b).filterMap fun run =>
    match run with
    | c :: _ => if isSpace c then none else some (String.ofList run)
    | [] => none

end CreditExtraction.Text.CharClass
