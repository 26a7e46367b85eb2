import CreditExtraction.Text.Utf8
import CreditExtraction.Text.CharClass

/-!
# Double-quoted text literals

Error messages show user text as a double-quoted literal: a quote and a backslash are escaped,
printable characters stand as they are, the usual control characters take their one-letter
escapes (`\n`, `\t`, …), other bytes below the space and DEL take `\xHH`, other unprintable
characters take `\uHHHH` or `\UHHHHHHHH`, and a byte that is not well-formed UTF-8 takes `\xHH`.
-/

namespace CreditExtraction.Text.Quoted

open CharClass

/-- The lower-case hexadecimal digit of `n < 16`. -/
def hexDigit (n : Nat) : Char :=
  if n < 10 then Char.ofNat (48 + n) else Char.ofNat (87 + n)

/-- `n` as exactly `width` lower-case hexadecimal digits. -/
def hexFixed (width n : Nat) : List Char :=
  (List.range width).reverse.map fun i => hexDigit (n / Nat.pow 16 i % 16)

/-- The escape of one character inside a literal delimited by `quote`. -/
def escapeChar (quote : Char) (c : Char) : List Char :=
  if c = quote ∨ c = '\\' then ['\\', c]
  else if isPrint c then [c]
  else match c with
    | '\x07' => ['\\', 'a']
    | '\x08' => ['\\', 'b']
    | '\x0c' => ['\\', 'f']
    | '\n' => ['\\', 'n']
    | '\r' => ['\\', 'r']
    | '\t' => ['\\', 't']
    | '\x0b' => ['\\', 'v']
    | _ =>
      if c.toNat < 0x20 ∨ c.toNat = 0x7F then '\\' :: 'x' :: hexFixed 2 c.toNat
      else if c.toNat < 0x10000 then '\\' :: 'u' :: hexFixed 4 c.toNat
      else '\\' :: 'U' :: hexFixed 8 c.toNat

/-- The double-quoted literal of a byte list. -/
def quoteBytes (bs : List UInt8) : String :=
  String.ofList ('"' :: ((Utf8.units bs).flatMap fun
    | .rune c => escapeChar '"' c
    | .bad b => '\\' :: 'x' :: hexFixed 2 b.toNat) ++ ['"'])

/-- The double-quoted literal of a text. -/
def quote (s : String) : String :=
  String.ofList ('"' :: (s.toList.flatMap (escapeChar '"')) ++ ['"'])

/-- The single-quoted literal of one character, as in `'x'`. -/
def quoteRune (c : Char) : String :=
  String.ofList ('\'' :: escapeChar '\'' c ++ ['\''])

end CreditExtraction.Text.Quoted
