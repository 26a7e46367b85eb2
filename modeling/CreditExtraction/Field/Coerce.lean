import CreditExtraction.Field.Value
import CreditExtraction.Text.Quoted
import CreditExtraction.Text.FloatText
import CreditExtraction.Text.Search

/-!
# Reading a field's raw text as a typed value

`coerce` turns the text found for a field into a value of the field's type. Surrounding blanks
are dropped first.

* A **number** may carry a currency code (`EUR`, `USD`, `GBP`, `CHF`, in either case), currency
  signs, blanks and apostrophes, all of which are removed, and a trailing `,-`. Where a comma is
  the decimal mark, a text with a comma loses its dots and its first comma becomes the point;
  a text without one whose dots only group thousands (`250.000`, `1.250.000`) loses them. Where
  the point is the decimal mark, commas are dropped. What is left must be digits with an
  optional sign and fraction.
* A **date** is read as `2006-01-02`, `02.01.2006`, `2.1.2006`, `02/01/2006` or `2/1/2006`,
  the first layout that fits.
* A **yes/no** value is one of a few words in English or German, or a ticked box.
* Anything else is kept as text.
-/

namespace CreditExtraction

open Text

/-- The currency codes removed from a number, in the order they are removed. -/
def currencyCodes : List String := ["EUR", "USD", "GBP", "CHF"]

/-- Is `c` an ASCII digit? -/
def isDigitChar (c : Char) : Bool := '0' ≤ c && c ≤ '9'

/-- Drops an optional leading sign. -/
def dropSign : List Char → List Char
  | '+' :: rest | '-' :: rest => rest
  | cs => cs

/-- Digits with an optional sign and an optional fraction of at least one digit. -/
def isPlainDecimal (cs : List Char) : Bool :=
  let body := dropSign cs
  let whole := body.takeWhile isDigitChar
  match body.dropWhile isDigitChar with
  | [] => !whole.isEmpty
  | '.' :: frac => !whole.isEmpty && !frac.isEmpty && frac.all isDigitChar
  | _ => false

/-- Groups `.ddd`, at least one of them, and nothing else. -/
def isThousandGroups : List Char → Bool
  | ['.', a, b, c] => isDigitChar a && isDigitChar b && isDigitChar c
  | '.' :: a :: b :: c :: rest => isDigitChar a && isDigitChar b && isDigitChar c && isThousandGroups rest
  | _ => false

/-- One to three digits with an optional sign, then thousands groups only (`1.250.000`). -/
def isGroupedThousands (cs : List Char) : Bool :=
  let body := dropSign cs
  let lead := body.takeWhile isDigitChar
  0 < lead.length && lead.length ≤ 3 && isThousandGroups (body.dropWhile isDigitChar)

/-- Replaces the first occurrence of `a` by `b`. -/
def replaceFirst (a b : Char) : List Char → List Char
  | [] => []
  | c :: rest => if c == a then b :: rest else c :: replaceFirst a b rest

/-- `cs` without the currency code `code`, spelled in capitals or in small letters. -/
def eraseCurrencyCode (cs : List Char) (code : String) : List Char :=
  eraseAll (code.map Char.toLower).toList (eraseAll code.toList cs)

/-- `cs` without a trailing `,-`. -/
def dropDashSuffix (cs : List Char) : List Char :=
  if cs.length ≥ 2 && cs.drop (cs.length - 2) == [',', '-'] then cs.take (cs.length - 2) else cs

/-- The number text once currency marks, blanks, apostrophes and a trailing `,-` are gone. -/
def stripNumberMarks (s : String) : List Char :=
  let cs := currencyCodes.foldl eraseCurrencyCode s.toList
  dropDashSuffix <| cs.filter fun c =>
    !(CharClass.isSpace c || CharClass.isCurrencySymbol c || c == '\'')

/-- Settles the decimal mark: see the module comment. -/
def settleDecimalMark (decimalComma : Bool) (cs : List Char) : List Char :=
  if decimalComma then
    if cs.contains ',' then replaceFirst ',' '.' (cs.filter (· != '.'))
    else if cs.count '.' > 1 || isGroupedThousands cs then cs.filter (· != '.')
    else cs
  else cs.filter (· != ',')

/-- Reads a number (see the module comment); the message quotes the text as given. -/
def parseNumber (s : String) (decimalComma : Bool) : Except String Float :=
  let cs := settleDecimalMark decimalComma (stripNumberMarks s)
  if isPlainDecimal cs then parseFloat64 (String.ofList cs)
  else .error (Quoted.quote s ++ " is not a number")

/-- The layouts a date may be written in, tried in order. -/
def dateLayouts : List String := ["2006-01-02", "02.01.2006", "2.1.2006", "02/01/2006", "2/1/2006"]

/-- The first layout that reads `s`. -/
def parseDate (s : String) : Option Time.Instant :=
  dateLayouts.findSome? fun layout => (Time.parseLayout layout s).toOption

/-- The yes/no meaning of a word, case ignored. -/
def parseYesNo (s : String) : Option Bool :=
  match CharClass.lowerString s with
  | "true" | "yes" | "ja" | "x" | "[x]" | "1" => some true
  | "false" | "no" | "nein" | "[ ]" | "0" => some false
  | _ => none

/-- Reads raw field text as a value of the given type (see the module comment). -/
def coerce (raw : String) (type : FieldType) (decimalComma : Bool) : Except String FieldValue :=
  let s := CharClass.trimSpace raw
  match type with
  | .number => FieldValue.number <$> parseNumber s decimalComma
  | .date =>
    match parseDate s with
    | some d => .ok (.date d)
    | none => .error (Quoted.quote raw ++ " is not a date")
  | .boolean =>
    match parseYesNo s with
    | some b => .ok (.boolean b)
    | none => .error (Quoted.quote raw ++ " is not a yes/no value")
  | .string => .ok (.text s)

end CreditExtraction
