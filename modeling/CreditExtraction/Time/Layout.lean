import CreditExtraction.Time.Instant

/-!
# Reading dates and times by a layout

A layout spells a reference time, `2006-01-02T15:04:05`, in the form the text is expected in.
The elements understood here are `2006` (four-digit year), `01`/`1` (month with or without
a leading zero), `02`/`2` (day), `15` (hour), `04` (minute), `05` (second) and `.000000`
(exactly that many fraction digits); everything else must appear literally. A two-digit element
without leading zero (`1`, `2`) takes one or two digits.

Failures name the reading (`parsing time "<text>"`) and then either the element that could
not be read (`as "<layout>": cannot parse "<rest>" as "<element>"`), a field out of range
(`: month out of range`, `: day out of range`, …) or trailing text (`: extra text: "<rest>"`).
Non-ASCII and control bytes in quoted text are written as `\xHH`.
-/

namespace CreditExtraction.Time

/-- The elements of a layout. -/
inductive LayoutElem where
  | lit (s : String)
  | longYear
  | zeroMonth
  | numMonth
  | zeroDay
  | numDay
  | hour
  | zeroMinute
  | zeroSecond
  | fraction (digits : Nat)
deriving Repr, DecidableEq

/-- The layout text of an element. -/
def LayoutElem.text : LayoutElem → String
  | .lit s => s
  | .longYear => "2006"
  | .zeroMonth => "01"
  | .numMonth => "1"
  | .zeroDay => "02"
  | .numDay => "2"
  | .hour => "15"
  | .zeroMinute => "04"
  | .zeroSecond => "05"
  | .fraction n => "." ++ String.ofList (List.replicate n '0')

/-- Splits a layout into elements; literal runs are kept whole. -/
def splitLayout : Nat → List Char → List LayoutElem
  | 0, _ => []
  | _, [] => []
  | fuel + 1, cs =>
    let lit (c : Char) (rest : List Char) : List LayoutElem :=
      match splitLayout fuel rest with
      | .lit s :: more => .lit (String.ofList [c] ++ s) :: more
      | more => .lit (String.ofList [c]) :: more
    match cs with
    | '2' :: '0' :: '0' :: '6' :: r => .longYear :: splitLayout fuel r
    | '0' :: '1' :: r => .zeroMonth :: splitLayout fuel r
    | '0' :: '2' :: r => .zeroDay :: splitLayout fuel r
    | '0' :: '4' :: r => .zeroMinute :: splitLayout fuel r
    | '0' :: '5' :: r => .zeroSecond :: splitLayout fuel r
    | '1' :: '5' :: r => .hour :: splitLayout fuel r
    | '1' :: r => .numMonth :: splitLayout fuel r
    | '2' :: r => .numDay :: splitLayout fuel r
    | '.' :: '0' :: r =>
      let zs := r.takeWhile (· == '0')
      let after := r.dropWhile (· == '0')
      match after with
      | d :: _ => if d.isDigit then lit '.' ('0' :: r) else .fraction (zs.length + 1) :: splitLayout fuel after
      | [] => .fraction (zs.length + 1) :: splitLayout fuel after
    | c :: r => lit c r
    | [] => []

/-- Quotes text for a time message: printable ASCII stands, a quote and a backslash are
backslashed, every other byte is `\xHH`. -/
def quoteTime (s : String) : String :=
  let hex (n : Nat) : List Char :=
    let d (k : Nat) : Char := if k < 10 then Char.ofNat (48 + k) else Char.ofNat (87 + k)
    ['\\', 'x', d (n / 16), d (n % 16)]
  let body := s.toList.flatMap fun c =>
    if c.toNat ≥ 0x80 || c.toNat < 0x20 then
      (String.ofList [c]).toUTF8.toList.flatMap fun b => hex b.toNat
    else if c == '"' || c == '\\' then ['\\', c]
    else [c]
  String.ofList ('"' :: body ++ ['"'])

/-- Why a text does not match a layout. -/
inductive LayoutError where
  /-- The element `elem` could not be read from `rest`. -/
  | cannotParse (rest elem : String)
  /-- A field is out of its range. -/
  | outOfRange (field : String)
  /-- Text is left after the layout ended. -/
  | extraText (rest : String)
deriving Repr, DecidableEq

/-- The message of a failed reading of `value` by `layout`. -/
def LayoutError.message (e : LayoutError) (layout value : String) : String :=
  match e with
  | .cannotParse rest elem =>
    "parsing time " ++ quoteTime value ++ " as " ++ quoteTime layout ++ ": cannot parse " ++
      quoteTime rest ++ " as " ++ quoteTime elem
  | .outOfRange field => "parsing time " ++ quoteTime value ++ ": " ++ field ++ " out of range"
  | .extraText rest => "parsing time " ++ quoteTime value ++ ": extra text: " ++ quoteTime rest

/-- Reads one or two digits; `fixed` demands two. -/
def getNum (cs : List Char) (fixed : Bool) : Option (Nat × List Char) :=
  match cs with
  | a :: b :: r =>
    if !a.isDigit then none
    else if b.isDigit then some ((a.toNat - 48) * 10 + (b.toNat - 48), r)
    else if fixed then none
    else some (a.toNat - 48, b :: r)
  | [a] => if a.isDigit && !fixed then some (a.toNat - 48, []) else none
  | [] => none

/-- The fields gathered while reading. -/
structure Fields where
  year : Int := 1
  month : Nat := 1
  day : Nat := 1
  hour : Nat := 0
  minute : Nat := 0
  second : Nat := 0
  nano : Nat := 0

/-- Matches literal text at the front of the value. -/
def skipLiteral : List Char → List Char → Option (List Char)
  | [], v => some v
  | p :: ps, v :: vs => if p == v then skipLiteral ps vs else none
  | _ :: _, [] => none

/-- Reads `value` by the layout elements. -/
def readElems (elems : List LayoutElem) (value : List Char) (f : Fields) :
    Except LayoutError Fields :=
  match elems with
  | [] => if value.isEmpty then .ok f else .error (.extraText (String.ofList value))
  | e :: rest =>
    let bad : Except LayoutError Fields := .error (.cannotParse (String.ofList value) e.text)
    match e with
    | .lit s =>
      match skipLiteral s.toList value with
      | some v => readElems rest v f
      | none => bad
    | .longYear =>
      match value with
      | a :: b :: c :: d :: r =>
        if [a, b, c, d].all Char.isDigit then
          readElems rest r { f with year := (String.ofList [a, b, c, d]).toNat! }
        else bad
      | _ => bad
    | .zeroMonth | .numMonth =>
      match getNum value (e == .zeroMonth) with
      | some (m, r) =>
        if m == 0 || m > 12 then .error (.outOfRange "month")
        else readElems rest r { f with month := m }
      | none => bad
    | .zeroDay | .numDay =>
      match getNum value (e == .zeroDay) with
      | some (d, r) => readElems rest r { f with day := d }
      | none => bad
    | .hour =>
      match getNum value false with
      | some (h, r) => if h ≥ 24 then .error (.outOfRange "hour") else readElems rest r { f with hour := h }
      | none => bad
    | .zeroMinute =>
      match getNum value true with
      | some (m, r) => if m ≥ 60 then .error (.outOfRange "minute") else readElems rest r { f with minute := m }
      | none => bad
    | .zeroSecond =>
      match getNum value true with
      | some (s, r) => if s ≥ 60 then .error (.outOfRange "second") else readElems rest r { f with second := s }
      | none => bad
    | .fraction n =>
      match value with
      | c :: r =>
        if (c == '.' || c == ',') && r.length ≥ n && (r.take n).all Char.isDigit then
          let digits := r.take n
          let ns := (String.ofList digits).toNat! * Nat.pow 10 (9 - min 9 n)
          readElems rest (r.drop n) { f with nano := ns }
        else bad
      | [] => bad

/-- Reads `value` as a UTC instant by `layout`. -/
def parseLayout (layout value : String) : Except String Instant :=
  let elems := splitLayout (layout.length + 1) layout.toList
  match readElems elems value.toList {} with
  | .error e => .error (e.message layout value)
  | .ok f =>
    if f.day < 1 || f.day > daysIn f.month f.year then
      .error (LayoutError.message (.outOfRange "day") layout value)
    else
      .ok (Civil.toInstant ⟨f.year, f.month, f.day, f.hour, f.minute, f.second, f.nano⟩)

end CreditExtraction.Time
