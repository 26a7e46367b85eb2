import CreditExtraction.Time.Instant
import CreditExtraction.Text.Quoted

/-!
# Durations as text

A duration is written as a signed sequence of decimal numbers, each with a unit, such as
`300ms`, `-1.5h` or `2h45m`; the units are `ns`, `us` (or `µs`, `μs`), `ms`, `s`, `m` and
`h`. A lone `0` is zero. The total must fit in 63 bits of nanoseconds.

The canonical text (`durationText`) uses hours, minutes and seconds with a decimal fraction
(`1h30m0s`, `1.5s`), and below a second the largest unit that keeps an integer part
(`250ms`, `1.2µs`, `7ns`); zero is `0s`.
-/

namespace CreditExtraction.Time

/-- Nanoseconds in each unit name. -/
def unitNanos : String → Option Nat
  | "ns" => some 1
  | "us" => some 1000
  | "µs" => some 1000
  | "μs" => some 1000
  | "ms" => some 1000000
  | "s" => some 1000000000
  | "m" => some 60000000000
  | "h" => some 3600000000000
  | _ => none

/-- The largest magnitude plus one: 2^63. -/
def durationLimit : Nat := Nat.pow 2 63

/-- Is the character a digit or a period? -/
def isNumberChar (c : Char) : Bool := c == '.' || ('0' ≤ c && c ≤ '9')

/-- Reads a duration's text (see the module comment). -/
def parseDuration (orig : String) : Except String Duration := Id.run do
  let invalid : Except String Duration := .error ("time: invalid duration " ++ Text.Quoted.quote orig)
  let cs := orig.toList
  let (neg, cs) := match cs with
    | '-' :: rest => (true, rest)
    | '+' :: rest => (false, rest)
    | cs => (false, cs)
  if cs == ['0'] then return .ok 0
  if cs.isEmpty then return invalid
  let mut rest := cs
  let mut total : Nat := 0
  for _ in [0:cs.length + 1] do
    if rest.isEmpty then break
    if !isNumberChar rest.head! then return invalid
    -- integer part
    let intDigits := rest.takeWhile Char.isDigit
    rest := rest.drop intDigits.length
    let v := intDigits.foldl (fun acc c => acc * 10 + (c.toNat - 48)) 0
    if v > durationLimit then return invalid
    -- fraction
    let mut f : Nat := 0
    let mut scale : Nat := 1
    let mut post := false
    if rest.head? == some '.' then
      rest := rest.drop 1
      let fracDigits := rest.takeWhile Char.isDigit
      rest := rest.drop fracDigits.length
      post := !fracDigits.isEmpty
      let mut overflow := false
      for c in fracDigits do
        if overflow then continue
        if f > (durationLimit - 1) / 10 then
          overflow := true
          continue
        let y := f * 10 + (c.toNat - 48)
        if y > durationLimit then
          overflow := true
          continue
        f := y
        scale := scale * 10
    if intDigits.isEmpty && !post then return invalid
    -- unit
    let unitChars := rest.takeWhile fun c => !isNumberChar c
    if unitChars.isEmpty then
      return .error ("time: missing unit in duration " ++ Text.Quoted.quote orig)
    rest := rest.drop unitChars.length
    let u := String.ofList unitChars
    let some unit := unitNanos u
      | return .error ("time: unknown unit " ++ Text.Quoted.quote u ++ " in duration " ++ Text.Quoted.quote orig)
    if v > durationLimit / unit then return invalid
    let mut w := v * unit
    if f > 0 then
      w := w + (f.toFloat * (unit.toFloat / scale.toFloat)).toUInt64.toNat
      if w > durationLimit then return invalid
    total := total + w
    if total > durationLimit then return invalid
  if neg then return .ok (-(total : Int))
  if total > durationLimit - 1 then return invalid
  return .ok total

/-- The fraction of `v / 10^prec` as `.ddd` without trailing zeros (nothing when zero), and the
integer part. -/
def fracText (v prec : Nat) : String × Nat :=
  let frac := v % Nat.pow 10 prec
  let digits := (Nat.toDigits 10 frac)
  let padded := List.replicate (prec - digits.length) '0' ++ digits
  let trimmed := (padded.reverse.dropWhile (· == '0')).reverse
  (if frac == 0 then "" else "." ++ String.ofList trimmed, v / Nat.pow 10 prec)

/-- The canonical text of a duration (see the module comment). -/
def durationText (d : Duration) : String :=
  let u := d.natAbs
  let sign := if d < 0 then "-" else ""
  if u == 0 then "0s"
  else if u < 1000000000 then
    let (unit, prec) := if u < 1000 then ("ns", 0) else if u < 1000000 then ("µs", 3) else ("ms", 6)
    let (frac, whole) := fracText u prec
    sign ++ toString whole ++ frac ++ unit
  else
    let (frac, secs) := fracText u 9
    let s := toString (secs % 60) ++ frac ++ "s"
    let mins := secs / 60
    if mins == 0 then sign ++ s
    else
      let m := toString (mins % 60) ++ "m" ++ s
      let hours := mins / 60
      if hours == 0 then sign ++ m else sign ++ toString hours ++ "h" ++ m

end CreditExtraction.Time
