/-!
# Unicode character data

The character data of Unicode 15.0.0 that classes of patterns and case mappings rest on:

* the general category of every code point (`Lu`, `Nd`, `Zs`, …; `Cn` where none is assigned);
* the script of every code point (`Latin`, `Greek`, `Common`, …; `Unknown` where none is);
* the simple (one-to-one) mappings to lower and to upper case;
* the case-folding orbits that the two mappings do not describe.

Each table is a run-length encoding of a function on code points: a list of runs, each the
first code point it covers and the value it gives, sorted by first code point, the first run
starting at 0. A code point takes the value of the last run that starts at or before it, which
`lookup` finds by binary search. The tables are kept as text and decoded on first use: one
comma-separated entry per run, its distance from the start of the run before it in lowercase
hexadecimal followed by its value, and `*n` for the last two runs repeated `n` more times, as
in the long stretches where upper- and lower-case letters alternate.

Case mappings are stored as offsets: a code point `c` in a run with offset `d` maps to `c + d`,
and `+0` marks code points that map to themselves.

Two code points are equivalent under simple case folding when they fold to the same code point;
`simpleFold` steps through the equivalence class of a code point (its orbit) in increasing
order, wrapping around. For most code points the orbit is the code point and its other-case
form, which the case mappings give; `orbitTable` lists the next member for the others (such as
`k`, `K` and the Kelvin sign) and for the code points whose case mappings leave their orbit
(such as `İ`, which folds to nothing else).
-/

namespace CreditExtraction.Text.UnicodeData

/-- The last code point. -/
def maxCode : Nat := 0x10FFFF

/-- Is `c` a lowercase hexadecimal digit? -/
def isHexDigit (c : Char) : Bool := c.isDigit || ('a' ≤ c && c ≤ 'f')

/-- The value of a lowercase hexadecimal digit. -/
def hexDigitValue (c : Char) : Nat := if c.isDigit then c.toNat - 48 else c.toNat - 87

/-- The number a list of lowercase hexadecimal digits spells. -/
def hexNumber (ds : List Char) : Nat := ds.foldl (fun n d => 16 * n + hexDigitValue d) 0

/-- An entry split into the number its leading hexadecimal digits spell and the text after
them. -/
def splitEntry (e : String) : Nat × List Char :=
  (hexNumber (e.toList.takeWhile isHexDigit), e.toList.dropWhile isHexDigit)

/-- The runs of a table, latest first, after one more entry: a run, written as its distance from
the start of the run before it followed by its value, or `*n`, the last two runs repeated `n`
more times at the same distances. -/
def readEntry (runs : List (Nat × List Char)) (e : String) : List (Nat × List Char) :=
  match e.toList, runs with
  | '*' :: ds, b :: a :: _ => (List.replicate (hexNumber ds) [b, a]).flatten ++ runs
  | _, _ => splitEntry e :: runs

/-- Decodes a table of comma-separated entries (`readEntry`), reading the value of each run with
`value`. -/
def decodeRuns (value : List Char → α) (text : String) : Array (Nat × α) :=
  let runs := ((text.splitOn ",").foldl readEntry []).reverse
  (runs.foldl (fun (acc : Array (Nat × α) × Nat) (d, r) => (acc.1.push (acc.2 + d, value r), acc.2 + d))
    (#[], 0)).1

/-- A signed offset `+h` or `-h`, with `h` in hexadecimal. -/
def readOffset : List Char → Int
  | '-' :: ds => -(hexNumber ds : Int)
  | '+' :: ds => hexNumber ds
  | ds => hexNumber ds

/-- One step of the search for the last run starting at or before `n` in `runs[lo, hi)`:
halves the interval, keeping the half whose first run still starts at or before `n`. Runs
`fuel` steps at most; `fuel = log₂ (hi - lo) + 1` steps always reach an interval of one run. -/
def searchRuns (runs : Array (Nat × α)) (n : Nat) : Nat → Nat → Nat → Nat
  | 0, lo, _ => lo
  | fuel + 1, lo, hi =>
    if lo + 1 < hi then
      let mid := lo + (hi - lo) / 2
      let startsAtOrBefore := match runs[mid]? with
        | some r => decide (r.1 ≤ n)
        | none => false
      if startsAtOrBefore then searchRuns runs n fuel mid hi else searchRuns runs n fuel lo mid
    else lo

/-- The value a run-length table gives `n`: that of the last run starting at or before `n`. -/
def lookup [Inhabited α] (runs : Array (Nat × α)) (n : Nat) : α :=
  (runs[searchRuns runs n (Nat.log2 runs.size + 1) 0 runs.size]?.map (·.2)).getD default

/-- The code points whose value satisfies `p`, as sorted, disjoint closed ranges. -/
def rangesWhere (runs : Array (Nat × α)) (p : α → Bool) : List (Nat × Nat) :=
  let ends := (runs.toList.drop 1).map (·.1 - 1) ++ [maxCode]
  let picked := (runs.toList.zip ends).filterMap fun ((lo, v), hi) =>
    if p v then some (lo, hi) else none
  -- adjacent runs of values that both satisfy `p` form one range
  picked.foldr (fun (lo, hi) acc => match acc with
    | (lo', hi') :: rest => if hi + 1 == lo' then (lo, hi') :: rest else (lo, hi) :: acc
    | [] => [(lo, hi)]) []

/-- The general categories of the code points. -/
def categoryText : String :=
  String.join [
    "0Cc,20Zs,1Po,3Sc,1Po,3Ps,1Pe,1Po,1Sm,1Po,1Pd,1Po,2Nd,aPo,2Sm,3Po,2Lu,1aPs,1Po,1Pe,1Sk,1Pc,1Sk,",
    "1Ll,1aPs,1Sm,1Pe,1Sm,1Cc,21Zs,1Po,1Sc,4So,1Po,1Sk,1So,1Lo,1Pi,1Sm,1Cf,1So,1Sk,1So,1Sm,1No,2Sk,",
    "1Ll,1Po,2Sk,1No,1Lo,1Pf,1No,3Po,1Lu,17Sm,1Lu,7Ll,18Sm,1Ll,8Lu,1Ll,1Lu,*1a,1Ll,2Lu,1Ll,1Lu,*6,",
    "1Ll,2Lu,1Ll,1Lu,*16,2Ll,1Lu,1Ll,*1,3Lu,2Ll,1Lu,1Ll,1Lu,2Ll,1Lu,3Ll,2Lu,4Ll,1Lu,2Ll,1Lu,3Ll,3Lu,",
    "2Ll,1Lu,*1,1Ll,*1,1Lu,2Ll,1Lu,1Ll,2Lu,1Ll,1Lu,2Ll,1Lu,3Ll,1Lu,1Ll,1Lu,2Ll,2Lo,1Lu,1Ll,3Lo,4Lu,",
    "1Lt,1Ll,1Lu,1Lt,1Ll,1Lu,1Lt,1Ll,1Lu,*7,1Ll,2Lu,1Ll,1Lu,*7,1Ll,2Lu,1Lt,1Ll,1Lu,*1,3Ll,1Lu,1Ll,",
    "*1c,7Lu,2Ll,1Lu,2Ll,2Lu,1Ll,1Lu,4Ll,1Lu,1Ll,*3,45Lo,1Ll,1bLm,12Sk,4Lm,cSk,eLm,5Sk,7Lm,1Sk,1Lm,",
    "1Sk,11Mn,70Lu,1Ll,1Lu,1Ll,1Lm,1Sk,1Lu,1Ll,1Cn,2Lm,1Ll,3Po,1Lu,1Cn,4Sk,2Lu,1Po,1Lu,3Cn,1Lu,1Cn,",
    "1Lu,2Ll,1Lu,11Cn,1Lu,9Ll,23Lu,1Ll,2Lu,3Ll,3Lu,1Ll,1Lu,*a,1Ll,5Lu,1Ll,1Sm,1Lu,1Ll,1Lu,2Ll,2Lu,",
    "33Ll,30Lu,1Ll,1Lu,*f,1Ll,1So,1Mn,5Me,2Lu,1Ll,1Lu,*1a,2Ll,1Lu,1Ll,*5,2Lu,1Ll,1Lu,*2e,1Ll,1Cn,1Lu,",
    "26Cn,2Lm,1Po,6Ll,29Po,1Pd,1Cn,2So,2Sc,1Cn,1Mn,2dPd,1Mn,1Po,1Mn,2Po,*1,1Mn,1Cn,8Lo,1bCn,4Lo,4Po,",
    "2Cn,bCf,6Sm,3Po,2Sc,1Po,2So,2Mn,bPo,1Cf,1Po,3Lo,20Lm,1Lo,aMn,15Nd,aPo,4Lo,2Mn,1Lo,63Po,1Lo,1Mn,",
    "7Cf,1So,1Mn,6Lm,2Mn,2So,1Mn,4Lo,2Nd,aLo,3So,2Lo,1Po,eCn,1Cf,1Lo,1Mn,1Lo,1eMn,1bCn,2Lo,59Mn,bLo,",
    "1Cn,eNd,aLo,21Mn,9Lm,2So,1Po,3Lm,1Cn,2Mn,1Sc,2Lo,16Mn,4Lm,1Mn,9Lm,1Mn,3Lm,1Mn,5Cn,2Po,fCn,1Lo,",
    "19Mn,3Cn,2Po,1Cn,1Lo,bCn,5Lo,18Sk,1Lo,6Cn,1Cf,2Cn,6Mn,8Lo,29Lm,1Mn,18Cf,1Mn,20Mc,1Lo,36Mn,1Mc,",
    "1Mn,1Lo,1Mc,3Mn,8Mc,4Mn,1Mc,2Lo,1Mn,7Lo,aMn,2Po,2Nd,aPo,1Lm,1Lo,fMn,1Mc,2Cn,1Lo,8Cn,2Lo,2Cn,2Lo,",
    "16Cn,1Lo,7Cn,1Lo,1Cn,3Lo,4Cn,2Mn,1Lo,1Mc,3Mn,4Cn,2Mc,2Cn,2Mc,2Mn,1Lo,1Cn,8Mc,1Cn,4Lo,2Cn,1Lo,",
    "3Mn,2Cn,2Nd,aLo,2Sc,2No,6So,1Sc,1Lo,1Po,1Mn,1Cn,2Mn,2Mc,1Cn,1Lo,6Cn,4Lo,2Cn,2Lo,16Cn,1Lo,7Cn,",
    "1Lo,2Cn,*2,2Mn,1Cn,1Mc,3Mn,2Cn,4Mn,2Cn,2Mn,3Cn,3Mn,1Cn,7Lo,4Cn,1Lo,1Cn,7Nd,aMn,2Lo,3Mn,1Po,1Cn,",
    "aMn,2Mc,1Cn,1Lo,9Cn,1Lo,3Cn,1Lo,16Cn,1Lo,7Cn,1Lo,2Cn,1Lo,5Cn,2Mn,1Lo,1Mc,3Mn,5Cn,1Mn,2Mc,1Cn,",
    "1Mc,2Mn,1Cn,2Lo,1Cn,fLo,2Mn,2Cn,2Nd,aPo,1Sc,1Cn,7Lo,1Mn,6Cn,1Mn,1Mc,2Cn,1Lo,8Cn,2Lo,2Cn,2Lo,",
    "16Cn,1Lo,7Cn,1Lo,2Cn,1Lo,5Cn,2Mn,1Lo,1Mc,1Mn,*1,4Cn,2Mc,2Cn,2Mc,2Mn,1Cn,7Mn,2Mc,1Cn,4Lo,2Cn,1Lo,",
    "3Mn,2Cn,2Nd,aSo,1Lo,1No,6Cn,aMn,1Lo,1Cn,1Lo,6Cn,3Lo,3Cn,1Lo,4Cn,3Lo,2Cn,1Lo,1Cn,1Lo,2Cn,3Lo,*1,",
    "3Cn,3Lo,cCn,4Mc,2Mn,1Mc,2Cn,3Mc,3Cn,1Mc,3Mn,1Cn,2Lo,1Cn,6Mc,1Cn,eNd,aNo,3So,6Sc,1So,1Cn,5Mn,1Mc,",
    "3Mn,1Lo,8Cn,1Lo,3Cn,1Lo,17Cn,1Lo,10Cn,2Mn,1Lo,1Mn,3Mc,4Cn,1Mn,3Cn,1Mn,4Cn,7Mn,2Cn,1Lo,3Cn,2Lo,",
    "1Cn,2Lo,2Mn,2Cn,2Nd,aCn,7Po,1No,7So,1Lo,1Mn,1Mc,2Po,1Lo,8Cn,1Lo,3Cn,1Lo,17Cn,1Lo,aCn,1Lo,5Cn,",
    "2Mn,1Lo,1Mc,1Mn,1Mc,5Cn,1Mn,1Mc,2Cn,1Mc,2Mn,2Cn,7Mc,2Cn,6Lo,2Cn,1Lo,2Mn,2Cn,2Nd,aCn,1Lo,2Mc,1Cn,",
    "cMn,2Mc,2Lo,9Cn,1Lo,3Cn,1Lo,29Mn,2Lo,1Mc,3Mn,4Cn,1Mc,3Cn,1Mc,3Mn,1Lo,1So,1Cn,4Lo,3Mc,1No,7Lo,",
    "3Mn,2Cn,2Nd,aNo,9So,1Lo,6Cn,1Mn,1Mc,2Cn,1Lo,12Cn,3Lo,18Cn,1Lo,9Cn,1Lo,1Cn,2Lo,7Cn,3Mn,1Cn,4Mc,",
    "3Mn,3Cn,1Mn,1Cn,1Mc,8Cn,6Nd,aCn,2Mc,2Po,1Cn,cLo,30Mn,1Lo,2Mn,7Cn,4Sc,1Lo,6Lm,1Mn,8Po,1Nd,aPo,",
    "2Cn,25Lo,2Cn,1Lo,1Cn,1Lo,5Cn,1Lo,18Cn,1Lo,1Cn,1Lo,aMn,1Lo,2Mn,9Lo,1Cn,2Lo,5Cn,1Lm,1Cn,1Mn,7Cn,",
    "1Nd,aCn,2Lo,4Cn,20Lo,1So,3Po,fSo,1Po,1So,3Mn,2So,6Nd,aNo,aSo,1Mn,1So,*1,1Mn,1Ps,1Pe,*1,1Mc,2Lo,",
    "8Cn,1Lo,24Cn,4Mn,eMc,1Mn,5Po,1Mn,2Lo,5Mn,bCn,1Mn,24Cn,1So,8Mn,1So,6Cn,1So,2Po,5So,4Po,2Cn,25Lo,",
    "2bMc,2Mn,4Mc,1Mn,6Mc,1Mn,2Mc,2Mn,2Lo,1Nd,aPo,6Lo,6Mc,2Mn,2Lo,4Mn,3Lo,1Mc,3Lo,2Mc,7Lo,3Mn,4Lo,",
    "dMn,1Mc,2Mn,2Mc,6Mn,1Lo,1Mc,1Nd,aMc,3Mn,1So,2Lu,26Cn,1Lu,1Cn,5Lu,1Cn,2Ll,2bPo,1Lm,1Ll,3Lo,149Cn,",
    "1Lo,4Cn,2Lo,7Cn,1Lo,1Cn,1Lo,4Cn,2Lo,29Cn,1Lo,4Cn,2Lo,21Cn,1Lo,4Cn,2Lo,7Cn,1Lo,1Cn,1Lo,4Cn,2Lo,",
    "fCn,1Lo,39Cn,1Lo,4Cn,2Lo,43Cn,2Mn,3Po,9No,14Cn,3Lo,10So,aCn,6Lu,56Cn,2Ll,6Cn,2Pd,1Lo,26cSo,1Po,",
    "1Lo,11Zs,1Lo,1aPs,1Pe,1Cn,3Lo,4bPo,3Nl,3Lo,8Cn,7Lo,12Mn,3Mc,1Cn,9Lo,13Mn,2Mc,1Po,2Cn,9Lo,12Mn,",
    "2Cn,cLo,dCn,1Lo,3Cn,1Mn,2Cn,cLo,34Mn,2Mc,1Mn,7Mc,8Mn,1Mc,2Mn,bPo,3Lm,1Po,3Sc,1Lo,1Mn,1Cn,2Nd,",
    "aCn,6No,aCn,6Po,6Pd,1Po,4Mn,3Cf,1Mn,1Nd,aCn,6Lo,23Lm,1Lo,35Cn,7Lo,5Mn,2Lo,22Mn,1Lo,1Cn,5Lo,46Cn,",
    "aLo,1fCn,1Mn,3Mc,4Mn,2Mc,3Cn,4Mc,2Mn,1Mc,6Mn,3Cn,4So,1Cn,3Po,2Nd,aLo,1eCn,2Lo,5Cn,bLo,2cCn,4Lo,",
    "1aCn,6Nd,aNo,1Cn,3So,22Lo,17Mn,2Mc,2Mn,1Cn,2Po,2Lo,35Mc,1Mn,1Mc,1Mn,7Cn,1Mn,1Mc,*1,2Mn,8Mc,6Mn,",
    "aCn,2Mn,1Nd,aCn,6Nd,aCn,6Po,7Lm,1Po,6Cn,2Mn,eMe,1Mn,10Cn,31Mn,4Mc,1Lo,2fMn,1Mc,1Mn,5Mc,1Mn,1Mc,",
    "5Mn,1Mc,2Lo,8Cn,3Nd,aPo,7So,aMn,9So,9Po,2Cn,1Mn,2Mc,1Lo,1eMc,1Mn,4Mc,2Mn,2Mc,1Mn,3Lo,2Nd,aLo,",
    "2cMn,1Mc,1Mn,2Mc,3Mn,1Mc,1Mn,3Mc,2Cn,8Po,4Lo,24Mc,8Mn,8Mc,2Mn,2Cn,3Po,5Nd,aCn,3Lo,3Nd,aLo,1eLm,",
    "6Po,2Ll,9Cn,7Lu,2bCn,2Lu,3Po,8Cn,8Mn,3Po,1Mn,dMc,1Mn,7Lo,4Mn,1Lo,6Mn,1Lo,2Mc,1Mn,2Lo,1Cn,5Ll,",
    "2cLm,3fLl,dLm,1Ll,22Lm,25Mn,40Lu,1Ll,1Lu,*49,1Ll,9Lu,1Ll,1Lu,*2f,1Ll,9Lu,8Ll,6Cn,2Lu,6Cn,2Ll,",
    "8Lu,8Ll,*1,6Cn,2Lu,6Cn,2Ll,8Cn,1Lu,1Cn,*2,1Lu,1Ll,8Lu,8Ll,eCn,2Ll,8Lt,8Ll,*2,5Cn,1Ll,2Lu,4Lt,",
    "1Sk,1Ll,1Sk,3Ll,3Cn,1Ll,2Lu,4Lt,1Sk,3Ll,4Cn,2Ll,2Lu,4Cn,1Sk,3Ll,8Lu,5Sk,3Cn,2Ll,3Cn,1Ll,2Lu,4Lt,",
    "1Sk,2Cn,1Zs,bCf,5Pd,6Po,2Pi,1Pf,1Ps,1Pi,2Pf,1Ps,1Pi,1Po,8Zl,1Zp,1Cf,5Zs,1Po,9Pi,1Pf,1Po,4Pc,2Po,",
    "3Sm,1Ps,1Pe,1Po,bSm,1Po,1Pc,1Po,aZs,1Cf,5Cn,1Cf,aNo,1Lm,1Cn,2No,6Sm,3Ps,1Pe,1Lm,1No,aSm,3Ps,1Pe,",
    "1Cn,1Lm,dCn,3Sc,21Cn,fMn,dMe,4Mn,1Me,3Mn,cCn,fSo,2Lu,1So,4Lu,1So,2Ll,1Lu,3Ll,2Lu,3Ll,1So,1Lu,",
    "1So,2Sm,1Lu,5So,6Lu,1So,1Lu,*2,4So,1Ll,1Lu,4Ll,1Lo,4Ll,1So,2Ll,2Lu,2Sm,5Lu,1Ll,4So,1Sm,1So,2Ll,",
    "1So,1No,10Nl,23Lu,1Ll,1Nl,4No,1So,2Cn,4Sm,5So,5Sm,2So,4Sm,1So,2Sm,*1,1So,7Sm,1So,1fSm,2So,2Sm,",
    "1So,1Sm,1So,1fSm,10cSo,8Ps,1Pe,1Ps,1Pe,1So,14Sm,2So,7Ps,1Pe,1So,51Sm,1So,1eSm,19So,28Sm,6So,",
    "45Cn,19So,bCn,15No,3cSo,4eNo,16So,b7Sm,1So,9Sm,1So,36Sm,8So,6fSm,1So,f8Ps,1Pe,1Ps,*5,1Pe,1No,",
    "1eSo,2cSm,5Ps,1Pe,1Sm,1fPs,1Pe,1Ps,*3,1Pe,1Sm,10So,100Sm,83Ps,1Pe,1Ps,*9,1Pe,1Sm,3fPs,1Pe,1Ps,",
    "1Pe,1Sm,20Ps,1Pe,1Sm,102So,30Sm,15So,2Sm,6So,27Cn,2So,20Cn,1So,69Lu,30Ll,30Lu,1Ll,1Lu,3Ll,2Lu,",
    "1Ll,1Lu,*2,4Ll,1Lu,1Ll,2Lu,1Ll,6Lm,2Lu,3Ll,1Lu,1Ll,*30,2So,6Lu,1Ll,1Lu,1Ll,1Mn,3Lu,1Ll,1Cn,5Po,",
    "4No,1Po,2Ll,26Cn,1Ll,1Cn,5Ll,1Cn,2Lo,38Cn,7Lm,1Po,1Cn,eMn,1Lo,17Cn,9Lo,7Cn,1Lo,*6,7Cn,1Mn,20Po,",
    "2Pi,1Pf,1Pi,1Pf,1Po,3Pi,1Pf,1Po,1Pi,1Pf,1Po,9Pd,1Po,2Pd,1Po,1Pi,1Pf,1Po,2Pi,1Pf,1Ps,1Pe,*3,1Po,",
    "5Lm,1Po,aPd,2Po,4Pd,1Po,1Ps,1Po,dSo,2Po,3Ps,1Pe,1Ps,*2,1Pe,1Pd,1Cn,22So,1aCn,1So,59Cn,cSo,d6Cn,",
    "1aSo,cCn,4Zs,1Po,3So,1Lm,1Lo,1Nl,1Ps,1Pe,*4,1So,2Ps,1Pe,1Ps,*2,1Pe,1Pd,1Ps,1Pe,2So,1Nl,9Mn,4Mc,",
    "2Pd,1Lm,5So,2Nl,3Lm,1Lo,1Po,1So,2Cn,1Lo,56Cn,2Mn,2Sk,2Lm,2Lo,1Pd,1Lo,5aPo,1Lm,3Lo,1Cn,5Lo,2bCn,",
    "1Lo,5eCn,1So,2No,4So,aLo,20So,24Cn,cLo,10So,1fCn,1No,aSo,1eNo,8So,1No,fSo,20No,aSo,27No,fSo,",
    "140Lo,19c0So,40Lo,5215Lm,1Lo,477Cn,3So,37Cn,9Lo,28Lm,6Po,2Lo,10cLm,1Po,3Lo,10Nd,aLo,2Cn,14Lu,",
    "1Ll,1Lu,*15,1Ll,1Lo,1Mn,1Me,3Po,1Mn,aPo,1Lm,1Lu,1Ll,*d,1Lm,2Mn,2Lo,46Nl,aMn,2Po,6Cn,8Sk,17Lm,",
    "9Sk,2Lu,1Ll,1Lu,*5,1Ll,3Lu,1Ll,1Lu,*1d,1Ll,1Lm,1Ll,8Lu,1Ll,1Lu,*1,2Ll,1Lu,1Ll,*3,1Lm,1Sk,2Lu,",
    "1Ll,1Lu,1Ll,1Lo,1Lu,1Ll,*1,3Lu,1Ll,1Lu,*9,5Ll,*1,1Lu,1Ll,*6,1Lu,4Ll,1Lu,1Ll,1Cn,5Lu,1Ll,1Cn,*1,",
    "1Ll,1Lu,*1,1Ll,1Cn,18Lm,3Lu,1Ll,1Lo,1Lm,2Ll,1Lo,7Mn,1Lo,3Mn,1Lo,4Mn,1Lo,17Mc,2Mn,2Mc,1So,4Mn,",
    "1Cn,3No,6So,2Sc,1So,1Cn,6Lo,34Po,4Cn,8Mc,2Lo,32Mc,10Mn,2Cn,8Po,2Nd,aCn,6Mn,12Lo,6Po,3Lo,1Po,1Lo,",
    "2Mn,1Nd,aLo,1cMn,8Po,2Lo,17Mn,bMc,2Cn,bPo,1Lo,1dCn,3Mn,3Mc,1Lo,2fMn,1Mc,2Mn,4Mc,2Mn,2Mc,3Po,dCn,",
    "1Lm,1Nd,aCn,4Po,2Lo,5Mn,1Lm,1Lo,9Nd,aLo,5Cn,1Lo,29Mn,6Mc,2Mn,2Mc,2Mn,2Cn,9Lo,3Mn,1Lo,8Mn,1Mc,",
    "1Cn,2Nd,aCn,2Po,4Lo,10Lm,1Lo,6So,3Lo,1Mc,1Mn,1Mc,1Lo,32Mn,1Lo,1Mn,3Lo,2Mn,2Lo,5Mn,2Lo,1Mn,1Lo,",
    "1Cn,18Lo,2Lm,1Po,2Lo,bMc,1Mn,2Mc,2Po,2Lo,1Lm,2Mc,1Mn,1Cn,aLo,6Cn,2Lo,*1,6Cn,9Lo,7Cn,1Lo,7Cn,1Ll,",
    "2bSk,1Lm,4Ll,9Lm,1Sk,2Cn,4Ll,50Lo,23Mc,2Mn,1Mc,*1,2Po,1Mc,1Mn,1Cn,2Nd,aCn,6Lo,2ba4Cn,cLo,17Cn,",
    "4Lo,31Cn,4Cs,800Co,1900Lo,16eCn,2Lo,6aCn,26Ll,7Cn,cLl,5Cn,5Lo,1Mn,1Lo,aSm,1Lo,dCn,1Lo,5Cn,1Lo,",
    "1Cn,1Lo,2Cn,*1,1Lo,6cSk,11Cn,10Lo,16bPe,1Ps,1So,10Lo,40Cn,2Lo,36Cn,7So,1Cn,20Lo,cSc,1So,3Mn,",
    "10Po,7Ps,1Pe,1Po,1Cn,6Mn,10Po,1Pd,2Pc,2Ps,1Pe,1Ps,*6,1Pe,1Po,2Ps,1Pe,1Po,4Pc,3Po,3Cn,1Po,4Pd,",
    "1Ps,1Pe,*2,1Po,3Sm,1Pd,1Sm,3Cn,1Po,1Sc,1Po,2Cn,4Lo,5Cn,1Lo,87Cn,2Cf,1Cn,1Po,3Sc,1Po,3Ps,1Pe,1Po,",
    "1Sm,1Po,1Pd,1Po,2Nd,aPo,2Sm,3Po,2Lu,1aPs,1Po,1Pe,1Sk,1Pc,1Sk,1Ll,1aPs,1Sm,1Pe,1Sm,1Ps,1Pe,1Po,",
    "1Ps,1Pe,1Po,2Lo,aLm,1Lo,2dLm,2Lo,1fCn,3Lo,6Cn,2Lo,*2,3Cn,3Sc,2Sm,1Sk,1So,1Sc,2Cn,1So,1Sm,4So,",
    "2Cn,aCf,3So,2Cn,2Lo,cCn,1Lo,1aCn,1Lo,13Cn,1Lo,2Cn,1Lo,fCn,2Lo,eCn,22Lo,7bCn,5Po,3Cn,4No,2dCn,",
    "3So,9Nl,35No,4So,11No,2So,3Cn,1So,dCn,3So,1Cn,2fSo,2dMn,1Cn,82Lo,1dCn,3Lo,31Cn,fMn,1No,1bCn,4Lo,",
    "20No,4Cn,9Lo,14Nl,1Lo,8Nl,1Cn,5Lo,26Mn,5Cn,5Lo,1eCn,1Po,1Lo,24Cn,4Lo,8Po,1Nl,5Cn,2aLu,28Ll,28Lo,",
    "4eCn,2Nd,aCn,6Lu,24Cn,4Ll,24Cn,4Lo,28Cn,8Lo,34Cn,bPo,1Lu,bCn,1Lu,fCn,1Lu,7Cn,1Lu,2Cn,1Ll,bCn,",
    "1Ll,fCn,1Ll,7Cn,1Ll,2Cn,43Lo,137Cn,9Lo,16Cn,aLo,8Cn,18Lm,6Cn,1Lm,2aCn,1Lm,9Cn,45Lo,6Cn,2Lo,1Cn,",
    "1Lo,2cCn,1Lo,2Cn,3Lo,1Cn,2Lo,17Cn,1Po,1No,8Lo,17So,2No,7Lo,1fCn,8No,9Cn,30Lo,13Cn,1Lo,2Cn,5No,",
    "5Lo,16No,6Cn,3Po,1Lo,1aCn,5Po,1Cn,40Lo,38Cn,4No,2Lo,2No,10Cn,2No,2eLo,1Mn,3Cn,1Mn,2Cn,5Mn,4Lo,",
    "4Cn,1Lo,3Cn,1Lo,1dCn,2Mn,3Cn,4Mn,1No,9Cn,7Po,9Cn,7Lo,1dNo,2Po,1Lo,1dNo,3Cn,20Lo,8So,1Lo,1cMn,",
    "2Cn,4No,5Po,7Cn,9Lo,36Cn,3Po,7Lo,16Cn,2No,8Lo,13Cn,5No,8Lo,12Cn,7Po,4Cn,cNo,7Cn,50Lo,49Cn,37Lu,",
    "33Cn,dLl,33Cn,7No,6Lo,24Mn,4Cn,8Nd,aCn,126No,1fCn,1Lo,2aCn,1Mn,2Pd,1Cn,2Lo,2Cn,4bMn,3Lo,1dNo,",
    "aLo,1Cn,8Lo,16Mn,bNo,4Po,5Cn,16Lo,12Mn,4Po,4Cn,26Lo,15No,7Cn,14Lo,17Cn,9Mc,1Mn,1Mc,1Lo,35Mn,fPo,",
    "7Cn,4No,14Nd,aMn,1Lo,2Mn,2Lo,1Cn,9Mn,3Mc,1Lo,2dMc,3Mn,4Mc,2Mn,2Po,2Cf,1Po,4Mn,1Cn,aCf,1Cn,2Lo,",
    "19Cn,7Nd,aCn,6Mn,3Lo,24Mn,5Mc,1Mn,8Cn,1Nd,aPo,4Lo,1Mc,2Lo,1Cn,8Lo,23Mn,1Po,2Lo,1Cn,9Mn,2Mc,1Lo,",
    "30Mc,3Mn,9Mc,2Lo,4Po,4Mn,4Po,1Mc,1Mn,1Nd,aLo,1Po,1Lo,1Po,3Cn,1No,14Cn,bLo,12Cn,1Lo,19Mc,3Mn,3Mc,",
    "2Mn,1Mc,1Mn,2Po,6Mn,1Lo,2Mn,1Cn,3eLo,7Cn,1Lo,1Cn,1Lo,4Cn,1Lo,fCn,1Lo,aPo,1Cn,6Lo,2fMn,1Mc,3Mn,",
    "8Cn,5Nd,aCn,6Mn,2Mc,2Cn,1Lo,8Cn,2Lo,2Cn,2Lo,16Cn,1Lo,7Cn,1Lo,2Cn,1Lo,5Cn,1Mn,2Lo,1Mc,2Mn,1Mc,",
    "4Cn,2Mc,2Cn,2Mc,3Cn,2Lo,1Cn,6Mc,1Cn,5Lo,5Mc,2Cn,2Mn,7Cn,3Mn,5Cn,8bLo,35Mc,3Mn,8Mc,2Mn,3Mc,1Mn,",
    "1Lo,4Po,5Nd,aPo,2Cn,1Po,1Mn,1Lo,3Cn,1eLo,30Mc,3Mn,6Mc,1Mn,1Mc,4Mn,2Mc,1Mn,2Lo,2Po,1Lo,1Cn,8Nd,",
    "aCn,a6Lo,2fMc,3Mn,4Cn,2Mc,4Mn,2Mc,1Mn,2Po,17Lo,4Mn,2Cn,22Lo,30Mc,3Mn,8Mc,2Mn,1Mc,1Mn,2Po,3Lo,",
    "1Cn,bNd,aCn,6Po,dCn,13Lo,2bMn,1Mc,1Mn,1Mc,2Mn,6Mc,1Mn,1Lo,1Po,1Cn,6Nd,aCn,36Lo,1bCn,2Mn,3Mc,2Mn,",
    "4Mc,1Mn,5Cn,4Nd,aNo,2Po,3So,1Lo,7Cn,b9Lo,2cMc,3Mn,9Mc,1Mn,2Po,1Cn,64Lu,20Ll,20Nd,aNo,9Cn,cLo,",
    "8Cn,2Lo,1Cn,2Lo,8Cn,1Lo,2Cn,1Lo,18Mc,6Cn,1Mc,2Cn,2Mn,2Mc,1Mn,1Lo,1Mc,*1,1Mn,1Po,3Cn,9Nd,aCn,",
    "46Lo,8Cn,2Lo,27Mc,3Mn,4Cn,2Mn,2Mc,4Mn,1Lo,1Po,1Lo,1Mc,1Cn,1bLo,1Mn,aLo,28Mn,6Mc,1Lo,1Mn,4Po,8Mn,",
    "1Cn,8Lo,1Mn,6Mc,2Mn,3Lo,2eMn,dMc,1Mn,2Po,3Lo,1Po,5Cn,dLo,49Cn,7Po,aCn,f6Lo,9Cn,1Lo,25Mc,1Mn,7Cn,",
    "1Mn,6Mc,1Mn,1Lo,1Po,5Cn,aNd,aNo,13Cn,3Po,2Lo,1eCn,2Mn,16Cn,1Mc,1Mn,7Mc,1Mn,2Mc,1Mn,2Cn,49Lo,7Cn,",
    "1Lo,2Cn,1Lo,26Mn,6Cn,3Mn,1Cn,1Mn,2Cn,1Mn,7Lo,1Mn,1Cn,8Nd,aCn,6Lo,6Cn,1Lo,2Cn,1Lo,20Mc,5Cn,1Mn,",
    "2Cn,1Mc,2Mn,1Mc,1Mn,1Lo,1Cn,7Nd,aCn,136Lo,13Mn,2Mc,2Po,2Cn,7Mn,2Lo,1Mc,1Lo,dCn,1Lo,22Mc,2Mn,5Cn,",
    "3Mc,2Mn,1Mc,1Mn,1Po,dNd,aCn,56Lo,1Cn,fNo,15So,8Sc,4So,11Cn,dPo,1Lo,39aCn,66Nl,6fCn,1Po,5Cn,bLo,",
    "c4Cn,a4cLo,61Po,2Cn,dLo,430Cf,10Mn,1Lo,6Mn,fCn,faaLo,247Cn,21b9Lo,239Cn,7Lo,1fCn,1Nd,aCn,4Po,",
    "2Lo,4fCn,1Nd,aCn,6Lo,1eCn,2Mn,5Po,1Cn,aLo,30Mn,7Po,5So,4Lm,4Po,1So,1Cn,aNd,aCn,1No,7Cn,1Lo,15Cn,",
    "5Lo,13Cn,2b0Lu,20Ll,20No,17Po,4Cn,65Lo,4bCn,4Mn,1Lo,1Mc,37Cn,7Mn,4Lm,dCn,40Lm,2Po,1Lm,1Mn,1Cn,",
    "bMc,2Cn,eLo,17f8Cn,8Lo,4d6Cn,2aLo,9Cn,22e7Lm,4Cn,1Lm,7Cn,1Lm,2Cn,1Lo,123Cn,fLo,1Cn,1dLo,3Cn,2Lo,",
    "1Cn,eLo,4Cn,8Lo,18cCn,904Lo,6bCn,5Lo,dCn,3Lo,9Cn,7Lo,aCn,2So,1Mn,2Po,1Cf,4Cn,125cMn,2eCn,2Mn,",
    "17Cn,9So,74Cn,3cSo,f6Cn,aSo,27Cn,2So,3cMc,2Mn,3So,3Mc,6Cf,8Mn,8So,2Mn,7So,1eMn,4So,3dCn,15So,",
    "42Mn,3So,1Cn,7aNo,14Cn,cNo,14Cn,cSo,57Cn,9No,19Cn,87Lu,1aLl,1aLu,1aLl,7Cn,1Ll,12Lu,1aLl,1aLu,",
    "1Cn,1Lu,2Cn,2Lu,1Cn,2Lu,2Cn,2Lu,4Cn,1Lu,8Ll,4Cn,1Ll,1Cn,1Ll,7Cn,1Ll,bLu,1aLl,1aLu,2Cn,1Lu,4Cn,",
    "2Lu,8Cn,1Lu,7Cn,1Ll,1aLu,2Cn,1Lu,4Cn,1Lu,5Cn,1Lu,1Cn,3Lu,7Cn,1Ll,1aLu,1aLl,*5,1cCn,2Lu,19Sm,1Ll,",
    "*1,6Lu,19Sm,1Ll,*1,6Lu,19Sm,1Ll,*1,6Lu,19Sm,1Ll,*1,6Lu,19Sm,1Ll,*1,6Lu,1Ll,1Cn,2Nd,32So,200Mn,",
    "37So,4Mn,32So,8Mn,1So,eMn,1So,2Po,5Cn,fMn,5Cn,1Mn,fCn,450Ll,aLo,1Ll,14Cn,6Ll,6Cn,d5Mn,7Cn,1Mn,",
    "11Cn,2Mn,7Cn,1Mn,2Cn,1Mn,5Cn,5Lm,3eCn,21Mn,1Cn,70Lo,2dCn,3Mn,7Lm,7Cn,2Nd,aCn,4Lo,1So,1Cn,140Lo,",
    "1eMn,1Cn,11Lo,2cMn,4Nd,aCn,5Sc,1Cn,1d0Lo,1bLm,1Mn,4Nd,aCn,2e6Lo,7Cn,1Lo,4Cn,1Lo,2Cn,1Lo,fCn,1Lo,",
    "c5Cn,2No,9Mn,7Cn,29Lu,22Ll,22Mn,7Lm,1Cn,4Nd,aCn,4Po,2Cn,311No,3bSo,1No,3Sc,1No,4Cn,4cNo,2dSo,",
    "1No,fCn,c2Lo,4Cn,1Lo,1bCn,1Lo,2Cn,1Lo,1Cn,2Lo,1Cn,1Lo,aCn,1Lo,4Cn,1Lo,1Cn,*1,6Lo,1Cn,4Lo,1Cn,",
    "1Lo,*2,3Cn,1Lo,2Cn,1Lo,1Cn,2Lo,1Cn,1Lo,*4,2Cn,1Lo,1Cn,2Lo,4Cn,1Lo,7Cn,1Lo,4Cn,*1,1Lo,1Cn,1Lo,",
    "aCn,1Lo,11Cn,5Lo,3Cn,1Lo,5Cn,1Lo,11Cn,34Sm,2Cn,10eSo,2cCn,4So,64Cn,cSo,fCn,2So,fCn,1So,*1,25Cn,",
    "aNo,dSo,a1Cn,38So,1dCn,dSo,2cCn,4So,9Cn,7So,2Cn,eSo,6Cn,9aSo,fbSk,5So,2d8Cn,4So,11Cn,3So,dCn,",
    "3So,77Cn,4So,5fCn,6So,cCn,4So,1Cn,fSo,cCn,4So,38Cn,8So,aCn,6So,28Cn,8So,1eCn,2So,2Cn,4eSo,154Cn,",
    "cSo,eCn,2So,dCn,3So,9Cn,7So,2eCn,1So,7Cn,8So,eCn,4So,9Cn,7So,*1,93Cn,1So,37Cn,25Nd,aCn,406Lo,",
    "a6e0Cn,20Lo,103aCn,6Lo,deCn,2Lo,1682Cn,eLo,1d31Cn,c1fLo,21eCn,5e2Lo,134bCn,5Lo,1060Cn,adc51Cf,",
    "1Cn,1eCf,60Cn,80Mn,f0Cn,fe10Co,fffeCn,2Co,fffeCn"]

/-- The general categories, decoded. -/
def categoryRuns : Array (Nat × String) := decodeRuns String.ofList categoryText

/-- The general category of a code point. -/
def generalCategory (n : Nat) : String := lookup categoryRuns n

/-- The categories a category name stands for: one of the two-letter categories, or a
one-letter group of them. `C` is the assigned other characters (controls, format characters,
private use and surrogates). Unassigned code points (`Cn`) have no name. -/
def categoriesNamed : String → Option (List String)
  | "C" => some ["Cc", "Cf", "Co", "Cs"]
  | "L" => some ["Lu", "Ll", "Lt", "Lm", "Lo"]
  | "M" => some ["Mn", "Mc", "Me"]
  | "N" => some ["Nd", "Nl", "No"]
  | "P" => some ["Pc", "Pd", "Ps", "Pe", "Pi", "Pf", "Po"]
  | "S" => some ["Sm", "Sc", "Sk", "So"]
  | "Z" => some ["Zs", "Zl", "Zp"]
  | name =>
    if ["Cc", "Cf", "Co", "Cs", "Lu", "Ll", "Lt", "Lm", "Lo", "Mn", "Mc", "Me", "Nd", "Nl", "No",
        "Pc", "Pd", "Ps", "Pe", "Pi", "Pf", "Po", "Sm", "Sc", "Sk", "So", "Zs", "Zl",
        "Zp"].contains name then some [name]
    else none

/-- The code points of a category name, as sorted closed ranges. -/
def categoryRanges (name : String) : Option (List (Nat × Nat)) :=
  (categoriesNamed name).map fun cats => rangesWhere categoryRuns cats.contains

/-- The scripts of the code points. -/
def scriptText : String :=
  String.join [
    "0Common,41Latin,1aCommon,6Latin,1aCommon,2fLatin,1Common,fLatin,1Common,5Latin,17Common,1Latin,",
    "1fCommon,1Latin,1c1Common,27Latin,5Common,5Bopomofo,2Common,14Inherited,70Greek,4Common,1Greek,",
    "3Unknown,2Greek,4Common,1Greek,1Unknown,4Greek,1Common,1Greek,*1,3Unknown,1Greek,1Unknown,",
    "1Greek,14Unknown,1Greek,3fCoptic,eGreek,10Cyrillic,85Inherited,2Cyrillic,a9Unknown,1Armenian,",
    "26Unknown,2Armenian,32Unknown,2Armenian,3Unknown,1Hebrew,37Unknown,8Hebrew,1bUnknown,4Hebrew,",
    "6Unknown,bArabic,5Common,1Arabic,6Common,1Arabic,eCommon,1Arabic,3Common,1Arabic,20Common,",
    "1Arabic,aInherited,bArabic,1aInherited,1Arabic,6cCommon,1Arabic,22Syriac,eUnknown,1Syriac,",
    "3cUnknown,2Syriac,3Arabic,30Thaana,32Unknown,eNko,3bUnknown,2Nko,3Samaritan,2eUnknown,",
    "2Samaritan,fUnknown,1Mandaic,1cUnknown,2Mandaic,1Unknown,1Syriac,bUnknown,5Arabic,1fUnknown,",
    "1Arabic,2Unknown,6Arabic,4aCommon,1Arabic,1dDevanagari,51Inherited,4Devanagari,fCommon,",
    "2Devanagari,1aBengali,4Unknown,1Bengali,8Unknown,2Bengali,2Unknown,2Bengali,16Unknown,1Bengali,",
    "7Unknown,1Bengali,1Unknown,3Bengali,4Unknown,2Bengali,9Unknown,2Bengali,2Unknown,2Bengali,",
    "4Unknown,8Bengali,1Unknown,4Bengali,2Unknown,1Bengali,5Unknown,2Bengali,19Unknown,2Gurmukhi,",
    "3Unknown,1Gurmukhi,6Unknown,4Gurmukhi,2Unknown,2Gurmukhi,16Unknown,1Gurmukhi,7Unknown,1Gurmukhi,",
    "2Unknown,*2,2Gurmukhi,1Unknown,1Gurmukhi,5Unknown,4Gurmukhi,2Unknown,2Gurmukhi,3Unknown,",
    "3Gurmukhi,1Unknown,7Gurmukhi,4Unknown,1Gurmukhi,1Unknown,7Gurmukhi,11Unknown,aGujarati,3Unknown,",
    "1Gujarati,9Unknown,1Gujarati,3Unknown,1Gujarati,16Unknown,1Gujarati,7Unknown,1Gujarati,2Unknown,",
    "1Gujarati,5Unknown,2Gujarati,aUnknown,1Gujarati,3Unknown,*1,2Gujarati,1Unknown,fGujarati,",
    "4Unknown,2Gujarati,cUnknown,7Gujarati,7Unknown,1Oriya,3Unknown,1Oriya,8Unknown,2Oriya,2Unknown,",
    "2Oriya,16Unknown,1Oriya,7Unknown,1Oriya,2Unknown,1Oriya,5Unknown,2Oriya,9Unknown,2Oriya,",
    "2Unknown,2Oriya,3Unknown,7Oriya,3Unknown,4Oriya,2Unknown,1Oriya,5Unknown,2Oriya,12Unknown,",
    "aTamil,2Unknown,1Tamil,6Unknown,3Tamil,3Unknown,1Tamil,4Unknown,3Tamil,2Unknown,1Tamil,1Unknown,",
    "1Tamil,2Unknown,3Tamil,*1,3Unknown,3Tamil,cUnknown,4Tamil,5Unknown,3Tamil,3Unknown,1Tamil,",
    "4Unknown,2Tamil,1Unknown,6Tamil,1Unknown,eTamil,15Unknown,5Telugu,dUnknown,1Telugu,3Unknown,",
    "1Telugu,17Unknown,1Telugu,10Unknown,2Telugu,9Unknown,1Telugu,3Unknown,1Telugu,4Unknown,7Telugu,",
    "2Unknown,1Telugu,3Unknown,2Telugu,1Unknown,2Telugu,4Unknown,2Telugu,aUnknown,7Telugu,9Kannada,",
    "dUnknown,1Kannada,3Unknown,1Kannada,17Unknown,1Kannada,aUnknown,1Kannada,5Unknown,2Kannada,",
    "9Unknown,1Kannada,3Unknown,1Kannada,4Unknown,7Kannada,2Unknown,6Kannada,2Unknown,1Kannada,",
    "4Unknown,2Kannada,aUnknown,1Kannada,3Unknown,cMalayalam,dUnknown,1Malayalam,3Unknown,1Malayalam,",
    "33Unknown,1Malayalam,3Unknown,1Malayalam,6Unknown,4Malayalam,10Unknown,2Malayalam,1aUnknown,",
    "1Sinhala,3Unknown,1Sinhala,12Unknown,3Sinhala,18Unknown,1Sinhala,9Unknown,1Sinhala,1Unknown,",
    "2Sinhala,7Unknown,3Sinhala,1Unknown,4Sinhala,6Unknown,1Sinhala,1Unknown,1Sinhala,8Unknown,",
    "6Sinhala,aUnknown,2Sinhala,3Unknown,cThai,3aUnknown,4Common,1Thai,1cUnknown,25Lao,2Unknown,1Lao,",
    "1Unknown,1Lao,5Unknown,1Lao,18Unknown,1Lao,1Unknown,1Lao,17Unknown,2Lao,5Unknown,1Lao,1Unknown,",
    "1Lao,7Unknown,1Lao,aUnknown,2Lao,4Unknown,20Tibetan,48Unknown,1Tibetan,24Unknown,4Tibetan,",
    "27Unknown,1Tibetan,24Unknown,1Tibetan,fUnknown,1Tibetan,7Common,4Tibetan,2Unknown,25Myanmar,",
    "a0Georgian,26Unknown,1Georgian,1Unknown,5Georgian,1Unknown,2Georgian,2bCommon,1Georgian,4Hangul,",
    "100Ethiopic,49Unknown,1Ethiopic,4Unknown,2Ethiopic,7Unknown,1Ethiopic,1Unknown,1Ethiopic,",
    "4Unknown,2Ethiopic,29Unknown,1Ethiopic,4Unknown,2Ethiopic,21Unknown,1Ethiopic,4Unknown,",
    "2Ethiopic,7Unknown,1Ethiopic,1Unknown,1Ethiopic,4Unknown,2Ethiopic,fUnknown,1Ethiopic,39Unknown,",
    "1Ethiopic,4Unknown,2Ethiopic,43Unknown,2Ethiopic,20Unknown,3Ethiopic,1aUnknown,6Cherokee,",
    "56Unknown,2Cherokee,6Unknown,2Canadian_Aboriginal,280Ogham,1dUnknown,3Runic,4bCommon,3Runic,",
    "bUnknown,7Tagalog,16Unknown,9Tagalog,1Hanunoo,15Common,2Unknown,9Buhid,14Unknown,cTagbanwa,",
    "dUnknown,1Tagbanwa,3Unknown,1Tagbanwa,2Unknown,cKhmer,5eUnknown,2Khmer,aUnknown,6Khmer,aUnknown,",
    "6Mongolian,2Common,2Mongolian,1Common,1Mongolian,14Unknown,6Mongolian,59Unknown,7Mongolian,",
    "2bUnknown,5Canadian_Aboriginal,46Unknown,aLimbu,1fUnknown,1Limbu,cUnknown,4Limbu,*1,1Unknown,",
    "3Limbu,cTai_Le,1eUnknown,2Tai_Le,5Unknown,bNew_Tai_Lue,2cUnknown,4New_Tai_Lue,1aUnknown,",
    "6New_Tai_Lue,bUnknown,3New_Tai_Lue,2Khmer,20Buginese,1cUnknown,2Buginese,2Tai_Tham,3fUnknown,",
    "1Tai_Tham,1dUnknown,2Tai_Tham,bUnknown,6Tai_Tham,aUnknown,6Tai_Tham,eUnknown,2Inherited,",
    "1fUnknown,31Balinese,4dUnknown,3Balinese,2fUnknown,1Sundanese,40Batak,34Unknown,8Batak,4Lepcha,",
    "38Unknown,3Lepcha,fUnknown,3Lepcha,3Ol_Chiki,30Cyrillic,9Unknown,7Georgian,2bUnknown,2Georgian,",
    "3Sundanese,8Unknown,8Inherited,3Common,1Inherited,dCommon,1Inherited,7Common,4Inherited,1Common,",
    "6Inherited,1Common,3Inherited,2Common,1Unknown,5Latin,26Greek,5Cyrillic,1Latin,31Greek,5Latin,",
    "4Greek,5Latin,dCyrillic,1Latin,46Greek,1Inherited,40Latin,100Greek,16Unknown,2Greek,6Unknown,",
    "2Greek,26Unknown,2Greek,6Unknown,2Greek,8Unknown,1Greek,1Unknown,*2,1Greek,1fUnknown,2Greek,",
    "35Unknown,1Greek,fUnknown,1Greek,eUnknown,2Greek,6Unknown,1Greek,13Unknown,2Greek,3Unknown,",
    "1Greek,9Unknown,1Common,cInherited,2Common,57Unknown,1Common,bLatin,1Unknown,2Common,bLatin,",
    "1Common,fUnknown,1Latin,dUnknown,3Common,21Unknown,fInherited,21Unknown,fCommon,26Greek,1Common,",
    "3Latin,2Common,6Latin,1Common,1bLatin,1Common,11Latin,29Common,3Unknown,4Common,297Unknown,",
    "19Common,bUnknown,15Common,3a0Braille,100Common,274Unknown,2Common,20Unknown,1Common,",
    "69Glagolitic,60Latin,20Coptic,74Unknown,5Coptic,7Georgian,26Unknown,1Georgian,1Unknown,",
    "5Georgian,1Unknown,2Tifinagh,38Unknown,7Tifinagh,2Unknown,eTifinagh,1Ethiopic,17Unknown,",
    "9Ethiopic,7Unknown,1Ethiopic,*6,7Unknown,1Cyrillic,20Common,5eUnknown,22Han,1aUnknown,1Han,",
    "59Unknown,cHan,d6Unknown,1aCommon,cUnknown,4Common,5Han,1Common,1Han,1Common,19Han,9Inherited,",
    "4Hangul,2Common,8Han,4Common,4Unknown,1Hiragana,56Unknown,2Inherited,2Common,2Hiragana,3Common,",
    "1Katakana,5aCommon,2Katakana,3Unknown,5Bopomofo,2bUnknown,1Hangul,5eUnknown,1Common,10Bopomofo,",
    "20Common,24Unknown,cKatakana,10Hangul,1fUnknown,1Common,40Hangul,1fCommon,51Katakana,2fCommon,",
    "1Katakana,58Common,a8Han,19c0Common,40Han,5200Yi,48dUnknown,3Yi,37Unknown,9Lisu,30Vai,",
    "12cUnknown,14Cyrillic,60Bamum,58Unknown,8Common,22Latin,66Common,3Latin,40Unknown,5Latin,",
    "2Unknown,1Latin,1Unknown,1Latin,5Unknown,18Latin,eSyloti_Nagri,2dUnknown,3Common,aUnknown,",
    "6Phags_Pa,38Unknown,8Saurashtra,46Unknown,8Saurashtra,cUnknown,6Devanagari,20Kayah_Li,2eCommon,",
    "1Kayah_Li,1Rejang,24Unknown,bRejang,1Hangul,1dUnknown,3Javanese,4eUnknown,1Common,1Javanese,",
    "aUnknown,4Javanese,2Myanmar,1fUnknown,1Cham,37Unknown,9Cham,eUnknown,2Cham,aUnknown,2Cham,",
    "4Myanmar,20Tai_Viet,43Unknown,18Tai_Viet,5Meetei_Mayek,17Unknown,aEthiopic,6Unknown,2Ethiopic,",
    "*1,6Unknown,9Ethiopic,7Unknown,1Ethiopic,7Unknown,1Latin,2bCommon,1Latin,9Greek,1Latin,4Common,",
    "2Unknown,4Cherokee,50Meetei_Mayek,2eUnknown,2Meetei_Mayek,aUnknown,6Hangul,2ba4Unknown,cHangul,",
    "17Unknown,4Hangul,31Unknown,2104Han,16eUnknown,2Han,6aUnknown,26Latin,7Unknown,cArmenian,",
    "5Unknown,5Hebrew,1aUnknown,1Hebrew,5Unknown,1Hebrew,1Unknown,1Hebrew,2Unknown,*1,1Hebrew,",
    "aArabic,73Unknown,10Arabic,16bCommon,2Arabic,50Unknown,2Arabic,36Unknown,7Arabic,1Unknown,",
    "20Arabic,10Inherited,10Common,aUnknown,6Inherited,eCyrillic,2Common,23Unknown,1Common,13Unknown,",
    "1Common,4Unknown,4Arabic,5Unknown,1Arabic,87Unknown,2Common,1Unknown,1Common,20Latin,1aCommon,",
    "6Latin,1aCommon,bKatakana,aCommon,1Katakana,2dCommon,2Hangul,1fUnknown,3Hangul,6Unknown,2Hangul,",
    "*2,3Unknown,3Common,7Unknown,1Common,7Unknown,aCommon,5Unknown,2Linear_B,cUnknown,1Linear_B,",
    "1aUnknown,1Linear_B,13Unknown,1Linear_B,2Unknown,1Linear_B,fUnknown,2Linear_B,eUnknown,",
    "22Linear_B,7bUnknown,5Common,3Unknown,4Common,2dUnknown,3Common,9Greek,4fUnknown,1Common,",
    "dUnknown,3Greek,1Unknown,2fCommon,2dInherited,1Unknown,82Lycian,1dUnknown,3Carian,31Unknown,",
    "fInherited,1Common,1bUnknown,4Old_Italic,24Unknown,9Old_Italic,3Gothic,1bUnknown,5Old_Permic,",
    "2bUnknown,5Ugaritic,1eUnknown,1Ugaritic,1Old_Persian,24Unknown,4Old_Persian,eUnknown,2aDeseret,",
    "50Shavian,30Osmanya,1eUnknown,2Osmanya,aUnknown,6Osage,24Unknown,4Osage,24Unknown,4Elbasan,",
    "28Unknown,8Caucasian_Albanian,34Unknown,bCaucasian_Albanian,1Vithkuqi,bUnknown,1Vithkuqi,",
    "fUnknown,1Vithkuqi,7Unknown,1Vithkuqi,2Unknown,1Vithkuqi,bUnknown,1Vithkuqi,fUnknown,1Vithkuqi,",
    "7Unknown,1Vithkuqi,2Unknown,43Linear_A,137Unknown,9Linear_A,16Unknown,aLinear_A,8Unknown,",
    "18Latin,6Unknown,1Latin,2aUnknown,1Latin,9Unknown,45Cypriot,6Unknown,2Cypriot,1Unknown,1Cypriot,",
    "2cUnknown,1Cypriot,2Unknown,3Cypriot,1Unknown,2Cypriot,1Imperial_Aramaic,16Unknown,",
    "1Imperial_Aramaic,9Palmyrene,20Nabataean,1fUnknown,8Nabataean,9Unknown,30Hatran,13Unknown,",
    "1Hatran,2Unknown,5Hatran,5Phoenician,1cUnknown,3Phoenician,1Lydian,1aUnknown,5Lydian,1Unknown,",
    "40Meroitic_Hieroglyphs,20Meroitic_Cursive,18Unknown,4Meroitic_Cursive,14Unknown,",
    "2Meroitic_Cursive,2eKharoshthi,4Unknown,1Kharoshthi,2Unknown,5Kharoshthi,8Unknown,1Kharoshthi,",
    "3Unknown,1Kharoshthi,1dUnknown,2Kharoshthi,3Unknown,4Kharoshthi,aUnknown,7Kharoshthi,9Unknown,",
    "7Old_South_Arabian,20Old_North_Arabian,20Unknown,20Manichaean,27Unknown,4Manichaean,cUnknown,",
    "9Avestan,36Unknown,3Avestan,7Inscriptional_Parthian,16Unknown,2Inscriptional_Parthian,",
    "8Inscriptional_Pahlavi,13Unknown,5Inscriptional_Pahlavi,8Psalter_Pahlavi,12Unknown,",
    "7Psalter_Pahlavi,4Unknown,cPsalter_Pahlavi,7Unknown,50Old_Turkic,49Unknown,37Old_Hungarian,",
    "33Unknown,dOld_Hungarian,33Unknown,7Old_Hungarian,6Hanifi_Rohingya,28Unknown,8Hanifi_Rohingya,",
    "aUnknown,126Arabic,1fUnknown,1Yezidi,2aUnknown,1Yezidi,3Unknown,2Yezidi,2Unknown,4bArabic,",
    "3Old_Sogdian,28Unknown,8Sogdian,2aUnknown,16Old_Uyghur,1aUnknown,26Chorasmian,1cUnknown,",
    "14Elymaic,17Unknown,9Brahmi,4eUnknown,4Brahmi,24Unknown,9Brahmi,1Kaithi,43Unknown,aKaithi,",
    "1Unknown,2Sora_Sompeng,19Unknown,7Sora_Sompeng,aUnknown,6Chakma,35Unknown,1Chakma,12Unknown,",
    "8Mahajani,27Unknown,9Sharada,60Unknown,1Sinhala,14Unknown,bKhojki,12Unknown,1Khojki,2fUnknown,",
    "3eMultani,7Unknown,1Multani,1Unknown,1Multani,4Unknown,1Multani,fUnknown,1Multani,bUnknown,",
    "6Khudawadi,3bUnknown,5Khudawadi,aUnknown,6Grantha,4Unknown,1Grantha,8Unknown,2Grantha,2Unknown,",
    "2Grantha,16Unknown,1Grantha,7Unknown,1Grantha,2Unknown,1Grantha,5Unknown,1Inherited,1Grantha,",
    "9Unknown,2Grantha,2Unknown,2Grantha,3Unknown,2Grantha,1Unknown,6Grantha,1Unknown,5Grantha,",
    "7Unknown,2Grantha,7Unknown,3Grantha,5Unknown,8bNewa,5cUnknown,1Newa,5Unknown,1eTirhuta,",
    "48Unknown,8Tirhuta,aUnknown,a6Siddham,36Unknown,2Siddham,26Unknown,22Modi,45Unknown,bModi,",
    "aUnknown,6Mongolian,dUnknown,13Takri,3aUnknown,6Takri,aUnknown,36Ahom,1bUnknown,2Ahom,fUnknown,",
    "4Ahom,17Unknown,b9Dogra,3cUnknown,64Warang_Citi,53Unknown,cWarang_Citi,1Dives_Akuru,7Unknown,",
    "2Dives_Akuru,1Unknown,2Dives_Akuru,8Unknown,1Dives_Akuru,2Unknown,1Dives_Akuru,1eUnknown,",
    "1Dives_Akuru,2Unknown,2Dives_Akuru,cUnknown,9Dives_Akuru,aUnknown,46Nandinagari,8Unknown,",
    "2Nandinagari,2eUnknown,2Nandinagari,bUnknown,1bZanabazar_Square,48Unknown,8Soyombo,53Unknown,",
    "dCanadian_Aboriginal,10Pau_Cin_Hau,39Unknown,7Devanagari,aUnknown,f6Bhaiksuki,9Unknown,",
    "1Bhaiksuki,2dUnknown,1Bhaiksuki,eUnknown,aBhaiksuki,1dUnknown,3Marchen,20Unknown,2Marchen,",
    "16Unknown,1Marchen,eUnknown,49Masaram_Gondi,7Unknown,1Masaram_Gondi,2Unknown,1Masaram_Gondi,",
    "2cUnknown,3Masaram_Gondi,1Unknown,1Masaram_Gondi,2Unknown,1Masaram_Gondi,9Unknown,",
    "8Masaram_Gondi,aUnknown,6Gunjala_Gondi,6Unknown,1Gunjala_Gondi,2Unknown,1Gunjala_Gondi,",
    "25Unknown,1Gunjala_Gondi,2Unknown,1Gunjala_Gondi,6Unknown,7Gunjala_Gondi,aUnknown,136Makasar,",
    "19Unknown,7Kawi,11Unknown,1Kawi,29Unknown,3Kawi,1cUnknown,56Lisu,1Unknown,fTamil,32Unknown,",
    "dTamil,1Cuneiform,39aUnknown,66Cuneiform,6fUnknown,1Cuneiform,5Unknown,bCuneiform,c4Unknown,",
    "a4cCypro_Minoan,63Unknown,dEgyptian_Hieroglyphs,456Unknown,faaAnatolian_Hieroglyphs,247Unknown,",
    "21b9Bamum,239Unknown,7Mro,1fUnknown,1Mro,aUnknown,4Mro,2Tangsa,4fUnknown,1Tangsa,aUnknown,",
    "6Bassa_Vah,1eUnknown,2Bassa_Vah,6Unknown,aPahawh_Hmong,46Unknown,aPahawh_Hmong,aUnknown,",
    "1Pahawh_Hmong,7Unknown,1Pahawh_Hmong,15Unknown,5Pahawh_Hmong,13Unknown,2b0Medefaidrin,5bUnknown,",
    "65Miao,4bUnknown,4Miao,39Unknown,7Miao,11Unknown,40Tangut,1Nushu,1Han,2Khitan_Small_Script,",
    "1Unknown,bHan,2Unknown,eTangut,17f8Unknown,8Tangut,300Khitan_Small_Script,1d6Unknown,2aTangut,",
    "9Unknown,22e7Katakana,4Unknown,1Katakana,7Unknown,1Katakana,2Unknown,1Katakana,1Hiragana,",
    "11fKatakana,3Unknown,fHiragana,1Unknown,1dHiragana,3Unknown,2Katakana,1Unknown,eKatakana,",
    "4Unknown,8Nushu,18cUnknown,904Duployan,6bUnknown,5Duployan,dUnknown,3Duployan,9Unknown,",
    "7Duployan,aUnknown,2Duployan,4Common,4Unknown,125cInherited,2eUnknown,2Inherited,17Unknown,",
    "9Common,74Unknown,3cCommon,f6Unknown,aCommon,27Unknown,2Common,3eInherited,3Common,11Inherited,",
    "8Common,2Inherited,7Common,1eInherited,4Common,3dUnknown,15Greek,46Unknown,7aCommon,14Unknown,",
    "cCommon,*1,57Unknown,9Common,19Unknown,87Common,55Unknown,1Common,47Unknown,1Common,2Unknown,",
    "2Common,1Unknown,2Common,2Unknown,2Common,4Unknown,1Common,cUnknown,1Common,1Unknown,1Common,",
    "7Unknown,1Common,41Unknown,1Common,4Unknown,2Common,8Unknown,1Common,7Unknown,1Common,1cUnknown,",
    "1Common,4Unknown,1Common,5Unknown,1Common,1Unknown,3Common,7Unknown,1Common,154Unknown,2Common,",
    "124Unknown,2Common,32SignWriting,28cUnknown,fSignWriting,5Unknown,1SignWriting,fUnknown,",
    "450Latin,1fUnknown,6Latin,6Unknown,d5Glagolitic,7Unknown,1Glagolitic,11Unknown,2Glagolitic,",
    "7Unknown,1Glagolitic,2Unknown,1Glagolitic,5Unknown,5Cyrillic,3eUnknown,21Cyrillic,1Unknown,",
    "70Nyiakeng_Puachue_Hmong,2dUnknown,3Nyiakeng_Puachue_Hmong,eUnknown,2Nyiakeng_Puachue_Hmong,",
    "aUnknown,4Nyiakeng_Puachue_Hmong,2Unknown,140Toto,1fUnknown,11Wancho,3aUnknown,5Wancho,1Unknown,",
    "1d0Nag_Mundari,2aUnknown,2e6Ethiopic,7Unknown,1Ethiopic,4Unknown,1Ethiopic,2Unknown,1Ethiopic,",
    "fUnknown,1Mende_Kikakui,c5Unknown,2Mende_Kikakui,10Unknown,29Adlam,4cUnknown,4Adlam,aUnknown,",
    "4Adlam,2Unknown,311Common,44Unknown,4cCommon,3dUnknown,c2Arabic,4Unknown,1Arabic,1bUnknown,",
    "1Arabic,2Unknown,1Arabic,1Unknown,2Arabic,1Unknown,1Arabic,aUnknown,1Arabic,4Unknown,1Arabic,",
    "1Unknown,*1,6Arabic,1Unknown,4Arabic,1Unknown,1Arabic,*2,3Unknown,1Arabic,2Unknown,1Arabic,",
    "1Unknown,2Arabic,1Unknown,1Arabic,*4,2Unknown,1Arabic,1Unknown,2Arabic,4Unknown,1Arabic,",
    "7Unknown,1Arabic,4Unknown,*1,1Arabic,1Unknown,1Arabic,aUnknown,1Arabic,11Unknown,5Arabic,",
    "3Unknown,1Arabic,5Unknown,1Arabic,11Unknown,34Arabic,2Unknown,10eCommon,2cUnknown,4Common,",
    "64Unknown,cCommon,fUnknown,2Common,fUnknown,1Common,*1,25Unknown,aCommon,aeUnknown,38Common,",
    "1aHiragana,1Common,2Unknown,dCommon,2cUnknown,4Common,9Unknown,7Common,2Unknown,eCommon,",
    "6Unknown,9aCommon,3d8Unknown,4Common,11Unknown,3Common,dUnknown,3Common,77Unknown,4Common,",
    "5fUnknown,6Common,cUnknown,4Common,1Unknown,fCommon,cUnknown,4Common,38Unknown,8Common,aUnknown,",
    "6Common,28Unknown,8Common,1eUnknown,2Common,2Unknown,4eCommon,154Unknown,cCommon,eUnknown,",
    "2Common,dUnknown,3Common,9Unknown,7Common,2eUnknown,1Common,7Unknown,8Common,eUnknown,4Common,",
    "9Unknown,7Common,*1,93Unknown,1Common,37Unknown,25Common,aUnknown,406Han,a6e0Unknown,20Han,",
    "103aUnknown,6Han,deUnknown,2Han,1682Unknown,eHan,1d31Unknown,c1fHan,21eUnknown,5e2Han,",
    "134bUnknown,5Han,1060Unknown,adc51Common,1Unknown,1eCommon,60Unknown,80Inherited,f0Unknown"]

/-- The scripts, decoded. -/
def scriptRuns : Array (Nat × String) := decodeRuns String.ofList scriptText

/-- The code points of a script, as sorted closed ranges; `Unknown` is not a script. -/
def scriptRanges (name : String) : Option (List (Nat × Nat)) :=
  if name == "Unknown" || !scriptRuns.any (·.2 == name) then none
  else some (rangesWhere scriptRuns (· == name))

/-- The offsets of the simple lower-case mapping. -/
def lowerText : String :=
  String.join [
    "0+0,41+20,1a+0,65+20,17+0,1+20,7+0,21+1,1+0,1+1,*16,1+0,1-c7,1+0,1+1,*2,1+0,2+1,1+0,1+1,*6,1+0,",
    "2+1,1+0,1+1,*15,1+0,1-79,1+1,1+0,*2,3+d2,1+1,1+0,*1,1+ce,1+1,1+0,1+cd,2+1,1+0,2+4f,1+ca,1+cb,",
    "1+1,1+0,1+cd,1+cf,1+0,1+d3,1+d1,1+1,1+0,3+d3,1+d5,1+0,1+d6,1+1,1+0,*2,1+da,1+1,1+0,1+da,1+0,2+1,",
    "1+0,1+da,1+1,1+0,1+d9,2+1,1+0,1+1,1+0,1+db,1+1,1+0,3+1,1+0,7+2,1+1,1+0,1+2,1+1,1+0,1+2,1+1,1+0,",
    "*8,2+1,1+0,1+1,*7,1+0,2+2,1+1,1+0,*1,1-61,1-38,1+1,1+0,*13,1-82,1+0,1+1,*8,1+0,7+2a2b,1+1,1+0,",
    "1-a3,1+2a28,1+0,2+1,1+0,1-c3,1+45,1+47,1+1,1+0,*4,121+1,1+0,1+1,1+0,3+1,1+0,8+74,1+0,6+26,1+0,",
    "1+25,3+0,1+40,1+0,1+3f,2+0,1+20,11+0,1+20,9+0,23+8,1+0,8+1,1+0,1+1,*a,1+0,5-3c,1+0,2+1,1+0,1-7,",
    "1+1,1+0,2-82,3+50,10+20,20+0,30+1,1+0,1+1,*f,1+0,9+1,1+0,1+1,*19,1+0,1+f,1+1,1+0,*6,2+1,1+0,1+1,",
    "*2e,1+0,2+30,26+0,b49+1c60,26+0,1+1c60,1+0,5+1c60,1+0,2d2+97d0,50+8,6+0,89a-bc0,2b+0,2-bc0,3+0,",
    "140+1,1+0,1+1,*49,1+0,9-1dbf,1+0,1+1,*2f,1+0,9-8,8+0,8-8,6+0,a-8,8+0,8-8,*1,6+0,b-8,1+0,1-8,*2,",
    "1+0,8-8,8+0,18-8,8+0,8-8,*2,2-4a,2-9,1+0,b-56,4-9,1+0,b-8,2-64,2+0,c-8,2-70,2-7,1+0,b-80,2-7e,",
    "2-9,1+0,129-1d5d,1+0,3-20bf,1-2046,1+0,6+1c,1+0,2d+10,10+0,13+1,1+0,332+1a,1a+0,730+30,30+0,",
    "30+1,1+0,1-29f7,1-ee6,1-29e7,1+0,2+1,1+0,1+1,*1,1+0,1-2a1c,1-29fd,1-2a1f,1-2a1e,1+0,1+1,1+0,2+1,",
    "1+0,8-2a3f,2+1,1+0,1+1,*30,1+0,8+1,1+0,1+1,1+0,4+1,1+0,794d+1,1+0,1+1,*15,1+0,13+1,1+0,1+1,*c,",
    "1+0,87+1,1+0,1+1,*5,1+0,3+1,1+0,1+1,*1d,1+0,a+1,1+0,1+1,1+0,1-8a04,1+1,1+0,*4,4+1,1+0,1-a528,",
    "1+0,2+1,1+0,1+1,1+0,3+1,1+0,1+1,*8,1+0,1-a544,1-a54f,1-a54b,1-a541,1-a544,1+0,1-a512,1-a52a,",
    "1-a515,1+3a0,1+1,1+0,*7,1-30,1-a543,1-8a38,1+1,1+0,*1,6+1,1+0,5+1,1+0,1+1,1+0,1c+1,1+0,572b+20,",
    "1a+0,4c5+28,28+0,88+28,24+0,9c+27,b+0,1+27,f+0,1+27,7+0,1+27,2+0,6ea+40,33+0,bed+20,20+0,",
    "5580+20,20+0,7aa0+22,22+0"]

/-- The offsets of the simple upper-case mapping. -/
def upperText : String :=
  String.join [
    "0+0,61-20,1a+0,3a+2e7,1+0,2a-20,17+0,1-20,7+79,1+0,1-1,*17,1+0,1-e8,1+0,1-1,*2,1+0,2-1,1+0,1-1,",
    "*6,1+0,2-1,1+0,1-1,*15,1+0,2-1,1+0,1-1,*1,1-12c,1+c3,1+0,2-1,1+0,1-1,1+0,2-1,1+0,3-1,1+0,5-1,",
    "1+0,2+61,1+0,3-1,1+a3,1+0,3+82,1+0,2-1,1+0,1-1,*1,1+0,2-1,1+0,4-1,1+0,2-1,1+0,3-1,1+0,1-1,1+0,",
    "2-1,1+0,3-1,1+0,1+38,1+0,5-1,1-2,1+0,1-1,1-2,1+0,1-1,1-2,1+0,1-1,*7,1-4f,1+0,1-1,*8,1+0,2-1,1-2,",
    "1+0,1-1,1+0,3-1,1+0,1-1,*12,1+0,3-1,1+0,1-1,*7,1+0,8-1,1+0,2+2a3f,2+0,1-1,1+0,4-1,1+0,1-1,*3,",
    "1+2a1f,1+2a1c,1+2a1e,1-d2,1-ce,1+0,1-cd,2+0,1-ca,1+0,1-cb,1+a54f,1+0,3-cd,1+a54b,1+0,1-cf,1+0,",
    "1+a528,1+a544,1+0,1-d1,1-d3,1+a544,1+29f7,1+a541,1+0,2-d3,1+0,1+29fd,1-d5,1+0,2-d6,1+0,7+29e7,",
    "1+0,2-da,1+0,1+a543,1-da,1+0,3+a52a,1-da,1-45,1-d9,2-47,1+0,5-db,1+0,a+a515,1+a512,1+0,a6+54,",
    "1+0,2b-1,1+0,1-1,1+0,3-1,1+0,3+82,3+0,2e-26,1-25,3+0,1-20,11-1f,1-20,9-40,1-3f,2+0,1-3e,1-39,",
    "1+0,3-2f,1-36,1-8,1+0,1-1,*b,1-56,1-50,1+7,1-74,1+0,1-60,1+0,2-1,*1,1+0,34-20,20-50,10+0,1-1,",
    "1+0,*10,9-1,1+0,1-1,*19,1+0,2-1,1+0,1-1,*5,1-f,1+0,1-1,*2f,1+0,31-30,26+0,b49+bc0,2b+0,2+bc0,",
    "3+0,2f8-8,6+0,882-186e,1-186d,1-1864,1-1862,2-1863,1-185c,1-1825,1+89c2,1+0,f0+8a04,1+0,3+ee6,",
    "1+0,10+8a38,1+0,72-1,1+0,1-1,*49,1+0,5-3b,1+0,5-1,1+0,1-1,*2e,1+8,8+0,8+8,6+0,a+8,8+0,8+8,*1,",
    "6+0,b+8,1+0,1+8,*2,1+0,8+8,8+0,8+4a,2+56,4+64,2+80,2+70,2+7e,2+0,2+8,8+0,8+8,*2,2+0,1+9,1+0,",
    "a-1c25,1+0,4+9,1+0,c+8,2+0,e+8,2+0,3+7,1+0,d+9,1+0,15a-1c,1+0,21-10,10+0,4-1,1+0,34b-1a,1a+0,",
    "746-30,30+0,1-1,1+0,3-2a2b,1-2a28,1+0,1-1,*2,1+0,6-1,1+0,2-1,1+0,a-1,1+0,1-1,*30,1+0,8-1,1+0,",
    "1-1,1+0,4-1,1+0,c-1c60,26+0,1-1c60,1+0,5-1c60,1+0,7913-1,1+0,1-1,*15,1+0,13-1,1+0,1-1,*c,1+0,",
    "87-1,1+0,1-1,*5,1+0,3-1,1+0,1-1,*1d,1+0,a-1,1+0,1-1,1+0,2-1,1+0,1-1,*3,1+0,4-1,*1,1+0,1-1,1+30,",
    "1+0,2-1,1+0,1-1,*8,1+0,b-1,1+0,1-1,*6,1+0,4-1,1+0,1-1,1+0,6-1,1+0,5-1,1+0,1-1,1+0,1c-1,1+0,",
    "35c-3a0,1+0,1c-97d0,50+0,5381-20,1a+0,4cd-28,28+0,88-28,24+0,9b-27,b+0,1-27,f+0,1-27,7+0,1-27,",
    "2+0,703-40,33+0,bcd-20,20+0,5580-20,20+0,7aa2-22,22+0"]

/-- The lower-case offsets, decoded. -/
def lowerRuns : Array (Nat × Int) := decodeRuns readOffset lowerText

/-- The upper-case offsets, decoded. -/
def upperRuns : Array (Nat × Int) := decodeRuns readOffset upperText

/-- The code point a table of offsets maps `n` to. -/
def shift (runs : Array (Nat × Int)) (n : Nat) : Nat := ((n : Int) + lookup runs n).toNat

/-- The simple lower-case mapping of a code point. -/
def lowerCode (n : Nat) : Nat := shift lowerRuns n

/-- The simple upper-case mapping of a code point. -/
def upperCode (n : Nat) : Nat := shift upperRuns n

/-- The next member of each orbit that the case mappings do not give, as entries `c>next`. -/
def orbitText : String :=
  String.join [
    "4b>6b,53>73,6b>212a,73>17f,b5>39c,c5>e5,df>1e9e,e5>212b,130>130,131>131,17f>53,1c4>1c5,1c5>1c6,",
    "1c6>1c4,1c7>1c8,1c8>1c9,1c9>1c7,1ca>1cb,1cb>1cc,1cc>1ca,1f1>1f2,1f2>1f3,1f3>1f1,345>399,392>3b2,",
    "395>3b5,398>3b8,399>3b9,39a>3ba,39c>3bc,3a0>3c0,3a1>3c1,3a3>3c2,3a6>3c6,3a9>3c9,3b2>3d0,3b5>3f5,",
    "3b8>3d1,3b9>1fbe,3ba>3f0,3bc>b5,3c0>3d6,3c1>3f1,3c2>3c3,3c3>3a3,3c6>3d5,3c9>2126,3d0>392,",
    "3d1>3f4,3d5>3a6,3d6>3a0,3f0>39a,3f1>3a1,3f4>398,3f5>395,412>432,414>434,41e>43e,421>441,422>442,",
    "42a>44a,432>1c80,434>1c81,43e>1c82,441>1c83,442>1c84,44a>1c86,462>463,463>1c87,1c80>412,",
    "1c81>414,1c82>41e,1c83>421,1c84>1c85,1c85>422,1c86>42a,1c87>462,1c88>a64a,1e60>1e61,1e61>1e9b,",
    "1e9b>1e60,1e9e>df,1fbe>345,2126>3a9,212a>4b,212b>c5,a64a>a64b,a64b>1c88"]

/-- The orbit steps, decoded. -/
def orbitTable : Array (Nat × Nat) :=
  ((orbitText.splitOn ",").map fun e => let (n, r) := splitEntry e; (n, hexNumber (r.drop 1))).toArray

/-- The next member of the orbit of `n` under simple case folding, in increasing order and
wrapping around; `n` itself when its orbit has no other member. -/
def simpleFold (n : Nat) : Nat :=
  match orbitTable[searchRuns orbitTable n (Nat.log2 orbitTable.size + 1) 0 orbitTable.size]? with
  | some (c, next) => if c == n then next else if lowerCode n != n then lowerCode n else upperCode n
  | none => if lowerCode n != n then lowerCode n else upperCode n

/-- The orbit of `n` under simple case folding, starting at `n`. Orbits have at most four
members; `fuel` bounds the walk. -/
def orbitFrom (n : Nat) : Nat → Nat → List Nat
  | 0, _ => []
  | fuel + 1, c =>
    let next := simpleFold c
    if next == n then [c] else c :: orbitFrom n fuel next

/-- The orbit of `n`: the code points equivalent to it under simple case folding. -/
def orbit (n : Nat) : List Nat := orbitFrom n 8 n

end CreditExtraction.Text.UnicodeData
