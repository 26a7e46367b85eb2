import Mathlib
import CreditExtraction.Store.Basic
import CreditExtraction.Proofs.Numbers.NumberText
import CreditExtraction.Proofs.Time.Calendar

/-!
# The stored time text

Stored times are written `yyyy-mm-ddThh:mm:ss.ffffffZ`, every field zero-padded to a fixed width,
and the queue compares them as text (`run_after <= now`, `ORDER BY run_after`). For years 0 to 9999
that text is an order embedding of instants truncated to the microsecond, and reading it back gives
the truncation:

* `stored_lt_iff`, `stored_le_iff`: text order is the order of the truncated instants;
* `parseTime_stored`: `Store.parseTime` reads the stored form back as `t.truncMicros`;
* `stored_length`: the stored form always has 27 characters.

The order argument has three layers. Digit blocks of one width compare as the numbers they spell
(`padNat_append_lt_iff`). The fields of the stored form, read as one number, are the `microKey` of
the instant's whole microseconds (`storedFields_eq_microKey`). And `microKey` is strictly monotone
because the date key of a day is (`dateKey_civilFromDays_strictMono`).
-/

namespace CreditExtraction.Time

open Text

/-! ## Fixed-width decimal fields -/

theorem padNat_toList (w n : Nat) :
    (padNat w n).toList = List.replicate (w - (Nat.toDigits 10 n).length) '0' ++ Nat.toDigits 10 n := by
  simp [padNat, Nat.repr_eq_ofList_toDigits]

theorem padNat_length {w n : Nat} (hw : 0 < w) (h : n < 10 ^ w) : (padNat w n).toList.length = w := by
  have := (Nat.length_toDigits_le_iff (by norm_num) hw).2 h
  simp [padNat_toList]; omega

theorem allDigits_padNat (w n : Nat) : AllDigits (padNat w n).toList := by
  rw [padNat_toList]; exact allDigits_append (allDigits_replicate_zero _) (allDigits_toDigits n)

theorem ofDigitChars_padNat (w n : Nat) : Nat.ofDigitChars 10 (padNat w n).toList 0 = n := by
  simp [padNat_toList, Nat.ofDigitChars_append]

/-- Comparing two numbers written with a common radix `P` as a leading digit and a rest. -/
theorem mul_add_lt_mul_add_iff {P x y a b : Nat} (ha : a < P) (hb : b < P) :
    P * x + a < P * y + b ↔ x < y ∨ x = y ∧ a < b := by
  constructor
  · intro h
    rcases lt_trichotomy x y with hxy | rfl | hxy
    · exact Or.inl hxy
    · exact Or.inr ⟨rfl, by omega⟩
    · have : P * (y + 1) ≤ P * x := Nat.mul_le_mul_left P hxy
      rw [Nat.mul_succ] at this; omega
  · rintro (hxy | ⟨rfl, hab⟩)
    · have : P * (x + 1) ≤ P * y := Nat.mul_le_mul_left P hxy
      rw [Nat.mul_succ] at this; omega
    · omega

theorem ofDigitChars_cons_zero {c : Char} {a : List Char} :
    Nat.ofDigitChars 10 (c :: a) 0 = 10 ^ a.length * (c.toNat - 48) + Nat.ofDigitChars 10 a 0 := by
  rw [Nat.ofDigitChars_cons, Nat.ofDigitChars_eq_ofDigitChars_zero]; simp

theorem ofDigitChars_lt_pow : ∀ {a : List Char}, AllDigits a →
    Nat.ofDigitChars 10 a 0 < 10 ^ a.length
  | [], _ => by simp
  | c :: a, h => by
    have hc := toNat_of_isDigit (h c (by simp))
    have ih := ofDigitChars_lt_pow fun d (hd : d ∈ a) => h d (by simp [hd])
    have : 10 ^ a.length * (c.toNat - 48) ≤ 10 ^ a.length * 9 := Nat.mul_le_mul_left _ (by omega)
    rw [ofDigitChars_cons_zero, List.length_cons, Nat.pow_succ]; omega

/-- Digit lists of one length compare as the numbers they spell. -/
theorem digits_lt_iff {a b : List Char} (ha : AllDigits a) (hb : AllDigits b)
    (hl : a.length = b.length) :
    a < b ↔ Nat.ofDigitChars 10 a 0 < Nat.ofDigitChars 10 b 0 := by
  induction a generalizing b with
  | nil => cases b <;> simp_all
  | cons c a ih =>
    obtain _ | ⟨d, b⟩ := b
    · simp at hl
    have hc := toNat_of_isDigit (ha c (by simp))
    have hd := toNat_of_isDigit (hb d (by simp))
    have hl' : a.length = b.length := by simpa using hl
    have ih' := ih (fun e he => ha e (by simp [he])) (fun e he => hb e (by simp [he])) hl'
    have hva := ofDigitChars_lt_pow fun e (he : e ∈ a) => ha e (by simp [he])
    have hvb := ofDigitChars_lt_pow fun e (he : e ∈ b) => hb e (by simp [he])
    have hcd : c < d ↔ c.toNat < d.toNat := UInt32.lt_iff_toNat_lt
    -- the heads decide unless they are equal, and then the tails, of one length, do
    rw [List.cons_lt_cons_iff, ih', ofDigitChars_cons_zero, ofDigitChars_cons_zero, hl',
      mul_add_lt_mul_add_iff (hl' ▸ hva) hvb, hcd, ← Char.toNat_inj]
    omega

/-- Texts that start with blocks of one length compare block first. -/
theorem append_lt_append_iff {a b r s : List Char} (hl : a.length = b.length) :
    a ++ r < b ++ s ↔ a < b ∨ a = b ∧ r < s := by
  induction a generalizing b with
  | nil => cases b <;> simp_all
  | cons c a ih =>
    obtain _ | ⟨d, b⟩ := b
    · simp at hl
    simp only [List.cons_append, List.cons_lt_cons_iff, List.cons.injEq, ih (by simpa using hl)]
    tauto

/-- Two fields of `w` digits followed by anything compare field first. -/
theorem padNat_append_lt_iff {w x x' : Nat} {r r' : List Char} (hw : 0 < w) (hx : x < 10 ^ w)
    (hx' : x' < 10 ^ w) :
    (padNat w x).toList ++ r < (padNat w x').toList ++ r' ↔ x < x' ∨ x = x' ∧ r < r' := by
  have hinj : (padNat w x).toList = (padNat w x').toList ↔ x = x' :=
    ⟨fun h => by simpa [ofDigitChars_padNat] using congrArg (Nat.ofDigitChars 10 · 0) h,
      fun h => h ▸ rfl⟩
  rw [append_lt_append_iff ((padNat_length hw hx).trans (padNat_length hw hx').symm),
    digits_lt_iff (allDigits_padNat w x) (allDigits_padNat w x')
      ((padNat_length hw hx).trans (padNat_length hw hx').symm),
    ofDigitChars_padNat, ofDigitChars_padNat, hinj]

/-! ## Reading the stored form back -/

theorem toNat!_eq_ofDigitChars {cs : List Char} (hne : cs ≠ []) (hd : AllDigits cs) :
    (String.ofList cs).toNat! = Nat.ofDigitChars 10 cs 0 := by
  have hnat : (String.ofList cs).isNat = true :=
    String.isNat_of_isDigit (by simpa using hne) (by simpa [AllDigits] using hd)
  have h := String.toNat?_eq_some_ofDigitChars hnat
  have hf : cs.filter (· != '_') = cs := List.filter_eq_self.2 fun c hc => by
    simpa using (ne_of_isDigit (hd c hc)).1
  simp only [String.toList_ofList, hf] at h
  simp only [String.toNat!, String.toNat?, String.Slice.toNat!, String.Slice.toNat?,
    String.isNat_toSlice, hnat, if_true, Option.some.injEq] at h ⊢
  exact h

theorem toNat!_padNat (w n : Nat) : (padNat w n).toNat! = n := by
  have hne : (padNat w n).toList ≠ [] := by simp [padNat_toList]
  rw [← String.ofList_toList (s := padNat w n), toNat!_eq_ofDigitChars hne (allDigits_padNat w n),
    ofDigitChars_padNat]

theorem getNum_padNat {n : Nat} (hn : n < 100) (r : List Char) (fixed : Bool) :
    getNum ((padNat 2 n).toList ++ r) fixed = some (n, r) := by
  obtain ⟨a, b, hab⟩ := List.length_eq_two.1 (padNat_length (by norm_num) hn)
  have hd := allDigits_padNat 2 n
  have hv := ofDigitChars_padNat 2 n
  rw [hab] at hd hv
  have ha := toNat_of_isDigit (hd a (by simp))
  have hb := toNat_of_isDigit (hd b (by simp))
  simp [Nat.ofDigitChars] at hv
  simp [getNum, hab, hd a (by simp), hd b (by simp)]
  omega

theorem readElems_longYear {y : Nat} (hy : y < 10000) (rest : List LayoutElem) (r : List Char)
    (f : Fields) :
    readElems (.longYear :: rest) ((padNat 4 y).toList ++ r) f = readElems rest r { f with year := y } := by
  have hl := padNat_length (w := 4) (by norm_num) hy
  have hd := allDigits_padNat 4 y
  have hv := ofDigitChars_padNat 4 y
  rcases hcs : (padNat 4 y).toList with _ | ⟨a, _ | ⟨b, _ | ⟨c, _ | ⟨d, _ | ⟨e, l⟩⟩⟩⟩⟩ <;> simp_all
  have hy' : (String.ofList [a, b, c, d]).toNat! = y := by
    rw [toNat!_eq_ofDigitChars (by simp) (by simpa [AllDigits] using hd), hv]
  simp only [readElems, hy']
  simp [hd a (by simp), hd b (by simp), hd c (by simp), hd d (by simp)]

/-- The characters of the stored form of a date `y m d`, a time `h mi s` and microseconds `fr`:
`yyyy-mm-ddThh:mm:ss.ffffffZ`. -/
def storedChars (y m d h mi s fr : Nat) : List Char :=
  (padNat 4 y).toList ++ '-' :: ((padNat 2 m).toList ++ '-' :: ((padNat 2 d).toList ++ 'T' ::
    ((padNat 2 h).toList ++ ':' :: ((padNat 2 mi).toList ++ ':' :: ((padNat 2 s).toList ++ '.' ::
      ((padNat 6 fr).toList ++ ['Z']))))))

theorem stored_toList (t : Instant) (hy : 0 ≤ t.toCivil.year) :
    t.stored.toList = storedChars t.toCivil.year.toNat t.toCivil.month t.toCivil.day t.toCivil.hour
      t.toCivil.minute t.toCivil.second (t.toCivil.nano / 1000) := by
  simp [Instant.stored, Civil.dateText, Civil.clockText, yearText, storedChars, not_lt.2 hy]

theorem readElems_storedChars {y m d h mi s fr : Nat} (hy : y < 10000) (hm : 1 ≤ m ∧ m ≤ 12)
    (hd : d < 100) (hh : h < 24) (hmi : mi < 60) (hs : s < 60) (hfr : fr < 1000000) :
    readElems [.longYear, .lit "-", .zeroMonth, .lit "-", .zeroDay, .lit "T", .hour, .lit ":",
        .zeroMinute, .lit ":", .zeroSecond, .fraction 6, .lit "Z"] (storedChars y m d h mi s fr) {} =
      .ok ⟨y, m, d, h, mi, s, fr * 1000⟩ := by
  rw [storedChars, readElems_longYear hy]
  have hl6 := padNat_length (w := 6) (by norm_num) hfr
  have hall : (padNat 6 fr).toList.all Char.isDigit = true := List.all_eq_true.2 (allDigits_padNat 6 fr)
  simp [readElems, skipLiteral, getNum_padNat (show m < 100 by omega), getNum_padNat hd,
    getNum_padNat (show h < 100 by omega), getNum_padNat (show mi < 100 by omega),
    getNum_padNat (show s < 100 by omega), show ¬(m = 0 ∨ 12 < m) by omega, not_le.2 hh,
    not_le.2 hmi, not_le.2 hs, List.take_left' hl6, List.drop_left' hl6, hall, hl6, toNat!_padNat]

theorem storedChars_length {y m d h mi s fr : Nat} (hy : y < 10000) (hm : m < 100) (hd : d < 100)
    (hh : h < 100) (hmi : mi < 100) (hs : s < 100) (hfr : fr < 1000000) :
    (storedChars y m d h mi s fr).length = 27 := by
  simp [storedChars, padNat_length (w := 4) (by norm_num) hy, padNat_length (w := 2) (by norm_num) hm,
    padNat_length (w := 2) (by norm_num) hd, padNat_length (w := 2) (by norm_num) hh,
    padNat_length (w := 2) (by norm_num) hmi, padNat_length (w := 2) (by norm_num) hs,
    padNat_length (w := 6) (by norm_num) hfr]

/-- Stored forms compare as their fields read as one number. -/
theorem storedChars_lt_iff {y m d h mi s fr y' m' d' h' mi' s' fr' : Nat}
    (hy : y < 10000) (hm : m < 100) (hd : d < 100) (hh : h < 100) (hmi : mi < 100) (hs : s < 100)
    (hfr : fr < 1000000) (hy' : y' < 10000) (hm' : m' < 100) (hd' : d' < 100) (hh' : h' < 100)
    (hmi' : mi' < 100) (hs' : s' < 100) (hfr' : fr' < 1000000) :
    storedChars y m d h mi s fr < storedChars y' m' d' h' mi' s' fr' ↔
      (((((y * 100 + m) * 100 + d) * 100 + h) * 100 + mi) * 100 + s) * 1000000 + fr <
        (((((y' * 100 + m') * 100 + d') * 100 + h') * 100 + mi') * 100 + s') * 1000000 + fr' := by
  simp only [storedChars, padNat_append_lt_iff (w := 4) (by norm_num) hy hy',
    padNat_append_lt_iff (w := 2) (by norm_num) hm hm', padNat_append_lt_iff (w := 2) (by norm_num) hd hd',
    padNat_append_lt_iff (w := 2) (by norm_num) hh hh',
    padNat_append_lt_iff (w := 2) (by norm_num) hmi hmi', padNat_append_lt_iff (w := 2) (by norm_num) hs hs',
    padNat_append_lt_iff (w := 6) (by norm_num) hfr hfr', List.cons_lt_cons_self, List.lt_irrefl,
    and_false, or_false]
  omega

/-! ## Instants -/

/-- The whole microseconds `U` since the epoch, as one number of the fields of their date and time
of day: date key, hours, minutes, seconds and microseconds. -/
def microKey (U : Int) : Int :=
  dateKey (civilFromDays (U / 86400000000)) * 1000000000000 + U % 86400000000 / 3600000000 * 10000000000 +
    U % 3600000000 / 60000000 * 100000000 + U % 60000000 / 1000000 * 1000000 + U % 1000000

theorem microKey_strictMono : StrictMono microKey := by
  intro U U' hlt
  simp only [microKey]
  rcases (Int.ediv_le_ediv (by norm_num) hlt.le : U / 86400000000 ≤ U' / 86400000000).lt_or_eq
    with hD | hD
  -- a later day has a larger date key, which outweighs the time of day
  · have : dateKey (civilFromDays (U / 86400000000)) < dateKey (civilFromDays (U' / 86400000000)) :=
      dateKey_civilFromDays_strictMono hD
    omega
  · rw [hD]; omega

/-- The date of an instant is the date of its day, counted in whole microseconds. -/
theorem toCivil_date (t : Instant) :
    (t.toCivil.year, t.toCivil.month, t.toCivil.day) =
      civilFromDays (Int.fdiv t.nanos 1000 / 86400000000) := by
  have harg : Int.fdiv (Int.fdiv t.nanos nanosPerSecond) 86400 = Int.fdiv t.nanos 1000 / 86400000000 := by
    simp [nanosPerSecond, Int.fdiv_eq_ediv]; omega
  simp [Instant.toCivil, harg]

/-- The time of day of an instant, read off its whole microseconds. -/
theorem toCivil_clock (t : Instant) :
    (t.toCivil.hour : Int) = Int.fdiv t.nanos 1000 % 86400000000 / 3600000000 ∧
      (t.toCivil.minute : Int) = Int.fdiv t.nanos 1000 % 3600000000 / 60000000 ∧
      (t.toCivil.second : Int) = Int.fdiv t.nanos 1000 % 60000000 / 1000000 ∧
      ((t.toCivil.nano / 1000 : Nat) : Int) = Int.fdiv t.nanos 1000 % 1000000 := by
  simp [Instant.toCivil, nanosPerSecond, Int.fdiv_eq_ediv, Int.fmod_eq_emod]
  omega

theorem toCivil_bounds (t : Instant) :
    1 ≤ t.toCivil.month ∧ t.toCivil.month ≤ 12 ∧ 1 ≤ t.toCivil.day ∧
      t.toCivil.day ≤ daysIn t.toCivil.month t.toCivil.year ∧ t.toCivil.hour < 24 ∧
      t.toCivil.minute < 60 ∧ t.toCivil.second < 60 ∧ t.toCivil.nano / 1000 < 1000000 := by
  have hv := civilFromDays_valid (Int.fdiv t.nanos 1000 / 86400000000)
  rw [← toCivil_date] at hv
  obtain ⟨hh, hmi, hs, hfr⟩ := toCivil_clock t
  exact ⟨hv.1, hv.2.1, hv.2.2.1, hv.2.2.2, by omega, by omega, by omega, by omega⟩

/-- Every field of the stored form of an instant of years 0 to 9999 fits its width. -/
theorem storedFields_fit {t : Instant} (ht : 0 ≤ t.toCivil.year ∧ t.toCivil.year ≤ 9999) :
    t.toCivil.year.toNat < 10000 ∧ t.toCivil.month < 100 ∧ t.toCivil.day < 100 ∧
      t.toCivil.hour < 100 ∧ t.toCivil.minute < 100 ∧ t.toCivil.second < 100 ∧
      t.toCivil.nano / 1000 < 1000000 := by
  obtain ⟨-, htm, -, htd, hth, htmi, hts, htfr⟩ := toCivil_bounds t
  have hd31 := daysIn_le t.toCivil.month t.toCivil.year
  omega

/-- The fields of the stored form, read as one number, are the micro key of the instant. -/
theorem storedFields_eq_microKey (t : Instant) (ht : 0 ≤ t.toCivil.year) :
    (((((((t.toCivil.year.toNat * 100 + t.toCivil.month) * 100 + t.toCivil.day) * 100 +
      t.toCivil.hour) * 100 + t.toCivil.minute) * 100 + t.toCivil.second) * 1000000 +
      t.toCivil.nano / 1000 : Nat) : Int) = microKey (Int.fdiv t.nanos 1000) := by
  have hc := toCivil_clock t
  simp only [microKey, ← toCivil_date, dateKey]
  push_cast
  omega

/-- The stored form orders instants by their whole microseconds. -/
theorem stored_lt_iff {t u : Instant} (ht : 0 ≤ t.toCivil.year ∧ t.toCivil.year ≤ 9999)
    (hu : 0 ≤ u.toCivil.year ∧ u.toCivil.year ≤ 9999) :
    t.stored < u.stored ↔ t.truncMicros < u.truncMicros := by
  obtain ⟨hty, htm, htd, hth, htmi, hts, htfr⟩ := storedFields_fit ht
  obtain ⟨huy, hum, hud, huh, humi, hus, hufr⟩ := storedFields_fit hu
  rw [String.lt_iff, stored_toList t ht.1, stored_toList u hu.1,
    storedChars_lt_iff hty htm htd hth htmi hts htfr huy hum hud huh humi hus hufr,
    ← Int.ofNat_lt, storedFields_eq_microKey t ht.1, storedFields_eq_microKey u hu.1,
    microKey_strictMono.lt_iff_lt]
  -- truncation keeps whole microseconds, so the order of the truncations is that of the counts
  show _ ↔ Int.fdiv t.nanos 1000 * 1000 < Int.fdiv u.nanos 1000 * 1000
  omega

theorem timeLayout_elems :
    splitLayout (Store.timeLayout.length + 1) Store.timeLayout.toList =
      [.longYear, .lit "-", .zeroMonth, .lit "-", .zeroDay, .lit "T", .hour, .lit ":", .zeroMinute,
        .lit ":", .zeroSecond, .fraction 6, .lit "Z"] := by
  decide

/-- Reading the stored form gives the instant back, truncated to whole microseconds. -/
theorem parseTime_stored {t : Instant} (ht : 0 ≤ t.toCivil.year ∧ t.toCivil.year ≤ 9999) :
    Store.parseTime t.stored = .ok t.truncMicros := by
  obtain ⟨htm0, htm, htd0, htd, hth, htmi, hts, htfr⟩ := toCivil_bounds t
  obtain ⟨hy, -, hd, -⟩ := storedFields_fit ht
  have hread := readElems_storedChars hy ⟨htm0, htm⟩ hd hth htmi hts htfr
  rw [← stored_toList t ht.1] at hread
  have hyear : ((t.toCivil.year.toNat : Nat) : Int) = t.toCivil.year := Int.toNat_of_nonneg ht.1
  have hday : ¬(t.toCivil.day < 1 ∨ t.toCivil.day > daysIn t.toCivil.month t.toCivil.year) := by omega
  simp only [Store.parseTime, parseLayout, timeLayout_elems, hread, hyear]
  rw [if_neg (by simpa using hday)]
  have hD := daysFromCivil_civilFromDays (Int.fdiv t.nanos 1000 / 86400000000)
  rw [← toCivil_date] at hD
  have hc := toCivil_clock t
  simp only [Civil.toInstant, Instant.truncMicros, Except.ok.injEq, Instant.mk.injEq, nanosPerSecond, hD]
  push_cast
  omega

/-! ## The stored codec -/

theorem stored_length {t : Instant} (ht : 0 ≤ t.toCivil.year ∧ t.toCivil.year ≤ 9999) :
    t.stored.length = 27 := by
  obtain ⟨hy, hm, hd, hh, hmi, hs, hfr⟩ := storedFields_fit ht
  rw [← String.length_toList, stored_toList t ht.1]
  exact storedChars_length hy hm hd hh hmi hs hfr

theorem stored_le_iff {t u : Instant} (ht : 0 ≤ t.toCivil.year ∧ t.toCivil.year ≤ 9999)
    (hu : 0 ≤ u.toCivil.year ∧ u.toCivil.year ≤ 9999) :
    t.stored ≤ u.stored ↔ t.truncMicros ≤ u.truncMicros := by
  show ¬u.stored < t.stored ↔ _
  rw [stored_lt_iff hu ht]
  exact Int.not_lt

theorem stored_codec_order_roundTrip (t u : Instant) (ht : 0 ≤ t.toCivil.year ∧ t.toCivil.year ≤ 9999)
    (hu : 0 ≤ u.toCivil.year ∧ u.toCivil.year ≤ 9999) :
    (t.stored < u.stored ↔ t.truncMicros < u.truncMicros) ∧
      (t.stored ≤ u.stored ↔ t.truncMicros ≤ u.truncMicros) ∧
      Store.parseTime t.stored = .ok t.truncMicros ∧ t.stored.length = 27 ∧ u.stored.length = 27 :=
  ⟨stored_lt_iff ht hu, stored_le_iff ht hu, parseTime_stored ht, stored_length ht, stored_length hu⟩

/-- Half a microsecond past 2024-03-01T08:00:00Z, and the next whole microsecond. -/
theorem stored_codec_order_roundTrip_leapYear :
    (0 ≤ (⟨1709280000000000500⟩ : Instant).toCivil.year ∧
        (⟨1709280000000000500⟩ : Instant).toCivil.year ≤ 9999) ∧
      (0 ≤ (⟨1709280000000001000⟩ : Instant).toCivil.year ∧
        (⟨1709280000000001000⟩ : Instant).toCivil.year ≤ 9999) ∧
      (((⟨1709280000000000500⟩ : Instant).stored < (⟨1709280000000001000⟩ : Instant).stored ↔
          (⟨1709280000000000500⟩ : Instant).truncMicros < (⟨1709280000000001000⟩ : Instant).truncMicros) ∧
        ((⟨1709280000000000500⟩ : Instant).stored ≤ (⟨1709280000000001000⟩ : Instant).stored ↔
          (⟨1709280000000000500⟩ : Instant).truncMicros ≤ (⟨1709280000000001000⟩ : Instant).truncMicros) ∧
        Store.parseTime (⟨1709280000000000500⟩ : Instant).stored =
          .ok (⟨1709280000000000500⟩ : Instant).truncMicros ∧
        (⟨1709280000000000500⟩ : Instant).stored.length = 27 ∧
        (⟨1709280000000001000⟩ : Instant).stored.length = 27) :=
  ⟨by decide, by decide, stored_codec_order_roundTrip _ _ (by decide) (by decide)⟩

end CreditExtraction.Time
