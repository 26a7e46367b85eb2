import Mathlib
import CreditExtraction.Time.Instant

/-!
# The day count of the proleptic Gregorian calendar

`civilFromDays` and `daysFromCivil` count years from the first of March, so that the leap day
ends a year, in eras of 400 years of 146097 days. Counted that way, the first of March of year
`y` is `marchStart y` days after that of year 0, and `civilFromDays` picks the one year whose
March starts on or before the day and the next one's after it (`civilFromDays_eq_marchDate`).

Main statements, for every day count `z`:

* `civilFromDays_valid`: the date has a month from 1 to 12 and a day within that month;
* `daysFromCivil_civilFromDays`: `daysFromCivil` counts the date back to `z`;
* `dateKey_civilFromDays_strictMono`: later days have later dates, compared field by field.
-/

namespace CreditExtraction.Time

/-- Days from 0000-03-01 to the first of March of year `y`. -/
def marchStart (y : Int) : Int := 365 * y + y / 4 - y / 100 + y / 400

theorem marchStart_succ (y : Int) :
    marchStart (y + 1) = marchStart y + 365 + if isLeap (y + 1) then 1 else 0 := by
  have h4 : (y + 1) / 4 = y / 4 + if (y + 1) % 4 = 0 then 1 else 0 := by split_ifs <;> omega
  have h100 : (y + 1) / 100 = y / 100 + if (y + 1) % 100 = 0 then 1 else 0 := by split_ifs <;> omega
  have h400 : (y + 1) / 400 = y / 400 + if (y + 1) % 400 = 0 then 1 else 0 := by split_ifs <;> omega
  simp only [marchStart, isLeap, h4, h100, h400]
  split_ifs <;> simp_all <;> omega

/-- Inside one era, the year that `civilFromDays` computes from a day of the era `doe` is the
one whose March starts on or before it and the next one's after it. -/
theorem marchStart_yearOfEra {doe : Int} (h0 : 0 ≤ doe) (h1 : doe < 146097) :
    let yoe := (doe - doe / 1460 + doe / 36524 - doe / 146096) / 365
    0 ≤ yoe ∧ yoe ≤ 399 ∧ marchStart yoe ≤ doe ∧ doe < marchStart (yoe + 1) := by
  intro yoe
  by_cases hlast : doe = 146096
  · subst hlast
    have : yoe = 399 := by simp [yoe]
    simp only [this, marchStart]; omega
  -- split the day of era into centuries `c`, four-year cycles `q` and days `r`
  obtain ⟨c, q, r, hc0, hc, hq0, hr0, hr, hqr, hd⟩ : ∃ c q r : Int, 0 ≤ c ∧ c < 4 ∧ 0 ≤ q ∧
      0 ≤ r ∧ r < 1461 ∧ 1461 * q + r < 36524 ∧ doe = 36524 * c + 1461 * q + r :=
    ⟨doe / 36524, doe % 36524 / 1461, doe % 36524 % 1461, by omega, by omega, by omega, by omega,
      by omega, by omega, by omega⟩
  obtain ⟨k, hk0, hk, hyoe, hpos, hday⟩ : ∃ k : Int, 0 ≤ k ∧ k < 4 ∧ yoe = 100 * c + 4 * q + k ∧
      0 ≤ r - 365 * k ∧ (r - 365 * k ≤ 364 ∨ r = 1460 ∧ k = 3) := by
    have hg : doe / 146096 = 0 := by omega
    have hh : doe / 36524 = c := by omega
    have he : doe / 1460 = 25 * c + q + (24 * c + q + r) / 1460 := by omega
    refine ⟨(r - (24 * c + q + r) / 1460) / 365, by omega, by omega, ?_, by omega, by omega⟩
    simp only [yoe, hg, hh, he]; omega
  clear_value yoe
  subst hyoe hd
  have hstart : marchStart (100 * c + 4 * q + k) = 36524 * c + 1461 * q + 365 * k := by
    have h4 : (100 * c + 4 * q + k) / 4 = 25 * c + q := by omega
    have h100 : (100 * c + 4 * q + k) / 100 = c := by omega
    have h400 : (100 * c + 4 * q + k) / 400 = 0 := by omega
    simp only [marchStart, h4, h100, h400]; ring
  refine ⟨by omega, by omega, by omega, ?_⟩
  rw [marchStart_succ, hstart]
  rcases hday with hday | ⟨hr1460, hk3⟩
  · split_ifs <;> omega
  · -- the last day of a four-year cycle is the leap day of a year that is not a century
    have hq : q ≤ 23 := by omega
    have hleap : isLeap (100 * c + 4 * q + k + 1) = true := by
      simp only [isLeap, hk3]; simp only [bne_iff_ne, beq_iff_eq, Bool.and_eq_true, Bool.or_eq_true]
      omega
    rw [if_pos hleap]; omega

theorem marchStart_le {y y' : Int} (h : y ≤ y') : marchStart y ≤ marchStart y' := by
  simp only [marchStart]; omega

theorem marchStart_era (y : Int) : marchStart y = y / 400 * 146097 +
    ((y - y / 400 * 400) * 365 + (y - y / 400 * 400) / 4 - (y - y / 400 * 400) / 100) := by
  simp only [marchStart]; omega

theorem marchStart_add_era (y e : Int) : marchStart (y + e * 400) = marchStart y + e * 146097 := by
  simp only [marchStart]; omega

/-- The date `doy` days after the first of March of year `y`, as `civilFromDays` computes it. -/
def marchDate (y doy : Int) : Int × Nat × Nat :=
  let mp := (5 * doy + 2) / 153
  let d := doy - (153 * mp + 2) / 5 + 1
  let m := if mp < 10 then mp + 3 else mp - 9
  (if m ≤ 2 then y + 1 else y, m.toNat, d.toNat)

/-- Every day is a day of the year that starts on the first of March before it. -/
theorem civilFromDays_eq_marchDate (z : Int) :
    ∃ y doy, z + 719468 = marchStart y + doy ∧ 0 ≤ doy ∧ marchStart y + doy < marchStart (y + 1) ∧
      civilFromDays z = marchDate y doy := by
  let era := (z + 719468) / 146097
  let doe := z + 719468 - era * 146097
  let yoe := (doe - doe / 1460 + doe / 36524 - doe / 146096) / 365
  have key : z + 719468 = marchStart (yoe + era * 400) + (doe - (365 * yoe + yoe / 4 - yoe / 100)) ∧
      0 ≤ doe - (365 * yoe + yoe / 4 - yoe / 100) ∧
      marchStart (yoe + era * 400) + (doe - (365 * yoe + yoe / 4 - yoe / 100)) <
        marchStart (yoe + era * 400 + 1) := by
    obtain ⟨h0, h1, h2, h3⟩ : 0 ≤ yoe ∧ yoe ≤ 399 ∧ marchStart yoe ≤ doe ∧ doe < marchStart (yoe + 1) :=
      marchStart_yearOfEra (by omega) (by omega)
    have hz : z + 719468 = era * 146097 + doe := by omega
    have hdoy : 365 * yoe + yoe / 4 - yoe / 100 = marchStart yoe := by simp only [marchStart]; omega
    clear_value yoe doe era
    rw [hdoy, add_right_comm, marchStart_add_era, marchStart_add_era]
    omega
  exact ⟨_, _, key.1, key.2.1, key.2.2, rfl⟩

theorem doy_lt_of_marchStart {y doy : Int} (h : marchStart y + doy < marchStart (y + 1)) :
    doy < 366 := by
  rw [marchStart_succ] at h; split_ifs at h <;> omega

section MarchDay

variable {y doy : Int} (h0 : 0 ≤ doy) (h1 : marchStart y + doy < marchStart (y + 1))
include h0 h1

/-- A day of a March year is a valid calendar date. -/
theorem marchDate_valid :
    1 ≤ (marchDate y doy).2.1 ∧ (marchDate y doy).2.1 ≤ 12 ∧ 1 ≤ (marchDate y doy).2.2 ∧
      (marchDate y doy).2.2 ≤ daysIn (marchDate y doy).2.1 (marchDate y doy).1 := by
  have h366 := doy_lt_of_marchStart h1
  rw [marchStart_succ] at h1
  obtain ⟨mp, hmp⟩ : ∃ mp, (5 * doy + 2) / 153 = mp := ⟨_, rfl⟩
  have hmp0 : 0 ≤ mp := by omega
  have hmp1 : mp ≤ 11 := by omega
  simp only [marchDate, hmp]
  interval_cases mp <;> simp [daysIn] <;> split_ifs at h1 ⊢ <;> omega

/-- `daysFromCivil` counts the day back. -/
theorem daysFromCivil_marchDate :
    daysFromCivil (marchDate y doy).1 (marchDate y doy).2.1 (marchDate y doy).2.2 =
      marchStart y + doy - 719468 := by
  have h366 := doy_lt_of_marchStart h1
  obtain ⟨mp, hmp⟩ : ∃ mp, (5 * doy + 2) / 153 = mp := ⟨_, rfl⟩
  have hmp1 : mp ≤ 11 := by omega
  have hd : 0 ≤ doy - (153 * mp + 2) / 5 + 1 := by omega
  rw [marchStart_era y]
  by_cases hlt : mp < 10
  · have hm : ((mp + 3).toNat : Int) = mp + 3 := by omega
    have hmod : (mp + 3 + 9) % 12 = mp := by omega
    simp only [marchDate, daysFromCivil, hmp, hlt, if_true, hm, hmod, Int.toNat_of_nonneg hd]
    split_ifs <;> omega
  · have hm : ((mp - 9).toNat : Int) = mp - 9 := by omega
    have hmod : (mp - 9 + 9) % 12 = mp := by omega
    have hfeb : mp - 9 ≤ 2 ∧ (mp - 9).toNat ≤ 2 := by omega
    simp only [marchDate, daysFromCivil, hmp, hlt, if_false, hfeb, if_true, add_sub_cancel_right, hm,
      hmod, Int.toNat_of_nonneg hd]
    omega

end MarchDay

/-- A date as one number, in the order of its fields: `yyyymmdd` for years from 0 to 9999. -/
def dateKey (c : Int × Nat × Nat) : Int := c.1 * 10000 + c.2.1 * 100 + c.2.2

/-- Later days of a March year have larger date keys. -/
theorem dateKey_marchDate_lt {y doy doy' : Int} (h0 : 0 ≤ doy) (hlt : doy < doy') (h1 : doy' < 366) :
    dateKey (marchDate y doy) < dateKey (marchDate y doy') := by
  obtain ⟨mp, hmp⟩ : ∃ mp, (5 * doy + 2) / 153 = mp := ⟨_, rfl⟩
  obtain ⟨mp', hmp'⟩ : ∃ mp', (5 * doy' + 2) / 153 = mp' := ⟨_, rfl⟩
  have hmono : mp ≤ mp' := hmp ▸ hmp' ▸ Int.ediv_le_ediv (by norm_num) (by omega)
  have hd : doy - (153 * mp + 2) / 5 + 1 ≤ 31 := by omega
  simp only [dateKey, marchDate, hmp, hmp']
  -- the month of the year only grows; within one month the day grows
  rcases hmono.lt_or_eq with hlt' | rfl <;> split_ifs <;> omega

/-- Any day of a later March year has a larger date key. -/
theorem dateKey_marchDate_lt_of_lt {y y' doy doy' : Int} (h0 : 0 ≤ doy) (h1 : doy < 366)
    (h0' : 0 ≤ doy') (h1' : doy' < 366) (hlt : y < y') :
    dateKey (marchDate y doy) < dateKey (marchDate y' doy') := by
  simp only [dateKey, marchDate]
  split_ifs <;> omega

theorem daysIn_le (m : Nat) (y : Int) : daysIn m y ≤ 31 := by
  unfold daysIn; split_ifs <;> omega

/-! ## Days and dates -/

/-- Every day count names a valid calendar date. -/
theorem civilFromDays_valid (z : Int) :
    1 ≤ (civilFromDays z).2.1 ∧ (civilFromDays z).2.1 ≤ 12 ∧ 1 ≤ (civilFromDays z).2.2 ∧
      (civilFromDays z).2.2 ≤ daysIn (civilFromDays z).2.1 (civilFromDays z).1 := by
  obtain ⟨y, doy, -, h0, h1, hc⟩ := civilFromDays_eq_marchDate z
  rw [hc]; exact marchDate_valid h0 h1

/-- `daysFromCivil` inverts `civilFromDays`. -/
theorem daysFromCivil_civilFromDays (z : Int) :
    daysFromCivil (civilFromDays z).1 (civilFromDays z).2.1 (civilFromDays z).2.2 = z := by
  obtain ⟨y, doy, hz, h0, h1, hc⟩ := civilFromDays_eq_marchDate z
  rw [hc, daysFromCivil_marchDate h0 h1]; omega

/-- Later days have later dates: the date key grows strictly with the day count. -/
theorem dateKey_civilFromDays_strictMono : StrictMono fun z => dateKey (civilFromDays z) := by
  intro z z' hlt
  obtain ⟨y, doy, hz, h0, h1, hc⟩ := civilFromDays_eq_marchDate z
  obtain ⟨y', doy', hz', h0', h1', hc'⟩ := civilFromDays_eq_marchDate z'
  simp only [hc, hc']
  rcases lt_trichotomy y y' with hy | rfl | hy
  · exact dateKey_marchDate_lt_of_lt h0 (doy_lt_of_marchStart h1) h0' (doy_lt_of_marchStart h1') hy
  · exact dateKey_marchDate_lt h0 (by omega) (doy_lt_of_marchStart h1')
  · -- an earlier March year ends before a later one starts
    have := marchStart_le (show y' + 1 ≤ y by omega)
    omega

end CreditExtraction.Time
