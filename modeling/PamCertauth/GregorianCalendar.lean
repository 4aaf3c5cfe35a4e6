import Mathlib.Algebra.BigOperators.Intervals
import Mathlib.Algebra.Order.BigOperators.Group.Finset
import Mathlib.Data.Prod.Lex
import Mathlib.Tactic.IntervalCases

/-!
# The proleptic Gregorian calendar

Dates from the year 0 on, with the leap rule carried back to it. The day number of a date counts
the days since 1 January of the year 0. It grows by one from each date to the next, so that it
orders the dates as their fields do and no two dates share one.

Algorithms count in years that begin in March, behind the leap day. Such years repeat every 400
years, and the days of a period of that length are taken apart into its centuries, periods of
four years, years and days.
-/

namespace PamCertauth.GregorianCalendar

def IsLeap (y : ℕ) : Prop := 4 ∣ y ∧ (100 ∣ y → 400 ∣ y)

instance : DecidablePred IsLeap := fun y =>
  inferInstanceAs (Decidable (4 ∣ y ∧ (100 ∣ y → 400 ∣ y)))

def daysInMonth (y : ℕ) : ℕ → ℕ
  | 2 => if IsLeap y then 29 else 28
  | 4 => 30
  | 6 => 30
  | 9 => 30
  | 11 => 30
  | _ => 31

def daysInYear (y : ℕ) : ℕ := if IsLeap y then 366 else 365

def daysBeforeYear (y : ℕ) : ℕ := ∑ k ∈ Finset.range y, daysInYear k

def daysBeforeMonth (y m : ℕ) : ℕ := ∑ k ∈ Finset.Ico 1 m, daysInMonth y k

theorem daysBeforeYear_succ (y : ℕ) :
    daysBeforeYear (y + 1) = daysBeforeYear y + daysInYear y :=
  Finset.sum_range_succ _ _

theorem daysBeforeMonth_succ (y : ℕ) {m : ℕ} (h : 1 ≤ m) :
    daysBeforeMonth y (m + 1) = daysBeforeMonth y m + daysInMonth y m :=
  Finset.sum_Ico_succ_top h _

theorem daysBeforeYear_mono : Monotone daysBeforeYear := by
  intro y y' h
  exact Finset.sum_le_sum_of_subset (Finset.range_mono h)

theorem daysBeforeMonth_mono (y : ℕ) : Monotone (daysBeforeMonth y) := by
  intro m m' h
  exact Finset.sum_le_sum_of_subset (Finset.Ico_subset_Ico_right h)

theorem daysInMonth_pos (y m : ℕ) : 0 < daysInMonth y m := by
  fun_cases daysInMonth y m <;> decide

/-- The months of a year are its days. -/
theorem daysBeforeMonth_thirteen (y : ℕ) : daysBeforeMonth y 13 = daysInYear y := by
  simp only [daysBeforeMonth, Finset.sum_Ico_eq_sum_range, Finset.sum_range_succ, daysInMonth,
    Finset.sum_range_zero, daysInYear]
  split <;> rfl

@[ext]
structure Date where
  year : ℕ
  month : ℕ
  day : ℕ
  month_pos : 1 ≤ month
  month_le : month ≤ 12
  day_pos : 1 ≤ day
  day_le : day ≤ daysInMonth year month
  deriving DecidableEq

/-- The days from 1 January of the year 0 to a date. -/
def dayNumber (y m d : ℕ) : ℕ := daysBeforeYear y + daysBeforeMonth y m + (d - 1)

namespace Date

def number (d : Date) : ℕ := dayNumber d.year d.month d.day

def key (d : Date) : ℕ ×ₗ ℕ ×ₗ ℕ := toLex (d.year, toLex (d.month, d.day))

theorem key_injective : Function.Injective key := by
  intro a b h
  have hyear : a.year = b.year := congrArg (fun k => (ofLex k).1) h
  have hmonth : a.month = b.month := congrArg (fun k => (ofLex (ofLex k).2).1) h
  have hday : a.day = b.day := congrArg (fun k => (ofLex (ofLex k).2).2) h
  exact Date.ext hyear hmonth hday

instance : LinearOrder Date := LinearOrder.lift' key key_injective

theorem lt_iff {a b : Date} : a < b ↔ a.year < b.year ∨ a.year = b.year ∧
    (a.month < b.month ∨ a.month = b.month ∧ a.day < b.day) := by
  have hkey : a < b ↔ a.key < b.key := Iff.rfl
  rw [hkey, key, key, Prod.Lex.toLex_lt_toLex, Prod.Lex.toLex_lt_toLex]

theorem number_lt_month (d : Date) :
    d.number < daysBeforeYear d.year + daysBeforeMonth d.year (d.month + 1) := by
  have hsucc := daysBeforeMonth_succ d.year d.month_pos
  have hpos := d.day_pos
  have hle := d.day_le
  rw [number, dayNumber]
  omega

theorem number_lt_year (d : Date) : d.number < daysBeforeYear (d.year + 1) := by
  have hmonths := daysBeforeMonth_mono d.year (Nat.add_le_add_right d.month_le 1)
  have hyear := daysBeforeMonth_thirteen d.year
  have hlt := d.number_lt_month
  rw [daysBeforeYear_succ, ← hyear]
  exact hlt.trans_le (Nat.add_le_add_left hmonths _)

/-- Later dates have greater numbers: the split follows the first field that differs. -/
theorem number_strictMono : StrictMono number := by
  intro a b hlt
  rcases lt_iff.mp hlt with hyear | ⟨hyear, hmonth | ⟨hmonth, hday⟩⟩
  · have hbound := daysBeforeYear_mono (Nat.succ_le_of_lt hyear)
    calc a.number < daysBeforeYear (a.year + 1) := a.number_lt_year
      _ ≤ daysBeforeYear b.year := hbound
      _ ≤ b.number := by rw [number, dayNumber]; omega
  · have hbound := daysBeforeMonth_mono b.year (Nat.succ_le_of_lt hmonth)
    have hbefore := a.number_lt_month
    rw [hyear] at hbefore
    calc a.number < daysBeforeYear b.year + daysBeforeMonth b.year (a.month + 1) := hbefore
      _ ≤ daysBeforeYear b.year + daysBeforeMonth b.year b.month := Nat.add_le_add_left hbound _
      _ ≤ b.number := Nat.le_add_right _ _
  · have hpos := a.day_pos
    rw [number, number, dayNumber, dayNumber, hyear, hmonth]
    omega

theorem number_lt_daysBeforeYear_iff {d : Date} {y : ℕ} :
    d.number < daysBeforeYear y ↔ d.year < y := by
  constructor
  · intro hlt
    by_contra hle
    have hmono := daysBeforeYear_mono (not_lt.mp hle)
    rw [number, dayNumber] at hlt
    omega
  · intro hlt
    exact d.number_lt_year.trans_le (daysBeforeYear_mono hlt)

/-- The first day of a year. -/
def newYear (y : ℕ) : Date where
  year := y
  month := 1
  day := 1
  month_pos := le_rfl
  month_le := by decide
  day_pos := le_rfl
  day_le := daysInMonth_pos _ _

theorem number_newYear (y : ℕ) : (newYear y).number = daysBeforeYear y := rfl

/-- The day behind a date. -/
def next (d : Date) : Date :=
  if hday : d.day < daysInMonth d.year d.month then
    { d with day := d.day + 1, day_pos := Nat.le_add_left 1 _, day_le := hday }
  else if hmonth : d.month < 12 then
    { year := d.year
      month := d.month + 1
      day := 1
      month_pos := Nat.le_add_left 1 _
      month_le := hmonth
      day_pos := le_rfl
      day_le := daysInMonth_pos _ _ }
  else newYear (d.year + 1)

theorem number_next (d : Date) : d.next.number = d.number + 1 := by
  have hpos := d.day_pos
  rw [next]
  split_ifs with hday hmonth
  · simp only [number, dayNumber]
    omega
  · have hlast : d.day = daysInMonth d.year d.month := le_antisymm d.day_le (not_lt.mp hday)
    have hsucc := daysBeforeMonth_succ d.year d.month_pos
    simp only [number, dayNumber]
    omega
  · have hlast : d.day = daysInMonth d.year d.month := le_antisymm d.day_le (not_lt.mp hday)
    have htwelve : d.month = 12 := le_antisymm d.month_le (not_lt.mp hmonth)
    have hsucc := daysBeforeMonth_succ d.year d.month_pos
    rw [htwelve, daysBeforeMonth_thirteen] at hsucc
    rw [htwelve] at hlast
    rw [number_newYear, number, dayNumber, daysBeforeYear_succ, htwelve]
    omega

theorem number_iterate_next (d : Date) (n : ℕ) : (next^[n] d).number = d.number + n := by
  induction n with
  | zero => rfl
  | succ n ih => rw [Function.iterate_succ_apply', number_next, ih, Nat.add_assoc]

/-- A date is known by the number of days since another one. -/
theorem eq_iterate_next {d d' : Date} {n : ℕ} (h : d'.number = d.number + n) : d' = next^[n] d := by
  apply number_strictMono.injective
  rw [h, number_iterate_next]

end Date

/-- A second of a date. Every day has 86400 of them. -/
@[ext]
structure Moment where
  date : Date
  hour : ℕ
  minute : ℕ
  second : ℕ
  hour_lt : hour < 24
  minute_lt : minute < 60
  second_lt : second < 60

namespace Moment

/-- The seconds since the beginning of the year 0. -/
def number (m : Moment) : ℕ :=
  m.date.number * 86400 + (m.hour * 3600 + m.minute * 60 + m.second)

def key (m : Moment) : Date ×ₗ ℕ ×ₗ ℕ ×ₗ ℕ :=
  toLex (m.date, toLex (m.hour, toLex (m.minute, m.second)))

theorem key_injective : Function.Injective key := by
  intro a b h
  have hdate : a.date = b.date := congrArg (fun k => (ofLex k).1) h
  have hhour : a.hour = b.hour := congrArg (fun k => (ofLex (ofLex k).2).1) h
  have hminute : a.minute = b.minute := congrArg (fun k => (ofLex (ofLex (ofLex k).2).2).1) h
  have hsecond : a.second = b.second := congrArg (fun k => (ofLex (ofLex (ofLex k).2).2).2) h
  exact Moment.ext hdate hhour hminute hsecond

instance : LinearOrder Moment := LinearOrder.lift' key key_injective

theorem lt_iff {a b : Moment} : a < b ↔ a.date < b.date ∨ a.date = b.date ∧
    (a.hour < b.hour ∨ a.hour = b.hour ∧
      (a.minute < b.minute ∨ a.minute = b.minute ∧ a.second < b.second)) := by
  have hkey : a < b ↔ a.key < b.key := Iff.rfl
  rw [hkey, key, key, Prod.Lex.toLex_lt_toLex, Prod.Lex.toLex_lt_toLex, Prod.Lex.toLex_lt_toLex]

theorem number_strictMono : StrictMono number := by
  intro a b hlt
  have hhour := a.hour_lt
  have hminute := a.minute_lt
  have hsecond := a.second_lt
  rcases lt_iff.mp hlt with hdate | ⟨hdate, hlt⟩
  · have hnumber := Date.number_strictMono hdate
    rw [number, number]
    omega
  · rw [number, number, hdate]
    omega

end Moment

/-- The days from 1 March of the year 0 to 1 March of a year. -/
def marchDays (y : ℕ) : ℕ := 365 * y + y / 4 - y / 100 + y / 400

theorem daysBeforeMonth_three (y : ℕ) :
    daysBeforeMonth y 3 = if IsLeap y then 60 else 59 := by
  simp only [daysBeforeMonth, Finset.sum_Ico_eq_sum_range, Finset.sum_range_succ, daysInMonth,
    Finset.sum_range_zero]
  split <;> rfl

theorem daysInYear_eq (y : ℕ) : daysInYear y = daysBeforeMonth y 3 + 306 := by
  rw [daysBeforeMonth_three, daysInYear]
  split <;> rfl

/-- The leap day at the end of a year that begins in March is that of the year behind it. -/
theorem marchDays_succ (y : ℕ) : marchDays (y + 1) = marchDays y + daysInYear (y + 1) := by
  have hcenturies : y / 100 ≤ y / 4 := Nat.div_le_div_left (by decide) (by decide)
  have hfour : 100 ∣ y + 1 → 4 ∣ y + 1 := Nat.dvd_trans (by decide)
  have hhundred : 400 ∣ y + 1 → 100 ∣ y + 1 := Nat.dvd_trans (by decide)
  rw [marchDays, marchDays, daysInYear, Nat.succ_div, Nat.succ_div, Nat.succ_div]
  -- The three divisions step together: a multiple of 400 is one of 100, and that one of 4.
  by_cases h4 : 4 ∣ y + 1
  · by_cases h100 : 100 ∣ y + 1
    · by_cases h400 : 400 ∣ y + 1
      · rw [if_pos h4, if_pos h100, if_pos h400, if_pos ⟨h4, fun _ => h400⟩]
        omega
      · rw [if_pos h4, if_pos h100, if_neg h400, if_neg fun h => h400 (h.2 h100)]
        omega
    · rw [if_pos h4, if_neg h100, if_neg (mt hhundred h100), if_pos ⟨h4, (absurd · h100)⟩]
      omega
  · have h100 := mt hfour h4
    rw [if_neg h4, if_neg h100, if_neg (mt hhundred h100), if_neg fun h => h4 h.1]
    omega

theorem daysBeforeYear_add_march (y : ℕ) :
    daysBeforeYear y + daysBeforeMonth y 3 = marchDays y + 60 := by
  induction y with
  | zero => rfl
  | succ y ih =>
    have hyear := daysInYear_eq y
    have hnext := daysInYear_eq (y + 1)
    rw [daysBeforeYear_succ, marchDays_succ]
    omega

/-- The month, counted from March, in which the day `r` of such a year lies. -/
def marchMonth (r : ℕ) : ℕ := (5 * r + 2) / 153

/-- The days of such a year before a month. -/
def marchOffset (k : ℕ) : ℕ := (153 * k + 2) / 5

theorem marchMonth_spec {y r : ℕ} (h : r < daysInYear y) :
    marchMonth r ≤ 11 ∧ marchOffset (marchMonth r) ≤ r ∧ r < marchOffset (marchMonth r + 1) := by
  have hyear : daysInYear y ≤ 366 := by
    rw [daysInYear]
    split <;> decide
  rw [marchOffset, marchOffset, marchMonth]
  omega

theorem marchOffset_succ (y : ℕ) {k : ℕ} (h : k ≤ 9) :
    marchOffset (k + 1) = marchOffset k + daysInMonth y (k + 3) := by
  interval_cases k <;> rfl

/-- The months from March on, all behind the leap day. -/
theorem daysBeforeMonth_add_three (y : ℕ) {k : ℕ} (h : k ≤ 9) :
    daysBeforeMonth y (k + 3) = daysBeforeMonth y 3 + marchOffset k := by
  induction k with
  | zero => rfl
  | succ k ih =>
    have hk : k ≤ 9 := Nat.le_of_succ_le h
    rw [Nat.add_right_comm, daysBeforeMonth_succ y (Nat.le_add_left 1 _), ih hk,
      marchOffset_succ y hk, Nat.add_assoc]

/-- January and February belong to the next year, and February ends the year. -/
theorem winter_day_le {y r : ℕ} (h : r < daysInYear y) (hk : ¬ marchMonth r ≤ 9) :
    r - marchOffset (marchMonth r) + 1 ≤ daysInMonth y (marchMonth r - 9) := by
  obtain ⟨hle, hstart, hend⟩ := marchMonth_spec h
  have hfebruary : daysInYear y = marchOffset 11 + daysInMonth y 2 := by
    rw [daysInYear, daysInMonth]
    split <;> rfl
  have hmonth : marchMonth r = 10 ∨ marchMonth r = 11 := by omega
  rcases hmonth with hmonth | hmonth
  · rw [hmonth] at hstart hend ⊢
    have hjanuary : marchOffset (10 + 1) = marchOffset 10 + daysInMonth y 1 := rfl
    change r - marchOffset 10 + 1 ≤ daysInMonth y 1
    omega
  · rw [hmonth] at hstart ⊢
    change r - marchOffset 11 + 1 ≤ daysInMonth y 2
    omega

theorem daysBeforeMonth_winter (y : ℕ) {k : ℕ} (h : k ≤ 11) (hk : ¬ k ≤ 9) :
    daysBeforeMonth y (k - 9) + 306 = marchOffset k := by
  have hwinter : k = 10 ∨ k = 11 := by omega
  rcases hwinter with rfl | rfl <;> rfl

namespace Date

/-- The day `r` of the year that begins in March of `y`. -/
def ofMarch (y r : ℕ) (h : r < daysInYear (y + 1)) : Date :=
  if hk : marchMonth r ≤ 9 then
    { year := y
      month := marchMonth r + 3
      day := r - marchOffset (marchMonth r) + 1
      month_pos := Nat.le_add_left 1 _
      month_le := Nat.add_le_add_right hk 3
      day_pos := Nat.le_add_left 1 _
      day_le := by
        obtain ⟨-, hstart, hend⟩ := marchMonth_spec h
        rw [marchOffset_succ y hk] at hend
        omega }
  else
    { year := y + 1
      month := marchMonth r - 9
      day := r - marchOffset (marchMonth r) + 1
      month_pos := by omega
      month_le := by
        have hle := (marchMonth_spec h).1
        omega
      day_pos := Nat.le_add_left 1 _
      day_le := winter_day_le h hk }

theorem number_ofMarch {y r : ℕ} (h : r < daysInYear (y + 1)) :
    (ofMarch y r h).number = marchDays y + 60 + r := by
  have hmarch := daysBeforeYear_add_march y
  obtain ⟨hle, hstart, -⟩ := marchMonth_spec h
  rw [ofMarch]
  split_ifs with hk
  · simp only [number, dayNumber, daysBeforeMonth_add_three y hk]
    omega
  · have hyear := daysInYear_eq y
    have hwinter := daysBeforeMonth_winter (y + 1) hle hk
    simp only [number, dayNumber, daysBeforeYear_succ]
    omega

end Date

/-- The days of 400 years are taken apart into centuries, periods of four years, years and days.
A year has a 366th day if it is the last one of four, unless its century ends without one. -/
theorem exists_eraDigits {n : ℕ} (h : n < 146097) :
    ∃ c k j r, n = 36524 * c + 1461 * k + 365 * j + r ∧ c ≤ 3 ∧ k ≤ 24 ∧ j ≤ 3 ∧ r ≤ 365 ∧
      (r = 365 → j = 3 ∧ (k = 24 → c = 3)) := by
  obtain ⟨c, a, hc, ha, rfl⟩ : ∃ c a, c ≤ 3 ∧ (a < 36524 ∨ a = 36524 ∧ c = 3) ∧
      n = 36524 * c + a := by
    by_cases hlast : n = 146096
    · exact ⟨3, 36524, le_rfl, .inr ⟨rfl, rfl⟩, hlast⟩
    · exact ⟨n / 36524, n % 36524, by omega, by omega, (Nat.div_add_mod _ _).symm⟩
  obtain ⟨k, b, hb, rfl⟩ : ∃ k b, b < 1461 ∧ a = 1461 * k + b :=
    ⟨a / 1461, a % 1461, Nat.mod_lt _ (by decide), (Nat.div_add_mod _ _).symm⟩
  by_cases hlong : b = 1460
  · exact ⟨c, k, 3, 365, by omega, hc, by omega, le_rfl, le_rfl, fun _ => ⟨rfl, by omega⟩⟩
  · exact ⟨c, k, b / 365, b % 365, by omega, hc, by omega, by omega, by omega, by omega⟩

theorem marchDays_digits {c k j : ℕ} (e : ℕ) (hc : c ≤ 3) (hk : k ≤ 24) (hj : j ≤ 3) :
    marchDays (400 * e + 100 * c + 4 * k + j) =
      146097 * e + 36524 * c + 1461 * k + 365 * j := by
  rw [marchDays]
  omega

/-- The year has the days that its digits leave for it. -/
theorem lt_daysInYear_digits {c k j r : ℕ} (e : ℕ) (hk : k ≤ 24) (hr : r ≤ 365)
    (hlong : r = 365 → j = 3 ∧ (k = 24 → c = 3)) :
    r < daysInYear (400 * e + 100 * c + 4 * k + j + 1) := by
  rw [daysInYear]
  by_cases hlast : r = 365
  · obtain ⟨rfl, hcentury⟩ := hlong hlast
    have hleap : IsLeap (400 * e + 100 * c + 4 * k + 3 + 1) := by
      rw [IsLeap]
      omega
    rw [if_pos hleap]
    omega
  · split <;> omega

end PamCertauth.GregorianCalendar
