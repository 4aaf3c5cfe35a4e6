import PamCertauth.GregorianCalendar
import PamCertauth.HostIdReports

/-!
# Stamps of the host identity reports

A report of the host identity carries the time of its making, in its head line and in the name
of the file that is written to a USB stick (`dump_host_id.rs`). The seconds since the epoch are
turned into a UTC date by the arithmetic of the source, which is compared with the calendar here.
-/

namespace PamCertauth.DumpHostId

open X509 GregorianCalendar

/-- Year, month, day, hour, minute and second. -/
abbrev Utc := Int32 × UInt32 × UInt32 × UInt32 × UInt32 × UInt32

namespace Utc

def year (u : Utc) : Int32 := u.1

def month (u : Utc) : UInt32 := u.2.1

def day (u : Utc) : UInt32 := u.2.2.1

def hour (u : Utc) : UInt32 := u.2.2.2.1

def minute (u : Utc) : UInt32 := u.2.2.2.2.1

def second (u : Utc) : UInt32 := u.2.2.2.2.2

end Utc

/-- The year of a period of 400 years, by its day of the period. -/
def yearOfEra (doe : ℤ) : ℤ :=
  (doe - doe.tdiv 1460 + doe.tdiv 36524 - doe.tdiv 146096).tdiv 365

/-- The date in a year that begins in March, by its day of the year. -/
def civilFromDoy (y doy : ℤ) : Int32 × UInt32 × UInt32 :=
  let mp := (5 * doy + 2).tdiv 153
  let d := UInt32.ofInt (doy - (153 * mp + 2).tdiv 5 + 1)
  let m := UInt32.ofInt (if mp < 10 then mp + 3 else mp - 9)
  let y := if m ≤ 2 then y + 1 else y
  (Int32.ofInt y, m, d)

/-- The date part of `epoch_to_utc`. Divisions truncate. The days of a 64-bit number of seconds
are less than `2 ^ 48`, and so is every value on the way. -/
def civilFromDays (days : ℤ) : Int32 × UInt32 × UInt32 :=
  let z := days + 719468
  let era := (if 0 ≤ z then z else z - 146096).tdiv 146097
  let doe := z - era * 146097
  let yoe := yearOfEra doe
  let y := yoe + era * 400
  let doy := doe - (365 * yoe + yoe.tdiv 4 - yoe.tdiv 100)
  civilFromDoy y doy

def epochToUtc (secs : UInt64) : Utc :=
  let days := (secs / 86400).toInt64.toInt
  let secondsOfDay := (secs % 86400).toUInt32
  let h := secondsOfDay / 3600
  let mi := (secondsOfDay % 3600) / 60
  let s := secondsOfDay % 60
  let (y, m, d) := civilFromDays days
  (y, m, d, h, mi, s)

/-- A time before the epoch counts as the epoch. -/
def secsSinceEpoch (now : SystemTime) : UInt64 := UInt64.ofNat (now.toNat / 10 ^ 9)

/-- The date and the time of a stamp. -/
def stampOf (now : SystemTime) : Utc := epochToUtc (secsSinceEpoch now)

def zeroPadded (width n : ℕ) : List Char := List.leftpad width '0' (Nat.toDigits 10 n)

-- A sign counts for the width.
def signedZeroPadded (width : ℕ) (i : ℤ) : List Char :=
  if i < 0 then '-' :: zeroPadded (width - 1) i.natAbs else zeroPadded width i.natAbs

def utcStampCompact (now : SystemTime) : String :=
  let u := stampOf now
  String.ofList (signedZeroPadded 4 u.year.toInt ++ zeroPadded 2 u.month.toNat ++
    zeroPadded 2 u.day.toNat ++ ['T'] ++ zeroPadded 2 u.hour.toNat ++
    zeroPadded 2 u.minute.toNat ++ zeroPadded 2 u.second.toNat ++ ['Z'])

def utcIso8601 (now : SystemTime) : String :=
  let u := stampOf now
  String.ofList (signedZeroPadded 4 u.year.toInt ++ ['-'] ++ zeroPadded 2 u.month.toNat ++ ['-'] ++
    zeroPadded 2 u.day.toNat ++ ['T'] ++ zeroPadded 2 u.hour.toNat ++ [':'] ++
    zeroPadded 2 u.minute.toNat ++ [':'] ++ zeroPadded 2 u.second.toNat ++ ['Z'])

/-- The surroundings of a run that takes place at a time. -/
def DumpEnv.atTime (env : DumpEnv) (now : SystemTime) : DumpEnv :=
  { env with iso := utcIso8601 now, stamp := utcStampCompact now }

theorem tdiv_eq_natCast {x : ℤ} {n : ℕ} (h : x = n) (m : ℕ) : x.tdiv m = ((n / m : ℕ) : ℤ) := by
  rw [h, Int.ofNat_tdiv]

section

variable {c k j r : ℕ}

/-- The centuries of a period of 400 years. Its last day is not the first one of a fifth. -/
theorem centuries_of_era (hc : c ≤ 3) (hk : k ≤ 24) (hj : j ≤ 3) (hr : r ≤ 365)
    (hlong : r = 365 → j = 3 ∧ (k = 24 → c = 3)) :
    (36524 * c + 1461 * k + 365 * j + r) / 36524 =
      c + (36524 * c + 1461 * k + 365 * j + r) / 146096 := by
  by_cases hlast : 1461 * k + 365 * j + r < 36524
  · have hcentury : (36524 * c + 1461 * k + 365 * j + r) / 36524 = c := by
      apply Nat.div_eq_of_lt_le <;> omega
    have hera : (36524 * c + 1461 * k + 365 * j + r) / 146096 = 0 := by
      apply Nat.div_eq_of_lt
      omega
    rw [hcentury, hera, Nat.add_zero]
  · obtain rfl : k = 24 := by omega
    obtain rfl : j = 3 := by omega
    obtain rfl : r = 365 := by omega
    obtain rfl : c = 3 := (hlong rfl).2 rfl
    rfl

/-- Without its leap days a period of 400 years has years of 365 days. A division by 1460 counts
the leap days, up to an error that the last division does not see. -/
theorem years_of_era (hc : c ≤ 3) (hk : k ≤ 24) (hj : j ≤ 3) (hr : r ≤ 365)
    (hlong : r = 365 → j = 3) :
    (36524 * c + 1461 * k + 365 * j + r - (36524 * c + 1461 * k + 365 * j + r) / 1460 + c) / 365 =
      100 * c + 4 * k + j := by
  have hsplit : 36524 * c + 1461 * k + 365 * j + r =
      1460 * (25 * c + k) + (24 * c + k + 365 * j + r) := by omega
  have hleaps : (36524 * c + 1461 * k + 365 * j + r) / 1460 =
      25 * c + k + (24 * c + k + 365 * j + r) / 1460 := by
    rw [hsplit, Nat.mul_add_div (by decide)]
  have herror : (24 * c + k + 365 * j + r) / 1460 =
      if 1460 ≤ 24 * c + k + 365 * j + r then 1 else 0 := by
    split
    · apply Nat.div_eq_of_lt_le <;> omega
    · apply Nat.div_eq_of_lt
      omega
  rw [hleaps, herror]
  apply Nat.div_eq_of_lt_le <;> split <;> omega

theorem yearOfEra_digits (hc : c ≤ 3) (hk : k ≤ 24) (hj : j ≤ 3) (hr : r ≤ 365)
    (hlong : r = 365 → j = 3 ∧ (k = 24 → c = 3)) :
    yearOfEra ((36524 * c + 1461 * k + 365 * j + r : ℕ) : ℤ) = ((100 * c + 4 * k + j : ℕ) : ℤ) := by
  have hcenturies := centuries_of_era hc hk hj hr hlong
  have hyears := years_of_era hc hk hj hr fun h => (hlong h).1
  generalize 36524 * c + 1461 * k + 365 * j + r = n at hcenturies hyears ⊢
  have h1460 : (n : ℤ).tdiv 1460 = ((n / 1460 : ℕ) : ℤ) := tdiv_eq_natCast rfl 1460
  have h36524 : (n : ℤ).tdiv 36524 = ((n / 36524 : ℕ) : ℤ) := tdiv_eq_natCast rfl 36524
  have h146096 : (n : ℤ).tdiv 146096 = ((n / 146096 : ℕ) : ℤ) := tdiv_eq_natCast rfl 146096
  have hdays : (n : ℤ) - (n : ℤ).tdiv 1460 + (n : ℤ).tdiv 36524 - (n : ℤ).tdiv 146096 =
      ((n - n / 1460 + c : ℕ) : ℤ) := by
    rw [h1460, h36524, h146096, hcenturies]
    omega
  rw [yearOfEra, ← hyears]
  exact tdiv_eq_natCast hdays 365

theorem toUInt32_natCast (n : ℕ) : UInt32.ofInt n = UInt32.ofNat n := by
  have hwrap : ((n : ℤ) % 2 ^ 32).toNat = n % 2 ^ 32 := by omega
  apply UInt32.toNat_inj.mp
  rw [UInt32.ofInt, hwrap, UInt32.toNat_ofNat', UInt32.toNat_ofNat', Nat.mod_mod]

theorem ofNat_le_two_iff {n : ℕ} (h : n ≤ 12) : UInt32.ofNat n ≤ 2 ↔ n ≤ 2 := by
  have hsmall : n % 2 ^ 32 = n := by omega
  rw [UInt32.le_iff_toNat_le, UInt32.toNat_ofNat', hsmall]
  rfl

/-- The month and the day are found as the calendar has them. -/
theorem civilFromDoy_eq {y r : ℕ} (h : r < daysInYear (y + 1)) :
    civilFromDoy y r =
      (Int32.ofInt (Date.ofMarch y r h).year, UInt32.ofNat (Date.ofMarch y r h).month,
        UInt32.ofNat (Date.ofMarch y r h).day) := by
  obtain ⟨hmonth, hstart, -⟩ := marchMonth_spec h
  unfold civilFromDoy
  extract_lets mp d m y'
  have hmp : mp = marchMonth r := tdiv_eq_natCast rfl 153
  have hd : d = UInt32.ofNat (r - marchOffset (marchMonth r) + 1) := by
    have hoffset : (153 * mp + 2).tdiv 5 = marchOffset (marchMonth r) := by
      rw [hmp]
      exact tdiv_eq_natCast rfl 5
    have hday : r - (153 * mp + 2).tdiv 5 + 1 =
        ((r - marchOffset (marchMonth r) + 1 : ℕ) : ℤ) := by
      rw [hoffset]
      omega
    rw [← toUInt32_natCast, ← hday]
  rw [Date.ofMarch]
  split_ifs with hk
  · have hm : m = UInt32.ofNat (marchMonth r + 3) := by
      simp only [m, hmp, if_pos (by omega : (marchMonth r : ℤ) < 10)]
      exact toUInt32_natCast _
    have hy' : y' = y := by
      have hsummer : ¬ m ≤ 2 := by
        rw [hm, ofNat_le_two_iff (by omega)]
        omega
      simp only [y', if_neg hsummer]
    rw [hy', hm, hd]
  · have hm : m = UInt32.ofNat (marchMonth r - 9) := by
      have hindex : (marchMonth r : ℤ) - 9 = ((marchMonth r - 9 : ℕ) : ℤ) := by omega
      simp only [m, hmp, if_neg (by omega : ¬ (marchMonth r : ℤ) < 10), hindex]
      exact toUInt32_natCast _
    have hy' : y' = ((y + 1 : ℕ) : ℤ) := by
      have hwinter : m ≤ 2 := by
        rw [hm, ofNat_le_two_iff (by omega)]
        omega
      simp only [y', if_pos hwinter]
      rfl
    rw [hy', hm, hd]

theorem civilFromDays_eq {days : ℤ} (e : ℕ)
    (hdays : days + 719468 = ((146097 * e + (36524 * c + 1461 * k + 365 * j + r) : ℕ) : ℤ))
    (hc : c ≤ 3) (hk : k ≤ 24) (hj : j ≤ 3) (hr : r ≤ 365)
    (hlong : r = 365 → j = 3 ∧ (k = 24 → c = 3)) :
    civilFromDays days = civilFromDoy ((400 * e + 100 * c + 4 * k + j : ℕ) : ℤ) r := by
  unfold civilFromDays
  extract_lets z era doe yoe y doy
  have hz : z = ((146097 * e + (36524 * c + 1461 * k + 365 * j + r) : ℕ) : ℤ) := hdays
  have hera : era = e := by
    have hnonneg : 0 ≤ z := by
      rw [hz]
      exact Int.natCast_nonneg _
    have hdiv : (146097 * e + (36524 * c + 1461 * k + 365 * j + r)) / 146097 = e := by omega
    have hquotient := tdiv_eq_natCast hz 146097
    rw [hdiv] at hquotient
    simp only [era, if_pos hnonneg]
    exact hquotient
  have hdoe : doe = ((36524 * c + 1461 * k + 365 * j + r : ℕ) : ℤ) := by
    simp only [doe, hz, hera]
    omega
  have hyoe : yoe = ((100 * c + 4 * k + j : ℕ) : ℤ) := by
    simp only [yoe, hdoe]
    exact yearOfEra_digits hc hk hj hr hlong
  have hy : y = ((400 * e + 100 * c + 4 * k + j : ℕ) : ℤ) := by
    simp only [y, hyoe, hera]
    omega
  have hdoy : doy = r := by
    have hleaps : (100 * c + 4 * k + j) / 4 = 25 * c + k := by omega
    have hcentury : (100 * c + 4 * k + j) / 100 = c := by omega
    have hfour := tdiv_eq_natCast hyoe 4
    have hhundred := tdiv_eq_natCast hyoe 100
    rw [hleaps] at hfour
    rw [hcentury] at hhundred
    change doe - (365 * yoe + yoe.tdiv ((4 : ℕ) : ℤ) - yoe.tdiv ((100 : ℕ) : ℤ)) = r
    rw [hfour, hhundred, hdoe, hyoe]
    omega
  rw [hy, hdoy]

/-- The days of any number are the days of a date. -/
theorem civilFromDays_date (n : ℕ) : ∃ date : Date, date.number = n + 719528 ∧
    civilFromDays n =
      (Int32.ofInt date.year, UInt32.ofNat date.month, UInt32.ofNat date.day) := by
  have hera : (n + 719468) % 146097 < 146097 := Nat.mod_lt _ (by decide)
  obtain ⟨c, k, j, r, hdigits, hc, hk, hj, hr, hlong⟩ := exists_eraDigits hera
  have hdays : (n : ℤ) + 719468 =
      ((146097 * ((n + 719468) / 146097) + (36524 * c + 1461 * k + 365 * j + r) : ℕ) : ℤ) := by
    rw [← hdigits, Nat.div_add_mod]
    rfl
  generalize (n + 719468) / 146097 = e at hdays
  have hyear := lt_daysInYear_digits e hk hr hlong
  refine ⟨Date.ofMarch _ r hyear, ?_, ?_⟩
  · rw [Date.number_ofMarch, marchDays_digits e hc hk hj]
    omega
  · rw [civilFromDays_eq e hdays hc hk hj hr hlong, civilFromDoy_eq hyear]

end

def unixEpoch : Date := Date.newYear 1970

theorem number_unixEpoch : unixEpoch.number = 719528 := by
  have hmarch := daysBeforeYear_add_march 1970
  have hspring : daysBeforeMonth 1970 3 = 59 := rfl
  have hdays : marchDays 1970 = 719527 := rfl
  rw [unixEpoch, Date.number_newYear]
  omega

/-- The moment that lies a number of seconds behind the epoch. -/
def utcMoment (secs : ℕ) : Moment where
  date := Date.next^[secs / 86400] unixEpoch
  hour := secs % 86400 / 3600
  minute := secs % 3600 / 60
  second := secs % 60
  hour_lt := by omega
  minute_lt := by omega
  second_lt := by omega

theorem number_utcMoment (secs : ℕ) : (utcMoment secs).number = 719528 * 86400 + secs := by
  rw [Moment.number]
  simp only [utcMoment, Date.number_iterate_next, number_unixEpoch]
  omega

theorem utcMoment_strictMono : StrictMono utcMoment := by
  intro secs secs' hlt
  rw [← Moment.number_strictMono.lt_iff_lt, number_utcMoment, number_utcMoment]
  omega

/-- The stamp has the fields of the moment. -/
structure Utc.Shows (u : Utc) (m : Moment) : Prop where
  year : u.year.toInt = m.date.year
  month : u.month.toNat = m.date.month
  day : u.day.toNat = m.date.day
  hour : u.hour.toNat = m.hour
  minute : u.minute.toNat = m.minute
  second : u.second.toNat = m.second

/-- The Gregorian year of a number of seconds is one of a signed 32-bit number. -/
def YearFits (secs : UInt64) : Prop := (utcMoment secs.toNat).date.year ≤ 2147483647

/-- All seconds up to the end of the year 2147483647 do. -/
theorem yearFits_iff (secs : UInt64) : YearFits secs ↔ secs.toNat < 67767976233532800 := by
  have hmarch := daysBeforeYear_add_march 2147483648
  have hleap : daysBeforeMonth 2147483648 3 = 60 := rfl
  have hdays : marchDays 2147483648 = 784352296305 := rfl
  have hnumber : (utcMoment secs.toNat).date.number = 719528 + secs.toNat / 86400 := by
    simp only [utcMoment, Date.number_iterate_next, number_unixEpoch]
  have hyear : YearFits secs ↔ (utcMoment secs.toNat).date.year < 2147483648 :=
    Nat.lt_succ_iff.symm
  rw [hyear, ← Date.number_lt_daysBeforeYear_iff, hnumber]
  omega

theorem toInt_days (secs : UInt64) :
    (secs / 86400).toInt64.toInt = ((secs.toNat / 86400 : ℕ) : ℤ) := by
  have hdiv : (secs / 86400).toBitVec.toNat = secs.toNat / 86400 := UInt64.toNat_div secs 86400
  -- So few days leave the sign bit clear.
  have hsign : 2 * (secs / 86400).toBitVec.toNat < 2 ^ 64 := by
    have hsecs := secs.toNat_lt
    omega
  have hdays := BitVec.toInt_eq_toNat_of_lt hsign
  rw [hdiv] at hdays
  exact hdays

theorem toNat_secondsOfDay (secs : UInt64) :
    (secs % 86400).toUInt32.toNat = secs.toNat % 86400 := by
  have hmod : (secs % 86400).toNat = secs.toNat % 86400 := UInt64.toNat_mod secs 86400
  rw [UInt64.toNat_toUInt32, hmod]
  omega

theorem toNat_ofNat_of_le {n : ℕ} (h : n ≤ 31) : (UInt32.ofNat n).toNat = n := by
  rw [UInt32.toNat_ofNat']
  omega

theorem daysInMonth_le (y m : ℕ) : daysInMonth y m ≤ 31 := by
  fun_cases daysInMonth y m <;> decide

theorem epochToUtc_shows {secs : UInt64} (h : YearFits secs) :
    (epochToUtc secs).Shows (utcMoment secs.toNat) := by
  obtain ⟨date, hnumber, hcivil⟩ := civilFromDays_date (secs.toNat / 86400)
  have hdate : date = (utcMoment secs.toNat).date := by
    apply Date.eq_iterate_next
    rw [hnumber, number_unixEpoch, Nat.add_comm]
  have hseconds := toNat_secondsOfDay secs
  rw [YearFits, ← hdate] at h
  have hutc : epochToUtc secs = (Int32.ofInt date.year, UInt32.ofNat date.month,
      UInt32.ofNat date.day, (secs % 86400).toUInt32 / 3600,
      (secs % 86400).toUInt32 % 3600 / 60, (secs % 86400).toUInt32 % 60) := by
    simp only [epochToUtc, toInt_days, hcivil]
  rw [hutc]
  constructor
  · rw [← hdate]
    exact Int32.toInt_ofInt_of_le (by omega) (by omega)
  · rw [← hdate]
    exact toNat_ofNat_of_le (date.month_le.trans (by decide))
  · rw [← hdate]
    exact toNat_ofNat_of_le (date.day_le.trans (daysInMonth_le _ _))
  · change ((secs % 86400).toUInt32 / 3600).toNat = secs.toNat % 86400 / 3600
    rw [UInt32.toNat_div, hseconds]
    rfl
  · change ((secs % 86400).toUInt32 % 3600 / 60).toNat = secs.toNat % 3600 / 60
    rw [UInt32.toNat_div, UInt32.toNat_mod, hseconds]
    change secs.toNat % 86400 % 3600 / 60 = secs.toNat % 3600 / 60
    omega
  · change ((secs % 86400).toUInt32 % 60).toNat = secs.toNat % 60
    rw [UInt32.toNat_mod, hseconds]
    change secs.toNat % 86400 % 60 = secs.toNat % 60
    omega

/-- The order of stamps as tuples. -/
def Utc.Before : Utc → Utc → Prop :=
  Prod.Lex (· < ·) (Prod.Lex (· < ·) (Prod.Lex (· < ·) (Prod.Lex (· < ·)
    (Prod.Lex (· < ·) (· < ·)))))

theorem Utc.before_iff {u v : Utc} : u.Before v ↔ u.year < v.year ∨ u.year = v.year ∧
    (u.month < v.month ∨ u.month = v.month ∧ (u.day < v.day ∨ u.day = v.day ∧
      (u.hour < v.hour ∨ u.hour = v.hour ∧ (u.minute < v.minute ∨ u.minute = v.minute ∧
        u.second < v.second)))) := by
  simp only [Utc.Before, Prod.lex_def]
  rfl

theorem Utc.Shows.before {u v : Utc} {m m' : Moment} (h : u.Shows m) (h' : v.Shows m')
    (hlt : m < m') : u.Before v := by
  rw [Moment.lt_iff, Date.lt_iff, Date.ext_iff] at hlt
  rw [Utc.before_iff]
  simp only [Int32.lt_iff_toInt_lt, UInt32.lt_iff_toNat_lt, ← Int32.toInt_inj, ← UInt32.toNat_inj,
    h.year, h.month, h.day, h.hour, h.minute, h.second, h'.year, h'.month, h'.day, h'.hour,
    h'.minute, h'.second, Nat.cast_lt, Nat.cast_inj]
  omega

/-- The days since 1970-01-01 of the date, in seconds, and the time of day. -/
def Utc.toEpoch (u : Utc) : ℤ :=
  ((dayNumber u.year.toInt.toNat u.month.toNat u.day.toNat : ℤ) - dayNumber 1970 1 1) * 86400 +
    (u.hour.toNat * 3600 + u.minute.toNat * 60 + u.second.toNat)

theorem Utc.Shows.toEpoch {u : Utc} {secs : ℕ} (h : u.Shows (utcMoment secs)) :
    u.toEpoch = secs := by
  have hnumber := number_utcMoment secs
  have hepoch : dayNumber 1970 1 1 = 719528 := number_unixEpoch
  rw [Moment.number, Date.number] at hnumber
  rw [Utc.toEpoch, h.year, h.month, h.day, h.hour, h.minute, h.second, hepoch, Int.toNat_natCast]
  omega

theorem ofDigitChars_zeroPadded (width n : ℕ) :
    Nat.ofDigitChars 10 (zeroPadded width n) 0 = n := by
  rw [zeroPadded, List.leftpad]
  induction width - (Nat.toDigits 10 n).length with
  | zero => exact Nat.ofDigitChars_ten_toDigits
  | succ k ih =>
    rw [List.replicate_succ, List.cons_append, Nat.ofDigitChars_cons]
    exact ih

theorem zeroPadded_injective (width : ℕ) : Function.Injective (zeroPadded width) := by
  intro n n' heq
  rw [← ofDigitChars_zeroPadded width n, heq, ofDigitChars_zeroPadded]

theorem length_zeroPadded_two {n : ℕ} (h : n < 100) : (zeroPadded 2 n).length = 2 := by
  have hdigits : (Nat.toDigits 10 n).length ≤ 2 :=
    (Nat.length_toDigits_le_iff (by decide) (by decide)).mpr h
  rw [zeroPadded, List.length_leftpad, max_eq_left hdigits]

/-- The fields of a stamp have two digits each behind the year. -/
theorem Utc.Shows.lt_hundred {u : Utc} {m : Moment} (h : u.Shows m) :
    u.month.toNat < 100 ∧ u.day.toNat < 100 ∧ u.hour.toNat < 100 ∧ u.minute.toNat < 100 ∧
      u.second.toNat < 100 := by
  have hmonth := m.date.month_le
  have hday := m.date.day_le.trans (daysInMonth_le _ _)
  have hhour := m.hour_lt
  have hminute := m.minute_lt
  have hsecond := m.second_lt
  rw [h.month, h.day, h.hour, h.minute, h.second]
  omega

/-- The text of a stamp is read from its end, where the widths are known. -/
theorem stampOf_eq_of_utcStampCompact {now now' : SystemTime} {m m' : Moment}
    (hshows : (stampOf now).Shows m) (hshows' : (stampOf now').Shows m')
    (heq : utcStampCompact now = utcStampCompact now') : stampOf now = stampOf now' := by
  have htext := String.ofList_injective heq
  obtain ⟨hmonth, hday, hhour, hminute, hsecond⟩ := hshows.lt_hundred
  obtain ⟨hmonth', hday', hhour', hminute', hsecond'⟩ := hshows'.lt_hundred
  have hwidth : ∀ {n n' : ℕ}, n < 100 → n' < 100 →
      (zeroPadded 2 n).length = (zeroPadded 2 n').length := fun h h' => by
    rw [length_zeroPadded_two h, length_zeroPadded_two h']
  obtain ⟨htext, -⟩ := List.append_inj' htext rfl
  obtain ⟨htext, hs⟩ := List.append_inj' htext (hwidth hsecond hsecond')
  obtain ⟨htext, hmi⟩ := List.append_inj' htext (hwidth hminute hminute')
  obtain ⟨htext, hh⟩ := List.append_inj' htext (hwidth hhour hhour')
  obtain ⟨htext, -⟩ := List.append_inj' htext rfl
  obtain ⟨htext, hd⟩ := List.append_inj' htext (hwidth hday hday')
  obtain ⟨hy, hmo⟩ := List.append_inj' htext (hwidth hmonth hmonth')
  have hyear : (stampOf now).year.toInt = (stampOf now').year.toInt := by
    rw [hshows.year, hshows'.year] at hy ⊢
    exact congrArg Nat.cast (zeroPadded_injective 4 hy)
  have hfields : ∀ {a b : UInt32}, zeroPadded 2 a.toNat = zeroPadded 2 b.toNat → a = b :=
    fun h => UInt32.toNat_inj.mp (zeroPadded_injective 2 h)
  exact Prod.ext (Int32.toInt_inj.mp hyear) (Prod.ext (hfields hmo) (Prod.ext (hfields hd)
    (Prod.ext (hfields hh) (Prod.ext (hfields hmi) (hfields hs)))))

def usbFilename (hostname : String) (now : SystemTime) : String :=
  "host-ids-" ++ hostname ++ "-" ++ utcStampCompact now ++ ".tsv"

theorem deliver_usb (env : DumpEnv) (now : SystemTime) {opts : DumpHostIdOptions} (tsv : String)
    (houtput : opts.output = none) (husb : opts.usb = true) :
    (env.atTime now).deliver opts tsv = (do
      let dev ← env.pickUsbPartition
      let written ← env.writeToUsb dev (usbFilename env.hostname now) tsv
      .ok (.usb dev written)) := by
  simp only [DumpEnv.deliver, houtput, husb, if_true, DumpEnv.atTime, usbFilename]

/-- Reports of different seconds go to different files. -/
theorem usbFilename_eq_iff {hostname : String} {now now' : SystemTime}
    (hfits : YearFits (secsSinceEpoch now)) (hfits' : YearFits (secsSinceEpoch now')) :
    usbFilename hostname now = usbFilename hostname now' ↔
      secsSinceEpoch now = secsSinceEpoch now' := by
  have hshows := epochToUtc_shows hfits
  have hshows' := epochToUtc_shows hfits'
  constructor
  · intro heq
    have hstamp : utcStampCompact now = utcStampCompact now' := by
      simpa [usbFilename] using heq
    have hepoch := congrArg Utc.toEpoch (stampOf_eq_of_utcStampCompact hshows hshows' hstamp)
    rw [stampOf, stampOf, hshows.toEpoch, hshows'.toEpoch] at hepoch
    exact UInt64.toNat_inj.mp (Int.ofNat.inj hepoch)
  · intro heq
    rw [usbFilename, usbFilename, utcStampCompact, utcStampCompact, stampOf, stampOf, heq]

/-- The conversion gives the date and the time of the calendar, and it can be undone. So the
stamps of later seconds are greater. -/
theorem epoch_to_utc_gregorian :
    (∀ secs : UInt64, YearFits secs →
      (epochToUtc secs).Shows (utcMoment secs.toNat) ∧
      (1 ≤ (epochToUtc secs).month.toNat ∧ (epochToUtc secs).month.toNat ≤ 12) ∧
      (1 ≤ (epochToUtc secs).day.toNat ∧ (epochToUtc secs).day.toNat ≤
        daysInMonth (epochToUtc secs).year.toInt.toNat (epochToUtc secs).month.toNat) ∧
      (epochToUtc secs).hour < 24 ∧ (epochToUtc secs).minute < 60 ∧
      (epochToUtc secs).second < 60 ∧
      (epochToUtc secs).toEpoch = secs.toNat) ∧
    ∀ now now' : SystemTime, YearFits (secsSinceEpoch now) → YearFits (secsSinceEpoch now') →
      secsSinceEpoch now < secsSinceEpoch now' → (stampOf now).Before (stampOf now') := by
  constructor
  · intro secs hfits
    have hshows := epochToUtc_shows hfits
    refine ⟨hshows, ?_, ?_, ?_, ?_, ?_, hshows.toEpoch⟩
    · rw [hshows.month]
      exact ⟨Date.month_pos _, Date.month_le _⟩
    · rw [hshows.month, hshows.day, hshows.year, Int.toNat_natCast]
      exact ⟨Date.day_pos _, Date.day_le _⟩
    · rw [UInt32.lt_iff_toNat_lt, hshows.hour]
      exact Moment.hour_lt _
    · rw [UInt32.lt_iff_toNat_lt, hshows.minute]
      exact Moment.minute_lt _
    · rw [UInt32.lt_iff_toNat_lt, hshows.second]
      exact Moment.second_lt _
  · intro now now' hfits hfits' hlt
    apply (epochToUtc_shows hfits).before (epochToUtc_shows hfits')
    exact utcMoment_strictMono (UInt64.lt_iff_toNat_lt.mp hlt)

/-- The last second whose year fits. -/
theorem epoch_to_utc_gregorian_last :
    YearFits 67767976233532799 ∧ ¬ YearFits 67767976233532800 ∧
    (epochToUtc 67767976233532799).Shows (utcMoment (67767976233532799 : UInt64).toNat) ∧
    epochToUtc 67767976233532799 = (2147483647, 12, 31, 23, 59, 59) := by
  have hfits : YearFits 67767976233532799 := (yearFits_iff _).mpr (by decide)
  have hbeyond : ¬ YearFits 67767976233532800 := fun h => absurd ((yearFits_iff _).mp h) (by decide)
  exact ⟨hfits, hbeyond, (epoch_to_utc_gregorian.1 _ hfits).1, by decide⟩

example : epochToUtc 1777284930 = (2026, 4, 27, 10, 15, 30) := by decide

example : utcStampCompact (1777284930 * 10 ^ 9) = "20260427T101530Z" := by decide

end PamCertauth.DumpHostId
