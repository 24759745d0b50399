import Mathlib.Data.List.Basic
import Mathlib.Data.String.Basic
import Mathlib.Order.Monotone.Basic
import Sabotage.Clock

/-!
# The order of stamps

A stamp is a time in figures, of fixed widths from the year down to the microsecond, so that the
order of stamps as texts is the order of the times (`Moment.stamp_lt`). Years are counted as
`Moment.date` counts them, from March to March: such a year has as many days as `daysBefore` says,
and from a day of it the month and the day of the month follow (`Moment.date_eq`).
-/

namespace Sabotage.Moment

/-! ## Days of years -/

/-- The days before a year, for years that begin with March. -/
def daysBefore (year : Nat) : Nat :=
  365 * year + year / 4 - year / 100 + year / 400

/-- Later years begin later. -/
theorem daysBefore_mono : Monotone daysBefore := by
  refine monotone_nat_of_le_succ fun year => ?_
  simp only [daysBefore]
  omega

/-- Any four centuries have as many days. -/
theorem daysBefore_add (era year : Nat) :
    daysBefore (year + era * 400) = daysBefore year + era * 146097 := by
  have hquarter : (year + era * 400) / 4 = year / 4 + era * 100 := by omega
  have hcentury : (year + era * 400) / 100 = year / 100 + era * 4 := by omega
  have hera : (year + era * 400) / 400 = year / 400 + era := by omega
  simp only [daysBefore, hquarter, hcentury, hera]
  omega

/-- A day of four centuries is the day `r` of the year `k` of the four years `q` of the century `c`.
Only the last year of four can have a day `365`, and only the last century a day `36524`. -/
structure Quarters (day c n q k r : Nat) : Prop where
  day_eq : day = 36524 * c + n
  century : c ≤ 3
  rest : n ≤ 36524 ∧ (n = 36524 → c = 3)
  rest_eq : n = 1461 * q + 365 * k + r
  quarter : q ≤ 24
  year : k ≤ 3
  last : r ≤ 365 ∧ (r = 365 → k = 3)

/-- A day of four centuries can be taken apart. -/
theorem exists_quarters (day : Nat) (h : day < 146097) : ∃ c n q k r, Quarters day c n q k r := by
  obtain ⟨c, n, hc, hn, hday⟩ : ∃ c n, c ≤ 3 ∧ (n ≤ 36524 ∧ (n = 36524 → c = 3)) ∧
      day = 36524 * c + n := by
    by_cases hend : day = 146096
    · exact ⟨3, 36524, by omega⟩
    · exact ⟨day / 36524, day % 36524, by omega⟩
  obtain ⟨q, m, hq, hm, hrest⟩ : ∃ q m, q ≤ 24 ∧ m ≤ 1460 ∧ n = 1461 * q + m :=
    ⟨n / 1461, n % 1461, by omega⟩
  by_cases hend : m = 1460
  · exact ⟨c, n, q, 3, 365, hday, hc, hn, by omega, hq, by omega, by omega⟩
  · exact ⟨c, n, q, m / 365, m % 365, hday, hc, hn, by omega, hq, by omega, by omega⟩

section
variable {day c n q k r : Nat}

/-- The year of a day, as it is computed from the day. -/
theorem Quarters.year_eq (h : Quarters day c n q k r) :
    (day - day / 1460 + day / 36524 - day / 146096) / 365 = 100 * c + 4 * q + k := by
  obtain ⟨hday, hc, hn, hrest, hq, hk, hr⟩ := h
  have hcentury : day / 36524 = c + day / 146096 := by
    clear hr hrest hq hk
    omega
  have hquarter : day / 1460 = 25 * c + q + (24 * c + q + 365 * k + r) / 1460 := by
    clear hn hr hq hk hcentury
    omega
  generalize day / 146096 = e at *
  generalize hleap : (24 * c + q + 365 * k + r) / 1460 = f at *
  rw [hcentury, hquarter]
  omega

/-- The days before the year of a day, as they are computed from the year. -/
theorem Quarters.before_eq (h : Quarters day c n q k r) :
    365 * (100 * c + 4 * q + k) + (100 * c + 4 * q + k) / 4 - (100 * c + 4 * q + k) / 100 =
      36524 * c + 1461 * q + 365 * k := by
  obtain ⟨-, -, -, -, hq, hk, -⟩ := h
  have hquarter : (100 * c + 4 * q + k) / 4 = 25 * c + q := by omega
  have hcentury : (100 * c + 4 * q + k) / 100 = c := by omega
  rw [hquarter, hcentury]
  omega

/-- A day falls on its year, and not after it. -/
theorem Quarters.between (h : Quarters day c n q k r) :
    day = daysBefore (100 * c + 4 * q + k) + r ∧ day < daysBefore (100 * c + 4 * q + k + 1) := by
  have hbefore := h.before_eq
  obtain ⟨hday, hc, hn, hrest, hq, hk, hr⟩ := h
  have hera : (100 * c + 4 * q + k) / 400 = 0 := by omega
  refine ⟨by rw [daysBefore, hbefore, hera]; omega, ?_⟩
  have hquarter : (100 * c + 4 * q + k + 1) / 4 = 25 * c + q + (k + 1) / 4 := by omega
  have hcentury : (100 * c + 4 * q + k + 1) / 100 = c + (4 * q + k + 1) / 100 := by omega
  rw [daysBefore, hquarter, hcentury, hday]
  clear hbefore hday hera hquarter hcentury
  -- The next year is one of the same four, or begins the next four, or the next century.
  obtain hnext | ⟨rfl, hnext⟩ | ⟨rfl, rfl⟩ : k < 3 ∨ (k = 3 ∧ q < 24) ∨ (k = 3 ∧ q = 24) := by
    omega
  · have hyear : (k + 1) / 4 = 0 := by omega
    have hcentury : (4 * q + k + 1) / 100 = 0 := by omega
    omega
  · have hcentury : (4 * q + 3 + 1) / 100 = 0 := by omega
    omega
  · omega

end

/-! ## Dates -/

/-- The year, the month and the day of the month of the day `r` of a year that begins with March. -/
def marchDate (year r : Nat) : Nat × Nat × Nat :=
  let month := (5 * r + 2) / 153
  (year + (if month < 10 then 0 else 1), if month < 10 then month + 3 else month - 9,
    r - (153 * month + 2) / 5 + 1)

/-- The date of a day is that of a day of the year it falls on. -/
theorem date_eq (days : Nat) : ∃ year r, r ≤ 365 ∧ days + 719468 = daysBefore year + r ∧
    days + 719468 < daysBefore (year + 1) ∧ date days = marchDate year r := by
  obtain ⟨c, n, q, k, r, h⟩ :=
    exists_quarters ((days + 719468) % 146097) (Nat.mod_lt _ (by decide))
  obtain ⟨hday, hnext⟩ := h.between
  refine ⟨100 * c + 4 * q + k + (days + 719468) / 146097 * 400, r, h.last.1, ?_, ?_, ?_⟩
  · rw [daysBefore_add]
    omega
  · rw [Nat.add_right_comm, daysBefore_add]
    omega
  · have hrest : (days + 719468) % 146097 - (36524 * c + 1461 * q + 365 * k) = r := by
      have := h.day_eq
      have := h.rest_eq
      omega
    have hjanuary (month : Nat) (hmonth : month ≤ 11) :
        (if (if month < 10 then month + 3 else month - 9) ≤ 2 then 1 else 0) =
          if month < 10 then 0 else 1 := by
      split <;> split <;> omega
    have hmonth : (5 * r + 2) / 153 ≤ 11 := by
      have := h.last.1
      omega
    simp only [date, marchDate, h.year_eq, h.before_eq, hrest, hjanuary _ hmonth]

/-- The number that the figures of a date spell. -/
def dateNumber (date : Nat × Nat × Nat) : Nat :=
  (date.1 * 100 + date.2.1) * 100 + date.2.2

/-- The months and the days of dates have two figures. -/
theorem marchDate_lt {r : Nat} (h : r ≤ 365) (year : Nat) :
    (marchDate year r).2.1 < 100 ∧ (marchDate year r).2.2 < 100 := by
  simp only [marchDate]
  constructor
  · split <;> omega
  · generalize hmonth : (5 * r + 2) / 153 = month
    omega

/-- A later day, of the same year or of a later one, has a greater date. -/
theorem dateNumber_marchDate_lt {year year' r r' : Nat} (hr : r ≤ 365) (hr' : r' ≤ 365)
    (h : year < year' ∨ (year = year' ∧ r < r')) :
    dateNumber (marchDate year r) < dateNumber (marchDate year' r') := by
  simp only [dateNumber, marchDate]
  have hmonths : r < r' → (5 * r + 2) / 153 ≤ (5 * r' + 2) / 153 := by omega
  have hbounds {r : Nat} (hr : r ≤ 365) : (5 * r + 2) / 153 ≤ 11 ∧
      r + 1 = (153 * ((5 * r + 2) / 153) + 2) / 5 + (r - (153 * ((5 * r + 2) / 153) + 2) / 5 + 1) ∧
      r - (153 * ((5 * r + 2) / 153) + 2) / 5 + 1 ≤ 31 := by
    generalize hmonth : (5 * r + 2) / 153 = month
    omega
  obtain ⟨hlast, hsum, hday⟩ := hbounds hr
  obtain ⟨hlast', hsum', hday'⟩ := hbounds hr'
  generalize (5 * r + 2) / 153 = month at *
  generalize (5 * r' + 2) / 153 = month' at *
  generalize r - (153 * month + 2) / 5 = day at *
  generalize r' - (153 * month' + 2) / 5 = day' at *
  rcases h with hlt | ⟨rfl, hlt⟩
  · clear hsum hsum' hmonths
    split <;> split <;> omega
  · have := hmonths hlt
    split <;> split <;> omega

/-- Later days have greater dates. -/
theorem dateNumber_lt {a b : Nat} (h : a < b) : dateNumber (date a) < dateNumber (date b) := by
  obtain ⟨year, r, hr, ha, -, hdate⟩ := date_eq a
  obtain ⟨year', r', hr', hb, hend, hdate'⟩ := date_eq b
  rw [hdate, hdate']
  refine dateNumber_marchDate_lt hr hr' ?_
  have hle : year ≤ year' := by
    by_contra hlt
    have := daysBefore_mono (Nat.succ_le_of_lt (Nat.lt_of_not_le hlt))
    simp only [Nat.succ_eq_add_one] at this
    omega
  rcases Nat.lt_or_eq_of_le hle with hlt | rfl
  · exact .inl hlt
  · exact .inr ⟨rfl, by omega⟩

/-- The days of the calendar that ends with the year 9999. -/
theorem year_lt {days : Nat} (h : days < 2932897) : (date days).1 < 10000 := by
  obtain ⟨year, r, -, hdays, -, hdate⟩ := date_eq days
  have hlast : daysBefore 9999 = 3652059 := by decide
  rw [hdate, marchDate]
  by_contra hlt
  simp only [not_lt] at hlt
  have hyear : 9999 ≤ year := by
    split at hlt <;> omega
  have := daysBefore_mono hyear
  have hmonth : (5 * r + 2) / 153 < 10 := by omega
  have hnext : daysBefore 10000 = 3652425 := by decide
  rw [if_pos hmonth] at hlt
  have := daysBefore_mono hlt
  simp only [Nat.add_zero] at this
  omega

/-! ## Figures -/

/-- A text of figures, of so many of them, that spell a number. -/
structure Figures (width n : Nat) (cs : List Char) : Prop where
  length : cs.length = width
  digits : ∀ c ∈ cs, c.isDigit
  value : Nat.ofDigitChars 10 cs 0 = n

/-- What a padded number spells. -/
theorem ofDigitChars_padded (width n : Nat) :
    Nat.ofDigitChars 10 (padded width n).toList 0 = n := by
  rw [padded, String.toList_ofList, Nat.ofDigitChars_append, Nat.ofDigitChars_replicate_zero,
    Nat.mul_zero, Nat.ofDigitChars_ten_toDigits]

/-- Padded numbers are told apart. -/
theorem padded_injective (width : Nat) : Function.Injective (padded width) := by
  intro m n h
  rw [← ofDigitChars_padded width m, h, ofDigitChars_padded]

/-- A padded number is spelled in digits. -/
theorem isDigit_of_mem_padded {width n : Nat} {c : Char} (hc : c ∈ (padded width n).toList) :
    c.isDigit := by
  rw [padded, String.toList_ofList, List.mem_append] at hc
  rcases hc with hc | hc
  · rw [List.eq_of_mem_replicate hc]
    decide
  · exact Nat.isDigit_of_mem_toDigits (by decide) (by decide) hc

/-- A padded number that is not too long has the width of the padding. -/
theorem figures_padded (width n : Nat) (hwidth : 0 < width) (h : n < 10 ^ width) :
    Figures width n (padded width n).toList where
  length := by
    have := (Nat.length_toDigits_le_iff (b := 10) (by decide) hwidth).2 h
    rw [padded, String.toList_ofList, List.length_append, List.length_replicate]
    omega
  digits _ := isDigit_of_mem_padded
  value := ofDigitChars_padded width n

/-- Figures one after the other. -/
theorem Figures.append {v w m n : Nat} {a b : List Char} (ha : Figures v m a)
    (hb : Figures w n b) : Figures (v + w) (m * 10 ^ w + n) (a ++ b) where
  length := by rw [List.length_append, ha.length, hb.length]
  digits := List.forall_mem_append.2 ⟨ha.digits, hb.digits⟩
  value := by
    rw [Nat.ofDigitChars_append, ha.value, Nat.ofDigitChars_eq_ofDigitChars_zero, hb.value,
      hb.length, Nat.mul_comm]

/-- Figures spell less than the number with one figure more and zeros. -/
theorem ofDigitChars_lt {cs : List Char} (h : ∀ c ∈ cs, c.isDigit) :
    Nat.ofDigitChars 10 cs 0 < 10 ^ cs.length := by
  induction cs with
  | nil => decide
  | cons c cs ih =>
    obtain ⟨hc, hcs⟩ := List.forall_mem_cons.1 h
    have hdigit : c.toNat - '0'.toNat ≤ 9 := by
      simp only [Char.isDigit, Bool.and_eq_true, decide_eq_true_eq, UInt32.le_iff_toNat_le] at hc
      have : c.val.toNat ≤ 57 := hc.2
      change c.val.toNat - 48 ≤ 9
      omega
    have := ih hcs
    have := Nat.mul_le_mul_left (10 ^ cs.length) hdigit
    rw [Nat.ofDigitChars_cons, Nat.ofDigitChars_eq_ofDigitChars_zero, List.length_cons,
      Nat.pow_succ, Nat.mul_zero, Nat.zero_add]
    omega

/-- Of two texts of as many figures the one that spells less comes first. -/
theorem lt_of_ofDigitChars_lt {a b : List Char} {init : Nat} (hlength : a.length = b.length)
    (ha : ∀ c ∈ a, c.isDigit) (hb : ∀ c ∈ b, c.isDigit)
    (h : Nat.ofDigitChars 10 a init < Nat.ofDigitChars 10 b init) : a < b := by
  induction a generalizing b init with
  | nil =>
    rw [List.length_eq_zero_iff.1 hlength.symm] at h
    exact absurd h (Nat.lt_irrefl _)
  | cons c a ih =>
    cases b with
    | nil => cases hlength
    | cons d b =>
      obtain ⟨hc, ha⟩ := List.forall_mem_cons.1 ha
      obtain ⟨hd, hb'⟩ := List.forall_mem_cons.1 hb
      replace hlength : a.length = b.length := Nat.succ.inj hlength
      rw [Nat.ofDigitChars_cons, Nat.ofDigitChars_cons] at h
      rcases lt_trichotomy c d with hlt | rfl | hgt
      · exact List.cons_lt_cons_iff.2 (.inl hlt)
      · exact List.cons_lt_cons_iff.2 (.inr ⟨rfl, ih hlength ha hb' h⟩)
      · -- A greater first figure cannot be made up for.
        have hgt : d.toNat < c.toNat := hgt
        have hzero : '0'.toNat ≤ d.toNat := by
          simp only [Char.isDigit, Bool.and_eq_true, decide_eq_true_eq] at hd
          exact hd.1
        have hrest := ofDigitChars_lt hb'
        rw [Nat.ofDigitChars_eq_ofDigitChars_zero, Nat.ofDigitChars_eq_ofDigitChars_zero (l := b),
          hlength] at h
        have hfirst : 10 * init + (d.toNat - '0'.toNat) + 1 ≤
            10 * init + (c.toNat - '0'.toNat) := by
          omega
        have := Nat.mul_le_mul_left (10 ^ b.length) hfirst
        rw [Nat.mul_add, Nat.mul_one] at this
        omega

/-- Figures that spell less come first. -/
theorem Figures.lt {width m n : Nat} {a b : List Char} (ha : Figures width m a)
    (hb : Figures width n b) (h : m < n) : a < b :=
  lt_of_ofDigitChars_lt (ha.length.trans hb.length.symm) ha.digits hb.digits
    (by rwa [ha.value, hb.value])

/-- A text that comes before another one of the same length does so whatever follows them. -/
theorem append_lt_append {a b : List Char} (hlength : a.length = b.length) (h : a < b)
    (x y : List Char) : a ++ x < b ++ y := by
  induction a generalizing b with
  | nil =>
    rw [List.length_eq_zero_iff.1 hlength.symm] at h
    exact absurd h (List.lt_irrefl _)
  | cons c a ih =>
    cases b with
    | nil => cases hlength
    | cons d b =>
      rw [List.cons_append, List.cons_append, List.cons_lt_cons_iff]
      rcases List.cons_lt_cons_iff.1 h with hlt | ⟨rfl, hlt⟩
      · exact .inl hlt
      · exact .inr ⟨rfl, ih (Nat.succ.inj hlength) hlt⟩

/-! ## Stamps -/

/-- The number of microseconds up to the end of the year 9999. -/
def limit : Nat :=
  253402300800000000

/-- The number that the figures of a time of day spell. -/
def timeNumber (seconds : Nat) : Nat :=
  (seconds / 3600 * 100 + seconds / 60 % 60) * 100 + seconds % 60

/-- Later times of day have greater numbers. -/
theorem timeNumber_lt {a b : Nat} (h : a < b) : timeNumber a < timeNumber b := by
  have hhour (seconds : Nat) : seconds / 3600 = seconds / 60 / 60 := by omega
  have hminute : a / 60 < b / 60 ∨ (a / 60 = b / 60 ∧ a % 60 < b % 60) := by omega
  simp only [timeNumber, hhour]
  have := Nat.mod_lt a (y := 60) (by decide)
  generalize a / 60 = m at *
  generalize b / 60 = n at *
  have hhour : m < n → m / 60 * 100 + m % 60 < n / 60 * 100 + n % 60 := by omega
  rcases hminute with hlt | ⟨rfl, hlt⟩
  · have := hhour hlt
    omega
  · omega

/-- The date in figures. -/
def dateText (date : Nat × Nat × Nat) : String :=
  padded 4 date.1 ++ padded 2 date.2.1 ++ padded 2 date.2.2

/-- The time of day in figures. -/
def timeText (seconds : Nat) : String :=
  padded 2 (seconds / 3600) ++ padded 2 (seconds / 60 % 60) ++ padded 2 (seconds % 60)

/-- A stamp is the date, the time of day and the microseconds. -/
theorem toList_stamp (micros : Nat) :
    (ofMicros micros).stamp.toList =
      (dateText (date (micros / 1000000 / 86400))).toList ++
        '_' :: ((timeText (micros / 1000000 % 86400)).toList ++
          '_' :: (padded 6 (micros % 1000000)).toList) := by
  simp [stamp, ofMicros, dateText, timeText]

/-- The figures of a date of the calendar. -/
theorem figures_dateText (days : Nat) (h : days < 2932897) :
    Figures 8 (dateNumber (date days)) (dateText (date days)).toList := by
  obtain ⟨year, r, hr, -, -, hdate⟩ := date_eq days
  obtain ⟨hmonth, hday⟩ := marchDate_lt hr year
  rw [← hdate] at hmonth hday
  have hfigures := ((figures_padded 4 _ (by decide) (year_lt h)).append
    (figures_padded 2 _ (by decide) hmonth)).append (figures_padded 2 _ (by decide) hday)
  rwa [← String.toList_append, ← String.toList_append] at hfigures

/-- The figures of a time of day. -/
theorem figures_timeText (seconds : Nat) (h : seconds < 86400) :
    Figures 6 (timeNumber seconds) (timeText seconds).toList := by
  have hfigures := ((figures_padded 2 (seconds / 3600) (by decide) (by omega)).append
    (figures_padded 2 (seconds / 60 % 60) (by decide) (by omega))).append
    (figures_padded 2 (seconds % 60) (by decide) (by omega))
  rwa [← String.toList_append, ← String.toList_append] at hfigures

/-- Later times have later stamps. -/
theorem stamp_lt {a b : Nat} (h : a < b) (hb : b < limit) :
    (ofMicros a).stamp < (ofMicros b).stamp := by
  rw [limit] at hb
  have hdate {m : Nat} (hm : m < 253402300800000000) := figures_dateText
    (m / 1000000 / 86400) (by omega)
  have htime (m : Nat) := figures_timeText (m / 1000000 % 86400) (by omega)
  have hmicros (m : Nat) := figures_padded 6 (m % 1000000) (by decide) (by omega)
  have hda := hdate (by omega : a < 253402300800000000)
  have hdb := hdate hb
  rw [String.lt_iff_toList_lt, toList_stamp, toList_stamp]
  obtain hday | ⟨hday, hsecond⟩ | ⟨hday, hsecond, hmicro⟩ :
      a / 1000000 / 86400 < b / 1000000 / 86400 ∨
      (a / 1000000 / 86400 = b / 1000000 / 86400 ∧
        a / 1000000 % 86400 < b / 1000000 % 86400) ∨
      (a / 1000000 / 86400 = b / 1000000 / 86400 ∧
        a / 1000000 % 86400 = b / 1000000 % 86400 ∧ a % 1000000 < b % 1000000) := by
    omega
  · exact append_lt_append (hda.length.trans hdb.length.symm) (hda.lt hdb (dateNumber_lt hday)) _ _
  · rw [hday]
    refine List.append_left_lt (List.cons_lt_cons_iff.2 (.inr ⟨rfl, ?_⟩))
    exact append_lt_append ((htime a).length.trans (htime b).length.symm)
      ((htime a).lt (htime b) (timeNumber_lt hsecond)) _ _
  · rw [hday, hsecond]
    refine List.append_left_lt (List.cons_lt_cons_iff.2 (.inr ⟨rfl, ?_⟩))
    refine List.append_left_lt (List.cons_lt_cons_iff.2 (.inr ⟨rfl, ?_⟩))
    exact (hmicros a).lt (hmicros b) hmicro

/-- Stamps are of one length for all times of the calendar. -/
theorem length_stamp {micros : Nat} (h : micros < limit) :
    (ofMicros micros).stamp.toList.length = 22 := by
  rw [limit] at h
  have hdate := figures_dateText (micros / 1000000 / 86400) (by omega)
  have htime := figures_timeText (micros / 1000000 % 86400) (by omega)
  have hmicros := figures_padded 6 (micros % 1000000) (by decide) (by omega)
  rw [toList_stamp]
  simp only [List.length_append, List.length_cons, hdate.length, htime.length, hmicros.length]

/-- A stamp is spelled in digits and low lines. -/
theorem mem_stamp {m : Moment} {c : Char} (hc : c ∈ m.stamp.toList) : c.isDigit ∨ c = '_' := by
  have hline (hc : c ∈ "_".toList) : c = '_' := by simpa using hc
  simp only [stamp, String.toList_append, List.mem_append] at hc
  rcases hc with (((((((hc | hc) | hc) | hc) | hc) | hc) | hc) | hc) | hc
  case inl.inl.inl.inl.inl.inr | inl.inr => exact .inr (hline hc)
  all_goals exact .inl (isDigit_of_mem_padded hc)

end Sabotage.Moment
