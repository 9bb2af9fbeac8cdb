import Mathlib.Algebra.Order.Ring.Int
import Mathlib.Data.Int.Notation
import Mathlib.Data.List.Forall2
import Mathlib.Tactic.Common

/-!
# Timestamps

The calendar that `chrono_now_iso8601` computes from the seconds since 1970. `Calendar.ordinal` is
the number of a day in the proleptic Gregorian calendar, with the first day of the year 1 as number
1.
-/

namespace TowerMcp.Timestamps

/-! ## The calendar -/

namespace Calendar

def IsLeap (year : ℤ) : Prop := 4 ∣ year ∧ (100 ∣ year → 400 ∣ year)

instance (year : ℤ) : Decidable (IsLeap year) := inferInstanceAs (Decidable (_ ∧ _))

def monthLength (leap : Bool) : ℕ → ℤ
  | 2 => if leap then 29 else 28
  | 4 | 6 | 9 | 11 => 30
  | _ => 31

def daysBeforeMonth (leap : Bool) (month : ℕ) : ℤ :=
  ((List.range' 1 (month - 1)).map (monthLength leap)).sum

def daysBeforeYear (year : ℤ) : ℤ :=
  365 * (year - 1) + (year - 1) / 4 - (year - 1) / 100 + (year - 1) / 400

structure Date where
  year : ℤ
  month : ℕ
  day : ℤ
deriving DecidableEq

def ordinal (date : Date) : ℤ :=
  daysBeforeYear date.year + daysBeforeMonth (decide (IsLeap date.year)) date.month + date.day

structure Valid (date : Date) : Prop where
  month_pos : 1 ≤ date.month
  month_le : date.month ≤ 12
  day_pos : 1 ≤ date.day
  day_le : date.day ≤ monthLength (decide (IsLeap date.year)) date.month

def Before (first second : Date) : Prop :=
  first.year < second.year ∨ first.year = second.year ∧
    (first.month < second.month ∨ first.month = second.month ∧ first.day < second.day)

theorem days_before_year_succ (year : ℤ) :
    daysBeforeYear (year + 1) = daysBeforeYear year + if IsLeap year then 366 else 365 := by
  unfold daysBeforeYear
  by_cases hleap : IsLeap year
  · rw [if_pos hleap]
    obtain ⟨hfour, hcentury⟩ := hleap
    omega
  · rw [if_neg hleap]
    unfold IsLeap at hleap
    omega

theorem days_before_year_mono {first second : ℤ} (h : first ≤ second) :
    daysBeforeYear first ≤ daysBeforeYear second := by
  unfold daysBeforeYear
  omega

theorem days_before_month_add {leap : Bool} {first second : ℕ} (hpos : 1 ≤ first)
    (hlt : first < second) (hle : second ≤ 12) :
    daysBeforeMonth leap first + monthLength leap first ≤ daysBeforeMonth leap second := by
  have hall : ∀ leap : Bool, ∀ first second : Fin 13, 1 ≤ first.val → first < second →
      daysBeforeMonth leap first.val + monthLength leap first.val ≤
        daysBeforeMonth leap second.val := by
    decide
  exact hall leap ⟨first, by omega⟩ ⟨second, by omega⟩ hpos hlt

theorem days_in_months {leap : Bool} {month : ℕ} (hpos : 1 ≤ month) (hle : month ≤ 12) :
    0 ≤ daysBeforeMonth leap month ∧
      daysBeforeMonth leap month + monthLength leap month ≤ if leap then 366 else 365 := by
  have hall : ∀ leap : Bool, ∀ month : Fin 13, 1 ≤ month.val →
      0 ≤ daysBeforeMonth leap month.val ∧ daysBeforeMonth leap month.val +
        monthLength leap month.val ≤ if leap then 366 else 365 := by
    decide
  exact hall leap ⟨month, by omega⟩ hpos

theorem Valid.ordinal_range {date : Date} (h : Valid date) :
    daysBeforeYear date.year < ordinal date ∧ ordinal date ≤ daysBeforeYear (date.year + 1) := by
  obtain ⟨hbefore, hwithin⟩ :=
    @days_in_months (decide (IsLeap date.year)) _ h.month_pos h.month_le
  have hday := h.day_pos
  have hlast := h.day_le
  rw [days_before_year_succ]
  unfold ordinal
  by_cases hleap : IsLeap date.year
  · simp only [hleap, decide_true, if_true] at *
    omega
  · simp only [hleap, decide_false, if_false, Bool.false_eq_true] at *
    omega

theorem before_of_ordinal_lt {first second : Date} (hfirst : Valid first) (hsecond : Valid second)
    (h : ordinal first < ordinal second) : Before first second := by
  obtain ⟨hlow, -⟩ := hfirst.ordinal_range
  obtain ⟨-, hhigh⟩ := hsecond.ordinal_range
  obtain ⟨year, month, day⟩ := first
  obtain ⟨otherYear, otherMonth, otherDay⟩ := second
  rcases lt_trichotomy year otherYear with hlt | rfl | hlt
  · exact .inl hlt
  · refine .inr ⟨rfl, ?_⟩
    unfold ordinal at h
    rcases lt_trichotomy month otherMonth with hmonth | rfl | hmonth
    · exact .inl hmonth
    · exact .inr ⟨rfl, by dsimp only at *; omega⟩
    · have hadd := @days_before_month_add (decide (IsLeap year)) _ _ hsecond.month_pos hmonth
        hfirst.month_le
      have hday := hfirst.day_pos
      have hlast := hsecond.day_le
      dsimp only at *
      omega
  · have hmono := days_before_year_mono (Int.add_one_le_of_lt hlt)
    dsimp only at *
    omega

end Calendar

open Calendar

/-! ## The loops -/

def isLeapYear (year : ℤ) : Bool :=
  (year % 4 == 0 && year % 100 != 0) || year % 400 == 0

def daysInYear (year : ℤ) : ℤ := if isLeapYear year then 366 else 365

def daysInMonths (year : ℤ) : List ℤ :=
  if isLeapYear year then [31, 29, 31, 30, 31, 30, 31, 31, 30, 31, 30, 31]
  else [31, 28, 31, 30, 31, 30, 31, 31, 30, 31, 30, 31]

def yearLoop (year remainingDays : ℤ) : ℤ × ℤ :=
  if remainingDays < daysInYear year then (year, remainingDays)
  else yearLoop (year + 1) (remainingDays - daysInYear year)
termination_by remainingDays.toNat
decreasing_by
  have hpos : daysInYear year = 366 ∨ daysInYear year = 365 := by
    unfold daysInYear
    split <;> simp
  omega

def monthLoop : List ℤ → ℕ → ℤ → ℕ × ℤ
  | [], month, remainingDays => (month, remainingDays)
  | daysInMonth :: rest, month, remainingDays =>
    if remainingDays < daysInMonth then (month, remainingDays)
    else monthLoop rest (month + 1) (remainingDays - daysInMonth)

def dateIn (found : ℤ × ℤ) : Date :=
  let (month, remainingDays) := monthLoop (daysInMonths found.1) 1 found.2
  { year := found.1, month, day := remainingDays + 1 }

def civilDate (days : ℕ) : Date :=
  dateIn (yearLoop 1970 (Int.bmod days (2 ^ 32)))

theorem is_leap_year_eq (year : ℤ) : isLeapYear year = decide (IsLeap year) := by
  rw [Bool.eq_iff_iff, decide_eq_true_iff]
  unfold isLeapYear IsLeap
  simp only [Bool.or_eq_true, Bool.and_eq_true, beq_iff_eq, bne_iff_ne]
  omega

theorem days_in_year_eq (year : ℤ) : daysInYear year = if IsLeap year then 366 else 365 := by
  unfold daysInYear
  rw [is_leap_year_eq]
  simp

theorem year_loop_spec {year remainingDays : ℤ} (h : 0 ≤ remainingDays) :
    year ≤ (yearLoop year remainingDays).1 ∧ 0 ≤ (yearLoop year remainingDays).2 ∧
      (yearLoop year remainingDays).2 < daysInYear (yearLoop year remainingDays).1 ∧
      daysBeforeYear (yearLoop year remainingDays).1 + (yearLoop year remainingDays).2 =
        daysBeforeYear year + remainingDays := by
  fun_induction yearLoop year remainingDays with
  | case1 year remainingDays hless => exact ⟨le_rfl, h, hless, rfl⟩
  | case2 year remainingDays hmore ih =>
    obtain ⟨hyear, hnonneg, hless, hsum⟩ := ih (by omega)
    rw [days_before_year_succ, ← days_in_year_eq] at hsum
    exact ⟨by omega, hnonneg, hless, by omega⟩

theorem month_loop_spec {lengths : List ℤ} {month : ℕ} {remainingDays : ℤ}
    (h : 0 ≤ remainingDays) (hless : remainingDays < lengths.sum) :
    ∃ before length, before < lengths.length ∧ lengths[before]? = some length ∧
      monthLoop lengths month remainingDays =
        (month + before, remainingDays - (lengths.take before).sum) ∧
      0 ≤ remainingDays - (lengths.take before).sum ∧
      remainingDays - (lengths.take before).sum < length := by
  induction lengths generalizing month remainingDays with
  | nil => simp at hless; omega
  | cons first rest ih =>
    rw [monthLoop]
    split
    next hin => exact ⟨0, first, by simp, rfl, by simp, by simpa using h, by simpa using hin⟩
    next hout =>
      rw [List.sum_cons] at hless
      obtain ⟨before, length, hbefore, hlength, hloop, hnonneg, hwithin⟩ :=
        @ih (month + 1) (remainingDays - first) (by omega) (by omega)
      refine ⟨before + 1, length, by simpa using hbefore, hlength, ?_, ?_, ?_⟩
      · rw [hloop, List.take_succ_cons, List.sum_cons]
        congr 1
        · omega
        · omega
      · rw [List.take_succ_cons, List.sum_cons]
        omega
      · rw [List.take_succ_cons, List.sum_cons]
        omega

theorem days_in_months_eq {year : ℤ} {before : ℕ} {length : ℤ} (hbefore : before < 12)
    (hlength : (daysInMonths year)[before]? = some length) :
    ((daysInMonths year).take before).sum =
        daysBeforeMonth (decide (IsLeap year)) (before + 1) ∧
      length = monthLength (decide (IsLeap year)) (before + 1) := by
  have hall : ∀ leap : Bool, ∀ before : Fin 12,
      let lengths : List ℤ := if leap then [31, 29, 31, 30, 31, 30, 31, 31, 30, 31, 30, 31]
        else [31, 28, 31, 30, 31, 30, 31, 31, 30, 31, 30, 31]
      (lengths.take before.val).sum = daysBeforeMonth leap (before.val + 1) ∧
        lengths[before.val]? = some (monthLength leap (before.val + 1)) := by
    decide
  obtain ⟨hsum, hget⟩ := hall (isLeapYear year) ⟨before, hbefore⟩
  rw [← is_leap_year_eq]
  exact ⟨hsum, Option.some.inj (hlength.symm.trans hget)⟩

theorem date_in_spec {year remainingDays : ℤ} (hnonneg : 0 ≤ remainingDays)
    (hless : remainingDays < daysInYear year) :
    Valid (dateIn (year, remainingDays)) ∧
      ordinal (dateIn (year, remainingDays)) = daysBeforeYear year + remainingDays + 1 := by
  have hlengths : (daysInMonths year).length = 12 ∧ (daysInMonths year).sum = daysInYear year := by
    unfold daysInMonths daysInYear
    split <;> decide
  obtain ⟨before, length, hbefore, hlength, hloop, hlow, hhigh⟩ :=
    @month_loop_spec (daysInMonths year) 1 remainingDays hnonneg (by omega)
  rw [hlengths.1] at hbefore
  obtain ⟨htake, rfl⟩ := days_in_months_eq hbefore hlength
  rw [htake, Nat.add_comm 1] at hloop
  rw [htake] at hlow hhigh
  unfold dateIn ordinal
  rw [hloop]
  exact ⟨⟨by dsimp only; omega, by dsimp only; omega, by dsimp only; omega,
    by dsimp only; omega⟩, by dsimp only; omega⟩

theorem civil_date_spec {days : ℕ} (hdays : days < 2 ^ 31) :
    Valid (civilDate days) ∧ ordinal (civilDate days) = days + 719163 ∧
      1970 ≤ (civilDate days).year ∧ (civilDate days).year < 2 ^ 31 := by
  have hcast : Int.bmod days (2 ^ 32) = days := Int.bmod_eq_of_le (by omega) (by omega)
  obtain ⟨hyear, hnonneg, hless, hsum⟩ := @year_loop_spec 1970 days (Int.natCast_nonneg days)
  have hstart : daysBeforeYear 1970 = 719162 := by
    unfold daysBeforeYear
    omega
  obtain ⟨hvalid, hordinal⟩ := date_in_spec hnonneg hless
  unfold civilDate
  rw [hcast]
  refine ⟨hvalid, by rw [hordinal]; omega, hyear, ?_⟩
  show (yearLoop 1970 days).1 < 2 ^ 31
  generalize yearLoop 1970 days = found at *
  unfold daysBeforeYear at hsum
  omega

/-! ## The text -/

def digit (n : ℕ) : Char := Char.ofNat (48 + n)

def padded : ℕ → ℕ → List Char
  | 0, 0 => []
  | 0, n + 1 => padded 0 ((n + 1) / 10) ++ [digit ((n + 1) % 10)]
  | width + 1, n => padded width (n / 10) ++ [digit (n % 10)]
termination_by width n => width + n

def layout : List (ℕ × Char) :=
  [(4, '-'), (2, '-'), (2, 'T'), (2, ':'), (2, ':'), (2, '.'), (3, 'Z')]

def format : List (ℕ × Char) → List ℕ → List Char
  | (width, after) :: layout, value :: values => padded width value ++ after :: format layout values
  | _, _ => []

def fields (secs millis : ℕ) : List ℕ :=
  let date := civilDate (secs / 86400)
  let remaining := secs % 86400
  [date.year.toNat, date.month, date.day.toNat, remaining / 3600, remaining % 3600 / 60,
    remaining % 3600 % 60, millis]

def chronoIso8601 (secs millis : ℕ) : List Char :=
  format layout (fields secs millis)

variable {first second more others : List Char} {width value other : ℕ}

theorem append_lt_append (h : first < second) (hlength : first.length = second.length) :
    first ++ more < second ++ others := by
  induction first generalizing second with
  | nil =>
    cases second with
    | nil => exact absurd h (List.not_lt_nil _)
    | cons => cases hlength
  | cons c rest ih =>
    cases second with
    | nil => cases hlength
    | cons d tail =>
      rw [List.cons_append, List.cons_append]
      refine List.cons_lt_cons_iff.2 ?_
      rcases List.cons_lt_cons_iff.1 h with hlt | ⟨heq, hrest⟩
      · exact .inl hlt
      · exact .inr ⟨heq, ih hrest (Nat.succ.inj hlength)⟩

theorem length_padded (h : value < 10 ^ width) : (padded width value).length = width := by
  induction width generalizing value with
  | zero =>
    obtain rfl : value = 0 := by omega
    simp [padded]
  | succ width ih =>
    rw [padded, List.length_append, ih (by rw [Nat.pow_succ] at h; omega)]
    rfl

theorem padded_lt (hlt : value < other) (h : other < 10 ^ width) :
    padded width value < padded width other := by
  induction width generalizing value other with
  | zero => omega
  | succ width ih =>
    have htens : other / 10 < 10 ^ width := by
      rw [Nat.pow_succ] at h
      omega
    rw [padded, padded]
    rcases Nat.lt_or_eq_of_le (Nat.div_le_div_right (c := 10) hlt.le) with hless | heq
    · refine append_lt_append (ih hless htens) ?_
      rw [length_padded (hless.trans htens), length_padded htens]
    · have hdigits : ∀ m n : Fin 10, m < n → digit m.val < digit n.val := by decide
      rw [heq]
      refine List.append_left_lt (List.cons_lt_cons_iff.2 (.inl ?_))
      exact hdigits ⟨value % 10, by omega⟩ ⟨other % 10, by omega⟩ (by show _ < _; simp; omega)

theorem format_lt {layout : List (ℕ × Char)} {values later : List ℕ}
    (hvalues : List.Forall₂ (fun field value => value < 10 ^ field.1) layout values)
    (hlater : List.Forall₂ (fun field value => value < 10 ^ field.1) layout later)
    (h : values < later) : format layout values < format layout later := by
  induction hvalues generalizing later with
  | nil =>
    cases hlater
    exact absurd h (List.not_lt_nil _)
  | @cons field value layout values hvalue _ ih =>
    obtain ⟨width, after⟩ := field
    cases hlater with
    | @cons _ other _ rest hother hrest =>
      rcases List.cons_lt_cons_iff.1 h with hlt | ⟨rfl, htail⟩
      · refine append_lt_append (padded_lt hlt hother) ?_
        rw [length_padded hvalue, length_padded hother]
      · exact List.append_left_lt (List.cons_lt_cons_iff.2 (.inr ⟨rfl, ih hrest htail⟩))

theorem fields_fit {secs millis : ℕ} (hdays : secs / 86400 < 2 ^ 31) (hmillis : millis < 1000)
    (hyear : (civilDate (secs / 86400)).year ≤ 9999) :
    List.Forall₂ (fun field value => value < 10 ^ field.1) layout (fields secs millis) := by
  obtain ⟨hvalid, -, hstart, -⟩ := civil_date_spec hdays
  have hlength (leap : Bool) (month : ℕ) : monthLength leap month ≤ 31 := by
    unfold monthLength
    split
    next => cases leap <;> decide
    all_goals decide
  have hmonth := hvalid.month_le
  have hday := hvalid.day_le.trans (hlength _ _)
  unfold fields
  generalize civilDate (secs / 86400) = date at *
  refine .cons ?_ (.cons ?_ (.cons ?_ (.cons ?_ (.cons ?_ (.cons ?_ (.cons hmillis .nil))))))
  all_goals dsimp only; omega

theorem date_before {days later : ℕ} (hlater : later < 2 ^ 31) (h : days < later) :
    Before (civilDate days) (civilDate later) := by
  obtain ⟨hvalid, hordinal, -⟩ := civil_date_spec (h.trans hlater)
  obtain ⟨hvalidLater, hordinalLater, -⟩ := civil_date_spec hlater
  generalize civilDate days = date at *
  generalize civilDate later = dateLater at *
  exact before_of_ordinal_lt hvalid hvalidLater (by omega)

theorem year_mono {days later : ℕ} (hlater : later < 2 ^ 31) (h : days ≤ later) :
    (civilDate days).year ≤ (civilDate later).year := by
  rcases Nat.lt_or_eq_of_le h with hless | rfl
  · rcases date_before hlater hless with hyear | ⟨hyear, -⟩
    · exact hyear.le
    · exact hyear.le
  · exact le_rfl

theorem year_le {days : ℕ} (hdays : days < 2 ^ 31) : (civilDate days).year ≤ 1971 + days / 365 := by
  obtain ⟨hvalid, hordinal, -⟩ := civil_date_spec hdays
  have hrange := hvalid.ordinal_range.1
  generalize civilDate days = date at *
  unfold daysBeforeYear at hrange
  omega

theorem fields_lt {secs millis laterSecs laterMillis : ℕ} (hlaterDays : laterSecs / 86400 < 2 ^ 31)
    (h : secs < laterSecs ∨ secs = laterSecs ∧ millis < laterMillis) :
    fields secs millis < fields laterSecs laterMillis := by
  have hle : secs / 86400 ≤ laterSecs / 86400 := Nat.div_le_div_right (by omega)
  obtain ⟨hvalid, -, hstart, -⟩ := civil_date_spec (hle.trans_lt hlaterDays)
  unfold fields
  simp only [List.cons_lt_cons_iff, List.not_lt_nil, and_false, or_false]
  rcases Nat.lt_or_eq_of_le hle with hless | hsame
  · have hdate := date_before hlaterDays hless
    have hday := hvalid.day_pos
    generalize civilDate (secs / 86400) = date at *
    generalize civilDate (laterSecs / 86400) = dateLater at *
    rcases hdate with hyear | ⟨hyear, hmonth | ⟨hmonth, hless⟩⟩
    · exact .inl (by omega)
    · exact .inr ⟨by rw [hyear], .inl hmonth⟩
    · exact .inr ⟨by rw [hyear], .inr ⟨hmonth, .inl (by omega)⟩⟩
  · rw [hsame]
    refine .inr ⟨rfl, .inr ⟨rfl, .inr ⟨rfl, ?_⟩⟩⟩
    omega

/-- While the day count fits in 32 bits the loops give the date of the day, in 32 bits too, and up to
the year 9999 timestamps are in the order of their instants. -/
theorem timestamps_follow_calendar (secs : ℕ) (hdays : secs / 86400 < 2 ^ 31) :
    (Valid (civilDate (secs / 86400)) ∧
        ordinal (civilDate (secs / 86400)) = ↑(secs / 86400) + 719163 ∧
        1970 ≤ (civilDate (secs / 86400)).year ∧ (civilDate (secs / 86400)).year < 2 ^ 31) ∧
      ∀ millis laterSecs laterMillis, millis < 1000 → laterMillis < 1000 →
        laterSecs / 86400 < 2 ^ 31 → (civilDate (laterSecs / 86400)).year ≤ 9999 →
        (secs < laterSecs ∨ secs = laterSecs ∧ millis < laterMillis) →
        chronoIso8601 secs millis < chronoIso8601 laterSecs laterMillis := by
  refine ⟨civil_date_spec hdays, ?_⟩
  intro millis laterSecs laterMillis hmillis hlaterMillis hlaterDays hlaterYear hlater
  have hle : secs / 86400 ≤ laterSecs / 86400 := Nat.div_le_div_right (by omega)
  have hyear := (year_mono hlaterDays hle).trans hlaterYear
  exact format_lt (fields_fit hdays hmillis hyear) (fields_fit hlaterDays hlaterMillis hlaterYear)
    (fields_lt hlaterDays hlater)

theorem leap_day_2000 :
    (Valid (civilDate (951782400 / 86400)) ∧
        ordinal (civilDate (951782400 / 86400)) = ↑(951782400 / 86400 : ℕ) + 719163 ∧
        1970 ≤ (civilDate (951782400 / 86400)).year ∧
        (civilDate (951782400 / 86400)).year < 2 ^ 31) ∧
      chronoIso8601 951782400 0 < chronoIso8601 951868800 0 := by
  have hyear := (@year_le (951868800 / 86400) (by decide)).trans (by decide : _ ≤ (9999 : ℤ))
  obtain ⟨hdate, hlater⟩ := timestamps_follow_calendar 951782400 (by decide)
  exact ⟨hdate, hlater 0 951868800 0 (by decide) (by decide) (by decide) hyear (by decide)⟩

end TowerMcp.Timestamps
