import UngulaNet.Foundation.Blocks

/-!
# Calendar time

A time in seconds as a date and a time of day, counted from the year 1900 on. Years are
blocks of days and the months of a year are blocks of its days, so the date of a day is
two positions, and dates come in the order of the days. Times before 1900 are not part
of this calendar.
-/

namespace UngulaNet.Calendar
set_option autoImplicit false

/-- `struct tm`: the year counts from 1900, the month from 0 and the day from 1. -/
structure Tm where
  tm_year : Nat
  tm_mon : Nat
  tm_mday : Nat
  tm_hour : Nat
  tm_min : Nat
  tm_sec : Nat
deriving Repr, DecidableEq

def isLeap (year : Nat) : Bool := year % 4 == 0 && (year % 100 != 0 || year % 400 == 0)

def yearLength (k : Nat) : Nat := if isLeap (1900 + k) then 366 else 365

def monthLength (k : Nat) : Nat → Nat
  | 1 => if isLeap (1900 + k) then 29 else 28
  | 3 => 30
  | 5 => 30
  | 8 => 30
  | 10 => 30
  | _ => 31

theorem yearLength_pos (k : Nat) : 0 < yearLength k := by
  unfold yearLength
  split <;> omega

theorem monthLength_pos (k month : Nat) : 0 < monthLength k month := by
  unfold monthLength
  split
  case h_1 => split <;> omega
  all_goals omega

theorem monthLength_le (k month : Nat) : monthLength k month ≤ 31 := by
  unfold monthLength
  split
  case h_1 => split <;> omega
  all_goals omega

theorem before_months (k : Nat) : Blocks.before (monthLength k) 12 = yearLength k := by
  have hsum : Blocks.before (monthLength k) 12 =
      31 + (if isLeap (1900 + k) then 29 else 28) + 306 := by
    simp only [Blocks.before, monthLength]
  rw [hsum, yearLength]
  split <;> rfl

/-- Seconds from the start of 1900 to the start of 1970. -/
def epochStart : Nat := 2208988800

example : epochStart = 86400 * Blocks.before yearLength 70 := by decide

/-- The date of a day, counted from the start of 1900, and the second of that day. -/
def ofDay (day second : Nat) : Tm :=
  let year := Blocks.locate yearLength day
  let month := Blocks.locate (monthLength year.1) year.2
  { tm_year := year.1, tm_mon := month.1, tm_mday := month.2 + 1,
    tm_hour := second / 3600, tm_min := second / 60 % 60, tm_sec := second % 60 }

def gmtime_r (time : Int) : Tm :=
  let seconds := (time + epochStart).toNat
  ofDay (seconds / 86400) (seconds % 86400)

/-- The time of a date: what precedes its year, its month, its day and its second. -/
def timegm (tm : Tm) : Int :=
  let day := Blocks.before yearLength tm.tm_year +
    (Blocks.before (monthLength tm.tm_year) tm.tm_mon + (tm.tm_mday - 1))
  (86400 * day + (3600 * tm.tm_hour + 60 * tm.tm_min + tm.tm_sec) : Nat) - epochStart

/-- The fields of a date and time, in the order of their weight. -/
def Tm.fields (tm : Tm) : List Nat :=
  [tm.tm_year, tm.tm_mon, tm.tm_mday, tm.tm_hour, tm.tm_min, tm.tm_sec]

/-- A date of the calendar, with a time of day. -/
structure Tm.Valid (tm : Tm) : Prop where
  mon : tm.tm_mon < 12
  mday : 0 < tm.tm_mday ∧ tm.tm_mday ≤ 31
  hour : tm.tm_hour < 24
  min : tm.tm_min < 60
  sec : tm.tm_sec < 60

variable {day day' second second' : Nat}

theorem ofDay_valid (hsecond : second < 86400) : (ofDay day second).Valid := by
  have hyear := (Blocks.locate_spec yearLength_pos day).2
  have hmonth := (Blocks.locate_spec
    (monthLength_pos (Blocks.locate yearLength day).1) (Blocks.locate yearLength day).2).2
  have hlength := monthLength_le (Blocks.locate yearLength day).1 (ofDay day second).tm_mon
  refine ⟨?_, ⟨Nat.succ_pos _, ?_⟩, ?_, ?_, ?_⟩
  · exact Blocks.locate_lt (monthLength_pos _) (before_months _ ▸ hyear)
  · exact Nat.le_trans (Nat.succ_le_of_lt hmonth) hlength
  · change second / 3600 < 24
    omega
  · exact Nat.mod_lt _ (by omega)
  · exact Nat.mod_lt _ (by omega)

theorem timegm_ofDay (day second : Nat) :
    timegm (ofDay day second) = ((86400 * day + second : Nat) : Int) - epochStart := by
  have hyear := (Blocks.locate_spec yearLength_pos day).1
  have hmonth := (Blocks.locate_spec
    (monthLength_pos (Blocks.locate yearLength day).1) (Blocks.locate yearLength day).2).1
  have hsecond : 3600 * (second / 3600) + 60 * (second / 60 % 60) + second % 60 = second := by
    omega
  simp only [timegm, ofDay, Nat.add_sub_cancel]
  rw [hmonth, hyear, hsecond]

/-- Days come in the order of their years, months and days of the month. -/
theorem date_lt_iff (day day' : Nat) : day < day' ↔
    (ofDay day second).tm_year < (ofDay day' second').tm_year ∨
      ((ofDay day second).tm_year = (ofDay day' second').tm_year ∧
        ((ofDay day second).tm_mon < (ofDay day' second').tm_mon ∨
          ((ofDay day second).tm_mon = (ofDay day' second').tm_mon ∧
            (ofDay day second).tm_mday < (ofDay day' second').tm_mday))) := by
  have hyear := Blocks.locate_lt_iff yearLength_pos day day'
  have hmonth : (ofDay day second).tm_year = (ofDay day' second').tm_year →
      ((Blocks.locate yearLength day).2 < (Blocks.locate yearLength day').2 ↔
        (ofDay day second).tm_mon < (ofDay day' second').tm_mon ∨
          ((ofDay day second).tm_mon = (ofDay day' second').tm_mon ∧
            (ofDay day second).tm_mday < (ofDay day' second').tm_mday)) := by
    intro heq
    have hsame : (Blocks.locate yearLength day).1 = (Blocks.locate yearLength day').1 := heq
    simp only [ofDay, Nat.add_lt_add_iff_right]
    rw [hsame]
    exact Blocks.locate_lt_iff (monthLength_pos _) _ _
  rw [hyear]
  exact or_congr Iff.rfl (and_congr_right hmonth)

/-- The seconds of a day come in the order of the clock. -/
theorem clock_lt_iff (second second' : Nat) : second < second' ↔
    (ofDay day second).tm_hour < (ofDay day' second').tm_hour ∨
      ((ofDay day second).tm_hour = (ofDay day' second').tm_hour ∧
        ((ofDay day second).tm_min < (ofDay day' second').tm_min ∨
          ((ofDay day second).tm_min = (ofDay day' second').tm_min ∧
            (ofDay day second).tm_sec < (ofDay day' second').tm_sec))) := by
  simp only [ofDay]
  omega

/-- Times come in the order of their dates, and within a day in the order of the clock. -/
theorem ofDay_fields_lt_iff :
    (ofDay day second).fields < (ofDay day' second').fields ↔
      day < day' ∨ (day = day' ∧ second < second') := by
  have hlt := @date_lt_iff second second' day day'
  have hgt := @date_lt_iff second' second day' day
  have hclock := @clock_lt_iff day day' second second'
  have hnil : ¬ ([] : List Nat) < [] := List.not_lt_nil _
  simp only [Tm.fields, List.cons_lt_cons_iff, hnil, and_false, or_false]
  omega

theorem gmtime_r_valid (time : Int) : (gmtime_r time).Valid :=
  ofDay_valid (Nat.mod_lt _ (by omega))

theorem timegm_gmtime_r {time : Int} (h : -epochStart ≤ time) :
    timegm (gmtime_r time) = time := by
  rw [gmtime_r, timegm_ofDay, Nat.div_add_mod]
  omega

theorem gmtime_r_fields_lt_iff {time time' : Int} (h : -epochStart ≤ time)
    (h' : -epochStart ≤ time') :
    (gmtime_r time).fields < (gmtime_r time').fields ↔ time < time' := by
  rw [gmtime_r, gmtime_r, ofDay_fields_lt_iff]
  omega

/-- The year of a time before the start of the year `k`, counted from 1900. -/
theorem gmtime_r_year_lt {time : Int} {k : Nat} (hstart : -epochStart ≤ time)
    (h : time < (86400 * Blocks.before yearLength k : Nat) - (epochStart : Int)) :
    (gmtime_r time).tm_year < k := by
  refine Blocks.locate_lt yearLength_pos ?_
  omega

end UngulaNet.Calendar
