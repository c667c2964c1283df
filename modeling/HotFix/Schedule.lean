import HotFix.State
import HotFix.Sections
import HotFix.Recurring
import Mathlib.Data.Prod.Lex
import Mathlib.Tactic.IntervalCases

/-!
Session schedules. Whether a session is active and where its period begins and ends are
computed by separate code: from the time of day and the weekday, from positions in the week,
and from dates. On a calendar of days without clock changes all of it comes down to a
window that recurs every day or every week.
-/
namespace HotFix.Schedules
open Recurring

/-! ### The calendar -/

/-- Seconds since midnight, and nanoseconds. -/
structure NaiveTime where
  secs : Nat
  frac : Nat
  secs_lt : secs < 86400
  deriving DecidableEq

namespace NaiveTime

def key (t : NaiveTime) : Nat ×ₗ Nat := toLex (t.secs,t.frac)

theorem key_injective : Function.Injective key := by
  rintro ⟨_,_,_⟩ ⟨_,_,_⟩ same
  obtain ⟨rfl,rfl⟩ := Prod.mk.inj (toLex.injective same)
  rfl

instance : LinearOrder NaiveTime := LinearOrder.lift' key key_injective

end NaiveTime

/-- `DateTime<Utc>`: seconds since the epoch, and nanoseconds. -/
structure Instant where
  secs : Int
  frac : Nat
  deriving DecidableEq

namespace Instant

def key (i : Instant) : Int ×ₗ Nat := toLex (i.secs,i.frac)

theorem key_injective : Function.Injective key := by
  rintro ⟨_,_⟩ ⟨_,_⟩ same
  obtain ⟨rfl,rfl⟩ := Prod.mk.inj (toLex.injective same)
  rfl

instance : LinearOrder Instant := LinearOrder.lift' key key_injective

end Instant

inductive Weekday where
  | Mon
  | Tue
  | Wed
  | Thu
  | Fri
  | Sat
  | Sun
  deriving DecidableEq

namespace Weekday

def num_days_from_monday : Weekday → Nat
  | .Mon => 0
  | .Tue => 1
  | .Wed => 2
  | .Thu => 3
  | .Fri => 4
  | .Sat => 5
  | .Sun => 6

def pred : Weekday → Weekday
  | .Mon => .Sun
  | .Tue => .Mon
  | .Wed => .Tue
  | .Thu => .Wed
  | .Fri => .Thu
  | .Sat => .Fri
  | .Sun => .Sat

def from_monday : Nat → Weekday
  | 0 => .Mon
  | 1 => .Tue
  | 2 => .Wed
  | 3 => .Thu
  | 4 => .Fri
  | 5 => .Sat
  | _ => .Sun

end Weekday

/-- Days since the epoch, which was a Thursday. -/
abbrev NaiveDate := Int

def weekday_at (date : NaiveDate) : Weekday := .from_monday ((date+3) % 7).toNat

/-- The first and the last date that there is. -/
structure Calendar where
  first : NaiveDate
  last : NaiveDate

def Calendar.Has (calendar : Calendar) (date : NaiveDate) : Prop := calendar.first ≤ date ∧ date ≤ calendar.last

instance (calendar : Calendar) (date : NaiveDate) : Decidable (calendar.Has date) := inferInstanceAs (Decidable (_ ∧ _))

def Calendar.checked_add_days (calendar : Calendar) (date : NaiveDate) (days : Nat) : Option NaiveDate :=
  if calendar.Has (date+days) then some (date+days) else none

def Calendar.checked_sub_days (calendar : Calendar) (date : NaiveDate) (days : Nat) : Option NaiveDate :=
  if calendar.Has (date-days) then some (date-days) else none

/-- A timezone: the seconds east of UTC at an instant, and the instant of a local time that is
    neither ambiguous nor missing. -/
structure Tz where
  offset_from_utc : Int → Int
  from_local : Int → Option Int

def Tz.UTC : Tz := ⟨fun _ => 0,some⟩

section
variable (timezone : Tz) (datetime : Instant)

/-- `with_timezone`: the local time in seconds. -/
def local_secs : Int := datetime.secs+timezone.offset_from_utc datetime.secs

def local_date : NaiveDate := local_secs timezone datetime / 86400

def local_time : NaiveTime :=
  ⟨(local_secs timezone datetime % 86400).toNat,datetime.frac,by omega⟩

def local_weekday : Weekday := weekday_at (local_date timezone datetime)

end

/-! ### The code -/

inductive ScheduleError where
  | AmbiguousOrMissingTime (date : NaiveDate) (time : NaiveTime) (timezone : Tz)
  | DateCalculationOverflow (context : String)

abbrev Scheduled := Except (Abort ScheduleError)

inductive SessionSchedule where
  | NonStop
  | Daily (start_time end_time : NaiveTime) (timezone : Tz)
  | Weekdays (start_time end_time : NaiveTime) (weekdays : List Weekday) (timezone : Tz)
  | Weekly (start_day : Weekday) (start_time : NaiveTime) (end_day : Weekday) (end_time : NaiveTime) (timezone : Tz)

structure ScheduleConfig where
  start_time : Option NaiveTime
  end_time : Option NaiveTime
  start_day : Option Weekday
  end_day : Option Weekday
  weekdays : List Weekday
  timezone : Option Tz

def weekly_seconds (day : Weekday) (time : NaiveTime) : Nat := day.num_days_from_monday*86400+time.secs

section
variable (calendar : Calendar)

/-- There is a local date, where the source takes one. -/
def date_naive (timezone : Tz) (datetime : Instant) : Scheduled NaiveDate :=
  if calendar.Has (local_date timezone datetime) then .ok (local_date timezone datetime)
  else .error (.Panic "local time out of range")

def ok_or_overflow (context : String) : Option NaiveDate → Scheduled NaiveDate
  | some date => .ok date
  | none => .error (.Error (.DateCalculationOverflow context))

def construct_utc (date : NaiveDate) (time : NaiveTime) (timezone : Tz) : Scheduled Instant :=
  match timezone.from_local (date*86400+time.secs) with
  | some secs => .ok ⟨secs,time.frac⟩
  | none => .error (.Error (.AmbiguousOrMissingTime date time timezone))

def calculate_single_day_session_bounds (datetime : Instant) (start_time end_time : NaiveTime) (timezone : Tz) :
    Scheduled (Instant × Instant) :=
  if start_time ≤ local_time timezone datetime then do
    let date ← date_naive calendar timezone datetime
    let start ← construct_utc date start_time timezone
    let end_date ←
      if end_time < start_time then ok_or_overflow "failed to add day for end date" (calendar.checked_add_days date 1)
      else .ok date
    let stop ← construct_utc end_date end_time timezone
    return (start,stop)
  else do
    let date ← date_naive calendar timezone datetime
    let start_date ← ok_or_overflow "failed to get previous day for start date" (calendar.checked_sub_days date 1)
    let start ← construct_utc start_date start_time timezone
    let stop ← construct_utc date end_time timezone
    return (start,stop)

/-- `(a - b).rem_euclid(7)` of the numbers of two weekdays. -/
def days_between (a b : Weekday) : Nat := (((a.num_days_from_monday : Int)-b.num_days_from_monday) % 7).toNat

def days_back (datetime : Instant) (start_day : Weekday) (start_time : NaiveTime) (timezone : Tz) : Nat :=
  let diff := days_between (local_weekday timezone datetime) start_day
  if diff = 0 ∧ local_time timezone datetime < start_time then 7 else diff

def session_duration (start_day : Weekday) (start_time : NaiveTime) (end_day : Weekday) (end_time : NaiveTime) : Nat :=
  let diff := days_between end_day start_day
  if diff = 0 ∧ end_time ≤ start_time then 7 else diff

def calculate_weekly_session_bounds (datetime : Instant) (start_day : Weekday) (start_time : NaiveTime) (end_day : Weekday)
    (end_time : NaiveTime) (timezone : Tz) : Scheduled (Instant × Instant) := do
  let date ← date_naive calendar timezone datetime
  let session_start_date ← ok_or_overflow "failed to compute weekly session start date"
    (calendar.checked_sub_days date (days_back datetime start_day start_time timezone))
  let end_date ← ok_or_overflow "failed to compute weekly session end date"
    (calendar.checked_add_days session_start_date (session_duration start_day start_time end_day end_time))
  let start ← construct_utc session_start_date start_time timezone
  let stop ← construct_utc end_date end_time timezone
  return (start,stop)

end

def check_daily_schedule (timezone : Tz) (datetime : Instant) (start_time end_time : NaiveTime) : Bool :=
  let time := local_time timezone datetime
  if start_time < end_time then start_time ≤ time && time < end_time else start_time ≤ time || time < end_time

def check_weekdays_schedule (timezone : Tz) (datetime : Instant) (weekdays : List Weekday) (start_time end_time : NaiveTime) : Bool :=
  let time_of_day := local_time timezone datetime
  let weekday := local_weekday timezone datetime
  if start_time < end_time then weekdays.contains weekday && start_time ≤ time_of_day && time_of_day < end_time
  else if end_time ≤ time_of_day && time_of_day < start_time then false
  else
    let target_day := if start_time ≤ time_of_day then weekday else weekday.pred
    weekdays.contains target_day

def check_weekly_schedule (timezone : Tz) (datetime : Instant) (start_day : Weekday) (start_time : NaiveTime) (end_day : Weekday)
    (end_time : NaiveTime) : Bool :=
  let start_pos := weekly_seconds start_day start_time
  let end_pos := weekly_seconds end_day end_time
  let now_pos := weekly_seconds (local_weekday timezone datetime) (local_time timezone datetime)
  if start_pos < end_pos then start_pos ≤ now_pos && now_pos < end_pos else start_pos ≤ now_pos || now_pos < end_pos

namespace SessionSchedule

def try_from (config : ScheduleConfig) : Except String SessionSchedule :=
  match config.start_time,config.end_time,config.start_day,config.end_day,config.timezone with
  | none,none,none,none,none =>
    if config.weekdays.isEmpty then .ok .NonStop
    else .error "invalid schedule configuration: incomplete or conflicting parameters"
  | some start,some stop,none,none,timezone =>
    if config.weekdays.isEmpty then
      if start = stop then .ok .NonStop else .ok (.Daily start stop (timezone.getD .UTC))
    else if start = stop then .error "Start and end times cannot be equal when weekdays is set"
    else .ok (.Weekdays start stop config.weekdays (timezone.getD .UTC))
  | some start,some stop,some start_day,some end_day,timezone =>
    if ¬ config.weekdays.isEmpty then .error "weekly sessions cannot have weekdays specified"
    else if start_day = end_day ∧ start < stop then
      .error "Incorrect weekly schedule: start time must be after end time for same day weekly schedule"
    else if start_day = end_day ∧ start = stop then .ok .NonStop
    else .ok (.Weekly start_day start end_day stop (timezone.getD .UTC))
  | _,_,_,_,_ => .error "invalid schedule configuration: incomplete or conflicting parameters"

def is_active_at (schedule : SessionSchedule) (datetime : Instant) : Bool :=
  match schedule with
  | .NonStop => true
  | .Daily start_time end_time timezone => check_daily_schedule timezone datetime start_time end_time
  | .Weekdays start_time end_time weekdays timezone => check_weekdays_schedule timezone datetime weekdays start_time end_time
  | .Weekly start_day start_time end_day end_time timezone =>
    check_weekly_schedule timezone datetime start_day start_time end_day end_time

/-- Without a stop a period lasts a thousand weeks from now. -/
def get_session_bounds (calendar : Calendar) (now : Instant) (schedule : SessionSchedule) (datetime : Instant) : Scheduled (Instant × Instant) :=
  match schedule with
  | .NonStop => .ok (⟨0,0⟩,⟨now.secs+604800*1000,now.frac⟩)
  | .Daily start_time end_time timezone => calculate_single_day_session_bounds calendar datetime start_time end_time timezone
  | .Weekdays start_time end_time _ timezone => calculate_single_day_session_bounds calendar datetime start_time end_time timezone
  | .Weekly start_day start_time end_day end_time timezone =>
    calculate_weekly_session_bounds calendar datetime start_day start_time end_day end_time timezone

def is_same_session_period (calendar : Calendar) (now : Instant) (schedule : SessionSchedule) (dt1 dt2 : Instant) :
    Scheduled SessionPeriodComparison :=
  match schedule.is_active_at dt1,schedule.is_active_at dt2 with
  | false,false => .ok (.OutsideSessionTime .Both)
  | false,true => .ok (.OutsideSessionTime .First)
  | true,false => .ok (.OutsideSessionTime .Second)
  | true,true => do
    let (start,stop) ← schedule.get_session_bounds calendar now dt1
    if start ≤ dt2 ∧ dt2 < stop then return .SamePeriod else return .DifferentPeriod

end SessionSchedule

/-! ### Whole seconds and weekdays -/

theorem NaiveTime.lt_iff {a b : NaiveTime} : a < b ↔ a.secs < b.secs ∨ a.secs = b.secs ∧ a.frac < b.frac := Prod.Lex.lt_iff

theorem Instant.lt_iff {a b : Instant} : a < b ↔ a.secs < b.secs ∨ a.secs = b.secs ∧ a.frac < b.frac := Prod.Lex.lt_iff

def NaiveTime.Whole (t : NaiveTime) : Prop := t.frac = 0

/-- Before a whole second means so many seconds before it. -/
theorem NaiveTime.Whole.lt_iff {a b : NaiveTime} (whole : b.Whole) : a < b ↔ a.secs < b.secs := by
  rw [NaiveTime.lt_iff,whole]
  omega

theorem NaiveTime.Whole.le_iff {a b : NaiveTime} (whole : a.Whole) : a ≤ b ↔ a.secs ≤ b.secs := by
  rw [← not_lt,whole.lt_iff,not_lt]

theorem NaiveTime.Whole.eq_iff {a b : NaiveTime} (whole : a.Whole) (whole' : b.Whole) : a = b ↔ a.secs = b.secs := by
  obtain ⟨_,_,_⟩ := a
  obtain ⟨_,_,_⟩ := b
  obtain rfl : _ = 0 := whole
  obtain rfl : _ = 0 := whole'
  simp

theorem Instant.lt_whole {a : Instant} {secs : Int} : a < ⟨secs,0⟩ ↔ a.secs < secs := by
  rw [Instant.lt_iff]
  simp

theorem Instant.whole_le {a : Instant} {secs : Int} : (⟨secs,0⟩ : Instant) ≤ a ↔ secs ≤ a.secs := by
  rw [← not_lt,Instant.lt_whole,not_lt]

theorem Weekday.num_lt (day : Weekday) : day.num_days_from_monday < 7 := by cases day <;> decide

theorem Weekday.num_injective {a b : Weekday} (same : a.num_days_from_monday = b.num_days_from_monday) : a = b := by
  cases a <;> cases b <;> first | rfl | cases same

theorem Weekday.num_from_monday {n : Nat} (small : n < 7) : (Weekday.from_monday n).num_days_from_monday = n := by
  interval_cases n <;> rfl

theorem num_weekday_at (date : NaiveDate) : ((weekday_at date).num_days_from_monday : Int) = (date+3) % 7 := by
  unfold weekday_at
  rw [Weekday.num_from_monday (by omega)]
  omega

theorem Weekday.num_pred (day : Weekday) : day.pred.num_days_from_monday = (day.num_days_from_monday+6) % 7 := by
  cases day <;> rfl

/-- The day before. -/
theorem weekday_at_pred (date : NaiveDate) : (weekday_at date).pred = weekday_at (date-1) := by
  refine Weekday.num_injective ?_
  have today := num_weekday_at date
  have yesterday := num_weekday_at (date-1)
  rw [Weekday.num_pred]
  omega

/-- East of UTC by the same number of seconds at all times. -/
structure Tz.Constant (timezone : Tz) (offset : Int) : Prop where
  from_utc : ∀ secs, timezone.offset_from_utc secs = offset
  from_local : ∀ secs utc, timezone.from_local secs = some utc → utc = secs-offset

/-! ### Schedules as windows -/

/-- The schedule is a window that recurs, open where its opening is good, and what is said of a
    point of the window depends on its opening only. -/
structure Windowed (active : Instant → Bool) (bounds : Instant → Scheduled (Instant × Instant)) (offset period anchor length : Int)
    (good : Int → Prop) (spans : Int → Instant × Instant → Prop) : Prop where
  positive : 0 < period
  fits : length ≤ period
  active_iff : ∀ dt, active dt = true ↔ Open period anchor length (dt.secs+offset) ∧ good (opening period anchor (dt.secs+offset))
  bounds_iff : ∀ dt p, active dt = true → (bounds dt = .ok p ↔ spans (opening period anchor (dt.secs+offset)) p)
  spanned : ∀ begins p, spans begins p → p = (⟨begins-offset,0⟩,⟨begins+length-offset,0⟩)

theorem Windowed.partitions {active : Instant → Bool} {bounds : Instant → Scheduled (Instant × Instant)} {offset period anchor length : Int}
    {good : Int → Prop} {spans : Int → Instant × Instant → Prop}
    (windowed : Windowed active bounds offset period anchor length good spans) :
    Partitions (active · = true) bounds where
  inside := by
    intro dt p here found
    obtain rfl := windowed.spanned _ p ((windowed.bounds_iff dt p here).mp found)
    have low := opening_le windowed.positive anchor (dt.secs+offset)
    have high := ((windowed.active_iff dt).mp here).1.lt
    exact ⟨Instant.whole_le.mpr (by omega),Instant.lt_whole.mpr (by omega)⟩
  shared := by
    intro dt dt' p here found member
    have spans := (windowed.bounds_iff dt p here).mp found
    obtain rfl := windowed.spanned _ p spans
    have low := Instant.whole_le.mp member.1
    have high := Instant.lt_whole.mp member.2
    have after : opening period anchor (dt.secs+offset) ≤ dt'.secs+offset := by omega
    have before : dt'.secs+offset < opening period anchor (dt.secs+offset)+length := by omega
    obtain ⟨opened,same⟩ := window_shared windowed.fits after before
    have there : active dt' = true := by
      rw [windowed.active_iff,same]
      exact ⟨opened,((windowed.active_iff dt).mp here).2⟩
    refine ⟨there,(windowed.bounds_iff dt' _ there).mpr ?_⟩
    rw [same]
    exact spans

/-! ### Dates of a period -/

section
variable {calendar : Calendar} {timezone : Tz} {offset : Int} {start_time end_time : NaiveTime}

theorem Tz.Constant.local_secs (constant : timezone.Constant offset) (dt : Instant) : local_secs timezone dt = dt.secs+offset := by
  rw [Schedules.local_secs,constant.from_utc]

theorem Tz.Constant.construct_utc (constant : timezone.Constant offset) {date : NaiveDate} {time : NaiveTime} (whole : time.Whole) {i : Instant}
    (found : construct_utc date time timezone = .ok i) : i = ⟨date*86400+time.secs-offset,0⟩ := by
  unfold Schedules.construct_utc at found
  split at found
  · next secs utc =>
    cases found
    rw [constant.from_local _ _ utc,whole]
  · cases found

theorem date_naive_eq_ok {dt : Instant} {date : NaiveDate} :
    date_naive calendar timezone dt = .ok date ↔ calendar.Has (local_date timezone dt) ∧ local_date timezone dt = date := by
  unfold date_naive
  split_ifs with has
  · simp [has]
  · simp [has]

theorem add_days_eq_ok {context : String} {date date' : NaiveDate} {days : Nat} :
    ok_or_overflow context (calendar.checked_add_days date days) = .ok date' ↔ calendar.Has (date+days) ∧ date+days = date' := by
  unfold Calendar.checked_add_days
  split_ifs with has
  · simp [has,ok_or_overflow]
  · simp [has,ok_or_overflow]

theorem sub_days_eq_ok {context : String} {date date' : NaiveDate} {days : Nat} :
    ok_or_overflow context (calendar.checked_sub_days date days) = .ok date' ↔ calendar.Has (date-days) ∧ date-days = date' := by
  unfold Calendar.checked_sub_days
  split_ifs with has
  · simp [has,ok_or_overflow]
  · simp [has,ok_or_overflow]

/-- A period of so many days from the date of its opening: its dates are there, and so are the
    instants of its times. -/
def DaysSpan (calendar : Calendar) (timezone : Tz) (start_time end_time : NaiveTime) (days : Nat) (begins : Int) (p : Instant × Instant) : Prop :=
  begins % 86400 = start_time.secs ∧ calendar.Has (begins/86400) ∧ calendar.Has (begins/86400+days) ∧
    construct_utc (begins/86400) start_time timezone = .ok p.1 ∧
    construct_utc (begins/86400+days) end_time timezone = .ok p.2

theorem DaysSpan.spanned (constant : timezone.Constant offset) (whole : start_time.Whole) (whole' : end_time.Whole) {days : Nat} {begins length : Int}
    (span : length = days*86400+end_time.secs-start_time.secs) {p : Instant × Instant}
    (spans : DaysSpan calendar timezone start_time end_time days begins p) : p = (⟨begins-offset,0⟩,⟨begins+length-offset,0⟩) := by
  obtain ⟨phase,_,_,first,last⟩ := spans
  have same := constant.construct_utc whole first
  have same' := constant.construct_utc whole' last
  refine Prod.ext (same.trans ?_) (same'.trans ?_)
  · congr 1
    omega
  · congr 1
    omega

/-! ### Days -/

theorem local_time_secs (constant : timezone.Constant offset) (dt : Instant) :
    ((local_time timezone dt).secs : Int) = (dt.secs+offset) % 86400 := by
  rw [← constant.local_secs]
  exact Int.toNat_of_nonneg (Int.emod_nonneg _ (by decide))

/-- The window of a day: from the start to the end, which may be on the next day. -/
def day_length (start_time end_time : NaiveTime) : Int := ((end_time.secs : Int)-start_time.secs) % 86400

theorem check_daily_iff (constant : timezone.Constant offset) (whole : start_time.Whole) (whole' : end_time.Whole)
    (differ : start_time.secs ≠ end_time.secs) (dt : Instant) :
    check_daily_schedule timezone dt start_time end_time = true ↔
      Open 86400 start_time.secs (day_length start_time end_time) (dt.secs+offset) := by
  have time := local_time_secs constant dt
  have start := start_time.secs_lt
  have stop := end_time.secs_lt
  unfold check_daily_schedule Open day_length
  dsimp only
  split_ifs with same_day
  · rw [whole'.lt_iff] at same_day
    rw [Bool.and_eq_true,decide_eq_true_iff,decide_eq_true_iff,whole.le_iff,whole'.lt_iff]
    omega
  · rw [whole'.lt_iff] at same_day
    rw [Bool.or_eq_true,decide_eq_true_iff,decide_eq_true_iff,whole.le_iff,whole'.lt_iff]
    omega

/-- The days from the start to the end. -/
def day_span (start_time end_time : NaiveTime) : Nat := if end_time.secs < start_time.secs then 1 else 0

/-- A day's window opened today, or yesterday. -/
theorem opening_day {start : Nat} (time : start < 86400) (local_secs : Int) : opening 86400 start local_secs =
    (if (start : Int) ≤ local_secs % 86400 then local_secs/86400 else local_secs/86400-1)*86400+start := by
  unfold opening
  rw [phase_cases (Int.natCast_nonneg start) (by omega) local_secs]
  split_ifs <;> omega

theorem single_day_iff (constant : timezone.Constant offset) (whole : start_time.Whole) {dt : Instant} {p : Instant × Instant}
    (opened : Open 86400 start_time.secs (day_length start_time end_time) (dt.secs+offset)) :
    calculate_single_day_session_bounds calendar dt start_time end_time timezone = .ok p ↔
      DaysSpan calendar timezone start_time end_time (day_span start_time end_time) (opening 86400 start_time.secs (dt.secs+offset)) p := by
  have time := local_time_secs constant dt
  have start := start_time.secs_lt
  have stop := end_time.secs_lt
  have date : local_date timezone dt = (dt.secs+offset)/86400 := by rw [local_date,constant.local_secs]
  have opens := opening_day start (dt.secs+offset)
  rw [← time,← date] at opens
  unfold Open day_length at opened
  unfold calculate_single_day_session_bounds DaysSpan day_span
  by_cases late : start_time ≤ local_time timezone dt
  · rw [if_pos late]
    rw [whole.le_iff] at late
    rw [if_pos (by omega)] at opens
    have begins : opening 86400 start_time.secs (dt.secs+offset) / 86400 = local_date timezone dt := by omega
    have phase : opening 86400 start_time.secs (dt.secs+offset) % 86400 = start_time.secs := by omega
    rw [begins]
    by_cases tomorrow : end_time < start_time
    · rw [whole.lt_iff] at tomorrow
      simp only [whole.lt_iff,if_pos tomorrow,MessageBuilder.bind_eq_ok,date_naive_eq_ok,add_days_eq_ok]
      constructor
      · rintro ⟨_,⟨has,rfl⟩,start,first,_,⟨has',rfl⟩,stop,last,same⟩
        cases same
        exact ⟨phase,has,has',first,last⟩
      · rintro ⟨_,has,has',first,last⟩
        exact ⟨_,⟨has,rfl⟩,_,first,_,⟨has',rfl⟩,_,last,rfl⟩
    · rw [whole.lt_iff] at tomorrow
      simp only [whole.lt_iff,if_neg tomorrow,MessageBuilder.bind_eq_ok,date_naive_eq_ok]
      constructor
      · rintro ⟨_,⟨has,rfl⟩,start,first,_,⟨⟩,stop,last,same⟩
        cases same
        simp only [Nat.cast_zero,add_zero]
        exact ⟨phase,has,has,first,last⟩
      · simp only [Nat.cast_zero,add_zero]
        rintro ⟨_,has,_,first,last⟩
        exact ⟨_,⟨has,rfl⟩,_,first,_,rfl,_,last,rfl⟩
  · rw [if_neg late]
    rw [whole.le_iff] at late
    rw [if_neg (by omega)] at opens
    have begins : opening 86400 start_time.secs (dt.secs+offset) / 86400 = local_date timezone dt-1 := by omega
    have phase : opening 86400 start_time.secs (dt.secs+offset) % 86400 = start_time.secs := by omega
    have tomorrow : end_time.secs < start_time.secs := by
      by_contra today
      have length : ((end_time.secs : Int)-start_time.secs) % 86400 = end_time.secs-start_time.secs :=
        Int.emod_eq_of_lt (by omega) (by omega)
      rw [length] at opened
      unfold opening at opens
      omega
    have back : local_date timezone dt-1+1 = local_date timezone dt := Int.sub_add_cancel _ _
    rw [begins,if_pos tomorrow]
    simp only [MessageBuilder.bind_eq_ok,date_naive_eq_ok,sub_days_eq_ok,Nat.cast_one,back]
    constructor
    · rintro ⟨_,⟨has,rfl⟩,_,⟨has',rfl⟩,start,first,stop,last,same⟩
      cases same
      exact ⟨phase,has',has,first,last⟩
    · rintro ⟨_,has',has,first,last⟩
      exact ⟨_,⟨has,rfl⟩,_,⟨has',rfl⟩,_,first,_,last,rfl⟩

theorem day_length_eq : day_length start_time end_time = day_span start_time end_time*86400+end_time.secs-start_time.secs := by
  have start := start_time.secs_lt
  have stop := end_time.secs_lt
  unfold day_length day_span
  split_ifs with tomorrow
  · rw [Nat.cast_one]
    omega
  · rw [Nat.cast_zero]
    omega

theorem day_length_le : day_length start_time end_time ≤ 86400 := by
  unfold day_length
  omega

theorem daily_windowed (constant : timezone.Constant offset) (whole : start_time.Whole) (whole' : end_time.Whole)
    (differ : start_time.secs ≠ end_time.secs) :
    Windowed (fun dt => check_daily_schedule timezone dt start_time end_time)
      (fun dt => calculate_single_day_session_bounds calendar dt start_time end_time timezone) offset 86400 start_time.secs
      (day_length start_time end_time) (fun _ => True) (DaysSpan calendar timezone start_time end_time (day_span start_time end_time)) where
  positive := by decide
  fits := day_length_le
  active_iff dt := by rw [check_daily_iff constant whole whole' differ,and_true]
  bounds_iff dt p active := single_day_iff constant whole ((check_daily_iff constant whole whole' differ dt).mp active)
  spanned begins p spans := spans.spanned constant whole whole' day_length_eq

/-- The day of a period is the weekday that is looked at. -/
theorem check_weekdays_iff (constant : timezone.Constant offset) (whole : start_time.Whole) (whole' : end_time.Whole)
    (differ : start_time.secs ≠ end_time.secs) (weekdays : List Weekday) (dt : Instant) :
    check_weekdays_schedule timezone dt weekdays start_time end_time = true ↔
      Open 86400 start_time.secs (day_length start_time end_time) (dt.secs+offset) ∧
        weekdays.contains (weekday_at (opening 86400 start_time.secs (dt.secs+offset) / 86400)) = true := by
  have time := local_time_secs constant dt
  have start := start_time.secs_lt
  have stop := end_time.secs_lt
  have date : local_date timezone dt = (dt.secs+offset)/86400 := by rw [local_date,constant.local_secs]
  have opens := opening_day start (dt.secs+offset)
  rw [← time,← date] at opens
  have target : opening 86400 start_time.secs (dt.secs+offset) / 86400 =
      if start_time ≤ local_time timezone dt then local_date timezone dt else local_date timezone dt-1 := by
    rw [opens]
    simp only [whole.le_iff,Nat.cast_le]
    omega
  rw [← check_daily_iff constant whole whole' differ,target]
  unfold check_weekdays_schedule check_daily_schedule local_weekday
  dsimp only
  by_cases same_day : start_time < end_time
  · rw [if_pos same_day,if_pos same_day,Bool.and_eq_true,Bool.and_eq_true,Bool.and_eq_true,decide_eq_true_iff,decide_eq_true_iff]
    by_cases late : start_time ≤ local_time timezone dt
    · rw [if_pos late]
      tauto
    · simp [late]
  · rw [if_neg same_day,if_neg same_day,Bool.or_eq_true,decide_eq_true_iff,decide_eq_true_iff]
    by_cases late : start_time ≤ local_time timezone dt
    · have after : ¬ local_time timezone dt < start_time := not_lt.mpr late
      simp [late,after]
    · have before : local_time timezone dt < start_time := not_le.mp late
      rw [if_neg late,if_neg late,weekday_at_pred]
      by_cases early : local_time timezone dt < end_time
      · simp [early,before,not_le.mpr early]
      · simp [early,before,not_lt.mp early,late]

theorem weekdays_windowed (constant : timezone.Constant offset) (whole : start_time.Whole) (whole' : end_time.Whole)
    (differ : start_time.secs ≠ end_time.secs) (weekdays : List Weekday) :
    Windowed (fun dt => check_weekdays_schedule timezone dt weekdays start_time end_time)
      (fun dt => calculate_single_day_session_bounds calendar dt start_time end_time timezone) offset 86400 start_time.secs
      (day_length start_time end_time) (fun begins => weekdays.contains (weekday_at (begins/86400)) = true)
      (DaysSpan calendar timezone start_time end_time (day_span start_time end_time)) where
  positive := by decide
  fits := day_length_le
  active_iff dt := check_weekdays_iff constant whole whole' differ weekdays dt
  bounds_iff dt p active := single_day_iff constant whole ((check_weekdays_iff constant whole whole' differ weekdays dt).mp active).1
  spanned begins p spans := spans.spanned constant whole whole' day_length_eq

/-! ### Weeks -/

theorem days_between_eq (a b : Weekday) : (days_between a b : Int) = ((a.num_days_from_monday : Int)-b.num_days_from_monday) % 7 :=
  Int.toNat_of_nonneg (Int.emod_nonneg _ (by decide))

theorem weekly_seconds_lt (day : Weekday) (time : NaiveTime) : weekly_seconds day time < 604800 := by
  have := day.num_lt
  have := time.secs_lt
  unfold weekly_seconds
  omega

/-- Positions in the week are seconds since a Monday. -/
theorem now_pos_eq (constant : timezone.Constant offset) (dt : Instant) :
    (weekly_seconds (local_weekday timezone dt) (local_time timezone dt) : Int) = (dt.secs+offset+259200) % 604800 := by
  have time := local_time_secs constant dt
  have date : local_date timezone dt = (dt.secs+offset)/86400 := by rw [local_date,constant.local_secs]
  have day := num_weekday_at (local_date timezone dt)
  unfold weekly_seconds local_weekday
  push_cast
  rw [day,time,date]
  omega

/-- The window of a week, from a position to another. -/
def week_length (start_pos end_pos : Nat) : Int := ((end_pos : Int)-start_pos) % 604800

theorem check_weekly_iff (constant : timezone.Constant offset) (start_day end_day : Weekday)
    (differ : weekly_seconds start_day start_time ≠ weekly_seconds end_day end_time) (dt : Instant) :
    check_weekly_schedule timezone dt start_day start_time end_day end_time = true ↔
      Open 604800 ((weekly_seconds start_day start_time : Int)-259200)
        (week_length (weekly_seconds start_day start_time) (weekly_seconds end_day end_time)) (dt.secs+offset) := by
  have now := now_pos_eq constant dt
  have start := weekly_seconds_lt start_day start_time
  have stop := weekly_seconds_lt end_day end_time
  unfold check_weekly_schedule Open week_length
  dsimp only
  generalize weekly_seconds start_day start_time = start_pos at *
  generalize weekly_seconds end_day end_time = end_pos at *
  generalize weekly_seconds (local_weekday timezone dt) (local_time timezone dt) = now_pos at *
  have shift : dt.secs+offset-((start_pos : Int)-259200) = dt.secs+offset+259200-start_pos := by omega
  rw [shift,phase_cases (Int.natCast_nonneg _) (by omega),phase_cases (Int.natCast_nonneg _) (by omega),← now]
  have small : (end_pos : Int) % 604800 = end_pos := Int.emod_eq_of_lt (by omega) (by omega)
  rw [small]
  split_ifs <;> simp only [Bool.and_eq_true,Bool.or_eq_true,decide_eq_true_iff] <;> omega

/-- A week's window opened so many days back. -/
theorem opening_week (constant : timezone.Constant offset) (whole : start_time.Whole) (start_day : Weekday) (dt : Instant) :
    opening 604800 ((weekly_seconds start_day start_time : Int)-259200) (dt.secs+offset) =
      (local_date timezone dt-days_back dt start_day start_time timezone)*86400+start_time.secs := by
  have time := local_time_secs constant dt
  have date : local_date timezone dt = (dt.secs+offset)/86400 := by rw [local_date,constant.local_secs]
  have parts : dt.secs+offset = local_date timezone dt*86400+(local_time timezone dt).secs := by
    rw [time,date]
    exact (Int.ediv_mul_add_emod _ _).symm
  have day := num_weekday_at (local_date timezone dt)
  have now := now_pos_eq constant dt
  have between := days_between_eq (local_weekday timezone dt) start_day
  have small := start_day.num_lt
  have small' := (local_weekday timezone dt).num_lt
  have start := start_time.secs_lt
  have late := (local_time timezone dt).secs_lt
  unfold opening days_back
  simp only [whole.lt_iff]
  have shift : dt.secs+offset-((weekly_seconds start_day start_time : Int)-259200) =
      dt.secs+offset+259200-(weekly_seconds start_day start_time : Int) := by omega
  rw [shift,phase_cases (Int.natCast_nonneg _) (by have := weekly_seconds_lt start_day start_time; omega),← now]
  unfold weekly_seconds
  unfold local_weekday at *
  push_cast
  generalize (weekday_at (local_date timezone dt)).num_days_from_monday = today at *
  generalize start_day.num_days_from_monday = first at *
  rw [parts]
  split_ifs with after before before <;> omega

theorem week_length_eq {start_day end_day : Weekday} (whole' : end_time.Whole)
    (differ : weekly_seconds start_day start_time ≠ weekly_seconds end_day end_time) :
    week_length (weekly_seconds start_day start_time) (weekly_seconds end_day end_time) =
      session_duration start_day start_time end_day end_time*86400+end_time.secs-start_time.secs := by
  have between := days_between_eq end_day start_day
  have small := start_day.num_lt
  have small' := end_day.num_lt
  have start := start_time.secs_lt
  have stop := end_time.secs_lt
  unfold week_length session_duration
  unfold weekly_seconds at *
  simp only [whole'.le_iff]
  push_cast
  generalize end_day.num_days_from_monday = last at *
  generalize start_day.num_days_from_monday = first at *
  split_ifs with late <;> omega

theorem weekly_iff (constant : timezone.Constant offset) (whole : start_time.Whole) (whole' : end_time.Whole) {start_day end_day : Weekday}
    (differ : weekly_seconds start_day start_time ≠ weekly_seconds end_day end_time) {dt : Instant} {p : Instant × Instant}
    (opened : Open 604800 ((weekly_seconds start_day start_time : Int)-259200)
      (week_length (weekly_seconds start_day start_time) (weekly_seconds end_day end_time)) (dt.secs+offset)) :
    calculate_weekly_session_bounds calendar dt start_day start_time end_day end_time timezone = .ok p ↔
      DaysSpan calendar timezone start_time end_time (session_duration start_day start_time end_day end_time)
        (opening 604800 ((weekly_seconds start_day start_time : Int)-259200) (dt.secs+offset)) p := by
  have start := start_time.secs_lt
  have stop := end_time.secs_lt
  have date : (dt.secs+offset)/86400 = local_date timezone dt := by rw [local_date,constant.local_secs]
  have opens := opening_week constant whole start_day dt
  have ends := opened.lt
  rw [week_length_eq whole' differ] at ends
  have begins : opening 604800 ((weekly_seconds start_day start_time : Int)-259200) (dt.secs+offset) / 86400 =
      local_date timezone dt-days_back dt start_day start_time timezone := by omega
  have phase : opening 604800 ((weekly_seconds start_day start_time : Int)-259200) (dt.secs+offset) % 86400 = start_time.secs := by omega
  unfold calculate_weekly_session_bounds DaysSpan
  rw [begins]
  simp only [MessageBuilder.bind_eq_ok,date_naive_eq_ok,sub_days_eq_ok,add_days_eq_ok]
  constructor
  · rintro ⟨_,⟨_,rfl⟩,_,⟨has,rfl⟩,_,⟨has',rfl⟩,_,first,_,last,same⟩
    cases same
    exact ⟨phase,has,has',first,last⟩
  · rintro ⟨_,has,has',first,last⟩
    have after := Int.sub_le_self (local_date timezone dt) (Int.natCast_nonneg (days_back dt start_day start_time timezone))
    have before : local_date timezone dt ≤
        local_date timezone dt-days_back dt start_day start_time timezone+session_duration start_day start_time end_day end_time :=
      Int.le_of_lt_add_one (by omega)
    have today : calendar.Has (local_date timezone dt) := ⟨has.1.trans after,before.trans has'.2⟩
    exact ⟨_,⟨today,rfl⟩,_,⟨has,rfl⟩,_,⟨has',rfl⟩,_,first,_,last,rfl⟩

theorem weekly_windowed (constant : timezone.Constant offset) (whole : start_time.Whole) (whole' : end_time.Whole) (start_day end_day : Weekday)
    (differ : weekly_seconds start_day start_time ≠ weekly_seconds end_day end_time) :
    Windowed (fun dt => check_weekly_schedule timezone dt start_day start_time end_day end_time)
      (fun dt => calculate_weekly_session_bounds calendar dt start_day start_time end_day end_time timezone) offset 604800
      ((weekly_seconds start_day start_time : Int)-259200)
      (week_length (weekly_seconds start_day start_time) (weekly_seconds end_day end_time)) (fun _ => True)
      (DaysSpan calendar timezone start_time end_time (session_duration start_day start_time end_day end_time)) where
  positive := by decide
  fits := by
    unfold week_length
    omega
  active_iff dt := by rw [check_weekly_iff constant start_day end_day differ,and_true]
  bounds_iff dt p active := weekly_iff constant whole whole' differ ((check_weekly_iff constant start_day end_day differ dt).mp active)
  spanned begins p spans := spans.spanned constant whole whole' (week_length_eq whole' differ)

end

/-! ### Configured schedules -/

structure ScheduleConfig.WholeSeconds (config : ScheduleConfig) : Prop where
  start_time : ∀ time ∈ config.start_time, time.Whole
  end_time : ∀ time ∈ config.end_time, time.Whole

section
variable {calendar : Calendar} {now : Instant} {config : ScheduleConfig} {schedule : SessionSchedule}

/-- Positions in the week differ, unless both the day and the time are the same. -/
theorem weekly_seconds_injective {start_day end_day : Weekday} {start_time end_time : NaiveTime} (whole : start_time.Whole) (whole' : end_time.Whole)
    (same : weekly_seconds start_day start_time = weekly_seconds end_day end_time) : start_day = end_day ∧ start_time = end_time := by
  have start := start_time.secs_lt
  have stop := end_time.secs_lt
  unfold weekly_seconds at same
  constructor
  · exact Weekday.num_injective (by omega)
  · rw [whole.eq_iff whole']
    omega

/-- A schedule that stops is a window. -/
theorem try_from_windowed (made : SessionSchedule.try_from config = .ok schedule) (stops : schedule ≠ .NonStop) (whole : config.WholeSeconds)
    {offset : Int} (constant : (config.timezone.getD .UTC).Constant offset) :
    ∃ period anchor length good spans,
      Windowed schedule.is_active_at (schedule.get_session_bounds calendar now) offset period anchor length good spans := by
  obtain ⟨start_time,end_time,start_day,end_day,weekdays,timezone⟩ := config
  obtain ⟨first,last⟩ := whole
  unfold SessionSchedule.try_from at made
  dsimp only at first last constant made
  split at made
  · split_ifs at made
    exact absurd (Except.ok.inj made).symm stops
  · next start stop =>
    have whole := first start rfl
    have whole' := last stop rfl
    split_ifs at made with daily same same
    · exact absurd (Except.ok.inj made).symm stops
    · cases made
      rw [whole.eq_iff whole'] at same
      exact ⟨_,_,_,_,_,daily_windowed constant whole whole' same⟩
    · cases made
      rw [whole.eq_iff whole'] at same
      exact ⟨_,_,_,_,_,weekdays_windowed constant whole whole' same weekdays⟩
  · next start stop start_day end_day =>
    have whole := first start rfl
    have whole' := last stop rfl
    split_ifs at made with daily early same
    · exact absurd (Except.ok.inj made).symm stops
    · cases made
      exact ⟨_,_,_,_,_,weekly_windowed constant whole whole' start_day end_day fun position =>
        same (weekly_seconds_injective whole whole' position)⟩
  · cases made

theorem same_period_iff {dt1 dt2 : Instant} (here : schedule.is_active_at dt1 = true) (there : schedule.is_active_at dt2 = true) :
    schedule.is_same_session_period calendar now dt1 dt2 = .ok .SamePeriod ↔ Together (schedule.get_session_bounds calendar now) dt1 dt2 := by
  unfold SessionSchedule.is_same_session_period Together
  rw [here,there]
  dsimp only
  rw [MessageBuilder.bind_eq_ok]
  refine exists_congr fun p => and_congr_right fun _ => ?_
  split_ifs with within
  · exact iff_of_true rfl within
  · refine iff_of_false ?_ within
    intro same
    cases same

/-- Session periods partition active time: an active instant lies in its period, all of the period
    is active and has the same bounds, and being in the same period is an equivalence whose
    classes are the periods. -/
theorem periods_partition (calendar : Calendar) (now : Instant) {config : ScheduleConfig} {schedule : SessionSchedule}
    (made : SessionSchedule.try_from config = .ok schedule) (stops : schedule ≠ .NonStop) (whole : config.WholeSeconds)
    {offset : Int} (constant : (config.timezone.getD .UTC).Constant offset) :
    Partitions (schedule.is_active_at · = true) (schedule.get_session_bounds calendar now) ∧
      Equivalence (fun a b : Points (schedule.is_active_at · = true) (schedule.get_session_bounds calendar now) =>
        schedule.is_same_session_period calendar now a.1 b.1 = .ok .SamePeriod) ∧
      (∀ dt p, schedule.is_active_at dt = true → schedule.get_session_bounds calendar now dt = .ok p →
        { dt' | schedule.is_active_at dt' = true ∧ schedule.is_same_session_period calendar now dt dt' = .ok .SamePeriod } = Set.Ico p.1 p.2) ∧
      ∀ dt dt', schedule.is_active_at dt = true → schedule.is_active_at dt' = true →
        (schedule.is_same_session_period calendar now dt dt' = .ok .SamePeriod ↔
          ∃ p, schedule.get_session_bounds calendar now dt = .ok p ∧ schedule.get_session_bounds calendar now dt' = .ok p) := by
  obtain ⟨_,_,_,_,_,windowed⟩ := try_from_windowed made stops whole constant
  have partitions := windowed.partitions
  refine ⟨partitions,?_,?_,?_⟩
  · convert partitions.equivalence using 3 with a b
    exact same_period_iff a.2.1 b.2.1
  · intro dt p here found
    rw [← partitions.class_eq here found]
    ext dt'
    exact and_congr_right fun there => same_period_iff here there
  · intro dt dt' here there
    rw [same_period_iff here there]
    exact partitions.together_iff here there

end

/-- From Sunday at 18:00 to Friday at 17:00. -/
def trading_week : ScheduleConfig :=
  ⟨some ⟨64800,0,by decide⟩,some ⟨61200,0,by decide⟩,some .Sun,some .Fri,[],none⟩

/-- The epoch was a Thursday. -/
theorem epoch_week : { dt | SessionSchedule.is_active_at (.Weekly .Sun ⟨64800,0,by decide⟩ .Fri ⟨61200,0,by decide⟩ .UTC) dt = true ∧
    SessionSchedule.is_same_session_period ⟨-100000000,100000000⟩ ⟨0,0⟩ (.Weekly .Sun ⟨64800,0,by decide⟩ .Fri ⟨61200,0,by decide⟩ .UTC) ⟨0,0⟩ dt =
      .ok .SamePeriod } = Set.Ico ⟨-4*86400+64800,0⟩ ⟨86400+61200,0⟩ := by
  have whole : trading_week.WholeSeconds := ⟨by rintro _ ⟨⟩; rfl,by rintro _ ⟨⟩; rfl⟩
  have constant : (trading_week.timezone.getD .UTC).Constant 0 := by
    refine ⟨fun _ => rfl,fun secs utc found => ?_⟩
    obtain rfl : secs = utc := Option.some.inj found
    exact (Int.sub_zero _).symm
  exact (periods_partition ⟨-100000000,100000000⟩ ⟨0,0⟩ (rfl : SessionSchedule.try_from trading_week = _) (by intro same; cases same) whole constant).2.2.1
    ⟨0,0⟩ _ (by decide) (by rfl)

end HotFix.Schedules
