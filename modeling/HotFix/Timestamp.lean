import HotFix.Decimal

/-!
Dates, times of day and timestamps as the field types read and write them.
Dates and times carry the bounds their constructors check. `to_chrono_utc` is the
calendar of the standard library in use: days of the proleptic Gregorian
calendar, and a second 60 is no time of day there.
-/
namespace HotFix

def U32 : Nat := UInt32.size

/-- `(digit as u32).wrapping_sub(b'0' as u32) * multiplier`, on 32 bits. -/
def ascii_digit_to_u32 (digit : UInt8) (multiplier : Nat) : Nat :=
  (digit.toNat + U32 - 48) % U32 * multiplier % U32

structure Date where
  year : Nat
  month : Nat
  day : Nat
  year_le : year ≤ 9999
  month_bounds : 1 ≤ month ∧ month ≤ 12
  day_bounds : 1 ≤ day ∧ day ≤ 31
  deriving DecidableEq

def Date.new (year month day : Nat) : Option Date :=
  if bounds : year ≤ 9999 ∧ (1 ≤ month ∧ month ≤ 12) ∧ (1 ≤ day ∧ day ≤ 31) then
    some ⟨year,month,day,bounds.1,bounds.2.1,bounds.2.2⟩
  else none

/-- The ASCII digit of a number below ten. -/
def digit_to_ascii (n : Nat) : UInt8 := (n + 48).toUInt8

def Date.to_yyyymmdd (d : Date) : Bytes :=
  [digit_to_ascii (d.year/1000),digit_to_ascii (d.year/100%10),digit_to_ascii (d.year/10%10),
    digit_to_ascii (d.year%10),digit_to_ascii (d.month/10),digit_to_ascii (d.month%10),
    digit_to_ascii (d.day/10),digit_to_ascii (d.day%10)]

def Date.deserialize : Bytes → Option Date
  | [y3,y2,y1,y0,m1,m0,d1,d0] =>
    if [y3,y2,y1,y0,m1,m0,d1,d0].all Decimal.isDigit then
      Date.new (ascii_digit_to_u32 y3 1000 + ascii_digit_to_u32 y2 100 + ascii_digit_to_u32 y1 10 +
          ascii_digit_to_u32 y0 1)
        (ascii_digit_to_u32 m1 10 + ascii_digit_to_u32 m0 1) (ascii_digit_to_u32 d1 10 + ascii_digit_to_u32 d0 1)
    else none
  | _ => none

structure Time where
  hour : Nat
  minute : Nat
  second : Nat
  milli : Nat
  hour_le : hour ≤ 23
  minute_le : minute ≤ 59
  second_le : second ≤ 60
  milli_le : milli ≤ 999
  deriving DecidableEq

def Time.from_hmsm (hour minute second milli : Nat) : Option Time :=
  if bounds : hour ≤ 23 ∧ minute ≤ 59 ∧ second ≤ 60 ∧ milli ≤ 999 then
    some ⟨hour,minute,second,milli,bounds.1,bounds.2.1,bounds.2.2.1,bounds.2.2.2⟩
  else none

def Time.to_bytes (t : Time) : Bytes :=
  [digit_to_ascii (t.hour/10),digit_to_ascii (t.hour%10),58,
    digit_to_ascii (t.minute/10),digit_to_ascii (t.minute%10),58,
    digit_to_ascii (t.second/10),digit_to_ascii (t.second%10),46,
    digit_to_ascii (t.milli/100),digit_to_ascii (t.milli/10%10),digit_to_ascii (t.milli%10)]

/-- The part of `Time::deserialize` after the milliseconds have been read. -/
def Time.of_digits (h1 h0 c1 m1 m0 c2 s1 s0 : UInt8) (milli : Nat) : Option Time :=
  if c1 = 58 ∧ c2 = 58 ∧ [h1,h0,m1,m0,s1,s0].all Decimal.isDigit = true then
    Time.from_hmsm (ascii_digit_to_u32 h1 10 + ascii_digit_to_u32 h0 1)
      (ascii_digit_to_u32 m1 10 + ascii_digit_to_u32 m0 1) (ascii_digit_to_u32 s1 10 + ascii_digit_to_u32 s0 1) milli
  else none

def Time.deserialize : Bytes → Option Time
  | [h1,h0,c1,m1,m0,c2,s1,s0,dot,f2,f1,f0] =>
    let milli := (ascii_digit_to_u32 f2 100 + ascii_digit_to_u32 f1 10 + ascii_digit_to_u32 f0 1) % U32
    if dot = 46 then Time.of_digits h1 h0 c1 m1 m0 c2 s1 s0 milli else none
  | [h1,h0,c1,m1,m0,c2,s1,s0] => Time.of_digits h1 h0 c1 m1 m0 c2 s1 s0 0
  | _ => none

structure Timestamp where
  date : Date
  time : Time
  deriving DecidableEq

def Timestamp.parse (data : Bytes) : Option Timestamp := do
  if data.length < 12 ∨ data[8]? ≠ some 45 then none else
  let date ← Date.deserialize (data.take 8)
  let time ← Time.deserialize (data.drop 9)
  return ⟨date,time⟩

def Timestamp.to_bytes (t : Timestamp) : Bytes := t.date.to_yyyymmdd ++ [45] ++ t.time.to_bytes

/-- The order of the derived `PartialOrd`: field by field, the date first. -/
def Timestamp.components (t : Timestamp) : List Nat :=
  [t.date.year,t.date.month,t.date.day,t.time.hour,t.time.minute,t.time.second,t.time.milli]
def Timestamp.after (t u : Timestamp) : Bool := decide (u.components < t.components)

/-! ### The calendar -/

def leap_year (year : Nat) : Bool := year % 4 = 0 && (year % 100 ≠ 0 || year % 400 = 0)

def days_in_month (year month : Nat) : Nat :=
  if month = 2 then (if leap_year year then 29 else 28)
  else if month = 4 ∨ month = 6 ∨ month = 9 ∨ month = 11 then 30 else 31

/-- The days from the start of year 0 to the start of a year. -/
def days_before_year (year : Nat) : Nat := 365*year + (year+3)/4 - (year+99)/100 + (year+399)/400

def days_before_month (year : Nat) : Nat → Nat
  | 0 => 0
  | 1 => 0
  | month+1 => days_before_month year month + days_in_month year month

/-- The day number of a calendar date; none for a day its month does not have. -/
def Date.to_chrono_naive (d : Date) : Option Nat :=
  if d.day ≤ days_in_month d.year d.month then
    some (days_before_year d.year + days_before_month d.year d.month + (d.day-1))
  else none

/-- The millisecond of the day; none in a second 60. -/
def Time.to_chrono_naive (t : Time) : Option Nat :=
  if t.second ≤ 59 then some (((t.hour*60+t.minute)*60+t.second)*1000+t.milli) else none

/-- The instant of a timestamp, in milliseconds from the start of year 0. -/
def Timestamp.to_chrono_utc (t : Timestamp) : Option Nat := do
  let day ← t.date.to_chrono_naive
  let millis ← t.time.to_chrono_naive
  return day*86400000+millis

/-! ### Reading back what was written -/

private theorem digit_toNat {n : Nat} (small : n ≤ 9) : (digit_to_ascii n).toNat = n + 48 := by
  simp only [digit_to_ascii,Nat.toUInt8,UInt8.toNat_ofNat']
  omega

private theorem digit_isDigit {n : Nat} (small : n ≤ 9) : Decimal.isDigit (digit_to_ascii n) = true := by
  simp only [Decimal.isDigit,digit_toNat small,Bool.and_eq_true,decide_eq_true_eq]
  omega

private theorem digit_value {n k : Nat} (small : n ≤ 9) (multiplier : k ≤ 1000) :
    ascii_digit_to_u32 (digit_to_ascii n) k = n*k := by
  have product : n*k ≤ 9*1000 := Nat.mul_le_mul small multiplier
  have low : (n + 48 + U32 - 48) % U32 = n := by
    simp only [U32,UInt32.size]
    omega
  rw [ascii_digit_to_u32,digit_toNat small,low]
  exact Nat.mod_eq_of_lt (Nat.lt_of_le_of_lt product (by decide))

theorem Date.deserialize_to_yyyymmdd (d : Date) : Date.deserialize d.to_yyyymmdd = some d := by
  obtain ⟨year,month,day,yearLe,monthBounds,dayBounds⟩ := d
  have y3 : year/1000 ≤ 9 := by omega
  have y2 : year/100%10 ≤ 9 := by omega
  have y1 : year/10%10 ≤ 9 := by omega
  have y0 : year%10 ≤ 9 := by omega
  have m1 : month/10 ≤ 9 := by omega
  have m0 : month%10 ≤ 9 := by omega
  have d1 : day/10 ≤ 9 := by omega
  have d0 : day%10 ≤ 9 := by omega
  simp only [Date.to_yyyymmdd,Date.deserialize,List.all_cons,List.all_nil,digit_isDigit,y3,y2,y1,y0,m1,m0,d1,d0,
    Bool.and_self,if_true,digit_value,Nat.reduceLeDiff]
  have yearIs : year/1000*1000+year/100%10*100+year/10%10*10+year%10*1 = year := by omega
  have monthIs : month/10*10+month%10*1 = month := by omega
  have dayIs : day/10*10+day%10*1 = day := by omega
  rw [yearIs,monthIs,dayIs,Date.new,dif_pos ⟨yearLe,monthBounds,dayBounds⟩]

theorem Time.deserialize_to_bytes (t : Time) : Time.deserialize t.to_bytes = some t := by
  obtain ⟨hour,minute,second,milli,hourLe,minuteLe,secondLe,milliLe⟩ := t
  have h1 : hour/10 ≤ 9 := by omega
  have h0 : hour%10 ≤ 9 := by omega
  have m1 : minute/10 ≤ 9 := by omega
  have m0 : minute%10 ≤ 9 := by omega
  have s1 : second/10 ≤ 9 := by omega
  have s0 : second%10 ≤ 9 := by omega
  have f2 : milli/100 ≤ 9 := by omega
  have f1 : milli/10%10 ≤ 9 := by omega
  have f0 : milli%10 ≤ 9 := by omega
  simp only [Time.to_bytes,Time.deserialize,Time.of_digits,List.all_cons,List.all_nil,digit_isDigit,
    h1,h0,m1,m0,s1,s0,Bool.and_self,if_true,true_and,digit_value,f2,f1,f0,Nat.reduceLeDiff]
  have hourIs : hour/10*10+hour%10*1 = hour := by omega
  have minuteIs : minute/10*10+minute%10*1 = minute := by omega
  have secondIs : second/10*10+second%10*1 = second := by omega
  have milliIs : (milli/100*100+milli/10%10*10+milli%10*1) % U32 = milli := by
    have hundreds : milli/10/10 = milli/100 := Nat.div_div_eq_div_mul ..
    simp only [U32,UInt32.size]
    omega
  rw [hourIs,minuteIs,secondIs,milliIs,Time.from_hmsm,dif_pos ⟨hourLe,minuteLe,secondLe,milliLe⟩]

/-- Every timestamp reads back from the bytes it is written as. -/
theorem Timestamp.parse_to_bytes (t : Timestamp) : Timestamp.parse t.to_bytes = some t := by
  have date : t.to_bytes.take 8 = t.date.to_yyyymmdd := rfl
  have time : t.to_bytes.drop 9 = t.time.to_bytes := rfl
  have dash : t.to_bytes[8]? = some 45 := rfl
  have long : ¬ t.to_bytes.length < 12 := by
    simp [Timestamp.to_bytes,Date.to_yyyymmdd,Time.to_bytes]
  simp [Timestamp.parse,date,time,dash,long,Date.deserialize_to_yyyymmdd,Time.deserialize_to_bytes]

end HotFix
