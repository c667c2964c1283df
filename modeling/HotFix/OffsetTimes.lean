import HotFix.Zones

/-!
Date-times with an offset. The calendar and the parsing of dates and times are a library's;
its date-times are an instant in UTC and an offset. What is written is the local date and
the offset, and what is read is a date-time in UTC and an offset.
-/
namespace HotFix
open Positional

/-- The library: its dates, its times, how they are parsed and what a date is at an offset. -/
class Chrono (NaiveDate NaiveTime : Type) where
  year : NaiveDate → Int
  month : NaiveDate → Nat
  day : NaiveDate → Nat
  month_le : ∀ d, month d ≤ 12
  day_le : ∀ d, day d ≤ 31
  /-- `parse_from_str` with `%Y%m%d`. -/
  parse_date : Bytes → Option NaiveDate
  /-- `parse_from_str` with `%H:%M:%S`, or with milliseconds. -/
  parse_time : Bytes → Option NaiveTime
  /-- The date of a date-time in UTC, so many seconds east of it. -/
  date_at : NaiveDate → NaiveTime → Int → NaiveDate

/-- Less than a day east or west. -/
structure FixedOffset where
  local_minus_utc : Int
  bounds : -86400 < local_minus_utc ∧ local_minus_utc < 86400
  deriving DecidableEq

structure NaiveDateTime (NaiveDate NaiveTime : Type) where
  date : NaiveDate
  time : NaiveTime

structure OffsetDateTime (NaiveDate NaiveTime : Type) where
  naive_utc : NaiveDateTime NaiveDate NaiveTime
  offset : FixedOffset

/-! ### The code -/

def FixedOffset.east_opt (secs : Int) : Option FixedOffset :=
  if bounds : -86400 < secs ∧ secs < 86400 then some ⟨secs,bounds⟩ else none

def expect_value {α : Type} (value : Option α) (message : String) : Checked α :=
  match value with
  | some a => .ok a
  | none => .error message

/-- The sign is left behind. -/
def Tz.to_chrono_offset (tz : Tz) : Checked FixedOffset :=
  expect_value (FixedOffset.east_opt (as_i32 tz.offset_from_utc_in_seconds.natAbs))
    "we already verified that the offset is within bounds during deserialisation"

def Tz.from_chrono_offset (offset : FixedOffset) : Tz := ⟨offset.local_minus_utc⟩

namespace FixedOffset

def serialize (offset : FixedOffset) : Bytes := (Tz.from_chrono_offset offset).serialize

def deserialize (arith : Arith) (data : Bytes) : Checked (Option FixedOffset) := do
  match ← Tz.deserialize arith data with
  | none => return none
  | some tz => return some (← tz.to_chrono_offset)

end FixedOffset

/-- `{:0width}`. -/
def zero_padded (width : Nat) (n : Int) : Bytes :=
  let sign : Bytes := if n < 0 then [45] else []
  let digits := Decimal.decimal n.natAbs
  sign ++ List.replicate (width - sign.length - digits.length) 48 ++ digits

section
variable {NaiveDate NaiveTime : Type} [Chrono NaiveDate NaiveTime]
open Chrono

variable (NaiveTime) in
def serialize_date (d : NaiveDate) : Bytes :=
  zero_padded 4 (year NaiveTime d) ++ zero_padded 2 (month NaiveTime d) ++ zero_padded 2 (day NaiveTime d)

def NaiveDateTime.deserialize (data : Bytes) : Option (NaiveDateTime NaiveDate NaiveTime) :=
  if data.length < 10 then none else
  match parse_date NaiveTime (data.take 8) with
  | none => none
  | some date =>
    if data[8]? ≠ some 45 then none else
    match parse_time NaiveDate (data.drop 9) with
    | none => none
    | some time => some ⟨date,time⟩

namespace OffsetDateTime

def date_naive (d : OffsetDateTime NaiveDate NaiveTime) : NaiveDate :=
  date_at d.naive_utc.date d.naive_utc.time d.offset.local_minus_utc

def serialize (d : OffsetDateTime NaiveDate NaiveTime) : Bytes := serialize_date NaiveTime d.date_naive ++ d.offset.serialize

def deserialize (arith : Arith) (data : Bytes) : Checked (Option (OffsetDateTime NaiveDate NaiveTime)) :=
  if data.length < 17 then return none else
  match NaiveDateTime.deserialize (data.take 17) with
  | none => return none
  | some naive_utc => do
    match ← FixedOffset.deserialize arith (data.drop 17) with
    | none => return none
    | some offset => return some ⟨naive_utc,offset⟩

end OffsetDateTime
end

/-! ### Zones as offsets -/

/-- The seconds behind the sign are less than a day. -/
def Tz.Bounded (zone : Bytes) : Prop :=
  ∀ sign rest ds, Tz.parts zone = some (sign,rest) → Tz.digits rest = some ds → (Tz.total ds).natAbs < 86400

theorem FixedOffset.east_opt_isSome {secs : Int} : (FixedOffset.east_opt secs).isSome = true ↔ -86400 < secs ∧ secs < 86400 := by
  unfold FixedOffset.east_opt
  split_ifs with bounds
  · exact iff_of_true rfl bounds
  · exact iff_of_false (by decide) bounds

theorem expect_value_returns {α : Type} {value : Option α} {message : String} :
    (∃ r, expect_value value message = .ok r) ↔ value.isSome = true := by
  cases value with
  | none =>
    refine iff_of_false ?_ Bool.false_ne_true
    rintro ⟨_,read⟩
    cases read
  | some a => exact iff_of_true ⟨a,rfl⟩ rfl

/-- The library takes less than a day. -/
theorem Tz.to_chrono_offset_returns (tz : Tz) (small : tz.offset_from_utc_in_seconds.natAbs < 9000000) :
    (∃ r, tz.to_chrono_offset = .ok r) ↔ tz.offset_from_utc_in_seconds.natAbs < 86400 := by
  have same : as_i32 tz.offset_from_utc_in_seconds.natAbs = tz.offset_from_utc_in_seconds.natAbs := Tz.bmod_small (by omega) (by omega)
  rw [to_chrono_offset,expect_value_returns,same,FixedOffset.east_opt_isSome]
  omega

theorem Tz.signed_read (arith : Arith) {sign : Int} {rest ds : Bytes} (found : digits rest = some ds) {r : Option Tz}
    (read : signed arith sign rest = .ok r) : ∃ tz, r = some tz := by
  unfold signed at read
  obtain ⟨s,reading,read⟩ := MessageBuilder.bind_eq_ok.mp read
  obtain ⟨s,rfl⟩ := seconds_read arith found reading
  obtain ⟨offset,_,read⟩ := MessageBuilder.bind_eq_ok.mp read
  exact ⟨_,(Except.ok.inj read).symm⟩

theorem Tz.signed_digits (arith : Arith) {sign : Int} {rest : Bytes} {tz : Tz} (read : signed arith sign rest = .ok (some tz)) :
    ∃ ds, digits rest = some ds := by
  cases found : digits rest with
  | some ds => exact ⟨ds,rfl⟩
  | none =>
    unfold signed at read
    rw [seconds_none arith found] at read
    cases read

theorem Tz.signed_natAbs (arith : Arith) {sign : Int} (unit : sign = 1 ∨ sign = -1) {rest ds : Bytes} (found : digits rest = some ds) {tz : Tz}
    (read : signed arith sign rest = .ok (some tz)) : tz.offset_from_utc_in_seconds.natAbs = (total ds).natAbs := by
  obtain ⟨_,offset⟩ := (signed_iff arith unit found).mp read
  rw [offset]
  rcases unit with rfl | rfl
  · rw [Int.one_mul]
  · rw [Int.neg_one_mul,Int.natAbs_neg]

/-- Without a sign a zone is UTC. -/
theorem Tz.deserialize_unsigned (arith : Arith) {zone : Bytes} {tz : Tz} (unsigned : parts zone = none)
    (read : deserialize arith zone = .ok (some tz)) : tz = UTC := by
  unfold deserialize at read
  split at read
  · cases read
  · cases read
    rfl
  · cases unsigned
  · cases unsigned
  · cases read

/-- A zone is read as an offset without a panic exactly when it fits and is less than a day. -/
theorem FixedOffset.deserialize_returns (arith : Arith) (zone : Bytes) :
    (∃ r, FixedOffset.deserialize arith zone = .ok r) ↔ Tz.Fits arith zone ∧ Tz.Bounded zone := by
  unfold FixedOffset.deserialize
  rw [TzTime.returns_bind,← Tz.deserialize_fits]
  constructor
  · rintro ⟨r,read,later⟩
    refine ⟨⟨r,read⟩,?_⟩
    intro sign rest ds split found
    have small := Tz.total_small found
    rw [Tz.deserialize_parts arith split] at read
    obtain ⟨tz,rfl⟩ := Tz.signed_read arith found read
    have same := Tz.signed_natAbs arith (Tz.parts_unit split) found read
    rw [← same]
    obtain ⟨o,converted,_⟩ := TzTime.returns_bind.mp later
    exact (Tz.to_chrono_offset_returns tz (by omega)).mp ⟨o,converted⟩
  · rintro ⟨⟨r,read⟩,bounded⟩
    refine ⟨r,read,?_⟩
    cases r with
    | none => exact ⟨none,rfl⟩
    | some tz =>
      refine TzTime.returns_bind.mpr ?_
      have day : tz.offset_from_utc_in_seconds.natAbs < 86400 := by
        cases split : Tz.parts zone with
        | none =>
          rw [Tz.deserialize_unsigned arith split read]
          decide
        | some parts =>
          obtain ⟨sign,rest⟩ := parts
          rw [Tz.deserialize_parts arith split] at read
          obtain ⟨ds,found⟩ := Tz.signed_digits arith read
          rw [Tz.signed_natAbs arith (Tz.parts_unit split) found read]
          exact bounded sign rest ds split found
      obtain ⟨o,converted⟩ := (Tz.to_chrono_offset_returns tz (by omega)).mpr day
      exact ⟨o,converted,some o,rfl⟩

/-! ### Date-times -/

theorem Tz.serialize_length (tz : Tz) : tz.serialize.length ≤ 6 := by
  unfold serialize
  dsimp only
  split_ifs <;> simp

theorem FixedOffset.serialize_length (offset : FixedOffset) : offset.serialize.length ≤ 6 := Tz.serialize_length _

/-- A number of so many digits is padded to its width. -/
theorem zero_padded_length {width : Nat} {n : Int} (positive : 0 ≤ n) (digits : (Decimal.decimal n.natAbs).length ≤ width) :
    (zero_padded width n).length = width := by
  unfold zero_padded
  rw [if_neg (by omega)]
  simp only [List.nil_append,List.length_nil,List.length_append,List.length_replicate]
  omega

section
variable {NaiveDate NaiveTime : Type} [Chrono NaiveDate NaiveTime]
open Chrono

theorem decimal_length {n width : Nat} (small : n < 10 ^ width) (some_digit : 0 < width) : (Decimal.decimal n).length ≤ width := by
  rw [Decimal.decimal,List.length_map]
  exact (Nat.length_toDigits_le_iff (by decide) some_digit).mpr small

theorem serialize_date_length {d : NaiveDate} (low : 0 ≤ year NaiveTime d) (high : year NaiveTime d ≤ 9999) :
    (serialize_date NaiveTime d).length = 8 := by
  have month : month NaiveTime d ≤ 12 := month_le d
  have day : day NaiveTime d ≤ 31 := day_le d
  unfold serialize_date
  rw [List.length_append,List.length_append,zero_padded_length low (decimal_length (by omega) (by decide)),
    zero_padded_length (Int.natCast_nonneg _) (decimal_length (by omega) (by decide)),
    zero_padded_length (Int.natCast_nonneg _) (decimal_length (by omega) (by decide))]

namespace OffsetDateTime

/-- What is written is read as the same date-time. -/
def RoundTrips (arith : Arith) (d : OffsetDateTime NaiveDate NaiveTime) : Prop := deserialize arith d.serialize = .ok (some d)

/-- The time is not written, and so nothing is read. -/
theorem deserialize_serialize (arith : Arith) {d : OffsetDateTime NaiveDate NaiveTime} (low : 0 ≤ year NaiveTime d.date_naive)
    (high : year NaiveTime d.date_naive ≤ 9999) : deserialize arith d.serialize = .ok (none : Option (OffsetDateTime NaiveDate NaiveTime)) := by
  have short : d.serialize.length < 17 := by
    have offset := d.offset.serialize_length
    unfold serialize
    rw [List.length_append,serialize_date_length low high]
    omega
  unfold deserialize
  rw [if_pos short]
  rfl

variable (NaiveDate NaiveTime) in
/-- If a date-time in UTC is read, what follows fits and is less than a day. -/
def Quiet (arith : Arith) (data : Bytes) : Prop :=
  17 ≤ data.length → (NaiveDateTime.deserialize (data.take 17) : Option (NaiveDateTime NaiveDate NaiveTime)).isSome = true →
    Tz.Fits arith (data.drop 17) ∧ Tz.Bounded (data.drop 17)

theorem deserialize_returns (arith : Arith) (data : Bytes) :
    (∃ r : Option (OffsetDateTime NaiveDate NaiveTime), deserialize arith data = .ok r) ↔ Quiet NaiveDate NaiveTime arith data := by
  unfold deserialize Quiet
  split_ifs with short
  · exact iff_of_true ⟨_,rfl⟩ (fun long => absurd short (Nat.not_lt.mpr long))
  · cases (NaiveDateTime.deserialize (data.take 17) : Option (NaiveDateTime NaiveDate NaiveTime)) with
    | none => exact iff_of_true ⟨_,rfl⟩ (fun _ found => by cases found)
    | some naive_utc =>
      rw [← FixedOffset.deserialize_returns,TzTime.returns_bind]
      constructor
      · rintro ⟨r,read,_⟩ _ _
        exact ⟨r,read⟩
      · intro quiet
        obtain ⟨r,read⟩ := quiet (by omega) rfl
        refine ⟨r,read,?_⟩
        cases r <;> exact ⟨_,rfl⟩

/-- No date-time of a four-digit year is read as it is written, and the reader returns exactly
    where the offset it gets to is one. -/
theorem never_read_back (arith : Arith) :
    (∀ d : OffsetDateTime NaiveDate NaiveTime, 0 ≤ year NaiveTime d.date_naive → year NaiveTime d.date_naive ≤ 9999 →
      ¬ RoundTrips arith d) ∧
    ∀ data, (∃ r : Option (OffsetDateTime NaiveDate NaiveTime), deserialize arith data = .ok r) ↔ Quiet NaiveDate NaiveTime arith data := by
  refine ⟨?_,deserialize_returns arith⟩
  intro d low high back
  cases (deserialize_serialize arith low high).symm.trans back

end OffsetDateTime
end

/-! ### Noon in India -/

namespace Sample

/-- Dates and times as the session reads them, for date-times that are of one date in UTC and
    at their offset. -/
@[reducible] def chrono : Chrono Date Time where
  year d := d.year
  month := Date.month
  day := Date.day
  month_le d := d.month_bounds.2
  day_le d := d.day_bounds.2
  parse_date := Date.deserialize
  parse_time := Time.deserialize
  date_at d _ _ := d

def noon : OffsetDateTime Date Time :=
  ⟨⟨(Date.new 2024 1 1).get rfl,(Time.from_hmsm 6 30 0 0).get rfl⟩,⟨19800,by decide⟩⟩

end Sample

/-- Noon at half past five hours east is written without its time, and not read back. -/
theorem noon_lost : ¬ @OffsetDateTime.RoundTrips Date Time Sample.chrono .exact Sample.noon :=
  (@OffsetDateTime.never_read_back Date Time Sample.chrono .exact).1 Sample.noon (by decide) (by decide)

/-- Not every date-time is read as it is written. -/
theorem noon_not_read : ¬ ∀ (NaiveDate NaiveTime : Type) (_ : Chrono NaiveDate NaiveTime) (arith : Arith)
    (d : OffsetDateTime NaiveDate NaiveTime), d.RoundTrips arith := by
  intro always
  have back := always Date Time Sample.chrono .exact Sample.noon
  have lost := @OffsetDateTime.deserialize_serialize Date Time Sample.chrono .exact Sample.noon (by decide) (by decide)
  cases lost.symm.trans back

end HotFix
