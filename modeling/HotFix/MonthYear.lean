import HotFix.Clocks
import HotFix.Texts

/-!
Months of a year, with a day or a week. Eight bytes are checked position by position and then
read without checks, and written back as eight bytes. A month without day or week has no value,
and month and day are not checked from below.
-/
namespace HotFix
open MessageBuilder

inductive DayOrWeek where
  | Day (day : Nat)
  | Week (week : Nat)

structure MonthYear where
  year : Nat
  month : Nat
  day_or_week : DayOrWeek

/-- `n as u8 + b'0'`. -/
def u8_digit (arith : Arith) (n : Nat) : Checked UInt8 :=
  match arith with
  | .exact => if n % 256 + 48 < 256 then .ok (n % 256 + 48).toUInt8 else .error "attempt to add with overflow"
  | .wrapping => .ok (n % 256 + 48).toUInt8

namespace MonthYear

def to_yyyymmww (arith : Arith) (my : MonthYear) : Checked Bytes := do
  let day_or_week_1 ← match my.day_or_week with
    | .Day day => u8_digit arith (day / 10)
    | .Week _ => pure 119
  let day_or_week_2 ← match my.day_or_week with
    | .Day day => u8_digit arith (day % 10)
    | .Week week => u8_digit arith week
  let year_1 ← u8_digit arith (my.year / 1000)
  let year_2 ← u8_digit arith (my.year / 100 % 10)
  let year_3 ← u8_digit arith (my.year / 10 % 10)
  let year_4 ← u8_digit arith (my.year % 10)
  let month_1 ← u8_digit arith (my.month / 10)
  let month_2 ← u8_digit arith (my.month % 10)
  return [year_1,year_2,year_3,year_4,month_1,month_2,day_or_week_1,day_or_week_2]

def day (my : MonthYear) : Option Nat :=
  match my.day_or_week with
  | .Day day => some day
  | .Week _ => none

def week (my : MonthYear) : Option Nat :=
  match my.day_or_week with
  | .Day _ => none
  | .Week week => some week

/-- The buffer with the bytes at its end, and their number. -/
def serialize_with (arith : Arith) (my : MonthYear) (buffer : Bytes) : Checked (Bytes × Nat) := do
  let bytes ← my.to_yyyymmww arith
  return (buffer ++ bytes,bytes.length)

def is_digit (byte min_digit max_digit : UInt8) : Bool := min_digit + 48 ≤ byte && byte ≤ max_digit + 48

/-- `digit.wrapping_sub(b'0')`. -/
def from_digit (digit : UInt8) : UInt8 := digit - 48

def validate_year (y3 y2 y1 y0 : UInt8) : Bool := is_digit y3 0 9 && is_digit y2 0 9 && is_digit y1 0 9 && is_digit y0 0 9

def validate_month (m1 m0 : UInt8) : Bool := (m1 = 48 && m0 ≤ 57 || m1 = 49 && m0 ≤ 50) && 48 ≤ m0

def validate_week (d1 d0 : UInt8) : Bool := d1 = 119 && is_digit d0 1 5

def validate_day (d1 d0 : UInt8) : Bool :=
  d1 = 48 && 48 ≤ d0 && d0 ≤ 57 || d1 = 49 && 48 ≤ d0 && d0 ≤ 57 || d1 = 50 && 48 ≤ d0 && d0 ≤ 57 || d1 = 51 && 48 ≤ d0 && d0 ≤ 49

def validate : Bytes → Bool
  | [y3,y2,y1,y0,m1,m0,d1,d0] => validate_year y3 y2 y1 y0 && validate_month m1 m0 && (validate_week d1 d0 || validate_day d1 d0)
  | _ => false

/-- The first eight bytes, without checks. The sums stay far below the bound of `u32`. -/
def deserialize_lossy : Bytes → Checked MonthYear
  | y3 :: y2 :: y1 :: y0 :: m1 :: m0 :: d1 :: d0 :: _ =>
    .ok {
      year := (from_digit y3).toNat * 1000 + (from_digit y2).toNat * 100 + (from_digit y1).toNat * 10 + (from_digit y0).toNat
      month := (from_digit m1).toNat * 10 + (from_digit m0).toNat
      day_or_week :=
        if d1 = 119 then .Week (from_digit d0).toNat else .Day ((from_digit d1).toNat * 10 + (from_digit d0).toNat) }
  | _ => .error "index out of bounds"

def ERR_GENERIC : String := "Invalid day or week format."

def deserialize (data : Bytes) : Except (Abort String) MonthYear :=
  if validate data then (deserialize_lossy data).lift else .error (.Error ERR_GENERIC)

/-! ### The format -/

/-- Nothing, a day or a week. -/
def Suffix (first_day : Nat) (suffix : Bytes) (day week : Option Nat) : Prop :=
  suffix = [] ∧ day = none ∧ week = none ∨
    (∃ d, Numeral 2 suffix d ∧ first_day ≤ d ∧ d ≤ 31 ∧ day = some d ∧ week = none) ∨
    ∃ digit w, suffix = 119 :: digit ∧ Numeral 1 digit w ∧ 1 ≤ w ∧ w ≤ 5 ∧ day = none ∧ week = some w

/-- Year, month and suffix, with the first month and the first day that are let in. -/
def Format (first_month first_day : Nat) (data : Bytes) (year month : Nat) (day week : Option Nat) : Prop :=
  ∃ years months suffix, Numeral 4 years year ∧ Numeral 2 months month ∧ first_month ≤ month ∧ month ≤ 12 ∧
    Suffix first_day suffix day week ∧ data = years ++ months ++ suffix

/-- The documented values: `YYYYMM`, `YYYYMMDD` or `YYYYMMWW`, months from 01 and days from 01. -/
def Documented : Bytes → Nat → Nat → Option Nat → Option Nat → Prop := Format 1 1

variable {first_month first_day other_month other_day : Nat} {data suffix : Bytes} {year month y m : Nat} {day week d w : Option Nat}

/-- A week is not two digits. -/
theorem week_not_day {digit : Bytes} {n : Nat} : ¬ Numeral 2 (119 :: digit) n := by
  rintro ⟨_,digits,_⟩
  rw [List.all_cons] at digits
  cases digits

theorem Suffix.unique (one : Suffix first_day suffix day week) (other : Suffix other_day suffix d w) : day = d ∧ week = w := by
  obtain ⟨rfl,rfl,rfl⟩ | ⟨n,numeral,_,_,rfl,rfl⟩ | ⟨digit,n,rfl,numeral,_,_,rfl,rfl⟩ := one
  · obtain ⟨_,rfl,rfl⟩ | ⟨n,numeral,_⟩ | ⟨_,_,same,_⟩ := other
    · exact ⟨rfl,rfl⟩
    · cases numeral.1
    · cases same
  · obtain ⟨rfl,_⟩ | ⟨k,again,_,_,rfl,rfl⟩ | ⟨_,_,rfl,_⟩ := other
    · cases numeral.1
    · exact ⟨congrArg some (numeral.unique again),rfl⟩
    · exact absurd numeral week_not_day
  · obtain ⟨same,_⟩ | ⟨k,again,_⟩ | ⟨_,k,same,again,_,_,rfl,rfl⟩ := other
    · cases same
    · exact absurd again week_not_day
    · cases same
      exact ⟨rfl,congrArg some (numeral.unique again)⟩

/-- A text has one reading. -/
theorem Format.unique (one : Format first_month first_day data year month day week) (other : Format other_month other_day data y m d w) :
    year = y ∧ month = m ∧ day = d ∧ week = w := by
  obtain ⟨years,months,suffix,year_numeral,month_numeral,_,_,suffix_one,rfl⟩ := one
  obtain ⟨years',months',suffix',year_again,month_again,_,_,suffix_other,same⟩ := other
  have front : (years ++ months).length = (years' ++ months').length := by
    rw [List.length_append,List.length_append,year_numeral.1,month_numeral.1,year_again.1,month_again.1]
  obtain ⟨fronts,rfl⟩ := List.append_inj same front
  obtain ⟨rfl,rfl⟩ := List.append_inj fronts (year_numeral.1.trans year_again.1.symm)
  exact ⟨year_numeral.unique year_again,month_numeral.unique month_again,suffix_one.unique suffix_other⟩

/-! ### Validation -/

theorem is_digit_iff {byte : UInt8} : is_digit byte 0 9 = true ↔ Decimal.isDigit byte = true := by
  rw [isDigit_iff]
  simp [is_digit,UInt8.le_iff_toNat_le]

theorem validate_year_iff {y3 y2 y1 y0 : UInt8} : validate_year y3 y2 y1 y0 = true ↔ [y3,y2,y1,y0].all Decimal.isDigit = true := by
  simp only [validate_year,Bool.and_eq_true,is_digit_iff,List.all_cons,List.all_nil,Bool.and_true,and_assoc]

theorem two_digits_value (a b : UInt8) : Decimal.value [a,b] = 10*(a.toNat-48)+(b.toNat-48) := by simp [Decimal.value]

theorem validate_month_iff {m1 m0 : UInt8} :
    validate_month m1 m0 = true ↔ [m1,m0].all Decimal.isDigit = true ∧ Decimal.value [m1,m0] ≤ 12 := by
  rw [two_digits_value]
  simp only [List.all_cons,List.all_nil,Bool.and_true,Bool.and_eq_true,isDigit_iff]
  simp [validate_month,UInt8.le_iff_toNat_le,← UInt8.toNat_inj]
  omega

theorem validate_day_iff {d1 d0 : UInt8} :
    validate_day d1 d0 = true ↔ [d1,d0].all Decimal.isDigit = true ∧ Decimal.value [d1,d0] ≤ 31 := by
  rw [two_digits_value]
  simp only [List.all_cons,List.all_nil,Bool.and_true,Bool.and_eq_true,isDigit_iff]
  simp [validate_day,UInt8.le_iff_toNat_le,← UInt8.toNat_inj]
  omega

theorem validate_week_iff {d1 d0 : UInt8} : validate_week d1 d0 = true ↔
    d1 = 119 ∧ [d0].all Decimal.isDigit = true ∧ 1 ≤ Decimal.value [d0] ∧ Decimal.value [d0] ≤ 5 := by
  have value : Decimal.value [d0] = d0.toNat-48 := by simp [Decimal.value]
  rw [value]
  simp only [List.all_cons,List.all_nil,Bool.and_true,isDigit_iff]
  simp [validate_week,is_digit,UInt8.le_iff_toNat_le]
  omega

/-! ### Reading -/

theorem from_digit_value {byte : UInt8} (digit : Decimal.isDigit byte = true) : (from_digit byte).toNat = byte.toNat-48 :=
  UInt8.toNat_sub_of_le byte 48 (UInt8.le_iff_toNat_le.mpr (isDigit_iff.mp digit).1)

theorem read_two {a b : UInt8} (digits : [a,b].all Decimal.isDigit = true) :
    Decimal.value [a,b] = (from_digit a).toNat * 10 + (from_digit b).toNat := by
  simp only [List.all_cons,List.all_nil,Bool.and_true,Bool.and_eq_true] at digits
  rw [two_digits_value,from_digit_value digits.1,from_digit_value digits.2,Nat.mul_comm]

theorem read_year {y3 y2 y1 y0 : UInt8} (digits : [y3,y2,y1,y0].all Decimal.isDigit = true) : Decimal.value [y3,y2,y1,y0] =
    (from_digit y3).toNat * 1000 + (from_digit y2).toNat * 100 + (from_digit y1).toNat * 10 + (from_digit y0).toNat := by
  simp only [List.all_cons,List.all_nil,Bool.and_true,Bool.and_eq_true] at digits
  rw [from_digit_value digits.1,from_digit_value digits.2.1,from_digit_value digits.2.2.1,from_digit_value digits.2.2.2]
  simp [Decimal.value]
  omega

/-- What is validated is read, and has the format of what is read. -/
theorem validate_read (valid : validate data = true) :
    ∃ my, deserialize data = .ok my ∧ data.length = 8 ∧ Format 0 0 data my.year my.month my.day my.week := by
  have accepted := valid
  unfold validate at valid
  split at valid
  · rename_i y3 y2 y1 y0 m1 m0 d1 d0
    simp only [Bool.and_eq_true,Bool.or_eq_true,validate_year_iff,validate_month_iff,validate_week_iff,validate_day_iff] at valid
    obtain ⟨⟨years,months,last_month⟩,back⟩ := valid
    refine ⟨_,by rw [deserialize,if_pos accepted,lift_eq_ok]; rfl,rfl,?_⟩
    refine ⟨[y3,y2,y1,y0],[m1,m0],[d1,d0],⟨rfl,years,read_year years⟩,⟨rfl,months,read_two months⟩,Nat.zero_le _,
      read_two months ▸ last_month,?_,rfl⟩
    obtain ⟨rfl,digit,first_week,last_week⟩ | ⟨days,last_day⟩ := back
    · have value : Decimal.value [d0] = (from_digit d0).toNat := by
        rw [from_digit_value (List.all_eq_true.mp digit d0 (List.mem_singleton_self d0))]
        simp [Decimal.value]
      exact .inr (.inr ⟨[d0],_,rfl,⟨rfl,digit,value⟩,value ▸ first_week,value ▸ last_week,rfl,rfl⟩)
    · have no_week : d1 ≠ 119 := by
        rintro rfl
        exact week_not_day ⟨rfl,days,rfl⟩
      refine .inr (.inl ⟨_,⟨rfl,days,read_two days⟩,Nat.zero_le _,read_two days ▸ last_day,?_⟩)
      simp [day,week,no_week]
  · cases valid

theorem format_valid (eight : data.length = 8) (format : Format 0 0 data year month day week) : validate data = true := by
  obtain ⟨years,months,suffix,⟨four,year_digits,_⟩,⟨two,month_digits,value⟩,_,last_month,back,rfl⟩ := format
  match years,four,months,two with
  | [y3,y2,y1,y0],_,[m1,m0],_ =>
    have front : (validate_year y3 y2 y1 y0 && validate_month m1 m0) = true := by
      rw [Bool.and_eq_true,validate_year_iff,validate_month_iff]
      exact ⟨year_digits,month_digits,value ▸ last_month⟩
    obtain ⟨rfl,_⟩ | ⟨d,⟨length,digits,value⟩,_,last,_⟩ | ⟨digit,w,rfl,⟨length,digits,value⟩,first,last,_⟩ := back
    · cases eight
    · obtain ⟨d1,d0,rfl⟩ := List.length_eq_two.mp length
      show (_ && (validate_week d1 d0 || validate_day d1 d0)) = true
      rw [front,Bool.true_and,Bool.or_eq_true,validate_day_iff]
      exact .inr ⟨digits,value ▸ last⟩
    · obtain ⟨d0,rfl⟩ := List.length_eq_one_iff.mp length
      show (_ && (validate_week 119 d0 || validate_day 119 d0)) = true
      rw [front,Bool.true_and,Bool.or_eq_true,validate_week_iff]
      exact .inl ⟨rfl,digits,value ▸ first,value ▸ last⟩

theorem same_of_components {one other : MonthYear} (year : one.year = other.year) (month : one.month = other.month)
    (day : one.day = other.day) (week : one.week = other.week) : one = other := by
  obtain ⟨y,m,one⟩ := one
  obtain ⟨y',m',other⟩ := other
  cases year
  cases month
  cases one with
  | Day d =>
    cases other with
    | Day d' =>
      cases day
      rfl
    | Week w => cases day
  | Week w =>
    cases other with
    | Day d => cases day
    | Week w' =>
      cases week
      rfl

/-- The accepted texts are those of eight bytes, with a month and a day from 00. -/
theorem deserialize_iff {my : MonthYear} :
    deserialize data = .ok my ↔ data.length = 8 ∧ Format 0 0 data my.year my.month my.day my.week := by
  constructor
  · intro read
    by_cases valid : validate data = true
    · obtain ⟨my',again,format⟩ := validate_read valid
      rw [read] at again
      cases again
      exact format
    · rw [deserialize,if_neg valid] at read
      cases read
  · rintro ⟨eight,format⟩
    obtain ⟨my',read,_,other⟩ := validate_read (format_valid eight format)
    obtain ⟨year,month,day,week⟩ := format.unique other
    rw [read,same_of_components year month day week]

/-! ### Writing -/

theorem u8_digit_small (arith : Arith) {n : Nat} (small : n ≤ 9) : u8_digit arith n = .ok (digit_to_ascii n) := by
  have whole : n % 256 = n := Nat.mod_eq_of_lt (by omega)
  cases arith with
  | exact => rw [u8_digit,whole,if_pos (by omega),digit_to_ascii]
  | wrapping => rw [u8_digit,whole,digit_to_ascii]

theorem numeral_lt {count n : Nat} {text : Bytes} (numeral : Numeral count text n) : n < 10^count :=
  numeral.2.2 ▸ numeral.1 ▸ Decimal.value_lt numeral.2.1

theorem one_back {text : Bytes} {n : Nat} (numeral : Numeral 1 text n) : [digit_to_ascii n] = text := by
  obtain ⟨length,digits,rfl⟩ := numeral
  obtain ⟨byte,rfl⟩ := List.length_eq_one_iff.mp length
  rw [digit_back (List.all_eq_true.mp digits byte (List.mem_singleton_self byte)) (by simp [Decimal.value])]

/-- A text of the format is written back. -/
theorem written_back {my : MonthYear} (arith : Arith) (eight : data.length = 8)
    (format : Format 0 0 data my.year my.month my.day my.week) : my.to_yyyymmww arith = .ok data := by
  obtain ⟨years,months,suffix,year_numeral,month_numeral,_,_,back,rfl⟩ := format
  obtain ⟨year,month,day_or_week⟩ := my
  have year_lt := numeral_lt year_numeral
  have month_lt := numeral_lt month_numeral
  dsimp only at year_numeral month_numeral year_lt month_lt
  have digit {n : Nat} (small : n ≤ 9) := u8_digit_small arith small
  have front : [digit_to_ascii (year / 1000),digit_to_ascii (year / 100 % 10),digit_to_ascii (year / 10 % 10),digit_to_ascii (year % 10),
      digit_to_ascii (month / 10),digit_to_ascii (month % 10)] = years ++ months := by
    rw [← year_numeral.four_back,← month_numeral.two_back]
    rfl
  simp only [to_yyyymmww,digit (show year / 1000 ≤ 9 by omega),digit (show year / 100 % 10 ≤ 9 by omega),
    digit (show year / 10 % 10 ≤ 9 by omega),digit (show year % 10 ≤ 9 by omega),digit (show month / 10 ≤ 9 by omega),
    digit (show month % 10 ≤ 9 by omega)]
  rw [← front]
  cases day_or_week with
  | Day n =>
    obtain ⟨_,same,_⟩ | ⟨d,numeral,_,_,same,_⟩ | ⟨_,_,_,_,_,_,same,_⟩ := back
    · cases same
    · cases same
      have day_lt := numeral_lt numeral
      rw [← numeral.two_back]
      dsimp only
      rw [digit (show n / 10 ≤ 9 by omega),digit (show n % 10 ≤ 9 by omega)]
      rfl
    · cases same
  | Week n =>
    obtain ⟨_,_,same⟩ | ⟨_,_,_,_,_,same⟩ | ⟨text,w,rfl,numeral,_,_,_,same⟩ := back
    · cases same
    · cases same
    · cases same
      have week_lt := numeral_lt numeral
      rw [← one_back numeral]
      dsimp only
      rw [digit (show n ≤ 9 by omega)]
      rfl

/-! ### The documented values -/

/-- Exactly the documented values are read, as the numbers they are written with, and are written back. -/
def ReadsDocumented (data : Bytes) : Prop :=
  ((∃ my, deserialize data = .ok my) ↔ ∃ year month day week, Documented data year month day week) ∧
    ∀ my, deserialize data = .ok my →
      (∀ year month day week, Documented data year month day week → my.year = year ∧ my.month = month ∧ my.day = day ∧ my.week = week) ∧
        ∀ arith buffer, my.serialize_with arith buffer = .ok (buffer ++ data,data.length)

/-- A documented value without day and week. -/
def WithoutSuffix (data : Bytes) : Prop := ∃ year month, Documented data year month none none

/-- Eight bytes of the format but for a month 00 or a day 00. -/
def WithZero (data : Bytes) : Prop :=
  data.length = 8 ∧ ∃ year month day week, Format 0 0 data year month day week ∧ (month = 0 ∨ day = some 0)

theorem Format.length (format : Format first_month first_day data year month day week) : data.length = 8 ∨ day = none ∧ week = none := by
  obtain ⟨years,months,suffix,years_numeral,months_numeral,_,_,back,rfl⟩ := format
  obtain ⟨_,none⟩ | ⟨d,numeral,_⟩ | ⟨digit,w,rfl,numeral,_⟩ := back
  · exact .inr none
  · left
    rw [List.length_append,List.length_append,years_numeral.1,months_numeral.1,numeral.1]
  · left
    rw [List.length_append,List.length_append,List.length_cons,years_numeral.1,months_numeral.1,numeral.1]

theorem without_length (without : Format first_month first_day data year month none none) : data.length = 6 := by
  obtain ⟨years,months,suffix,years_numeral,months_numeral,_,_,back,rfl⟩ := without
  obtain ⟨rfl,_⟩ | ⟨d,_,_,_,same,_⟩ | ⟨_,w,_,_,_,_,_,same⟩ := back
  · rw [List.append_nil,List.length_append,years_numeral.1,months_numeral.1]
  · cases same
  · cases same

/-- From the first month and the first day the bounds of the documentation hold. -/
theorem Format.tighten (format : Format 0 0 data year month day week) (months : month ≠ 0) (days : day ≠ some 0) :
    Documented data year month day week := by
  obtain ⟨years,monthly,suffix,years_numeral,months_numeral,_,last_month,back,same⟩ := format
  refine ⟨years,monthly,suffix,years_numeral,months_numeral,Nat.pos_of_ne_zero months,last_month,?_,same⟩
  obtain nothing | ⟨d,numeral,_,last,rfl,no_week⟩ | weekly := back
  · exact .inl nothing
  · exact .inr (.inl ⟨d,numeral,Nat.pos_of_ne_zero (fun zero => days (congrArg some zero)),last,rfl,no_week⟩)
  · exact .inr (.inr weekly)

theorem Documented.loosen (documented : Documented data year month day week) : Format 0 0 data year month day week := by
  obtain ⟨years,months,suffix,years_numeral,months_numeral,_,last_month,back,same⟩ := documented
  refine ⟨years,months,suffix,years_numeral,months_numeral,Nat.zero_le _,last_month,?_,same⟩
  obtain nothing | ⟨d,numeral,_,rest⟩ | weekly := back
  · exact .inl nothing
  · exact .inr (.inl ⟨d,numeral,Nat.zero_le _,rest⟩)
  · exact .inr (.inr weekly)

theorem Documented.no_zero (documented : Documented data year month day week) : month ≠ 0 ∧ day ≠ some 0 := by
  obtain ⟨years,months,suffix,_,_,first_month,_,back,_⟩ := documented
  refine ⟨Nat.pos_iff_ne_zero.mp first_month,?_⟩
  rintro rfl
  obtain ⟨_,same,_⟩ | ⟨d,_,first,_,same,_⟩ | ⟨_,w,_,_,_,_,same,_⟩ := back
  · cases same
  · cases same
    cases first
  · cases same

theorem without_suffix_rejected (without : WithoutSuffix data) : ¬ ReadsDocumented data := by
  rintro ⟨accepts,_⟩
  obtain ⟨year,month,documented⟩ := without
  obtain ⟨my,read⟩ := accepts.mpr ⟨year,month,none,none,documented⟩
  have eight := (deserialize_iff.mp read).1
  have six := without_length documented
  omega

theorem with_zero_accepted (with_zero : WithZero data) : ¬ ReadsDocumented data := by
  rintro ⟨accepts,_⟩
  obtain ⟨eight,year,month,day,week,format,zero⟩ := with_zero
  obtain ⟨my,read,_,_⟩ := validate_read (format_valid eight format)
  obtain ⟨y,m,d,w,documented⟩ := accepts.mp ⟨my,read⟩
  obtain ⟨_,rfl,rfl,_⟩ := format.unique documented
  exact zero.elim documented.no_zero.1 documented.no_zero.2

/-- The documented values are read exactly but for those without day and week, which are rejected, and for
    month 00 and day 00, which are accepted. -/
theorem reads_documented_iff (data : Bytes) : ReadsDocumented data ↔ ¬ WithoutSuffix data ∧ ¬ WithZero data := by
  constructor
  · intro exact_values
    exact ⟨fun without => without_suffix_rejected without exact_values,fun with_zero => with_zero_accepted with_zero exact_values⟩
  · rintro ⟨suffixed,nonzero⟩
    refine ⟨⟨?_,?_⟩,?_⟩
    · rintro ⟨my,read⟩
      obtain ⟨eight,format⟩ := deserialize_iff.mp read
      refine ⟨_,_,_,_,format.tighten ?_ ?_⟩
      · intro zero
        exact nonzero ⟨eight,_,_,_,_,format,.inl zero⟩
      · intro zero
        exact nonzero ⟨eight,_,_,_,_,format,.inr zero⟩
    · rintro ⟨year,month,day,week,documented⟩
      obtain eight | ⟨rfl,rfl⟩ := documented.length
      · obtain ⟨my,read,_⟩ := validate_read (format_valid eight documented.loosen)
        exact ⟨my,read⟩
      · exact absurd ⟨year,month,documented⟩ suffixed
    · intro my read
      obtain ⟨eight,format⟩ := deserialize_iff.mp read
      refine ⟨fun year month day week documented => format.unique documented,?_⟩
      intro arith buffer
      rw [serialize_with,written_back arith eight format]
      rfl

/-- "201801", "20180001" and "20180100". -/
theorem documented_not_exact :
    ¬ ReadsDocumented (ascii "201801") ∧ ¬ ReadsDocumented (ascii "20180001") ∧ ¬ ReadsDocumented (ascii "20180100") := by
  have year : Numeral 4 (ascii "2018") 2018 := ⟨rfl,rfl,rfl⟩
  have one : Numeral 2 (ascii "01") 1 := ⟨rfl,rfl,rfl⟩
  have zero : Numeral 2 (ascii "00") 0 := ⟨rfl,rfl,rfl⟩
  refine ⟨without_suffix_rejected ?_,with_zero_accepted ?_,with_zero_accepted ?_⟩
  · exact ⟨2018,1,_,_,[],year,one,by decide,by decide,.inl ⟨rfl,rfl,rfl⟩,rfl⟩
  · exact ⟨rfl,2018,0,some 1,none,⟨_,_,_,year,zero,by decide,by decide,.inr (.inl ⟨1,one,by decide,by decide,rfl,rfl⟩),rfl⟩,.inl rfl⟩
  · exact ⟨rfl,2018,1,some 0,none,⟨_,_,_,year,one,by decide,by decide,.inr (.inl ⟨0,zero,by decide,by decide,rfl,rfl⟩),rfl⟩,.inr rfl⟩

end MonthYear
end HotFix
