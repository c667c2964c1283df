import HotFix.Sections
import HotFix.Spelling

/-!
Times and timestamps as texts. The digits of hours, minutes and seconds are checked, those
of the milliseconds are not: they are folded with 32-bit arithmetic, and only the number
they give is compared with the bound.
-/
namespace HotFix
open Positional MessageBuilder

/-- The text is `count` digits that spell the number. -/
def Numeral (count : Nat) (text : Bytes) (n : Nat) : Prop :=
  text.length = count ∧ text.all Decimal.isDigit = true ∧ Decimal.value text = n

/-- The text is the time: `HH:MM:SS`, with or without milliseconds. -/
def Time.Written (data : Bytes) (t : Time) : Prop :=
  ∃ hour minute second, Numeral 2 hour t.hour ∧ Numeral 2 minute t.minute ∧ Numeral 2 second t.second ∧
    (data = hour ++ [58] ++ minute ++ [58] ++ second ∧ t.milli = 0 ∨
      ∃ milli, Numeral 3 milli t.milli ∧ data = hour ++ [58] ++ minute ++ [58] ++ second ++ [46] ++ milli)

/-- The text is the date, `YYYYMMDD`. -/
def Date.Written (data : Bytes) (d : Date) : Prop :=
  ∃ year month day, Numeral 4 year d.year ∧ Numeral 2 month d.month ∧ Numeral 2 day d.day ∧ data = year ++ month ++ day

def Timestamp.Written (data : Bytes) (t : Timestamp) : Prop :=
  ∃ date time, Date.Written date t.date ∧ Time.Written time t.time ∧ data = date ++ [45] ++ time

/-! ### Reading in a build -/

/-- `(digit as u32).wrapping_sub(b'0' as u32) * multiplier`. -/
def digit_in (arith : Arith) (digit : UInt8) (multiplier : Nat) : Checked Nat :=
  match arith with
  | .exact =>
    if (digit.toNat + U32 - 48) % U32 * multiplier < U32 then .ok ((digit.toNat + U32 - 48) % U32 * multiplier)
    else .error "attempt to multiply with overflow"
  | .wrapping => .ok (ascii_digit_to_u32 digit multiplier)

def u32_add (arith : Arith) (a b : Nat) : Checked Nat :=
  match arith with
  | .exact => if a + b < U32 then .ok (a + b) else .error "attempt to add with overflow"
  | .wrapping => .ok ((a + b) % U32)

def milli_in (arith : Arith) (f2 f1 f0 : UInt8) : Checked Nat := do
  let hundreds ← digit_in arith f2 100
  let tens ← digit_in arith f1 10
  let sum ← u32_add arith hundreds tens
  let ones ← digit_in arith f0 1
  u32_add arith sum ones

/-- `Time::deserialize` in a build with or without overflow checks. -/
def Time.deserialize_in (arith : Arith) : Bytes → Checked (Option Time)
  | [h1,h0,c1,m1,m0,c2,s1,s0,dot,f2,f1,f0] => do
    let milli ← milli_in arith f2 f1 f0
    if dot = 46 then return Time.of_digits h1 h0 c1 m1 m0 c2 s1 s0 milli else return none
  | [h1,h0,c1,m1,m0,c2,s1,s0] => return Time.of_digits h1 h0 c1 m1 m0 c2 s1 s0 0
  | _ => return none

def Timestamp.parse_in (arith : Arith) (data : Bytes) : Checked (Option Timestamp) :=
  if data.length < 12 ∨ data[8]? ≠ some 45 then .ok none else
  match Date.deserialize (data.take 8) with
  | none => .ok none
  | some date => (Time.deserialize_in arith (data.drop 9)).map (Option.map (fun time => ⟨date,time⟩))

/-- Without overflow checks this is what the session reads. -/
theorem milli_wrapping (f2 f1 f0 : UInt8) :
    milli_in .wrapping f2 f1 f0 = .ok ((ascii_digit_to_u32 f2 100 + ascii_digit_to_u32 f1 10 + ascii_digit_to_u32 f0 1) % U32) := by
  show Except.ok (((ascii_digit_to_u32 f2 100 + ascii_digit_to_u32 f1 10) % U32 + ascii_digit_to_u32 f0 1) % U32) = _
  rw [Nat.mod_add_mod]

theorem Time.deserialize_wrapping (data : Bytes) : Time.deserialize_in .wrapping data = .ok (Time.deserialize data) := by
  unfold Time.deserialize_in
  split
  · rw [milli_wrapping,Time.deserialize]
    simp only [bind,Except.bind,pure,Except.pure]
    split_ifs <;> rfl
  · rfl
  · rename_i other₁ other₂
    have unread : Time.deserialize data = none := by
      unfold Time.deserialize
      split
      · exact absurd rfl (other₁ _ _ _ _ _ _ _ _ _ _ _ _)
      · exact absurd rfl (other₂ _ _ _ _ _ _ _ _)
      · rfl
    rw [unread]
    rfl

theorem Timestamp.parse_wrapping (data : Bytes) : Timestamp.parse_in .wrapping data = .ok (Timestamp.parse data) := by
  unfold Timestamp.parse_in Timestamp.parse
  split_ifs
  · rfl
  · cases Date.deserialize (data.take 8) with
    | none => rfl
    | some date =>
      dsimp only
      rw [Time.deserialize_wrapping]
      cases Time.deserialize (data.drop 9) <;> rfl

/-! ### The milliseconds -/

theorem digit_exact {digit : UInt8} {multiplier result : Nat} :
    digit_in .exact digit multiplier = .ok result ↔ (digit.toNat + U32 - 48) % U32 * multiplier = result ∧ result < U32 := checked_eq_ok

theorem add_exact {a b result : Nat} : u32_add .exact a b = .ok result ↔ a + b = result ∧ result < U32 := checked_eq_ok

/-- Three bytes give a number of milliseconds: the weight is in the bounds, and with overflow
    checks no byte is below the digits. -/
theorem milli_in_iff (arith : Arith) {f2 f1 f0 : UInt8} {n : Nat} (small : n ≤ 999) :
    milli_in arith f2 f1 f0 = .ok n ↔ weigh 0 [f2,f1,f0] = n ∧ (arith = .exact → ∀ byte ∈ [f2,f1,f0], 48 ≤ byte.toNat) := by
  have high := f2.toNat_lt
  have middle := f1.toNat_lt
  have low := f0.toNat_lt
  have size : U32 = 4294967296 := rfl
  cases arith with
  | wrapping =>
    rw [milli_wrapping]
    simp only [ascii_digit_to_u32,weigh_cons,weigh_nil,size,Except.ok.injEq,reduceCtorEq,false_implies,and_true]
    omega
  | exact =>
    simp only [milli_in,bind_eq_ok,digit_exact,add_exact,weigh_cons,weigh_nil,size,true_implies,List.forall_mem_cons]
    constructor
    · rintro ⟨_,⟨rfl,fits₂⟩,_,⟨rfl,fits₁⟩,_,⟨rfl,fits⟩,_,⟨rfl,fits₀⟩,sum,_⟩
      have above₂ : 48 ≤ f2.toNat := by omega
      have above₁ : 48 ≤ f1.toNat := by omega
      have above₀ : 48 ≤ f0.toNat := by omega
      exact ⟨by omega,above₂,above₁,above₀,List.forall_mem_nil _⟩
    · rintro ⟨weight,above₂,above₁,above₀,_⟩
      exact ⟨_,⟨rfl,by omega⟩,_,⟨rfl,by omega⟩,_,⟨rfl,by omega⟩,_,⟨rfl,by omega⟩,by omega,by omega⟩

/-! ### Numerals -/

theorem isDigit_value {byte : UInt8} (digit : Decimal.isDigit byte = true) {multiplier : Nat} (small : multiplier ≤ 1000) :
    ascii_digit_to_u32 byte multiplier = (byte.toNat-48)*multiplier := by
  have bounds := isDigit_iff.mp digit
  have size : U32 = 4294967296 := rfl
  have product : (byte.toNat-48)*multiplier ≤ 9*1000 := Nat.mul_le_mul (by omega) small
  unfold ascii_digit_to_u32
  rw [show (byte.toNat+U32-48)%U32 = byte.toNat-48 by rw [size]; omega]
  exact Nat.mod_eq_of_lt (by omega)

theorem numeral_two {text : Bytes} {n : Nat} : Numeral 2 text n ↔
    ∃ a b, text = [a,b] ∧ [a,b].all Decimal.isDigit = true ∧ ascii_digit_to_u32 a 10 + ascii_digit_to_u32 b 1 = n := by
  have value (a b : UInt8) (digits : [a,b].all Decimal.isDigit = true) :
      ascii_digit_to_u32 a 10 + ascii_digit_to_u32 b 1 = Decimal.value [a,b] := by
    simp only [List.all_cons,List.all_nil,Bool.and_true,Bool.and_eq_true] at digits
    rw [isDigit_value digits.1 (by decide),isDigit_value digits.2 (by decide)]
    simp [Decimal.value,Nat.mul_comm]
  constructor
  · rintro ⟨length,digits,same⟩
    obtain ⟨a,b,rfl⟩ := List.length_eq_two.mp length
    exact ⟨a,b,rfl,digits,(value a b digits).trans same⟩
  · rintro ⟨a,b,rfl,digits,same⟩
    exact ⟨rfl,digits,(value a b digits).symm.trans same⟩

theorem digit_back {byte : UInt8} {n : Nat} (digit : Decimal.isDigit byte = true) (same : n = byte.toNat-48) :
    digit_to_ascii n = byte := by
  have bounds := isDigit_iff.mp digit
  rw [← UInt8.toNat_inj,digit_to_ascii,Nat.toUInt8,UInt8.toNat_ofNat',same]
  omega

/-- Digits are written back as they were. -/
theorem Numeral.two_back {text : Bytes} {n : Nat} (numeral : Numeral 2 text n) :
    [digit_to_ascii (n/10),digit_to_ascii (n%10)] = text := by
  obtain ⟨length,digits,rfl⟩ := numeral
  obtain ⟨a,b,rfl⟩ := List.length_eq_two.mp length
  simp only [List.all_cons,List.all_nil,Bool.and_true,Bool.and_eq_true] at digits
  have last := isDigit_iff.mp digits.2
  have value : Decimal.value [a,b] = 10*(a.toNat-48)+(b.toNat-48) := by simp [Decimal.value]
  rw [value,digit_back digits.1 (by omega),digit_back digits.2 (by omega)]

theorem Numeral.three_back {text : Bytes} {n : Nat} (numeral : Numeral 3 text n) :
    [digit_to_ascii (n/100),digit_to_ascii (n/10%10),digit_to_ascii (n%10)] = text := by
  obtain ⟨length,digits,rfl⟩ := numeral
  obtain ⟨a,b,c,rfl⟩ := List.length_eq_three.mp length
  simp only [List.all_cons,List.all_nil,Bool.and_true,Bool.and_eq_true] at digits
  have middle := isDigit_iff.mp digits.2.1
  have last := isDigit_iff.mp digits.2.2
  have value : Decimal.value [a,b,c] = 10*(10*(a.toNat-48)+(b.toNat-48))+(c.toNat-48) := by simp [Decimal.value]
  rw [value,digit_back digits.1 (by omega),digit_back digits.2.1 (by omega),digit_back digits.2.2 (by omega)]

theorem Numeral.four_back {text : Bytes} {n : Nat} (numeral : Numeral 4 text n) :
    [digit_to_ascii (n/1000),digit_to_ascii (n/100%10),digit_to_ascii (n/10%10),digit_to_ascii (n%10)] = text := by
  obtain ⟨length,digits,rfl⟩ := numeral
  obtain ⟨a,b,c,d,rfl⟩ : ∃ a b c d, text = [a,b,c,d] := by
    match text,length with
    | [a,b,c,d],_ => exact ⟨a,b,c,d,rfl⟩
  simp only [List.all_cons,List.all_nil,Bool.and_true,Bool.and_eq_true] at digits
  have second := isDigit_iff.mp digits.2.1
  have third := isDigit_iff.mp digits.2.2.1
  have last := isDigit_iff.mp digits.2.2.2
  have value : Decimal.value [a,b,c,d] = 10*(10*(10*(a.toNat-48)+(b.toNat-48))+(c.toNat-48))+(d.toNat-48) := by simp [Decimal.value]
  rw [value,digit_back digits.1 (by omega),digit_back digits.2.1 (by omega),digit_back digits.2.2.1 (by omega),
    digit_back digits.2.2.2 (by omega)]

theorem Numeral.unique {count n m : Nat} {text : Bytes} (one : Numeral count text n) (other : Numeral count text m) : n = m :=
  one.2.2.symm.trans other.2.2

/-! ### Times -/

theorem Time.from_hmsm_iff {hour minute second milli : Nat} {t : Time} :
    Time.from_hmsm hour minute second milli = some t ↔ t.hour = hour ∧ t.minute = minute ∧ t.second = second ∧ t.milli = milli := by
  unfold Time.from_hmsm
  split_ifs with bounds
  · constructor
    · intro same
      cases same
      exact ⟨rfl,rfl,rfl,rfl⟩
    · obtain ⟨_,_,_,_,_,_,_,_⟩ := t
      rintro ⟨rfl,rfl,rfl,rfl⟩
      rfl
  · constructor
    · intro same
      cases same
    · rintro ⟨rfl,rfl,rfl,rfl⟩
      exact absurd ⟨t.hour_le,t.minute_le,t.second_le,t.milli_le⟩ bounds

theorem Time.of_digits_iff {h1 h0 c1 m1 m0 c2 s1 s0 : UInt8} {milli : Nat} {t : Time} :
    Time.of_digits h1 h0 c1 m1 m0 c2 s1 s0 milli = some t ↔ c1 = 58 ∧ c2 = 58 ∧ Numeral 2 [h1,h0] t.hour ∧
      Numeral 2 [m1,m0] t.minute ∧ Numeral 2 [s1,s0] t.second ∧ t.milli = milli := by
  have pair {a b : UInt8} {n : Nat} : Numeral 2 [a,b] n ↔ [a,b].all Decimal.isDigit = true ∧
      ascii_digit_to_u32 a 10 + ascii_digit_to_u32 b 1 = n := by
    rw [numeral_two]
    constructor
    · rintro ⟨_,_,⟨⟩,found⟩
      exact found
    · intro found
      exact ⟨a,b,rfl,found⟩
  have split : [h1,h0,m1,m0,s1,s0].all Decimal.isDigit = true ↔ [h1,h0].all Decimal.isDigit = true ∧
      [m1,m0].all Decimal.isDigit = true ∧ [s1,s0].all Decimal.isDigit = true := by
    simp only [List.all_cons,List.all_nil,Bool.and_true,Bool.and_eq_true,and_assoc]
  rw [Time.of_digits,pair,pair,pair]
  split_ifs with valid
  · rw [split] at valid
    rw [Time.from_hmsm_iff]
    constructor
    · rintro ⟨hour,minute,second,rest⟩
      exact ⟨valid.1,valid.2.1,⟨valid.2.2.1,hour.symm⟩,⟨valid.2.2.2.1,minute.symm⟩,⟨valid.2.2.2.2,second.symm⟩,rest⟩
    · rintro ⟨_,_,⟨_,hour⟩,⟨_,minute⟩,⟨_,second⟩,rest⟩
      exact ⟨hour.symm,minute.symm,second.symm,rest⟩
  · constructor
    · intro same
      cases same
    · rintro ⟨first,second,⟨hours,_⟩,⟨minutes,_⟩,⟨seconds,_⟩,_⟩
      exact absurd ⟨first,second,split.mpr ⟨hours,minutes,seconds⟩⟩ valid

/-- A time whose milliseconds weigh what they should, though they are not digits. -/
def Time.Loose (arith : Arith) (data : Bytes) (t : Time) : Prop :=
  ∃ hour minute second milli, Numeral 2 hour t.hour ∧ Numeral 2 minute t.minute ∧ Numeral 2 second t.second ∧ milli.length = 3 ∧
    ¬ milli.all Decimal.isDigit = true ∧ weigh 0 milli = t.milli ∧ (arith = .exact → ∀ byte ∈ milli, 48 ≤ byte.toNat) ∧
    data = hour ++ [58] ++ minute ++ [58] ++ second ++ [46] ++ milli

theorem Numeral.pair {text : Bytes} {n : Nat} (numeral : Numeral 2 text n) : ∃ a b, text = [a,b] :=
  List.length_eq_two.mp numeral.1

theorem digits_above {text : Bytes} (digits : text.all Decimal.isDigit = true) : ∀ byte ∈ text, 48 ≤ byte.toNat :=
  fun byte member => (isDigit_iff.mp (List.all_eq_true.mp digits byte member)).1

/-- With milliseconds: the frame of the time, and what the last three bytes weigh. -/
theorem Time.deserialize_milli {arith : Arith} {h1 h0 c1 m1 m0 c2 s1 s0 dot f2 f1 f0 : UInt8} {t : Time} :
    Time.deserialize_in arith [h1,h0,c1,m1,m0,c2,s1,s0,dot,f2,f1,f0] = .ok (some t) ↔ dot = 46 ∧
      Time.of_digits h1 h0 c1 m1 m0 c2 s1 s0 t.milli = some t ∧ weigh 0 [f2,f1,f0] = t.milli ∧
      (arith = .exact → ∀ byte ∈ [f2,f1,f0], 48 ≤ byte.toNat) := by
  have value : milli_in arith f2 f1 f0 = .ok t.milli ↔ _ := milli_in_iff arith t.milli_le
  rw [Time.deserialize_in,bind_eq_ok,← value]
  constructor
  · rintro ⟨milli,read,found⟩
    split_ifs at found with dotted
    · have made : Time.of_digits h1 h0 c1 m1 m0 c2 s1 s0 milli = some t := Except.ok.inj found
      have same : t.milli = milli := (Time.of_digits_iff.mp made).2.2.2.2.2
      exact ⟨dotted,same ▸ made,same ▸ read⟩
    · cases found
  · rintro ⟨rfl,made,read⟩
    exact ⟨t.milli,read,congrArg Except.ok made⟩

/-- What is read as a time is written as one, or has loose milliseconds. -/
theorem Time.deserialize_in_iff {arith : Arith} {data : Bytes} {t : Time} :
    Time.deserialize_in arith data = .ok (some t) ↔ Time.Written data t ∨ Time.Loose arith data t := by
  constructor
  · intro read
    by_cases long : ∃ h1 h0 c1 m1 m0 c2 s1 s0 dot f2 f1 f0, data = [h1,h0,c1,m1,m0,c2,s1,s0,dot,f2,f1,f0]
    · obtain ⟨h1,h0,c1,m1,m0,c2,s1,s0,dot,f2,f1,f0,rfl⟩ := long
      obtain ⟨rfl,made,weight,above⟩ := Time.deserialize_milli.mp read
      obtain ⟨rfl,rfl,hour,minute,second,_⟩ := Time.of_digits_iff.mp made
      by_cases digits : [f2,f1,f0].all Decimal.isDigit = true
      · rw [weigh_digits (digits_above digits)] at weight
        exact .inl ⟨_,_,_,hour,minute,second,.inr ⟨[f2,f1,f0],⟨rfl,digits,Int.ofNat_inj.mp weight⟩,rfl⟩⟩
      · exact .inr ⟨_,_,_,[f2,f1,f0],hour,minute,second,rfl,digits,weight,above,rfl⟩
    · unfold Time.deserialize_in at read
      split at read
      · exact absurd ⟨_,_,_,_,_,_,_,_,_,_,_,_,rfl⟩ long
      · obtain ⟨rfl,rfl,hour,minute,second,zero⟩ := Time.of_digits_iff.mp (Except.ok.inj read)
        exact .inl ⟨_,_,_,hour,minute,second,.inl ⟨rfl,zero⟩⟩
      · cases read
  · rintro (⟨hour,minute,second,hours,minutes,seconds,⟨rfl,zero⟩ | ⟨milli,millis,rfl⟩⟩ |
      ⟨hour,minute,second,milli,hours,minutes,seconds,length,_,weight,above,rfl⟩)
    · obtain ⟨h1,h0,rfl⟩ := hours.pair
      obtain ⟨m1,m0,rfl⟩ := minutes.pair
      obtain ⟨s1,s0,rfl⟩ := seconds.pair
      exact congrArg Except.ok (Time.of_digits_iff.mpr ⟨rfl,rfl,hours,minutes,seconds,zero⟩)
    · obtain ⟨h1,h0,rfl⟩ := hours.pair
      obtain ⟨m1,m0,rfl⟩ := minutes.pair
      obtain ⟨s1,s0,rfl⟩ := seconds.pair
      obtain ⟨length,digits,value⟩ := millis
      obtain ⟨f2,f1,f0,rfl⟩ := List.length_eq_three.mp length
      have above := digits_above digits
      refine Time.deserialize_milli.mpr ⟨rfl,Time.of_digits_iff.mpr ⟨rfl,rfl,hours,minutes,seconds,rfl⟩,?_,fun _ => above⟩
      rw [weigh_digits above,value]
    · obtain ⟨h1,h0,rfl⟩ := hours.pair
      obtain ⟨m1,m0,rfl⟩ := minutes.pair
      obtain ⟨s1,s0,rfl⟩ := seconds.pair
      obtain ⟨f2,f1,f0,rfl⟩ := List.length_eq_three.mp length
      exact Time.deserialize_milli.mpr ⟨rfl,Time.of_digits_iff.mpr ⟨rfl,rfl,hours,minutes,seconds,rfl⟩,weight,above⟩

/-- A text is a time in one way, with digits or loose. -/
theorem Time.written_not_loose {arith : Arith} {data : Bytes} {t u : Time} (written : Time.Written data t) : ¬ Time.Loose arith data u := by
  rintro ⟨hour,minute,second,milli,hours,minutes,seconds,length,loose,_,_,rfl⟩
  obtain ⟨h1,h0,rfl⟩ := hours.pair
  obtain ⟨m1,m0,rfl⟩ := minutes.pair
  obtain ⟨s1,s0,rfl⟩ := seconds.pair
  obtain ⟨hour',minute',second',hours',minutes',seconds',⟨same,_⟩ | ⟨milli',millis,same⟩⟩ := written
  · obtain ⟨_,_,rfl⟩ := hours'.pair
    obtain ⟨_,_,rfl⟩ := minutes'.pair
    obtain ⟨_,_,rfl⟩ := seconds'.pair
    have lengths := congrArg List.length same
    simp [length] at lengths
  · obtain ⟨_,_,rfl⟩ := hours'.pair
    obtain ⟨_,_,rfl⟩ := minutes'.pair
    obtain ⟨_,_,rfl⟩ := seconds'.pair
    simp only [List.cons_append,List.nil_append,List.cons.injEq] at same
    exact loose (same.2.2.2.2.2.2.2.2.2 ▸ millis.2.1)

/-- A time of twelve bytes is written back as it was. -/
theorem Time.Written.back {data : Bytes} {t : Time} (written : Time.Written data t) (long : data.length = 12) : t.to_bytes = data := by
  obtain ⟨hour,minute,second,hours,minutes,seconds,⟨rfl,_⟩ | ⟨milli,millis,rfl⟩⟩ := written
  · simp [hours.1,minutes.1,seconds.1] at long
  · rw [← hours.two_back,← minutes.two_back,← seconds.two_back,← millis.three_back]
    rfl

/-- Times are read exactly: what is written as one, and back as it was. -/
def Time.ReadsExactly (arith : Arith) (data : Bytes) : Prop :=
  (∀ t, Time.deserialize_in arith data = .ok (some t) ↔ Time.Written data t) ∧
  (data.length = 12 → ∀ t, Time.deserialize_in arith data = .ok (some t) → t.to_bytes = data)

theorem Time.reads_exactly_iff (arith : Arith) (data : Bytes) : Time.ReadsExactly arith data ↔ ∀ t, ¬ Time.Loose arith data t := by
  constructor
  · intro exactly t loose
    exact Time.written_not_loose ((exactly.1 t).mp (Time.deserialize_in_iff.mpr (.inr loose))) loose
  · intro strict
    have written (t : Time) : Time.deserialize_in arith data = .ok (some t) ↔ Time.Written data t := by
      rw [Time.deserialize_in_iff]
      exact or_iff_left (strict t)
    exact ⟨written,fun long t read => ((written t).mp read).back long⟩

/-! ### Timestamps -/

theorem Date.new_iff {year month day : Nat} {d : Date} : Date.new year month day = some d ↔ d.year = year ∧ d.month = month ∧ d.day = day := by
  unfold Date.new
  split_ifs with bounds
  · constructor
    · intro same
      cases same
      exact ⟨rfl,rfl,rfl⟩
    · obtain ⟨_,_,_,_,_,_⟩ := d
      rintro ⟨rfl,rfl,rfl⟩
      rfl
  · constructor
    · intro same
      cases same
    · rintro ⟨rfl,rfl,rfl⟩
      exact absurd ⟨d.year_le,d.month_bounds,d.day_bounds⟩ bounds

theorem four_value {a b c d : UInt8} (digits : [a,b,c,d].all Decimal.isDigit = true) :
    ascii_digit_to_u32 a 1000 + ascii_digit_to_u32 b 100 + ascii_digit_to_u32 c 10 + ascii_digit_to_u32 d 1 = Decimal.value [a,b,c,d] := by
  simp only [List.all_cons,List.all_nil,Bool.and_true,Bool.and_eq_true] at digits
  rw [isDigit_value digits.1 (by decide),isDigit_value digits.2.1 (by decide),isDigit_value digits.2.2.1 (by decide),
    isDigit_value digits.2.2.2 (by decide)]
  simp [Decimal.value]
  omega

/-- Dates are read exactly. -/
theorem Date.deserialize_iff {data : Bytes} {d : Date} : Date.deserialize data = some d ↔ Date.Written data d := by
  have split {y3 y2 y1 y0 m1 m0 d1 d0 : UInt8} : [y3,y2,y1,y0,m1,m0,d1,d0].all Decimal.isDigit = true ↔
      [y3,y2,y1,y0].all Decimal.isDigit = true ∧ [m1,m0].all Decimal.isDigit = true ∧ [d1,d0].all Decimal.isDigit = true := by
    simp only [List.all_cons,List.all_nil,Bool.and_true,Bool.and_eq_true,and_assoc]
  constructor
  · intro read
    unfold Date.deserialize at read
    split at read
    · split_ifs at read with digits
      obtain ⟨years,months,days⟩ := split.mp digits
      obtain ⟨year,month,day⟩ := Date.new_iff.mp read
      rw [four_value years] at year
      exact ⟨_,_,_,⟨rfl,years,year.symm⟩,numeral_two.mpr ⟨_,_,rfl,months,month.symm⟩,numeral_two.mpr ⟨_,_,rfl,days,day.symm⟩,rfl⟩
    · cases read
  · rintro ⟨year,month,day,⟨length,years,value⟩,months,days,rfl⟩
    obtain ⟨m1,m0,rfl,month_digits,month_value⟩ := numeral_two.mp months
    obtain ⟨d1,d0,rfl,day_digits,day_value⟩ := numeral_two.mp days
    match year,length with
    | [y3,y2,y1,y0],_ =>
      show (if [y3,y2,y1,y0,m1,m0,d1,d0].all Decimal.isDigit = true then _ else none) = some d
      rw [if_pos (split.mpr ⟨years,month_digits,day_digits⟩),four_value years]
      exact Date.new_iff.mpr ⟨value.symm,month_value.symm,day_value.symm⟩

theorem Date.Written.length {data : Bytes} {d : Date} (written : Date.Written data d) : data.length = 8 := by
  obtain ⟨year,month,day,years,months,days,rfl⟩ := written
  simp [years.1,months.1,days.1]

theorem Date.Written.back {data : Bytes} {d : Date} (written : Date.Written data d) : d.to_yyyymmdd = data := by
  obtain ⟨year,month,day,years,months,days,rfl⟩ := written
  rw [← years.four_back,← months.two_back,← days.two_back]
  rfl

/-- A timestamp whose time has loose milliseconds. -/
def Timestamp.Loose (arith : Arith) (data : Bytes) (t : Timestamp) : Prop :=
  ∃ date time, Date.Written date t.date ∧ Time.Loose arith time t.time ∧ data = date ++ [45] ++ time

theorem Time.read_length {arith : Arith} {data : Bytes} {t : Time} (read : Time.deserialize_in arith data = .ok (some t)) :
    data.length = 8 ∨ data.length = 12 := by
  rcases Time.deserialize_in_iff.mp read with ⟨hour,minute,second,hours,minutes,seconds,⟨rfl,_⟩ | ⟨milli,millis,rfl⟩⟩ |
    ⟨hour,minute,second,milli,hours,minutes,seconds,length,_,_,_,rfl⟩
  · simp [hours.1,minutes.1,seconds.1]
  · simp [hours.1,minutes.1,seconds.1,millis.1]
  · simp [hours.1,minutes.1,seconds.1,length]

/-- A timestamp is a date, a hyphen and what is read as a time. -/
theorem Timestamp.parse_in_split {arith : Arith} {data : Bytes} {t : Timestamp} :
    Timestamp.parse_in arith data = .ok (some t) ↔ ∃ date time, Date.Written date t.date ∧
      Time.deserialize_in arith time = .ok (some t.time) ∧ data = date ++ [45] ++ time := by
  constructor
  · intro read
    unfold Timestamp.parse_in at read
    split_ifs at read with short
    · cases read
    · push Not at short
      cases dated : Date.deserialize (data.take 8) with
      | none =>
        rw [dated] at read
        cases read
      | some date =>
        rw [dated] at read
        dsimp only at read
        rcases timed : Time.deserialize_in arith (data.drop 9) with message | _ | time
        · rw [timed] at read
          cases read
        · rw [timed] at read
          cases read
        · rw [timed] at read
          cases read
          refine ⟨data.take 8,data.drop 9,Date.deserialize_iff.mp dated,timed,?_⟩
          obtain ⟨inside,hyphen⟩ := List.getElem?_eq_some_iff.mp short.2
          have rest : data.drop 8 = 45 :: data.drop 9 := by rw [List.drop_eq_getElem_cons inside,hyphen]
          rw [List.append_assoc,List.singleton_append,← rest,List.take_append_drop]
  · rintro ⟨date,time,dated,timed,rfl⟩
    have length := dated.length
    have front : (date ++ [45] ++ time).take 8 = date := by rw [List.append_assoc,← length,List.take_left]
    have back : (date ++ [45] ++ time).drop 9 = time := by
      rw [List.drop_left' (by simp [length])]
    have hyphen : (date ++ [45] ++ time)[8]? = some 45 := by
      rw [List.append_assoc,List.getElem?_append_right (by omega),length]
      rfl
    have long : ¬ (date ++ [45] ++ time).length < 12 := by
      have lengths := Time.read_length timed
      simp only [List.length_append,List.length_singleton]
      omega
    have fine : ¬ ((date ++ [45] ++ time).length < 12 ∨ (date ++ [45] ++ time)[8]? ≠ some 45) := by
      rintro (short | other)
      · exact long short
      · exact other hyphen
    unfold Timestamp.parse_in
    rw [if_neg fine,front,back,Date.deserialize_iff.mpr dated]
    dsimp only
    rw [timed]
    rfl

theorem Timestamp.parse_in_iff {arith : Arith} {data : Bytes} {t : Timestamp} :
    Timestamp.parse_in arith data = .ok (some t) ↔ Timestamp.Written data t ∨ Timestamp.Loose arith data t := by
  rw [Timestamp.parse_in_split]
  constructor
  · rintro ⟨date,time,dated,timed,rfl⟩
    rcases Time.deserialize_in_iff.mp timed with written | loose
    · exact .inl ⟨date,time,dated,written,rfl⟩
    · exact .inr ⟨date,time,dated,loose,rfl⟩
  · rintro (⟨date,time,dated,written,rfl⟩ | ⟨date,time,dated,loose,rfl⟩)
    · exact ⟨date,time,dated,Time.deserialize_in_iff.mpr (.inl written),rfl⟩
    · exact ⟨date,time,dated,Time.deserialize_in_iff.mpr (.inr loose),rfl⟩

/-- Timestamps are read exactly: what is written as one, and back as it was. -/
def Timestamp.ReadsExactly (arith : Arith) (data : Bytes) : Prop :=
  (∀ t, Timestamp.parse_in arith data = .ok (some t) ↔ Timestamp.Written data t) ∧
  (data.length = 21 → ∀ t, Timestamp.parse_in arith data = .ok (some t) → t.to_bytes = data)

theorem Timestamp.Written.back {data : Bytes} {t : Timestamp} (written : Timestamp.Written data t) (long : data.length = 21) :
    t.to_bytes = data := by
  obtain ⟨date,time,dated,timed,rfl⟩ := written
  have length := dated.length
  simp only [List.length_append,List.length_singleton] at long
  unfold Timestamp.to_bytes
  rw [dated.back,timed.back (by omega)]

theorem Timestamp.reads_exactly_iff (arith : Arith) (data : Bytes) :
    Timestamp.ReadsExactly arith data ↔ ∀ t, ¬ Timestamp.Loose arith data t := by
  constructor
  · rintro exactly t loose
    obtain ⟨date,time,dated,written,same⟩ := (exactly.1 t).mp (Timestamp.parse_in_iff.mpr (.inr loose))
    obtain ⟨date',time',dated',loose,rfl⟩ := loose
    obtain ⟨_,rest⟩ := List.append_inj same (by simp [dated.length,dated'.length])
    exact Time.written_not_loose written (rest ▸ loose)
  · intro strict
    have written (t : Timestamp) : Timestamp.parse_in arith data = .ok (some t) ↔ Timestamp.Written data t := by
      rw [Timestamp.parse_in_iff]
      exact or_iff_left (strict t)
    exact ⟨written,fun long t read => ((written t).mp read).back long⟩

/-- Times and timestamps are read exactly if and only if their milliseconds are not loose. -/
theorem clocks_exact_iff (arith : Arith) (data : Bytes) :
    (Time.ReadsExactly arith data ↔ ∀ t, ¬ Time.Loose arith data t) ∧
    (Timestamp.ReadsExactly arith data ↔ ∀ t, ¬ Timestamp.Loose arith data t) :=
  ⟨Time.reads_exactly_iff arith data,Timestamp.reads_exactly_iff arith data⟩

/-- The milliseconds `0:5` are read as 105. -/
theorem colon_milliseconds : ¬ ∀ (arith : Arith) (data : Bytes), Time.ReadsExactly arith data ∧ Timestamp.ReadsExactly arith data := by
  intro always
  let t : Time := ⟨12,0,0,105,by decide,by decide,by decide,by decide⟩
  have loose : Time.Loose .exact (ascii "12:00:00.0:5") t := by
    refine ⟨ascii "12",ascii "00",ascii "00",ascii "0:5",?_,?_,?_,rfl,by decide,by decide,by decide +kernel,by decide⟩
    · exact ⟨by decide,by decide,by decide⟩
    · exact ⟨by decide,by decide,by decide⟩
    · exact ⟨by decide,by decide,by decide⟩
  have read := Time.deserialize_in_iff.mpr (.inr loose)
  have back : t.to_bytes = ascii "12:00:00.0:5" := (always .exact (ascii "12:00:00.0:5")).1.2 (by decide) t read
  exact absurd back (by decide)

end HotFix
