import HotFix.Clocks

/-!
Times with a timezone, and offset date-times. What is read of a zone is arithmetic on 32
bits; a time is written with the digits themselves in place of their characters, and a
date-time without its time.
-/
namespace HotFix
open Positional

/-- Signed 32-bit numbers are written with their sign. -/
structure Tz where
  offset_from_utc_in_seconds : Int
  deriving DecidableEq

structure TzTime where
  hour : Nat
  minute : Nat
  second : Nat
  second_is_explicit : Bool
  tz : Tz
  deriving DecidableEq

/-! ### The code -/

def HOUR : Nat := 3600
def MINUTE : Nat := 60

def u32_mul (arith : Arith) (a b : Nat) : Checked Nat :=
  match arith with
  | .exact => if a * b < U32 then .ok (a * b) else .error "attempt to multiply with overflow"
  | .wrapping => .ok (a * b % U32)

/-- `as i32`. -/
def as_i32 (n : Nat) : Int := Int.bmod n U32

def i32_mul (arith : Arith) (a b : Int) : Checked Int :=
  match arith with
  | .exact => if Int.bmod (a * b) U32 = a * b then .ok (a * b) else .error "attempt to multiply with overflow"
  | .wrapping => .ok (Int.bmod (a * b) U32)

/-- `ascii_digit_to_u32(tens, 10) + ascii_digit_to_u32(ones, 1)`. -/
def two_digits (arith : Arith) (tens ones : UInt8) : Checked Nat := do
  let a ← digit_in arith tens 10
  let b ← digit_in arith ones 1
  u32_add arith a b

namespace Tz

def UTC : Tz := ⟨0⟩

/-- The seconds behind a sign. The byte between hours and minutes is not looked at. -/
def seconds (arith : Arith) : Bytes → Checked (Option Nat)
  | [h1,h0] => do
    let hour ← two_digits arith h1 h0
    return some (← u32_mul arith hour HOUR)
  | [h1,h0,_,m1,m0] => do
    let hour ← two_digits arith h1 h0
    let minute ← two_digits arith m1 m0
    let hours ← u32_mul arith hour HOUR
    let minutes ← u32_mul arith minute MINUTE
    return some (← u32_add arith hours minutes)
  | _ => return none

def signed (arith : Arith) (sign : Int) (rest : Bytes) : Checked (Option Tz) := do
  match ← seconds arith rest with
  | none => return none
  | some seconds => return some ⟨← i32_mul arith sign (as_i32 seconds)⟩

/-- What follows a `Z` is not looked at. -/
def deserialize (arith : Arith) : Bytes → Checked (Option Tz)
  | [] => return none
  | 90 :: _ => return some UTC
  | 43 :: rest => signed arith 1 rest
  | 45 :: rest => signed arith (-1) rest
  | _ => return none

/-- `u32_digit_to_ascii`, where the sum is below 256. -/
def serialize (tz : Tz) : Bytes :=
  if tz.offset_from_utc_in_seconds = 0 then [90] else
  let sign := if 0 < tz.offset_from_utc_in_seconds then 43 else 45
  let secs := tz.offset_from_utc_in_seconds.natAbs
  let minutes := secs % 3600 / 60
  [sign,digit_to_ascii (secs / HOUR / 10),digit_to_ascii (secs / HOUR % 10)] ++
    if minutes ≠ 0 then [58,digit_to_ascii (minutes / 10),digit_to_ascii (minutes % 10)] else []

end Tz

namespace TzTime

def with_zone (arith : Arith) (hour minute second : Nat) (explicit : Bool) (zone : Bytes) : Checked (Option TzTime) := do
  match ← Tz.deserialize arith zone with
  | none => return none
  | some tz => return some ⟨hour,minute,second,explicit,tz⟩

/-- Only six bytes are asked for, though the seconds are at 6 and 7. -/
def deserialize (arith : Arith) : Bytes → Checked (Option TzTime)
  | h1 :: h0 :: c1 :: m1 :: m0 :: c2 :: rest =>
    if c1 ≠ 58 then return none else do
    let hour ← two_digits arith h1 h0
    let minute ← two_digits arith m1 m0
    if c2 = 58 then
      match rest with
      | s1 :: s0 :: zone => do
        let second ← two_digits arith s1 s0
        with_zone arith hour minute second true zone
      | _ => .error "index out of bounds"
    else with_zone arith hour minute 0 false (c2 :: rest)
  | _ => return none

/-- The digits are written as numbers, not as characters. -/
def serialize (t : TzTime) : Bytes :=
  [(t.hour % 256 / 10).toUInt8,(t.hour % 256 % 10).toUInt8,58,(t.minute % 256 / 10).toUInt8,(t.minute % 256 % 10).toUInt8,58,
    (t.second % 256 / 10).toUInt8,(t.second % 256 % 10).toUInt8] ++ t.tz.serialize

end TzTime

/-! ### Two digits -/

/-- The sum of the digits does not overflow: the first is none below `0`, and the second brings
    the sum below zero or is none below `0` either. -/
def PairFits (tens ones : UInt8) : Prop := 48 ≤ tens.toNat ∧ (48 ≤ ones.toNat ∨ weigh 0 [tens,ones] < 0)

theorem two_digits_iff (arith : Arith) {tens ones : UInt8} {n : Nat} :
    two_digits arith tens ones = .ok n ↔ (arith = .exact → PairFits tens ones) ∧ (n : Int) = weigh 0 [tens,ones] % U32 := by
  have high := tens.toNat_lt
  have low := ones.toNat_lt
  have size : U32 = 4294967296 := rfl
  cases arith with
  | wrapping =>
    have read : two_digits .wrapping tens ones = .ok ((ascii_digit_to_u32 tens 10 + ascii_digit_to_u32 ones 1) % U32) := rfl
    rw [read]
    simp only [ascii_digit_to_u32,weigh_cons,weigh_nil,size,Except.ok.injEq,reduceCtorEq,false_implies,true_and]
    omega
  | exact =>
    simp only [two_digits,MessageBuilder.bind_eq_ok,digit_exact,add_exact,PairFits,weigh_cons,weigh_nil,size,true_implies]
    constructor
    · rintro ⟨_,⟨rfl,fits₁⟩,_,⟨rfl,fits₀⟩,rfl,sum⟩
      omega
    · rintro ⟨⟨above,rest⟩,value⟩
      have first : (tens.toNat+4294967296-48)%4294967296 = tens.toNat-48 := by omega
      rw [first]
      rcases rest with digit | negative
      · have second : (ones.toNat+4294967296-48)%4294967296 = ones.toNat-48 := by omega
        rw [second]
        exact ⟨_,⟨rfl,by omega⟩,_,⟨rfl,by omega⟩,by omega,by omega⟩
      · have second : (ones.toNat+4294967296-48)%4294967296 = ones.toNat+4294967296-48 := by omega
        rw [second]
        exact ⟨_,⟨rfl,by omega⟩,_,⟨rfl,by omega⟩,by omega,by omega⟩

/-- Two digits overflow, or give a number. -/
theorem two_digits_fits (arith : Arith) (tens ones : UInt8) :
    (∃ n, two_digits arith tens ones = .ok n) ↔ (arith = .exact → PairFits tens ones) := by
  constructor
  · rintro ⟨n,read⟩
    exact ((two_digits_iff arith).mp read).1
  · intro fits
    refine ⟨(weigh 0 [tens,ones] % U32).toNat,(two_digits_iff arith).mpr ⟨fits,?_⟩⟩
    exact Int.toNat_of_nonneg (Int.emod_nonneg _ (by decide))

/-! ### Zones -/

namespace Tz

/-- The digits behind the sign of a zone. -/
def digits : Bytes → Option Bytes
  | [h1,h0] => some [h1,h0]
  | [h1,h0,_,m1,m0] => some [h1,h0,m1,m0]
  | _ => none

/-- The seconds that the digits stand for, each counted from `0`. -/
def total : Bytes → Int
  | [h1,h0] => 3600*weigh 0 [h1,h0]
  | [h1,h0,m1,m0] => 3600*weigh 0 [h1,h0]+60*weigh 0 [m1,m0]
  | _ => 0

/-- A number within the bound is what it wraps to. -/
theorem fits_iff {x result : Nat} : x = result ∧ result < U32 ↔ x < U32 ∧ result = x % U32 := by
  constructor
  · rintro ⟨rfl,fits⟩
    exact ⟨fits,(Nat.mod_eq_of_lt fits).symm⟩
  · rintro ⟨fits,rfl⟩
    rw [Nat.mod_eq_of_lt fits]
    exact ⟨rfl,fits⟩

theorem mul_iff (arith : Arith) {a b result : Nat} :
    u32_mul arith a b = .ok result ↔ (arith = .exact → a*b < U32) ∧ result = a*b % U32 := by
  cases arith with
  | wrapping =>
    simp only [u32_mul,Except.ok.injEq,reduceCtorEq,false_implies,true_and]
    exact eq_comm
  | exact =>
    simp only [u32_mul,checked_eq_ok,true_implies]
    exact fits_iff

theorem add_iff (arith : Arith) {a b result : Nat} :
    u32_add arith a b = .ok result ↔ (arith = .exact → a+b < U32) ∧ result = (a+b) % U32 := by
  cases arith with
  | wrapping =>
    simp only [u32_add,Except.ok.injEq,reduceCtorEq,false_implies,true_and]
    exact eq_comm
  | exact =>
    simp only [u32_add,checked_eq_ok,true_implies]
    exact fits_iff

/-- Two digits and their unit. With overflow checks no byte is below the digits: such a byte makes
    a number that the product overflows. -/
theorem unit_iff (arith : Arith) {tens ones : UInt8} {k p : Nat} (unit : k = HOUR ∨ k = MINUTE) :
    (∃ n, two_digits arith tens ones = .ok n ∧ u32_mul arith n k = .ok p) ↔
      (arith = .exact → 48 ≤ tens.toNat ∧ 48 ≤ ones.toNat) ∧ (p : Int) = k*weigh 0 [tens,ones] % U32 := by
  have high := tens.toNat_lt
  have low := ones.toNat_lt
  have size : U32 = 4294967296 := rfl
  simp only [two_digits_iff,mul_iff,PairFits,weigh_cons,weigh_nil,size]
  generalize weight : ((0*10+((tens.toNat : Int)-48))*10+((ones.toNat : Int)-48)) = w
  have positive : 48 ≤ tens.toNat ∧ 48 ≤ ones.toNat → w % 4294967296 = w := fun above => Int.emod_eq_of_lt (by omega) (by omega)
  have read : ((w % 4294967296).toNat : Int) = w % 4294967296 := Int.toNat_of_nonneg (Int.emod_nonneg _ (by decide))
  constructor
  · rintro ⟨n,⟨fits,value⟩,product,rfl⟩
    constructor
    · intro exact
      have pair := fits exact
      have below := product exact
      obtain rfl | rfl := unit
      · simp only [HOUR] at below
        omega
      · simp only [MINUTE] at below
        omega
    · obtain rfl | rfl := unit
      · simp only [HOUR]
        omega
      · simp only [MINUTE]
        omega
  · rintro ⟨above,value⟩
    refine ⟨(w % 4294967296).toNat,⟨fun exact => ⟨(above exact).1,.inl (above exact).2⟩,read⟩,fun exact => ?_,?_⟩
    · have small := positive (above exact)
      obtain rfl | rfl := unit
      · simp only [HOUR]
        omega
      · simp only [MINUTE]
        omega
    · obtain rfl | rfl := unit
      · simp only [HOUR] at value ⊢
        omega
      · simp only [MINUTE] at value ⊢
        omega
theorem pair_small (tens ones : UInt8) : -528 ≤ weigh 0 [tens,ones] ∧ weigh 0 [tens,ones] ≤ 2277 ∧
    (48 ≤ tens.toNat ∧ 48 ≤ ones.toNat → 0 ≤ weigh 0 [tens,ones]) := by
  have high := tens.toNat_lt
  have low := ones.toNat_lt
  simp only [weigh_cons,weigh_nil]
  omega

/-- The whole arithmetic of a zone comes down to one sum. -/
theorem seconds_iff (arith : Arith) {rest ds : Bytes} (found : digits rest = some ds) {s : Nat} :
    seconds arith rest = .ok (some s) ↔ (arith = .exact → ∀ byte ∈ ds, 48 ≤ byte.toNat) ∧ (s : Int) = total ds % U32 := by
  unfold digits at found
  split at found
  · next h1 h0 =>
    obtain rfl := Option.some.inj found
    have read : seconds arith [h1,h0] = .ok (some s) ↔ ∃ n, two_digits arith h1 h0 = .ok n ∧ u32_mul arith n HOUR = .ok s := by
      simp only [seconds,MessageBuilder.bind_eq_ok]
      constructor
      · rintro ⟨n,hour,_,product,same⟩
        cases same
        exact ⟨n,hour,product⟩
      · rintro ⟨n,hour,product⟩
        exact ⟨n,hour,s,product,rfl⟩
    rw [read,unit_iff arith (.inl rfl)]
    simp only [List.forall_mem_cons,List.not_mem_nil,false_implies,implies_true,and_true]
    rfl
  · next h1 h0 c m1 m0 =>
    obtain rfl := Option.some.inj found
    have read : seconds arith [h1,h0,c,m1,m0] = .ok (some s) ↔ ∃ p q, (∃ n, two_digits arith h1 h0 = .ok n ∧ u32_mul arith n HOUR = .ok p) ∧
        (∃ n, two_digits arith m1 m0 = .ok n ∧ u32_mul arith n MINUTE = .ok q) ∧ u32_add arith p q = .ok s := by
      simp only [seconds,MessageBuilder.bind_eq_ok]
      constructor
      · rintro ⟨n,hour,k,minute,p,hours,q,minutes,_,sum,same⟩
        cases same
        exact ⟨p,q,⟨n,hour,hours⟩,⟨k,minute,minutes⟩,sum⟩
      · rintro ⟨p,q,⟨n,hour,hours⟩,⟨k,minute,minutes⟩,sum⟩
        exact ⟨n,hour,k,minute,p,hours,q,minutes,s,sum,rfl⟩
    rw [read]
    simp only [unit_iff arith (.inl rfl : HOUR = HOUR ∨ HOUR = MINUTE),unit_iff arith (.inr rfl : MINUTE = HOUR ∨ MINUTE = MINUTE),add_iff,
      List.forall_mem_cons,List.not_mem_nil,false_implies,implies_true,and_true,total]
    obtain ⟨low,high,positive⟩ := pair_small h1 h0
    obtain ⟨low',high',positive'⟩ := pair_small m1 m0
    have size : U32 = 4294967296 := rfl
    have hour : HOUR = 3600 := rfl
    have minute : MINUTE = 60 := rfl
    rw [size,hour,minute]
    constructor
    · rintro ⟨p,q,⟨above,hours⟩,⟨above',minutes⟩,_,rfl⟩
      refine ⟨fun exact => ⟨(above exact).1,(above exact).2,above' exact⟩,?_⟩
      omega
    · rintro ⟨above,value⟩
      refine ⟨(3600*weigh 0 [h1,h0] % 4294967296).toNat,(60*weigh 0 [m1,m0] % 4294967296).toNat,⟨fun exact => ?_,?_⟩,
        ⟨fun exact => ?_,?_⟩,fun exact => ?_,?_⟩
      · exact ⟨(above exact).1,(above exact).2.1⟩
      · omega
      · exact (above exact).2.2
      · omega
      · have hours := positive ⟨(above exact).1,(above exact).2.1⟩
        have minutes := positive' (above exact).2.2
        rw [Int.emod_eq_of_lt (by omega) (by omega),Int.emod_eq_of_lt (by omega) (by omega)]
        omega
      · omega
  · cases found

theorem total_small {rest ds : Bytes} (found : digits rest = some ds) : -2000000 < total ds ∧ total ds < 9000000 := by
  unfold digits at found
  split at found
  · next h1 h0 =>
    obtain rfl := Option.some.inj found
    obtain ⟨low,high,_⟩ := pair_small h1 h0
    simp only [total]
    omega
  · next h1 h0 c m1 m0 =>
    obtain rfl := Option.some.inj found
    obtain ⟨low,high,_⟩ := pair_small h1 h0
    obtain ⟨low',high',_⟩ := pair_small m1 m0
    simp only [total]
    omega
  · cases found

theorem seconds_none (arith : Arith) {rest : Bytes} (other : digits rest = none) : seconds arith rest = .ok none := by
  unfold digits at other
  split at other
  · cases other
  · cases other
  · next two five =>
    unfold seconds
    split
    · exact absurd rfl (two _ _)
    · exact absurd rfl (five _ _ _ _ _)
    · rfl

theorem seconds_read (arith : Arith) {rest ds : Bytes} (found : digits rest = some ds) {r : Option Nat}
    (read : seconds arith rest = .ok r) : ∃ s, r = some s := by
  unfold digits at found
  split at found
  · simp only [seconds,MessageBuilder.bind_eq_ok] at read
    obtain ⟨_,_,_,_,same⟩ := read
    exact ⟨_,(Except.ok.inj same).symm⟩
  · simp only [seconds,MessageBuilder.bind_eq_ok] at read
    obtain ⟨_,_,_,_,_,_,_,_,_,_,same⟩ := read
    exact ⟨_,(Except.ok.inj same).symm⟩
  · cases found

/-- A small number is the same with 32 bits. -/
theorem bmod_small {n : Int} (low : -2147483648 ≤ n) (high : n < 2147483648) : Int.bmod n U32 = n := by
  have size : U32 = 4294967296 := rfl
  rw [Int.bmod_def,size]
  split_ifs <;> omega

/-- What a sign makes of the seconds behind it. -/
theorem signed_iff (arith : Arith) {sign : Int} (unit : sign = 1 ∨ sign = -1) {rest ds : Bytes} (found : digits rest = some ds) {tz : Tz} :
    signed arith sign rest = .ok (some tz) ↔
      (arith = .exact → ∀ byte ∈ ds, 48 ≤ byte.toNat) ∧ tz.offset_from_utc_in_seconds = sign * total ds := by
  have small := total_small found
  have read {s : Nat} (value : (s : Int) = total ds % U32) : as_i32 s = total ds := by
    unfold as_i32
    rw [value,Int.emod_bmod]
    exact bmod_small (by omega) (by omega)
  have product : i32_mul arith sign (total ds) = .ok (sign * total ds) := by
    have same : Int.bmod (sign * total ds) U32 = sign * total ds := by
      rcases unit with rfl | rfl
      · exact bmod_small (by omega) (by omega)
      · exact bmod_small (by omega) (by omega)
    cases arith with
    | exact => exact if_pos same
    | wrapping => exact congrArg Except.ok same
  unfold signed
  rw [MessageBuilder.bind_eq_ok]
  constructor
  · rintro ⟨r,reading,rest⟩
    obtain ⟨s,rfl⟩ := seconds_read arith found reading
    obtain ⟨fits,value⟩ := (seconds_iff arith found).mp reading
    dsimp only at rest
    rw [read value,product] at rest
    cases rest
    exact ⟨fits,rfl⟩
  · rintro ⟨fits,offset⟩
    have value : (((total ds % U32).toNat : Nat) : Int) = total ds % U32 := Int.toNat_of_nonneg (Int.emod_nonneg _ (by decide))
    refine ⟨_,(seconds_iff arith found).mpr ⟨fits,value⟩,?_⟩
    dsimp only
    rw [read value,product]
    obtain ⟨_⟩ := tz
    cases offset
    rfl

/-- The sign of a zone, and what is behind it. -/
def parts : Bytes → Option (Int × Bytes)
  | 43 :: rest => some (1,rest)
  | 45 :: rest => some (-1,rest)
  | _ => none

/-- With overflow checks a zone has no byte below the digits where digits belong. -/
def Fits (arith : Arith) (zone : Bytes) : Prop :=
  ∀ sign rest ds, parts zone = some (sign,rest) → digits rest = some ds → arith = .exact → ∀ byte ∈ ds, 48 ≤ byte.toNat

theorem signed_fits (arith : Arith) {sign : Int} (unit : sign = 1 ∨ sign = -1) (rest : Bytes) :
    (∃ r, signed arith sign rest = .ok r) ↔ ∀ ds, digits rest = some ds → arith = .exact → ∀ byte ∈ ds, 48 ≤ byte.toNat := by
  constructor
  · rintro ⟨r,read⟩ ds found
    unfold signed at read
    obtain ⟨s,reading,_⟩ := MessageBuilder.bind_eq_ok.mp read
    obtain ⟨s,rfl⟩ := seconds_read arith found reading
    exact ((seconds_iff arith found).mp reading).1
  · intro fits
    cases found : digits rest with
    | none =>
      refine ⟨none,?_⟩
      unfold signed
      rw [seconds_none arith found]
      rfl
    | some ds => exact ⟨some ⟨sign * total ds⟩,(signed_iff arith unit found).mpr ⟨fits ds found,rfl⟩⟩

theorem deserialize_fits (arith : Arith) (zone : Bytes) : (∃ r, deserialize arith zone = .ok r) ↔ Fits arith zone := by
  unfold deserialize Fits parts
  split
  · exact iff_of_true ⟨_,rfl⟩ (by rintro _ _ _ ⟨⟩)
  · exact iff_of_true ⟨_,rfl⟩ (by rintro _ _ _ ⟨⟩)
  · next rest =>
    rw [signed_fits arith (.inl rfl)]
    constructor
    · rintro fits _ _ ds ⟨⟩
      exact fits ds
    · exact fun fits ds => fits 1 rest ds rfl
  · next rest =>
    rw [signed_fits arith (.inr rfl)]
    constructor
    · rintro fits _ _ ds ⟨⟩
      exact fits ds
    · exact fun fits ds => fits (-1) rest ds rfl
  · next plus minus =>
    refine iff_of_true ⟨_,rfl⟩ ?_
    intro sign rest ds same
    split at same
    · exact absurd rfl (plus _)
    · exact absurd rfl (minus _)
    · cases same

/-- The text is the zone: `Z`, or a sign and hours with or without minutes. -/
def Written (data : Bytes) (tz : Tz) : Prop :=
  data = [90] ∧ tz = UTC ∨ ∃ sign rest ds, parts data = some (sign,rest) ∧ digits rest = some ds ∧ ds.all Decimal.isDigit = true ∧
    (∀ byte, rest[2]? = some byte → byte = 58) ∧ tz.offset_from_utc_in_seconds = sign * total ds

theorem parts_unit {data rest : Bytes} {sign : Int} (split : parts data = some (sign,rest)) : sign = 1 ∨ sign = -1 := by
  unfold parts at split
  split at split
  · cases split
    exact .inl rfl
  · cases split
    exact .inr rfl
  · cases split

theorem deserialize_parts (arith : Arith) {data rest : Bytes} {sign : Int} (split : parts data = some (sign,rest)) :
    deserialize arith data = signed arith sign rest := by
  unfold parts at split
  split at split
  · cases split
    rfl
  · cases split
    rfl
  · cases split

theorem Written.head {data : Bytes} {tz : Tz} (written : Written data tz) : ∃ c rest, data = c :: rest ∧ c ≠ 58 := by
  rcases written with ⟨rfl,_⟩ | ⟨sign,rest,ds,split,_⟩
  · exact ⟨90,[],rfl,by decide⟩
  · unfold parts at split
    split at split
    · exact ⟨43,_,rfl,by decide⟩
    · exact ⟨45,_,rfl,by decide⟩
    · cases split

/-- A zone is read as it is written. -/
theorem deserialize_written (arith : Arith) {data : Bytes} {tz : Tz} (written : Written data tz) : deserialize arith data = .ok (some tz) := by
  rcases written with ⟨rfl,rfl⟩ | ⟨sign,rest,ds,split,found,digits,_,offset⟩
  · rfl
  · rw [deserialize_parts arith split,signed_iff arith (parts_unit split) found]
    exact ⟨fun _ => digits_above digits,offset⟩

end Tz

/-! ### Times -/

namespace TzTime

/-- With overflow checks the time is read to its end: its pairs of digits do not overflow, the
    seconds are there if a second colon is, and the zone fits. -/
def Fits : Bytes → Prop
  | h1 :: h0 :: c1 :: m1 :: m0 :: c2 :: rest => c1 = 58 → PairFits h1 h0 ∧ PairFits m1 m0 ∧
    if c2 = 58 then ∃ s1 s0 zone, rest = s1 :: s0 :: zone ∧ PairFits s1 s0 ∧ Tz.Fits .exact zone else Tz.Fits .exact (c2 :: rest)
  | _ => True

theorem with_zone_fits (arith : Arith) (hour minute second : Nat) (explicit : Bool) (zone : Bytes) :
    (∃ r, with_zone arith hour minute second explicit zone = .ok r) ↔ Tz.Fits arith zone := by
  rw [← Tz.deserialize_fits]
  unfold with_zone
  constructor
  · rintro ⟨r,read⟩
    obtain ⟨tz,reading,_⟩ := MessageBuilder.bind_eq_ok.mp read
    exact ⟨tz,reading⟩
  · rintro ⟨_ | tz,reading⟩
    · exact ⟨none,by rw [reading]; rfl⟩
    · exact ⟨some ⟨hour,minute,second,explicit,tz⟩,by rw [reading]; rfl⟩

/-- A computation that goes on returns when both parts do. -/
theorem returns_bind {α β : Type} {x : Checked α} {f : α → Checked β} :
    (∃ r, (x >>= f) = .ok r) ↔ ∃ a, x = .ok a ∧ ∃ r, f a = .ok r := by
  constructor
  · rintro ⟨r,read⟩
    obtain ⟨a,reading,rest⟩ := MessageBuilder.bind_eq_ok.mp read
    exact ⟨a,reading,r,rest⟩
  · rintro ⟨a,reading,r,rest⟩
    exact ⟨r,MessageBuilder.bind_eq_ok.mpr ⟨a,reading,rest⟩⟩

theorem returns_digits {β : Type} {tens ones : UInt8} {f : Nat → Checked β} {P : Prop} (rest : ∀ n, (∃ r, f n = .ok r) ↔ P) :
    (∃ r, (two_digits .exact tens ones >>= f) = .ok r) ↔ PairFits tens ones ∧ P := by
  have pair := two_digits_fits .exact tens ones
  simp only [true_implies] at pair
  simp only [returns_bind,rest,exists_and_right,← pair]

/-- Reading a time neither panics nor overflows exactly when it fits. -/
theorem deserialize_fits (data : Bytes) : (∃ r, deserialize .exact data = .ok r) ↔ Fits data := by
  unfold deserialize Fits
  split
  · next h1 h0 c1 m1 m0 c2 rest =>
    by_cases colon : c1 = 58
    · rw [if_neg (by simp [colon])]
      simp only [colon,true_implies]
      refine returns_digits (fun hour => returns_digits (fun minute => ?_))
      split_ifs with second
      · split
        · next s1 s0 zone =>
          rw [returns_digits (fun n => with_zone_fits .exact hour minute n true zone)]
          constructor
          · exact fun fits => ⟨s1,s0,zone,rfl,fits⟩
          · rintro ⟨_,_,_,⟨⟩,fits⟩
            exact fits
        · next short =>
          refine iff_of_false ?_ ?_
          · rintro ⟨_,read⟩
            cases read
          · rintro ⟨_,_,_,rfl,_⟩
            exact short _ _ _ rfl
      · exact with_zone_fits .exact hour minute 0 false (c2 :: rest)
    · rw [if_pos colon]
      exact iff_of_true ⟨_,rfl⟩ (fun same => absurd same colon)
  · exact iff_of_true ⟨_,rfl⟩ trivial

/-- The text is the time, with or without seconds, and its zone. -/
structure Written (data : Bytes) (t : TzTime) : Prop where
  hour_le : t.hour ≤ 23
  minute_le : t.minute ≤ 59
  second_le : t.second ≤ 60
  spelled : ∃ hour minute zone, Numeral 2 hour t.hour ∧ Numeral 2 minute t.minute ∧ Tz.Written zone t.tz ∧
    ((∃ second, Numeral 2 second t.second ∧ t.second_is_explicit = true ∧
      data = hour ++ [58] ++ minute ++ [58] ++ second ++ zone) ∨
    t.second = 0 ∧ t.second_is_explicit = false ∧ data = hour ++ [58] ++ minute ++ zone)

/-- What is written of the time is read as the same time. -/
def RoundTrips (arith : Arith) (t : TzTime) : Prop :=
  ∃ t', deserialize arith t.serialize = .ok (some t') ∧ t'.hour = t.hour ∧ t'.minute = t.minute ∧ t'.second = t.second ∧ t'.tz = t.tz

theorem two_digits_numeral (arith : Arith) {tens ones : UInt8} {n : Nat} (numeral : Numeral 2 [tens,ones] n) :
    two_digits arith tens ones = .ok n := by
  obtain ⟨_,digits,value⟩ := numeral
  have above := digits_above digits
  have weight := weigh_digits above
  rw [value] at weight
  have high := tens.toNat_lt
  have low := ones.toNat_lt
  refine (two_digits_iff arith).mpr ⟨fun _ => ⟨above tens (by simp),.inl (above ones (by simp))⟩,?_⟩
  rw [weight]
  have small : (n : Int) < U32 := by
    have size : U32 = 4294967296 := rfl
    simp only [weigh_cons,weigh_nil] at weight
    omega
  exact (Int.emod_eq_of_lt (Int.natCast_nonneg n) small).symm

/-- A time is read as it is written. -/
theorem deserialize_written (arith : Arith) {data : Bytes} {t : TzTime} (written : Written data t) : deserialize arith data = .ok (some t) := by
  obtain ⟨_,_,_,_,_⟩ := t
  obtain ⟨hour,minute,zone,hours,minutes,zoned,⟨second,seconds,explicit,rfl⟩ | ⟨zero,implicit,rfl⟩⟩ := written.spelled
  · obtain ⟨h1,h0,rfl⟩ := hours.pair
    obtain ⟨m1,m0,rfl⟩ := minutes.pair
    obtain ⟨s1,s0,rfl⟩ := seconds.pair
    obtain rfl : _ = _ := explicit
    show (two_digits arith h1 h0 >>= _) = _
    rw [two_digits_numeral arith hours]
    show (two_digits arith m1 m0 >>= _) = _
    rw [two_digits_numeral arith minutes]
    show (two_digits arith s1 s0 >>= _) = _
    rw [two_digits_numeral arith seconds]
    show (Tz.deserialize arith zone >>= _) = _
    rw [Tz.deserialize_written arith zoned]
    rfl
  · obtain ⟨h1,h0,rfl⟩ := hours.pair
    obtain ⟨m1,m0,rfl⟩ := minutes.pair
    obtain rfl : _ = _ := implicit
    obtain rfl : _ = _ := zero
    obtain ⟨c,rest,rfl,other⟩ := zoned.head
    show (two_digits arith h1 h0 >>= _) = _
    rw [two_digits_numeral arith hours]
    show (two_digits arith m1 m0 >>= _) = _
    rw [two_digits_numeral arith minutes]
    show (if c = 58 then _ else _) = _
    rw [if_neg other]
    show (Tz.deserialize arith (c :: rest) >>= _) = _
    rw [Tz.deserialize_written arith zoned]
    rfl

theorem with_zone_hour {arith : Arith} {hour minute second : Nat} {explicit : Bool} {zone : Bytes} {t : TzTime}
    (read : with_zone arith hour minute second explicit zone = .ok (some t)) : t.hour = hour := by
  unfold with_zone at read
  obtain ⟨_ | tz,_,rest⟩ := MessageBuilder.bind_eq_ok.mp read
  · cases rest
  · cases rest
    rfl

/-- The hour is what the first two digits give. -/
theorem deserialize_hour {arith : Arith} {h1 h0 m1 m0 c2 : UInt8} {rest : Bytes} {t : TzTime}
    (read : deserialize arith (h1 :: h0 :: 58 :: m1 :: m0 :: c2 :: rest) = .ok (some t)) : two_digits arith h1 h0 = .ok t.hour := by
  unfold deserialize at read
  dsimp only at read
  rw [if_neg (by decide)] at read
  obtain ⟨hour,hours,read⟩ := MessageBuilder.bind_eq_ok.mp read
  obtain ⟨minute,_,read⟩ := MessageBuilder.bind_eq_ok.mp read
  rw [hours]
  split_ifs at read
  · split at read
    · obtain ⟨second,_,read⟩ := MessageBuilder.bind_eq_ok.mp read
      rw [with_zone_hour read]
    · cases read
  · rw [with_zone_hour read]

/-- What is written of a time is never read as it was: its digits are below the characters. -/
theorem never_round_trips (arith : Arith) (t : TzTime) : ¬ RoundTrips arith t := by
  rintro ⟨t',read,hour,_⟩
  have weight := ((two_digits_iff arith).mp (deserialize_hour read)).2
  have size : U32 = 4294967296 := rfl
  simp only [hour,weigh_cons,weigh_nil,size,Nat.toUInt8,UInt8.toNat_ofNat'] at weight
  omega

/-- The time is read without a panic or an overflow, and if it is well written, what is
    written of it is read as the same. -/
def Sound (arith : Arith) (data : Bytes) : Prop :=
  (∃ r, deserialize .exact data = .ok r) ∧
  ∀ t, Written data t → deserialize arith data = .ok (some t) → RoundTrips arith t

/-- Times are sound exactly where they fit and are not well written. -/
theorem sound_iff (arith : Arith) (data : Bytes) : Sound arith data ↔ Fits data ∧ ∀ t, ¬ Written data t := by
  rw [Sound,deserialize_fits]
  refine and_congr_right (fun _ => forall_congr' (fun t => ?_))
  constructor
  · exact fun whole written => never_round_trips arith t (whole written (deserialize_written arith written))
  · exact fun other written => absurd written other

/-- A time that ends where its seconds should be makes the reader panic. -/
theorem seconds_missing : ¬ ∀ (arith : Arith) (data : Bytes), Sound arith data := by
  intro always
  have fits : Fits (ascii "12:00:") := (deserialize_fits _).mp (always .exact (ascii "12:00:")).1
  obtain ⟨_,_,seconds⟩ := fits (by decide)
  rw [if_pos (by decide)] at seconds
  obtain ⟨_,_,_,short,_⟩ := seconds
  cases short

end TzTime
end HotFix
