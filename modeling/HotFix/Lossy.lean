import HotFix.Spelling

/-!
Strict and lossy integers. The strict reader is the `parse` of the standard library; the
lossy one folds the bytes with wrapping arithmetic, a sign among them, and negates what
came of a leading minus.
-/
namespace HotFix
open Positional

inductive IntType where
  | u32
  | u64
  | u128
  | usize
  | i32
  | i64
  | i128
  deriving DecidableEq

namespace IntType

def width : IntType → Nat
  | .u32 => 32
  | .u64 => 64
  | .u128 => 128
  | .usize => 64
  | .i32 => 32
  | .i64 => 64
  | .i128 => 128

def signed : IntType → Bool
  | .u32 => false
  | .u64 => false
  | .u128 => false
  | .usize => false
  | .i32 => true
  | .i64 => true
  | .i128 => true

/-- The value of the type that is the integer modulo its size. -/
def wrap (ty : IntType) (n : Int) : Int := if ty.signed then n.bmod (2^ty.width) else n % (2^ty.width : Nat)

def ERR_UTF8 : String := "Invalid byte sequence; expected UTF-8 valid bytes."
def ERR_INT_INVALID : String := "Invalid integer digits."

/-- `str::parse`: a sign where the type has one, and digits of a number of the type. -/
def parse (ty : IntType) (data : Bytes) : Option Int :=
  if ty.signed then
    match data with
    | 45 :: digit :: rest =>
      if (digit :: rest).all Decimal.isDigit = true ∧ Decimal.value (digit :: rest) ≤ 2^(ty.width-1) then
        some (-(Decimal.value (digit :: rest) : Int))
      else none
    | _ => (Decimal.parseBelow (2^(ty.width-1)) data).map Nat.cast
  else (Decimal.parseBelow (2^ty.width) data).map Nat.cast

def deserialize (ty : IntType) (data : Bytes) : Except String Int :=
  if valid_utf8 data then
    match ty.parse data with
    | some v => .ok v
    | none => .error ERR_INT_INVALID
  else .error ERR_UTF8

/-- `(digit as ty).wrapping_sub(b'0' as ty)`. -/
def ascii_digit_to_num (ty : IntType) (digit : UInt8) : Int := ty.wrap ((digit.toNat : Int)-48)

def lossy_deserialize_unsigned (ty : IntType) (data : Bytes) : Except String Int :=
  .ok (data.foldl (fun n byte => ty.wrap (ty.wrap (n*10)+ty.ascii_digit_to_num byte)) 0)

def lossy_deserialize_signed (ty : IntType) (data : Bytes) : Except String Int :=
  (ty.lossy_deserialize_unsigned data).map (fun n => if data.head? = some 45 then ty.wrap (-n) else n)

def deserialize_lossy (ty : IntType) (data : Bytes) : Except String Int :=
  if ty.signed then ty.lossy_deserialize_signed data else ty.lossy_deserialize_unsigned data

end IntType

namespace TagU32

/-- `NonZeroU32`: a number of 32 bits other than zero. -/
def deserialize (data : Bytes) : Except String TagU32 :=
  match IntType.u32.deserialize data with
  | .error e => .error e
  | .ok n =>
    match TagU32.new n.toNat with
    | some tag => .ok tag
    | none => .error IntType.ERR_INT_INVALID

def deserialize_lossy (data : Bytes) : Except (Abort String) TagU32 :=
  match IntType.u32.deserialize_lossy data with
  | .error e => .error (.Error e)
  | .ok n =>
    match TagU32.new (max n.toNat 1) with
    | some tag => .ok tag
    | none => .error (.Panic "guaranteed to be non-zero")

end TagU32

/-- The text begins with a sign. -/
def Signed (data : Bytes) : Prop := data.head? = some 43 ∨ data.head? = some 45

namespace IntType
variable {ty : IntType} {data : Bytes} {v : Int}

/-! ### Wrapping -/

theorem wrap_modEq (ty : IntType) (n : Int) : ty.wrap n ≡ n [ZMOD (2^ty.width : Nat)] := by
  unfold wrap
  split_ifs
  · exact Int.bmod_emod
  · exact Int.mod_modEq _ _

theorem wrap_congr {a b : Int} (same : a ≡ b [ZMOD (2^ty.width : Nat)]) : ty.wrap a = ty.wrap b := by
  unfold wrap
  split_ifs
  · rw [← Int.emod_bmod a,same,Int.emod_bmod]
  · exact same

theorem wrap_wrap (n : Int) : ty.wrap (ty.wrap n) = ty.wrap n := wrap_congr (wrap_modEq ty n)

/-- A value of the type is what an integer wraps to if they agree modulo its size. -/
theorem wrap_eq_iff {n : Int} (value : ty.wrap v = v) : ty.wrap n = v ↔ n ≡ v [ZMOD (2^ty.width : Nat)] := by
  constructor
  · intro same
    exact (wrap_modEq ty n).symm.trans (by rw [same])
  · intro same
    rw [wrap_congr same,value]

/-- The fold wraps what the bytes weigh. -/
theorem folded_eq (ty : IntType) (data : Bytes) :
    data.foldl (fun n byte => ty.wrap (ty.wrap (n*10)+ty.ascii_digit_to_num byte)) 0 = ty.wrap (weigh 0 data) := by
  have step (n : Int) (byte : UInt8) :
      ty.wrap (ty.wrap (n*10)+ty.ascii_digit_to_num byte) ≡ n*10+((byte.toNat : Int)-48) [ZMOD (2^ty.width : Nat)] :=
    (wrap_modEq ty _).trans ((wrap_modEq ty _).add (wrap_modEq ty _))
  have folded := fold_modEq step data (Int.ModEq.refl 0)
  rcases List.eq_nil_or_concat' data with rfl | ⟨front,last,rfl⟩
  · cases ty <;> rfl
  · rw [List.foldl_concat] at folded ⊢
    rw [← wrap_wrap]
    exact wrap_congr folded

/-! ### What the strict reader accepts -/

/-- An accepted text: digits behind no sign, a plus, or a minus. -/
inductive Accepted (ty : IntType) : Bytes → Int → Prop where
  | plain {digits : Bytes} (nonempty : digits ≠ []) (all : digits.all Decimal.isDigit = true) :
    Accepted ty digits (Decimal.value digits)
  | plus {digits : Bytes} (nonempty : digits ≠ []) (all : digits.all Decimal.isDigit = true) :
    Accepted ty (43 :: digits) (Decimal.value digits)
  | minus {digits : Bytes} (nonempty : digits ≠ []) (all : digits.all Decimal.isDigit = true) (negative : ty.signed = true) :
    Accepted ty (45 :: digits) (-(Decimal.value digits : Int))

theorem unsigned_cases (data : Bytes) :
    Decimal.unsigned data = data ∨ ∃ digits, digits ≠ [] ∧ data = 43 :: digits ∧ Decimal.unsigned data = digits := by
  unfold Decimal.unsigned
  split
  · exact .inr ⟨_,List.cons_ne_nil _ _,rfl,rfl⟩
  · exact .inl rfl

theorem parseBelow_accepted {bound n : Nat} (parsed : Decimal.parseBelow bound data = some n) : Accepted ty data n ∧ n < bound := by
  unfold Decimal.parseBelow at parsed
  dsimp only at parsed
  split_ifs at parsed with accepted
  cases parsed
  obtain ⟨nonempty,all,below⟩ := accepted
  refine ⟨?_,below⟩
  rcases unsigned_cases data with same | ⟨digits,_,rfl,same⟩
  · rw [same] at nonempty all ⊢
    exact .plain nonempty all
  · rw [same] at nonempty all ⊢
    exact .plus nonempty all

theorem half_double (ty : IntType) : 2^ty.width = 2*2^(ty.width-1) := by cases ty <;> rfl

/-- An accepted value is one of the type. -/
theorem deserialize_accepted (accepted : ty.deserialize data = .ok v) : Accepted ty data v ∧ ty.wrap v = v := by
  have double := half_double ty
  unfold deserialize at accepted
  split_ifs at accepted
  cases parsed : ty.parse data with
  | none =>
    rw [parsed] at accepted
    cases accepted
  | some n =>
    rw [parsed] at accepted
    cases accepted
    unfold parse at parsed
    by_cases negative : ty.signed = true
    · rw [if_pos negative] at parsed
      unfold wrap
      rw [if_pos negative]
      split at parsed
      · rename_i digit rest
        split_ifs at parsed with digits
        cases parsed
        refine ⟨.minus (List.cons_ne_nil _ _) digits.1 negative,Int.bmod_eq_of_le_mul_two ?_ ?_⟩
        · have bound := digits.2
          omega
        · have size : 0 < 2^ty.width := Nat.two_pow_pos _
          omega
      · obtain ⟨m,read,rfl⟩ := Option.map_eq_some_iff.mp parsed
        obtain ⟨shape,below⟩ := parseBelow_accepted read
        exact ⟨shape,Int.bmod_eq_of_le_mul_two (by omega) (by omega)⟩
    · rw [if_neg negative] at parsed
      unfold wrap
      rw [if_neg negative]
      obtain ⟨m,read,rfl⟩ := Option.map_eq_some_iff.mp parsed
      obtain ⟨shape,below⟩ := parseBelow_accepted read
      exact ⟨shape,Int.emod_eq_of_lt (by omega) (by omega)⟩

/-! ### Agreement -/

theorem lossy_eq (ty : IntType) (data : Bytes) : ty.deserialize_lossy data =
    .ok (if ty.signed = true ∧ data.head? = some 45 then ty.wrap (-weigh 0 data) else ty.wrap (weigh 0 data)) := by
  have negated : ty.wrap (-ty.wrap (weigh 0 data)) = ty.wrap (-weigh 0 data) := wrap_congr (wrap_modEq ty _).neg
  unfold deserialize_lossy lossy_deserialize_signed lossy_deserialize_unsigned
  rw [folded_eq]
  by_cases negative : ty.signed = true
  · by_cases minus : data.head? = some 45
    · simp [negative,minus,Except.map,negated]
    · simp [negative,minus,Except.map]
  · simp [negative]

/-- A weight with a sign in front agrees with the number behind it only past the width. -/
theorem sign_vanishes {digits : Bytes} {c : Int} (odd : ¬ (2 : Int) ∣ c) :
    c*10^digits.length + v ≡ v [ZMOD (2^ty.width : Nat)] ↔ ty.width ≤ digits.length := by
  rw [← odd_pow_ten odd,Int.modEq_comm,Int.modEq_iff_dvd,add_sub_cancel_right]
  simp

theorem weigh_spelled {digits : Bytes} (all : digits.all Decimal.isDigit = true) (start : Int) :
    weigh start digits = start*10^digits.length + Decimal.value digits := by
  rw [weigh_start,weigh_digits (fun byte member => (isDigit_iff.mp (List.all_eq_true.mp all byte member)).1)]

theorem digits_unsigned {digits : Bytes} (nonempty : digits ≠ []) (all : digits.all Decimal.isDigit = true) : ¬ Signed digits := by
  cases digits with
  | nil => exact absurd rfl nonempty
  | cons digit rest =>
    have first := isDigit_iff.mp (List.all_eq_true.mp all digit List.mem_cons_self)
    rintro (plus | minus)
    · cases plus
      exact absurd first (by decide)
    · cases minus
      exact absurd first (by decide)

/-- The readers agree on an accepted text if and only if it has no sign, or as many digits
    as the type has bits. -/
theorem lossy_agrees (accepted : ty.deserialize data = .ok v) :
    ty.deserialize_lossy data = .ok v ↔ ¬ Signed data ∨ ty.width < data.length := by
  obtain ⟨shape,value⟩ := deserialize_accepted accepted
  rw [lossy_eq,Except.ok.injEq]
  cases shape with
  | plain nonempty all =>
    have plain := digits_unsigned nonempty all
    rw [if_neg (fun minus => plain (.inr minus.2)),weigh_spelled all,zero_mul,zero_add,value]
    simp [plain]
  | @plus digits nonempty all =>
    have behind : ¬ (ty.signed = true ∧ (43 :: digits).head? = some 45) := by
      rintro ⟨_,minus⟩
      cases minus
    rw [if_neg behind,weigh_cons,weigh_spelled all,wrap_eq_iff value]
    have plus : (0 : Int)*10+(((43 : UInt8).toNat : Int)-48) = -5 := by decide
    rw [plus,sign_vanishes (by decide),List.length_cons,Nat.lt_succ_iff]
    simp [Signed]
  | minus nonempty all negative =>
    rw [if_pos ⟨negative,rfl⟩,weigh_cons,weigh_spelled all,wrap_eq_iff value]
    have minus : (0 : Int)*10+(((45 : UInt8).toNat : Int)-48) = -3 := by decide
    rw [minus,neg_add,← neg_mul,neg_neg,sign_vanishes (by decide),List.length_cons,Nat.lt_succ_iff]
    simp [Signed]

end IntType

namespace TagU32
open IntType

theorem lossy_u32 (data : Bytes) : ∃ x < U32, IntType.u32.deserialize_lossy data = .ok (x : Int) ∧ (x : Int) = weigh 0 data % U32 := by
  have positive : (0 : Int) < U32 := by decide
  have nonneg := Int.emod_nonneg (weigh 0 data) positive.ne'
  have below := Int.emod_lt_of_pos (weigh 0 data) positive
  refine ⟨(weigh 0 data % U32).toNat,by omega,?_,Int.toNat_of_nonneg nonneg⟩
  rw [IntType.lossy_eq,Int.toNat_of_nonneg nonneg]
  rfl

/-- A text for the tag one is not folded to zero. -/
theorem one_not_zero {data : Bytes} (accepted : Accepted .u32 data 1) : weigh 0 data % U32 ≠ 0 := by
  generalize one : (1 : Int) = v at accepted
  cases accepted with
  | plain nonempty all =>
    rw [weigh_spelled all,← one,zero_mul]
    decide
  | @plus digits nonempty all =>
    obtain ⟨first,rest,rfl⟩ := List.exists_cons_of_ne_nil nonempty
    rw [weigh_cons,weigh_spelled all,← one,List.length_cons,pow_succ]
    have size : (U32 : Int) = 4294967296 := rfl
    have plus : (0 : Int)*10+(((43 : UInt8).toNat : Int)-48) = -5 := by decide
    rw [size,plus]
    omega
  | minus nonempty all negative => cases negative

theorem deserialize_lossy_agrees {data : Bytes} {tag : TagU32} (accepted : TagU32.deserialize data = .ok tag) :
    TagU32.deserialize_lossy data = .ok tag ↔ ¬ Signed data ∨ 32 < data.length := by
  obtain ⟨n,strict,same⟩ : ∃ n : Int, IntType.u32.deserialize data = .ok n ∧ n.toNat = tag.get := by
    unfold TagU32.deserialize at accepted
    split at accepted
    · cases accepted
    · rename_i n strict
      refine ⟨n,strict,?_⟩
      split at accepted
      · rename_i found made
        cases accepted
        exact new_some.mp made
      · cases accepted
  obtain ⟨shape,_⟩ := deserialize_accepted strict
  have tagged := tag.pos
  have number : n = tag.get := by omega
  obtain ⟨x,small,folded,weight⟩ := lossy_u32 data
  have lossy : TagU32.deserialize_lossy data = .ok tag ↔ max x 1 = tag.get := by
    have wide : max x 1 < U32 := max_lt small (by decide)
    have made : TagU32.new (max x 1) = some ⟨max x 1,by omega,wide⟩ := new_some.mpr rfl
    unfold TagU32.deserialize_lossy
    rw [folded]
    dsimp only
    rw [Int.toNat_natCast,made,Except.ok.injEq]
    constructor
    · intro equal
      exact congrArg TagU32.get equal
    · intro equal
      exact Option.some.inj (made.symm.trans (new_some.mpr equal))
  have agrees : IntType.u32.deserialize_lossy data = .ok n ↔ ¬ Signed data ∨ 32 < data.length := IntType.lossy_agrees strict
  rw [lossy,← agrees,folded,Except.ok.injEq,number,Int.ofNat_inj]
  constructor
  · intro equal
    by_cases zero : x = 0
    · have one : tag.get = 1 := by omega
      rw [number,one] at shape
      exact absurd (weight.symm.trans (by omega)) (one_not_zero shape)
    · omega
  · intro equal
    omega

end TagU32

/-- The lossy readers of all integer types and of tags agree with the strict ones on an
    accepted text if and only if it has no sign, or as many digits as the type has bits. -/
theorem lossy_agrees_iff (data : Bytes) :
    (∀ (ty : IntType) (v : Int), ty.deserialize data = .ok v →
      (ty.deserialize_lossy data = .ok v ↔ ¬ Signed data ∨ ty.width < data.length)) ∧
    ∀ tag : TagU32, TagU32.deserialize data = .ok tag →
      (TagU32.deserialize_lossy data = .ok tag ↔ ¬ Signed data ∨ 32 < data.length) :=
  ⟨fun _ _ accepted => IntType.lossy_agrees accepted,fun _ accepted => TagU32.deserialize_lossy_agrees accepted⟩

/-- Minus one, as a number and as its lossy reading. -/
theorem minus_one_lossy : IntType.i32.deserialize (ascii "-1") = .ok (-1) ∧ ¬ IntType.i32.deserialize_lossy (ascii "-1") = .ok (-1) := by
  refine ⟨rfl,?_⟩
  rw [(lossy_agrees_iff (ascii "-1")).1 .i32 (-1) rfl]
  rintro (plain | long)
  · exact plain (.inr rfl)
  · exact absurd long (by decide)

/-- The lossy reading of `-1` is 29. -/
theorem lossy_disagrees : ¬ ∀ (ty : IntType) (data : Bytes) (v : Int), ty.deserialize data = .ok v → ty.deserialize_lossy data = .ok v := by
  intro always
  have read := always .i32 (ascii "-1") (-1) rfl
  have other : IntType.i32.deserialize_lossy (ascii "-1") = .ok 29 := rfl
  rw [other] at read
  cases read

end HotFix
