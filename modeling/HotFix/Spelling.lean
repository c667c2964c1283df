import Mathlib.Data.Int.ModEq
import Mathlib.Data.Nat.Prime.Int
import Mathlib.Tactic.Ring
import HotFix.Decimal
import HotFix.Tokens

/-!
Tag texts that are not numbers. The digits of a tag are folded with 32-bit arithmetic,
whatever bytes stand in front of the equal sign. Which texts are read although they
spell no tag depends on whether overflow is checked. Bytes are weighed as if each were a
decimal digit, in the integers; machine arithmetic follows the weight modulo a power of two.
-/
namespace HotFix.Positional

/-! ### Positional folds -/

/-- The bytes behind a number, each counted from the digit zero on. -/
def weigh (start : Int) (bytes : Bytes) : Int := bytes.foldl (fun sofar byte => sofar*10+((byte.toNat : Int)-48)) start

@[simp] theorem weigh_nil (start : Int) : weigh start [] = start := rfl

@[simp] theorem weigh_cons (start : Int) (byte : UInt8) (rest : Bytes) :
    weigh start (byte :: rest) = weigh (start*10+((byte.toNat : Int)-48)) rest := rfl

/-- A number in front counts by its position. -/
theorem weigh_start (start : Int) (bytes : Bytes) : weigh start bytes = start*10^bytes.length + weigh 0 bytes := by
  induction bytes generalizing start with
  | nil => simp
  | cons byte rest ih =>
    rw [weigh_cons,weigh_cons,ih (start*10+((byte.toNat : Int)-48)),ih (0*10+((byte.toNat : Int)-48)),List.length_cons,pow_succ]
    ring

/-- Digits are weighed as the number they spell. -/
theorem weigh_digits {bytes : Bytes} (digits : ∀ byte ∈ bytes, 48 ≤ byte.toNat) : weigh 0 bytes = Decimal.value bytes := by
  have from_start (start : Nat) : weigh start bytes = (bytes.foldl (fun sofar byte => 10*sofar+(byte.toNat-48)) start : Nat) := by
    induction bytes generalizing start with
    | nil => rfl
    | cons byte rest ih =>
      have low := digits byte List.mem_cons_self
      have step : (start : Int)*10+((byte.toNat : Int)-48) = ((10*start+(byte.toNat-48) : Nat) : Int) := by omega
      rw [weigh_cons,step,List.foldl_cons]
      exact ih (fun other later => digits other (List.mem_cons_of_mem _ later)) _
  exact from_start 0

/-- A fold whose steps agree with weighing modulo `M` agrees with the weight. -/
theorem fold_modEq {M : Int} {step : Int → UInt8 → Int}
    (agrees : ∀ n byte, step n byte ≡ n*10+((byte.toNat : Int)-48) [ZMOD M]) (bytes : Bytes) {start start' : Int}
    (same : start ≡ start' [ZMOD M]) : bytes.foldl step start ≡ weigh start' bytes [ZMOD M] := by
  induction bytes generalizing start start' with
  | nil => exact same
  | cons byte rest ih => exact ih ((agrees start byte).trans ((same.mul_right 10).add_right _))

theorem weigh_modEq {M start start' : Int} (same : start ≡ start' [ZMOD M]) (bytes : Bytes) :
    weigh start bytes ≡ weigh start' bytes [ZMOD M] := fold_modEq (fun _ _ => Int.ModEq.refl _) bytes same

/-- Numbers above the digits make the weight positive. -/
theorem value_pos {bytes : Bytes} {byte : UInt8} (member : byte ∈ bytes) (above : 48 < byte.toNat) : 0 < Decimal.value bytes := by
  obtain ⟨front,back,rfl⟩ := List.append_of_mem member
  rw [Decimal.value,List.foldl_append,List.foldl_cons]
  exact Nat.lt_of_lt_of_le (by omega) (Decimal.value_grows _ back)

/-- An odd number in front disappears modulo a power of two behind as many digits. -/
theorem odd_pow_ten {w k : Nat} {c : Int} (odd : ¬ (2 : Int) ∣ c) : (2 : Int)^w ∣ c*10^k ↔ w ≤ k := by
  have prime : Prime (2 : Int) := Int.prime_two
  have five : ¬ (2 : Int) ∣ 5^k := fun divides => absurd (prime.dvd_of_dvd_pow divides) (by decide)
  have ten : c*10^k = 2^k*(c*5^k) := by
    rw [show (10 : Int) = 2*5 by rfl,mul_pow]
    ring
  have rest : ¬ (2 : Int) ∣ c*5^k := fun divides => (prime.dvd_or_dvd divides).elim odd five
  rw [ten]
  constructor
  · intro divides
    by_contra below
    obtain ⟨more,split⟩ : ∃ more, w = k + (more + 1) := ⟨w-k-1,by omega⟩
    rw [split,pow_add,pow_succ] at divides
    have cancelled := (mul_dvd_mul_iff_left (pow_ne_zero k (by decide : (2 : Int) ≠ 0))).mp divides
    exact rest ((dvd_mul_left 2 _).trans cancelled)
  · intro enough
    exact (pow_dvd_pow 2 enough).trans (dvd_mul_right _ _)

end HotFix.Positional

namespace HotFix
open Positional

/-- The bytes from the position are a field: digits that spell the tag, an equal sign, a
    value without the separator, and the separator at the end position. -/
def Parser.Token (p : Parser) (position : Nat) (field : Field) (end_position : Nat) : Prop :=
  ∃ text tail, text ≠ [] ∧ Spells text field.tag ∧
    p.raw_data.drop position = text ++ 61 :: (field.data ++ p.config.separator :: tail) ∧ p.config.separator ∉ field.data ∧
    end_position = position + text.length + field.data.length + 1

/-- Reading at a position finds the fields that stand there, and no other. -/
def Parser.TokenizesAt (arith : Arith) (p : Parser) (position : Nat) : Prop :=
  ∀ field end_position, p.parse_field_at arith position = .ok (some (field,end_position)) ↔ p.Token position field end_position

/-- A text in front of an equal sign that is not taken for another tag. With overflow
    checks: digits, or a byte below them, or a number that leaves 32 bits. Without: digits
    of a number of 32 bits, or a weight that is zero on 32 bits. -/
def Unambiguous (arith : Arith) (text : Bytes) : Prop :=
  match arith with
  | .exact => text.all Decimal.isDigit = true ∨ (∃ byte ∈ text, byte.toNat < 48) ∨ U32 ≤ Decimal.value text
  | .wrapping => text.all Decimal.isDigit = true ∧ Decimal.value text < U32 ∨ (U32 : Int) ∣ weigh 0 text

/-! ### The fold of a text -/

theorem isDigit_iff {byte : UInt8} : Decimal.isDigit byte = true ↔ 48 ≤ byte.toNat ∧ byte.toNat ≤ 57 := by
  simp [Decimal.isDigit]

theorem new_some {n : Nat} {tag : TagU32} : TagU32.new n = some tag ↔ n = tag.get := by
  unfold TagU32.new
  split_ifs with valid
  · constructor
    · intro same
      cases same
      rfl
    · rintro rfl
      rfl
  · constructor
    · intro same
      cases same
    · rintro rfl
      exact absurd ⟨tag.pos,tag.fits⟩ valid

theorem tag_digit_exact {tag result : Nat} {byte : UInt8} :
    tag_digit .exact tag byte = .ok result ↔ 48 ≤ byte.toNat ∧ 10*tag+(byte.toNat-48) = result ∧ result < U32 := by
  unfold tag_digit
  dsimp only
  constructor
  · intro read
    split_ifs at read with high low sum
    cases read
    exact ⟨by omega,by omega,by omega⟩
  · rintro ⟨low,rfl,small⟩
    rw [if_neg (by omega),if_neg (by omega),if_neg (by omega),Nat.mul_comm]

theorem digits_exact {text : Bytes} {start result : Nat} (small : start < U32) :
    text.foldlM (tag_digit .exact) start = .ok result ↔ (∀ byte ∈ text, 48 ≤ byte.toNat) ∧
      text.foldl (fun sofar byte => 10*sofar+(byte.toNat-48)) start = result ∧ result < U32 := by
  induction text generalizing start with
  | nil =>
    constructor
    · intro same
      cases same
      exact ⟨List.forall_mem_nil _,rfl,small⟩
    · rintro ⟨_,same,_⟩
      exact congrArg Except.ok same
  | cons byte rest ih =>
    rw [List.foldlM_cons,List.forall_mem_cons,List.foldl_cons]
    constructor
    · intro read
      rcases step : tag_digit .exact start byte with text | next
      · rw [step] at read
        cases read
      · rw [step] at read
        obtain ⟨low,rfl,below⟩ := tag_digit_exact.mp step
        obtain ⟨all,same⟩ := (ih below).mp read
        exact ⟨⟨low,all⟩,same⟩
    · rintro ⟨⟨low,all⟩,same,below⟩
      have less : 10*start+(byte.toNat-48) < U32 := Nat.lt_of_le_of_lt (same ▸ Decimal.value_grows _ rest) below
      rw [tag_digit_exact.mpr ⟨low,rfl,less⟩]
      exact (ih less).mpr ⟨all,same,below⟩

/-- With overflow checks the bytes are at least digits, and weighed as such. -/
theorem tag_exact_iff {text : Bytes} {tag : TagU32} :
    tag_from_bytes .exact text = .ok (some tag) ↔ (∀ byte ∈ text, 48 ≤ byte.toNat) ∧ Decimal.value text = tag.get := by
  have start : 0 < U32 := by decide
  unfold tag_from_bytes
  constructor
  · intro read
    rcases folded : text.foldlM (tag_digit .exact) 0 with message | n
    · rw [folded] at read
      cases read
    · rw [folded] at read
      obtain ⟨all,same,_⟩ := (digits_exact start).mp folded
      exact ⟨all,same.trans (new_some.mp (Except.ok.inj read))⟩
  · rintro ⟨all,same⟩
    rw [(digits_exact start).mpr ⟨all,same,tag.fits⟩]
    exact congrArg Except.ok (new_some.mpr rfl)

theorem digits_wrapping {text : Bytes} {start : Nat} (small : start < U32) :
    ∃ result < U32, text.foldlM (tag_digit .wrapping) start = .ok result ∧ (result : Int) = weigh start text % U32 := by
  induction text generalizing start with
  | nil => exact ⟨start,small,rfl,(Int.emod_eq_of_lt (by omega) (by omega)).symm⟩
  | cons byte rest ih =>
    have below : (start*10+(byte.toNat+U32-48))%U32 < U32 := Nat.mod_lt _ (by decide)
    obtain ⟨result,fits,folded,same⟩ := ih below
    refine ⟨result,fits,?_,?_⟩
    · rw [List.foldlM_cons]
      exact folded
    · have wide : 48 ≤ byte.toNat+U32 := Nat.le_trans (by decide) (Nat.le_add_left U32 _)
      have step : (((start*10+(byte.toNat+U32-48))%U32 : Nat) : Int) ≡ (start : Int)*10+((byte.toNat : Int)-48) [ZMOD U32] := by
        rw [Int.natCast_mod]
        refine (Int.mod_modEq _ _).trans ?_
        have sum : ((start*10+(byte.toNat+U32-48) : Nat) : Int) = (start : Int)*10+((byte.toNat : Int)-48) + (U32 : Int) := by omega
        rw [sum]
        exact Int.add_modEq_right
      exact same.trans (weigh_modEq step rest)

/-- Without overflow checks the weight counts, modulo 2^32. -/
theorem tag_wrapping_iff {text : Bytes} {tag : TagU32} :
    tag_from_bytes .wrapping text = .ok (some tag) ↔ weigh 0 text % U32 = tag.get := by
  obtain ⟨result,_,folded,same⟩ : ∃ result < U32, text.foldlM (tag_digit .wrapping) 0 = .ok result ∧
    (result : Int) = weigh (0 : Nat) text % U32 := digits_wrapping (by decide)
  have same : (result : Int) = weigh 0 text % U32 := same
  unfold tag_from_bytes
  rw [folded,← same]
  constructor
  · intro read
    exact congrArg Nat.cast (new_some.mp (Except.ok.inj read))
  · intro equal
    exact congrArg Except.ok (new_some.mpr (Int.ofNat_inj.mp equal))

/-! ### Which texts are read as other tags -/

/-- Only texts that spell a tag are read as one, if and only if the text is unambiguous. -/
theorem spelled_iff (arith : Arith) (text : Bytes) :
    (∀ tag, tag_from_bytes arith text = .ok (some tag) → Spells text tag) ↔ Unambiguous arith text := by
  cases arith with
  | exact =>
    constructor
    · intro spelled
      by_cases low : ∃ byte ∈ text, byte.toNat < 48
      · exact .inr (.inl low)
      · push Not at low
        by_cases large : U32 ≤ Decimal.value text
        · exact .inr (.inr large)
        · refine .inl ?_
          by_contra other
          obtain ⟨byte,member,odd⟩ : ∃ byte ∈ text, ¬ Decimal.isDigit byte = true := by simpa using other
          rw [isDigit_iff,not_and,Nat.not_le] at odd
          have above := odd (low byte member)
          have positive := value_pos member (by omega)
          have read := tag_exact_iff.mpr ⟨low,show Decimal.value text = (⟨_,positive,Nat.not_le.mp large⟩ : TagU32).get from rfl⟩
          exact other (spelled _ read).1
    · rintro unambiguous tag read
      obtain ⟨low,same⟩ := tag_exact_iff.mp read
      rcases unambiguous with digits | ⟨byte,member,below⟩ | large
      · exact ⟨digits,same⟩
      · exact absurd (low byte member) (Nat.not_le.mpr below)
      · exact absurd tag.fits (Nat.not_lt.mpr (same ▸ large))
  | wrapping =>
    have positive : (0 : Int) < U32 := by decide
    constructor
    · intro spelled
      by_cases vanishes : (U32 : Int) ∣ weigh 0 text
      · exact .inr vanishes
      · refine .inl ?_
        have nonzero : weigh 0 text % U32 ≠ 0 := fun zero => vanishes (Int.dvd_of_emod_eq_zero zero)
        have nonneg := Int.emod_nonneg (weigh 0 text) positive.ne'
        have below := Int.emod_lt_of_pos (weigh 0 text) positive
        have read : tag_from_bytes .wrapping text = .ok (some ⟨(weigh 0 text % U32).toNat,by omega,by omega⟩) :=
          tag_wrapping_iff.mpr (Int.toNat_of_nonneg nonneg).symm
        obtain ⟨digits,same⟩ := spelled _ read
        exact ⟨digits,same ▸ (by omega : (weigh 0 text % U32).toNat < U32)⟩
    · rintro unambiguous tag read
      have same := tag_wrapping_iff.mp read
      rcases unambiguous with ⟨digits,small⟩ | vanishes
      · refine ⟨digits,?_⟩
        have low : ∀ byte ∈ text, 48 ≤ byte.toNat := fun byte member => (isDigit_iff.mp (List.all_eq_true.mp digits byte member)).1
        rw [weigh_digits low,Int.emod_eq_of_lt (by omega) (by omega)] at same
        exact Int.ofNat_inj.mp same
      · rw [Int.emod_eq_zero_of_dvd vanishes] at same
        have tagged := tag.pos
        omega

theorem Spells.nonempty {text : Bytes} {tag : TagU32} (spells : Spells text tag) : text ≠ [] := by
  rintro rfl
  exact absurd tag.pos (spells.2 ▸ Nat.lt_irrefl 0)

/-- A token is a field whose text spells the tag. -/
theorem Parser.token_iff {p : Parser} {position end_position : Nat} {field : Field} :
    p.Token position field end_position ↔ ∃ text tail, FieldAt p.config.separator (p.raw_data.drop position) text field.data tail ∧
      Spells text field.tag ∧ end_position = position + text.length + field.data.length + 1 := by
  constructor
  · rintro ⟨text,tail,_,spells,splits,clean,ends⟩
    exact ⟨text,tail,⟨splits,spells.no_equal_sign,clean⟩,spells,ends⟩
  · rintro ⟨text,tail,at_field,spells,ends⟩
    exact ⟨text,tail,spells.nonempty,spells,at_field.splits,at_field.data_ends,ends⟩

theorem tokenizes_spelled {arith : Arith} {p : Parser} {position : Nat} {text data tail : Bytes}
    (at_field : FieldAt p.config.separator (p.raw_data.drop position) text data tail) :
    p.TokenizesAt arith position ↔ ∀ tag, tag_from_bytes arith text = .ok (some tag) → Spells text tag := by
  have parsed : p.parse_field_at arith position = _ := Parser.parse_field_at_field at_field
  constructor
  · intro tokenizes tag read
    rw [read] at parsed
    obtain ⟨text',tail',other,spells,_⟩ := Parser.token_iff.mp ((tokenizes _ _).mp parsed)
    obtain ⟨rfl,_,_⟩ := at_field.unique other
    exact spells
  · intro spelled field end_position
    rw [Parser.token_iff,parsed]
    constructor
    · intro found
      rcases read : tag_from_bytes arith text with message | _ | tag
      · rw [read] at found
        cases found
      · rw [read] at found
        cases found
      · rw [read] at found
        cases found
        exact ⟨text,tail,at_field,spelled tag read,rfl⟩
    · rintro ⟨text',tail',other,spells,rfl⟩
      obtain ⟨rfl,rfl,_⟩ := at_field.unique other
      rw [tag_from_bytes_spelled arith spells]
      rfl

/-- Reading at a position is exact if and only if the text in front of the equal sign of the
    field that stands there is unambiguous. -/
theorem tokenizes_iff (arith : Arith) (p : Parser) (position : Nat) :
    p.TokenizesAt arith position ↔
      ∀ text data tail, FieldAt p.config.separator (p.raw_data.drop position) text data tail → Unambiguous arith text := by
  rcases field_at_or_none p.config.separator (p.raw_data.drop position) with ⟨text,data,tail,at_field⟩ | nothing
  · rw [tokenizes_spelled at_field,spelled_iff]
    constructor
    · intro unambiguous text' data' tail' other
      obtain ⟨rfl,_,_⟩ := at_field.unique other
      exact unambiguous
    · intro always
      exact always text data tail at_field
  · -- no field stands there, and none is found
    have none_there {text data tail : Bytes} : ¬ FieldAt p.config.separator (p.raw_data.drop position) text data tail :=
      fun at_field => at_field.text_ends (nothing _ _ _ at_field.splits)
    refine ⟨fun _ _ _ _ at_field => absurd at_field none_there,fun _ field end_position => ?_⟩
    rw [Parser.token_iff]
    constructor
    · intro found
      by_cases inside : position ≤ p.raw_data.length
      · rw [Parser.parse_field_at_none inside nothing] at found
        cases found
      · rw [Parser.parse_field_at,if_pos (Nat.not_le.mp inside)] at found
        cases found
    · rintro ⟨text,tail,at_field,_⟩
      exact absurd at_field none_there

/-- The text `1H` is read as the tag 34. -/
theorem sequence_number_alias : ¬ ∀ (arith : Arith) (p : Parser) (position : Nat), p.TokenizesAt arith position := by
  intro always
  have found : (⟨0,ascii "1H=7|",⟨124,true⟩⟩ : Parser).parse_field_at .exact 0 = .ok (some (⟨MSG_SEQ_NUM.tag,ascii "7"⟩,4)) := rfl
  obtain ⟨text,tail,at_field,spells,_⟩ := Parser.token_iff.mp ((always .exact _ 0 _ _).mp found)
  have here : FieldAt 124 (ascii "1H=7|") (ascii "1H") (ascii "7") [] := ⟨rfl,by decide,by decide⟩
  obtain ⟨rfl,_,_⟩ := here.unique at_field
  exact absurd spells.1 (by decide)

end HotFix
