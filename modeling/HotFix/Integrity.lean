import HotFix.Sections

/-!
What the integrity check promises and what it does. A frame is exact when its tags
and its length are spelled in digits and its last seven bytes are the CheckSum of
all bytes before them. The check reads tags by arithmetic on any bytes, takes a
plus sign before the length, and compares the checksum only if it reads as three
digits, modulo 256.
-/
namespace HotFix

/-! ### Checksums -/

namespace CheckSum

def byte_sum (bytes : Bytes) : Nat := (bytes.map UInt8.toNat).sum

private theorem compute_from (bytes : Bytes) (start : UInt8) :
    (bytes.foldl (fun value byte => value + byte) start).toNat = (start.toNat + byte_sum bytes) % 256 := by
  induction bytes generalizing start with
  | nil =>
    have := start.toNat_lt
    simp [byte_sum]
  | cons byte rest ih =>
    rw [List.foldl_cons,ih,UInt8.toNat_add]
    simp only [byte_sum,List.map_cons,List.sum_cons]
    omega

/-- The computed checksum is the sum of the bytes modulo 256. -/
theorem compute_toNat (bytes : Bytes) : (compute bytes).toNat = byte_sum bytes % 256 := by
  rw [compute,compute_from]
  simp

private theorem digit_bounds {byte : UInt8} (digit : Decimal.isDigit byte = true) : 48 ≤ byte.toNat ∧ byte.toNat ≤ 57 := by
  simpa [Decimal.isDigit] using digit

theorem digit_value {byte : UInt8} (digit : Decimal.isDigit byte = true) : (byte - 48).toNat = byte.toNat - 48 := by
  have bounds := digit_bounds digit
  have above : (48 : UInt8) ≤ byte := UInt8.le_iff_toNat_le.mpr bounds.1
  exact UInt8.toNat_sub_of_le byte 48 above

/-- Three digits are read modulo 256. -/
theorem deserialize_digits {digits : Bytes} (three : digits.length = 3) (all : digits.all Decimal.isDigit = true) :
    ∃ value, deserialize digits = some value ∧ value.toNat = Decimal.value digits % 256 := by
  obtain ⟨a,b,c,rfl⟩ := List.length_eq_three.mp three
  simp only [List.all_cons,List.all_nil,Bool.and_true,Bool.and_eq_true] at all
  obtain ⟨digit_a,digit_b,digit_c⟩ := all
  refine ⟨(a - 48) * 100 + (b - 48) * 10 + (c - 48),by simp [deserialize,digit_a,digit_b,digit_c],?_⟩
  simp only [UInt8.toNat_add,UInt8.toNat_mul,digit_value digit_a,digit_value digit_b,digit_value digit_c,Decimal.value,
    List.foldl_cons,List.foldl_nil,UInt8.reduceToNat]
  omega

theorem deserialize_length {data : Bytes} {value : UInt8} (reads : deserialize data = some value) : data.length = 3 := by
  match data with
  | [] => cases reads
  | [_] => cases reads
  | [_,_] => cases reads
  | [_,_,_] => rfl
  | _ :: _ :: _ :: _ :: _ => cases reads

private theorem digit_to_ascii_toNat {n : Nat} (below : n < 10) : (digit_to_ascii n).toNat = n + 48 := by
  simp only [digit_to_ascii,Nat.toUInt8,UInt8.toNat_ofNat']
  omega

/-- Three digits spell a number below a thousand. -/
theorem three_digits_spells {n : Nat} (below : n < 1000) :
    (Message.three_digits n).all Decimal.isDigit = true ∧ Decimal.value (Message.three_digits n) = n := by
  have first : (digit_to_ascii (n/100%10)).toNat = n/100%10 + 48 := digit_to_ascii_toNat (by omega)
  have second : (digit_to_ascii (n/10%10)).toNat = n/10%10 + 48 := digit_to_ascii_toNat (by omega)
  have third : (digit_to_ascii (n%10)).toNat = n%10 + 48 := digit_to_ascii_toNat (by omega)
  constructor
  · simp only [Message.three_digits,List.all_cons,List.all_nil,Decimal.isDigit,first,second,third,Bool.and_true,
      Bool.and_eq_true,decide_eq_true_eq]
    omega
  · simp only [Message.three_digits,Decimal.value,List.foldl_cons,List.foldl_nil,first,second,third]
    omega

/-- and are the only three digits that do. -/
theorem three_digits_unique {digits : Bytes} (three : digits.length = 3) (all : digits.all Decimal.isDigit = true) :
    Message.three_digits (Decimal.value digits) = digits := by
  obtain ⟨a,b,c,rfl⟩ := List.length_eq_three.mp three
  simp only [List.all_cons,List.all_nil,Bool.and_true,Bool.and_eq_true] at all
  obtain ⟨digit_a,digit_b,digit_c⟩ := all
  have a_bounds := digit_bounds digit_a
  have b_bounds := digit_bounds digit_b
  have c_bounds := digit_bounds digit_c
  simp only [Message.three_digits,Decimal.value,List.foldl_cons,List.foldl_nil,List.cons.injEq,and_true]
  refine ⟨?_,?_,?_⟩
  · rw [← UInt8.toNat_inj,digit_to_ascii_toNat (by omega)]
    omega
  · rw [← UInt8.toNat_inj,digit_to_ascii_toNat (by omega)]
    omega
  · rw [← UInt8.toNat_inj,digit_to_ascii_toNat (by omega)]
    omega

end CheckSum

/-! ### Exact frames -/

/-- A field as it is written. -/
def written (separator : UInt8) (text value : Bytes) : Bytes := text ++ 61 :: (value ++ [separator])

/-- A frame in its parts: BeginString, BodyLength, a body that starts with MsgType,
    and the checksum. -/
structure ExactFrame (separator : UInt8) (data text₁ value₁ text₂ value₂ text₃ value₃ rest front : Bytes) : Prop where
  begins : front = written separator text₁ value₁ ++ (written separator text₂ value₂ ++
    (written separator text₃ value₃ ++ rest))
  ends : data = front ++ ([49,48,61] ++ Message.three_digits (CheckSum.byte_sum front % 256) ++ [separator])
  begin_string : Spells text₁ BEGIN_STRING.tag
  body_length : Spells text₂ BODY_LENGTH.tag
  msg_type : Spells text₃ MSG_TYPE.tag
  values : separator ∉ value₁ ∧ separator ∉ value₂ ∧ separator ∉ value₃
  length_digits : value₂.all Decimal.isDigit = true
  length : Decimal.value value₂ = (written separator text₃ value₃ ++ rest).length

/-- What the integrity check is for. -/
def Exact (separator : UInt8) (data : Bytes) : Prop :=
  ∃ text₁ value₁ text₂ value₂ text₃ value₃ rest front,
    ExactFrame separator data text₁ value₁ text₂ value₂ text₃ value₃ rest front

/-- The tag text at a position. -/
def tag_text (data : Bytes) (position : Nat) : Bytes := (data.drop position).takeWhile (fun c => c ≠ 61)

namespace MessageBuilder
variable {arith : Arith} {config : Config} {data : Bytes}

/-- The check accepts the frame. -/
def Accepts (arith : Arith) (config : Config) (data : Bytes) : Prop :=
  ∃ header trailer parser, verify_integrity arith ⟨0,data,config⟩ = .ok (header,trailer,parser)

/-- A framing that takes no liberty of the parser: the tags and the length are
    spelled in digits, MsgType ends within the body, and the checksum is three
    digits below 256 that are read as such. -/
structure Plain (separator : UInt8) (data : Bytes) (body_length : Field) (p₁ p₂ p₃ : Parser) (body_end : Nat) :
    Prop where
  first : Spells (tag_text data 0) BEGIN_STRING.tag
  second : Spells (tag_text data p₁.position) BODY_LENGTH.tag
  third : Spells (tag_text data p₂.position) MSG_TYPE.tag
  length_digits : body_length.data.all Decimal.isDigit = true
  apart : p₃.position ≤ body_end
  last : ∃ digits, data.drop body_end = [49,48,61] ++ digits ++ [separator] ∧ digits.length = 3 ∧
    digits.all Decimal.isDigit = true ∧ Decimal.value digits < 256 ∧
    (separator ∈ digits → digits = Message.three_digits (CheckSum.byte_sum (data.take body_end) % 256))

/-- Every framing of the data is plain, or its checksum reads as three digits that
    do not agree. -/
def OnlyPlain (arith : Arith) (config : Config) (data : Bytes) : Prop :=
  ∀ begin_string body_length msg_type checksum p₁ p₂ p₃ n body_end,
    Framing arith config data begin_string body_length msg_type checksum p₁ p₂ p₃ n body_end →
    SumAgrees data body_end checksum → Plain config.separator data body_length p₁ p₂ p₃ body_end

theorem accepts_iff : Accepts arith config data ↔
    ∃ begin_string body_length msg_type checksum p₁ p₂ p₃ n body_end,
      Framing arith config data begin_string body_length msg_type checksum p₁ p₂ p₃ n body_end ∧
      SumAgrees data body_end checksum := by
  constructor
  · rintro ⟨header,trailer,parser,accepted⟩
    obtain ⟨begin_string,body_length,msg_type,checksum,p₁,p₂,n,body_end,framing,agrees,_⟩ := verify_integrity_ok.mp accepted
    exact ⟨begin_string,body_length,msg_type,checksum,p₁,p₂,parser,n,body_end,framing,agrees⟩
  · rintro ⟨begin_string,body_length,msg_type,checksum,p₁,p₂,p₃,n,body_end,framing,agrees⟩
    exact ⟨_,_,p₃,verify_integrity_ok.mpr
      ⟨begin_string,body_length,msg_type,checksum,p₁,p₂,n,body_end,framing,agrees,rfl,rfl⟩⟩

theorem accepts_of_toBool (passes : (verify_integrity arith ⟨0,data,config⟩).toBool = true) : Accepts arith config data := by
  rcases found : verify_integrity arith ⟨0,data,config⟩ with e | ⟨header,trailer,parser⟩
  · rw [found] at passes
    cases passes
  · exact ⟨header,trailer,parser,found⟩

theorem tag_text_eq {separator : UInt8} {text value tail : Bytes} {position : Nat}
    (at_field : FieldAt separator (data.drop position) text value tail) : tag_text data position = text := by
  rw [tag_text,at_field.splits,takeWhile_first at_field.text_ends]

/-- A written field is read where it stands. -/
theorem field_at_written {separator : UInt8} {bytes text value tail : Bytes} {tag : TagU32} (spells : Spells text tag)
    (free : separator ∉ value) (splits : bytes = written separator text value ++ tail) :
    FieldAt separator bytes text value tail :=
  ⟨by simp [splits,written],spells.no_equal_sign,free⟩

/-- A field that is read stands written there. -/
theorem written_at {separator : UInt8} {text value tail : Bytes} {position : Nat}
    (at_field : FieldAt separator (data.drop position) text value tail) :
    data.drop position = written separator text value ++ data.drop (position + text.length + value.length + 2) := by
  rw [at_field.behind,at_field.splits]
  simp [written]

theorem usize_add_small {a b : Nat} (small : a + b < U64) : usize_add arith a b = .ok (a + b) := by
  cases arith with
  | exact => rw [usize_add,if_pos small]
  | wrapping => rw [usize_add,Nat.mod_eq_of_lt small]

theorem written_length (separator : UInt8) (text value : Bytes) :
    (written separator text value).length = text.length + value.length + 2 := by
  simp [written]
  omega

theorem ten_spells : Spells [49,48] CHECK_SUM.tag := by
  constructor <;> decide

/-- The field that is read at a written checksum. -/
theorem checksum_at {separator : UInt8} {digits : Bytes} {position : Nat}
    (ends : data.drop position = [49,48,61] ++ digits ++ [separator]) :
    ∃ value tail, FieldAt separator (data.drop position) [49,48] value tail ∧ digits ++ [separator] = value ++ separator :: tail := by
  obtain ⟨value,tail,splits,free⟩ := List.eq_append_cons_of_mem (show separator ∈ digits ++ [separator] by simp)
  refine ⟨value,tail,⟨?_,by decide,free⟩,splits⟩
  rw [ends,List.append_assoc,splits]
  rfl

/-- An exact frame is framed plainly, and its checksum agrees. -/
theorem exact_framing {text₁ value₁ text₂ value₂ text₃ value₃ rest front : Bytes} (short : data.length < U32)
    (frame : ExactFrame config.separator data text₁ value₁ text₂ value₂ text₃ value₃ rest front) :
    ∃ begin_string body_length msg_type checksum p₁ p₂ p₃ n body_end,
      Framing arith config data begin_string body_length msg_type checksum p₁ p₂ p₃ n body_end ∧
      SumAgrees data body_end checksum ∧ Plain config.separator data body_length p₁ p₂ p₃ body_end := by
  have drop_front : data.drop front.length =
      [49,48,61] ++ Message.three_digits (CheckSum.byte_sum front % 256) ++ [config.separator] := by
    rw [frame.ends,List.drop_left]
  have take_front : data.take front.length = front := by
    rw [frame.ends,List.take_left]
  have length : data.length = front.length + 7 := by
    rw [frame.ends]
    simp [Message.three_digits]
  have front_length := congrArg List.length frame.begins
  simp only [List.length_append,written_length] at front_length
  have body := frame.length
  rw [List.length_append,written_length] at body
  have at₁ : FieldAt config.separator (data.drop 0) text₁ value₁ _ := field_at_written frame.begin_string frame.values.1 (by
    rw [List.drop_zero,frame.ends,frame.begins,List.append_assoc])
  have at₂ : FieldAt config.separator (data.drop (0 + text₁.length + value₁.length + 2)) text₂ value₂ _ :=
    field_at_written frame.body_length frame.values.2.1 (by rw [at₁.behind,List.append_assoc])
  have at₃ : FieldAt config.separator
      (data.drop (0 + text₁.length + value₁.length + 2 + text₂.length + value₂.length + 2)) text₃ value₃ _ :=
    field_at_written frame.msg_type frame.values.2.2 (by rw [at₂.behind,List.append_assoc])
  obtain ⟨value,tail,at_sum,read⟩ := checksum_at drop_front
  have fits : data.length < U64 := short.trans (by decide)
  have nonempty : value₂ ≠ [] := by
    rintro rfl
    have none : Decimal.value [] = 0 := rfl
    omega
  have parsed : Decimal.parseBelow U64 value₂ = some (Decimal.value value₂) := by
    rw [Decimal.parseBelow_digits frame.length_digits nonempty,if_pos (by omega)]
  have body_end : 0 + text₁.length + value₁.length + 2 + text₂.length + value₂.length + 2 + Decimal.value value₂ =
    front.length := by omega
  have spelled := CheckSum.three_digits_spells (show CheckSum.byte_sum front % 256 < 1000 by omega)
  refine ⟨⟨_,value₁⟩,⟨_,value₂⟩,⟨_,value₃⟩,⟨CHECK_SUM.tag,value⟩,_,_,_,_,front.length,
    ⟨Parser.next_field_spelled at₁ frame.begin_string,rfl,Parser.next_field_spelled at₂ frame.body_length,rfl,parsed,
      ?_,?_,?_,rfl,Parser.next_field_spelled at₃ frame.msg_type,rfl⟩,?_,⟨?_,?_,?_,frame.length_digits,?_,?_⟩⟩
  · rw [usize_add_small (by rw [body_end]; omega),body_end]
  · rw [usize_add_small (by rw [CHECKSUM_LENGTH]; omega),length]
    rfl
  · have found := @Parser.parse_field_at_field arith
      ⟨0 + text₁.length + value₁.length + 2 + text₂.length + value₂.length + 2,data,config⟩ _ _ _ _ at_sum
    rw [tag_from_bytes_spelled arith ten_spells] at found
    exact ⟨_,found⟩
  · -- a checksum that reads as one is all of the written digits
    intro sum reads
    have three := CheckSum.deserialize_length reads
    dsimp only at three reads
    obtain ⟨rfl,_⟩ := List.append_inj read (by simp [Message.three_digits,three])
    obtain ⟨sum',reads',number⟩ := CheckSum.deserialize_digits three spelled.1
    rw [reads',Option.some.injEq] at reads
    rw [take_front,← reads,← UInt8.toNat_inj,CheckSum.compute_toNat,number,spelled.2,Nat.mod_mod]
  · rw [tag_text_eq at₁]
    exact frame.begin_string
  · rw [tag_text_eq at₂]
    exact frame.body_length
  · rw [tag_text_eq at₃]
    exact frame.msg_type
  · dsimp only
    omega
  · refine ⟨_,drop_front,rfl,spelled.1,by omega,fun _ => by rw [take_front]⟩

/-- The data has one framing. -/
theorem Framing.unique {begin_string body_length msg_type checksum begin_string' body_length' msg_type' checksum' : Field}
    {p₁ p₂ p₃ p₁' p₂' p₃' : Parser} {n n' body_end body_end' : Nat}
    (framing : Framing arith config data begin_string body_length msg_type checksum p₁ p₂ p₃ n body_end)
    (other : Framing arith config data begin_string' body_length' msg_type' checksum' p₁' p₂' p₃' n' body_end') :
    body_length = body_length' ∧ p₁ = p₁' ∧ p₂ = p₂' ∧ p₃ = p₃' ∧ body_end = body_end' := by
  obtain ⟨_,rfl⟩ : begin_string = begin_string' ∧ p₁ = p₁' := by
    simpa using framing.first.symm.trans other.first
  obtain ⟨rfl,rfl⟩ : body_length = body_length' ∧ p₂ = p₂' := by
    simpa using framing.second.symm.trans other.second
  obtain ⟨_,rfl⟩ : msg_type = msg_type' ∧ p₃ = p₃' := by
    simpa using framing.third.symm.trans other.third
  obtain rfl : n = n' := Option.some.inj (framing.length.symm.trans other.length)
  exact ⟨rfl,rfl,rfl,rfl,Except.ok.inj (framing.body_ends.symm.trans other.body_ends)⟩

/-- A sum that does not wrap below its first summand is the sum. -/
theorem usize_add_above {a b total : Nat} (sum : usize_add arith a b = .ok total) (a_fits : a < U64) (b_fits : b < U64)
    (above : a ≤ total) : a + b = total := by
  cases arith with
  | exact =>
    rw [usize_add] at sum
    split_ifs at sum
    exact Except.ok.inj sum
  | wrapping =>
    have wrapped : (a + b) % U64 = total := Except.ok.inj sum
    by_cases small : a + b < U64
    · rwa [Nat.mod_eq_of_lt small] at wrapped
    · rw [Nat.mod_eq_sub_mod (by omega),Nat.mod_eq_of_lt (by omega)] at wrapped
      omega

/-- Three digits below 256 that are read as the checksum and agree are the sum. -/
theorem sum_of_digits {p : Parser} {digits : Bytes} {checksum : Field} {body_end end_position : Nat} (same : p.raw_data = data)
    (ends : data.drop body_end = [49,48,61] ++ digits ++ [p.config.separator]) (three : digits.length = 3)
    (all : digits.all Decimal.isDigit = true) (below : Decimal.value digits < 256) (free : p.config.separator ∉ digits)
    (last : p.parse_field_at arith body_end = .ok (some (checksum,end_position))) (agrees : SumAgrees data body_end checksum) :
    digits = Message.three_digits (CheckSum.byte_sum (data.take body_end) % 256) := by
  subst same
  have at_sum : FieldAt p.config.separator (p.raw_data.drop body_end) [49,48] digits [] :=
    ⟨by rw [ends]; simp,by decide,free⟩
  have found := @Parser.parse_field_at_field arith p _ _ _ _ at_sum
  rw [last,tag_from_bytes_spelled arith ten_spells] at found
  have read : checksum.data = digits := by
    cases found
    rfl
  obtain ⟨sum,reads,number⟩ := CheckSum.deserialize_digits three all
  have computed := congrArg UInt8.toNat (agrees sum (by rw [read]; exact reads))
  rw [CheckSum.compute_toNat,number,Nat.mod_eq_of_lt below] at computed
  rw [computed,CheckSum.three_digits_unique three all]

/-- A plain framing whose checksum agrees is that of an exact frame. -/
theorem exact_of_plain {begin_string body_length msg_type checksum : Field} {p₁ p₂ p₃ : Parser} {n body_end : Nat}
    (short : data.length < U32)
    (framing : Framing arith config data begin_string body_length msg_type checksum p₁ p₂ p₃ n body_end)
    (agrees : SumAgrees data body_end checksum) (plain : Plain config.separator data body_length p₁ p₂ p₃ body_end) :
    Exact config.separator data := by
  obtain ⟨text₁,_,at₁,_,rfl⟩ := Parser.next_field_some (Nat.zero_le _) framing.first
  obtain ⟨_,_,_,inside₁⟩ := Parser.next_field_moves (Nat.zero_le _) framing.first
  obtain ⟨text₂,_,at₂,_,rfl⟩ := Parser.next_field_some inside₁ framing.second
  obtain ⟨_,_,_,inside₂⟩ := Parser.next_field_moves inside₁ framing.second
  obtain ⟨text₃,tail,at₃,_,rfl⟩ := Parser.next_field_some inside₂ framing.third
  obtain ⟨digits,ends,three,all,below,cut⟩ := plain.last
  have first := plain.first
  have second := plain.second
  have third := plain.third
  have apart := plain.apart
  dsimp only at at₁ at₂ at₃ second third apart
  rw [tag_text_eq at₁] at first
  rw [tag_text_eq at₂] at second
  rw [tag_text_eq at₃] at third
  obtain ⟨p₃,third_ends⟩ : ∃ p₃, 0 + text₁.length + begin_string.data.length + 2 + text₂.length + body_length.data.length + 2 +
    text₃.length + msg_type.data.length + 2 = p₃ := ⟨_,rfl⟩
  rw [third_ends] at apart
  have length : body_end + 7 = data.length := by
    have seven := congrArg List.length ends
    simp only [List.length_drop,List.length_append,List.length_cons,List.length_nil,three] at seven
    omega
  -- the body ends where the checksum starts
  have fits : data.length < U64 := short.trans (by decide)
  have body_ends := usize_add_above framing.body_ends (by dsimp only; omega) (Decimal.parseBelow_lt framing.length)
    (by dsimp only; omega)
  dsimp only at body_ends
  have number := framing.length
  rw [Decimal.parseBelow_digits plain.length_digits (Decimal.parseBelow_ne_nil number)] at number
  split_ifs at number
  rw [Option.some.injEq] at number
  have rest_ends : data.drop p₃ = (data.drop p₃).take (body_end - p₃) ++ data.drop body_end := by
    conv_lhs => rw [← List.take_append_drop (body_end - p₃) (data.drop p₃)]
    rw [List.drop_drop,show p₃ + (body_end - p₃) = body_end by omega]
  have splits : data = (written config.separator text₁ begin_string.data ++
      (written config.separator text₂ body_length.data ++ (written config.separator text₃ msg_type.data ++
        (data.drop p₃).take (body_end - p₃)))) ++ data.drop body_end := by
    conv_lhs => rw [← @List.drop_zero _ data,written_at at₁,written_at at₂,written_at at₃,third_ends,rest_ends]
    simp only [List.append_assoc]
  have front_length : (written config.separator text₁ begin_string.data ++
      (written config.separator text₂ body_length.data ++ (written config.separator text₃ msg_type.data ++
        (data.drop p₃).take (body_end - p₃)))).length = body_end := by
    have total := congrArg List.length splits
    rw [List.length_append,List.length_drop] at total
    omega
  have front := congrArg (List.take body_end) splits
  rw [List.take_left' front_length] at front
  refine ⟨text₁,begin_string.data,text₂,body_length.data,text₃,msg_type.data,_,data.take body_end,
    front,?_,first,second,third,⟨at₁.data_ends,at₂.data_ends,at₃.data_ends⟩,plain.length_digits,?_⟩
  · have sum : digits = Message.three_digits (CheckSum.byte_sum (data.take body_end) % 256) := by
      obtain ⟨end_position,last⟩ := framing.last
      by_cases member : config.separator ∈ digits
      · exact cut member
      · exact sum_of_digits rfl ends three all below member last agrees
    rw [← sum,← ends,List.take_append_drop]
  · rw [number]
    simp only [List.length_append,written_length] at front_length ⊢
    omega

/-- The check accepts exactly the exact frames if and only if the parser takes no
    liberty with the data. -/
theorem accepts_exact_iff (arith : Arith) (config : Config) {data : Bytes} (short : data.length < U32) :
    (Accepts arith config data ↔ Exact config.separator data) ↔ OnlyPlain arith config data := by
  constructor
  · intro exact_only begin_string body_length msg_type checksum p₁ p₂ p₃ n body_end framing agrees
    have accepted := accepts_iff.mpr ⟨begin_string,body_length,msg_type,checksum,p₁,p₂,p₃,n,body_end,framing,agrees⟩
    obtain ⟨text₁,value₁,text₂,value₂,text₃,value₃,rest,front,frame⟩ := exact_only.mp accepted
    obtain ⟨_,_,_,_,_,_,_,_,_,framing',_,plain⟩ := @exact_framing arith _ _ _ _ _ _ _ _ _ _ short frame
    obtain ⟨rfl,rfl,rfl,rfl,rfl⟩ := framing.unique framing'
    exact plain
  · intro only_plain
    constructor
    · intro accepted
      obtain ⟨begin_string,body_length,msg_type,checksum,p₁,p₂,p₃,n,body_end,framing,agrees⟩ := accepts_iff.mp accepted
      exact exact_of_plain short framing agrees
        (only_plain begin_string body_length msg_type checksum p₁ p₂ p₃ n body_end framing agrees)
    · rintro ⟨text₁,value₁,text₂,value₂,text₃,value₃,rest,front,frame⟩
      obtain ⟨_,_,_,_,_,_,_,_,_,framing,agrees,_⟩ := @exact_framing arith _ _ _ _ _ _ _ _ _ _ short frame
      exact accepts_iff.mpr ⟨_,_,_,_,_,_,_,_,_,framing,agrees⟩

theorem plain_news_exact_iff : (ascii "8=F|9=10|35=B|58=x|10=139|").length < U32 ∧
    ((Accepts .exact SmallDictionary.config (ascii "8=F|9=10|35=B|58=x|10=139|") ↔
      Exact 124 (ascii "8=F|9=10|35=B|58=x|10=139|")) ↔
      OnlyPlain .exact SmallDictionary.config (ascii "8=F|9=10|35=B|58=x|10=139|")) :=
  ⟨by decide,accepts_exact_iff .exact SmallDictionary.config (by decide)⟩

/-- A checksum that is not a number passes. -/
theorem letters_accepted : ¬ ∀ (config : Config) (data : Bytes), data.length < U32 →
    (Accepts .exact config data ↔ Exact config.separator data) := by
  intro exact_only
  have accepted : Accepts .exact SmallDictionary.config (ascii "8=F|9=5|35=B|10=abc|") := accepts_of_toBool (by decide +kernel)
  obtain ⟨_,_,_,_,_,_,_,front,frame⟩ := (exact_only SmallDictionary.config _ (by decide)).mp accepted
  -- the byte in front of the last separator is a digit
  have spelled := (CheckSum.three_digits_spells (show CheckSum.byte_sum front % 256 < 1000 by omega)).1
  have letter := congrArg (fun bytes : Bytes => bytes.reverse[1]?) frame.ends
  simp only [Message.three_digits,List.reverse_append,List.reverse_cons,List.reverse_nil,List.nil_append,List.cons_append,
    List.getElem?_cons_succ,List.getElem?_cons_zero,List.all_cons,Bool.and_eq_true] at letter spelled
  rw [← Option.some.inj letter] at spelled
  exact absurd spelled.2.2.1 (by decide)

end MessageBuilder
end HotFix
