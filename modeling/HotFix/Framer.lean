import HotFix.Cutting
import HotFix.Integrity

/-!
The framer: bytes from the connection are cut into raw messages by the length that
their second field announces. The bytes of the value are folded as digits whatever
they are, and the length wraps on 64 bits.
-/
namespace HotFix

/-- The checksum is always 7 bytes. -/
def FIELD_CHECKSUM_LEN_IN_BYTES : Nat := 7

structure HeaderInfo where
  field_0 : Nat × Nat
  field_1 : Nat × Nat
  nominal_body_len : Nat
  deriving DecidableEq

/-- The position of the byte, and what the iterator has behind it. -/
def find_byte (byte : UInt8) (iterator : Bytes) : Option (Nat × Bytes) :=
  (iterator.findIdx? (fun b => b = byte)).map (fun n => (n,iterator.drop (n + 1)))

/-- One byte more of the announced length, `wrapping_mul` and `wrapping_add`. -/
def body_len_digit (len : Nat) (byte : UInt8) : Nat := (len * 10 % U64 + (byte - 48).toNat) % U64

namespace HeaderInfo

def parse (data : Bytes) (separator : UInt8) : Option HeaderInfo := do
  let (n,iterator) ← find_byte 61 data
  let start₀ := n + 1
  let (n,iterator) ← find_byte separator iterator
  let end₀ := start₀ + n
  let (n,iterator) ← find_byte 61 iterator
  let start₁ := end₀ + 1 + n + 1
  let (n,_) ← find_byte separator iterator
  let end₁ := start₁ + n
  return ⟨(start₀,end₀),(start₁,end₁),((data.drop start₁).take (end₁ - start₁)).foldl body_len_digit 0⟩

def message_length (arith : Arith) (info : HeaderInfo) : Checked Nat := do
  let n ← usize_add arith info.field_1.2 1
  let n ← usize_add arith n info.nominal_body_len
  usize_add arith n FIELD_CHECKSUM_LEN_IN_BYTES

end HeaderInfo

/-- The bytes that have not been cut into messages yet. -/
structure FrameParser where
  buffer : Bytes

namespace FrameParser

def default : FrameParser := ⟨[]⟩

/-- The condition of the loop and of its break: the length of the message that the
    buffer starts with, once it is there. -/
def message_ahead (arith : Arith) (buffer : Bytes) : Checked (Option Nat) :=
  match HeaderInfo.parse buffer SOH with
  | none => .ok none
  | some header_info => do
    let message_length ← header_info.message_length arith
    return if message_length > buffer.length then none else some message_length

/-- The loop, for a number of rounds; `none` is a loop that is still running. -/
def parse_loop (arith : Arith) : Nat → List Bytes → Bytes → Checked (Option (List Bytes × Bytes))
  | 0,_,_ => .ok none
  | rounds + 1,messages,buffer => do
    match ← message_ahead arith buffer with
    | none => return some (messages,buffer)
    | some message_length => parse_loop arith rounds (messages ++ [buffer.take message_length]) (buffer.drop message_length)

def parse (arith : Arith) (rounds : Nat) (data : Bytes) (p : FrameParser) : Checked (Option (List Bytes × FrameParser)) := do
  let ended ← parse_loop arith rounds [] (p.buffer ++ data)
  return ended.map (fun (messages,buffer) => (messages,⟨buffer⟩))

/-- `parse` on one chunk after the other. -/
def feed (arith : Arith) (rounds : Nat) : List Bytes → FrameParser → Checked (Option (List Bytes × FrameParser))
  | [],p => .ok (some ([],p))
  | chunk :: chunks,p => do
    match ← p.parse arith rounds chunk with
    | none => return none
    | some (messages,p) => do
      let later ← feed arith rounds chunks p
      return later.map (fun (more,p) => (messages ++ more,p))

end FrameParser

/-! ### Headers -/

/-- The number that the bytes of a value are folded to. -/
def body_len (value : Bytes) : Nat := value.foldl body_len_digit 0

/-- The buffer starts with two fields of `size` bytes, the second with this value. -/
def Announces (buffer value : Bytes) (size : Nat) : Prop :=
  ∃ text₁ value₁ behind text₂ rest, FieldAt SOH buffer text₁ value₁ behind ∧ FieldAt SOH behind text₂ value rest ∧
    size + rest.length = buffer.length

theorem FieldAt.extend {separator : UInt8} {bytes text data tail : Bytes} (at_field : FieldAt separator bytes text data tail)
    (more : Bytes) : FieldAt separator (bytes ++ more) text data (tail ++ more) :=
  ⟨by rw [at_field.splits]; simp,at_field.text_ends,at_field.data_ends⟩

namespace Announces
variable {buffer value value' : Bytes} {size size' : Nat}

theorem extend (announces : Announces buffer value size) (more : Bytes) : Announces (buffer ++ more) value size := by
  obtain ⟨text₁,value₁,behind,text₂,rest,first,second,sized⟩ := announces
  refine ⟨text₁,value₁,behind ++ more,text₂,rest ++ more,first.extend more,second.extend more,?_⟩
  simp only [List.length_append]
  omega

theorem unique (announces : Announces buffer value size) (other : Announces buffer value' size') :
    value = value' ∧ size = size' := by
  obtain ⟨_,_,_,_,_,first,second,sized⟩ := announces
  obtain ⟨_,_,_,_,_,first',second',sized'⟩ := other
  obtain ⟨rfl,rfl,rfl⟩ := first.unique first'
  obtain ⟨rfl,rfl,rfl⟩ := second.unique second'
  exact ⟨rfl,by omega⟩

end Announces

theorem find_byte_first {byte : UInt8} {front behind : Bytes} (free : byte ∉ front) :
    find_byte byte (front ++ byte :: behind) = some (front.length,behind) := by
  rw [find_byte,findIdx?_first free rfl]
  simp

theorem find_byte_some {byte : UInt8} {bytes behind : Bytes} {n : Nat} (found : find_byte byte bytes = some (n,behind)) :
    ∃ front, bytes = front ++ byte :: behind ∧ byte ∉ front ∧ front.length = n := by
  by_cases there : byte ∈ bytes
  · obtain ⟨front,behind',splits,free⟩ := List.eq_append_cons_of_mem there
    rw [splits,find_byte_first free] at found
    cases found
    exact ⟨front,splits,free,rfl⟩
  · rw [find_byte,findIdx?_none there] at found
    cases found

theorem usize_add_chain (arith : Arith) (a b c d : Nat) :
    (usize_add arith a b >>= fun n => usize_add arith (n + c) d) = usize_add arith (a + b + c) d := by
  cases arith with
  | exact =>
    by_cases small : a + b < U64
    · rw [usize_add,if_pos small]
      rfl
    · rw [usize_add,if_neg small,usize_add,if_neg (by omega)]
      rfl
  | wrapping =>
    refine congrArg Except.ok ?_
    rw [Nat.add_assoc _ c d,Nat.add_assoc _ c d,Nat.mod_add_mod]

namespace HeaderInfo

/-- What is found of a buffer that starts with two fields. -/
theorem parse_fields {buffer text₁ value₁ behind text₂ value₂ rest : Bytes} {separator : UInt8}
    (first : FieldAt separator buffer text₁ value₁ behind) (second : FieldAt separator behind text₂ value₂ rest) :
    ∃ info, parse buffer separator = some info ∧ info.field_1.2 + 1 + rest.length = buffer.length ∧
      info.nominal_body_len = body_len value₂ := by
  have whole : buffer = (text₁ ++ 61 :: (value₁ ++ separator :: (text₂ ++ [61]))) ++ (value₂ ++ separator :: rest) := by
    rw [first.splits,second.splits]
    simp
  have front_length : (text₁ ++ 61 :: (value₁ ++ separator :: (text₂ ++ [61]))).length =
      text₁.length + 1 + value₁.length + 1 + text₂.length + 1 := by
    simp only [List.length_append,List.length_cons,List.length_nil]
    omega
  have value : (buffer.drop (text₁.length + 1 + value₁.length + 1 + text₂.length + 1)).take value₂.length = value₂ := by
    rw [← front_length,whole,List.drop_left,List.take_left]
  have length := congrArg List.length whole
  rw [List.length_append,front_length,List.length_append,List.length_cons] at length
  have ranges : text₁.length + 1 + value₁.length + 1 + text₂.length + 1 + value₂.length -
      (text₁.length + 1 + value₁.length + 1 + text₂.length + 1) = value₂.length := by omega
  refine ⟨⟨(text₁.length + 1,text₁.length + 1 + value₁.length),
    (text₁.length + 1 + value₁.length + 1 + text₂.length + 1,
      text₁.length + 1 + value₁.length + 1 + text₂.length + 1 + value₂.length),body_len value₂⟩,?_,by dsimp only; omega,rfl⟩
  rw [parse]
  conv =>
    lhs
    arg 1
    rw [first.splits,find_byte_first first.text_ends]
  simp only [Option.bind_eq_bind,Option.bind_some,find_byte_first first.data_ends]
  conv =>
    lhs
    arg 1
    rw [second.splits,find_byte_first second.text_ends]
  simp only [Option.bind_some,find_byte_first second.data_ends,ranges,value]
  rfl

theorem parse_some {buffer : Bytes} {separator : UInt8} {info : HeaderInfo} (found : parse buffer separator = some info) :
    ∃ text₁ value₁ behind text₂ value₂ rest, FieldAt separator buffer text₁ value₁ behind ∧
      FieldAt separator behind text₂ value₂ rest := by
  simp only [parse,Option.bind_eq_bind,Option.bind_eq_some_iff,Prod.exists] at found
  obtain ⟨_,_,equal₁,_,behind,separator₁,_,_,equal₂,_,rest,separator₂,_⟩ := found
  obtain ⟨text₁,splits₁,free₁,_⟩ := find_byte_some equal₁
  obtain ⟨value₁,rfl,free₂,_⟩ := find_byte_some separator₁
  obtain ⟨text₂,splits₂,free₃,_⟩ := find_byte_some equal₂
  obtain ⟨value₂,rfl,free₄,_⟩ := find_byte_some separator₂
  exact ⟨text₁,value₁,behind,text₂,value₂,rest,⟨splits₁,free₁,free₂⟩,⟨splits₂,free₃,free₄⟩⟩

/-- The sums of `message_length` in one. -/
theorem message_length_eq (arith : Arith) (info : HeaderInfo) :
    info.message_length arith = usize_add arith (info.field_1.2 + 1 + info.nominal_body_len) FIELD_CHECKSUM_LEN_IN_BYTES := by
  have inner : ∀ n, (usize_add arith n info.nominal_body_len >>= fun n => usize_add arith n FIELD_CHECKSUM_LEN_IN_BYTES) =
      usize_add arith (n + info.nominal_body_len) FIELD_CHECKSUM_LEN_IN_BYTES :=
    fun n => usize_add_chain arith n info.nominal_body_len 0 _
  rw [message_length]
  simp only [inner]
  exact usize_add_chain arith _ 1 info.nominal_body_len _

end HeaderInfo

namespace FrameParser
variable {arith : Arith} {buffer value : Bytes} {size : Nat}

theorem message_ahead_announced (announces : Announces buffer value size) :
    message_ahead arith buffer = (do
      let n ← usize_add arith (size + body_len value) FIELD_CHECKSUM_LEN_IN_BYTES
      return if n > buffer.length then none else some n) := by
  obtain ⟨_,_,_,_,_,first,second,sized⟩ := announces
  obtain ⟨info,found,ended,number⟩ := HeaderInfo.parse_fields first second
  have same : info.field_1.2 + 1 = size := by omega
  simp only [message_ahead,found,HeaderInfo.message_length_eq,number,same]

theorem announces_or_waits (arith : Arith) (buffer : Bytes) :
    (∃ value size, Announces buffer value size) ∨ message_ahead arith buffer = .ok none := by
  cases found : HeaderInfo.parse buffer SOH with
  | none => exact .inr (by simp only [message_ahead,found])
  | some info =>
    obtain ⟨text₁,value₁,behind,text₂,value₂,rest,first,second⟩ := HeaderInfo.parse_some found
    obtain ⟨_,_,ended,_⟩ := HeaderInfo.parse_fields first second
    exact .inl ⟨value₂,_,text₁,value₁,behind,text₂,rest,first,second,ended⟩

/-- What a frame that is cut announces. -/
theorem message_ahead_some {n : Nat} : message_ahead arith buffer = .ok (some n) ↔
    ∃ value size, Announces buffer value size ∧
      usize_add arith (size + body_len value) FIELD_CHECKSUM_LEN_IN_BYTES = .ok n ∧ n ≤ buffer.length := by
  constructor
  · intro ahead
    rcases announces_or_waits arith buffer with ⟨value,size,announces⟩ | waits
    · refine ⟨value,size,announces,?_⟩
      rw [message_ahead_announced announces] at ahead
      obtain ⟨m,added,ahead⟩ := MessageBuilder.bind_eq_ok.mp ahead
      by_cases short : m > buffer.length
      · rw [if_pos short] at ahead
        cases ahead
      · rw [if_neg short] at ahead
        cases ahead
        exact ⟨added,by omega⟩
    · cases waits.symm.trans ahead
  · rintro ⟨value,size,announces,added,inside⟩
    rw [message_ahead_announced announces,added]
    exact congrArg Except.ok (if_neg (by omega))

theorem message_ahead_error {message : String} : message_ahead arith buffer = .error message ↔
    ∃ value size, Announces buffer value size ∧
      usize_add arith (size + body_len value) FIELD_CHECKSUM_LEN_IN_BYTES = .error message := by
  constructor
  · intro ahead
    rcases announces_or_waits arith buffer with ⟨value,size,announces⟩ | waits
    · refine ⟨value,size,announces,?_⟩
      rw [message_ahead_announced announces] at ahead
      cases added : usize_add arith (size + body_len value) FIELD_CHECKSUM_LEN_IN_BYTES with
      | error text =>
        rw [added] at ahead
        cases ahead
        rfl
      | ok m =>
        rw [added] at ahead
        cases ahead
    · cases waits.symm.trans ahead
  · rintro ⟨value,size,announces,added⟩
    rw [message_ahead_announced announces,added]
    rfl

/-- A message that was found stays where it is when more bytes arrive. -/
theorem message_ahead_stable (arith : Arith) : Cutting.Stable (message_ahead arith) where
  inside buffer n ahead := by
    obtain ⟨_,_,_,_,inside⟩ := message_ahead_some.mp ahead
    exact inside
  frame buffer n more ahead := by
    obtain ⟨value,size,announces,added,inside⟩ := message_ahead_some.mp ahead
    refine message_ahead_some.mpr ⟨value,size,announces.extend more,added,?_⟩
    rw [List.length_append]
    omega
  error buffer message more ahead := by
    obtain ⟨value,size,announces,added⟩ := message_ahead_error.mp ahead
    exact message_ahead_error.mpr ⟨value,size,announces.extend more,added⟩

/-! ### The loop -/

open Cutting

theorem parse_loop_of_cuts {frames : List Bytes} {left : Bytes} (cuts : Cuts (message_ahead arith) buffer frames left)
    {rounds : Nat} (enough : frames.length < rounds) (messages : List Bytes) :
    parse_loop arith rounds messages buffer = .ok (some (messages ++ frames,left)) := by
  induction cuts generalizing rounds messages with
  | wait waits =>
    obtain ⟨rounds,rfl⟩ : ∃ n, rounds = n + 1 := ⟨rounds - 1,by omega⟩
    rw [parse_loop,waits,List.append_nil]
    rfl
  | @frame frame rest left frames first _ ih =>
    obtain ⟨rounds,rfl⟩ : ∃ n, rounds = n + 1 := ⟨rounds - 1,by omega⟩
    have later := @ih rounds (by rw [List.length_cons] at enough; omega) (messages ++ [frame])
    rw [List.append_assoc] at later
    rw [parse_loop,first]
    change parse_loop arith rounds (messages ++ [(frame ++ rest).take frame.length]) ((frame ++ rest).drop frame.length) = _
    rw [List.take_left,List.drop_left,later]
    rfl

theorem cuts_of_parse_loop {rounds : Nat} {messages messages' : List Bytes} {left : Bytes}
    (ended : parse_loop arith rounds messages buffer = .ok (some (messages',left))) :
    ∃ frames, messages' = messages ++ frames ∧ Cuts (message_ahead arith) buffer frames left := by
  induction rounds generalizing messages buffer with
  | zero => cases ended
  | succ rounds ih =>
    rw [parse_loop] at ended
    obtain ⟨found,ahead,ended⟩ := MessageBuilder.bind_eq_ok.mp ended
    cases found with
    | none =>
      cases ended
      exact ⟨[],by simp,.wait ahead⟩
    | some n =>
      obtain ⟨frames,rfl,more⟩ := ih ended
      have inside := (message_ahead_stable arith).inside _ _ ahead
      refine ⟨buffer.take n :: frames,by simp,?_⟩
      have cuts := Cuts.frame (by rw [List.take_append_drop,List.length_take,Nat.min_eq_left inside]; exact ahead) more
      rwa [List.take_append_drop] at cuts

/-- What `parse` returns is what is cut of the buffer. -/
theorem parse_cuts {p : FrameParser} {data : Bytes} {frames : List Bytes} {left : Bytes} :
    (∃ rounds, p.parse arith rounds data = .ok (some (frames,⟨left⟩))) ↔
      Cuts (message_ahead arith) (p.buffer ++ data) frames left := by
  constructor
  · rintro ⟨rounds,ended⟩
    rw [parse] at ended
    obtain ⟨result,looped,ended⟩ := MessageBuilder.bind_eq_ok.mp ended
    obtain ⟨⟨messages,buffer⟩,rfl,same⟩ := Option.map_eq_some_iff.mp (Except.ok.inj ended)
    cases same
    obtain ⟨frames,rfl,cuts⟩ := cuts_of_parse_loop looped
    exact cuts
  · intro cuts
    refine ⟨frames.length + 1,?_⟩
    rw [parse,parse_loop_of_cuts cuts (Nat.lt_succ_self _)]
    rfl

theorem parse_of_cuts {p : FrameParser} {data : Bytes} {frames : List Bytes} {left : Bytes} {rounds : Nat}
    (cuts : Cuts (message_ahead arith) (p.buffer ++ data) frames left) (enough : frames.length < rounds) :
    p.parse arith rounds data = .ok (some (frames,⟨left⟩)) := by
  rw [parse,parse_loop_of_cuts cuts enough]
  rfl

theorem feed_of_fed {chunks frames : List Bytes} {left : Bytes} {rounds : Nat}
    (fed : Fed (message_ahead arith) buffer chunks frames left) (enough : frames.length < rounds) :
    feed arith rounds chunks ⟨buffer⟩ = .ok (some (frames,⟨left⟩)) := by
  induction fed with
  | done => rfl
  | chunk now _ ih =>
    rw [List.length_append] at enough
    rw [feed,parse_of_cuts now (by omega)]
    change (feed arith rounds _ _ >>= _) = _
    rw [ih (by omega)]
    rfl

/-! ### Streams on which no length overflows -/

/-- From frame to frame, a length is announced that does not fit into 64 bits. -/
inductive Overflows : Bytes → Prop where
  | here {buffer value : Bytes} {size : Nat} (announces : Announces buffer value size)
    (above : U64 ≤ size + body_len value + FIELD_CHECKSUM_LEN_IN_BYTES) : Overflows buffer
  | later {frame rest value : Bytes} {size : Nat} (announces : Announces (frame ++ rest) value size)
    (whole : size + body_len value + FIELD_CHECKSUM_LEN_IN_BYTES = frame.length) (fits : frame.length < U64)
    (behind : Overflows rest) : Overflows (frame ++ rest)

/-- Without an overflow every frame has bytes, and cutting ends. -/
theorem cuts_of_fits (arith : Arith) (buffer : Bytes) (fits : ¬ Overflows buffer) :
    ∃ frames left, Cuts (message_ahead arith) buffer frames left ∧ frames.length ≤ buffer.length := by
  induction bound : buffer.length using Nat.strong_induction_on generalizing buffer with
  | _ n ih =>
    rcases announces_or_waits arith buffer with ⟨value,size,announces⟩ | waits
    · obtain ⟨total,summed⟩ : ∃ total, size + body_len value + FIELD_CHECKSUM_LEN_IN_BYTES = total := ⟨_,rfl⟩
      have small : total < U64 := by
        by_contra above
        exact fits (.here announces (by omega))
      have added : usize_add arith (size + body_len value) FIELD_CHECKSUM_LEN_IN_BYTES = .ok total := by
        rw [MessageBuilder.usize_add_small (by omega),summed]
      by_cases inside : total ≤ buffer.length
      · have ahead := message_ahead_some.mpr ⟨value,size,announces,added,inside⟩
        have seven : FIELD_CHECKSUM_LEN_IN_BYTES = 7 := rfl
        have length : (buffer.take total).length = total := by rw [List.length_take,Nat.min_eq_left inside]
        have rest_fits : ¬ Overflows (buffer.drop total) := by
          intro overflows
          refine fits ?_
          rw [← List.take_append_drop total buffer] at announces ⊢
          exact .later announces (by rw [length,summed]) (by rw [length]; exact small) overflows
        obtain ⟨frames,left,cuts,few⟩ := ih (buffer.drop total).length (by rw [List.length_drop]; omega) _ rest_fits rfl
        refine ⟨buffer.take total :: frames,left,?_,?_⟩
        · have whole := Cuts.frame (by rw [List.take_append_drop,length]; exact ahead) cuts
          rwa [List.take_append_drop] at whole
        · rw [List.length_drop] at few
          rw [List.length_cons]
          omega
      · refine ⟨[],buffer,.wait ?_,Nat.zero_le _⟩
        rw [message_ahead_announced announces,added]
        exact congrArg Except.ok (if_pos (by omega))
    · exact ⟨[],buffer,.wait waits,Nat.zero_le _⟩

/-- Nothing is found in an empty buffer. -/
theorem message_ahead_nil (arith : Arith) : message_ahead arith [] = .ok none := rfl

/-- Chunks of a stream are cut as the stream is, and no byte is lost. -/
theorem feed_chunks (arith : Arith) (chunks : List Bytes) (fits : ¬ Overflows chunks.flatten) :
    ∃ frames left, (∀ rounds, chunks.flatten.length < rounds →
        FrameParser.default.parse arith rounds chunks.flatten = .ok (some (frames,⟨left⟩)) ∧
        feed arith rounds chunks FrameParser.default = .ok (some (frames,⟨left⟩))) ∧
      frames.flatten ++ left = chunks.flatten := by
  obtain ⟨frames,left,cuts,few⟩ := cuts_of_fits arith _ fits
  have fed := (fed_iff (message_ahead_stable arith) (message_ahead_nil arith)).mpr cuts
  refine ⟨frames,left,fun rounds enough => ⟨parse_of_cuts cuts (by omega),feed_of_fed fed (by omega)⟩,cuts.flatten⟩

theorem not_announces {buffer : Bytes} (absent : HeaderInfo.parse buffer SOH = none) {value : Bytes} {size : Nat} :
    ¬ Announces buffer value size := by
  rintro ⟨_,_,_,_,_,first,second,_⟩
  obtain ⟨info,found,_⟩ := HeaderInfo.parse_fields first second
  cases absent.symm.trans found

theorem fits_of_absent {buffer : Bytes} (absent : HeaderInfo.parse buffer SOH = none) : ¬ Overflows buffer := by
  intro overflows
  cases overflows with
  | here announces _ => exact not_announces absent announces
  | later announces _ _ _ => exact not_announces absent announces

/-- Behind a frame that announces its own length, what fits is left. -/
theorem fits_behind {frame rest value : Bytes} {size : Nat} (announces : Announces (frame ++ rest) value size)
    (whole : size + body_len value + FIELD_CHECKSUM_LEN_IN_BYTES = frame.length) (fits : frame.length < U64)
    (behind : ¬ Overflows rest) : ¬ Overflows (frame ++ rest) := by
  intro overflows
  generalize stream : frame ++ rest = buffer at announces overflows
  cases overflows with
  | here other above =>
    obtain ⟨rfl,rfl⟩ := announces.unique other
    omega
  | @later frame' rest' _ _ other whole' _ later =>
    obtain ⟨rfl,rfl⟩ := announces.unique other
    obtain ⟨_,rfl⟩ := List.append_inj stream (by omega)
    exact behind later

/-- A frame in two chunks, the second with the start of another one. -/
def split_heartbeat : List Bytes :=
  [ascii "8=F" ++ SOH :: ascii "9=5" ++ SOH :: ascii "3",ascii "5=0" ++ SOH :: ascii "10=163" ++ SOH :: ascii "8=F"]

theorem split_heartbeat_fed : ¬ Overflows split_heartbeat.flatten ∧
    ∃ frames left, (∀ rounds, split_heartbeat.flatten.length < rounds →
        FrameParser.default.parse .wrapping rounds split_heartbeat.flatten = .ok (some (frames,⟨left⟩)) ∧
        feed .wrapping rounds split_heartbeat FrameParser.default = .ok (some (frames,⟨left⟩))) ∧
      frames.flatten ++ left = split_heartbeat.flatten := by
  have fits : ¬ Overflows split_heartbeat.flatten := by
    have announces : Announces ((ascii "8=F" ++ SOH :: ascii "9=5" ++ SOH :: ascii "35=0" ++ SOH :: ascii "10=163" ++ [SOH]) ++
        ascii "8=F") (ascii "5") 8 :=
      ⟨ascii "8",ascii "F",_,ascii "9",_,⟨rfl,by decide,by decide⟩,⟨rfl,by decide,by decide⟩,by decide⟩
    have behind := fits_behind announces (by decide) (by decide) (fits_of_absent (by decide))
    exact behind
  exact ⟨fits,feed_chunks .wrapping split_heartbeat fits⟩

/-! ### Lengths that overflow -/

/-- The buffers that the loop comes to. -/
inductive Reaches (arith : Arith) (buffer : Bytes) : Bytes → Prop where
  | start : Reaches arith buffer buffer
  | round {here : Bytes} {n : Nat} (reaches : Reaches arith buffer here) (ahead : message_ahead arith here = .ok (some n)) :
    Reaches arith buffer (here.drop n)

/-- Every round of the loop takes at least one byte from the buffer. -/
def Progresses (buffer : Bytes) : Prop :=
  ∀ here, Reaches .wrapping buffer here → ∀ n, message_ahead .wrapping here = .ok (some n) → (here.drop n).length < here.length

/-- No length that the loop computes overflows. -/
def NeverOverflows (buffer : Bytes) : Prop :=
  ∀ here, Reaches .exact buffer here → ∀ info, HeaderInfo.parse here SOH = some info → ∃ n, info.message_length .exact = .ok n

/-- From frame to frame, a length is announced that is a multiple of `2^64`. -/
inductive Stalls : Bytes → Prop where
  | here {buffer value : Bytes} {size : Nat} (announces : Announces buffer value size)
    (zero : (size + body_len value + FIELD_CHECKSUM_LEN_IN_BYTES) % U64 = 0) : Stalls buffer
  | later {frame rest value : Bytes} {size : Nat} (announces : Announces (frame ++ rest) value size)
    (whole : (size + body_len value + FIELD_CHECKSUM_LEN_IN_BYTES) % U64 = frame.length) (behind : Stalls rest) :
    Stalls (frame ++ rest)

section
variable {P : Bytes → Prop}

/-- What passes to the rest behind a frame holds wherever the loop comes. -/
theorem Reaches.invariant {buffer here : Bytes} (reaches : Reaches arith buffer here) (initial : P buffer)
    (behind : ∀ frame rest, message_ahead arith (frame ++ rest) = .ok (some frame.length) → P (frame ++ rest) → P rest) : P here := by
  induction reaches with
  | start => exact initial
  | @round here n _ ahead ih =>
    have inside := (message_ahead_stable arith).inside _ _ ahead
    refine behind (here.take n) _ ?_ ?_
    · rw [List.take_append_drop,List.length_take,Nat.min_eq_left inside]
      exact ahead
    · rw [List.take_append_drop]
      exact ih

end

theorem Reaches.trans {buffer here later : Bytes} (reaches : Reaches arith buffer here) (more : Reaches arith here later) :
    Reaches arith buffer later := by
  induction more with
  | start => exact reaches
  | round _ ahead ih => exact .round ih ahead

theorem Reaches.behind {frame rest : Bytes} (ahead : message_ahead arith (frame ++ rest) = .ok (some frame.length)) :
    Reaches arith (frame ++ rest) rest := by
  have round := Reaches.round .start ahead
  rwa [List.drop_left] at round

theorem Stalls.reaches {buffer : Bytes} (stalls : Stalls buffer) :
    ∃ here, Reaches .wrapping buffer here ∧ message_ahead .wrapping here = .ok (some 0) := by
  induction stalls with
  | @here buffer value size announces zero =>
    exact ⟨buffer,.start,message_ahead_some.mpr ⟨value,size,announces,congrArg Except.ok zero,Nat.zero_le _⟩⟩
  | @later frame rest value size announces whole _ ih =>
    obtain ⟨here,reaches,ahead⟩ := ih
    have first : message_ahead .wrapping (frame ++ rest) = .ok (some frame.length) :=
      message_ahead_some.mpr ⟨value,size,announces,congrArg Except.ok whole,by simp⟩
    exact ⟨here,(Reaches.behind first).trans reaches,ahead⟩

theorem not_stalls_behind (frame rest : Bytes) (ahead : message_ahead .wrapping (frame ++ rest) = .ok (some frame.length))
    (free : ¬ Stalls (frame ++ rest)) : ¬ Stalls rest := by
  intro stalls
  obtain ⟨value,size,announces,added,_⟩ := message_ahead_some.mp ahead
  exact free (.later announces (Except.ok.inj added) stalls)

theorem progresses_iff (buffer : Bytes) : Progresses buffer ↔ ¬ Stalls buffer := by
  constructor
  · intro progresses stalls
    obtain ⟨here,reaches,ahead⟩ := stalls.reaches
    have shorter := progresses here reaches 0 ahead
    simp at shorter
  · intro free here reaches n ahead
    have free_here := @Reaches.invariant _ (fun b => ¬ Stalls b) _ _ reaches free not_stalls_behind
    obtain ⟨value,size,announces,added,inside⟩ := message_ahead_some.mp ahead
    have positive : n ≠ 0 := by
      rintro rfl
      exact free_here (.here announces (Except.ok.inj added))
    rw [List.length_drop]
    omega

/-- A loop that always takes a byte ends. -/
theorem cuts_of_progresses (buffer : Bytes) (progresses : Progresses buffer) :
    ∃ frames left, Cuts (message_ahead .wrapping) buffer frames left := by
  induction bound : buffer.length using Nat.strong_induction_on generalizing buffer with
  | _ length ih =>
    cases ahead : message_ahead .wrapping buffer with
    | error message =>
      obtain ⟨_,_,_,added⟩ := message_ahead_error.mp ahead
      cases added
    | ok found =>
      cases found with
      | none => exact ⟨[],buffer,.wait ahead⟩
      | some n =>
        have shorter := progresses buffer .start n ahead
        have later : Progresses (buffer.drop n) := fun here reaches =>
          progresses here (Reaches.trans (.round .start ahead) reaches)
        obtain ⟨frames,left,cuts⟩ := ih _ (by omega) _ later rfl
        have inside := (message_ahead_stable _).inside _ _ ahead
        refine ⟨buffer.take n :: frames,left,?_⟩
        have whole := Cuts.frame (by rw [List.take_append_drop,List.length_take,Nat.min_eq_left inside]; exact ahead) cuts
        rwa [List.take_append_drop] at whole

theorem Overflows.reaches {buffer : Bytes} (overflows : Overflows buffer) :
    ∃ here value size, Reaches .exact buffer here ∧ Announces here value size ∧
      U64 ≤ size + body_len value + FIELD_CHECKSUM_LEN_IN_BYTES := by
  induction overflows with
  | @here buffer value size announces above => exact ⟨buffer,value,size,.start,announces,above⟩
  | @later frame rest value size announces whole fits _ ih =>
    obtain ⟨here,value',size',reaches,announces',above⟩ := ih
    have first : message_ahead .exact (frame ++ rest) = .ok (some frame.length) :=
      message_ahead_some.mpr ⟨value,size,announces,by rw [MessageBuilder.usize_add_small (by omega),whole],by simp⟩
    exact ⟨here,value',size',(Reaches.behind first).trans reaches,announces',above⟩

theorem exact_total {a b n : Nat} (added : usize_add .exact a b = .ok n) : a + b = n ∧ n < U64 := by
  rw [usize_add] at added
  split_ifs at added with small
  cases added
  exact ⟨rfl,small⟩

theorem fits_behind_exact (frame rest : Bytes) (ahead : message_ahead .exact (frame ++ rest) = .ok (some frame.length))
    (free : ¬ Overflows (frame ++ rest)) : ¬ Overflows rest := by
  intro overflows
  obtain ⟨value,size,announces,added,_⟩ := message_ahead_some.mp ahead
  obtain ⟨whole,fits⟩ := exact_total added
  exact free (.later announces whole fits overflows)

theorem neverOverflows_iff (buffer : Bytes) : NeverOverflows buffer ↔ ¬ Overflows buffer := by
  constructor
  · intro never overflows
    obtain ⟨here,value,size,reaches,⟨_,_,_,_,_,first,second,sized⟩,above⟩ := overflows.reaches
    obtain ⟨info,found,ended,number⟩ := HeaderInfo.parse_fields first second
    obtain ⟨n,computed⟩ := never here reaches info found
    rw [HeaderInfo.message_length_eq,number,show info.field_1.2 + 1 = size by omega] at computed
    have total := exact_total computed
    omega
  · intro free here reaches info found
    have free_here := @Reaches.invariant _ (fun b => ¬ Overflows b) _ _ reaches free fits_behind_exact
    obtain ⟨text₁,value₁,behind,text₂,value₂,rest,first,second⟩ := HeaderInfo.parse_some found
    obtain ⟨info',found',ended,number⟩ := HeaderInfo.parse_fields first second
    obtain rfl : info = info' := Option.some.inj (found.symm.trans found')
    refine ⟨_,(HeaderInfo.message_length_eq .exact info).trans (MessageBuilder.usize_add_small ?_)⟩
    rw [number]
    by_contra above
    exact free_here (.here ⟨text₁,value₁,behind,text₂,rest,first,second,ended⟩ (by omega))

/-- When the loop takes a byte in every round and ends, and no length overflows. -/
theorem framing_sound_iff (p : FrameParser) (data : Bytes) :
    (Progresses (p.buffer ++ data) ∧ (∃ rounds result, p.parse .wrapping rounds data = .ok (some result)) ∧
        NeverOverflows (p.buffer ++ data)) ↔
      ¬ Stalls (p.buffer ++ data) ∧ ¬ Overflows (p.buffer ++ data) := by
  constructor
  · rintro ⟨progresses,_,never⟩
    exact ⟨(progresses_iff _).mp progresses,(neverOverflows_iff _).mp never⟩
  · rintro ⟨free,fits⟩
    have progresses := (progresses_iff _).mpr free
    obtain ⟨frames,left,cuts⟩ := cuts_of_progresses _ progresses
    obtain ⟨rounds,ended⟩ := parse_cuts.mpr cuts
    exact ⟨progresses,⟨rounds,_,ended⟩,(neverOverflows_iff _).mpr fits⟩

/-- A header whose length comes to `2^64`. -/
def endless : Bytes := ascii "8=F" ++ SOH :: ascii "9=18446744073709551582" ++ [SOH]

theorem endless_ahead : message_ahead .wrapping endless = .ok (some 0) := by decide +kernel

theorem endless_rounds (rounds : Nat) (messages : List Bytes) : parse_loop .wrapping rounds messages endless = .ok none := by
  induction rounds generalizing messages with
  | zero => rfl
  | succ rounds ih =>
    rw [parse_loop,endless_ahead]
    exact ih _

/-- The loop never ends there, and with checked sums it panics. -/
theorem endless_framing : ¬ ∀ (p : FrameParser) (data : Bytes), Progresses (p.buffer ++ data) ∧
    (∃ rounds result, p.parse .wrapping rounds data = .ok (some result)) ∧ NeverOverflows (p.buffer ++ data) := by
  intro all
  obtain ⟨_,⟨rounds,result,ended⟩,_⟩ := all FrameParser.default endless
  rw [parse,show FrameParser.default.buffer ++ endless = endless from rfl,endless_rounds] at ended
  cases ended

end FrameParser
end HotFix
