import HotFix.Framer
import HotFix.Texts
import Mathlib.Tactic.Ring
import Mathlib.Data.Nat.ModEq

/-!
Where a message ends. The framer and the builder read the same first two fields, but
each reads the length in its own way; behind a wrong length the framer goes on
wherever that length leads.
-/
namespace HotFix
open Cutting

/-! ### The number of a value -/

/-- What a value is folded to, without wrapping. -/
def unwrapped (value : Bytes) : Nat := value.foldl (fun len byte => len * 10 + (byte - 48).toNat) 0

theorem foldl_body_len (value : Bytes) (len : Nat) :
    value.foldl body_len_digit (len % U64) = value.foldl (fun len byte => len * 10 + (byte - 48).toNat) len % U64 := by
  induction value generalizing len with
  | nil => rfl
  | cons byte rest ih =>
    rw [List.foldl_cons,List.foldl_cons,← ih]
    congr 1
    rw [body_len_digit,Nat.mod_add_mod,Nat.add_mod,Nat.mod_mul_mod,← Nat.add_mod]

theorem body_len_eq (value : Bytes) : body_len value = unwrapped value % U64 := foldl_body_len value 0

theorem foldl_unwrapped {digits : Bytes} (all : digits.all Decimal.isDigit = true) (len : Nat) :
    digits.foldl (fun len byte => len * 10 + (byte - 48).toNat) len = len * 10^digits.length + Decimal.value digits := by
  rw [← Decimal.foldl_value]
  refine List.foldl_ext _ _ _ (fun sofar byte member => ?_)
  rw [CheckSum.digit_value (List.all_eq_true.mp all byte member),Nat.mul_comm]

/-- Digits below the bound are folded to their number. -/
theorem body_len_digits {digits : Bytes} (all : digits.all Decimal.isDigit = true) (below : Decimal.value digits < U64) :
    body_len digits = Decimal.value digits := by
  rw [body_len_eq,unwrapped,foldl_unwrapped all,Nat.zero_mul,Nat.zero_add,Nat.mod_eq_of_lt below]

/-- A plus sign is folded as if it were the digit 251. -/
theorem body_len_signed {digits : Bytes} (all : digits.all Decimal.isDigit = true) :
    body_len (43 :: digits) = (251 * 10^digits.length + Decimal.value digits) % U64 := by
  rw [body_len_eq,unwrapped,List.foldl_cons,foldl_unwrapped all]
  rfl

/-- The sign disappears in front of 64 digits, and not before. -/
theorem sign_vanishes (k : Nat) : 251 * 10^k % U64 = 0 ↔ 64 ≤ k := by
  have bound : U64 = 2^64 := by decide
  have ten : 10^k = 2^k * 5^k := by rw [← Nat.mul_pow]
  have odd : Nat.Coprime (2^64) (251 * 5^k) :=
    Nat.Coprime.pow_left 64 (Nat.Coprime.mul_right (by decide) (Nat.Coprime.pow_right k (by decide)))
  rw [← Nat.dvd_iff_mod_eq_zero,bound,ten,show 251 * (2^k * 5^k) = 2^k * (251 * 5^k) by ring]
  constructor
  · intro divides
    exact (Nat.pow_dvd_pow_iff_le_right (by decide)).mp (odd.dvd_of_dvd_mul_right divides)
  · intro long
    exact (Nat.pow_dvd_pow 2 long).mul_right _

/-- How a number may be spelled: in digits, or in digits behind a plus sign. -/
theorem parseBelow_spelled {value : Bytes} {n : Nat} (parsed : Decimal.parseBelow U64 value = some n) :
    value.all Decimal.isDigit = true ∧ Decimal.value value = n ∨
      ∃ digits, value = 43 :: digits ∧ digits.all Decimal.isDigit = true ∧ Decimal.value digits = n := by
  simp only [Decimal.parseBelow] at parsed
  split_ifs at parsed with accepted
  obtain ⟨_,all,_⟩ := accepted
  have number := Option.some.inj parsed
  rw [← number]
  clear number parsed
  unfold Decimal.unsigned at all ⊢
  split at all
  · exact .inr ⟨_,rfl,all,rfl⟩
  · exact .inl ⟨all,rfl⟩

/-- The framer and the builder read another number only behind a plus sign with less
    than 64 digits. -/
theorem body_len_iff {value : Bytes} {n : Nat} (parsed : Decimal.parseBelow U64 value = some n) :
    body_len value = n ↔ ¬ ∃ digits, value = 43 :: digits ∧ digits.length < 64 := by
  have below := Decimal.parseBelow_lt parsed
  rcases parseBelow_spelled parsed with ⟨all,number⟩ | ⟨digits,rfl,all,number⟩
  · refine iff_of_true (by rw [body_len_digits all (by omega),number]) ?_
    rintro ⟨digits,rfl,_⟩
    simp [Decimal.isDigit] at all
  · rw [body_len_signed all,number]
    have sign := sign_vanishes digits.length
    constructor
    · rintro same ⟨_,short,few⟩
      cases short
      have congruent : Nat.ModEq U64 (251 * 10^digits.length + n) (0 + n) := by
        rw [Nat.ModEq,Nat.zero_add,same,Nat.mod_eq_of_lt below]
      have zero := Nat.ModEq.add_right_cancel' n congruent
      exact absurd (sign.mp zero) (by omega)
    · intro long
      have many : 64 ≤ digits.length := by
        by_contra few
        exact long ⟨digits,rfl,by omega⟩
      rw [Nat.add_mod,sign.mpr many,Nat.zero_add,Nat.mod_mod,Nat.mod_eq_of_lt below]

/-! ### Accepted messages -/

namespace FrameParser
open MessageBuilder
variable {arith : Arith} {config : Config}

/-- An accepted message is as long as it announces, as the builder reads it. -/
theorem accepted_length {data : Bytes} (soh : config.separator = SOH) (accepted : Accepts arith config data) :
    ∃ value size n, Announces data value size ∧ Decimal.parseBelow U64 value = some n ∧
      usize_add arith (size + n) FIELD_CHECKSUM_LEN_IN_BYTES = .ok data.length := by
  obtain ⟨begin_string,body_length,_,_,p₁,p₂,_,n,body_end,framing,_⟩ := accepts_iff.mp accepted
  obtain ⟨text₁,tail₁,at₁,_,rfl⟩ := Parser.next_field_some (Nat.zero_le _) framing.first
  obtain ⟨_,_,_,inside₁⟩ := Parser.next_field_moves (Nat.zero_le _) framing.first
  obtain ⟨text₂,tail₂,at₂,_,rfl⟩ := Parser.next_field_some inside₁ framing.second
  dsimp only at at₁ at₂
  rw [soh] at at₁ at₂
  have sized := at₂.shorter
  rw [at₁.behind] at at₂
  rw [List.drop_zero] at at₁
  have total := usize_add_chain arith (0 + text₁.length + begin_string.data.length + 2 + text₂.length + body_length.data.length + 2)
    n 0 FIELD_CHECKSUM_LEN_IN_BYTES
  rw [framing.body_ends] at total
  exact ⟨body_length.data,_,n,⟨text₁,_,_,text₂,tail₂,at₁,at₂,sized⟩,framing.length,total.symm.trans framing.total⟩

/-- The length is written with a plus sign and less than 64 digits behind it. -/
def Signed (data : Bytes) : Prop := ∃ size digits, Announces data (43 :: digits) size ∧ digits.length < 64

theorem usize_add_cancel {a b b' c total : Nat} (b_fits : b < U64) (b_fits' : b' < U64)
    (added : usize_add arith (a + b) c = .ok total) (added' : usize_add arith (a + b') c = .ok total) : b = b' := by
  cases arith with
  | exact =>
    have first := exact_total added
    have second := exact_total added'
    omega
  | wrapping =>
    have congruent : Nat.ModEq U64 (a + b + c) (a + b' + c) :=
      (Except.ok.inj added).trans (Except.ok.inj added').symm
    have same := Nat.ModEq.add_left_cancel' a (Nat.ModEq.add_right_cancel' c congruent)
    rw [Nat.ModEq,Nat.mod_eq_of_lt b_fits,Nat.mod_eq_of_lt b_fits'] at same
    exact same

theorem body_len_lt (value : Bytes) : body_len value < U64 := by
  rw [body_len_eq]
  exact Nat.mod_lt _ (by decide)

/-- The framer finds the end of an accepted message when its length has no sign. -/
theorem accepted_ahead_iff {data : Bytes} (soh : config.separator = SOH) (accepted : Accepts arith config data) (rest : Bytes) :
    message_ahead arith (data ++ rest) = .ok (some data.length) ↔ ¬ Signed data := by
  obtain ⟨value,size,n,announces,parsed,total⟩ := accepted_length soh accepted
  have signed : Signed data ↔ ∃ digits, value = 43 :: digits ∧ digits.length < 64 := by
    constructor
    · rintro ⟨_,digits,other,few⟩
      exact ⟨digits,(announces.unique other).1,few⟩
    · rintro ⟨digits,rfl,few⟩
      exact ⟨size,digits,announces,few⟩
  rw [signed,← body_len_iff parsed,message_ahead_some]
  constructor
  · rintro ⟨value',size',other,added,_⟩
    obtain ⟨rfl,rfl⟩ := (announces.extend rest).unique other
    exact usize_add_cancel (body_len_lt _) (Decimal.parseBelow_lt parsed) added total
  · intro same
    exact ⟨value,size,announces.extend rest,by rw [same]; exact total,by simp⟩

/-- Accepted messages in front of a buffer are cut as they are when no length has a
    sign. -/
theorem accepted_cuts_iff {messages more : List Bytes} {rest left : Bytes} (soh : config.separator = SOH)
    (accepted : ∀ m ∈ messages, Accepts arith config m) :
    Cuts (message_ahead arith) (messages.flatten ++ rest) (messages ++ more) left ↔
      (∀ m ∈ messages, ¬ Signed m) ∧ Cuts (message_ahead arith) rest more left := by
  induction messages with
  | nil => simp
  | cons m messages ih =>
    have later := ih (fun m member => accepted m (by simp [member]))
    have first := accepted_ahead_iff soh (accepted m (by simp)) (messages.flatten ++ rest)
    rw [List.flatten_cons,List.append_assoc,List.cons_append,List.forall_mem_cons,and_assoc,← later,← first]
    constructor
    · intro cuts
      obtain ⟨rest',splits,ahead,cuts'⟩ := cuts.inv
      rw [List.append_cancel_left splits]
      exact ⟨by rwa [← List.append_cancel_left splits],cuts'⟩
    · rintro ⟨ahead,cuts⟩
      exact .frame ahead cuts

/-- When the framer returns the messages that the builder accepts. -/
theorem framing_accepted_iff (messages : List Bytes) (soh : config.separator = SOH)
    (accepted : ∀ m ∈ messages, Accepts arith config m) :
    (∃ rounds, FrameParser.default.parse arith rounds messages.flatten = .ok (some (messages,⟨[]⟩))) ↔
      ∀ m ∈ messages, ¬ Signed m := by
  have cuts := @accepted_cuts_iff arith config messages [] [] [] soh accepted
  rw [List.append_nil,List.append_nil] at cuts
  rw [parse_cuts,show FrameParser.default.buffer ++ messages.flatten = messages.flatten from rfl,cuts]
  exact and_iff_left (.wait (message_ahead_nil arith))

/-- A text with bars for the separators. -/
def piped (text : String) : Bytes := (ascii text).map (fun byte => if byte = 124 then SOH else byte)

def news : Bytes := piped "8=F|9=10|35=B|58=x|10=159|"
def heartbeat : Bytes := piped "8=F|9=5|35=0|10=062|"
def signed_news : Bytes := piped "8=F|9=+10|35=B|58=x|10=202|"

theorem plain_accepted (arith : Arith) : ∀ m ∈ [news,heartbeat], Accepts arith Config.default m := by
  intro m member
  simp only [List.mem_cons,List.not_mem_nil,or_false] at member
  rcases member with rfl | rfl
  · exact accepts_of_toBool (by cases arith <;> decide +kernel)
  · exact accepts_of_toBool (by cases arith <;> decide +kernel)

theorem plain_framing_iff : (∀ m ∈ [news,heartbeat], Accepts .wrapping Config.default m) ∧
    ((∃ rounds, FrameParser.default.parse .wrapping rounds [news,heartbeat].flatten = .ok (some ([news,heartbeat],⟨[]⟩))) ↔
      ∀ m ∈ [news,heartbeat], ¬ Signed m) :=
  ⟨plain_accepted .wrapping,framing_accepted_iff [news,heartbeat] rfl (plain_accepted .wrapping)⟩

/-- A length with a plus sign is accepted, and the framer waits for thousands of bytes. -/
theorem signed_not_framed : ¬ ∀ (arith : Arith) (messages : List Bytes),
    (∀ m ∈ messages, Accepts arith Config.default m ∧ m.length < U32) →
      ∃ rounds, FrameParser.default.parse arith rounds messages.flatten = .ok (some (messages,⟨[]⟩)) := by
  intro framed
  have accepted : Accepts .wrapping Config.default signed_news := accepts_of_toBool (by decide +kernel)
  obtain ⟨rounds,ended⟩ := framed .wrapping [signed_news] (by
    intro m member
    rw [List.mem_singleton.mp member]
    exact ⟨accepted,by decide⟩)
  have cuts := parse_cuts.mp ⟨rounds,ended⟩
  have waits : message_ahead .wrapping signed_news = .ok none := by decide +kernel
  obtain ⟨none_cut,_⟩ := cuts.unique (.wait waits)
  cases none_cut

/-! ### A wrong length -/

/-- What is left of the last message announces more than there is. -/
def Waits (arith : Arith) (left : Bytes) : Prop :=
  ∀ value size, Announces left value size →
    ∃ n, usize_add arith (size + body_len value) FIELD_CHECKSUM_LEN_IN_BYTES = .ok n ∧ left.length < n

/-- From its start on, the copy is made of pieces that announce their own lengths, up
    to its end; without messages behind it, up to a piece that is waited for. -/
inductive Realigns (arith : Arith) (after : List Bytes) : Bytes → Prop where
  | aligned : Realigns arith after []
  | waits {left : Bytes} (last : after = []) (waits : Waits arith left) : Realigns arith after left
  | piece {piece rest value : Bytes} {size : Nat} (announces : Announces (piece ++ (rest ++ after.flatten)) value size)
    (own : usize_add arith (size + body_len value) FIELD_CHECKSUM_LEN_IN_BYTES = .ok piece.length)
    (more : Realigns arith after rest) : Realigns arith after (piece ++ rest)

/-- The messages around a copy are emitted from their own bytes; what is cut between
    them are the pieces of the copy. -/
def EmitsOthers (arith : Arith) (before : List Bytes) (copy : Bytes) (after : List Bytes) : Prop :=
  ∃ rounds pieces left, FrameParser.default.parse arith rounds (before.flatten ++ (copy ++ after.flatten)) =
      .ok (some (before ++ (pieces ++ after),⟨left⟩)) ∧ (after ≠ [] → pieces.flatten = copy)

theorem waits_iff {left : Bytes} : message_ahead arith left = .ok none ↔ Waits arith left := by
  constructor
  · intro waits value size announces
    rw [message_ahead_announced announces] at waits
    obtain ⟨n,added,waits⟩ := bind_eq_ok.mp waits
    refine ⟨n,added,?_⟩
    by_contra inside
    rw [if_neg inside] at waits
    cases waits
  · intro waits
    rcases announces_or_waits arith left with ⟨value,size,announces⟩ | nothing
    · obtain ⟨n,added,above⟩ := waits value size announces
      rw [message_ahead_announced announces,added]
      exact congrArg Except.ok (if_pos above)
    · exact nothing

/-- What is cut of a copy up to its end. -/
theorem realigns_of_cuts {copy left : Bytes} {pieces after : List Bytes} (whole : pieces.flatten = copy)
    (cuts : Cuts (message_ahead arith) (copy ++ after.flatten) (pieces ++ after) left) :
    Realigns arith after copy ∧ Cuts (message_ahead arith) after.flatten after left := by
  induction pieces generalizing copy with
  | nil =>
    subst whole
    exact ⟨.aligned,cuts⟩
  | cons piece pieces ih =>
    subst whole
    rw [List.flatten_cons,List.append_assoc,List.cons_append] at cuts
    obtain ⟨rest,splits,ahead,cuts⟩ := cuts.inv
    obtain rfl := List.append_cancel_left splits
    obtain ⟨realigns,behind⟩ := ih rfl cuts
    obtain ⟨value,size,announces,own,_⟩ := message_ahead_some.mp ahead
    exact ⟨.piece announces own realigns,behind⟩

/-- What is cut of a copy that nothing follows. -/
theorem realigns_last {copy left : Bytes} {pieces : List Bytes} (cuts : Cuts (message_ahead arith) copy pieces left) :
    Realigns arith [] copy := by
  induction cuts with
  | wait waits => exact .waits rfl (waits_iff.mp waits)
  | @frame frame rest left frames first _ ih =>
    obtain ⟨value,size,announces,own,_⟩ := message_ahead_some.mp first
    exact .piece (by simpa using announces) own ih

theorem cuts_of_realigns {copy left : Bytes} {after : List Bytes} (realigns : Realigns arith after copy)
    (behind : Cuts (message_ahead arith) after.flatten after left) :
    ∃ pieces left', Cuts (message_ahead arith) (copy ++ after.flatten) (pieces ++ after) left' ∧
      (after ≠ [] → pieces.flatten = copy) := by
  induction realigns with
  | aligned => exact ⟨[],left,behind,fun _ => rfl⟩
  | @waits rest last waits =>
    subst last
    refine ⟨[],rest,?_,fun others => absurd rfl others⟩
    rw [List.flatten_nil,List.append_nil]
    exact .wait (waits_iff.mpr waits)
  | @piece piece rest value size announces own _ ih =>
    obtain ⟨pieces,left',cuts,whole⟩ := ih
    have ahead := message_ahead_some.mpr ⟨value,size,announces,own,by simp⟩
    refine ⟨piece :: pieces,left',?_,fun others => ?_⟩
    · rw [List.append_assoc,List.cons_append]
      exact .frame ahead cuts
    · rw [List.flatten_cons,whole others]

/-- When the messages around a copy are emitted. -/
theorem emitsOthers_iff (before after : List Bytes) (copy : Bytes) (soh : config.separator = SOH)
    (accepted : ∀ m ∈ before ++ after, Accepts arith config m) :
    EmitsOthers arith before copy after ↔ (∀ m ∈ before ++ after, ¬ Signed m) ∧ Realigns arith after copy := by
  have accepted_before := fun m member => accepted m (List.mem_append_left after member)
  have accepted_after := fun m member => accepted m (List.mem_append_right before member)
  have behind_iff (left : Bytes) := @accepted_cuts_iff arith config after [] [] left soh accepted_after
  simp only [List.append_nil] at behind_iff
  constructor
  · rintro ⟨rounds,pieces,left,ended,whole⟩
    have cuts := parse_cuts.mp ⟨rounds,ended⟩
    obtain ⟨free,cuts⟩ := (accepted_cuts_iff soh accepted_before).mp cuts
    by_cases last : after = []
    · subst last
      rw [List.append_nil] at cuts ⊢
      rw [List.flatten_nil,List.append_nil] at cuts
      exact ⟨free,realigns_last cuts⟩
    · obtain ⟨realigns,behind⟩ := realigns_of_cuts (whole last) cuts
      refine ⟨?_,realigns⟩
      rw [List.forall_mem_append]
      exact ⟨free,((behind_iff left).mp behind).1⟩
  · rintro ⟨free,realigns⟩
    rw [List.forall_mem_append] at free
    have behind := (behind_iff []).mpr ⟨free.2,.wait (message_ahead_nil arith)⟩
    obtain ⟨pieces,left,cuts,whole⟩ := cuts_of_realigns realigns behind
    have all := (accepted_cuts_iff soh accepted_before).mpr ⟨free.1,cuts⟩
    obtain ⟨rounds,ended⟩ := parse_cuts.mpr all
    exact ⟨rounds,pieces,left,ended,whole⟩

/-- The copy differs from the message in the digits of its length. -/
def Garbled (message copy : Bytes) : Prop :=
  ∃ text₁ value₁ text₂ digits digits' rest,
    FieldAt SOH message text₁ value₁ (text₂ ++ 61 :: (digits ++ SOH :: rest)) ∧
    FieldAt SOH copy text₁ value₁ (text₂ ++ 61 :: (digits' ++ SOH :: rest)) ∧ 61 ∉ text₂ ∧
    digits.all Decimal.isDigit = true ∧ digits'.all Decimal.isDigit = true

/-- One byte more is announced than there is. -/
def overstated_news : Bytes := piped "8=F|9=11|35=B|58=x|10=159|"

theorem overstated_garbled : Garbled news overstated_news :=
  ⟨ascii "8",ascii "F",ascii "9",ascii "10",ascii "11",piped "35=B|58=x|10=159|",⟨by decide,by decide,by decide⟩,
    ⟨by decide,by decide,by decide⟩,by decide,by decide,by decide⟩

theorem overstated_others_iff : (∀ m ∈ [news] ++ [heartbeat], Accepts .wrapping Config.default m) ∧
    (EmitsOthers .wrapping [news] overstated_news [heartbeat] ↔
      (∀ m ∈ [news] ++ [heartbeat], ¬ Signed m) ∧ Realigns .wrapping [heartbeat] overstated_news) :=
  ⟨plain_accepted .wrapping,emitsOthers_iff [news] [heartbeat] overstated_news rfl (plain_accepted .wrapping)⟩

/-- The cut falls behind the first byte of the next message, which is not emitted. -/
theorem overstated_swallows : ¬ ∀ (arith : Arith) (before after : List Bytes) (message copy : Bytes),
    (∀ m ∈ before ++ message :: after, Accepts arith Config.default m ∧ m.take 2 = ascii "8=") → Garbled message copy →
      ∃ rounds frames left, FrameParser.default.parse arith rounds (before.flatten ++ (copy ++ after.flatten)) =
        .ok (some (frames,⟨left⟩)) ∧ ∀ m ∈ before ++ after, m ∈ frames := by
  intro emitted
  obtain ⟨rounds,frames,left,ended,others⟩ := emitted .wrapping [] [heartbeat] news overstated_news (by
    intro m member
    refine ⟨plain_accepted .wrapping m member,?_⟩
    simp only [List.nil_append,List.mem_cons,List.not_mem_nil,or_false] at member
    rcases member with rfl | rfl
    · decide
    · decide) overstated_garbled
  have cuts := parse_cuts.mp ⟨rounds,ended⟩
  have known : Cuts (message_ahead .wrapping) ((overstated_news ++ heartbeat.take 1) ++ (heartbeat.drop 1 ++ []))
      [overstated_news ++ heartbeat.take 1,heartbeat.drop 1] [] :=
    .frame (by decide +kernel) (.frame (by decide +kernel) (.wait (message_ahead_nil _)))
  obtain ⟨rfl,_⟩ := cuts.unique known
  exact absurd (others heartbeat (by simp)) (by decide)

end FrameParser
end HotFix
