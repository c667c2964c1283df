import HotFix.SessionMessages

/-!
Verification of inbound messages: which checks a message type takes, the checks
themselves in their order, and what they establish about the sequence number.
-/
namespace HotFix

structure SessionConfig where
  begin_string : Bytes
  sender_comp_id : Bytes
  target_comp_id : Bytes
  heartbeat_interval : Nat
  reset_on_logon : Bool

inductive CompIdType where
  | Sender
  | Target
  deriving DecidableEq

inductive MessageError where
  | SeqNumberTooLow (expected actual : Nat) (possible_duplicate : Bool)
  | IncorrectBeginString (begin_string : Bytes)
  | IncorrectCompId (comp_id : Bytes) (comp_id_type : CompIdType) (msg_seq_num : Nat)
  | SendingTimeAccuracyIssue (msg_seq_num : Nat)
  | SendingTimeMissing (msg_seq_num : Nat)
  | OriginalSendingTimeMissing (msg_seq_num : Nat)
  | OriginalSendingTimeAfterSendingTime (msg_seq_num : Nat) (original_sending_time sending_time : Timestamp)
  deriving DecidableEq

inductive VerificationIssue where
  | SequenceGap (expected actual : Nat)
  | InvalidMessage (error : MessageError)
  deriving DecidableEq

def SENDING_TIME_THRESHOLD : Nat := 120

structure VerificationFlags where
  check_too_high : Bool
  check_too_low : Bool
  check_orig_sending_time : Bool
  deriving DecidableEq

namespace VerificationFlags

def requires_sequence_number (flags : VerificationFlags) : Bool := flags.check_too_high || flags.check_too_low

/-- The flags of a message of a known type. -/
def for_kind (kind : MsgKind) (message : Message) : VerificationFlags :=
  let possible_duplicate := message.poss_dup
  match kind with
  | .ResendRequest => ⟨false,true,possible_duplicate⟩
  | .Reject => ⟨false,true,possible_duplicate⟩
  | .Logout => ⟨false,false,possible_duplicate⟩
  | .SequenceReset =>
    let is_gap_fill := (message.body.get_bool GAP_FILL_FLAG).getD false
    ⟨is_gap_fill,is_gap_fill,false⟩
  | _ => ⟨true,true,possible_duplicate⟩

/-- None without a MsgType, where the source returns an error. -/
def for_message (message : Message) : Option VerificationFlags :=
  message.kind.map (fun kind => for_kind kind message)

end VerificationFlags

def check_begin_string (message : Message) (expected_begin_string : Bytes) : Except MessageError Unit :=
  let begin_string := (message.header.get_str BEGIN_STRING).getD []
  if begin_string ≠ expected_begin_string then .error (.IncorrectBeginString begin_string) else .ok ()

def check_comp_id (field : FieldDefinition) (comp_id_type : CompIdType) (message : Message) (msg_seq_num : Nat)
    (expected_comp_id : Bytes) : Except MessageError Unit :=
  let actual_comp_id := (message.header.get_str field).getD []
  if actual_comp_id ≠ expected_comp_id then .error (.IncorrectCompId actual_comp_id comp_id_type msg_seq_num)
  else .ok ()

def check_sender_comp_id := check_comp_id SENDER_COMP_ID .Sender
def check_target_comp_id := check_comp_id TARGET_COMP_ID .Target

/-- The whole seconds between two instants in milliseconds. -/
def seconds_between (a b : Nat) : Nat := (if a > b then a - b else b - a) / 1000

def check_sending_time (message : Message) (sequence_number : Nat) (now : Timestamp) :
    Except MessageError Timestamp :=
  match message.header.get_timestamp SENDING_TIME with
  | none => .error (.SendingTimeMissing sequence_number)
  | some sending_time =>
    match sending_time.to_chrono_utc,now.to_chrono_utc with
    | some sending_chrono,some now_chrono =>
      if seconds_between sending_chrono now_chrono > SENDING_TIME_THRESHOLD then
        .error (.SendingTimeAccuracyIssue sequence_number)
      else .ok sending_time
    | _,_ => .ok sending_time

def check_original_sending_time (message : Message) (sequence_number : Nat) (sending_time : Timestamp) :
    Except MessageError Unit :=
  match message.header.get_timestamp ORIG_SENDING_TIME with
  | some original_sending_time =>
    if original_sending_time.after sending_time then
      .error (.OriginalSendingTimeAfterSendingTime sequence_number original_sending_time sending_time)
    else .ok ()
  | none => .error (.OriginalSendingTimeMissing sequence_number)

def check_sequence_number (actual_seq_number expected_seq_number : Nat) (possible_duplicate check_too_high
    check_too_low : Bool) : Except VerificationIssue Unit :=
  if actual_seq_number > expected_seq_number ∧ check_too_high = true then
    .error (.SequenceGap expected_seq_number actual_seq_number)
  else if actual_seq_number < expected_seq_number ∧ check_too_low = true then
    .error (.InvalidMessage (.SeqNumberTooLow expected_seq_number actual_seq_number possible_duplicate))
  else .ok ()

/-- The checks before the sequence number: session identity and times. -/
def check_identity_and_times (message : Message) (config : SessionConfig) (flags : VerificationFlags)
    (now : Timestamp) : Except MessageError Unit := do
  check_begin_string message config.begin_string
  let actual_seq_number := message.msg_seq_num.getD 0
  check_sender_comp_id message actual_seq_number config.target_comp_id
  check_target_comp_id message actual_seq_number config.sender_comp_id
  let sending_time ← check_sending_time message actual_seq_number now
  if flags.check_orig_sending_time then check_original_sending_time message actual_seq_number sending_time

def verify_message (message : Message) (config : SessionConfig) (expected_seq_number : Option Nat)
    (flags : VerificationFlags) (now : Timestamp) : Except VerificationIssue Unit := do
  (check_identity_and_times message config flags now).mapError .InvalidMessage
  match expected_seq_number with
  | some expected_seq_number =>
    check_sequence_number (message.msg_seq_num.getD 0) expected_seq_number message.poss_dup
      flags.check_too_high flags.check_too_low
  | none => return ()

/-- `verify_message_with_ctx`: the expected number is the store's, when a flag
    asks for it. -/
def verify_message_with_ctx (message : Message) (config : SessionConfig) (next_target_seq_number : Nat)
    (flags : VerificationFlags) (now : Timestamp) : Except VerificationIssue Unit :=
  verify_message message config (if flags.requires_sequence_number then some next_target_seq_number else none) flags now

/-! ### What verification establishes -/

/-- The four ways to fail on SendingTime or OrigSendingTime. -/
def MessageError.isTimeError : MessageError → Bool
  | .SendingTimeAccuracyIssue _ => true
  | .SendingTimeMissing _ => true
  | .OriginalSendingTimeMissing _ => true
  | .OriginalSendingTimeAfterSendingTime _ _ _ => true
  | _ => false

/-- Verification, check by check: identity and times first, then the number. -/
theorem verify_message_with_ctx_eq (m : Message) (config : SessionConfig) (next : Nat) (flags : VerificationFlags)
    (now : Timestamp) :
    verify_message_with_ctx m config next flags now =
      match check_identity_and_times m config flags now with
      | .error e => .error (.InvalidMessage e)
      | .ok () => check_sequence_number (m.msg_seq_num.getD 0) next m.poss_dup flags.check_too_high
          flags.check_too_low := by
  unfold verify_message_with_ctx verify_message
  cases checked : check_identity_and_times m config flags now with
  | error e => rfl
  | ok value =>
    by_cases required : flags.requires_sequence_number = true
    · rw [if_pos required]
      rfl
    · have off : flags.check_too_high = false ∧ flags.check_too_low = false := by
        simpa [VerificationFlags.requires_sequence_number] using required
      rw [if_neg required,off.1,off.2]
      simp [check_sequence_number,Except.mapError,bind,Except.bind,pure,Except.pure]

theorem check_sequence_number_gap {actual expected e a : Nat} {dup high low : Bool}
    (gap : check_sequence_number actual expected dup high low = .error (.SequenceGap e a)) :
    e = expected ∧ a = actual ∧ expected < actual ∧ high = true := by
  unfold check_sequence_number at gap
  split_ifs at gap with above below
  · cases gap
    exact ⟨rfl,rfl,above.1,above.2⟩
  · cases gap

theorem check_sequence_number_ok {actual expected : Nat} {dup high low : Bool} :
    check_sequence_number actual expected dup high low = .ok () ↔
      (high = true → actual ≤ expected) ∧ (low = true → expected ≤ actual) := by
  unfold check_sequence_number
  split_ifs with above below
  · simp only [false_iff,not_and]
    intro high
    exact absurd (high above.2) (by omega)
  · simp only [false_iff,not_and]
    intro _ low
    exact absurd (low below.2) (by omega)
  · simp only [true_iff]
    exact ⟨fun high => by by_contra more; exact above ⟨by omega,high⟩,
      fun low => by by_contra less; exact below ⟨by omega,low⟩⟩

end HotFix
