import HotFix.State

/-!
Inbound handling below the session: the answers to messages that fail
verification, the per-state treatment of sequence gaps, and the handlers of
TestRequest, SequenceReset and ResendRequest.
-/
namespace HotFix
variable {S : Type} [MessageStore S]

/-! ### Answers to messages that fail verification -/

def send_reject (env : Env) (writer : WriterRef) (ref_seq_num : Nat) (reason : SessionRejectReason) (text : Bytes) :
    SessionM S (Except InternalSendError Nat) :=
  send_message_to env writer (Reject.outbound ⟨ref_seq_num,reason,text⟩)

/-- A reject whose failure is only logged, and the count of the message. -/
def reject_and_count (env : Env) (writer : WriterRef) (msg_seq_num : Nat) (reason : SessionRejectReason)
    (text : Bytes) : SessionM S Unit := do
  let _ ← send_reject env writer msg_seq_num reason text
  let _ ← increment_target

def handle_sending_time_accuracy_problem (env : Env) (writer : WriterRef) (msg_seq_num : Nat) (text : Bytes) :
    SessionM S Unit :=
  reject_and_count env writer msg_seq_num .SendingtimeAccuracyProblem text

def handle_original_sending_time_missing (env : Env) (writer : WriterRef) (msg_seq_num : Nat) : SessionM S Unit :=
  reject_and_count env writer msg_seq_num .RequiredTagMissing (ascii "original sending time is required")

/-- A logout whose failure is only logged, then the end of the connection. -/
def logout_and_disconnect (env : Env) (writer : WriterRef) (text : Bytes) : SessionM S Unit := do
  let _ ← send_message_to env writer (Logout.with_reason text).outbound
  disconnect writer

def handle_incorrect_begin_string (env : Env) (writer : WriterRef) (received_begin_string : Bytes) :
    SessionM S TransitionResult := do
  logout_and_disconnect env writer (ascii "beginString=" ++ received_begin_string ++ ascii " is not supported")
  return .TransitionTo (.new_disconnected true (ascii "incorrect begin string"))

def handle_incorrect_comp_id (env : Env) (writer : WriterRef) (received_comp_id : Bytes) (msg_seq_num : Nat) :
    SessionM S TransitionResult := do
  let _ ← send_reject env writer msg_seq_num .ValueIsIncorrect (ascii "invalid comp ID " ++ received_comp_id)
  logout_and_disconnect env writer (ascii "incorrect comp ID received")
  return .TransitionTo (.new_disconnected true (ascii "incorrect comp ID"))

def handle_sequence_number_too_low (env : Env) (writer : WriterRef) (expected actual : Nat)
    (possible_duplicate : Bool) : SessionM S TransitionResult := do
  if possible_duplicate then return .Stay else
  let reason := ascii "sequence number too low (actual " ++ Decimal.decimal actual ++ ascii ", expected " ++
    Decimal.decimal expected ++ ascii ")"
  logout_and_disconnect env writer reason
  return .TransitionTo (.new_disconnected false reason)

def handle_verification_error (env : Env) (writer : WriterRef) : MessageError → SessionM S TransitionResult
  | .SeqNumberTooLow expected actual possible_duplicate =>
    handle_sequence_number_too_low env writer expected actual possible_duplicate
  | .IncorrectBeginString begin_string => handle_incorrect_begin_string env writer begin_string
  | .IncorrectCompId comp_id _ msg_seq_num => handle_incorrect_comp_id env writer comp_id msg_seq_num
  | .SendingTimeAccuracyIssue msg_seq_num => do
    handle_sending_time_accuracy_problem env writer msg_seq_num (ascii "unexpected sending time")
    return .Stay
  | .SendingTimeMissing msg_seq_num => do
    handle_sending_time_accuracy_problem env writer msg_seq_num (ascii "sending time missing")
    return .Stay
  | .OriginalSendingTimeMissing msg_seq_num => do
    handle_original_sending_time_missing env writer msg_seq_num
    return .Stay
  | .OriginalSendingTimeAfterSendingTime msg_seq_num _ _ => do
    handle_sending_time_accuracy_problem env writer msg_seq_num (ascii "original sending time is after sending time")
    return .Stay

inductive VerificationOutcome where
  | Ok
  | SequenceGap (expected actual : Nat)
  | Handled (result : TransitionResult)

def verify_and_handle_errors (env : Env) (writer : WriterRef) (message : Message) (flags : VerificationFlags) :
    SessionM S VerificationOutcome := do
  let next := next_target (← get)
  let now ← timestamp_now env
  match verify_message_with_ctx message env.config next flags now with
  | .ok () => return .Ok
  | .error (.SequenceGap expected actual) => return .SequenceGap expected actual
  | .error (.InvalidMessage err) =>
    let result ← handle_verification_error env writer err
    return .Handled result

/-! ### Sequence gaps, state by state -/

def MAX_RESEND_ATTEMPTS : Nat := 3

def AwaitingResendState.new (writer : WriterRef) (begin_seq_number end_seq_number : Nat) : AwaitingResendState :=
  ⟨writer,begin_seq_number,end_seq_number,[],1⟩

inductive AwaitingResendTransitionOutcome where
  | Success
  | BeginSeqNumberTooLow
  | AttemptsExceeded
  deriving DecidableEq

def AwaitingResendState.update (state : AwaitingResendState) (begin_seq_number end_seq_number : Nat) :
    AwaitingResendTransitionOutcome × AwaitingResendState :=
  if state.begin_seq_number = begin_seq_number then
    if state.resend_attempts + 1 > MAX_RESEND_ATTEMPTS then (.AttemptsExceeded,state)
    else (.Success,{ state with resend_attempts := state.resend_attempts + 1, begin_seq_number, end_seq_number })
  else if begin_seq_number < state.begin_seq_number then (.BeginSeqNumberTooLow,state)
  else (.Success,{ state with resend_attempts := 1, begin_seq_number, end_seq_number })

def request_resend (env : Env) (writer : WriterRef) (expected actual : Nat) : SessionM S Unit := do
  let sent ← send_message_to env writer (ResendRequest.outbound ⟨expected,actual⟩)
  let _ ← with_send_context "resend request" sent

/-- The treatment of a gap in `Active` and in `AwaitingLogon`. -/
def open_gap (env : Env) (writer : WriterRef) (expected actual : Nat) : SessionM S VerificationResult := do
  let awaiting_resend := AwaitingResendState.new writer expected actual
  request_resend env writer expected actual
  return .Issue (.TransitionTo (.AwaitingResend awaiting_resend))

def AwaitingResendState.handle_gap (env : Env) (state : AwaitingResendState) (expected actual : Nat) :
    SessionM S VerificationResult :=
  match state.update expected actual with
  | (.Success,updated) => do
    set_state (.AwaitingResend updated)
    request_resend env updated.writer expected actual
    return .Issue .Stay
  | (.BeginSeqNumberTooLow,_) => do
    disconnect state.writer
    return .Issue (.TransitionTo (.new_disconnected false (ascii
      "awaiting resend begin seq number unexpectedly lower than the previous resend request's")))
  | (.AttemptsExceeded,_) => do
    disconnect state.writer
    return .Issue (.TransitionTo (.new_disconnected false (ascii
      "resend request attempts exceeded, manual intervention required")))

/-- `SessionState::handle_verification_issue`: nothing is verified while
    disconnected. -/
def handle_verification_issue (env : Env) (message : Message) (flags : VerificationFlags) :
    SessionM S VerificationResult := do
  match (← get).state with
  | .Disconnected _ => return .Passed
  | .Active state =>
    match ← verify_and_handle_errors env state.writer message flags with
    | .Ok => return .Passed
    | .Handled result => return .Issue result
    | .SequenceGap expected actual => open_gap env state.writer expected actual
  | .AwaitingResend state =>
    match ← verify_and_handle_errors env state.writer message flags with
    | .Ok => return .Passed
    | .Handled result => return .Issue result
    | .SequenceGap expected actual => state.handle_gap env expected actual
  | .AwaitingLogon state =>
    match ← verify_and_handle_errors env state.writer message flags with
    | .Ok => return .Passed
    | .Handled result => return .Issue result
    | .SequenceGap expected actual => open_gap env state.writer expected actual
  | .AwaitingLogout state =>
    match ← verify_and_handle_errors env state.writer message flags with
    | .Ok => return .Passed
    | .Handled result => return .Issue result
    | .SequenceGap _ _ => return .Issue .Stay

/-! ### Handlers -/

def handle_invalid_msg_type (env : Env) (writer : WriterRef) (message : Message) (msg_type : Bytes) :
    SessionM S Unit :=
  match message.msg_seq_num with
  | none => return ()
  | some msg_seq_num => do
    let _ ← send_reject env writer msg_seq_num .InvalidMsgtype (ascii "invalid message type " ++ msg_type)
    if next_target (← get) = msg_seq_num then
      let _ ← increment_target

/-- `inbound::on_test_request`. -/
def answer_test_request (env : Env) (writer : WriterRef) (message : Message) : SessionM S Unit :=
  match message.body.get_str TEST_REQ_ID with
  | none => throw (.Panic "not yet implemented")
  | some req_id => do
    store_result (← increment_target)
    let sent ← send_message_to env writer (Heartbeat.for_request req_id).outbound
    let _ ← with_send_context "heartbeat response" sent

/-- `inbound::on_sequence_reset`. -/
def take_sequence_reset (env : Env) (writer : WriterRef) (message : Message) : SessionM S Unit := do
  let msg_seq_num ← get_msg_seq_num message
  match message.body.get_u64 NEW_SEQ_NO with
  | none =>
    let sent ← send_reject env writer msg_seq_num .RequiredTagMissing
      (ascii "missing NewSeqNo tag in sequence reset message")
    let _ ← with_send_context "reject for missing NEW_SEQ_NO" sent
  | some new_seq_no =>
    if new_seq_no ≤ next_target (← get) then
      let sent ← send_reject env writer msg_seq_num .ValueIsIncorrect
        (ascii "attempt to lower sequence number, invalid value NewSeqNo(36)=" ++ Decimal.decimal new_seq_no)
      let _ ← with_send_context "reject for invalid sequence reset" sent
    else store_result (← set_target (new_seq_no - 1))

/-- `inbound::on_resend_request`. -/
def answer_resend_request (env : Env) (writer : WriterRef) (message : Message) : SessionM S Unit := do
  let msg_seq_num ← get_msg_seq_num message
  let expected := next_target (← get)
  match message.body.get_u64 BEGIN_SEQ_NO with
  | none =>
    let sent ← send_reject env writer msg_seq_num .RequiredTagMissing
      (ascii "missing begin sequence number for resend request")
    let _ ← with_send_context "reject for missing BEGIN_SEQ_NO" sent
  | some begin_seq_number =>
    match message.body.get_u64 END_SEQ_NO with
    | none =>
      let sent ← send_reject env writer msg_seq_num .RequiredTagMissing
        (ascii "missing end sequence number for resend request")
      let _ ← with_send_context "reject for missing END_SEQ_NO" sent
    | some requested =>
      let last_seq_number := next_sender (← get) - 1
      let end_seq_number := if requested = 0 then last_seq_number else min requested last_seq_number
      if msg_seq_num = expected then store_result (← increment_target)
      resend_messages env writer begin_seq_number end_seq_number

end HotFix
