import HotFix.Inbound

/-!
The session: how an inbound frame is processed, how the end of a resend replays
the backlog, how every event of the session loop is handled, and the runs of the
loop.
-/
namespace HotFix
variable {S : Type} [MessageStore S]

/-! ### Processing a message -/

/-- `pre_process_inbound`: while a resend is awaited, what lies beyond it waits in
    the queue; before the logon only a Logon is taken. -/
def pre_process_inbound (message : Message) : SessionM S PreProcessDecision := do
  match (← get).state with
  | .AwaitingResend state =>
    let dominated_by_resend := message.msg_type.any (fun t => t ≠ ResendRequest.MSG_TYPE)
    let msg_seq_num ← get_msg_seq_num message
    if msg_seq_num > state.end_seq_number && dominated_by_resend then
      set_state (.AwaitingResend { state with inbound_queue := state.inbound_queue ++ [message] })
      return .Queued
    else return .Accept message
  | .AwaitingLogon _ =>
    if message.msg_type = some Logon.MSG_TYPE then return .Accept message else return .Disconnect
  | _ => return .Accept message

def process_app_message (env : Env) (message : Message) : SessionM S Unit := do
  let decision := env.application.on_inbound_message (← get).journal message
  note (.OnInboundMessage message)
  match decision with
  | .Accept => pure ()
  | .Reject reason text =>
    match message.msg_type with
    | none => throw (.Error (.MissingField "MSG_TYPE"))
    | some msg_type =>
      let msg_seq_num ← get_msg_seq_num message
      let sent ← send_message env (BusinessReject.outbound ⟨msg_type,reason,some msg_seq_num,text⟩)
      let _ ← with_send_context "business message reject" sent
  | .TerminateSession => disconnect_writer
  store_result (← increment_target)

def on_heartbeat (message : Message) : SessionM S Unit := do
  let expected := (← get).state.expected_test_response_id
  if expected.isSome ∧ expected = message.body.get_str TEST_REQ_ID then
    modify (fun w => { w with state := w.state.reset_peer_timer none })
  store_result (← increment_target)

def on_test_request (env : Env) (message : Message) : SessionM S Unit := do
  match (← get).state.get_writer with
  | some writer => answer_test_request env writer message
  | none => return ()

def on_resend_request (env : Env) (message : Message) : SessionM S Unit := do
  let w ← get
  if w.state.is_connected then
    let msg_seq_num ← get_msg_seq_num message
    match w.state with
    | .AwaitingResend state =>
      if msg_seq_num > next_target w then
        set_state (.AwaitingResend { state with inbound_queue := state.inbound_queue ++ [message] })
    | _ => pure ()
    match w.state.get_writer with
    | some writer => answer_resend_request env writer message
    | none => return ()

def on_reject : SessionM S Unit := do store_result (← increment_target)

def on_sequence_reset (env : Env) (message : Message) : SessionM S Unit := do
  match (← get).state.get_writer with
  | some writer => take_sequence_reset env writer message
  | none => return ()

/-- `SessionState::on_peer_logout`. -/
def SessionState.on_peer_logout : SessionState → TransitionResult
  | .AwaitingLogout state => .TransitionTo (.new_disconnected state.reconnect (ascii "logout completed"))
  | .Disconnected _ => .Stay
  | _ => .TransitionTo (.new_disconnected true (ascii "peer has logged us out"))

def on_logout (env : Env) : SessionM S Unit := do
  if (← get).state.is_logged_on then send_logout env (ascii "Logout acknowledged")
  note (.OnLogout (ascii "peer has logged us out"))
  disconnect_writer
  apply_transition (← get).state.on_peer_logout
  store_result (← increment_target)

/-- Only `AwaitingLogon` makes a transition; every other state stays. -/
def on_logon : SessionM S Unit := do
  match (← get).state with
  | .AwaitingLogon state =>
    note .OnLogon
    store_result (← increment_target)
    apply_transition (.TransitionTo (.new_active state.writer))
  | _ => return ()

def dispatch (env : Env) (kind : MsgKind) (message : Message) : SessionM S Unit :=
  match kind with
  | .Heartbeat => on_heartbeat message
  | .TestRequest => on_test_request env message
  | .ResendRequest => on_resend_request env message
  | .Reject => on_reject
  | .SequenceReset => on_sequence_reset env message
  | .Logout => on_logout env
  | .Logon => on_logon
  | .Application => process_app_message env message

def process_message (env : Env) (message : Message) : SessionM S Unit := do
  match ← pre_process_inbound message with
  | .Queued => return ()
  | .Disconnect => disconnect_writer
  | .Accept message =>
    match message.msg_type,VerificationFlags.for_message message with
    | some message_type,some flags =>
      match ← handle_verification_issue env message flags with
      | .Issue result => apply_transition result
      | .Passed => dispatch env (msg_kind message_type) message
    | _,_ => throw (.Error (.MissingField "MSG_TYPE"))

/-! ### The end of a resend -/

/-- One message of the backlog: a ResendRequest was answered when it arrived and
    is only counted. -/
def replay_message (env : Env) (message : Message) : SessionM S Unit := do
  if message.msg_type.getD [] = ResendRequest.MSG_TYPE then store_result (← increment_target)
  else process_message env message

def replay (env : Env) : List Message → SessionM S Unit
  | [] => return ()
  | message :: rest => do
    replay_message env message
    replay env rest

/-- The backlog to replay, once the expected number has passed the end of the gap. -/
def try_complete (state : AwaitingResendState) (next_target_seq : Nat) : Option (SessionState × List Message) :=
  if next_target_seq > state.end_seq_number then some (.new_active state.writer,state.inbound_queue) else none

def check_end_of_resend (env : Env) : SessionM S Unit := do
  let w ← get
  match w.state with
  | .AwaitingResend state =>
    match try_complete state (next_target w) with
    | some (new_state,backlog) =>
      apply_transition (.TransitionTo new_state)
      replay env backlog
    | none => return ()
  | _ => return ()

/-! ### Events -/

def send_reject_for (env : Env) (message : Message) (reason : SessionRejectReason) (text : Bytes) (context : String) :
    SessionM S Unit :=
  match message.msg_seq_num with
  | none => return ()
  | some msg_seq_num => do
    let sent ← send_message env (Reject.outbound ⟨msg_seq_num,reason,text⟩)
    let _ ← with_send_context context sent

def on_invalid (env : Env) (message : Message) : InvalidReason → SessionM S Unit
  | .InvalidField tag => send_reject_for env message .InvalidTagNumber (ascii "invalid field " ++ Decimal.decimal tag)
      "reject for invalid field"
  | .InvalidGroup tag => send_reject_for env message .InvalidTagNumber (ascii "invalid field " ++ Decimal.decimal tag)
      "reject for invalid field"
  | .InvalidComponent _ => return ()
  | .InvalidMsgType msg_type => do
    match (← get).state.get_writer with
    | some writer => handle_invalid_msg_type env writer message msg_type
    | none => return ()
  | .InvalidOrderInGroup tag _ => send_reject_for env message .RepeatingGroupFieldsOutOfOrder
      (ascii "field appears in incorrect order:" ++ Decimal.decimal tag) "reject for invalid group order"
  | .RequiredFieldMissing tag group_tag => send_reject_for env message .RequiredTagMissing
      (match group_tag with
        | some group_tag => ascii "required tag missing: " ++ Decimal.decimal tag ++ ascii " (in group " ++
            Decimal.decimal group_tag ++ ascii ")"
        | none => ascii "required tag missing: " ++ Decimal.decimal tag)
      "reject for missing required field"

def on_incoming (env : Env) (raw_message : Bytes) : SessionM S Unit := do
  if ¬ (← get).state.is_expecting_test_response then
    modify (fun w => { w with state := w.state.reset_peer_timer none })
  match env.build raw_message with
  | .Valid message =>
    note (.Received message)
    process_message env message
    check_end_of_resend env
  | .Garbled _ => return ()
  | .Invalid message reason => on_invalid env message reason
  | .UnexpectedError _ => return ()

def send_logon (env : Env) : SessionM S Unit := do
  let w ← get
  let reset_config ← if env.config.reset_on_logon || w.reset_on_next_logon then
      store_result (← reset_store env)
      pure ResetSeqNumConfig.Reset
    else pure (ResetSeqNumConfig.NoReset (some (next_target w)))
  modify (fun w => { w with reset_on_next_logon := false })
  let sent ← send_message env (Logon.new env.config.heartbeat_interval reset_config).outbound
  let _ ← with_send_context "logon" sent

def on_connect (env : Env) (writer : WriterRef) : SessionM S Unit := do
  note (.Connected writer)
  apply_transition (.TransitionTo (.AwaitingLogon ⟨writer,false⟩))
  modify (fun w => { w with state := w.state.reset_peer_timer none })
  send_logon env

/-- `SessionState::on_disconnect`. -/
def SessionState.on_disconnect (reason : Bytes) : SessionState → TransitionResult
  | .AwaitingLogout state => .TransitionTo (.new_disconnected state.reconnect reason)
  | .Disconnected _ => .Stay
  | _ => .TransitionTo (.new_disconnected true reason)

def on_disconnect (reason : Bytes) : SessionM S Unit := do
  disconnect_writer
  apply_transition ((← get).state.on_disconnect reason)

/-- Errors are handled, panics are not. -/
def catch_error (x : SessionM S Unit) (handler : SessionOperationError → SessionM S Unit) : SessionM S Unit := fun w =>
  match x w with
  | .error (.Error err) w => handler err w
  | result => result

/-- The bytes of a vector in debug format. -/
def debug_bytes (data : Bytes) : Bytes :=
  ascii "[" ++ List.intercalate (ascii ", ") (data.map (fun byte => Decimal.decimal byte.toNat)) ++ ascii "]"

def SessionOperationError.to_string : SessionOperationError → Bytes
  | .Send _ context => ascii "failed to send " ++ ascii context
  | .Store _ => ascii "store operation failed"
  | .StoredMessageParse raw_message =>
    ascii "failed to parse stored message: failed to build message for raw message: " ++ debug_bytes raw_message
  | .MissingField name => ascii "missing required field: " ++ ascii name

/-- `try_transition_to_awaiting_logout`. -/
def SessionState.try_transition_to_awaiting_logout (reconnect : Bool) : SessionState → TransitionResult
  | .AwaitingLogout _ => .Stay
  | state =>
    match state.get_writer with
    | some writer => .TransitionTo (.AwaitingLogout ⟨writer,reconnect⟩)
    | none => .Stay

def initiate_graceful_logout (env : Env) (reason : Bytes) (reconnect : Bool) : SessionM S TransitionResult := do
  let result := (← get).state.try_transition_to_awaiting_logout reconnect
  match result with
  | .TransitionTo _ => send_logout env reason
  | .Stay => pure ()
  return result

/-- A graceful logout whose failure is only logged. -/
def log_out_gracefully (env : Env) (reason : Bytes) (reconnect : Bool) : SessionM S Unit :=
  catch_error (do apply_transition (← initiate_graceful_logout env reason reconnect)) (fun _ => return ())

def notify_schedule_awaiter : SessionM S Unit := do
  match (← get).state with
  | .Disconnected state =>
    match state.schedule_awaiter with
    | some responder =>
      set_state (.Disconnected { state with schedule_awaiter := none })
      note (.ScheduleAnswer responder .InSchedule)
    | none => return ()
  | _ => return ()

def register_schedule_awaiter (responder : Responder) : SessionM S Unit := do
  match (← get).state with
  | .Disconnected state =>
    if state.schedule_awaiter.isSome then note (.ScheduleAnswer responder .Shutdown)
    else set_state (.Disconnected { state with schedule_awaiter := some responder })
  | _ => note (.ScheduleAnswer responder .Shutdown)

/-- The end of a session period: terminate, and start over with an empty store. -/
def restart_period (env : Env) (reason : Bytes) : SessionM S Unit := do
  logout_and_terminate env reason
  match ← reset_store env with
  | .ok () => return ()
  | .error _ => apply_transition (.TransitionTo (.new_disconnected false (ascii "unexpected error in reset")))

def handle_schedule_check (env : Env) : SessionM S Unit := do
  let now ← utc_now env
  if env.is_active_at now then
    notify_schedule_awaiter
    match env.is_same_session_period (MessageStore.creation_time (← get).store) now with
    | .ok .SamePeriod => return ()
    | .ok .DifferentPeriod => restart_period env (ascii "session period changed")
    | .ok (.OutsideSessionTime _) => restart_period env (ascii "creation time outside schedule")
    | .error _ => logout_and_terminate env (ascii "internal error")
  else if (← get).state.is_connected then log_out_gracefully env (ascii "End of session time") true

inductive SessionEvent where
  | FixMessageReceived (raw_message : Bytes)
  | Disconnected (reason : Bytes)
  | Connected (writer : WriterRef)
  | ShouldReconnect
  | AwaitSchedule (responder : Responder)

def handle_session_event (env : Env) (event : SessionEvent) : SessionM S Unit := do
  handle_schedule_check env
  match event with
  | .FixMessageReceived fix_message =>
    catch_error (on_incoming env fix_message) (fun err => do
      logout_and_terminate env (ascii "internal error")
      apply_transition (.TransitionTo (.new_disconnected true err.to_string)))
  | .Disconnected reason => on_disconnect reason
  | .Connected writer => catch_error (on_connect env writer) (fun _ => return ())
  | .ShouldReconnect => note (.ReconnectAnswer (← get).state.should_reconnect)
  | .AwaitSchedule responder => register_schedule_awaiter responder

inductive SendError where
  | Disconnected
  | Persist (error : StoreError)
  | SequenceNumber (error : StoreError)
  | SessionTerminated
  deriving DecidableEq

def SendError.from : InternalSendError → SendError
  | .Persist e => .Persist e
  | .SequenceNumber e => .SequenceNumber e

inductive SendOutcome where
  | Sent (sequence_number : Nat)
  | Dropped
  deriving DecidableEq

def send_app_message (env : Env) (message : OutboundMessage) : SessionM S (Except SendError SendOutcome) := do
  let w ← get
  if w.state.is_connected then
    note (.OnOutboundMessage message.message_type)
    match env.application.on_outbound_message w.journal message with
    | .Send =>
      match ← send_message env message with
      | .ok sequence_number => return .ok (.Sent sequence_number)
      | .error e => return .error (.from e)
    | .Drop => return .ok .Dropped
    | .TerminateSession =>
      disconnect_writer
      return .error .SessionTerminated
  else return .error .Disconnected

def handle_outbound_message (env : Env) (message : OutboundMessage) : SessionM S Unit := do
  let _ ← send_app_message env message

inductive AdminRequest where
  | InitiateGracefulShutdown (reconnect : Bool)
  | RequestSessionInfo
  | ResetSequenceNumbersOnNextLogon
  | SetNextTargetSeqNum (seq_num : Nat) (nonzero : 0 < seq_num)

/-- `try_set_next_target_seq_num`: only while disconnected. The answer to the
    request is left out. -/
def try_set_next_target_seq_num (seq_num : Nat) : SessionM S Unit := do
  match (← get).state with
  | .Disconnected _ =>
    let _ ← set_target (seq_num - 1)
  | _ => return ()

def handle_admin_request (env : Env) : AdminRequest → SessionM S Unit
  | .InitiateGracefulShutdown reconnect => log_out_gracefully env (ascii "explicitly requested") reconnect
  | .RequestSessionInfo => do
    let w ← get
    note (.InfoAnswer (next_sender w) (next_target w) w.state.as_status)
  | .ResetSequenceNumbersOnNextLogon => modify (fun w => { w with reset_on_next_logon := true })
  | .SetNextTargetSeqNum seq_num _ => try_set_next_target_seq_num seq_num

def handle_heartbeat_timeout (env : Env) : SessionM S Unit := do
  let _ ← send_message env Heartbeat.default.outbound

def handle_peer_timeout (env : Env) : SessionM S Unit := do
  let w ← get
  if w.state.is_expecting_test_response then logout_and_terminate env (ascii "peer timeout")
  else if w.state.is_awaiting_logon then disconnect_writer
  else if w.state.is_awaiting_logout then disconnect_writer
  else
    let req_id := ascii "TEST_" ++ Decimal.decimal (next_target w)
    let _ ← send_message env (TestRequest.outbound ⟨req_id⟩)
    modify (fun w => { w with state := w.state.reset_peer_timer (some req_id) })

/-! ### Runs -/

/-- What wakes the session loop. -/
inductive Input where
  | Event (event : SessionEvent)
  | Outbound (message : OutboundMessage)
  | Admin (request : AdminRequest)
  | HeartbeatTimeout
  | PeerTimeout
  | ScheduleCheck

/-- A timer fires only while it is armed; everything else may come at any time. -/
def enabled (state : SessionState) : Input → Bool
  | .HeartbeatTimeout => state.has_heartbeat_deadline
  | .PeerTimeout => state.has_peer_deadline
  | _ => true

def handle_input (env : Env) : Input → SessionM S Unit
  | .Event event => handle_session_event env event
  | .Outbound message => handle_outbound_message env message
  | .Admin request => handle_admin_request env request
  | .HeartbeatTimeout => handle_heartbeat_timeout env
  | .PeerTimeout => handle_peer_timeout env
  | .ScheduleCheck => handle_schedule_check env

/-- A session on a given store, before its first connection. -/
def World.initial (store : S) : World S := ⟨store,.new_disconnected true (ascii "initialising"),false,0,[]⟩

/-- The worlds between two inputs of the loop, from a starting world, along inputs
    that are allowed where they are handled. -/
inductive Reachable (env : Env) (allowed : World S → Input → Prop) (start : World S) : World S → Prop where
  | start : Reachable env allowed start start
  | step {w w' : World S} {input : Input} (before : Reachable env allowed start w)
      (armed : enabled w.state input = true) (fine : allowed w input) (handled : handle_input env input w = .ok () w') :
      Reachable env allowed start w'

/-- The run over a list of inputs; a panic ends it. -/
def run (env : Env) : List Input → SessionM S Unit
  | [] => return ()
  | input :: rest => do
    handle_input env input
    run env rest

/-- Every input of the list is armed and allowed where it is handled, and handling
    it returns. -/
def AllowedAlong (env : Env) (allowed : World S → Input → Prop) : List Input → World S → Prop
  | [],_ => True
  | input :: rest,w => enabled w.state input = true ∧ allowed w input ∧
    match handle_input env input w with
    | .ok _ w' => AllowedAlong env allowed rest w'
    | .error _ _ => False

instance decidableAllowedAlong {env : Env} {allowed : World S → Input → Prop} [∀ w input, Decidable (allowed w input)] :
    ∀ (inputs : List Input) (w : World S), Decidable (AllowedAlong env allowed inputs w)
  | [],_ => .isTrue trivial
  | input :: rest,w =>
    let _later : Decidable (match handle_input env input w with
        | .ok _ w' => AllowedAlong env allowed rest w'
        | .error _ _ => False) :=
      match handle_input env input w with
      | .ok _ w' => decidableAllowedAlong rest w'
      | .error _ _ => .isFalse id
    inferInstanceAs (Decidable (_ ∧ _ ∧ _))

theorem reachable_append {env : Env} {allowed : World S → Input → Prop} {start : World S} {inputs : List Input} :
    ∀ {w : World S}, Reachable env allowed start w → AllowedAlong env allowed inputs w →
      Reachable env allowed start (Program.final (run env inputs w)) := by
  induction inputs with
  | nil => exact fun reached _ => reached
  | cons input rest ih =>
    intro w reached along
    obtain ⟨armed,fine,tail⟩ := along
    unfold run
    cases handled : handle_input env input w with
    | error e w' => simp [handled] at tail
    | ok value w' =>
      rw [handled] at tail
      rw [Program.bind_ok handled]
      exact ih (reached.step armed fine handled) tail

/-- The run over a list of inputs is a run of the loop. -/
theorem reachable_run {env : Env} {allowed : World S → Input → Prop} {start : World S} {inputs : List Input}
    (along : AllowedAlong env allowed inputs start) :
    Reachable env allowed start (Program.final (run env inputs start)) :=
  reachable_append .start along

theorem reachable_mono {env : Env} {allowed allowed' : World S → Input → Prop} {start w : World S}
    (more : ∀ w input, allowed w input → allowed' w input) (reached : Reachable env allowed start w) :
    Reachable env allowed' start w := by
  induction reached with
  | start => exact .start
  | step before armed fine handled ih => exact ih.step armed (more _ _ fine) handled

/-! ### A session against a peer, for examples -/

namespace Sample

def config : SessionConfig := ⟨ascii "FIX.4.4",ascii "US",ascii "PEER",30,false⟩

/-- Noon of the first day of 2024. -/
def now : Timestamp :=
  ⟨⟨2024,1,1,by decide,by decide,by decide⟩,⟨12,0,0,0,by decide,by decide,by decide,by decide⟩⟩

/-- A message with further fields. -/
def message_from (sender target message_type : Bytes) (n : Nat) (fields : List (FieldDefinition × Bytes)) : Message :=
  fields.foldl (fun m f => m.set f.1 f.2)
    (((((Message.new config.begin_string message_type).set SENDER_COMP_ID sender).set TARGET_COMP_ID target).set
      MSG_SEQ_NUM (Decimal.decimal n)).set SENDING_TIME now.to_bytes)

/-- A message of the peer. -/
def message := message_from config.target_comp_id config.sender_comp_id

/-- The first message of the session itself. -/
def own_logon : Message :=
  message_from config.sender_comp_id config.target_comp_id Logon.MSG_TYPE 1
    [(ENCRYPT_METHOD,ascii "0"),(HEART_BT_INT,Decimal.decimal 30),(RESET_SEQ_NUM_FLAG,bool_bytes false),
      (NEXT_EXPECTED_MSG_SEQ_NUM,Decimal.decimal 1)]

@[irreducible] def wire (m : Message) : Bytes := (m.encode Config.default).2

/-- A builder that reads the frames of the given messages. -/
@[irreducible] def build (known : List (Message × (Message → ParsedMessage))) (raw : Bytes) : ParsedMessage :=
  match known.find? (fun entry => wire entry.1 == raw) with
  | some (m,parsed) => parsed (m.encode Config.default).1
  | none => .Garbled .Malformed

theorem build_first (m : Message) (parsed : Message → ParsedMessage) (known : List (Message × (Message → ParsedMessage))) :
    build ((m,parsed) :: known) (wire m) = parsed (m.encode Config.default).1 := by
  simp [build]

theorem build_skip {m m' : Message} (parsed : Message → ParsedMessage) (known : List (Message × (Message → ParsedMessage)))
    (other : wire m' ≠ wire m) : build ((m',parsed) :: known) (wire m) = build known (wire m) := by
  simp [build,other]

/-- A session that is always on schedule, with an application that accepts
    everything. -/
def env (known : List (Message × (Message → ParsedMessage))) : Env where
  config := config
  message_config := Config.default
  build := build known
  application := ⟨fun _ _ => .Accept,fun _ _ => .Send⟩
  is_active_at _ := true
  is_same_session_period _ _ := .ok .SamePeriod
  utc_now _ := 0
  timestamp_now _ := now

/-- The environment in which the given messages are valid, and the first message of
    the session. -/
def valid (known : List Message) : Env := env ((known ++ [own_logon]).map (fun m => (m,.Valid)))

abbrev Store := InMemoryMessageStore .exact

def start : World Store := World.initial (InMemoryMessageStore.new 0)

def is_event : Input → Bool
  | .Event _ => true
  | _ => false

def connect : Input := .Event (.Connected ⟨0⟩)
def receive (m : Message) : Input := .Event (.FixMessageReceived (wire m))
def logon : Message := message Logon.MSG_TYPE 1 []
def heartbeat (n : Nat) : Message := message Heartbeat.MSG_TYPE n []
/-- An execution report. -/
def report (n : Nat) : Message := message (ascii "8") n []
def reject (n : Nat) : Message := message Reject.MSG_TYPE n [(REF_SEQ_NUM,ascii "1")]
def resend_request (n first last : Nat) : Message :=
  message ResendRequest.MSG_TYPE n [(BEGIN_SEQ_NO,Decimal.decimal first),(END_SEQ_NO,Decimal.decimal last)]
def gap_fill (n new_seq_no : Nat) : Message :=
  message SequenceReset.MSG_TYPE n [(GAP_FILL_FLAG,bool_bytes true),(NEW_SEQ_NO,Decimal.decimal new_seq_no)]

/-- The world after the inputs. It is evaluated by the kernel alone. -/
@[irreducible] def after (environment : Env) (inputs : List Input) : World Store :=
  Program.final (run environment inputs start)

theorem reachable_after {environment : Env} {allowed : World Store → Input → Prop} {inputs : List Input}
    (along : AllowedAlong environment allowed inputs start) :
    Reachable environment allowed start (after environment inputs) := by
  unfold after
  exact reachable_run along

/-- The world after the inputs where the numbers of the store wrap. -/
@[irreducible] def wrapped (environment : Env) (inputs : List Input) : World (InMemoryMessageStore .wrapping) :=
  Program.final (run environment inputs (World.initial (InMemoryMessageStore.new 0)))

theorem reachable_wrapped {environment : Env} {allowed : World (InMemoryMessageStore .wrapping) → Input → Prop}
    {inputs : List Input} (along : AllowedAlong environment allowed inputs (World.initial (InMemoryMessageStore.new 0))) :
    Reachable environment allowed (World.initial (InMemoryMessageStore.new 0)) (wrapped environment inputs) := by
  unfold wrapped
  exact reachable_run along

/-- The message as the peer of its sender reads it. -/
def read (m : Message) : Message := (m.encode Config.default).1

end Sample
end HotFix
