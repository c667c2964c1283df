import HotFix.Verification
import HotFix.Store

/-!
The session's state and the world it acts on. A handler is a computation over the
world that may return an error or panic. The journal lists, in order, what the
session did to the outside (frames handed to a writer, calls of the application,
answers), what it did to the expected number of its store, and the connections
and valid messages that came in. Deadlines are left out: a timer that is armed
may fire at any moment.
-/
namespace HotFix

inductive InternalSendError where
  | Persist (error : StoreError)
  | SequenceNumber (error : StoreError)
  deriving DecidableEq

inductive SessionOperationError where
  | Send (source : InternalSendError) (context : String)
  | Store (error : StoreError)
  | StoredMessageParse (raw_message : Bytes)
  | MissingField (name : String)
  deriving DecidableEq

/-- The writer of one connection. -/
structure WriterRef where
  connection : Nat
  deriving DecidableEq

structure AwaitingLogonState where
  writer : WriterRef
  logon_sent : Bool

structure AwaitingResendState where
  writer : WriterRef
  begin_seq_number : Nat
  end_seq_number : Nat
  inbound_queue : List Message
  resend_attempts : Nat

structure AwaitingLogoutState where
  writer : WriterRef
  reconnect : Bool

structure ActiveState where
  writer : WriterRef
  sent_test_request_id : Option Bytes

/-- A responder of a query about the schedule, by number. -/
abbrev Responder := Nat

structure DisconnectedState where
  reconnect : Bool
  schedule_awaiter : Option Responder
  reason : Bytes

inductive SessionState where
  | AwaitingLogon (state : AwaitingLogonState)
  | AwaitingResend (state : AwaitingResendState)
  | AwaitingLogout (state : AwaitingLogoutState)
  | Active (state : ActiveState)
  | Disconnected (state : DisconnectedState)

inductive Status where
  | AwaitingLogon
  | AwaitingResend (first last attempts : Nat)
  | AwaitingLogout
  | Active
  | LoggedOut
  | Disconnected
  deriving DecidableEq

inductive ScheduleResponse where
  | InSchedule
  | Shutdown
  deriving DecidableEq

inductive Effect where
  | Connected (writer : WriterRef)
  | Received (message : Message)
  | Sent (writer : WriterRef) (message : Message) (raw : Bytes)
  | Disconnect (writer : WriterRef)
  | OnLogon
  | OnLogout (reason : Bytes)
  | OnInboundMessage (message : Message)
  | OnOutboundMessage (message_type : Bytes)
  | OnStateChange (old new : Status)
  | TargetIncremented
  | TargetSet (next : Nat)
  | StoreReset
  | ScheduleAnswer (responder : Responder) (response : ScheduleResponse)
  | ReconnectAnswer (answer : Bool)
  | InfoAnswer (next_sender_seq_number next_target_seq_number : Nat) (status : Status)

inductive InboundDecision where
  | Accept
  | Reject (reason : BusinessRejectReason) (text : Option Bytes)
  | TerminateSession

inductive OutboundDecision where
  | Send
  | Drop
  | TerminateSession
  deriving DecidableEq

/-- The application decides on what has happened so far and on the message. -/
structure Application where
  on_inbound_message : List Effect → Message → InboundDecision
  on_outbound_message : List Effect → OutboundMessage → OutboundDecision

inductive WhichTime where
  | First
  | Second
  | Both
  deriving DecidableEq

inductive SessionPeriodComparison where
  | SamePeriod
  | DifferentPeriod
  | OutsideSessionTime (which : WhichTime)
  deriving DecidableEq

/-- A schedule calculation that fails, as on a clock change. -/
structure ScheduleError where
  context : Bytes
  deriving DecidableEq

/-- What the session does not change: its configuration, the message builder, the
    application, the schedule, and the clock as its successive readings. -/
structure Env where
  config : SessionConfig
  message_config : Config
  build : Bytes → ParsedMessage
  application : Application
  is_active_at : DateTime → Bool
  is_same_session_period : DateTime → DateTime → Except ScheduleError SessionPeriodComparison
  utc_now : Nat → DateTime
  timestamp_now : Nat → Timestamp

structure World (S : Type) where
  store : S
  state : SessionState
  reset_on_next_logon : Bool
  clock_readings : Nat
  journal : List Effect

abbrev SessionM (S : Type) := EStateM (Abort SessionOperationError) (World S)

namespace SessionState

def new_disconnected (reconnect : Bool) (reason : Bytes) : SessionState := .Disconnected ⟨reconnect,none,reason⟩

def new_active (writer : WriterRef) : SessionState := .Active ⟨writer,none⟩

def get_writer : SessionState → Option WriterRef
  | .Active state => some state.writer
  | .AwaitingLogon state => some state.writer
  | .AwaitingLogout state => some state.writer
  | .AwaitingResend state => some state.writer
  | .Disconnected _ => none

/-- The responder that a disconnected session keeps. -/
def awaiter : SessionState → Option Responder
  | .Disconnected state => state.schedule_awaiter
  | _ => none

def is_connected (state : SessionState) : Bool := state.get_writer.isSome

def is_logged_on : SessionState → Bool
  | .Active _ => true
  | .AwaitingResend _ => true
  | _ => false

def is_awaiting_logon : SessionState → Bool
  | .AwaitingLogon _ => true
  | _ => false

def is_awaiting_logout : SessionState → Bool
  | .AwaitingLogout _ => true
  | _ => false

def expected_test_response_id : SessionState → Option Bytes
  | .Active state => state.sent_test_request_id
  | _ => none

def is_expecting_test_response (state : SessionState) : Bool := state.expected_test_response_id.isSome

/-- Whether the timer for our heartbeat is armed. -/
def has_heartbeat_deadline : SessionState → Bool
  | .Active _ => true
  | _ => false

/-- Whether the timer for the peer's next message is armed. -/
def has_peer_deadline : SessionState → Bool
  | .Active _ => true
  | .AwaitingLogon _ => true
  | .AwaitingLogout _ => true
  | _ => false

def reset_peer_timer (test_request_id : Option Bytes) : SessionState → SessionState
  | .Active state => .Active { state with sent_test_request_id := test_request_id }
  | state => state

def should_reconnect : SessionState → Bool
  | .Disconnected state => state.reconnect
  | _ => true

def as_status : SessionState → Status
  | .AwaitingLogon _ => .AwaitingLogon
  | .AwaitingResend state => .AwaitingResend state.begin_seq_number state.end_seq_number state.resend_attempts
  | .AwaitingLogout _ => .AwaitingLogout
  | .Active _ => .Active
  | .Disconnected _ => .Disconnected

end SessionState

inductive TransitionResult where
  | Stay
  | TransitionTo (state : SessionState)

inductive PreProcessDecision where
  | Accept (message : Message)
  | Queued
  | Disconnect

inductive VerificationResult where
  | Passed
  | Issue (result : TransitionResult)

variable {S : Type}

/-! ### The journal, the clock and the store -/

def note (effect : Effect) : SessionM S Unit := modify (fun w => { w with journal := w.journal ++ [effect] })

def set_state (state : SessionState) : SessionM S Unit := modify (fun w => { w with state := state })

/-- The next reading of the clock. -/
def utc_now (env : Env) : SessionM S DateTime := do
  let w ← get
  modify (fun w => { w with clock_readings := w.clock_readings + 1 })
  return env.utc_now w.clock_readings

def timestamp_now (env : Env) : SessionM S Timestamp := do
  let w ← get
  modify (fun w => { w with clock_readings := w.clock_readings + 1 })
  return env.timestamp_now w.clock_readings

/-- A store operation, and the effect it has on the expected number when it succeeds. -/
def store_operation (operation : S → Except StoreError Unit × S) (effects : List Effect) :
    SessionM S (Except StoreError Unit) := do
  let w ← get
  match operation w.store with
  | (.ok (),store) =>
    modify (fun w => { w with store := store, journal := w.journal ++ effects })
    return .ok ()
  | (.error e,store) =>
    modify (fun w => { w with store := store })
    return .error e

/-- The `?` operator on the result of a store operation. -/
def store_result : Except StoreError Unit → SessionM S Unit
  | .ok () => pure ()
  | .error e => throw (.Error (.Store e))

def with_send_context {α : Type} (context : String) : Except InternalSendError α → SessionM S α
  | .ok a => pure a
  | .error source => throw (.Error (.Send source context))

section
variable [MessageStore S]
open MessageStore

def next_target (w : World S) : Nat := next_target_seq_number w.store
def next_sender (w : World S) : Nat := next_sender_seq_number w.store

def increment_target : SessionM S (Except StoreError Unit) :=
  store_operation increment_target_seq_number [.TargetIncremented]

/-- The store keeps the last number seen, so the next expected is one more. -/
def set_target (seq_number : Nat) : SessionM S (Except StoreError Unit) :=
  store_operation (set_target_seq_number seq_number) [.TargetSet (seq_number + 1)]

def reset_store (env : Env) : SessionM S (Except StoreError Unit) := do
  let now ← utc_now env
  store_operation (MessageStore.reset now) [.StoreReset]

/-! ### Sending -/

structure PreparedMessage where
  seq_num : Nat
  message : Message
  raw : Bytes

def prepare_message (env : Env) (message : OutboundMessage) :
    SessionM S (Except InternalSendError PreparedMessage) := do
  let seq_num := next_sender (← get)
  let now ← timestamp_now env
  match generate_message env.config.begin_string env.config.sender_comp_id env.config.target_comp_id seq_num
      message now with
  | .error panic => throw (.Panic panic)
  | .ok (msg,raw) =>
    match ← store_operation increment_sender_seq_number [] with
    | .error e => return .error (.SequenceNumber e)
    | .ok () =>
      match ← store_operation (add seq_num raw) [] with
      | .error e => return .error (.Persist e)
      | .ok () => return .ok ⟨seq_num,msg,raw⟩

def send_raw_message (writer : WriterRef) (message : Message) (raw : Bytes) : SessionM S Unit :=
  note (.Sent writer message raw)

def disconnect (writer : WriterRef) : SessionM S Unit := note (.Disconnect writer)

/-- `outbound::send_message`: to a given writer, in any state. -/
def send_message_to (env : Env) (writer : WriterRef) (message : OutboundMessage) :
    SessionM S (Except InternalSendError Nat) := do
  match ← prepare_message env message with
  | .error e => return .error e
  | .ok prepared =>
    send_raw_message writer prepared.message prepared.raw
    return .ok prepared.seq_num

/-- What `SessionState::send_message` does with a prepared message in each state. -/
def write_prepared (message_type : Bytes) (prepared : PreparedMessage) : SessionM S Unit := do
  let w ← get
  match w.state with
  | .Active state =>
    if message_type = Logon.MSG_TYPE then return () else send_raw_message state.writer prepared.message prepared.raw
  | .AwaitingResend state =>
    if message_type = Logon.MSG_TYPE then return () else send_raw_message state.writer prepared.message prepared.raw
  | .AwaitingLogon state =>
    if message_type = Logon.MSG_TYPE then
      if state.logon_sent then return () else
      send_raw_message state.writer prepared.message prepared.raw
      set_state (.AwaitingLogon { state with logon_sent := true })
    else if message_type = Logout.MSG_TYPE then send_raw_message state.writer prepared.message prepared.raw
    else return ()
  | .AwaitingLogout _ => return ()
  | .Disconnected _ => return ()

/-- `SessionState::send_message`. -/
def send_message (env : Env) (message : OutboundMessage) : SessionM S (Except InternalSendError Nat) := do
  match ← prepare_message env message with
  | .error e => return .error e
  | .ok prepared =>
    write_prepared message.message_type prepared
    return .ok prepared.seq_num

def disconnect_writer : SessionM S Unit := do
  match (← get).state.get_writer with
  | some writer => disconnect writer
  | none => return ()

def send_logout (env : Env) (reason : Bytes) : SessionM S Unit := do
  let sent ← send_message env (Logout.with_reason reason).outbound
  let _ ← with_send_context "logout" sent

/-- A failed logout is only logged; a panic is not caught. -/
def logout_and_terminate (env : Env) (reason : Bytes) : SessionM S Unit := do
  let _ ← send_message env (Logout.with_reason reason).outbound
  disconnect_writer

def apply_transition : TransitionResult → SessionM S Unit
  | .Stay => return ()
  | .TransitionTo new_state => do
    let old_status := (← get).state.as_status
    set_state new_state
    let new_status := new_state.as_status
    if old_status ≠ new_status then note (.OnStateChange old_status new_status)

def get_msg_seq_num (message : Message) : SessionM S Nat :=
  match message.msg_seq_num with
  | some n => pure n
  | none => throw (.Panic "MsgSeqNum missing from validated message - parser bug")

/-! ### Resending -/

def send_sequence_reset (env : Env) (writer : WriterRef) (first last : Nat) : SessionM S Unit := do
  let now ← timestamp_now env
  match generate_message env.config.begin_string env.config.sender_comp_id env.config.target_comp_id first
      (SequenceReset.outbound ⟨true,last⟩) now with
  | .error panic => throw (.Panic panic)
  | .ok (msg,raw) => send_raw_message writer msg raw

/-- The gap fill that is due, up to but not including `last`. -/
def flush_reset (env : Env) (writer : WriterRef) (last : Nat) : Option Nat → SessionM S Unit
  | some first => send_sequence_reset env writer first last
  | none => return ()

/-- The loop of `resend_messages`, with the start of the pending gap fill and the
    last number seen. -/
def resend_loop (env : Env) (writer : WriterRef) : List Bytes → Option Nat → Nat → SessionM S Unit
  | [],reset_start,sequence_number => flush_reset env writer sequence_number reset_start
  | msg :: rest,reset_start,_ => do
    match (env.build msg).into_message with
    | none => throw (.Error (.StoredMessageParse msg))
    | some message =>
      let sequence_number ← get_msg_seq_num message
      match message.msg_type with
      | none => throw (.Error (.MissingField "MSG_TYPE"))
      | some message_type =>
        if is_admin message_type then
          resend_loop env writer rest (some (reset_start.getD sequence_number)) sequence_number
        else
          flush_reset env writer sequence_number reset_start
          let now ← timestamp_now env
          let (prepared,_) := prepare_message_for_resend message now
          let (encoded,raw) := prepared.encode env.message_config
          send_raw_message writer encoded raw
          resend_loop env writer rest none sequence_number

/-- An error or a panic of the slice that the store cuts out. -/
def slice_result : Except (Abort StoreError) (List Bytes) → SessionM S (List Bytes)
  | .ok messages => pure messages
  | .error (.Error e) => throw (.Error (.Store e))
  | .error (.Panic message) => throw (.Panic message)

def resend_messages (env : Env) (writer : WriterRef) (first last : Nat) : SessionM S Unit := do
  let messages ← slice_result (get_slice first last (← get).store)
  resend_loop env writer messages none 0

end
end HotFix
