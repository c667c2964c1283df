import HotFix.Sending

/-!
The session acts on its world through a few operations: it counts or sets the
expected number, resets the store, sends a message through one of two doors,
resends a range of stored messages, and otherwise changes nothing but its own
state and what it notes. A property of computations that each of these has, and
that lasts when computations are put together, holds of every input of the loop.
The handlers that count stand apart from those that do not, and those that can
panic or resend from those that cannot.
-/
namespace HotFix.Primitives
open HotFix.Program HotFix.Frames HotFix.Sending MessageStore
variable {S : Type} [MessageStore S]

/-- The store is left alone and no frame leaves. -/
def Aside (w w' : World S) : Prop :=
  w'.store = w.store ∧ ∃ entries, w'.journal = w.journal ++ entries ∧ entries.any is_frame = false

/-- The messages that the session itself sends through the two doors. -/
inductive Own : OutboundMessage → Prop where
  | heartbeat (h : Heartbeat) : Own h.outbound
  | testRequest (t : TestRequest) : Own t.outbound
  | resendRequest (r : ResendRequest) : Own r.outbound
  | reject (r : Reject) : Own r.outbound
  | logout (l : Logout) : Own l.outbound
  | logon (l : Logon) : Own l.outbound
  | businessReject (b : BusinessReject) : Own b.outbound

theorem Own.bodyOnly {o : OutboundMessage} (own : Own o) : BodyOnly o := by
  cases own with
  | heartbeat h => exact heartbeat_bodyOnly h
  | testRequest t => exact testRequest_bodyOnly t
  | resendRequest r => exact resendRequest_bodyOnly r
  | reject r => exact reject_bodyOnly r
  | logout l => exact logout_bodyOnly l
  | logon l => exact logon_bodyOnly l
  | businessReject b => exact businessReject_bodyOnly b

/-- The property lasts under composition and holds of what changes nothing but the
    state and the journal, and of sending, where `allowed` says what may be sent. -/
structure Still (env : Env) (allowed : OutboundMessage → Prop) (Q : (α : Type) → SessionM S α → Prop) : Prop where
  pure : ∀ {α : Type} (a : α), Q α (pure a)
  error : ∀ {α : Type} (e : SessionOperationError), Q α (throw (.Error e))
  read : Q (World S) get
  bind : ∀ {α β : Type} {x : SessionM S α} {f : α → SessionM S β}, Q α x → (∀ a, Q β (f a)) → Q β (x >>= f)
  catch_error : ∀ {x : SessionM S Unit} {handler : SessionOperationError → SessionM S Unit}, Q Unit x →
    (∀ e, Q Unit (handler e)) → Q Unit (catch_error x handler)
  aside : ∀ f : World S → World S, (∀ w, Aside w (f w)) → Q Unit (modify f)
  sent : ∀ o, allowed o → Q _ (send_message env o)
  sent_to : ∀ writer o, allowed o → Q _ (send_message_to env writer o)
  own : ∀ o, Own o → allowed o

/-- The property holds of what moves the expected number and of a reset too. -/
structure Quiet (env : Env) (allowed : OutboundMessage → Prop) (Q : (α : Type) → SessionM S α → Prop) : Prop
    extends Still env allowed Q where
  counted : Q _ increment_target
  jumped : ∀ n, Q _ (set_target n)
  restarted : Q _ (reset_store env)

/-- The property holds of panics and resends too. -/
structure Loud (env : Env) (allowed : OutboundMessage → Prop) (Q : (α : Type) → SessionM S α → Prop) : Prop
    extends Quiet env allowed Q where
  panic : ∀ {α : Type} (text : String), Q α (throw (.Panic text))
  resent : ∀ writer first last, Q _ (resend_messages env writer first last)

omit [MessageStore S] in
theorem ite_closed {α : Type} {Q : (α : Type) → SessionM S α → Prop} {c : Prop} [Decidable c] {x y : SessionM S α}
    (yes : Q α x) (no : Q α y) : Q α (if c then x else y) := by
  split
  · exact yes
  · exact no

/-- The message that an input asks to send, if any. -/
def Sends (allowed : OutboundMessage → Prop) : Input → Prop
  | .Outbound o => allowed o
  | _ => True

variable {env : Env} {allowed : OutboundMessage → Prop} {Q : (α : Type) → SessionM S α → Prop}

namespace Still
variable (still : Still env allowed Q)
include still

theorem bind_get {β : Type} {f : World S → SessionM S β} (next : ∀ w, Q β (f w)) : Q β (get >>= f) :=
  still.bind still.read next

/-! ### What changes neither the store nor the frames -/

theorem update {f : World S → World S} (store : ∀ w, (f w).store = w.store) (journal : ∀ w, (f w).journal = w.journal) :
    Q _ (modify f : SessionM S Unit) :=
  still.aside f (fun w => ⟨store w,[],by simp [journal]⟩)

theorem note {entry : Effect} (other : is_frame entry = false) : Q _ (note entry : SessionM S Unit) :=
  still.aside _ (fun _ => ⟨rfl,[entry],rfl,by simp [other]⟩)

theorem set_state (state : SessionState) : Q _ (set_state state : SessionM S Unit) :=
  still.update (fun _ => rfl) (fun _ => rfl)

theorem utc_now : Q _ (utc_now env : SessionM S DateTime) :=
  still.bind_get (fun _ => still.bind (still.update (fun _ => rfl) (fun _ => rfl)) (fun _ => still.pure _))

theorem timestamp_now : Q _ (timestamp_now env : SessionM S Timestamp) :=
  still.bind_get (fun _ => still.bind (still.update (fun _ => rfl) (fun _ => rfl)) (fun _ => still.pure _))

theorem store_result (r : Except StoreError Unit) : Q _ (store_result r : SessionM S Unit) := by
  cases r with
  | ok _ => exact still.pure _
  | error e => exact still.error _

theorem with_send_context {α : Type} (context : String) (r : Except InternalSendError α) :
    Q _ (with_send_context context r : SessionM S α) := by
  cases r with
  | ok a => exact still.pure _
  | error e => exact still.error _

theorem disconnect_writer : Q _ (disconnect_writer : SessionM S Unit) := by
  refine still.bind_get (fun w => ?_)
  split
  · exact still.note rfl
  · exact still.pure _

theorem apply_transition (result : TransitionResult) : Q _ (apply_transition result : SessionM S Unit) := by
  cases result with
  | Stay => exact still.pure _
  | TransitionTo state =>
    refine still.bind_get (fun w => still.bind (still.set_state _) (fun _ => ite_closed (still.note rfl) (still.pure _)))

/-! ### Sending -/

theorem send_reject (writer : WriterRef) (n : Nat) (reason : SessionRejectReason) (text : Bytes) :
    Q _ (send_reject env writer n reason text) :=
  still.sent_to writer _ (still.own _ (.reject _))

theorem send_and_check {x : SessionM S (Except InternalSendError Nat)} (context : String) (sends : Q _ x) :
    Q _ (do let _ ← HotFix.with_send_context context (← x)) :=
  still.bind sends (fun r => still.bind (still.with_send_context context r) (fun _ => still.pure _))

theorem send_logout (reason : Bytes) : Q _ (send_logout (S := S) env reason) :=
  still.send_and_check "logout" (still.sent _ (still.own _ (.logout _)))

theorem logout_and_terminate (reason : Bytes) : Q _ (logout_and_terminate (S := S) env reason) :=
  still.bind (still.sent _ (still.own _ (.logout _))) (fun _ => still.disconnect_writer)

theorem logout_and_disconnect (writer : WriterRef) (text : Bytes) :
    Q _ (logout_and_disconnect (S := S) env writer text) :=
  still.bind (still.sent_to writer _ (still.own _ (.logout _))) (fun _ => still.note rfl)

theorem request_resend (writer : WriterRef) (expected actual : Nat) :
    Q _ (request_resend (S := S) env writer expected actual) :=
  still.send_and_check "resend request" (still.sent_to writer _ (still.own _ (.resendRequest _)))

theorem open_gap (writer : WriterRef) (expected actual : Nat) :
    Q _ (open_gap (S := S) env writer expected actual) :=
  still.bind (still.request_resend writer expected actual) (fun _ => still.pure _)

theorem handle_gap (state : AwaitingResendState) (expected actual : Nat) :
    Q _ (state.handle_gap (S := S) env expected actual) := by
  unfold AwaitingResendState.handle_gap
  split
  · exact still.bind (still.set_state _) (fun _ => still.bind (still.request_resend _ expected actual) (fun _ => still.pure _))
  · exact still.bind (still.note rfl) (fun _ => still.pure _)
  · exact still.bind (still.note rfl) (fun _ => still.pure _)

theorem send_reject_for (m : Message) (reason : SessionRejectReason) (text : Bytes) (context : String) :
    Q _ (send_reject_for (S := S) env m reason text context) := by
  unfold HotFix.send_reject_for
  split
  · exact still.pure _
  · exact still.send_and_check context (still.sent _ (still.own _ (.reject _)))

/-! ### Events that count nothing -/

theorem on_disconnect (reason : Bytes) : Q _ (on_disconnect (S := S) reason) :=
  still.bind still.disconnect_writer (fun _ => still.bind_get (fun _ => still.apply_transition _))

theorem log_out_gracefully (reason : Bytes) (reconnect : Bool) :
    Q _ (log_out_gracefully (S := S) env reason reconnect) := by
  refine still.catch_error ?_ (fun _ => still.pure _)
  refine still.bind (still.bind_get (fun w => ?_)) (fun result => still.apply_transition result)
  dsimp only
  split
  · exact still.bind (still.send_logout reason) (fun _ => still.pure _)
  · exact still.pure _

theorem notify_schedule_awaiter : Q _ (notify_schedule_awaiter (S := S)) := by
  refine still.bind_get (fun w => ?_)
  split
  · split
    · exact still.bind (still.set_state _) (fun _ => still.note rfl)
    · exact still.pure _
  · exact still.pure _

theorem register_schedule_awaiter (responder : Responder) : Q _ (register_schedule_awaiter (S := S) responder) := by
  refine still.bind_get (fun w => ?_)
  split
  · exact ite_closed (still.note rfl) (still.set_state _)
  · exact still.note rfl

theorem send_app_message {o : OutboundMessage} (fine : allowed o) : Q _ (send_app_message (S := S) env o) := by
  refine still.bind_get (fun w => ite_closed ?_ (still.pure _))
  refine still.bind (still.note rfl) (fun _ => ?_)
  cases env.application.on_outbound_message w.journal o with
  | Send =>
    refine still.bind (still.sent o fine) (fun r => ?_)
    cases r with
    | ok n => exact still.pure _
    | error e => exact still.pure _
  | Drop => exact still.pure _
  | TerminateSession => exact still.bind still.disconnect_writer (fun _ => still.pure _)

theorem handle_peer_timeout : Q _ (handle_peer_timeout (S := S) env) := by
  refine still.bind_get (fun w => ?_)
  refine ite_closed (still.logout_and_terminate _) (ite_closed still.disconnect_writer (ite_closed still.disconnect_writer ?_))
  exact still.bind (still.sent _ (still.own _ (.testRequest _)))
    (fun _ => still.update (fun _ => rfl) (fun _ => rfl))

end Still

namespace Quiet
variable (quiet : Quiet env allowed Q)
include quiet

theorem count : Q _ (do HotFix.store_result (← increment_target) : SessionM S Unit) :=
  quiet.bind quiet.counted quiet.store_result

/-! ### Answers to messages that fail verification -/

theorem reject_and_count (writer : WriterRef) (n : Nat) (reason : SessionRejectReason) (text : Bytes) :
    Q _ (reject_and_count (S := S) env writer n reason text) :=
  quiet.bind (quiet.send_reject writer n reason text) (fun _ => quiet.bind quiet.counted (fun _ => quiet.pure _))

theorem handle_verification_error (writer : WriterRef) (error : MessageError) :
    Q _ (handle_verification_error (S := S) env writer error) := by
  have rejected : ∀ n reason text, Q _ (do
      HotFix.reject_and_count (S := S) env writer n reason text
      return TransitionResult.Stay) :=
    fun n reason text => quiet.bind (quiet.reject_and_count writer n reason text) (fun _ => quiet.pure _)
  cases error with
  | SeqNumberTooLow expected actual duplicate =>
    refine ite_closed (quiet.pure _) ?_
    exact quiet.bind (quiet.logout_and_disconnect writer _) (fun _ => quiet.pure _)
  | IncorrectBeginString received => exact quiet.bind (quiet.logout_and_disconnect writer _) (fun _ => quiet.pure _)
  | IncorrectCompId received kind n =>
    refine quiet.bind (quiet.send_reject writer n _ _) (fun _ => ?_)
    exact quiet.bind (quiet.logout_and_disconnect writer _) (fun _ => quiet.pure _)
  | SendingTimeAccuracyIssue n => exact rejected n _ _
  | SendingTimeMissing n => exact rejected n _ _
  | OriginalSendingTimeMissing n => exact rejected n _ _
  | OriginalSendingTimeAfterSendingTime n _ _ => exact rejected n _ _

theorem verify_and_handle_errors (writer : WriterRef) (m : Message) (flags : VerificationFlags) :
    Q _ (verify_and_handle_errors (S := S) env writer m flags) := by
  refine quiet.bind_get (fun w => quiet.bind quiet.timestamp_now (fun now => ?_))
  split
  · exact quiet.pure _
  · exact quiet.pure _
  · exact quiet.bind (quiet.handle_verification_error writer _) (fun _ => quiet.pure _)

theorem handle_verification_issue (m : Message) (flags : VerificationFlags) :
    Q _ (handle_verification_issue (S := S) env m flags) := by
  -- every connected state verifies, and differs only in what it does about a gap
  have verified (writer : WriterRef) (next : _ → SessionM S VerificationResult) (passed : Q _ (next .Ok))
      (handled : ∀ result, Q _ (next (.Handled result)))
      (gap : ∀ expected actual, Q _ (next (.SequenceGap expected actual))) :
      Q _ (HotFix.verify_and_handle_errors env writer m flags >>= next) := by
    refine quiet.bind (quiet.verify_and_handle_errors writer m flags) (fun outcome => ?_)
    cases outcome with
    | Ok => exact passed
    | Handled result => exact handled result
    | SequenceGap expected actual => exact gap expected actual
  refine quiet.bind_get (fun w => ?_)
  split
  · exact quiet.pure _
  · next state _ => exact verified state.writer _ (quiet.pure _) (fun _ => quiet.pure _) (quiet.open_gap state.writer)
  · next state _ => exact verified state.writer _ (quiet.pure _) (fun _ => quiet.pure _) (quiet.handle_gap state)
  · next state _ => exact verified state.writer _ (quiet.pure _) (fun _ => quiet.pure _) (quiet.open_gap state.writer)
  · next state _ => exact verified state.writer _ (quiet.pure _) (fun _ => quiet.pure _) (fun _ _ => quiet.pure _)

/-! ### Handlers that never panic -/

theorem handle_invalid_msg_type (writer : WriterRef) (m : Message) (msg_type : Bytes) :
    Q _ (handle_invalid_msg_type (S := S) env writer m msg_type) := by
  unfold HotFix.handle_invalid_msg_type
  split
  · exact quiet.pure _
  · refine quiet.bind (quiet.send_reject writer _ _ _) (fun _ => quiet.bind_get (fun w => ite_closed ?_ (quiet.pure _)))
    exact quiet.bind quiet.counted (fun _ => quiet.pure _)

theorem on_heartbeat (m : Message) : Q _ (on_heartbeat (S := S) m) := by
  refine quiet.bind_get (fun w => ?_)
  dsimp only
  split
  · exact quiet.bind (quiet.update (fun _ => rfl) (fun _ => rfl)) (fun _ => quiet.count)
  · exact quiet.count

theorem on_logout : Q _ (on_logout (S := S) env) := by
  have told : Q _ (do
      HotFix.note (.OnLogout (ascii "peer has logged us out"))
      HotFix.disconnect_writer
      HotFix.apply_transition (← get).state.on_peer_logout
      HotFix.store_result (← increment_target) : SessionM S Unit) := by
    refine quiet.bind (quiet.note rfl) (fun _ => quiet.bind quiet.disconnect_writer (fun _ => quiet.bind_get (fun w => ?_)))
    exact quiet.bind (quiet.apply_transition _) (fun _ => quiet.count)
  refine quiet.bind_get (fun w => ?_)
  split
  · exact quiet.bind (quiet.send_logout _) (fun _ => told)
  · exact told

theorem on_logon : Q _ (on_logon (S := S)) := by
  refine quiet.bind_get (fun w => ?_)
  split
  · refine quiet.bind (quiet.note rfl) (fun _ => quiet.bind quiet.counted (fun r => ?_))
    exact quiet.bind (quiet.store_result r) (fun _ => quiet.apply_transition _)
  · exact quiet.pure _

/-! ### Events that never panic -/

theorem on_invalid (m : Message) (reason : InvalidReason) : Q _ (on_invalid (S := S) env m reason) := by
  cases reason with
  | InvalidField tag => exact quiet.send_reject_for m _ _ _
  | InvalidGroup tag => exact quiet.send_reject_for m _ _ _
  | InvalidComponent name => exact quiet.pure _
  | InvalidMsgType msg_type =>
    refine quiet.bind_get (fun w => ?_)
    split
    · exact quiet.handle_invalid_msg_type _ m msg_type
    · exact quiet.pure _
  | InvalidOrderInGroup tag group_tag => exact quiet.send_reject_for m _ _ _
  | RequiredFieldMissing tag group_tag => exact quiet.send_reject_for m _ _ _

theorem send_logon : Q _ (send_logon (S := S) env) := by
  have sends : ∀ reset_config, Q _ (do
      modify (fun w => { w with reset_on_next_logon := false })
      let sent ← send_message env (Logon.new env.config.heartbeat_interval reset_config).outbound
      let _ ← HotFix.with_send_context "logon" sent : SessionM S Unit) :=
    fun reset_config => quiet.bind (quiet.update (fun _ => rfl) (fun _ => rfl))
      (fun _ => quiet.send_and_check "logon" (quiet.sent _ (quiet.own _ (.logon _))))
  refine quiet.bind_get (fun w => ?_)
  split
  · exact quiet.bind quiet.restarted (fun r => quiet.bind (quiet.store_result r) (fun _ => sends _))
  · exact sends _

theorem on_connect (writer : WriterRef) : Q _ (on_connect (S := S) env writer) :=
  quiet.bind (quiet.note rfl) (fun _ => quiet.bind (quiet.apply_transition _) (fun _ =>
    quiet.bind (quiet.update (fun _ => rfl) (fun _ => rfl)) (fun _ => quiet.send_logon)))

theorem restart_period (reason : Bytes) : Q _ (restart_period (S := S) env reason) := by
  refine quiet.bind (quiet.logout_and_terminate reason) (fun _ => quiet.bind quiet.restarted (fun r => ?_))
  cases r with
  | ok _ => exact quiet.pure _
  | error _ => exact quiet.apply_transition _

theorem handle_schedule_check : Q _ (handle_schedule_check (S := S) env) := by
  refine quiet.bind quiet.utc_now (fun now => ite_closed ?_ ?_)
  · refine quiet.bind quiet.notify_schedule_awaiter (fun _ => quiet.bind_get (fun w => ?_))
    split
    · exact quiet.pure _
    · exact quiet.restart_period _
    · exact quiet.restart_period _
    · exact quiet.logout_and_terminate _
  · exact quiet.bind_get (fun w => ite_closed (quiet.log_out_gracefully _ _) (quiet.pure _))

theorem handle_admin_request (request : AdminRequest) : Q _ (handle_admin_request (S := S) env request) := by
  cases request with
  | InitiateGracefulShutdown reconnect => exact quiet.log_out_gracefully _ reconnect
  | RequestSessionInfo => exact quiet.bind_get (fun w => quiet.note rfl)
  | ResetSequenceNumbersOnNextLogon => exact quiet.update (fun _ => rfl) (fun _ => rfl)
  | SetNextTargetSeqNum seq_num nonzero =>
    refine quiet.bind_get (fun w => ?_)
    split
    · exact quiet.bind (quiet.jumped _) (fun _ => quiet.pure _)
    · exact quiet.pure _

end Quiet

namespace Loud
variable (loud : Loud env allowed Q)
include loud

/-! ### Handlers that may panic -/

theorem get_msg_seq_num (m : Message) : Q _ (get_msg_seq_num m : SessionM S Nat) := by
  unfold HotFix.get_msg_seq_num
  split
  · exact loud.pure _
  · exact loud.panic _

theorem answer_test_request (writer : WriterRef) (m : Message) : Q _ (answer_test_request (S := S) env writer m) := by
  unfold HotFix.answer_test_request
  split
  · exact loud.panic _
  · refine loud.bind loud.counted (fun r => loud.bind (loud.store_result r) (fun _ => ?_))
    exact loud.send_and_check "heartbeat response" (loud.sent_to writer _ (loud.own _ (.heartbeat _)))

theorem take_sequence_reset (writer : WriterRef) (m : Message) : Q _ (take_sequence_reset (S := S) env writer m) := by
  refine loud.bind (loud.get_msg_seq_num m) (fun n => ?_)
  split
  · exact loud.send_and_check _ (loud.send_reject writer _ _ _)
  · refine loud.bind_get (fun w => ite_closed ?_ ?_)
    · exact loud.send_and_check _ (loud.send_reject writer _ _ _)
    · exact loud.bind (loud.jumped _) loud.store_result

theorem answer_resend_request (writer : WriterRef) (m : Message) :
    Q _ (answer_resend_request (S := S) env writer m) := by
  refine loud.bind (loud.get_msg_seq_num m) (fun n => loud.bind_get (fun w => ?_))
  split
  · exact loud.send_and_check _ (loud.send_reject writer _ _ _)
  · split
    · exact loud.send_and_check _ (loud.send_reject writer _ _ _)
    · refine loud.bind_get (fun w => ?_)
      dsimp only
      split
      · exact loud.bind loud.counted (fun r => loud.bind (loud.store_result r) (fun _ => loud.resent writer _ _))
      · exact loud.resent writer _ _

/-! ### Processing -/

theorem pre_process_inbound (m : Message) : Q _ (pre_process_inbound (S := S) m) := by
  refine loud.bind_get (fun w => ?_)
  split
  · refine loud.bind (loud.get_msg_seq_num m) (fun n => ite_closed ?_ (loud.pure _))
    exact loud.bind (loud.set_state _) (fun _ => loud.pure _)
  · exact ite_closed (loud.pure _) (loud.pure _)
  · exact loud.pure _

theorem process_app_message (m : Message) : Q _ (process_app_message (S := S) env m) := by
  refine loud.bind_get (fun w => loud.bind (loud.note rfl) (fun _ => ?_))
  cases env.application.on_inbound_message w.journal m with
  | Accept => exact loud.count
  | Reject reason text =>
    dsimp only
    split
    · exact loud.error _
    · refine loud.bind (loud.get_msg_seq_num m) (fun n => ?_)
      refine loud.bind (loud.sent _ (loud.own _ (.businessReject _))) (fun r => ?_)
      exact loud.bind (loud.with_send_context _ r) (fun _ => loud.count)
  | TerminateSession => exact loud.bind loud.disconnect_writer (fun _ => loud.count)

theorem on_resend_request (m : Message) : Q _ (on_resend_request (S := S) env m) := by
  refine loud.bind_get (fun w => ite_closed (loud.bind (loud.get_msg_seq_num m) (fun n => ?_)) (loud.pure _))
  dsimp only
  cases w.state with
  | AwaitingResend awaiting =>
    have answered := loud.answer_resend_request awaiting.writer m
    exact ite_closed (loud.bind (loud.set_state _) (fun _ => answered)) answered
  | AwaitingLogon logon => exact loud.answer_resend_request logon.writer m
  | AwaitingLogout logout => exact loud.answer_resend_request logout.writer m
  | Active active => exact loud.answer_resend_request active.writer m
  | Disconnected _ => exact loud.pure _

theorem dispatch (kind : MsgKind) (m : Message) : Q _ (dispatch (S := S) env kind m) := by
  cases kind with
  | Heartbeat => exact loud.on_heartbeat m
  | TestRequest =>
    refine loud.bind_get (fun w => ?_)
    split
    · exact loud.answer_test_request _ m
    · exact loud.pure _
  | ResendRequest => exact loud.on_resend_request m
  | Reject => exact loud.count
  | SequenceReset =>
    refine loud.bind_get (fun w => ?_)
    split
    · exact loud.take_sequence_reset _ m
    · exact loud.pure _
  | Logout => exact loud.on_logout
  | Logon => exact loud.on_logon
  | Application => exact loud.process_app_message m

theorem process_message (m : Message) : Q _ (process_message (S := S) env m) := by
  refine loud.bind (loud.pre_process_inbound m) (fun decision => ?_)
  cases decision with
  | Queued => exact loud.pure _
  | Disconnect => exact loud.disconnect_writer
  | Accept m =>
    dsimp only
    split
    · refine loud.bind (loud.handle_verification_issue m _) (fun verified => ?_)
      cases verified with
      | Issue result => exact loud.apply_transition result
      | Passed => exact loud.dispatch _ m
    · exact loud.error _

theorem replay (backlog : List Message) : Q _ (replay (S := S) env backlog) := by
  induction backlog with
  | nil => exact loud.pure _
  | cons m rest ih => exact loud.bind (ite_closed loud.count (loud.process_message m)) (fun _ => ih)

theorem check_end_of_resend : Q _ (check_end_of_resend (S := S) env) := by
  refine loud.bind_get (fun w => ?_)
  split
  · split
    · exact loud.bind (loud.apply_transition _) (fun _ => loud.replay _)
    · exact loud.pure _
  · exact loud.pure _

/-! ### Events -/

theorem on_incoming (raw : Bytes) : Q _ (on_incoming (S := S) env raw) := by
  refine loud.bind_get (fun w => ?_)
  dsimp only
  -- what is done with the message does not depend on whether the timer is reset first
  have timed {next : SessionM S Unit} (built : Q _ next) : Q _ (if ¬ w.state.is_expecting_test_response = true then
      (do modify (fun w => { w with state := w.state.reset_peer_timer none }); next) else next) :=
    ite_closed (loud.bind (loud.update (fun _ => rfl) (fun _ => rfl)) (fun _ => built)) built
  cases env.build raw with
  | Valid message =>
    refine timed ?_
    exact loud.bind (loud.note rfl) (fun _ => loud.bind (loud.process_message _) (fun _ => loud.check_end_of_resend))
  | Garbled _ =>
    refine timed ?_
    exact loud.pure _
  | Invalid message reason =>
    refine timed ?_
    exact loud.on_invalid _ _
  | UnexpectedError _ =>
    refine timed ?_
    exact loud.pure _

theorem handle_session_event (event : SessionEvent) : Q _ (handle_session_event (S := S) env event) := by
  refine loud.bind loud.handle_schedule_check (fun _ => ?_)
  cases event with
  | FixMessageReceived raw =>
    exact loud.catch_error (loud.on_incoming raw)
      (fun _ => loud.bind (loud.logout_and_terminate _) (fun _ => loud.apply_transition _))
  | Disconnected reason => exact loud.on_disconnect reason
  | Connected writer => exact loud.catch_error (loud.on_connect writer) (fun _ => loud.pure _)
  | ShouldReconnect => exact loud.bind_get (fun _ => loud.note rfl)
  | AwaitSchedule responder => exact loud.register_schedule_awaiter responder

/-- What every operation has, every input has. -/
theorem handle_input {input : Input} (fine : Sends allowed input) : Q _ (handle_input (S := S) env input) := by
  cases input with
  | Event event => exact loud.handle_session_event event
  | Outbound o => exact loud.bind (loud.send_app_message fine) (fun _ => loud.pure _)
  | Admin request => exact loud.handle_admin_request request
  | HeartbeatTimeout => exact loud.bind (loud.sent _ (loud.own _ (.heartbeat _))) (fun _ => loud.pure _)
  | PeerTimeout => exact loud.handle_peer_timeout
  | ScheduleCheck => exact loud.handle_schedule_check

end Loud

/-! ### Relations along a run -/

/-- The relation holds across every operation. -/
structure Spans (env : Env) (allowed : OutboundMessage → Prop) (R : World S → World S → Prop) : Prop where
  trans : ∀ u v w, R u v → R v w → R u w
  aside : ∀ w w', Aside w w' → R w w'
  counted : Follows R increment_target
  jumped : ∀ n, Follows R (set_target n)
  restarted : Follows R (reset_store env)
  sent : ∀ o, allowed o → Follows R (send_message env o)
  sent_to : ∀ writer o, allowed o → Follows R (send_message_to env writer o)
  resent : ∀ writer first last, Follows R (resend_messages env writer first last)
  own : ∀ o, Own o → allowed o

section
variable {R : World S → World S → Prop}

theorem Spans.refl (spans : Spans env allowed R) (w : World S) : R w w := spans.aside w w ⟨rfl,[],by simp⟩

theorem Spans.loud (spans : Spans env allowed R) : Loud env allowed (fun _ x => Follows R x) where
  pure := follows_pure spans.refl
  error e := follows_throw spans.refl _
  panic text := follows_throw spans.refl _
  read := follows_get spans.refl
  bind := follows_bind spans.trans
  catch_error := by
    intro x handler first next w
    have before := first w
    unfold catch_error
    split
    · next err w' executed =>
      rw [executed] at before
      exact spans.trans _ _ _ before (next err w')
    · exact before
  aside f aside := follows_modify (fun w => spans.aside _ _ (aside w))
  counted := spans.counted
  jumped := spans.jumped
  restarted := spans.restarted
  sent := spans.sent
  sent_to := spans.sent_to
  resent := spans.resent
  own := spans.own

/-- What every operation keeps is kept by every run. -/
theorem reachable_follows (spans : Spans env allowed R) {start w : World S}
    (reached : Reachable env (fun _ input => Sends allowed input) start w) : R start w := by
  induction reached with
  | start => exact spans.refl start
  | @step v v' input before armed fine handled ih =>
    have follows := spans.loud.handle_input fine v
    rw [handled] at follows
    exact spans.trans _ _ _ ih follows

end
end HotFix.Primitives
