import HotFix.Loop
import HotFix.Primitives

/-!
Where the session panics. A message that is processed makes it panic when a number
or an identifier is read that the message does not have, or when the store cuts
out messages that cannot be resent. Everything else returns, or stops with an
error that is handled.
-/
namespace HotFix.Panics
open HotFix.Program HotFix.Frames HotFix.Operations HotFix.Loop HotFix.Sending HotFix.Primitives MessageStore
open HotFix.Sample (valid logon message start connect receive after reachable_after Store)
variable {S : Type}

/-! ### Panicking and not panicking -/

/-- Started in `w`, the computation panics. -/
def PanicsIn {α : Type} (x : SessionM S α) (w : World S) : Prop := ∃ text w', x w = .error (.Panic text) w'

/-- The computation never panics. -/
def Calm {α : Type} (x : SessionM S α) : Prop := ∀ w, ¬ PanicsIn x w

section
variable {α β : Type} {x : SessionM S α} {f : α → SessionM S β} {w : World S}

/-- A computation that stops panics exactly when it stops with a panic. -/
theorem panics_throw_bind (e : Abort SessionOperationError) : PanicsIn (throw e >>= f) w ↔ ∃ text, e = .Panic text := by
  constructor
  · rintro ⟨text,w',executed⟩
    cases executed
    exact ⟨text,rfl⟩
  · rintro ⟨text,rfl⟩
    exact ⟨text,w,rfl⟩

theorem panics_bind : PanicsIn (x >>= f) w ↔ PanicsIn x w ∨ ∃ a w', x w = .ok a w' ∧ PanicsIn (f a) w' := by
  unfold PanicsIn
  simp only [bind,EStateM.bind]
  cases executed : x w with
  | ok a w' => simp
  | error e w' => simp

/-- After a computation that returns, only what follows can panic. -/
theorem panics_bind_ok {a : α} {w' : World S} (executed : x w = .ok a w') : PanicsIn (x >>= f) w ↔ PanicsIn (f a) w' := by
  simp [PanicsIn,bind_ok executed]

theorem panics_get {f : World S → SessionM S β} : PanicsIn (get >>= f) w ↔ PanicsIn (f w) w := panics_bind_ok rfl

theorem calm_pure (a : α) : Calm (pure a : SessionM S α) := by
  rintro w ⟨text,w',executed⟩
  cases executed

theorem calm_throw (e : SessionOperationError) : Calm (throw (.Error e) : SessionM S α) := by
  rintro w ⟨text,w',executed⟩
  cases executed

theorem calm_get : Calm (get : SessionM S (World S)) := by
  rintro w ⟨text,w',executed⟩
  cases executed

theorem calm_modify (g : World S → World S) : Calm (modify g : SessionM S Unit) := by
  rintro w ⟨text,w',executed⟩
  cases executed

theorem calm_bind (first : Calm x) (next : ∀ a, Calm (f a)) : Calm (x >>= f) := by
  intro w panics
  obtain here | ⟨a,w',-,later⟩ := panics_bind.mp panics
  · exact first w here
  · exact next a w' later

theorem calm_of_runs {ok : World S → α → World S → Prop} (runs : ∀ w, Runs x w (ok w) (fun _ _ => False)) : Calm x := by
  rintro w ⟨text,w',executed⟩
  have stopped := runs w
  simp [Runs,executed] at stopped

end

/-! ### What never panics -/

theorem calm_store_operation (operation : S → Except StoreError Unit × S) (effects : List Effect) :
    Calm (store_operation operation effects) := by
  refine calm_bind calm_get (fun w => ?_)
  split
  · exact calm_bind (calm_modify _) (fun _ => calm_pure _)
  · exact calm_bind (calm_modify _) (fun _ => calm_pure _)

variable [MessageStore S] {env : Env}

/-- A write that does not panic is prepared without one. -/
theorem calm_prepare_message {o : OutboundMessage} (total : Total o) :
    Calm (prepare_message env o : SessionM S (Except InternalSendError PreparedMessage)) := by
  rintro w ⟨text,w',executed⟩
  obtain ⟨⟨m,raw⟩,frame⟩ : ∃ frame, generated env o w = .ok frame := generate_message_total total _ _ _ _ _
  rw [prepare_message_eq frame] at executed
  rcases first : increment_sender_seq_number w.store with ⟨e | _,s⟩
  · simp [first] at executed
  · rcases second : add (next_sender w) raw s with ⟨e | _,s'⟩
    · simp [first,second] at executed
    · simp [first,second] at executed

/-- Nothing panics but what reads a missing number or identifier, and the resend. -/
theorem quiet_calm (env : Env) : Quiet env Total (fun α (x : SessionM S α) => Calm x) where
  pure := calm_pure
  error := calm_throw
  read := calm_get
  bind := calm_bind
  catch_error := by
    intro x handler first next w panics
    obtain ⟨text,w',executed⟩ := panics
    unfold catch_error at executed
    split at executed
    · next err v _ => exact next err v ⟨text,w',executed⟩
    · next result _ => exact first w ⟨text,w',executed⟩
  aside f _ := calm_modify f
  counted := calm_store_operation _ _
  jumped n := calm_store_operation _ _
  restarted :=
    calm_bind (calm_bind calm_get (fun _ => calm_bind (calm_modify _) (fun _ => calm_pure _))) (fun _ => calm_store_operation _ _)
  sent o total := by
    refine calm_bind (calm_prepare_message total) (fun r => ?_)
    cases r with
    | error e => exact calm_pure _
    | ok prepared => exact calm_bind (calm_of_runs (write_prepared_runs o.message_type prepared)) (fun _ => calm_pure _)
  sent_to writer o total := by
    refine calm_bind (calm_prepare_message total) (fun r => ?_)
    cases r with
    | error e => exact calm_pure _
    | ok prepared => exact calm_bind (calm_modify _) (fun _ => calm_pure _)
  own o own := own.bodyOnly.total

/-! ### Resends -/

/-- The resend of the messages reads a number that is not there. -/
def unnumbered (env : Env) : List Bytes → Bool
  | [] => false
  | raw :: rest =>
    match (env.build raw).into_message with
    | none => false
    | some m =>
      match m.msg_seq_num,m.msg_type with
      | none,_ => true
      | some _,none => false
      | some _,some _ => unnumbered env rest

/-- The store panics, or cuts out messages whose resend does. -/
def cannot_resend (env : Env) : Except (Abort StoreError) (List Bytes) → Bool
  | .ok messages => unnumbered env messages
  | .error (.Error _) => false
  | .error (.Panic _) => true

omit [MessageStore S] in
theorem flush_reset_returns (writer : WriterRef) (last : Nat) (pending : Option Nat) (w : World S) :
    Runs (flush_reset env writer last pending) w (fun _ w' => w'.store = w.store) (fun _ _ => False) := by
  cases pending with
  | none => exact rfl
  | some first =>
    unfold flush_reset send_sequence_reset
    rw [runs_bind,runs_timestamp_now]
    obtain ⟨frame,written,-⟩ := gapFill_generated env.config.begin_string env.config.sender_comp_id
      env.config.target_comp_id first last (env.timestamp_now w.clock_readings)
    rw [written]
    exact rfl

omit [MessageStore S] in
/-- The loop panics at the first message without a number, unless it stops before. -/
theorem resend_loop_panics (writer : WriterRef) (messages : List Bytes) :
    ∀ pending n (w : World S), PanicsIn (resend_loop env writer messages pending n) w ↔ unnumbered env messages = true := by
  induction messages with
  | nil =>
    intro pending n w
    have flushed : Runs (flush_reset env writer n pending) w (fun _ w' => w'.store = w.store) (fun _ _ => False) :=
      flush_reset_returns writer n pending w
    obtain ⟨_,w',executed,-⟩ := runs_returned flushed
    simp [resend_loop,PanicsIn,executed,unnumbered]
  | cons raw rest ih =>
    intro pending n w
    unfold resend_loop unnumbered
    cases (env.build raw).into_message with
    | none => simpa using calm_throw _ w
    | some m =>
      unfold get_msg_seq_num
      dsimp only
      cases m.msg_seq_num with
      | none => exact iff_of_true ((panics_throw_bind _).mpr ⟨_,rfl⟩) rfl
      | some k =>
        rw [panics_bind_ok (show (pure k : SessionM S Nat) w = .ok k w from rfl)]
        cases m.msg_type with
        | none => simpa using calm_throw _ w
        | some message_type =>
          dsimp only
          split_ifs
          · exact ih _ _ w
          · have flushed : Runs (flush_reset env writer k pending) w (fun _ w' => w'.store = w.store) (fun _ _ => False) :=
              flush_reset_returns writer k pending w
            obtain ⟨_,w₁,filled,-⟩ := runs_returned flushed
            rw [panics_bind_ok filled]
            exact ih none k _

theorem resend_messages_panics (writer : WriterRef) (first last : Nat) (w : World S) :
    PanicsIn (resend_messages env writer first last) w ↔ cannot_resend env (get_slice first last w.store) = true := by
  unfold resend_messages
  rw [panics_get]
  rcases get_slice first last w.store with (e | text) | messages
  · exact iff_of_false (fun panics => by simpa using (panics_throw_bind _).mp panics) (by simp [cannot_resend])
  · exact iff_of_true ((panics_throw_bind _).mpr ⟨text,rfl⟩) rfl
  · rw [panics_bind_ok (show slice_result (.ok messages) w = .ok messages w from rfl)]
    exact resend_loop_panics writer messages none 0 w

/-! ### Handlers -/

/-- The answer to a ResendRequest panics. -/
def request_stumbles (env : Env) (w : World S) (m : Message) : Bool :=
  match m.msg_seq_num,m.body.get_u64 BEGIN_SEQ_NO,m.body.get_u64 END_SEQ_NO with
  | none,_,_ => true
  | some n,some first,some requested =>
    let last := next_sender w - 1
    match if n = next_target w then increment_target_seq_number w.store else (.ok (),w.store) with
    | (.ok (),s) => cannot_resend env (get_slice first (if requested = 0 then last else min requested last) s)
    | (.error _,_) => false
  | _,_,_ => false

/-- The handler of the message panics. -/
def handler_stumbles (env : Env) (w : World S) (m : Message) : MsgKind → Bool
  | .TestRequest => w.state.is_connected && (m.body.get_str TEST_REQ_ID).isNone
  | .ResendRequest => w.state.is_connected && request_stumbles env w m
  | .SequenceReset => w.state.is_connected && m.msg_seq_num.isNone
  | .Application => rejects (env.application.on_inbound_message w.journal m) && m.msg_seq_num.isNone
  | _ => false

section
variable {w : World S} {m : Message} {β : Type} {f : Nat → SessionM S β}

omit [MessageStore S] in
theorem number_missing (missing : m.msg_seq_num = none) : PanicsIn (get_msg_seq_num m >>= f) w := by
  unfold get_msg_seq_num
  rw [missing]
  exact (panics_throw_bind _).mpr ⟨_,rfl⟩

omit [MessageStore S] in
theorem number_read {n : Nat} (number : m.msg_seq_num = some n) :
    PanicsIn (get_msg_seq_num m >>= f) w ↔ PanicsIn (f n) w := by
  unfold get_msg_seq_num
  rw [number]
  exact panics_bind_ok rfl

theorem answer_test_request_panics (writer : WriterRef) :
    PanicsIn (answer_test_request env writer m) w ↔ (m.body.get_str TEST_REQ_ID).isNone = true := by
  have quiet := quiet_calm (S := S) env
  unfold answer_test_request
  cases m.body.get_str TEST_REQ_ID with
  | none => exact iff_of_true ⟨_,w,rfl⟩ rfl
  | some req_id =>
    refine iff_of_false ?_ (by simp)
    refine calm_bind quiet.counted (fun r => calm_bind (quiet.store_result r) (fun _ => ?_)) w
    exact quiet.send_and_check _ (quiet.sent_to writer _ (heartbeat_bodyOnly _).total)

theorem take_sequence_reset_panics (writer : WriterRef) :
    PanicsIn (take_sequence_reset env writer m) w ↔ m.msg_seq_num.isNone = true := by
  have quiet := quiet_calm (S := S) env
  cases number : m.msg_seq_num with
  | none => exact iff_of_true (number_missing number) rfl
  | some n =>
    refine iff_of_false ?_ (by simp)
    unfold take_sequence_reset
    rw [number_read number]
    split
    · exact quiet.send_and_check _ (quiet.send_reject writer _ _ _) w
    · rw [panics_get]
      split
      · exact quiet.send_and_check _ (quiet.send_reject writer _ _ _) w
      · exact quiet.bind (quiet.jumped _) quiet.store_result w

/-- The answer to a ResendRequest panics without a number, and where the messages of
    the range cannot be resent. -/
theorem answer_resend_request_panics (writer : WriterRef) :
    PanicsIn (answer_resend_request env writer m) w ↔ request_stumbles env w m = true := by
  have quiet := quiet_calm (S := S) env
  have rejected : ∀ reason text context, ¬ PanicsIn (do
      let sent ← send_reject env writer (m.msg_seq_num.getD 0) reason text
      let _ ← with_send_context context sent : SessionM S Unit) w :=
    fun reason text context => quiet.send_and_check context (quiet.send_reject writer _ reason text) w
  unfold request_stumbles answer_resend_request
  cases number : m.msg_seq_num with
  | none => exact iff_of_true (number_missing number) rfl
  | some n =>
    rw [number] at rejected
    rw [number_read number,panics_get]
    cases m.body.get_u64 BEGIN_SEQ_NO with
    | none => exact iff_of_false (rejected _ _ _) (by simp)
    | some first =>
      cases m.body.get_u64 END_SEQ_NO with
      | none => exact iff_of_false (rejected _ _ _) (by simp)
      | some requested =>
        dsimp only
        rw [panics_get]
        generalize (if requested = 0 then next_sender w - 1 else min requested (next_sender w - 1)) = last
        by_cases expected : n = next_target w
        · rw [if_pos expected,if_pos expected]
          rcases counted : increment_target_seq_number w.store with ⟨e | _,s⟩
          · have executed : increment_target w = .ok (.error e) { w with store := s } := by
              rw [increment_target,store_operation_eq,counted]
            rw [panics_bind_ok executed]
            exact iff_of_false (fun panics => by simpa using (panics_throw_bind _).mp panics) (by simp)
          · have executed : increment_target w =
                .ok (.ok ()) { w with store := s, journal := w.journal ++ [.TargetIncremented] } := by
              rw [increment_target,store_operation_eq,counted]
            rw [panics_bind_ok executed]
            exact resend_messages_panics writer first last _
        · rw [if_neg expected,if_neg expected]
          exact resend_messages_panics writer first last w

theorem on_resend_request_panics :
    PanicsIn (on_resend_request env m) w ↔ w.state.is_connected = true ∧ request_stumbles env w m = true := by
  unfold on_resend_request
  rw [panics_get]
  by_cases connected : w.state.is_connected = true
  · rw [if_pos connected]
    simp only [connected,true_and]
    cases number : m.msg_seq_num with
    | none => exact iff_of_true (number_missing number) (by simp [request_stumbles,number])
    | some n =>
      rw [number_read number]
      cases state : w.state with
      | AwaitingResend awaiting =>
        dsimp only
        split_ifs
        · exact answer_resend_request_panics (w := { w with state := _ }) awaiting.writer
        · exact answer_resend_request_panics awaiting.writer
      | AwaitingLogon logon => exact answer_resend_request_panics logon.writer
      | AwaitingLogout logout => exact answer_resend_request_panics logout.writer
      | Active active => exact answer_resend_request_panics active.writer
      | Disconnected _ => simp [state,SessionState.is_connected,SessionState.get_writer] at connected
  · rw [if_neg connected]
    exact iff_of_false (calm_pure _ w) (fun both => connected both.1)

theorem process_app_message_panics :
    PanicsIn (process_app_message env m) w ↔
      m.msg_type.isSome = true ∧ rejects (env.application.on_inbound_message w.journal m) = true ∧ m.msg_seq_num.isNone = true := by
  have quiet := quiet_calm (S := S) env
  unfold process_app_message
  rw [panics_get,panics_bind_ok (show note (.OnInboundMessage m) w = .ok () (noted w (.OnInboundMessage m)) from rfl)]
  cases env.application.on_inbound_message w.journal m with
  | Accept => exact iff_of_false (quiet.count _) (by simp [rejects])
  | TerminateSession => exact iff_of_false (quiet.bind quiet.disconnect_writer (fun _ => quiet.count) _) (by simp [rejects])
  | Reject reason text =>
    dsimp only
    cases m.msg_type with
    | none => exact iff_of_false (fun panics => by simpa using (panics_throw_bind _).mp panics) (by simp)
    | some message_type =>
      dsimp only
      cases number : m.msg_seq_num with
      | none => exact iff_of_true (number_missing number) (by simp [rejects])
      | some n =>
        rw [number_read number]
        refine iff_of_false ?_ (by simp)
        refine quiet.bind (quiet.sent _ (businessReject_bodyOnly _).total) (fun r => ?_) _
        exact quiet.bind (quiet.with_send_context _ r) (fun _ => quiet.count)

omit [MessageStore S] in
theorem with_writer_panics {g : WriterRef → SessionM S Unit} {P : Prop} (handler : ∀ writer, PanicsIn (g writer) w ↔ P) :
    PanicsIn (do
      match (← get).state.get_writer with
      | some writer => g writer
      | none => return ()) w ↔ w.state.is_connected = true ∧ P := by
  rw [panics_get]
  unfold SessionState.is_connected
  cases w.state.get_writer with
  | none => exact iff_of_false (calm_pure _ w) (by simp)
  | some writer => simpa using handler writer

/-- The handlers panic where a number or an identifier is missing, and where the
    messages of a range cannot be resent. -/
theorem dispatch_panics {message_type : Bytes} (typed : m.msg_type = some message_type) (kind : MsgKind) :
    PanicsIn (dispatch env kind m) w ↔ handler_stumbles env w m kind = true := by
  have quiet := quiet_calm (S := S) env
  unfold handler_stumbles
  cases kind with
  | Heartbeat => exact iff_of_false (quiet.on_heartbeat m w) (by simp)
  | TestRequest =>
    rw [Bool.and_eq_true]
    exact with_writer_panics (fun writer => answer_test_request_panics writer)
  | ResendRequest =>
    rw [Bool.and_eq_true]
    exact on_resend_request_panics
  | Reject => exact iff_of_false (quiet.count w) (by simp)
  | SequenceReset =>
    rw [Bool.and_eq_true]
    exact with_writer_panics (fun writer => take_sequence_reset_panics writer)
  | Logout => exact iff_of_false (quiet.on_logout w) (by simp)
  | Logon => exact iff_of_false (quiet.on_logon w) (by simp)
  | Application =>
    rw [Bool.and_eq_true]
    refine process_app_message_panics.trans ?_
    simp [typed]

/-! ### Processing -/

/-- The message passes verification; nothing is verified while disconnected. -/
def verified (env : Env) (w : World S) (m : Message) (flags : VerificationFlags) : Bool :=
  match w.state with
  | .Disconnected _ => true
  | _ => decide (verify_message_with_ctx m env.config (next_target w) flags (env.timestamp_now w.clock_readings) = .ok ())

omit [MessageStore S] in
/-- A computation that is followed by one that meets the postcondition meets it. -/
theorem runs_next {α β : Type} {x : SessionM S α} {f : α → SessionM S β} {ok : β → World S → Prop} {w : World S}
    (next : ∀ a w', Runs (f a) w' ok (fun _ _ => True)) : Runs (x >>= f) w ok (fun _ _ => True) := by
  rw [runs_bind]
  exact runs_mono ((runs_final (fun _ => True)).mpr trivial) (fun a w' _ => next a w') (fun _ _ _ => trivial)

/-- The verification of a connected state, which differs only in the treatment of a gap. -/
def verify_or (env : Env) (writer : WriterRef) (m : Message) (flags : VerificationFlags)
    (gap : Nat → Nat → SessionM S VerificationResult) : SessionM S VerificationResult := do
  match ← verify_and_handle_errors env writer m flags with
  | .Ok => return .Passed
  | .Handled result => return .Issue result
  | .SequenceGap expected actual => gap expected actual

/-- A message that passes is handed on in the same world but for the clock. -/
theorem verify_passed {writer : WriterRef} {flags : VerificationFlags} {gap : Nat → Nat → SessionM S VerificationResult}
    (passes : verify_message_with_ctx m env.config (next_target w) flags (env.timestamp_now w.clock_readings) = .ok ()) :
    verify_or env writer m flags gap w = .ok .Passed (ticked w w.store) := by
  have checked : verify_and_handle_errors env writer m flags w = .ok .Ok (ticked w w.store) := by
    unfold verify_and_handle_errors
    rw [get_bind,
      bind_ok (show timestamp_now env w = .ok (env.timestamp_now w.clock_readings) (ticked w w.store) from rfl),passes]
    rfl
  unfold verify_or
  rw [bind_ok checked]
  rfl

/-- A message that does not pass is not handed on. -/
theorem verify_failed {writer : WriterRef} {flags : VerificationFlags} {gap : Nat → Nat → SessionM S VerificationResult}
    (fails : verify_message_with_ctx m env.config (next_target w) flags (env.timestamp_now w.clock_readings) ≠ .ok ())
    (issue : ∀ expected actual v, Runs (gap expected actual) v (fun r _ => r ≠ .Passed) (fun _ _ => True)) :
    Runs (verify_or env writer m flags gap) w (fun r _ => r ≠ .Passed) (fun _ _ => True) := by
  have checked : Runs (verify_and_handle_errors env writer m flags) w (fun r _ => r ≠ .Ok) (fun _ _ => True) := by
    unfold verify_and_handle_errors
    rw [runs_bind,runs_get,runs_bind,runs_timestamp_now]
    split
    · next passes => exact absurd passes fails
    · exact (runs_pure _ _ _ _).mpr (by simp)
    · exact runs_next (fun _ _ => (runs_pure _ _ _ _).mpr (by simp))
  unfold verify_or
  rw [runs_bind]
  refine runs_mono checked ?_ (fun _ _ _ => trivial)
  intro r v other
  cases r with
  | Ok => exact absurd rfl other
  | Handled result => exact (runs_pure _ _ _ _).mpr (by simp)
  | SequenceGap expected actual => exact issue expected actual v

theorem open_gap_issue (writer : WriterRef) (expected actual : Nat) (v : World S) :
    Runs (open_gap env writer expected actual) v (fun r _ => r ≠ .Passed) (fun _ _ => True) :=
  runs_next (fun _ _ => (runs_pure _ _ _ _).mpr (by simp))

theorem handle_gap_issue (state : AwaitingResendState) (expected actual : Nat) (v : World S) :
    Runs (state.handle_gap env expected actual) v (fun r _ => r ≠ .Passed) (fun _ _ => True) := by
  unfold AwaitingResendState.handle_gap
  split
  · exact runs_next (fun _ _ => runs_next (fun _ _ => (runs_pure _ _ _ _).mpr (by simp)))
  · exact runs_next (fun _ _ => (runs_pure _ _ _ _).mpr (by simp))
  · exact runs_next (fun _ _ => (runs_pure _ _ _ _).mpr (by simp))

theorem handle_verification_issue_passed {flags : VerificationFlags} (passes : verified env w m flags = true) :
    ∃ w', handle_verification_issue env m flags w = .ok .Passed w' ∧ w'.state = w.state ∧ w'.store = w.store ∧
      w'.journal = w.journal := by
  unfold verified at passes
  unfold handle_verification_issue
  rw [get_bind]
  cases state : w.state with
  | Disconnected _ => exact ⟨w,rfl,state,rfl,rfl⟩
  | _ =>
    rw [state] at passes
    exact ⟨ticked w w.store,verify_passed (of_decide_eq_true passes),state,rfl,rfl⟩

theorem handle_verification_issue_failed {flags : VerificationFlags} (fails : verified env w m flags = false) :
    Runs (handle_verification_issue env m flags) w (fun r _ => r ≠ .Passed) (fun _ _ => True) := by
  unfold verified at fails
  unfold handle_verification_issue
  rw [runs_bind,runs_get]
  cases state : w.state with
  | Disconnected _ => simp [state] at fails
  | Active active =>
    rw [state] at fails
    exact verify_failed (of_decide_eq_false fails) (open_gap_issue active.writer)
  | AwaitingResend awaiting =>
    rw [state] at fails
    exact verify_failed (of_decide_eq_false fails) (handle_gap_issue awaiting)
  | AwaitingLogon logon =>
    rw [state] at fails
    exact verify_failed (of_decide_eq_false fails) (open_gap_issue logon.writer)
  | AwaitingLogout logout =>
    rw [state] at fails
    exact verify_failed (of_decide_eq_false fails) (fun _ _ _ => (runs_pure _ _ _ _).mpr (by simp))

/-- The message passes verification and its handler panics. -/
def reached_stumbles (env : Env) (w : World S) (m : Message) : Bool :=
  match m.msg_type,VerificationFlags.for_message m with
  | some message_type,some flags => verified env w m flags && handler_stumbles env w m (msg_kind message_type)
  | _,_ => false

/-- What is done with a message that is not deferred. -/
def verify_and_dispatch (env : Env) (m : Message) : SessionM S Unit :=
  match m.msg_type,VerificationFlags.for_message m with
  | some message_type,some flags => do
    match ← handle_verification_issue env m flags with
    | .Issue result => apply_transition result
    | .Passed => dispatch env (msg_kind message_type) m
  | _,_ => throw (.Error (.MissingField "MSG_TYPE"))

theorem process_message_eq (env : Env) (m : Message) :
    (process_message env m : SessionM S Unit) = (do
      match ← pre_process_inbound m with
      | .Queued => return ()
      | .Disconnect => disconnect_writer
      | .Accept message => verify_and_dispatch env message) := rfl

/-- The handlers look at the state, the store and the journal. -/
theorem handler_stumbles_congr {w' : World S} (state : w'.state = w.state) (store : w'.store = w.store)
    (journal : w'.journal = w.journal) (kind : MsgKind) : handler_stumbles env w' m kind = handler_stumbles env w m kind := by
  obtain ⟨_,_,_,_,_⟩ := w
  obtain ⟨_,_,_,_,_⟩ := w'
  obtain rfl : _ = _ := state
  obtain rfl : _ = _ := store
  obtain rfl : _ = _ := journal
  cases kind <;> rfl

theorem verify_and_dispatch_panics :
    PanicsIn (verify_and_dispatch env m) w ↔ reached_stumbles env w m = true := by
  have quiet := quiet_calm (S := S) env
  unfold verify_and_dispatch reached_stumbles
  cases typed : m.msg_type with
  | none => exact iff_of_false (calm_throw _ w) (by simp)
  | some message_type =>
    cases VerificationFlags.for_message m with
    | none => exact iff_of_false (calm_throw _ w) (by simp)
    | some flags =>
      dsimp only
      cases passes : verified env w m flags with
      | true =>
        obtain ⟨w',executed,state,store,journal⟩ := handle_verification_issue_passed passes
        rw [panics_bind_ok executed,dispatch_panics typed,Bool.true_and,handler_stumbles_congr state store journal]
      | false =>
        refine iff_of_false ?_ (by simp)
        rw [panics_bind]
        rintro (here | ⟨r,w',executed,later⟩)
        · exact quiet.handle_verification_issue m flags w here
        · have issue := (runs_ok executed).mp (handle_verification_issue_failed passes)
          cases r with
          | Passed => exact issue rfl
          | Issue result => exact quiet.apply_transition result w' later

/-- Processing the message panics. While a resend is awaited every message is asked
    for its number, and before the logon nothing but a Logon is looked at. -/
def stumbles (env : Env) (w : World S) (m : Message) : Bool :=
  match w.state with
  | .AwaitingResend state =>
    match m.msg_seq_num with
    | none => true
    | some n =>
      if n > state.end_seq_number && m.msg_type.any (fun t => t ≠ ResendRequest.MSG_TYPE) then false
      else reached_stumbles env w m
  | .AwaitingLogon _ => false
  | _ => reached_stumbles env w m

/-- A Logon has a handler that never panics. -/
theorem logon_reached (typed : m.msg_type = some Logon.MSG_TYPE) : reached_stumbles env w m = false := by
  unfold reached_stumbles
  rw [typed]
  cases VerificationFlags.for_message m with
  | none => rfl
  | some flags =>
    have kind : msg_kind Logon.MSG_TYPE = .Logon := by decide
    simp [kind,handler_stumbles]

omit [MessageStore S] in
theorem pre_process_inbound_eq (m : Message) (w : World S) :
    pre_process_inbound m w =
      match w.state with
      | .AwaitingResend state =>
        match m.msg_seq_num with
        | none => .error (.Panic "MsgSeqNum missing from validated message - parser bug") w
        | some n =>
          if n > state.end_seq_number && m.msg_type.any (fun t => t ≠ ResendRequest.MSG_TYPE) then
            .ok .Queued { w with state := .AwaitingResend { state with inbound_queue := state.inbound_queue ++ [m] } }
          else .ok (.Accept m) w
      | .AwaitingLogon _ => if m.msg_type = some Logon.MSG_TYPE then .ok (.Accept m) w else .ok .Disconnect w
      | _ => .ok (.Accept m) w := by
  unfold pre_process_inbound
  rw [get_bind]
  cases w.state with
  | AwaitingResend state =>
    unfold get_msg_seq_num
    dsimp only
    cases m.msg_seq_num with
    | none => rfl
    | some n =>
      rw [bind_ok (show (pure n : SessionM S Nat) w = .ok n w from rfl)]
      dsimp only
      split_ifs
      · rfl
      · rfl
  | AwaitingLogon logon =>
    dsimp only
    split_ifs
    · rfl
    · rfl
  | _ => rfl

/-- Processing panics exactly when the message makes it stumble. -/
theorem process_message_panics : PanicsIn (process_message env m) w ↔ stumbles env w m = true := by
  have accepted : pre_process_inbound m w = .ok (.Accept m) w →
      (PanicsIn (process_message env m) w ↔ reached_stumbles env w m = true) := by
    intro executed
    rw [process_message_eq,panics_bind_ok executed]
    exact verify_and_dispatch_panics
  have decided := pre_process_inbound_eq m w
  unfold stumbles
  cases state : w.state with
  | Active _ => exact accepted (by simpa [state] using decided)
  | Disconnected _ => exact accepted (by simpa [state] using decided)
  | AwaitingLogout _ => exact accepted (by simpa [state] using decided)
  | AwaitingLogon logon =>
    simp only [state] at decided
    split_ifs at decided with typed
    · rw [accepted decided,logon_reached typed]
    · rw [process_message_eq,panics_bind_ok decided]
      exact iff_of_false ((quiet_calm env).disconnect_writer w) (by simp)
  | AwaitingResend awaiting =>
    cases number : m.msg_seq_num with
    | none =>
      simp only [state,number] at decided
      refine iff_of_true ?_ rfl
      rw [process_message_eq,panics_bind]
      exact .inl ⟨_,w,decided⟩
    | some n =>
      simp only [state,number] at decided
      dsimp only
      split_ifs at decided ⊢ with beyond
      · rw [process_message_eq,panics_bind_ok decided]
        exact iff_of_false (calm_pure _ _) (by simp)
      · exact accepted decided

/-! ### The loop -/

theorem replay_message_panics :
    PanicsIn (replay_message env m) w ↔ m.kind ≠ some .ResendRequest ∧ stumbles env w m = true := by
  by_cases request : m.kind = some .ResendRequest
  · have counts : replay_message env m = (do store_result (← increment_target) : SessionM S Unit) := if_pos ((request_type m).mpr request)
    rw [counts]
    exact iff_of_false ((quiet_calm env).count w) (fun both => both.1 request)
  · rw [replay_message_other env request,process_message_panics]
    simp [request]

/-- The replay panics exactly at a message that stumbles where it is replayed. -/
theorem replay_panics (backlog : List Message) :
    ∀ w : World S, PanicsIn (replay env backlog) w ↔
      ∃ p ∈ replayed env backlog w, p.2.kind ≠ some .ResendRequest ∧ stumbles env p.1 p.2 = true := by
  induction backlog with
  | nil => exact fun w => iff_of_false (calm_pure _ w) (by simp [replayed])
  | cons m rest ih =>
    intro w
    unfold replay replayed
    rw [panics_bind,replay_message_panics]
    cases executed : replay_message env m w with
    | ok value w' =>
      have later := ih w'
      simp [later]
    | error e w' => simp

theorem check_end_of_resend_panics :
    PanicsIn (check_end_of_resend env) w ↔
      ∃ p ∈ replayed_after env w, p.2.kind ≠ some .ResendRequest ∧ stumbles env p.1 p.2 = true := by
  unfold check_end_of_resend replayed_after
  rw [panics_get]
  cases state : w.state with
  | AwaitingResend awaiting =>
    dsimp only
    rcases try_complete awaiting (next_target w) with _ | ⟨new_state,backlog⟩
    · exact iff_of_false (calm_pure _ w) (by simp)
    · obtain ⟨_,w',executed,-⟩ := runs_returned (apply_transition_runs (.TransitionTo new_state) w)
      dsimp only
      rw [panics_bind_ok executed,executed,final_ok]
      exact replay_panics backlog w'
  | _ => exact iff_of_false (calm_pure _ w) (by simp)

end

/-! ### What stops with a panic or not at all -/

section
variable {α β : Type} {x : SessionM S α} {f : α → SessionM S β}

/-- The computation returns no error. -/
def Settled (x : SessionM S α) : Prop := ∀ w e w', x w = .error e w' → ∃ text, e = .Panic text

omit [MessageStore S] in
theorem settled_of_runs {ok : World S → α → World S → Prop} (runs : ∀ w, Runs x w (ok w) (fun _ _ => False)) : Settled x := by
  intro w e w' executed
  have stopped := runs w
  simp [Runs,executed] at stopped

omit [MessageStore S] in
theorem settled_pure (a : α) : Settled (pure a : SessionM S α) := by
  rintro w e w' ⟨⟩

omit [MessageStore S] in
theorem settled_bind (first : Settled x) (next : ∀ a, Settled (f a)) : Settled (x >>= f) := by
  intro w e w' executed
  simp only [bind,EStateM.bind] at executed
  cases result : x w with
  | ok a v =>
    rw [result] at executed
    exact next a v e w' executed
  | error e' v =>
    rw [result] at executed
    cases executed
    exact first w _ _ result

omit [MessageStore S] in
theorem settled_get : Settled (get : SessionM S (World S)) := by
  rintro w e w' ⟨⟩

omit [MessageStore S] in
theorem settled_modify (g : World S → World S) : Settled (modify g : SessionM S Unit) := by
  rintro w e w' ⟨⟩

omit [MessageStore S] in
theorem settled_clock (env : Env) : Settled (utc_now env : SessionM S DateTime) :=
  settled_bind settled_get (fun _ => settled_bind (settled_modify _) (fun _ => settled_pure _))

theorem settled_send_message (env : Env) (o : OutboundMessage) : Settled (send_message (S := S) env o) := by
  intro w e w' executed
  rcases frame : generated env o w with text | ⟨m,raw⟩
  · rw [send_message_panics frame] at executed
    cases executed
    exact ⟨text,rfl⟩
  · by_cases taken : (increment_sender_seq_number w.store).1 = .ok ()
    · by_cases kept : (add (next_sender w) raw (increment_sender_seq_number w.store).2).1 = .ok ()
      · obtain ⟨v,result,-⟩ := send_message_kept frame taken kept
        rw [result] at executed
        cases executed
      · obtain ⟨_,result⟩ := send_message_unkept frame taken kept
        rw [result] at executed
        cases executed
    · obtain ⟨_,result⟩ := send_message_refused frame taken
      rw [result] at executed
      cases executed

theorem settled_logout_and_terminate (env : Env) (reason : Bytes) : Settled (logout_and_terminate (S := S) env reason) :=
  settled_bind (settled_send_message env _) (fun _ => settled_of_runs disconnect_writer_runs)

theorem settled_fail (env : Env) (reason : Bytes) (result : TransitionResult) :
    Settled (do logout_and_terminate (S := S) env reason; apply_transition result) :=
  settled_bind (settled_logout_and_terminate env reason) (fun _ => settled_of_runs (apply_transition_runs result))

theorem settled_restart_period (env : Env) (reason : Bytes) : Settled (restart_period (S := S) env reason) := by
  refine settled_bind (settled_logout_and_terminate env reason) (fun _ => ?_)
  refine settled_bind (settled_bind (settled_clock env) (fun now w e w' executed => ?_)) (fun r => ?_)
  · rw [store_operation_eq] at executed
    split at executed <;> cases executed
  · cases r with
    | ok _ => exact settled_pure _
    | error _ => exact settled_of_runs (apply_transition_runs _)

omit [MessageStore S] in
/-- Errors that are handled do not get out. -/
theorem settled_catch_error {x : SessionM S Unit} {handler : SessionOperationError → SessionM S Unit}
    (handled : ∀ e, Settled (handler e)) : Settled (catch_error x handler) := by
  intro w e w' executed
  unfold catch_error at executed
  split at executed
  · next err v _ => exact handled err v e w' executed
  · next escaped =>
    cases e with
    | Error err => exact absurd executed (escaped err w')
    | Panic text => exact ⟨text,rfl⟩

theorem settled_handle_schedule_check (env : Env) : Settled (handle_schedule_check (S := S) env) := by
  refine settled_bind (settled_clock env) (fun now => ?_)
  split
  · refine settled_bind (settled_of_runs notify_schedule_awaiter_runs) (fun _ => settled_bind settled_get (fun w => ?_))
    split
    · exact settled_pure _
    · exact settled_restart_period env _
    · exact settled_restart_period env _
    · exact settled_logout_and_terminate env _
  · refine settled_bind settled_get (fun w => ?_)
    split
    · exact settled_catch_error (fun _ => settled_pure _)
    · exact settled_pure _

omit [MessageStore S] in
theorem returns_iff (settled : Settled x) (w : World S) : (∃ a w', x w = .ok a w') ↔ ¬ PanicsIn x w := by
  cases executed : x w with
  | ok a w' => exact iff_of_true ⟨a,w',rfl⟩ (by simp [PanicsIn,executed])
  | error e w' =>
    obtain ⟨text,rfl⟩ := settled w e w' executed
    exact iff_of_false (by simp) (not_not.mpr ⟨text,w',executed⟩)

end

/-! ### Frames -/

section
variable {w : World S}

/-- No message that is taken up while the frame is handled makes the session stumble:
    neither the one that arrives nor those of the backlog it releases. -/
structure Fine (env : Env) (raw_message : Bytes) (w : World S) : Prop where
  arriving : ∀ p ∈ arrival env raw_message w, stumbles env p.1 p.2 = false
  replayed : ∀ p ∈ (taken env (.Event (.FixMessageReceived raw_message)) w).tail, p.2.kind ≠ some .ResendRequest →
    stumbles env p.1 p.2 = false

theorem fine_of_nothing {env : Env} {raw_message : Bytes} (nothing : arrival env raw_message w = none) :
    Fine env raw_message w :=
  ⟨by simp [nothing],by simp [taken,nothing]⟩

theorem fine_iff {env : Env} {raw_message : Bytes} {v : World S} {m : Message} (arrived : arrival env raw_message w = some (v,m)) :
    Fine env raw_message w ↔ stumbles env v m = false ∧ ∀ u, process_message env m v = .ok () u →
      ∀ p ∈ replayed_after env u, p.2.kind ≠ some .ResendRequest → stumbles env p.1 p.2 = false := by
  constructor
  · intro fine
    refine ⟨fine.arriving (v,m) (by simp [arrived]),fun u executed p member other => ?_⟩
    exact fine.replayed p (by simpa [taken,arrived,executed] using member) other
  · rintro ⟨here,later⟩
    refine ⟨?_,?_⟩
    · intro p arriving
      rw [arrived] at arriving
      cases arriving
      exact here
    · intro p member other
      cases executed : process_message env m v with
      | ok _ u => exact later u executed p (by simpa [taken,arrived,executed] using member) other
      | error e u => simp [taken,arrived,executed] at member

/-- A frame makes the session panic at the message that arrives or at one of those
    that it releases. -/
theorem on_incoming_panics (env : Env) (raw_message : Bytes) {checked : World S} (ran : handle_schedule_check env w = .ok () checked) :
    ¬ PanicsIn (on_incoming env raw_message) checked ↔ Fine env raw_message w := by
  unfold PanicsIn
  rw [on_incoming_eq]
  cases built : env.build raw_message with
  | Garbled reason => exact iff_of_true (by simp) (fine_of_nothing (by simp [arrival,built,ran]))
  | UnexpectedError text => exact iff_of_true (by simp) (fine_of_nothing (by simp [arrival,built,ran]))
  | Invalid m reason =>
    exact iff_of_true ((quiet_calm env).on_invalid m reason _) (fine_of_nothing (by simp [arrival,built,ran]))
  | Valid m =>
    have arrived : arrival env raw_message w = some (noted (touched checked) (.Received m),m) := by
      simp [arrival,built,ran]
    change ¬ PanicsIn (do process_message env m; check_end_of_resend env) (noted (touched checked) (.Received m)) ↔ _
    rw [fine_iff arrived,panics_bind,process_message_panics,not_or,Bool.not_eq_true]
    refine and_congr_right (fun _ => ?_)
    constructor
    · intro calm u executed p member other
      by_contra stumbled
      exact calm ⟨(),u,executed,check_end_of_resend_panics.mpr ⟨p,member,other,by simpa using stumbled⟩⟩
    · rintro later ⟨_,u,executed,panics⟩
      obtain ⟨p,member,other,stumbled⟩ := check_end_of_resend_panics.mp panics
      rw [later u executed p member other] at stumbled
      cases stumbled

omit [MessageStore S] in
/-- A handler that never panics leaves the panics of the computation. -/
theorem panics_catch_error {x : SessionM S Unit} {handler : SessionOperationError → SessionM S Unit}
    (calm : ∀ e, Calm (handler e)) : PanicsIn (catch_error x handler) w ↔ PanicsIn x w := by
  unfold PanicsIn catch_error
  cases executed : x w with
  | ok a w' => simp
  | error e w' =>
    cases e with
    | Panic text => simp
    | Error err => exact iff_of_false (calm err w') (by simp)

/-- Handling a frame returns exactly when no message that is taken up makes the
    session stumble. -/
theorem never_panics_iff (env : Env) (raw_message : Bytes) (w : World S) :
    (∃ w', handle_session_event env (.FixMessageReceived raw_message) w = .ok () w') ↔ Fine env raw_message w := by
  have quiet := quiet_calm (S := S) env
  obtain ⟨_,checked,ran⟩ := (returns_iff (settled_handle_schedule_check env) w).mpr (quiet.handle_schedule_check w)
  have handled : ∀ e : SessionOperationError, Calm (do
      logout_and_terminate (S := S) env (ascii "internal error")
      apply_transition (.TransitionTo (.new_disconnected true e.to_string))) :=
    fun e => quiet.bind (quiet.logout_and_terminate _) (fun _ => quiet.apply_transition _)
  rw [← on_incoming_panics env raw_message ran,← panics_catch_error handled,handle_session_event,bind_ok ran,
    ← returns_iff (settled_catch_error (fun e => settled_fail env _ _))]
  exact ⟨fun ⟨w',executed⟩ => ⟨(),w',executed⟩,fun ⟨_,w',executed⟩ => ⟨w',executed⟩⟩

end

/-- A TestRequest without a TestReqID. -/
def bare_test_request : Message := message TestRequest.MSG_TYPE 2 []

def logged_on : World Store := after (valid [logon,bare_test_request]) [connect,receive logon]

/-- The text of a panic. -/
def panic_text {α : Type} : EStateM.Result (Abort SessionOperationError) (World S) α → Option String
  | .error (.Panic text) _ => some text
  | _ => none

/-- A TestRequest without a TestReqID is valid and verified, and makes the session
    panic. -/
theorem test_request_panics :
    Reachable (valid [logon,bare_test_request]) (fun _ _ => True) start logged_on ∧
      logged_on.state.is_logged_on = true ∧
      (arrival (valid [logon,bare_test_request]) (Sample.wire bare_test_request) logged_on).isSome = true ∧
      panic_text (handle_session_event (valid [logon,bare_test_request])
        (.FixMessageReceived (Sample.wire bare_test_request)) logged_on) = some "not yet implemented" :=
  ⟨reachable_after (by decide +kernel),by decide +kernel⟩

end HotFix.Panics
