import HotFix.Refinement
import Mathlib.Logic.Relation

/-!
The loop around the processing of messages: what each input does to the core, and
which messages are taken up while a frame is handled, each with the world in which
it is taken up.
-/
namespace HotFix.Loop
open HotFix.Program HotFix.Protocol HotFix.Frames HotFix.Operations HotFix.Refinement MessageStore
variable {S : Type}

theorem catch_error_runs {x : SessionM S Unit} {handler : SessionOperationError → SessionM S Unit} {w : World S}
    {ok : Unit → World S → Prop} {stop : Abort SessionOperationError → World S → Prop} :
    Runs (catch_error x handler) w ok stop ↔ Runs x w ok (fun e w' =>
      match e with
      | .Error error => Runs (handler error) w' ok stop
      | .Panic text => stop (.Panic text) w') := by
  unfold Runs catch_error
  cases x w with
  | ok value w' => rfl
  | error e w' => cases e <;> rfl

variable [MessageStore S]

/-! ### The schedule -/

theorem notify_schedule_awaiter_runs (w : World S) :
    Runs notify_schedule_awaiter w (fun _ w' => core w' = core w ∧ w'.store = w.store) (fun _ _ => False) := by
  unfold notify_schedule_awaiter
  rw [runs_bind,runs_get]
  cases state : w.state with
  | Disconnected disconnected =>
    dsimp only
    cases disconnected.schedule_awaiter with
    | none => exact ⟨rfl,rfl⟩
    | some responder =>
      rw [runs_bind,runs_set_state]
      refine ⟨(core_silent rfl).trans ?_,rfl⟩
      rw [core_set_state]
      simp [Core.goto,core,state,phaseOf]
  | _ => exact ⟨rfl,rfl⟩

theorem on_disconnect_moved (reason : Bytes) (w : World S) :
    moved (core w) (w.state.on_disconnect reason) = (core w).goto .Disconnected := by
  cases state : w.state with
  | Disconnected _ => simp [SessionState.on_disconnect,moved,Core.goto,core,state,phaseOf]
  | _ => rfl

theorem register_schedule_awaiter_runs (responder : Responder) (w : World S) :
    Runs (register_schedule_awaiter responder) w (fun _ w' => core w' = core w) (fun _ _ => False) := by
  unfold register_schedule_awaiter
  rw [runs_bind,runs_get]
  cases state : w.state with
  | Disconnected disconnected =>
    dsimp only
    split_ifs
    · exact core_silent rfl
    · exact (core_set_state w _).trans (by simp [Core.goto,core,state,phaseOf])
  | _ => exact core_silent rfl

/-! ### The messages taken up -/

/-- The timer of the peer starts anew, unless a test response is awaited. -/
def touched (w : World S) : World S :=
  if w.state.is_expecting_test_response then w else { w with state := w.state.reset_peer_timer none }

/-- A world with one more entry in its journal. -/
def noted (w : World S) (entry : Effect) : World S := { w with journal := w.journal ++ [entry] }

/-- The world in which a valid message reaches processing. -/
def arrival (env : Env) (raw_message : Bytes) (w : World S) : Option (World S × Message) :=
  match handle_schedule_check env w,env.build raw_message with
  | .ok _ checked,.Valid message => some (noted (touched checked) (.Received message),message)
  | _,_ => none

/-- The world in which a frame of unknown type is answered. -/
def unknown (env : Env) (raw_message : Bytes) (w : World S) : Option (World S × Message) :=
  match handle_schedule_check env w,env.build raw_message with
  | .ok _ checked,.Invalid message (.InvalidMsgType _) => some (touched checked,message)
  | _,_ => none

/-- The messages of a backlog, each with the world in which it is replayed. -/
def replayed (env : Env) : List Message → World S → List (World S × Message)
  | [],_ => []
  | message :: rest,w => (w,message) ::
    match replay_message env message w with
    | .ok _ w' => replayed env rest w'
    | .error _ _ => []

/-- The messages replayed once a message has been processed. -/
def replayed_after (env : Env) (w : World S) : List (World S × Message) :=
  match w.state with
  | .AwaitingResend state =>
    match try_complete state (next_target w) with
    | some (new_state,backlog) => replayed env backlog (final (apply_transition (.TransitionTo new_state) w))
    | none => []
  | _ => []

/-- The messages taken up while an input is handled: the one that arrives, then
    those it releases. -/
def taken (env : Env) (input : Input) (w : World S) : List (World S × Message) :=
  match input with
  | .Event (.FixMessageReceived raw_message) =>
    match arrival env raw_message w with
    | some (v,message) => (v,message) ::
      match process_message env message v with
      | .ok _ u => replayed_after env u
      | .error _ _ => []
    | none => []
  | _ => []

theorem core_touched (w : World S) : core (touched w) = core w := by
  unfold touched
  split_ifs
  · rfl
  · exact core_reset_peer_timer none w

theorem on_incoming_eq (env : Env) (raw_message : Bytes) (w : World S) :
    on_incoming env raw_message w =
      match env.build raw_message with
      | .Valid message => (do process_message env message; check_end_of_resend env) (noted (touched w) (.Received message))
      | .Invalid message reason => on_invalid env message reason (touched w)
      | _ => .ok () (touched w) := by
  unfold on_incoming touched
  rw [get_bind]
  dsimp only
  by_cases expecting : w.state.is_expecting_test_response = true
  · rw [if_neg (by simp [expecting]),if_pos expecting]
    cases env.build raw_message <;> rfl
  · rw [if_pos (by simp [expecting]),if_neg expecting]
    cases env.build raw_message <;> rfl

theorem request_type (m : Message) :
    m.msg_type.getD [] = ResendRequest.MSG_TYPE ↔ m.kind = some .ResendRequest := by
  unfold Message.kind
  cases m.msg_type with
  | none => simp; decide
  | some message_type => simp [msg_kind_resendRequest]

theorem replay_message_other (env : Env) {m : Message} (other : m.kind ≠ some .ResendRequest) :
    (replay_message env m : SessionM S Unit) = process_message env m :=
  if_neg (mt (request_type m).mp other)

theorem next_positive [LawfulMessageStore S] (w : World S) : 0 < (core w).next := (LawfulMessageStore.next_pos w.store).2

variable {arith : Arith} [counting : CountingStore S arith]
include counting

theorem logout_and_terminate_runs (env : Env) (reason : Bytes) (w : World S) :
    Runs (logout_and_terminate env reason) w (fun _ w' => core w' = core w) (fun _ _ => False) := by
  unfold logout_and_terminate
  rw [runs_bind]
  refine runs_mono (send_message_runs env (plain_logout _).noRequest w) ?_
    (fun _ _ stopped => stopped.2 (plain_logout _).total)
  rintro _ w₁ ⟨same,-⟩
  refine runs_mono (disconnect_writer_runs w₁) ?_ (fun _ _ no => no)
  rintro _ w₂ ⟨kept,-⟩
  exact kept.trans same

omit counting in
theorem reset_store_runs [RestartingStore S] (env : Env) (w : World S) :
    Runs (reset_store env) w
      (fun r w' => r = .ok () ∧ core w' = (core w).restart ∨
        (∃ e, r = .error e) ∧ ¬ StoreSucceeds S ∧ core w' = core w)
      (fun _ _ => False) := by
  unfold reset_store utc_now
  simp only [runs_bind,runs_get,runs_modify,runs_pure]
  refine runs_mono (store_operation_runs (RestartingStore.reset_moves _ _)) ?_ (fun _ _ no => no)
  rintro r w' ⟨state,-,⟨done,next,journal⟩ | ⟨failed,fault,next,journal⟩⟩
  · exact .inl ⟨done,by simp [core,Core.restart,state,next,journal,observe]⟩
  · have same : next_target w' = next_target w := next
    exact .inr ⟨failed,fun succeeds => fault (succeeds.reset_ok _ _),by simp [core,state,same,journal]⟩

theorem restart_period_runs [RestartingStore S] (env : Env) (reason : Bytes) (w : World S) :
    Runs (restart_period env reason) w (fun _ w' => Aside (core w) (core w')) (fun _ _ => False) := by
  unfold restart_period
  rw [runs_bind]
  refine runs_mono (logout_and_terminate_runs env reason w) ?_ (fun _ _ no => no)
  intro _ w₁ same
  rw [runs_bind,← same]
  refine runs_mono (reset_store_runs env w₁) ?_ (fun _ _ no => no.elim)
  rintro _ w₂ (⟨rfl,restarted⟩ | ⟨⟨e,rfl⟩,-,kept⟩)
  · exact Aside.restarted.to restarted
  · refine runs_mono (apply_transition_runs _ w₂) ?_ (fun _ _ no => no)
    intro _ w₃ left
    rw [kept] at left
    exact Aside.left.to left

theorem initiate_graceful_logout_runs (env : Env) (reason : Bytes) (reconnect : Bool) (w : World S) :
    Runs (initiate_graceful_logout env reason reconnect) w
      (fun result w' => core w' = core w ∧
        (result = .Stay ∨ (core w).connected ∧ ∃ state, result = .TransitionTo (.AwaitingLogout state)))
      (fun e w' => (∃ error, e = .Error error) ∧ core w' = core w) := by
  unfold initiate_graceful_logout
  rw [runs_bind,runs_get]
  have leave : ∀ writer, w.state.get_writer = some writer →
      Runs (do send_logout env reason; return (.TransitionTo (.AwaitingLogout ⟨writer,reconnect⟩) : TransitionResult)) w
        (fun result w' => core w' = core w ∧
          (result = .Stay ∨ (core w).connected ∧ ∃ state, result = .TransitionTo (.AwaitingLogout state)))
        (fun e w' => (∃ error, e = .Error error) ∧ core w' = core w) := by
    intro writer connected
    rw [runs_bind]
    refine runs_mono (send_runs env (plain_logout _) _ w) ?_ (fun _ _ stopped => ⟨stopped.1,stopped.2.1⟩)
    exact fun _ w₁ same => ⟨same,.inr ⟨get_writer_some connected,_,rfl⟩⟩
  cases state : w.state with
  | AwaitingLogout _ => exact ⟨rfl,.inl rfl⟩
  | Disconnected _ => exact ⟨rfl,.inl rfl⟩
  | AwaitingLogon logon => exact leave logon.writer (by rw [state]; rfl)
  | AwaitingResend awaiting => exact leave awaiting.writer (by rw [state]; rfl)
  | Active active => exact leave active.writer (by rw [state]; rfl)

theorem log_out_gracefully_runs (env : Env) (reason : Bytes) (reconnect : Bool) (w : World S) :
    Runs (log_out_gracefully env reason reconnect) w (fun _ w' => Aside (core w) (core w')) (fun _ _ => False) := by
  unfold log_out_gracefully
  rw [catch_error_runs,runs_bind]
  refine runs_mono (initiate_graceful_logout_runs env reason reconnect w) ?_ ?_
  · rintro _ w₁ ⟨same,rfl | ⟨on,state,rfl⟩⟩
    · exact Aside.stayed.to same
    · refine runs_mono (apply_transition_runs _ w₁) ?_ (fun _ _ no => no.elim)
      intro _ w₂ left
      rw [same] at left
      exact (Aside.loggingOut on).to left
  · rintro _ w₁ ⟨⟨error,rfl⟩,same⟩
    exact Aside.stayed.to same

/-- The check of the schedule never stops. -/
theorem handle_schedule_check_runs [RestartingStore S] (env : Env) (w : World S) :
    Runs (handle_schedule_check env) w (fun _ w' => Aside (core w) (core w')) (fun _ _ => False) := by
  unfold handle_schedule_check
  rw [runs_bind,runs_utc_now]
  split_ifs
  · rw [runs_bind]
    refine runs_mono (notify_schedule_awaiter_runs _) ?_ (fun _ _ no => no.elim)
    rintro _ w₁ ⟨same,-⟩
    rw [runs_bind,runs_get,show core w = core w₁ from same.symm]
    split
    · exact .stayed
    · exact restart_period_runs env _ w₁
    · exact restart_period_runs env _ w₁
    · exact runs_mono (logout_and_terminate_runs env _ w₁) (fun _ _ => Aside.stayed.to) (fun _ _ no => no)
  · rw [runs_bind,runs_get]
    split_ifs
    · exact log_out_gracefully_runs env _ true _
    · exact .stayed

/-! ### Frames -/

theorem replay_message_runs (env : Env) (m : Message) (w : World S)
    (room : replay_counted env w m = true → Fits arith (core w) := by exact fun _ => rfl) :
    Runs (replay_message env m) w
      (fun _ w' => Replays env (faults env w.store m) (env.timestamp_now w.clock_readings) (core w) m (core w') true)
      (fun _ w' => Replays env (faults env w.store m) (env.timestamp_now w.clock_readings) (core w) m (core w') false) := by
  unfold replay_message
  by_cases request : m.msg_type.getD [] = ResendRequest.MSG_TYPE
  · rw [if_pos request]
    have kind := (request_type m).mp request
    refine runs_mono (count_runs w (room (by simp [replay_counted,kind]))) ?_ ?_
    · intro _ w' counted
      rw [counted]
      exact .request kind
    · rintro _ w' ⟨same,fault⟩
      rw [same]
      exact .requestFailed kind fault
  · rw [if_neg request]
    have kind := mt (request_type m).mpr request
    exact runs_mono (process_message_steps env m w (fun counts => room (by simp [replay_counted,counts])))
      (fun _ _ => .took kind) (fun _ _ => .took kind)

/-- What one replayed message keeps, with the rest of the backlog, when the message
    and its world meet a condition. -/
structure ReplayRule {arith : Arith} [CountingStore S arith] (env : Env) (cond : World S → Message → Prop)
    (I : List Message → Core → Prop) (stop : Core → Prop) : Prop where
  room : ∀ (v : World S) m rest, cond v m → I (m :: rest) (core v) → replay_counted env v m = true →
    Fits arith (core v) := by exact fun _ _ _ _ _ _ => rfl
  step : ∀ v m rest v', cond v m → I (m :: rest) (core v) → replay_message env m v = .ok () v' →
    Replays env (faults env v.store m) (env.timestamp_now v.clock_readings) (core v) m (core v') true → I rest (core v')
  stops : ∀ v m rest c', cond v m → I (m :: rest) (core v) →
    Replays env (faults env v.store m) (env.timestamp_now v.clock_readings) (core v) m c' false → stop c'

section
variable {env : Env} {cond : World S → Message → Prop} {I : List Message → Core → Prop} {stop : Core → Prop}

theorem replay_runs (rule : ReplayRule env cond I stop) (backlog : List Message) : ∀ w : World S,
    (∀ p ∈ replayed env backlog w, cond p.1 p.2) → I backlog (core w) →
      Runs (replay env backlog) w (fun _ w' => I [] (core w')) (fun _ w' => stop (core w')) := by
  induction backlog with
  | nil => exact fun w _ holds => holds
  | cons m rest ih =>
    intro w conds holds
    unfold replay
    rw [runs_bind]
    have first : cond w m := conds (w,m) (by simp [replayed])
    refine runs_mono_of (replay_message_runs env m w (rule.room w m rest first holds)) ?_ (fun _ _ _ => rule.stops w m rest _ first holds)
    intro _ w' executed replays
    refine ih w' (fun p member => conds p ?_) (rule.step w m rest w' first holds executed replays)
    simp only [replayed,executed,List.mem_cons]
    exact .inr member

/-- The end of a resend is not reached yet, or the backlog is replayed in `Active`. -/
theorem check_end_of_resend_runs (rule : ReplayRule env cond I stop) {w : World S}
    (conds : ∀ p ∈ replayed_after env w, cond p.1 p.2)
    (unfinished : (∀ gap, (core w).phase = .AwaitingResend gap → (core w).next ≤ gap.last) → I [] (core w))
    (finished : ∀ gap, (core w).phase = .AwaitingResend gap → gap.last < (core w).next →
      I gap.queue ((core w).goto .Active)) :
    Runs (check_end_of_resend env) w (fun _ w' => I [] (core w')) (fun _ w' => stop (core w')) := by
  unfold check_end_of_resend
  rw [runs_bind,runs_get]
  unfold replayed_after at conds
  cases state : w.state with
  | AwaitingResend awaiting =>
    have phase : (core w).phase = .AwaitingResend (gapOf awaiting) := by simp [phaseOf,state]
    simp only [state,try_complete] at conds ⊢
    split_ifs at conds ⊢ with past
    · rw [runs_bind]
      refine runs_mono_of (apply_transition_runs _ w) ?_ (fun _ _ _ no => no.elim)
      intro _ w₁ executed left
      dsimp only at conds
      rw [executed] at conds
      refine replay_runs rule awaiting.inbound_queue w₁ conds ?_
      rw [left]
      exact finished (gapOf awaiting) phase past
    · refine unfinished (fun gap here => ?_)
      rw [phase] at here
      cases here
      exact Nat.le_of_not_lt past
  | _ => exact unfinished (by simp [phaseOf,state])

end

theorem handle_invalid_msg_type_runs (env : Env) {writer : WriterRef} (m : Message) (msg_type : Bytes) {w : World S}
    (connected : w.state.get_writer = some writer)
    (room : m.msg_seq_num = some (core w).next → Fits arith (core w) := by exact fun _ => rfl) :
    Runs (handle_invalid_msg_type env writer m msg_type) w
      (fun _ w' => Invalidated (¬ StoreSucceeds S) (core w) m (.InvalidMsgType msg_type) (core w')) (fun _ _ => False) := by
  have on := get_writer_some connected
  unfold handle_invalid_msg_type send_reject
  cases number : m.msg_seq_num with
  | none => exact .ignored (by simp [number])
  | some n =>
    dsimp only
    rw [runs_bind]
    refine runs_mono (send_message_to_runs env writer (plain_reject _) w) ?_ (fun _ _ no => no)
    rintro _ w₁ ⟨same,-⟩
    rw [runs_bind,runs_get,← same]
    rw [← same] at room
    split_ifs with expected
    · rw [runs_bind]
      refine runs_mono (increment_target_runs w₁ (room (number.trans (congrArg some expected.symm)))) ?_ (fun _ _ no => no)
      rintro _ w₂ (⟨-,counted⟩ | ⟨-,fault,kept⟩)
      · exact (Invalidated.counted rfl (same ▸ on) (by rw [number,← expected]; rfl)).to counted
      · exact (Invalidated.ignored (fun _ _ _ _ => fault)).to kept
    · refine .ignored (fun _ _ _ here => absurd ?_ expected)
      rw [number] at here
      exact (Option.some.inj here).symm

theorem on_invalid_runs (env : Env) (m : Message) (reason : InvalidReason) (w : World S)
    (room : ∀ t, reason = .InvalidMsgType t → (core w).connected → m.msg_seq_num = some (core w).next →
      Fits arith (core w) := by exact fun _ _ _ _ => rfl) :
    Runs (on_invalid env m reason) w
      (fun _ w' => Invalidated (¬ StoreSucceeds S) (core w) m reason (core w'))
      (fun e w' => (∃ error, e = .Error error) ∧ core w' = core w ∧ ¬ StoreSucceeds S) := by
  have rejected : ∀ reject_reason text context, (∀ t, reason ≠ .InvalidMsgType t) →
      Runs (send_reject_for env m reject_reason text context) w
        (fun _ w' => Invalidated (¬ StoreSucceeds S) (core w) m reason (core w'))
        (fun e w' => (∃ error, e = .Error error) ∧ core w' = core w ∧ ¬ StoreSucceeds S) := by
    intro reject_reason text context other
    have ignored : Invalidated (¬ StoreSucceeds S) (core w) m reason (core w) :=
      .ignored (fun t unknown => absurd unknown (other t))
    unfold send_reject_for
    cases m.msg_seq_num with
    | none => exact ignored
    | some n =>
      exact runs_mono (send_runs env (plain_reject _) context w) (fun _ _ => ignored.to) (fun _ _ stopped => stopped)
  cases reason with
  | InvalidField tag => exact rejected _ _ _ (by simp)
  | InvalidGroup tag => exact rejected _ _ _ (by simp)
  | InvalidComponent name => exact .ignored (by simp)
  | InvalidOrderInGroup tag group_tag => exact rejected _ _ _ (by simp)
  | RequiredFieldMissing tag group_tag => exact rejected _ _ _ (by simp)
  | InvalidMsgType msg_type =>
    unfold on_invalid
    rw [runs_bind,runs_get]
    cases connected : w.state.get_writer with
    | none => exact .ignored (fun _ _ on => absurd (get_writer_none connected) on)
    | some writer =>
      exact runs_mono (handle_invalid_msg_type_runs env m msg_type connected (room _ rfl (get_writer_some connected))) (fun _ _ answered => answered)
        (fun _ _ no => no.elim)

/-! ### Inputs -/

theorem arrival_core [RestartingStore S] {env : Env} {raw_message : Bytes} {w v : World S} {m : Message}
    (arrived : arrival env raw_message w = some (v,m)) :
    env.build raw_message = .Valid m ∧ ∃ c, Aside (core w) c ∧ core v = c.add (.Received m) := by
  unfold arrival at arrived
  have checks := handle_schedule_check_runs env w
  cases executed : handle_schedule_check env w with
  | error e w₁ => simp [executed] at arrived
  | ok _ w₁ =>
    rw [runs_ok executed] at checks
    cases built : env.build raw_message with
    | Valid message =>
      simp only [executed,built,Option.some.injEq,Prod.mk.injEq] at arrived
      obtain ⟨rfl,rfl⟩ := arrived
      refine ⟨rfl,core w₁,checks,?_⟩
      rw [← core_touched w₁]
      exact core_noted rfl
    | _ => simp [executed,built] at arrived

/-- An error ends the session. -/
theorem fail_runs (env : Env) (text : Bytes) (w : World S) :
    Runs (do logout_and_terminate env (ascii "internal error")
             apply_transition (.TransitionTo (.new_disconnected true text))) w
      (fun _ w' => core w' = (core w).goto .Disconnected) (fun _ _ => False) := by
  rw [runs_bind]
  refine runs_mono (logout_and_terminate_runs env _ w) ?_ (fun _ _ no => no)
  intro _ w₁ same
  rw [← same]
  exact apply_transition_runs _ w₁

/-- What the handling of a frame keeps. A valid message is processed and may end a
    resend; any other frame is at most answered; an error ends the session. -/
structure FrameRule {arith : Arith} [CountingStore S arith] (env : Env) (raw_message : Bytes) (w : World S)
    (cond : World S → Message → Prop) (I : List Message → Core → Prop) (stop post : Core → Prop) : Prop
    extends ReplayRule env cond I stop where
  first : ∀ v m, arrival env raw_message w = some (v,m) → counted env v m = true → Fits arith (core v) := by
    exact fun _ _ _ _ => rfl
  answered : ∀ v m, unknown env raw_message w = some (v,m) → (core v).connected → m.msg_seq_num = some (core v).next →
    Fits arith (core v) := by exact fun _ _ _ _ _ => rfl
  unfinished : ∀ v m u, arrival env raw_message w = some (v,m) → process_message env m v = .ok () u →
    Step env (faults env v.store m) (env.timestamp_now v.clock_readings) (core v) m (core u) true →
    (∀ gap, (core u).phase = .AwaitingResend gap → (core u).next ≤ gap.last) → I [] (core u)
  finished : ∀ v m u gap, arrival env raw_message w = some (v,m) → process_message env m v = .ok () u →
    Step env (faults env v.store m) (env.timestamp_now v.clock_readings) (core v) m (core u) true →
    (core u).phase = .AwaitingResend gap → gap.last < (core u).next → I gap.queue ((core u).goto .Active)
  stopped : ∀ v m c', arrival env raw_message w = some (v,m) →
    Step env (faults env v.store m) (env.timestamp_now v.clock_readings) (core v) m c' false → stop c'
  returned : ∀ c, I [] c → post c
  failed : ∀ c, stop c → post (c.goto .Disconnected)
  skipped : ∀ c, Aside (core w) c → post c
  broken : ∀ c, Aside (core w) c → ¬ StoreSucceeds S → post (c.goto .Disconnected)
  invalid : ∀ c c' m reason, Aside (core w) c → env.build raw_message = .Invalid m reason →
    Invalidated (¬ StoreSucceeds S) c m reason c' → post c'

theorem frame_runs [RestartingStore S] {env : Env} {raw_message : Bytes} {w : World S} {cond : World S → Message → Prop}
    {I : List Message → Core → Prop} {stop post : Core → Prop} (rule : FrameRule env raw_message w cond I stop post)
    (conds : ∀ p ∈ (taken env (.Event (.FixMessageReceived raw_message)) w).tail, cond p.1 p.2) :
    Runs (handle_input env (.Event (.FixMessageReceived raw_message))) w (fun _ w' => post (core w'))
      (fun _ w' => stop (core w')) := by
  unfold handle_input handle_session_event
  rw [runs_bind]
  refine runs_mono_of (handle_schedule_check_runs env w) ?_ (fun _ _ _ no => no.elim)
  intro _ w₁ checked aside
  dsimp only
  rw [catch_error_runs]
  have ended : ∀ (error : SessionOperationError) (w' : World S), post ((core w').goto .Disconnected) →
      Runs (do logout_and_terminate env (ascii "internal error")
               apply_transition (.TransitionTo (.new_disconnected true error.to_string))) w'
        (fun _ w' => post (core w')) (fun _ w' => stop (core w')) := by
    intro error w' holds
    exact runs_mono (fail_runs env _ w') (fun _ _ same => same ▸ holds) (fun _ _ no => no.elim)
  have caught : ∀ (e : Abort SessionOperationError) (w' : World S), stop (core w') →
      (match e with
        | .Error error => Runs (do logout_and_terminate env (ascii "internal error")
                                   apply_transition (.TransitionTo (.new_disconnected true error.to_string))) w'
            (fun _ w' => post (core w')) (fun _ w' => stop (core w'))
        | .Panic _ => stop (core w')) := by
    intro e w' holds
    cases e with
    | Panic _ => exact holds
    | Error error => exact ended error w' (rule.failed _ holds)
  have incoming := on_incoming_eq env raw_message w₁
  cases built : env.build raw_message with
  | Valid m =>
    simp only [built] at incoming
    rw [runs_congr incoming,runs_bind]
    have arrived : arrival env raw_message w = some (noted (touched w₁) (.Received m),m) := by
      simp only [arrival,checked,built]
    simp only [taken,arrived,List.tail_cons] at conds
    refine runs_mono_of (process_message_steps env m _ (rule.first _ m arrived)) ?_
      (fun e _ _ stepped => caught e _ (rule.stopped _ m _ arrived stepped))
    intro _ w₂ executed stepped
    rw [executed] at conds
    refine runs_mono (check_end_of_resend_runs rule.toReplayRule conds (rule.unfinished _ m w₂ arrived executed stepped)
      (fun gap => rule.finished _ m w₂ gap arrived executed stepped)) ?_ caught
    exact fun _ _ => rule.returned _
  | Invalid m reason =>
    simp only [built] at incoming
    rw [runs_congr incoming]
    have same := core_touched w₁
    have room : ∀ t, reason = .InvalidMsgType t → (core (touched w₁)).connected →
        m.msg_seq_num = some (core (touched w₁)).next → Fits arith (core (touched w₁)) := by
      rintro t rfl
      exact rule.answered _ m (by simp only [unknown,checked,built])
    refine runs_mono (on_invalid_runs env m reason (touched w₁) room) ?_ ?_
    · rw [same]
      exact fun _ _ => rule.invalid _ _ m reason aside built
    · rintro _ w' ⟨⟨error,rfl⟩,kept,fault⟩
      refine ended error w' ?_
      rw [kept,same]
      exact rule.broken _ aside fault
  | Garbled reason =>
    simp only [built] at incoming
    rw [runs_ok incoming,core_touched]
    exact rule.skipped _ aside
  | UnexpectedError text =>
    simp only [built] at incoming
    rw [runs_ok incoming,core_touched]
    exact rule.skipped _ aside

/-- The application asks for a resend with a message of its own. -/
def Asks : Input → Prop
  | .Outbound message => ¬ NoRequest message
  | _ => False

/-- The number the administrator sets is one of 64 bits. -/
def Settles (arith : Arith) (input : Input) : Prop :=
  ∀ n nonzero, input = .Admin (.SetNextTargetSeqNum n nonzero) → arith.add (n - 1) 1 = n - 1 + 1

/-- The input is a frame. -/
def IsFrame : Input → Prop
  | .Event (.FixMessageReceived _) => True
  | _ => False

theorem send_logon_runs [RestartingStore S] (env : Env) (w : World S) :
    Runs (send_logon env) w (fun _ w' => core w' = core w ∨ core w' = (core w).restart)
      (fun _ w' => core w' = core w ∨ core w' = (core w).restart) := by
  have send : ∀ config (w₁ : World S), core w₁ = core w ∨ core w₁ = (core w).restart →
      Runs (do
        modify (fun w => { w with reset_on_next_logon := false })
        let sent ← send_message env (Logon.new env.config.heartbeat_interval config).outbound
        let _ ← with_send_context "logon" sent) w₁ (fun _ w' => core w' = core w ∨ core w' = (core w).restart)
        (fun _ w' => core w' = core w ∨ core w' = (core w).restart) := by
    intro config w₁ either
    rw [runs_bind,runs_modify]
    have kept : core { w₁ with reset_on_next_logon := false } = core w₁ := rfl
    refine runs_mono (send_runs env (plain_logon _) _ _) ?_ ?_
    · intro _ w₂ same
      rw [same,kept]
      exact either
    · rintro _ w₂ ⟨-,same,-⟩
      rw [same,kept]
      exact either
  unfold send_logon
  rw [runs_bind,runs_get]
  dsimp only
  split_ifs
  · rw [runs_bind]
    refine runs_mono (reset_store_runs env w) ?_ (fun _ _ no => no.elim)
    rintro _ w₁ (⟨rfl,restarted⟩ | ⟨⟨e,rfl⟩,-,same⟩)
    · exact send _ w₁ (.inr restarted)
    · exact .inl same
  · exact send _ w (.inl rfl)

theorem on_connect_runs [RestartingStore S] (env : Env) (writer : WriterRef) (w : World S) :
    Runs (on_connect env writer) w
      (fun _ w' => core w' = ((core w).add .Connected).goto .AwaitingLogon ∨
        core w' = (((core w).add .Connected).goto .AwaitingLogon).restart)
      (fun _ w' => core w' = ((core w).add .Connected).goto .AwaitingLogon ∨
        core w' = (((core w).add .Connected).goto .AwaitingLogon).restart) := by
  unfold on_connect
  rw [runs_bind,runs_note,runs_bind]
  refine runs_mono (apply_transition_runs _ _) ?_ (fun _ _ no => no.elim)
  intro _ w₁ left
  have connected : core { w with journal := w.journal ++ [.Connected writer] } = (core w).add .Connected := core_noted rfl
  rw [connected] at left
  rw [runs_bind,runs_modify]
  have here : core { w₁ with state := w₁.state.reset_peer_timer none } = ((core w).add .Connected).goto .AwaitingLogon :=
    (core_reset_peer_timer none w₁).trans left
  rw [← here]
  exact send_logon_runs env _

theorem event_turns [RestartingStore S] (env : Env) {event : SessionEvent} (other : ¬ IsFrame (.Event event)) (w : World S) :
    Runs (handle_session_event env event) w
      (fun _ w' => Turn (Asks (.Event event)) (.Event event) (core w) (core w'))
      (fun _ w' => Turn (Asks (.Event event)) (.Event event) (core w) (core w')) := by
  unfold handle_session_event
  rw [runs_bind]
  refine runs_mono (handle_schedule_check_runs env w) ?_ (fun _ _ no => no.elim)
  intro _ w₁ aside
  cases event with
  | FixMessageReceived raw => exact absurd trivial other
  | Disconnected reason =>
    dsimp only
    unfold on_disconnect
    rw [runs_bind]
    refine runs_mono (disconnect_writer_runs w₁) ?_ (fun _ _ no => no.elim)
    rintro _ w₂ ⟨same,-⟩
    rw [runs_bind,runs_get]
    refine runs_mono (apply_transition_runs _ w₂) ?_ (fun _ _ no => no.elim)
    intro _ w₃ left
    rw [on_disconnect_moved,same] at left
    exact (Turn.left aside).to left
  | Connected writer =>
    dsimp only
    rw [catch_error_runs]
    have turned : ∀ w₂ : World S, core w₂ = ((core w₁).add .Connected).goto .AwaitingLogon ∨
        core w₂ = (((core w₁).add .Connected).goto .AwaitingLogon).restart →
        Turn (Asks (.Event (.Connected writer))) (.Event (.Connected writer)) (core w) (core w₂) := by
      rintro w₂ (here | here)
      · exact (Turn.connected rfl aside).to here
      · exact (Turn.reset rfl aside).to here
    refine runs_mono (on_connect_runs env writer w₁) (fun _ w₂ => turned w₂) ?_
    intro e w₂ either
    cases e with
    | Panic _ => exact turned w₂ either
    | Error _ => exact turned w₂ either
  | ShouldReconnect =>
    exact (Turn.aside aside).to (core_silent rfl)
  | AwaitSchedule responder =>
    refine runs_mono (register_schedule_awaiter_runs responder w₁) ?_ (fun _ _ no => no.elim)
    exact fun _ _ same => (Turn.aside aside).to same

theorem outbound_turns (env : Env) (message : OutboundMessage) (w : World S) :
    Runs (handle_outbound_message env message) w
      (fun _ w' => Turn (Asks (.Outbound message)) (.Outbound message) (core w) (core w'))
      (fun _ w' => Turn (Asks (.Outbound message)) (.Outbound message) (core w) (core w')) := by
  unfold handle_outbound_message send_app_message
  rw [runs_bind,runs_bind,runs_get]
  split_ifs
  · rw [runs_bind,runs_note]
    have silent : core { w with journal := w.journal ++ [.OnOutboundMessage message.message_type] } = core w :=
      core_silent rfl
    cases env.application.on_outbound_message w.journal message with
    | Send =>
      dsimp only
      rw [runs_bind]
      refine runs_mono (send_message_any_runs env message _) ?_
        (fun _ _ stopped => (Turn.aside .stayed).to (stopped.1.trans silent))
      intro r w₁ ⟨sent,_⟩
      rw [silent] at sent
      have turned : Turn (Asks (.Outbound message)) (.Outbound message) (core w) (core w₁) := by
        obtain same | ⟨request,added⟩ := sent
        · exact (Turn.aside .stayed).to same
        · exact (Turn.asked request).to added
      cases r <;> exact turned
    | Drop => exact (Turn.aside .stayed).to silent
    | TerminateSession =>
      dsimp only
      rw [runs_bind]
      refine runs_mono (disconnect_writer_runs _) ?_ (fun _ _ no => no.elim)
      rintro _ w₁ ⟨same,-⟩
      exact (Turn.aside .stayed).to (same.trans silent)
  · exact .aside .stayed

theorem admin_turns (env : Env) (request : AdminRequest) (w : World S)
    (settles : Settles arith (.Admin request) := by exact fun _ _ _ => rfl) :
    Runs (handle_admin_request env request) w
      (fun _ w' => Turn (Asks (.Admin request)) (.Admin request) (core w) (core w')) (fun _ _ => False) := by
  cases request with
  | InitiateGracefulShutdown reconnect =>
    exact runs_mono (log_out_gracefully_runs env _ reconnect w) (fun _ _ => .aside) (fun _ _ no => no)
  | RequestSessionInfo => exact (Turn.aside .stayed).to (core_silent rfl)
  | ResetSequenceNumbersOnNextLogon => exact .aside .stayed
  | SetNextTargetSeqNum n nonzero =>
    unfold handle_admin_request try_set_next_target_seq_num
    rw [runs_bind,runs_get]
    cases state : w.state with
    | Disconnected _ =>
      have phase : (core w).phase = .Disconnected := by simp [phaseOf,state]
      dsimp only
      rw [runs_bind]
      refine runs_mono (set_target_runs (n - 1) w (settles n nonzero rfl)) ?_ (fun _ _ no => no)
      rintro _ w₁ (⟨-,jumped⟩ | ⟨-,-,same⟩)
      · rw [Nat.sub_add_cancel nonzero] at jumped
        exact (Turn.set rfl phase).to jumped
      · exact (Turn.aside .stayed).to same
    | _ => exact .aside .stayed

theorem peer_timeout_runs (env : Env) (w : World S) :
    Runs (handle_peer_timeout env) w (fun _ w' => core w' = core w) (fun _ _ => False) := by
  have disconnects : Runs disconnect_writer w (fun _ w' => core w' = core w) (fun _ _ => False) :=
    runs_mono (disconnect_writer_runs w) (fun _ _ done => done.1) (fun _ _ no => no)
  unfold handle_peer_timeout
  rw [runs_bind,runs_get]
  dsimp only
  split_ifs
  · exact logout_and_terminate_runs env _ w
  · exact disconnects
  · exact disconnects
  · rw [runs_bind]
    refine runs_mono (send_message_runs env (plain_testRequest _).noRequest w) ?_
      (fun _ _ stopped => stopped.2 (plain_testRequest _).total)
    rintro _ w₁ ⟨same,-⟩
    exact (core_reset_peer_timer _ w₁).trans same

/-- An input other than a frame takes a turn, however it ends. -/
theorem turn_runs [RestartingStore S] (env : Env) {input : Input} (other : ¬ IsFrame input) (w : World S)
    (settles : Settles arith input := by exact fun _ _ _ => rfl) :
    Runs (handle_input env input) w (fun _ w' => Turn (Asks input) input (core w) (core w'))
      (fun _ w' => Turn (Asks input) input (core w) (core w')) := by
  cases input with
  | Event event => exact event_turns env other w
  | Outbound message => exact outbound_turns env message w
  | Admin request => exact runs_mono (admin_turns env request w settles) (fun _ _ turn => turn) (fun _ _ no => no.elim)
  | HeartbeatTimeout =>
    unfold handle_input handle_heartbeat_timeout
    rw [runs_bind]
    refine runs_mono (send_message_runs env (plain_heartbeat _).noRequest w) ?_
      (fun _ _ stopped => absurd (plain_heartbeat _).total stopped.2)
    exact fun _ _ sent => (Turn.aside .stayed).to sent.1
  | PeerTimeout =>
    exact runs_mono (peer_timeout_runs env w) (fun _ _ same => (Turn.aside .stayed).to same) (fun _ _ no => no.elim)
  | ScheduleCheck => exact runs_mono (handle_schedule_check_runs env w) (fun _ _ => .aside) (fun _ _ no => no.elim)

/-! ### Runs -/

section
omit counting
variable [LawfulMessageStore S] {env : Env} {asks : Prop} {c d e : Core}
open Relation

private theorem moves_replay {faults : Faults} {now : Timestamp} {m : Message} {returns : Bool}
    (moves : ReflTransGen (Move env asks) c d) (replays : Replays env faults now d m e returns) :
    ReflTransGen (Move env asks) c e := by
  cases replays with
  | request kind => exact moves.tail .counted
  | requestFailed kind fault => exact moves
  | took kind step => exact moves.tail (.took step)

private theorem moves_invalid {fault : Prop} {m : Message} {reason : InvalidReason}
    (moves : ReflTransGen (Move env asks) c d) (invalid : Invalidated fault d m reason e) :
    ReflTransGen (Move env asks) c e := by
  cases invalid with
  | ignored _ => exact moves
  | counted _ _ _ => exact moves.tail .counted

private theorem moves_turn {input : Input} (turn : Turn asks input c d) : ReflTransGen (Move env asks) c d := by
  cases turn with
  | aside aside => exact .single (.aside aside)
  | left aside => exact .tail (.single (.aside aside)) (.aside .left)
  | connected connect aside => exact .tail (.single (.aside aside)) .connected
  | reset connect aside => exact .tail (.tail (.single (.aside aside)) .connected) (.aside .restarted)
  | set admin phase => exact .single (.set phase _)
  | asked may => exact .single (.asked may)

/-- Handling an input is a sequence of moves of the protocol, however it ends. -/
theorem handle_input_moves (env : Env) (input : Input) (w : World S) :
    ReflTransGen (Move env (Asks input)) (core w) (core (final (handle_input env input w))) := by
  rw [← runs_final (fun w' => ReflTransGen (Move env (Asks input)) (core w) (core w'))]
  by_cases frame : IsFrame input
  · match input,frame with
    | .Event (.FixMessageReceived raw_message),_ =>
      have arrived : ∀ {v m}, arrival env raw_message w = some (v,m) →
          ReflTransGen (Move env (Asks (.Event (.FixMessageReceived raw_message)))) (core w) (core v) := by
        intro v m here
        obtain ⟨-,c,aside,same⟩ := arrival_core here
        rw [same]
        exact .tail (.single (.aside aside)) (.received m)
      have rule : FrameRule env raw_message w (fun _ _ => True)
          (fun _ => ReflTransGen (Move env (Asks (.Event (.FixMessageReceived raw_message)))) (core w))
          (ReflTransGen (Move env (Asks (.Event (.FixMessageReceived raw_message)))) (core w))
          (ReflTransGen (Move env (Asks (.Event (.FixMessageReceived raw_message)))) (core w)) :=
        { step := fun _ _ _ _ _ moves _ replays => moves_replay moves replays
          stops := fun _ _ _ _ _ moves replays => moves_replay moves replays
          unfinished := fun _ _ _ here _ step _ => (arrived here).tail (.took step)
          finished := fun _ _ _ _ here _ step phase past =>
            ((arrived here).tail (.took step)).tail (.completed phase past)
          stopped := fun _ _ _ here step => (arrived here).tail (.took step)
          returned := fun _ moves => moves
          failed := fun _ moves => moves.tail (.aside .left)
          skipped := fun _ aside => .single (.aside aside)
          broken := fun _ aside _ => .tail (.single (.aside aside)) (.aside .left)
          invalid := fun _ _ _ _ aside _ invalid => moves_invalid (.single (.aside aside)) invalid }
      exact frame_runs rule (fun _ _ => trivial)
  · exact runs_mono (turn_runs env frame w) (fun _ _ => moves_turn) (fun _ _ => moves_turn)

private theorem moves_invariant {P : Core → Prop} (keeps : ∀ c d, Move env asks c d → P c → P d)
    (moves : ReflTransGen (Move env asks) c d) (holds : P c) : P d := by
  induction moves with
  | refl => exact holds
  | tail before move ih => exact keeps _ _ move ih

/-- The worlds that the handling of an input leaves, also by a panic. -/
def Leaves (env : Env) (allowed : World S → Input → Prop) (start left : World S) : Prop :=
  ∃ w input, Reachable env allowed start w ∧ enabled w.state input = true ∧ allowed w input ∧
    final (handle_input env input w) = left

private theorem handle_input_invariant {P : Core → Prop} {input : Input} {w : World S} (quiet : Asks input → asks)
    (keeps : ∀ c d, Move env asks c d → P c → P d) (holds : P (core w)) : P (core (final (handle_input env input w))) :=
  moves_invariant (fun c d move => keeps c d (move.mono quiet)) (handle_input_moves env input w) holds

/-- What every move keeps holds in every reachable world. -/
theorem reachable_invariant (asks : Prop) {P : Core → Prop} {allowed : World S → Input → Prop} {start w : World S}
    (quiet : ∀ w input, allowed w input → Asks input → asks) (begins : P (core start))
    (keeps : ∀ c d, Move env asks c d → P c → P d) (run : Reachable env allowed start w) : P (core w) := by
  induction run with
  | start => exact begins
  | @step w w' input before armed fine handled ih =>
    have kept := handle_input_invariant (quiet w input fine) keeps ih
    rwa [handled] at kept

theorem leaves_invariant (asks : Prop) {P : Core → Prop} {allowed : World S → Input → Prop} {start left : World S}
    (quiet : ∀ w input, allowed w input → Asks input → asks) (begins : P (core start))
    (keeps : ∀ c d, Move env asks c d → P c → P d) (leaves : Leaves env allowed start left) : P (core left) := by
  obtain ⟨w,input,run,-,fine,rfl⟩ := leaves
  exact handle_input_invariant (quiet w input fine) keeps (reachable_invariant asks quiet begins keeps run)

end

/-- One input: inputs other than frames take a turn, and a frame has a rule of its own. -/
theorem input_rule [RestartingStore S] {env : Env} {P stop : Core → Prop} {input : Input} {w : World S}
    (settles : Settles arith input) (turns : ∀ c', Turn (Asks input) input (core w) c' → P c')
    (frames : ∀ raw_message, input = .Event (.FixMessageReceived raw_message) →
      ∃ cond I, FrameRule env raw_message w cond I stop P ∧ ∀ p ∈ (taken env input w).tail, cond p.1 p.2) :
    Runs (handle_input env input) w (fun _ w' => P (core w')) (fun _ w' => P (core w') ∨ stop (core w')) := by
  by_cases frame : IsFrame input
  · match input,frame with
    | .Event (.FixMessageReceived raw_message),_ =>
      obtain ⟨cond,I,rule,conds⟩ := frames raw_message rfl
      exact runs_mono (frame_runs rule conds) (fun _ _ held => held) (fun _ _ => .inr)
  · exact runs_mono (turn_runs env frame w settles) (fun _ _ => turns _) (fun _ _ turn => .inl (turns _ turn))

/-- The induction over a run. -/
theorem reachable_rule [RestartingStore S] {env : Env} {P : Core → Prop} (stop : Core → Prop) {allowed : World S → Input → Prop}
    {start w : World S} (begins : P (core start))
    (turns : ∀ (w : World S) input c', allowed w input → P (core w) → Turn (Asks input) input (core w) c' → P c')
    (frames : ∀ w raw_message, Reachable env allowed start w → allowed w (.Event (.FixMessageReceived raw_message)) →
      P (core w) → ∃ cond I, FrameRule env raw_message w cond I stop P ∧
        ∀ p ∈ (taken env (.Event (.FixMessageReceived raw_message)) w).tail, cond p.1 p.2)
    (run : Reachable env allowed start w)
    (settles : ∀ w input, allowed w input → Settles arith input := by exact fun _ _ _ _ _ _ => rfl) : P (core w) := by
  induction run with
  | start => exact begins
  | @step w w' input before armed fine handled ih =>
    have kept := input_rule (settles w input fine) (turns w input · fine ih) (fun raw_message (here : input = _) => by
      subst here
      exact frames w raw_message before fine ih)
    rwa [runs_ok handled] at kept

/-- What the run keeps also holds of the world that a panic leaves, if stopping keeps it. -/
theorem leaves_rule [RestartingStore S] {env : Env} {P : Core → Prop} {allowed : World S → Input → Prop} {start left : World S}
    (begins : P (core start))
    (turns : ∀ (w : World S) input c', allowed w input → P (core w) → Turn (Asks input) input (core w) c' → P c')
    (frames : ∀ w raw_message, Reachable env allowed start w → allowed w (.Event (.FixMessageReceived raw_message)) →
      P (core w) → ∃ cond I, FrameRule env raw_message w cond I P P ∧
        ∀ p ∈ (taken env (.Event (.FixMessageReceived raw_message)) w).tail, cond p.1 p.2)
    (leaves : Leaves env allowed start left)
    (settles : ∀ w input, allowed w input → Settles arith input := by exact fun _ _ _ _ _ _ => rfl) : P (core left) := by
  obtain ⟨w,input,before,-,fine,rfl⟩ := leaves
  have held := reachable_rule P begins turns frames before settles
  have kept := input_rule (settles w input fine) (turns w input · fine held) (fun raw_message (here : input = _) => by
    subst here
    exact frames w raw_message before fine held)
  exact (runs_final (fun w' => P (core w'))).mp (runs_mono kept (fun _ _ => id) (fun _ _ either => either.elim id id))

end HotFix.Loop
