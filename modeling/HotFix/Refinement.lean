import HotFix.Operations

/-!
The session refines the protocol: each handler, and with them the processing of
one message, is a `Step` of the core.
-/
namespace HotFix.Refinement
open HotFix.Program HotFix.Protocol HotFix.Frames HotFix.Operations MessageStore
variable {S : Type} [MessageStore S]

/-- Started in `w`, the computation makes a step of `m`, whether it returns or not. -/
def Steps (env : Env) (faults : Faults) (now : Timestamp) (c : Core) (m : Message) (x : SessionM S Unit) (w : World S) :
    Prop :=
  Runs x w (fun _ w' => Step env faults now c m (core w') true) (fun _ w' => Step env faults now c m (core w') false)

/-- The store of the session is not able to answer the request. -/
def AnswerFails (env : Env) (s : S) (m : Message) : Prop :=
  ∃ (writer : WriterRef) (w : World S), w.store = s ∧ ∃ e w', answer_resend_request env writer m w = .error e w'

theorem phaseOf_reset_peer_timer (id : Option Bytes) (state : SessionState) :
    phaseOf (state.reset_peer_timer id) = phaseOf state := by
  cases state <;> rfl

theorem core_reset_peer_timer (id : Option Bytes) (w : World S) :
    core { w with state := w.state.reset_peer_timer id } = core w := by
  rw [core_set_state,phaseOf_reset_peer_timer]
  rfl

theorem get_writer_none {w : World S} (none : w.state.get_writer = none) : (core w).phase = .Disconnected := by
  cases state : w.state with
  | Disconnected _ => simp [phaseOf,state]
  | _ => simp [SessionState.get_writer,state] at none

theorem get_writer_some {w : World S} {writer : WriterRef} (some : w.state.get_writer = some writer) :
    (core w).connected := by
  cases state : w.state with
  | Disconnected _ => simp [SessionState.get_writer,state] at some
  | _ => simp [Core.connected,phaseOf,state]

theorem on_peer_logout_moved (w : World S) : moved (core w) w.state.on_peer_logout = (core w).goto .Disconnected := by
  cases state : w.state with
  | Disconnected _ => simp [SessionState.on_peer_logout,moved,Core.goto,core,state,phaseOf]
  | _ => rfl

variable {arith : Arith} [counting : CountingStore S arith]
include counting

section
variable {env : Env} {faults : Faults} {now : Timestamp} {m : Message} {k : MsgKind} {w : World S}

/-- Counting the message is the step `counted`, unless the store fails. -/
private theorem steps_count (store : ¬ StoreSucceeds S → faults.store) (accepted : Accepted (core w) m k)
    (counted : Step env faults now (core w) m (core w).count true) (fits : Fits arith (core w)) :
    Steps env faults now (core w) m (do store_result (← increment_target)) w := by
  refine runs_mono (count_runs w fits) (fun _ _ => counted.to) ?_
  rintro _ w' ⟨same,fault⟩
  exact (Step.storeFailed accepted (store fault)).to same

theorem on_heartbeat_steps (store : ¬ StoreSucceeds S → faults.store) (accepted : Accepted (core w) m .Heartbeat)
    (passed : Passed env now (core w) m .Heartbeat) (fits : Fits arith (core w)) :
    Steps env faults now (core w) m (on_heartbeat m) w := by
  unfold on_heartbeat Steps
  rw [runs_bind,runs_get]
  dsimp only
  split_ifs
  · rw [runs_bind,runs_modify]
    have same := core_reset_peer_timer none w
    rw [← same] at accepted passed fits ⊢
    exact steps_count store accepted (.heartbeat accepted passed) fits
  · exact steps_count store accepted (.heartbeat accepted passed) fits

theorem on_reject_steps (store : ¬ StoreSucceeds S → faults.store) (accepted : Accepted (core w) m .Reject)
    (passed : Passed env now (core w) m .Reject) (fits : Fits arith (core w)) :
    Steps env faults now (core w) m on_reject w :=
  steps_count store accepted (.reject accepted passed) fits

theorem on_test_request_steps (store : ¬ StoreSucceeds S → faults.store) (accepted : Accepted (core w) m .TestRequest)
    (passed : Passed env now (core w) m .TestRequest)
    (room : handler_counts env w m .TestRequest = true → Fits arith (core w)) :
    Steps env faults now (core w) m (on_test_request env m) w := by
  unfold on_test_request Steps
  rw [runs_bind,runs_get]
  cases writer : w.state.get_writer with
  | none => exact .unhandled accepted (get_writer_none writer) (.inl rfl)
  | some writer' =>
    have on := get_writer_some writer
    unfold answer_test_request
    cases id : m.body.get_str TEST_REQ_ID with
    | none => exact .testRequestPanic accepted passed on id
    | some req_id =>
      have given : (m.body.get_str TEST_REQ_ID).isSome := by simp [id]
      have fits := room (by simp [handler_counts,SessionState.is_connected,writer,id])
      refine count_then_runs ?_ (fun _ _ same fault => (Step.storeFailed accepted (store fault)).to same) fits
      intro w₁ counted
      simp only [runs_bind]
      refine runs_mono (send_message_to_runs env writer' (plain_heartbeat _) w₁) ?_ (fun _ _ no => no.elim)
      rintro _ w₂ ⟨same,-,⟨n,rfl⟩ | ⟨⟨e,rfl⟩,fault⟩⟩
      · exact (Step.testRequest accepted passed on given (by simp)).to (same.trans counted)
      · exact (Step.testRequest accepted passed on given (fun _ => store fault)).to (same.trans counted)

omit counting in
/-- A number that is read from a message does not wrap. -/
theorem jump_fits (arith : Arith) {field : FieldDefinition} {n : Nat} (target : m.body.get_u64 field = some n) :
    arith.add (n - 1) 1 = n - 1 + 1 := by
  unfold FieldMap.get_u64 at target
  obtain ⟨data,-,parsed⟩ := Option.bind_eq_some_iff.mp target
  have small : n < UInt64.size := Decimal.parseBelow_lt parsed
  have room : 1 < UInt64.size := by decide
  exact arith.add_eq (by omega)

theorem on_sequence_reset_steps (store : ¬ StoreSucceeds S → faults.store)
    (accepted : Accepted (core w) m .SequenceReset) (passed : Passed env now (core w) m .SequenceReset) :
    Steps env faults now (core w) m (on_sequence_reset env m) w := by
  unfold on_sequence_reset Steps
  rw [runs_bind,runs_get]
  cases writer : w.state.get_writer with
  | none => exact .unhandled accepted (get_writer_none writer) (.inr (.inr rfl))
  | some writer' =>
    have on := get_writer_some writer
    have rejected : ∀ n reason text context, (∀ target, m.body.get_u64 NEW_SEQ_NO = some target → target ≤ (core w).next) →
        Steps env faults now (core w) m (do let sent ← send_reject env writer' n reason text
                                            let _ ← with_send_context context sent) w := by
      intro n reason text context backwards
      refine runs_mono (reject_runs env writer' n reason text context w) ?_ ?_
      · exact fun _ _ => (Step.sequenceResetRejected accepted passed on backwards (by simp)).to
      · rintro _ _ ⟨same,fault⟩
        exact (Step.sequenceResetRejected accepted passed on backwards (fun _ => store fault)).to same
    unfold take_sequence_reset get_msg_seq_num
    cases number : m.msg_seq_num with
    | none => exact .sequenceResetPanic accepted passed on number
    | some n =>
      simp only [pure_bind]
      cases target : m.body.get_u64 NEW_SEQ_NO with
      | none => exact rejected _ _ _ _ (by simp [target])
      | some new_seq_no =>
        simp only [runs_bind,runs_get]
        split_ifs with backwards
        · exact rejected _ _ _ _ (by simpa [target] using backwards)
        · have forwards : (core w).next < new_seq_no := by simpa using backwards
          rw [runs_bind]
          refine runs_mono (set_target_runs (new_seq_no - 1) w (jump_fits arith target)) ?_ (fun _ _ no => no.elim)
          rintro _ w₁ (⟨rfl,jumped⟩ | ⟨⟨e,rfl⟩,fault,same⟩)
          · rw [Nat.sub_add_cancel (by omega)] at jumped
            exact (Step.sequenceReset accepted passed on target forwards (by simp [number])).to jumped
          · exact (Step.storeFailed accepted (store fault)).to same

/-- The core with the message of number `n` counted, if that is expected. -/
def counted_if (n : Nat) (c : Core) : Core := if n = c.next then c.count else c

/-- What the answer to a ResendRequest does to the core, when it returns and when
    it stops. -/
theorem answer_resend_request_runs (env : Env) (writer : WriterRef) {n : Nat} (number : m.msg_seq_num = some n)
    (w : World S) (room : WellFormedRequest m → n = (core w).next → Fits arith (core w)) :
    Runs (answer_resend_request env writer m) w
      (fun _ w' => (WellFormedRequest m ∧ core w' = counted_if n (core w)) ∨
        ¬ WellFormedRequest m ∧ core w' = core w)
      (fun _ w' => (WellFormedRequest m ∧ core w' = counted_if n (core w)) ∨
        core w' = core w ∧ ¬ StoreSucceeds S ∧ (WellFormedRequest m → n = (core w).next)) := by
  have rejected : ∀ reason text context, ¬ WellFormedRequest m →
      Runs (do let sent ← send_reject env writer n reason text
               let _ ← with_send_context context sent) w
        (fun _ w' => (WellFormedRequest m ∧ core w' = counted_if n (core w)) ∨
          ¬ WellFormedRequest m ∧ core w' = core w)
        (fun _ w' => (WellFormedRequest m ∧ core w' = counted_if n (core w)) ∨
          core w' = core w ∧ ¬ StoreSucceeds S ∧ (WellFormedRequest m → n = (core w).next)) := by
    intro reason text context malformed
    exact runs_mono (reject_runs env writer n reason text context w) (fun _ _ same => .inr ⟨malformed,same⟩)
      (fun _ _ stopped => .inr ⟨stopped.1,stopped.2,fun wellFormed => absurd wellFormed malformed⟩)
  unfold answer_resend_request get_msg_seq_num
  rw [number]
  simp only [pure_bind]
  rw [runs_bind,runs_get]
  cases first : m.body.get_u64 BEGIN_SEQ_NO with
  | none => exact rejected _ _ _ (by simp [WellFormedRequest,first])
  | some begin_seq_number =>
    cases last : m.body.get_u64 END_SEQ_NO with
    | none => exact rejected _ _ _ (by simp [WellFormedRequest,last])
    | some requested =>
      have wellFormed : WellFormedRequest m := by simp [WellFormedRequest,first,last]
      dsimp only
      rw [runs_bind,runs_get]
      by_cases expected : n = next_target w
      · rw [if_pos expected]
        refine count_then_runs ?_ (fun _ _ same fault => .inr ⟨same,fault,fun _ => expected⟩) (room wellFormed expected)
        intro w₁ counted
        have moved : core w₁ = counted_if n (core w) := counted.trans (if_pos expected).symm
        exact runs_mono (keeps_runs (keeps_resend_messages env writer _ _) w₁)
          (fun _ _ same => .inl ⟨wellFormed,same.trans moved⟩) (fun _ _ same => .inl ⟨wellFormed,same.trans moved⟩)
      · rw [if_neg expected]
        have stayed : core w = counted_if n (core w) := (if_neg expected).symm
        exact runs_mono (keeps_runs (keeps_resend_messages env writer _ _) w)
          (fun _ _ same => .inl ⟨wellFormed,same.trans stayed⟩) (fun _ _ same => .inl ⟨wellFormed,same.trans stayed⟩)

theorem on_resend_request_steps (store : ¬ StoreSucceeds S → faults.store)
    (resend : AnswerFails env w.store m → faults.resend) (accepted : Accepted (core w) m .ResendRequest)
    (passed : Passed env now (core w) m .ResendRequest)
    (room : handler_counts env w m .ResendRequest = true → Fits arith (core w)) :
    Steps env faults now (core w) m (on_resend_request env m) w := by
  unfold on_resend_request Steps
  rw [runs_bind,runs_get]
  cases writer : w.state.get_writer with
  | none =>
    simp only [SessionState.is_connected,writer,Option.isSome_none,Bool.false_eq_true,if_false]
    exact .unhandled accepted (get_writer_none writer) (.inr (.inl rfl))
  | some writer' =>
    have on := get_writer_some writer
    simp only [SessionState.is_connected,writer,Option.isSome_some,if_true]
    unfold get_msg_seq_num
    cases number : m.msg_seq_num with
    | none => exact .resendRequestPanic accepted passed on number
    | some n =>
      simp only [pure_bind]
      -- the request waits for its count if it lies ahead, and is answered at once
      have answered : ∀ w₁ : World S, w₁.store = w.store →
          core w₁ = (if (core w).next < n then (core w).enqueue m else core w) →
          Steps env faults now (core w) m (answer_resend_request env writer' m) w₁ := by
        intro w₁ kept queued
        have next : (core w₁).next = (core w).next := by
          rw [queued]
          split_ifs
          · exact Core.next_enqueue (core w) m
          · rfl
        have wellFormed_step : ∀ {w' : World S} {returns : Bool}, WellFormedRequest m → core w' = counted_if n (core w₁) →
            (returns = false → faults.resend) → Step env faults now (core w) m (core w') returns := by
          intro w' returns wellFormed left fault
          unfold counted_if at left
          rw [next] at left
          by_cases expected : n = (core w).next
          · rw [if_pos expected,queued,if_neg (by omega)] at left
            exact (Step.resendRequestCounted accepted passed on (expected ▸ number) wellFormed fault).to left
          · rw [if_neg expected,queued] at left
            exact (Step.resendRequestAhead accepted passed on number expected wellFormed fault).to left
        have fits : WellFormedRequest m → n = (core w₁).next → Fits arith (core w₁) := by
          intro wellFormed expected
          rw [Fits,next]
          rw [next] at expected
          refine room ?_
          obtain ⟨first,last⟩ := wellFormed
          simp [handler_counts,SessionState.is_connected,writer,number,expected,first,last]
        refine runs_mono_of (answer_resend_request_runs env writer' number w₁ fits) ?_ ?_
        · rintro _ w' - (⟨wellFormed,left⟩ | ⟨malformed,left⟩)
          · exact wellFormed_step wellFormed left (by simp)
          · exact (Step.resendRequestMalformed accepted passed on number malformed (by simp)).to (left.trans queued)
        · rintro _ w' executed (⟨wellFormed,left⟩ | ⟨left,fault,expected⟩)
          · exact wellFormed_step wellFormed left (fun _ => resend ⟨writer',w₁,kept,_,_,executed⟩)
          · by_cases wellFormed : WellFormedRequest m
            · have same : core w₁ = core w := by
                rw [queued,if_neg (by have := expected wellFormed; omega)]
              exact (Step.storeFailed accepted (store fault)).to (left.trans same)
            · exact (Step.resendRequestMalformed accepted passed on number wellFormed (fun _ => store fault)).to
                (left.trans queued)
      cases state : w.state with
      | AwaitingResend awaiting =>
        dsimp only
        by_cases ahead : n > next_target w
        · rw [if_pos ahead,runs_bind,runs_set_state]
          refine answered _ rfl ?_
          refine Eq.trans ?_ (if_pos ahead).symm
          simp [core,Core.enqueue,Core.goto,state,phaseOf,gapOf,next_target]
        · rw [if_neg ahead]
          exact answered w rfl (if_neg ahead).symm
      | Disconnected _ => simp [SessionState.get_writer,state] at writer
      | _ =>
        refine answered w rfl ?_
        split_ifs
        · simp [Core.enqueue,state,phaseOf]
        · rfl

theorem on_logout_steps (store : ¬ StoreSucceeds S → faults.store) (accepted : Accepted (core w) m .Logout)
    (passed : Passed env now (core w) m .Logout) (fits : Fits arith (core w)) :
    Steps env faults now (core w) m (on_logout env) w := by
  -- once the acknowledgement is out, the session leaves and the message is counted
  have leave : ∀ w₁ : World S, core w₁ = core w →
      Steps env faults now (core w) m (do
        note (.OnLogout (ascii "peer has logged us out"))
        disconnect_writer
        apply_transition (← get).state.on_peer_logout
        store_result (← increment_target)) w₁ := by
    intro w₁ same
    simp only [Steps,runs_bind,runs_note]
    refine runs_mono (disconnect_writer_runs _) ?_ (fun _ _ no => no.elim)
    rintro _ w₂ ⟨silent,-⟩
    have same₂ : core w₂ = core w := (silent.trans (core_silent rfl)).trans same
    simp only [runs_get]
    refine runs_mono (apply_transition_runs w₂.state.on_peer_logout w₂) ?_ (fun _ _ no => no.elim)
    intro _ w₃ left
    rw [on_peer_logout_moved,same₂] at left
    have fits₃ : Fits arith (core w₃) := left ▸ fits
    refine runs_bind.mp (runs_mono (count_runs w₃ fits₃) ?_ ?_)
    · intro _ w₄ counted
      exact (Step.logout accepted passed).to (by rw [counted,left]; rfl)
    · rintro _ w₄ ⟨kept,fault⟩
      exact (Step.logoutFailed accepted passed (.inr rfl) (store fault)).to (kept.trans left)
  unfold on_logout Steps
  rw [runs_bind,runs_get]
  dsimp only
  split_ifs
  · rw [runs_bind]
    refine runs_mono (send_runs env (plain_logout _) _ w) (fun _ w₁ same => leave w₁ same) ?_
    rintro _ w₁ ⟨-,same,fault⟩
    exact (Step.storeFailed accepted (store fault)).to same
  · exact leave w rfl

theorem on_logon_steps (store : ¬ StoreSucceeds S → faults.store) (accepted : Accepted (core w) m .Logon)
    (passed : Passed env now (core w) m .Logon)
    (room : handler_counts env w m .Logon = true → Fits arith (core w)) :
    Steps env faults now (core w) m on_logon w := by
  unfold on_logon Steps
  rw [runs_bind,runs_get]
  cases state : w.state with
  | AwaitingLogon logon =>
    have phase : (core w).phase = .AwaitingLogon := by simp [phaseOf,state]
    have silent : core { w with journal := w.journal ++ [.OnLogon] } = core w := core_silent rfl
    have fits := room (by simp [handler_counts,state,SessionState.is_awaiting_logon])
    dsimp only
    rw [runs_bind,runs_note]
    refine count_then_runs ?_ ?_ (by rw [silent]; exact fits)
    · intro w₁ counted
      rw [silent] at counted
      refine runs_mono (apply_transition_runs _ w₁) ?_ (fun _ _ no => no.elim)
      intro _ w₂ left
      exact (Step.logon accepted passed phase).to (by rw [left,counted]; rfl)
    · intro _ w₁ same fault
      exact (Step.storeFailed accepted (store fault)).to (same.trans (core_silent rfl))
  | _ => exact .logonIgnored accepted passed (by simp [phaseOf,state])

theorem process_app_message_steps (store : ¬ StoreSucceeds S → faults.store) (accepted : Accepted (core w) m .Application)
    (passed : Passed env now (core w) m .Application)
    (room : handler_counts env w m .Application = true → Fits arith (core w)) :
    Steps env faults now (core w) m (process_app_message env m) w := by
  have counted : handler_counts env w m .Application = true → ∀ w₁ : World S, core w₁ = (core w).add (.Delivered m) →
      Steps env faults now (core w) m (do store_result (← increment_target)) w₁ := by
    intro counts w₁ delivered
    have fits : Fits arith (core w₁) := delivered ▸ room counts
    refine runs_mono (count_runs w₁ fits) ?_ ?_
    · intro _ w₂ left
      exact (Step.delivered accepted passed).to (by rw [left,delivered])
    · rintro _ w₂ ⟨same,fault⟩
      exact (Step.deliveredFailed accepted passed (.inl (store fault))).to (same.trans delivered)
  have delivered : core { w with journal := w.journal ++ [.OnInboundMessage m] } = (core w).add (.Delivered m) :=
    core_noted rfl
  obtain ⟨message_type,typed⟩ : ∃ message_type, m.msg_type = some message_type := by
    have kind := accepted.1
    unfold Message.kind at kind
    exact ⟨_,(Option.map_eq_some_iff.mp kind).choose_spec.1⟩
  unfold process_app_message Steps
  rw [runs_bind,runs_get]
  dsimp only
  rw [runs_bind,runs_note]
  cases decision : env.application.on_inbound_message w.journal m with
  | Accept => exact counted (by simp [handler_counts,decision,rejects]) _ delivered
  | TerminateSession =>
    dsimp only
    rw [runs_bind]
    refine runs_mono (disconnect_writer_runs _) ?_ (fun _ _ no => no.elim)
    rintro _ w₁ ⟨same,-⟩
    exact counted (by simp [handler_counts,decision,rejects]) w₁ (same.trans delivered)
  | Reject reason text =>
    simp only [typed]
    unfold get_msg_seq_num
    cases number : m.msg_seq_num with
    | none => exact (Step.deliveredFailed accepted passed (.inr number)).to delivered
    | some n =>
      simp only [pure_bind]
      rw [runs_bind]
      refine runs_mono (send_message_runs env (plain_businessReject _).noRequest _) ?_
        (fun _ _ stopped => absurd (plain_businessReject _).total stopped.2)
      rintro _ w₁ ⟨same,⟨sent,rfl⟩ | ⟨⟨e,rfl⟩,fault⟩⟩
      · exact counted (by simp [handler_counts,number]) w₁ (same.trans delivered)
      · exact (Step.deliveredFailed accepted passed (.inl (store fault))).to (same.trans delivered)

theorem dispatch_steps (store : ¬ StoreSucceeds S → faults.store) (resend : AnswerFails env w.store m → faults.resend)
    (accepted : Accepted (core w) m k) (passed : Passed env now (core w) m k)
    (room : handler_counts env w m k = true → Fits arith (core w)) :
    Steps env faults now (core w) m (dispatch env k m) w := by
  cases k with
  | Heartbeat => exact on_heartbeat_steps store accepted passed (room rfl)
  | TestRequest => exact on_test_request_steps store accepted passed room
  | ResendRequest => exact on_resend_request_steps store resend accepted passed room
  | Reject => exact on_reject_steps store accepted passed (room rfl)
  | SequenceReset => exact on_sequence_reset_steps store accepted passed
  | Logout => exact on_logout_steps store accepted passed (room rfl)
  | Logon => exact on_logon_steps store accepted passed room
  | Application => exact process_app_message_steps store accepted passed room

end

/-- What can fail below the processing of `m` from a store. -/
def faults (env : Env) (s : S) (m : Message) : Faults := ⟨¬ StoreSucceeds S,AnswerFails env s m⟩

section
variable {env : Env} {m : Message} {w : World S}

omit [MessageStore S] counting in
theorem kind_of_msg_type {message_type : Bytes} (typed : m.msg_type = some message_type) :
    m.kind = some (msg_kind message_type) := by
  simp [Message.kind,typed]

private theorem verify_and_dispatch_steps {k : MsgKind} (accepted : Accepted (core w) m k)
    (room : verified_counts env w m k = true → Fits arith (core w)) :
    Steps env (faults env w.store m) (env.timestamp_now w.clock_readings) (core w) m (do
      match ← handle_verification_issue env m (.for_kind k m) with
      | .Issue result => apply_transition result
      | .Passed => dispatch env k m) w := by
  unfold Steps
  rw [runs_bind]
  have store : ¬ StoreSucceeds S → (faults env w.store m).store := id
  refine runs_mono (handle_verification_issue_runs store w accepted room) ?_
    (fun _ _ step => step)
  intro result w₁ verified
  cases result with
  | Issue result =>
    refine runs_mono (apply_transition_runs result w₁) ?_ (fun _ _ no => no.elim)
    exact fun _ _ left => verified.to left
  | Passed =>
    obtain ⟨passed,state,kept,journal⟩ := verified
    have same : core w₁ = core w := core_congr state kept journal
    have fits : handler_counts env w₁ m k = true → Fits arith (core w) := by
      rw [handler_counts_congr state kept journal,← counts_of_passed passed]
      exact room
    rw [← same] at accepted passed fits ⊢
    exact dispatch_steps id (fun fails => kept ▸ fails) accepted passed fits

/-- A message that is neither queued nor refused, whatever its type. -/
private theorem accept_steps
    (accepted : ∀ message_type, m.msg_type = some message_type → Accepted (core w) m (msg_kind message_type))
    (room : counted env w m = true → Fits arith (core w)) :
    Steps env (faults env w.store m) (env.timestamp_now w.clock_readings) (core w) m (do
      match m.msg_type,VerificationFlags.for_message m with
      | some message_type,some flags =>
        match ← handle_verification_issue env m flags with
        | .Issue result => apply_transition result
        | .Passed => dispatch env (msg_kind message_type) m
      | _,_ => throw (.Error (.MissingField "MSG_TYPE"))) w := by
  unfold VerificationFlags.for_message Message.kind
  cases typed : m.msg_type with
  | none => exact .untyped (by simp [Message.kind,typed])
  | some message_type =>
    have taken := accepted message_type typed
    exact verify_and_dispatch_steps taken (fun counts => room ((counted_of_accepted taken).trans counts))

/-- Processing a message makes a step, whatever the state, the store and the
    application, if there is room for it where it is counted. -/
theorem process_message_steps (env : Env) (m : Message) (w : World S)
    (room : counted env w m = true → Fits arith (core w) := by exact fun _ => rfl) :
    Steps env (faults env w.store m) (env.timestamp_now w.clock_readings) (core w) m (process_message env m) w := by
  unfold process_message pre_process_inbound Steps
  rw [runs_bind,runs_bind,runs_get]
  cases state : w.state with
  | AwaitingResend awaiting =>
    have phase : (core w).phase = .AwaitingResend (gapOf awaiting) := by simp [phaseOf,state]
    unfold get_msg_seq_num
    cases number : m.msg_seq_num with
    | none => exact .unnumbered phase number
    | some n =>
      simp only [pure_bind]
      split_ifs with beyond
      · simp only [Bool.and_eq_true,decide_eq_true_eq,Option.any_eq_true] at beyond
        obtain ⟨above,message_type,typed,other⟩ := beyond
        have queued : core { w with state := .AwaitingResend { awaiting with
            inbound_queue := awaiting.inbound_queue ++ [m] } } = (core w).enqueue m := by
          simp [core,Core.enqueue,Core.goto,state,phaseOf,gapOf,next_target]
        have noRequest : msg_kind message_type ≠ .ResendRequest := by
          rw [Ne,msg_kind_resendRequest]
          exact other
        exact (Step.queued phase number (kind_of_msg_type typed) noRequest above).to queued
      · refine accept_steps (fun message_type typed => ⟨kind_of_msg_type typed,?_⟩) room
        rw [phase]
        refine ⟨n,number,?_⟩
        by_contra more
        rw [not_or,not_le,msg_kind_resendRequest] at more
        have above : awaiting.end_seq_number < n := more.1
        exact beyond (by simp [typed,above,more.2])
  | AwaitingLogon logon =>
    have phase : (core w).phase = .AwaitingLogon := by simp [phaseOf,state]
    dsimp only
    split_ifs with typed
    · refine accept_steps (fun message_type typed' => ⟨kind_of_msg_type typed',?_⟩) room
      rw [phase]
      rw [typed] at typed'
      cases typed'
      exact (msg_kind_logon _).mpr rfl
    · rw [runs_pure]
      refine runs_mono (disconnect_writer_runs w) ?_ (fun _ _ no => no.elim)
      rintro _ w₁ ⟨same,-⟩
      refine (Step.refused phase ?_).to same
      intro logon
      obtain ⟨message_type,typed',kind⟩ := Option.map_eq_some_iff.mp logon
      rw [msg_kind_logon] at kind
      exact typed (typed'.trans (congrArg some kind))
  | Active _ => exact accept_steps (fun _ typed => ⟨kind_of_msg_type typed,by simp [phaseOf,state]⟩) room
  | AwaitingLogout _ => exact accept_steps (fun _ typed => ⟨kind_of_msg_type typed,by simp [phaseOf,state]⟩) room
  | Disconnected _ => exact accept_steps (fun _ typed => ⟨kind_of_msg_type typed,by simp [phaseOf,state]⟩) room

end

end HotFix.Refinement
