import HotFix.Outcomes
import HotFix.Panics

/-!
By how much the handling of a frame raises the expected number: by one for a message
that is counted, by the distance for a SequenceReset that is taken, and by the sum of
both over the messages that the frame releases from a backlog.
-/
namespace HotFix.Raises
open HotFix.Program HotFix.Protocol HotFix.Operations HotFix.Refinement HotFix.Outcomes HotFix.Loop HotFix.Panics
variable {S : Type} [MessageStore S]

/-! ### One message -/

/-- The number that a SequenceReset sets: it is looked at on a connection, passes
    verification and moves forward. -/
def reset_to (env : Env) (w : World S) (m : Message) : Option Nat :=
  if m.kind = some .SequenceReset ∧ w.state.is_connected = true ∧
      m.msg_seq_num.any (fun n => !deferred w n .SequenceReset) = true ∧
      verify_message_with_ctx m env.config (next_target w) (.for_kind .SequenceReset m)
        (env.timestamp_now w.clock_readings) = .ok () then
    (m.body.get_u64 NEW_SEQ_NO).filter (fun target => next_target w < target)
  else none

/-- By how much processing the message raises the expected number. -/
def raise (env : Env) (w : World S) (m : Message) : Nat :=
  if counted env w m then 1 else (reset_to env w m).elim 0 (fun target => target - next_target w)

/-- By how much replaying it does: a ResendRequest is only counted. -/
def replay_raise (env : Env) (w : World S) (m : Message) : Nat :=
  if m.kind = some .ResendRequest then 1 else raise env w m

/-- From `n` the number goes up by `d`; where a write may fail, by no more. -/
def Raised (sound : Prop) (n n' d : Nat) : Prop := n ≤ n' ∧ n' ≤ n + d ∧ (sound → n' = n + d)

section
variable {sound : Prop} {n n' n'' d d' : Nat}

theorem raised_still (n : Nat) : Raised sound n n 0 := ⟨Nat.le_refl n,Nat.le_refl n,fun _ => rfl⟩

theorem Raised.trans (first : Raised sound n n' d) (second : Raised sound n' n'' d') : Raised sound n n'' (d + d') := by
  obtain ⟨low,high,exact_⟩ := first
  obtain ⟨low',high',exact_'⟩ := second
  exact ⟨by omega,by omega,fun all => by have := exact_ all; have := exact_' all; omega⟩

theorem Raised.still (raised : Raised sound n n' 0) : n' = n := by
  obtain ⟨low,high,-⟩ := raised
  omega

theorem raised_of (moved : n' = n + d ∨ ¬ sound ∧ n' = n) : Raised sound n n' d := by
  obtain here | ⟨fault,here⟩ := moved
  · exact ⟨by omega,by omega,fun _ => here⟩
  · exact ⟨by omega,by omega,fun all => absurd all fault⟩

end

section
variable {env : Env} {w : World S} {m : Message} {k : MsgKind}

theorem raise_counted (counts : counted env w m = true) : raise env w m = 1 := by simp [raise,counts]

theorem raise_none (uncounted : counted env w m = false) (unset : reset_to env w m = none) : raise env w m = 0 := by
  simp [raise,uncounted,unset]

theorem reset_to_other (kind : m.kind = some k) (other : k ≠ .SequenceReset) : reset_to env w m = none := by
  simp [reset_to,kind,other]

/-- A message that is set aside does not move the number. -/
theorem raise_setAside (kind : m.kind = some k) (aside : SetAside (core w) m k) : raise env w m = 0 := by
  refine raise_none ?_ ?_
  · unfold counted
    rw [kind]
    obtain ⟨phase,other⟩ | ⟨gap,n,phase,number,beyond,other⟩ := aside
    · cases state : w.state with
      | AwaitingLogon _ => simp [other]
      | _ => simp [phaseOf,state] at phase
    · cases state : w.state with
      | AwaitingResend awaiting =>
        simp only [core_phase,state,phaseOf,Phase.AwaitingResend.injEq] at phase
        subst phase
        have above : ¬ n ≤ awaiting.end_seq_number := Nat.not_le_of_lt beyond
        simp [number,above,other]
      | _ => simp [phaseOf,state] at phase
  · unfold reset_to
    refine if_neg (fun taken => ?_)
    obtain ⟨reset,-,looked,-⟩ := taken
    rw [kind] at reset
    cases reset
    cases number : m.msg_seq_num with
    | none => simp [number] at looked
    | some n => simp [number,(deferred_iff number .SequenceReset).mpr aside] at looked

theorem raise_unnumbered (awaiting : AwaitingResendState) (state : w.state = .AwaitingResend awaiting)
    (number : m.msg_seq_num = none) : raise env w m = 0 := by
  refine raise_none ?_ (if_neg (by simp [number]))
  unfold counted
  rw [state,number]
  cases m.kind <;> rfl

theorem raise_untyped (kind : m.kind = none) : raise env w m = 0 := by
  refine raise_none ?_ (if_neg (by simp [kind]))
  unfold counted
  rw [kind]

theorem is_connected_of (on : (core w).connected) : w.state.is_connected = true := by
  cases state : w.state with
  | Disconnected _ => simp [Core.connected,phaseOf,state] at on
  | _ => rfl

/-- A failure of verification is counted: the times of the message are wrong. -/
def issue_counts : VerificationIssue → Bool
  | .InvalidMessage error => error.isTimeError
  | .SequenceGap _ _ => false

/-- A message that fails verification moves the number only if its times are wrong. -/
theorem raise_failed {issue : VerificationIssue} (accepted : Accepted (core w) m k) (on : (core w).connected)
    (failed : verify env (env.timestamp_now w.clock_readings) (core w) m k = .error issue) :
    raise env w m = if issue_counts issue then 1 else 0 := by
  have failed' : verify_message_with_ctx m env.config (next_target w) (.for_kind k m) (env.timestamp_now w.clock_readings) =
      .error issue := failed
  have unset : reset_to env w m = none := by
    unfold reset_to
    refine if_neg (fun taken => ?_)
    obtain ⟨reset,-,-,passes⟩ := taken
    cases kind_unique accepted reset
    rw [failed'] at passes
    cases passes
  have counts : counted env w m = issue_counts issue := by
    rw [counted_of_accepted accepted,verified_counts]
    cases state : w.state with
    | Disconnected _ => simp [Core.connected,phaseOf,state] at on
    | _ =>
      dsimp only
      rw [failed']
      cases issue <;> rfl
  cases kind : issue_counts issue with
  | true => simp [raise_counted (counts.trans kind)]
  | false => simp [raise_none (counts.trans kind) unset]

theorem counted_passed (accepted : Accepted (core w) m k)
    (passed : Passed env (env.timestamp_now w.clock_readings) (core w) m k) :
    counted env w m = handler_counts env w m k := by
  rw [counted_of_accepted accepted,counts_of_passed passed]

/-- A SequenceReset that moves forward sets its number. -/
theorem reset_to_taken {target : Nat} (accepted : Accepted (core w) m .SequenceReset)
    (passed : Passed env (env.timestamp_now w.clock_readings) (core w) m .SequenceReset) (on : (core w).connected)
    (numbered : m.msg_seq_num ≠ none) (names : m.body.get_u64 NEW_SEQ_NO = some target) (forwards : (core w).next < target) :
    reset_to env w m = some target := by
  obtain ⟨n,number⟩ := Option.ne_none_iff_exists'.mp numbered
  have looked : deferred w n .SequenceReset = false :=
    Bool.eq_false_iff.mpr (mt (deferred_iff number _).mp (not_setAside_of_accepted accepted))
  have passes := passed.resolve_left on
  unfold reset_to
  rw [if_pos ⟨accepted.1,is_connected_of on,by simp [number,looked],passes⟩,names]
  exact if_pos (decide_eq_true forwards)

/-- A step of the message raises the number so, unless the store fails. -/
theorem step_raise {c' : Core} {returns : Bool}
    (numbered : Accepted (core w) m .Application → Passed env (env.timestamp_now w.clock_readings) (core w) m .Application →
      m.msg_seq_num ≠ none)
    (step : Step env (faults env w.store m) (env.timestamp_now w.clock_readings) (core w) m c' returns) :
    c'.next = next_target w + raise env w m ∨ ¬ StoreSucceeds S ∧ c'.next = next_target w := by
  have still : raise env w m = 0 → c'.next = next_target w →
      c'.next = next_target w + raise env w m ∨ ¬ StoreSucceeds S ∧ c'.next = next_target w :=
    fun none same => .inl (by omega)
  have once : counted env w m = true → c'.next = next_target w + 1 →
      c'.next = next_target w + raise env w m ∨ ¬ StoreSucceeds S ∧ c'.next = next_target w :=
    fun counts moved => .inl (by rw [raise_counted counts]; exact moved)
  have handled : ∀ {k}, Accepted (core w) m k → Passed env (env.timestamp_now w.clock_readings) (core w) m k →
      k ≠ .SequenceReset → handler_counts env w m k = false → raise env w m = 0 :=
    fun accepted passed other silent =>
      raise_none ((counted_passed accepted passed).trans silent) (reset_to_other accepted.1 other)
  have fails : ∀ {k issue}, Accepted (core w) m k → (core w).connected →
      verify env (env.timestamp_now w.clock_readings) (core w) m k = .error issue → issue_counts issue = false →
      raise env w m = 0 :=
    fun accepted on failed silent => (raise_failed accepted on failed).trans (if_neg (by simp [silent]))
  have on_of : ∀ {phase : Phase}, (core w).phase = phase → phase ≠ .Disconnected → (core w).connected :=
    fun here other off => other (here.symm.trans off)
  cases step with
  | queued phase number kind other beyond =>
    exact still (raise_setAside kind (.inr ⟨_,_,phase,number,beyond,other⟩)) (Core.next_enqueue _ m)
  | unnumbered phase number =>
    cases state : w.state with
    | AwaitingResend awaiting => exact still (raise_unnumbered awaiting state number) rfl
    | _ => simp [phaseOf,state] at phase
  | refused phase other =>
    cases kind : m.kind with
    | none => exact still (raise_untyped kind) rfl
    | some k => exact still (raise_setAside kind (.inl ⟨phase,fun logon => other (logon ▸ kind)⟩)) rfl
  | untyped kind => exact still (raise_untyped kind) rfl
  | terminated accepted on failed noTime => exact still (fails accepted on failed noTime) rfl
  | duplicate accepted on failed => exact still (fails accepted on failed rfl) rfl
  | badTime accepted on failed time =>
    have one : raise env w m = 1 := (raise_failed accepted on failed).trans (by simp [issue_counts,time])
    exact .inl (by rw [one]; rfl)
  | badTimeFailed accepted on failed time fault => exact .inr ⟨fault,rfl⟩
  | gapOpened accepted phase failed =>
    have on : (core w).connected := phase.elim (fun here => on_of here (by simp)) (fun here => on_of here (by simp))
    exact still (fails accepted on failed rfl) rfl
  | gapUpdated accepted phase failed => exact still (fails accepted (on_of phase (by simp)) failed rfl) rfl
  | gapUpdateFailed accepted phase failed number above updated fault => exact .inr ⟨fault,rfl⟩
  | gaveUp accepted phase failed => exact still (fails accepted (on_of phase (by simp)) failed rfl) rfl
  | gapIgnored accepted phase failed => exact still (fails accepted (on_of phase (by simp)) failed rfl) rfl
  | heartbeat accepted passed => exact once (counted_passed accepted passed) rfl
  | testRequest accepted passed on id fault =>
    refine once ((counted_passed accepted passed).trans ?_) rfl
    simp [handler_counts,is_connected_of on,id]
  | testRequestPanic accepted passed on id =>
    exact still (handled accepted passed (by simp) (by simp [handler_counts,id])) rfl
  | reject accepted passed => exact once (counted_passed accepted passed) rfl
  | resendRequestPanic accepted passed on number =>
    exact still (handled accepted passed (by simp) (by simp [handler_counts,number])) rfl
  | resendRequestMalformed accepted passed on number malformed fault =>
    refine still (handled accepted passed (by simp) ?_) ?_
    · simp only [WellFormedRequest,not_and_or,Bool.not_eq_true] at malformed
      obtain first | last := malformed
      · simp [handler_counts,first]
      · simp [handler_counts,last]
    · split_ifs
      · exact Core.next_enqueue _ m
      · rfl
  | resendRequestCounted accepted passed on number wellFormed fault =>
    refine once ((counted_passed accepted passed).trans ?_) rfl
    obtain ⟨first,last⟩ := wellFormed
    simp [handler_counts,is_connected_of on,number,first,last]
  | resendRequestAhead accepted passed on number other wellFormed fault =>
    refine still (handled accepted passed (by simp) ?_) ?_
    · have ahead : ¬ m.msg_seq_num = some (next_target w) := by
        rw [number]
        exact fun same => other (Option.some.inj same)
      simp [handler_counts,ahead]
    · split_ifs
      · exact Core.next_enqueue _ m
      · rfl
  | sequenceResetPanic accepted passed on number =>
    exact still (raise_none (counted_passed accepted passed) (if_neg (by simp [number]))) rfl
  | sequenceResetRejected accepted passed on backwards fault =>
    refine still (raise_none (counted_passed accepted passed) ?_) rfl
    unfold reset_to
    split_ifs
    · rw [Option.filter_eq_none_iff]
      exact fun target here => by simpa using backwards target here
    · rfl
  | @sequenceReset n accepted passed on target forwards number =>
    have set := reset_to_taken accepted passed on number target forwards
    have uncounted : counted env w m = false := counted_passed accepted passed
    have jumped : raise env w m = n - next_target w := by simp [raise,uncounted,set]
    exact .inl (by rw [jumped]; exact (Nat.add_sub_of_le (Nat.le_of_lt forwards)).symm)
  | logout accepted passed => exact once (counted_passed accepted passed) rfl
  | logoutFailed accepted passed left fault => exact .inr ⟨fault,rfl⟩
  | logon accepted passed phase =>
    refine once ((counted_passed accepted passed).trans ?_) rfl
    cases state : w.state with
    | AwaitingLogon _ => simp [handler_counts,state,SessionState.is_awaiting_logon]
    | _ => simp [phaseOf,state] at phase
  | logonIgnored accepted passed phase =>
    refine still (handled accepted passed (by simp) ?_) rfl
    cases state : w.state with
    | AwaitingLogon _ => simp [phaseOf,state] at phase
    | _ => simp [handler_counts,state,SessionState.is_awaiting_logon]
  | delivered accepted passed =>
    refine once ((counted_passed accepted passed).trans ?_) rfl
    obtain ⟨n,number⟩ := Option.ne_none_iff_exists'.mp (numbered accepted passed)
    simp [handler_counts,number]
  | deliveredFailed accepted passed fault => exact .inr ⟨fault.resolve_right (numbered accepted passed),rfl⟩
  | unhandled accepted phase inert =>
    have off : w.state.is_connected = false := by
      cases state : w.state with
      | Disconnected _ => rfl
      | _ => simp [phaseOf,state] at phase
    obtain rfl | rfl | rfl := inert
    · exact still (handled accepted (.inl phase) (by simp) (by simp [handler_counts,off])) rfl
    · exact still (handled accepted (.inl phase) (by simp) (by simp [handler_counts,off])) rfl
    · exact still (raise_none (counted_passed accepted (.inl phase)) (if_neg (by simp [off]))) rfl
  | storeFailed accepted fault => exact .inr ⟨fault,rfl⟩

/-! ### Processing -/

/-- A message that is looked at and passes goes to its handler. -/
theorem process_message_passed (accepted : Accepted (core w) m k)
    (passed : Passed env (env.timestamp_now w.clock_readings) (core w) m k) :
    ∃ w', process_message env m w = dispatch env k m w' ∧ w'.state = w.state ∧ w'.store = w.store ∧
      w'.journal = w.journal := by
  obtain ⟨message_type,typed,rfl⟩ : ∃ message_type, m.msg_type = some message_type ∧ msg_kind message_type = k :=
    Option.map_eq_some_iff.mp accepted.1
  have decided : pre_process_inbound m w = .ok (.Accept m) w := by
    rw [pre_process_inbound_eq]
    have looked := accepted.2
    cases state : w.state with
    | AwaitingResend awaiting =>
      rw [core_phase,state] at looked
      obtain ⟨n,number,low | request⟩ := looked
      · have within : n ≤ awaiting.end_seq_number := low
        simp [number,Nat.not_lt_of_le within]
      · simp [number,typed,(msg_kind_resendRequest _).mp request]
    | AwaitingLogon logon =>
      rw [core_phase,state] at looked
      simp [typed,(msg_kind_logon _).mp looked]
    | _ => rfl
  have passes : verified env w m (.for_kind (msg_kind message_type) m) = true := by
    unfold verified
    obtain off | fine := passed
    · cases state : w.state with
      | Disconnected _ => rfl
      | _ => simp [phaseOf,state] at off
    · cases state : w.state with
      | Disconnected _ => rfl
      | _ => exact decide_eq_true fine
  obtain ⟨w',executed,kept⟩ := handle_verification_issue_passed passes
  have flagged : VerificationFlags.for_message m = some (.for_kind (msg_kind message_type) m) := by
    simp [VerificationFlags.for_message,Message.kind,typed]
  refine ⟨w',?_,kept⟩
  rw [process_message_eq,bind_ok decided]
  dsimp only
  unfold verify_and_dispatch
  rw [typed,flagged]
  exact bind_ok executed

variable {arith : Arith} [counting : CountingStore S arith]
include counting

/-- An application message without a number is counted unless the application
    rejects it: its answer needs the number. -/
theorem process_unnumbered (accepted : Accepted (core w) m .Application)
    (passed : Passed env (env.timestamp_now w.clock_readings) (core w) m .Application) (unnumbered : m.msg_seq_num = none)
    (room : counted env w m = true → Fits arith (core w)) :
    next_target (final (process_message env m w)) = next_target w + raise env w m ∨
      ¬ StoreSucceeds S ∧ next_target (final (process_message env m w)) = next_target w := by
  obtain ⟨w₁,dispatched,state,store,journal⟩ := process_message_passed accepted passed
  have same : core w₁ = core w := core_congr state store journal
  have counts := counted_passed accepted passed
  have unset : reset_to env w m = none := reset_to_other accepted.1 (by simp)
  have counts_on : counted env w m = true → ∀ w₂ : World S, core w₂ = (core w).add (.Delivered m) →
      Runs (do store_result (← increment_target)) w₂
        (fun _ w' => next_target w' = next_target w + raise env w m ∨ ¬ StoreSucceeds S ∧ next_target w' = next_target w)
        (fun _ w' => next_target w' = next_target w + raise env w m ∨ ¬ StoreSucceeds S ∧ next_target w' = next_target w) := by
    intro taken w₂ delivered
    have fits : Fits arith (core w₂) := delivered ▸ room taken
    refine runs_mono (count_runs w₂ fits) ?_ ?_
    · intro _ w₃ left
      rw [delivered] at left
      exact .inl (by rw [raise_counted taken]; exact congrArg Core.next left)
    · rintro _ w₃ ⟨kept,fault⟩
      exact .inr ⟨fault,congrArg Core.next (kept.trans delivered)⟩
  have delivered : core { w₁ with journal := w₁.journal ++ [.OnInboundMessage m] } = (core w).add (.Delivered m) :=
    (core_noted rfl).trans (congrArg (Core.add · (.Delivered m)) same)
  rw [dispatched]
  refine (runs_final (fun w' => next_target w' = next_target w + raise env w m ∨
    ¬ StoreSucceeds S ∧ next_target w' = next_target w)).mp ?_
  obtain ⟨message_type,typed,-⟩ := Option.map_eq_some_iff.mp accepted.1
  unfold dispatch process_app_message
  rw [runs_bind,runs_get]
  dsimp only
  rw [runs_bind,runs_note]
  rw [journal] at delivered ⊢
  cases decision : env.application.on_inbound_message w.journal m with
  | Accept => exact counts_on (counts.trans (by simp [handler_counts,decision,rejects])) _ delivered
  | TerminateSession =>
    dsimp only
    rw [runs_bind]
    refine runs_mono (disconnect_writer_runs _) ?_ (fun _ _ no => no.elim)
    rintro _ w₂ ⟨kept,-⟩
    exact counts_on (counts.trans (by simp [handler_counts,decision,rejects])) w₂ (kept.trans delivered)
  | Reject reason text =>
    have uncounted : counted env w m = false := counts.trans (by simp [handler_counts,decision,rejects,unnumbered])
    simp only [typed,get_msg_seq_num,unnumbered]
    exact .inl ((congrArg Core.next delivered).trans (by rw [raise_none uncounted unset]; rfl))

/-- Processing a message raises the number so. -/
theorem process_raise (env : Env) (m : Message) (w : World S) (room : counted env w m = true → Fits arith (core w)) :
    Raised (StoreSucceeds S) (next_target w) (next_target (final (process_message env m w))) (raise env w m) := by
  refine raised_of ?_
  by_cases unnumbered : (Accepted (core w) m .Application ∧
      Passed env (env.timestamp_now w.clock_readings) (core w) m .Application) ∧ m.msg_seq_num = none
  · exact process_unnumbered unnumbered.1.1 unnumbered.1.2 unnumbered.2 room
  · obtain ⟨returns,step⟩ := process_message_step env m w room
    exact step_raise (fun accepted passed none => unnumbered ⟨⟨accepted,passed⟩,none⟩) step

theorem replay_message_raise (env : Env) (m : Message) (w : World S)
    (room : replay_counted env w m = true → Fits arith (core w)) :
    Raised (StoreSucceeds S) (next_target w) (next_target (final (replay_message env m w))) (replay_raise env w m) := by
  by_cases request : m.kind = some .ResendRequest
  · have fits := room (by simp [replay_counted,request])
    refine raised_of ?_
    unfold replay_message replay_raise
    rw [if_pos ((request_type m).mpr request),if_pos request]
    refine (runs_final (fun w' => next_target w' = next_target w + 1 ∨
      ¬ StoreSucceeds S ∧ next_target w' = next_target w)).mp ?_
    exact runs_mono (count_runs w fits) (fun _ _ left => .inl (congrArg Core.next left))
      (fun _ _ stopped => .inr ⟨stopped.2,congrArg Core.next stopped.1⟩)
  · rw [replay_message_other env request,replay_raise,if_neg request]
    exact process_raise env m w (fun counts => room (by simp [replay_counted,counts]))

/-! ### The backlog -/

/-- By how much the messages raise the number, each in its world. -/
def raises (env : Env) (messages : List (World S × Message)) : Nat := (messages.map (fun p => replay_raise env p.1 p.2)).sum

/-- Nothing is counted at the last number. -/
def Roomy (env : Env) (messages : List (World S × Message)) : Prop :=
  ∀ p ∈ messages, replay_counted env p.1 p.2 = true → next_target p.1 + 1 < UInt64.size

theorem replay_raises (backlog : List Message) : ∀ w : World S, Roomy env (replayed env backlog w) →
    Raised (StoreSucceeds S) (next_target w) (next_target (final (replay env backlog w)))
      (raises env (replayed env backlog w)) := by
  induction backlog with
  | nil => exact fun w _ => raised_still _
  | cons m rest ih =>
    intro w room
    have first := replay_message_raise env m w (fun counts => arith.add_eq (room (w,m) (by simp [replayed]) counts))
    unfold replay
    simp only [bind,EStateM.bind]
    cases executed : replay_message env m w with
    | error e w' =>
      rw [executed] at first
      simpa [replayed,executed,raises] using first
    | ok _ w' =>
      rw [executed] at first
      have later : Roomy env (replayed env rest w') := fun p member => room p (by simp [replayed,executed,member])
      have both := first.trans (ih w' later)
      simpa [replayed,executed,raises] using both

theorem check_end_of_resend_raises (w : World S) (room : Roomy env (replayed_after env w)) :
    Raised (StoreSucceeds S) (next_target w) (next_target (final (check_end_of_resend env w)))
      (raises env (replayed_after env w)) := by
  unfold replayed_after at room ⊢
  unfold check_end_of_resend
  rw [get_bind]
  cases state : w.state with
  | AwaitingResend awaiting =>
    simp only [state] at room ⊢
    cases completes : try_complete awaiting (next_target w) with
    | none => exact raised_still _
    | some completed =>
      obtain ⟨new_state,backlog⟩ := completed
      simp only [completes] at room ⊢
      obtain ⟨_,w',executed,left⟩ := runs_returned (apply_transition_runs (.TransitionTo new_state) w)
      rw [executed] at room ⊢
      rw [bind_ok executed]
      have same : next_target w' = next_target w := congrArg Core.next left
      rw [← same]
      exact replay_raises backlog w' room
  | _ => exact raised_still _

/-! ### Frames -/

/-- The world in which the message of a frame that arrives in `w` is processed. -/
def incoming (w : World S) (m : Message) : World S := noted (touched w) (.Received m)

/-- The messages released from the backlog once the message has been processed. -/
def released (env : Env) (m : Message) (w : World S) : List (World S × Message) :=
  match process_message env m w with
  | .ok _ u => replayed_after env u
  | .error _ _ => []

/-- A valid frame raises the number by what its message and those it releases do. -/
theorem on_incoming_raises {raw_message : Bytes} (built : env.build raw_message = .Valid m)
    (first : counted env (incoming w m) m = true → next_target w + 1 < UInt64.size)
    (room : Roomy env (released env m (incoming w m))) :
    Raised (StoreSucceeds S) (next_target w) (next_target (final (on_incoming env raw_message w)))
      (raise env (incoming w m) m + raises env (released env m (incoming w m))) := by
  have same : next_target (incoming w m) = next_target w := congrArg Core.next (core_touched w)
  rw [on_incoming_eq,built]
  dsimp only
  rw [← same]
  change Raised _ _ (next_target (final ((process_message env m >>= fun _ => check_end_of_resend env) (incoming w m)))) _
  generalize incoming w m = v at first room same ⊢
  rw [← same] at first
  have one := process_raise env m v (fun counts => arith.add_eq (first counts))
  unfold released at room ⊢
  simp only [bind,EStateM.bind]
  cases executed : process_message env m v with
  | error e u =>
    rw [executed] at one
    simpa [raises] using one
  | ok _ u =>
    rw [executed] at one room
    exact one.trans (check_end_of_resend_raises u room)

end

end HotFix.Raises
