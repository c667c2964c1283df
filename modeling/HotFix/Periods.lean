import HotFix.Connections
import HotFix.Numbering

/-!
Session periods. When the schedule finds that the period of the store is over, the
session logs out and starts its store over, but it stays in the state in which it was:
the event that led to the check is handled next, and so is whatever comes before the
connection is closed. The new period starts with a Logon numbered 1 as long as all of
that leaves the store alone and writes nothing.
-/
namespace HotFix.Periods
open HotFix.Program HotFix.Frames HotFix.Operations HotFix.Loop HotFix.Sending HotFix.Primitives HotFix.Deeds HotFix.Errors
open HotFix.Connections MessageStore
open HotFix.Numbering (frames Fresh)
open HotFix.Sample (valid logon report start connect receive after reachable_after Store)
variable {S : Type} [MessageStore S]

/-! ### Restarts -/

/-- The period of the store is over, or it was started outside of any. -/
def period_over (env : Env) (w : World S) : Bool :=
  env.is_active_at (env.utc_now w.clock_readings) &&
    match env.is_same_session_period (creation_time w.store) (env.utc_now w.clock_readings) with
    | .ok .DifferentPeriod => true
    | .ok (.OutsideSessionTime _) => true
    | _ => false

/-- The check of the schedule in `w` finds the period over and starts the store over,
    which leaves `c`. -/
def Restarts (env : Env) (w c : World S) : Prop :=
  period_over env w = true ∧ handle_schedule_check env w = .ok () c ∧ ∃ u, reset_store env u = .ok (.ok ()) c

theorem restart_cases {env : Env} {reason : Bytes} {v c : World S} (done : restart_period env reason v = .ok () c) :
    (∃ u, reset_store env u = .ok (.ok ()) c) ∨ ∃ text, c.state = .new_disconnected false text := by
  unfold restart_period at done
  obtain ⟨_,u,-,rest⟩ := bind_returned done
  obtain ⟨r,u',started,rest⟩ := bind_returned rest
  cases r with
  | ok value =>
    cases rest
    exact .inl ⟨u,started⟩
  | error e =>
    dsimp only at rest
    rw [transition_eq] at rest
    cases rest
    refine .inr ⟨ascii "unexpected error in reset",?_⟩
    unfold transitioned
    split_ifs
    · rfl
    · rfl

/-- A check that finds the period over starts the store over, or ends the session for
    good where that fails. -/
theorem restarts_or_ends {env : Env} {w c : World S} (ends : period_over env w = true)
    (scheduled : handle_schedule_check env w = .ok () c) : Restarts env w c ∨ ∃ text, c.state = .new_disconnected false text := by
  have restarted {reason : Bytes} {v : World S} (done : restart_period env reason v = .ok () c) :
      Restarts env w c ∨ ∃ text, c.state = .new_disconnected false text := by
    rcases restart_cases done with started | ended
    · exact .inl ⟨ends,scheduled,started⟩
    · exact .inr ended
  have found := ends
  unfold period_over at found
  rw [Bool.and_eq_true] at found
  have path := scheduled
  unfold handle_schedule_check at path
  rw [bind_ok (show utc_now env w = .ok (env.utc_now w.clock_readings) (ticked w w.store) from rfl),if_pos found.1] at path
  obtain ⟨_,v,notified,rest⟩ := bind_returned path
  have stored : v.store = w.store := by
    have runs := notify_schedule_awaiter_runs (ticked w w.store)
    exact ((runs_ok notified).mp runs).2
  rw [get_bind,stored] at rest
  have period := found.2
  cases compared : env.is_same_session_period (creation_time w.store) (env.utc_now w.clock_readings) with
  | error e =>
    rw [compared] at period
    cases period
  | ok comparison =>
    rw [compared] at period rest
    cases comparison with
    | SamePeriod => cases period
    | DifferentPeriod => exact restarted rest
    | OutsideSessionTime which => exact restarted rest

/-! ### Idle inputs -/

/-- The check of the schedule leaves the session alone. -/
def idle_check (env : Env) (w : World S) : Bool :=
  if env.is_active_at (env.utc_now w.clock_readings) then
    match env.is_same_session_period (creation_time w.store) (env.utc_now w.clock_readings) with
    | .ok .SamePeriod => true
    | _ => false
  else !w.state.is_connected || w.state.is_awaiting_logout

/-- The message is put off, refused or passed over. -/
def idle_message (env : Env) (v : World S) (m : Message) : Bool :=
  match reaction env v m with
  | .Deferred => true
  | .Refused => true
  | .Unnumbered => true
  | .Untyped => false
  | .Faulty (.SeqNumberTooLow _ _ possible_duplicate) => possible_duplicate
  | .Faulty _ => false
  | .Ahead expected actual =>
    match v.state with
    | .AwaitingResend state => (state.update expected actual).1 ≠ .Success
    | .Active _ => false
    | .AwaitingLogon _ => false
    | _ => true
  | .Passed .TestRequest => !v.state.is_connected
  | .Passed .ResendRequest => !v.state.is_connected
  | .Passed .SequenceReset => !v.state.is_connected
  | .Passed .Logon => !v.state.is_awaiting_logon
  | .Passed _ => false

/-- The expected number is past the end of the awaited range. -/
def gap_passed (w : World S) : Bool :=
  match w.state with
  | .AwaitingResend state => next_target w > state.end_seq_number
  | _ => false

def idle_invalid (state : SessionState) (m : Message) : InvalidReason → Bool
  | .InvalidComponent _ => true
  | .InvalidMsgType _ => m.msg_seq_num.isNone || !state.is_connected
  | _ => m.msg_seq_num.isNone

/-- The event writes nothing and leaves the store alone. -/
def idle_event (env : Env) (c : World S) : SessionEvent → Bool
  | .FixMessageReceived raw =>
    match env.build raw with
    | .Valid m => idle_message env (noted (touched c) (.Received m)) m && !gap_passed c
    | .Invalid m reason => idle_invalid c.state m reason
    | _ => true
  | .Connected _ => false
  | _ => true

/-- The input writes nothing and stores no message. -/
def idle (env : Env) (w : World S) : Input → Bool
  | .Event event => idle_check env w && idle_event env (final (handle_schedule_check env w)) event
  | .Outbound o => !w.state.is_connected || env.application.on_outbound_message w.journal o ≠ .Send
  | .Admin (.InitiateGracefulShutdown _) => !w.state.is_connected || w.state.is_awaiting_logout
  | .Admin _ => true
  | .HeartbeatTimeout => false
  | .PeerTimeout => w.state.is_awaiting_logon || w.state.is_awaiting_logout
  | .ScheduleCheck => idle_check env w

/-! ### What idle inputs leave -/

section
variable {env : Env} {w w' : World S}

omit [MessageStore S] in
theorem aside_same (store : w'.store = w.store) (journal : w'.journal = w.journal) : Aside w w' :=
  ⟨store,[],journal.trans (List.append_nil _).symm,rfl⟩

omit [MessageStore S] in
theorem aside_noted {entry : Effect} (other : is_frame entry = false) : Aside w (noted w entry) :=
  ⟨rfl,[entry],rfl,by simp [other]⟩

omit [MessageStore S] in
theorem aside_trans {u v w : World S} (first : Aside u v) (second : Aside v w) : Aside u w := by
  obtain ⟨store,entries,journal,silent⟩ := first
  obtain ⟨store',entries',journal',silent'⟩ := second
  refine ⟨store'.trans store,entries ++ entries',?_,by simp [silent,silent']⟩
  rw [journal',journal,List.append_assoc]

omit [MessageStore S] in
theorem aside_transitioned (w : World S) (state : SessionState) : Aside w (transitioned w state) := by
  unfold transitioned
  split_ifs
  · exact aside_same rfl rfl
  · exact aside_trans (aside_same rfl rfl) (aside_noted rfl)

omit [MessageStore S] in
theorem aside_disconnected (w : World S) : ∃ w', disconnect_writer w = .ok () w' ∧ Aside w w' ∧ w'.state = w.state := by
  unfold disconnect_writer
  rw [get_bind]
  cases w.state.get_writer with
  | none => exact ⟨w,rfl,aside_same rfl rfl,rfl⟩
  | some writer => exact ⟨noted w (.Disconnect writer),rfl,aside_noted rfl,rfl⟩

theorem gap_passed_of_state {u v : World S} (store : u.store = v.store) (state : u.state = v.state) : gap_passed u = gap_passed v := by
  unfold gap_passed next_target
  rw [store,state]

/-- The session is left as it is, but for its journal and its own state. -/
def Left (x : SessionM S Unit) (v : World S) : Prop :=
  (∃ u, x v = .ok () u ∧ Aside v u ∧ (gap_passed u = true → gap_passed v = true)) ∨ ∃ text, x v = .error (.Panic text) v

theorem left_same {x : SessionM S Unit} {v u : World S} (executed : x v = .ok () u) (aside : Aside v u) (state : u.state = v.state) :
    Left x v := by
  refine .inl ⟨u,executed,aside,fun passed => ?_⟩
  rw [← gap_passed_of_state aside.1 state]
  exact passed

theorem left_ended {x : SessionM S Unit} {v u : World S} {reconnect : Bool} {reason : Bytes}
    (executed : x v = .ok () (transitioned u (.new_disconnected reconnect reason))) (aside : Aside v u) : Left x v := by
  refine .inl ⟨_,executed,aside_trans aside (aside_transitioned _ _),fun passed => ?_⟩
  have state : (transitioned u (.new_disconnected reconnect reason)).state = .new_disconnected reconnect reason := by
    unfold transitioned
    split_ifs
    · rfl
    · rfl
  unfold gap_passed at passed
  rw [state] at passed
  cases passed

omit [MessageStore S] in
theorem with_writer_apart {v : World S} (apart : v.state.is_connected = false) (g : WriterRef → SessionM S Unit) :
    (do
      match (← get).state.get_writer with
      | some writer => g writer
      | none => return () : SessionM S Unit) v = .ok () v := by
  have off : v.state.get_writer = none := by
    unfold SessionState.is_connected at apart
    simpa using apart
  rw [get_bind,off]
  rfl

/-- A number ahead changes nothing where no gap is opened or moved. -/
theorem idle_ahead {v : World S} {m : Message} {expected actual : Nat} (reacts : reaction env v m = .Ahead expected actual)
    (idle : idle_message env v m = true) : Left (process_message env m) v := by
  unfold idle_message at idle
  rw [reacts] at idle
  have executed := process_message_reacts env m v
  rw [reacts,react] at executed
  cases state : v.state with
  | AwaitingLogout logout =>
    rw [state] at executed
    exact left_same executed (aside_same rfl rfl) rfl
  | Disconnected disconnected =>
    rw [state] at executed
    exact left_same executed (aside_same rfl rfl) rfl
  | AwaitingResend awaiting =>
    rw [state] at idle executed
    unfold meet_gap AwaitingResendState.handle_gap at executed
    dsimp only at idle executed
    have noted_aside {u : World S} (aside : Aside (ticked v v.store) u) : Aside v u := aside_trans (aside_same rfl rfl) aside
    rcases updated : awaiting.update expected actual with ⟨_ | _ | _,next⟩
    · rw [updated] at idle
      simp at idle
    · rw [updated] at executed
      exact left_ended (executed.trans (transition_eq _ _)) (noted_aside (aside_noted rfl))
    · rw [updated] at executed
      exact left_ended (executed.trans (transition_eq _ _)) (noted_aside (aside_noted rfl))
  | Active active =>
    rw [state] at idle
    cases idle
  | AwaitingLogon logon =>
    rw [state] at idle
    cases idle

/-- A message that passed changes nothing where nothing can be written. -/
theorem idle_passed {v : World S} {m : Message} {kind : MsgKind} (reacts : reaction env v m = .Passed kind)
    (idle : idle_message env v m = true) : Left (process_message env m) v := by
  unfold idle_message at idle
  rw [reacts] at idle
  have executed := process_message_reacts env m v
  rw [reacts,react] at executed
  have passed_over (apart : v.state.is_connected = false) (skipped : dispatch env kind m v = .ok () v) :
      Left (process_message env m) v := by
    rw [apart] at executed
    exact left_same (executed.trans skipped) (aside_same rfl rfl) rfl
  cases kind with
  | TestRequest =>
    have apart : v.state.is_connected = false := by simpa using idle
    exact passed_over apart (with_writer_apart apart _)
  | ResendRequest =>
    have apart : v.state.is_connected = false := by simpa using idle
    refine passed_over apart ?_
    change on_resend_request env m v = .ok () v
    unfold on_resend_request
    rw [get_bind,apart]
    rfl
  | SequenceReset =>
    have apart : v.state.is_connected = false := by simpa using idle
    exact passed_over apart (with_writer_apart apart _)
  | Logon =>
    have stays (u : World S) (state : u.state = v.state) : dispatch env .Logon m u = .ok () u := by
      change on_logon u = .ok () u
      unfold on_logon
      rw [get_bind,state]
      cases current : v.state with
      | AwaitingLogon logon =>
        rw [current] at idle
        cases idle
      | _ => rfl
    split_ifs at executed
    · exact left_same (executed.trans (stays _ rfl)) (aside_same rfl rfl) rfl
    · exact left_same (executed.trans (stays _ rfl)) (aside_same rfl rfl) rfl
  | Heartbeat => cases idle
  | Reject => cases idle
  | Logout => cases idle
  | Application => cases idle

theorem idle_processed {v : World S} {m : Message} (idle : idle_message env v m = true) : Left (process_message env m) v := by
  cases reacts : reaction env v m with
  | Deferred =>
    have executed := process_message_reacts env m v
    rw [reacts,react] at executed
    cases state : v.state with
    | AwaitingResend awaiting =>
      rw [state] at executed
      refine .inl ⟨_,executed,aside_same rfl rfl,fun passed => ?_⟩
      unfold gap_passed at passed ⊢
      rw [state]
      exact passed
    | _ =>
      rw [state] at executed
      exact left_same executed (aside_same rfl rfl) rfl
  | Refused =>
    have executed := process_message_reacts env m v
    rw [reacts,react] at executed
    obtain ⟨u,disconnected,aside,state⟩ := aside_disconnected v
    exact left_same (executed.trans disconnected) aside state
  | Unnumbered =>
    refine .inr ⟨"MsgSeqNum missing from validated message - parser bug",?_⟩
    rw [process_message_reacts,reacts]
    rfl
  | Untyped =>
    unfold idle_message at idle
    rw [reacts] at idle
    cases idle
  | Faulty error =>
    unfold idle_message at idle
    rw [reacts] at idle
    cases error with
    | SeqNumberTooLow expected actual possible_duplicate =>
      have duplicate : possible_duplicate = true := idle
      subst duplicate
      have executed := process_message_reacts env m v
      rw [reacts,react] at executed
      cases current : v.state.get_writer with
      | none =>
        rw [current] at executed
        exact left_same executed (aside_same rfl rfl) rfl
      | some writer =>
        rw [current] at executed
        exact left_same executed (aside_same rfl rfl) rfl
    | _ => cases idle
  | Ahead expected actual => exact idle_ahead reacts idle
  | Passed kind => exact idle_passed reacts idle

omit [MessageStore S] in
theorem aside_notified (w : World S) : ∃ w', notify_schedule_awaiter w = .ok () w' ∧ Aside w w' := by
  unfold notify_schedule_awaiter
  rw [get_bind]
  cases w.state with
  | Disconnected disconnected =>
    dsimp only
    cases disconnected.schedule_awaiter with
    | none => exact ⟨w,rfl,aside_same rfl rfl⟩
    | some responder =>
      exact ⟨noted { w with state := .Disconnected { disconnected with schedule_awaiter := none } } (.ScheduleAnswer responder .InSchedule),
        rfl,aside_trans (aside_same rfl rfl) (aside_noted rfl)⟩
  | _ => exact ⟨w,rfl,aside_same rfl rfl⟩

/-- Where no logout is to be made, none is. -/
theorem log_out_idle (reason : Bytes) (reconnect : Bool) (apart : (!w.state.is_connected || w.state.is_awaiting_logout) = true) :
    log_out_gracefully env reason reconnect w = .ok () w := by
  have stays : w.state.try_transition_to_awaiting_logout reconnect = .Stay := by
    cases state : w.state with
    | AwaitingLogout logout => rfl
    | Disconnected disconnected => rfl
    | _ =>
      rw [state] at apart
      cases apart
  unfold log_out_gracefully initiate_graceful_logout catch_error
  rw [bind_assoc,get_bind]
  dsimp only
  rw [stays]
  rfl

theorem idle_checked (idle : idle_check env w = true) :
    ∃ c, handle_schedule_check env w = .ok () c ∧ Aside w c := by
  unfold idle_check at idle
  unfold handle_schedule_check
  rw [bind_ok (show utc_now env w = .ok (env.utc_now w.clock_readings) (ticked w w.store) from rfl)]
  have ticks : Aside w (ticked w w.store) := aside_same rfl rfl
  split_ifs at idle ⊢ with active
  · obtain ⟨c,notified,aside⟩ := aside_notified (ticked w w.store)
    have stored : creation_time c.store = creation_time w.store := congrArg _ aside.1
    rw [bind_ok notified,get_bind,stored]
    refine ⟨c,?_,aside_trans ticks aside⟩
    cases period : env.is_same_session_period (creation_time w.store) (env.utc_now w.clock_readings) with
    | error e =>
      rw [period] at idle
      cases idle
    | ok comparison =>
      rw [period] at idle
      cases comparison with
      | SamePeriod => rfl
      | _ => cases idle
  · rw [get_bind]
    refine ⟨ticked w w.store,?_,ticks⟩
    split_ifs
    · exact log_out_idle _ _ idle
    · rfl

/-- A message that is passed over releases nothing. -/
theorem idle_taken {v : World S} {m : Message} (idle : idle_message env v m = true) (held : gap_passed v = false) :
    (∃ u, (do process_message env m; check_end_of_resend env) v = .ok () u ∧ Aside v u) ∨
      ∃ text, (do process_message env m; check_end_of_resend env) v = .error (.Panic text) v := by
  rcases idle_processed idle with ⟨u,processed,aside,passes⟩ | ⟨text,stopped⟩
  · refine .inl ⟨u,?_,aside⟩
    have still : gap_passed u = false := by
      by_contra passed
      rw [passes (Bool.not_eq_false _ ▸ passed)] at held
      cases held
    rw [bind_ok processed]
    unfold check_end_of_resend
    rw [get_bind]
    unfold gap_passed at still
    cases state : u.state with
    | AwaitingResend awaiting =>
      rw [state] at still
      have unpassed : ¬ next_target u > awaiting.end_seq_number := of_decide_eq_false still
      dsimp only
      rw [try_complete,if_neg unpassed]
      rfl
    | _ => rfl
  · refine .inr ⟨text,?_⟩
    simp only [bind,EStateM.bind,stopped]

omit [MessageStore S] in
theorem aside_touched (c : World S) : Aside c (touched c) := by
  unfold touched
  split_ifs
  · exact aside_same rfl rfl
  · exact aside_same rfl rfl

omit [MessageStore S] in
theorem touched_writer (c : World S) : (touched c).state.get_writer = c.state.get_writer := by
  unfold touched
  split_ifs
  · rfl
  · cases c.state <;> rfl

theorem gap_passed_touched (c : World S) (entry : Effect) : gap_passed (noted (touched c) entry) = gap_passed c := by
  unfold gap_passed touched noted
  split_ifs
  · rfl
  · cases state : c.state <;> rfl

theorem idle_invalid_left {c : World S} {m : Message} {reason : InvalidReason} (idle : idle_invalid c.state m reason = true) :
    on_invalid env m reason c = .ok () c := by
  have unnumbered (rejected : SessionRejectReason) (text : Bytes) (context : String) (none : m.msg_seq_num.isNone = true) :
      send_reject_for env m rejected text context c = .ok () c := by
    unfold send_reject_for
    rw [Option.isNone_iff_eq_none.mp none]
    rfl
  cases reason with
  | InvalidField tag => exact unnumbered _ _ _ idle
  | InvalidGroup tag => exact unnumbered _ _ _ idle
  | InvalidComponent name => rfl
  | InvalidOrderInGroup tag group_tag => exact unnumbered _ _ _ idle
  | RequiredFieldMissing tag group_tag => exact unnumbered _ _ _ idle
  | InvalidMsgType msg_type =>
    unfold on_invalid
    dsimp only
    rw [get_bind]
    cases current : c.state.get_writer with
    | none => rfl
    | some writer =>
      have number : m.msg_seq_num = none := by simpa [idle_invalid,SessionState.is_connected,current] using idle
      dsimp only
      unfold handle_invalid_msg_type
      rw [number]
      rfl

omit [MessageStore S] in
theorem catch_left {x : SessionM S Unit} {handler : SessionOperationError → SessionM S Unit}
    (left : (∃ u, x w = .ok () u ∧ Aside w u) ∨ ∃ text u, x w = .error (.Panic text) u ∧ Aside w u) :
    Leads Aside (catch_error x handler) w := by
  unfold Leads catch_error
  rcases left with ⟨u,executed,aside⟩ | ⟨text,u,stopped,aside⟩
  · rw [executed]
    exact aside
  · rw [stopped]
    exact aside

theorem idle_incoming {raw : Bytes} {c : World S} (idle : idle_event env c (.FixMessageReceived raw) = true) :
    (∃ u, on_incoming env raw c = .ok () u ∧ Aside c u) ∨ ∃ text u, on_incoming env raw c = .error (.Panic text) u ∧ Aside c u := by
  unfold idle_event at idle
  dsimp only at idle
  rw [on_incoming_eq]
  cases built : env.build raw with
  | Valid m =>
    rw [built,Bool.and_eq_true,Bool.not_eq_true'] at idle
    have arrived : Aside c (noted (touched c) (.Received m)) := aside_trans (aside_touched c) (aside_noted rfl)
    rcases idle_taken idle.1 ((gap_passed_touched c _).trans idle.2) with ⟨u,executed,aside⟩ | ⟨text,stopped⟩
    · exact .inl ⟨u,executed,aside_trans arrived aside⟩
    · exact .inr ⟨text,_,stopped,arrived⟩
  | Invalid m reason =>
    rw [built] at idle
    have connected : (touched c).state.is_connected = c.state.is_connected := by
      unfold SessionState.is_connected
      rw [touched_writer]
    have same : idle_invalid (touched c).state m reason = idle_invalid c.state m reason := by
      unfold idle_invalid
      rw [connected]
    exact .inl ⟨touched c,idle_invalid_left (same.trans idle),aside_touched c⟩
  | Garbled reason => exact .inl ⟨touched c,rfl,aside_touched c⟩
  | UnexpectedError text => exact .inl ⟨touched c,rfl,aside_touched c⟩

/-- What follows the check leaves the store alone and writes nothing. -/
theorem idle_followed {c : World S} {event : SessionEvent} (idle : idle_event env c event = true) :
    Leads Aside (follow env event) c := by
  cases event with
  | FixMessageReceived raw => exact catch_left (idle_incoming idle)
  | Connected writer => cases idle
  | Disconnected reason =>
    obtain ⟨u,disconnected,aside,-⟩ := aside_disconnected c
    unfold Leads follow on_disconnect
    dsimp only
    rw [bind_ok disconnected,get_bind]
    cases u.state.on_disconnect reason with
    | Stay => exact aside
    | TransitionTo state =>
      rw [transition_final]
      exact aside_trans aside (aside_transitioned u state)
  | ShouldReconnect => exact aside_noted rfl
  | AwaitSchedule responder =>
    unfold Leads follow register_schedule_awaiter
    dsimp only
    rw [get_bind]
    cases c.state with
    | Disconnected disconnected =>
      dsimp only
      split_ifs
      · exact aside_noted rfl
      · exact aside_same rfl rfl
    | _ => exact aside_noted rfl

def sets_target : Input → Bool
  | .Admin (.SetNextTargetSeqNum _ _) => true
  | _ => false

/-- An idle input leaves the store alone and writes nothing, but for a request to set
    the expected number. -/
theorem idle_handled {input : Input} (idle : idle env w input = true) (other : sets_target input = false) :
    Leads Aside (handle_input env input) w := by
  cases input with
  | Event event =>
    rw [handle_event_eq]
    rw [Periods.idle,Bool.and_eq_true] at idle
    obtain ⟨c,scheduled,aside⟩ := idle_checked idle.1
    have after := idle.2
    rw [scheduled] at after
    have followed : Aside c (final (follow env event c)) := idle_followed after
    unfold Leads
    rw [bind_ok scheduled]
    exact aside_trans aside followed
  | Outbound o =>
    unfold Leads handle_input handle_outbound_message send_app_message
    dsimp only
    simp only [bind_assoc]
    rw [get_bind]
    split
    · next on =>
      simp only [bind_assoc]
      rw [bind_ok (show note (.OnOutboundMessage o.message_type) w = .ok () (noted w (.OnOutboundMessage o.message_type)) from rfl)]
      have told : Aside w (noted w (.OnOutboundMessage o.message_type)) := aside_noted rfl
      cases decision : env.application.on_outbound_message w.journal o with
      | Send => simp [Periods.idle,on,decision] at idle
      | Drop => exact told
      | TerminateSession =>
        obtain ⟨u,disconnected,aside,-⟩ := aside_disconnected (noted w (.OnOutboundMessage o.message_type))
        simp only [bind_assoc]
        rw [bind_ok disconnected]
        exact aside_trans told aside
    · exact aside_same rfl rfl
  | Admin request =>
    cases request with
    | InitiateGracefulShutdown reconnect =>
      unfold Leads handle_input handle_admin_request
      dsimp only
      rw [log_out_idle _ _ idle]
      exact aside_same rfl rfl
    | RequestSessionInfo => exact aside_noted rfl
    | ResetSequenceNumbersOnNextLogon => exact aside_same rfl rfl
    | SetNextTargetSeqNum seq_num nonzero => cases other
  | HeartbeatTimeout => cases idle
  | PeerTimeout =>
    unfold Periods.idle at idle
    have calm : w.state.is_expecting_test_response = false := by
      cases state : w.state with
      | Active active =>
        rw [state] at idle
        cases idle
      | _ => rfl
    obtain ⟨u,disconnected,aside,-⟩ := aside_disconnected w
    unfold Leads handle_input handle_peer_timeout
    dsimp only
    rw [get_bind,calm]
    simp only [Bool.false_eq_true,if_false]
    split_ifs with logon logout
    · rw [disconnected]
      exact aside
    · rw [disconnected]
      exact aside
    · simp [logon,logout] at idle
  | ScheduleCheck =>
    obtain ⟨c,scheduled,aside⟩ := idle_checked idle
    unfold Leads handle_input
    dsimp only
    rw [scheduled]
    exact aside

end

/-! ### The new period -/

/-- The worlds since the store was started over, between two inputs: the check may have
    come before an event, which is followed next. -/
inductive Since (env : Env) (c : World S) : World S → Prop where
  | reset : Since env c c
  | followed {w : World S} {event : SessionEvent} (idle : idle_event env c event = true) (done : follow env event c = .ok () w) :
    Since env c w
  | handled {v w : World S} {input : Input} (before : Since env c v) (armed : enabled v.state input = true)
    (idle : idle env v input = true) (done : handle_input env input v = .ok () w) : Since env c w

/-- The worlds since the store was started over in which a connection is followed. -/
inductive Poised (env : Env) (c : World S) : World S → Prop where
  | reset : Poised env c c
  | checked {u v : World S} (before : Since env c u) (idle : idle_check env u = true)
    (scheduled : handle_schedule_check env u = .ok () v) : Poised env c v

section
variable {env : Env} {w c : World S} [LawfulMessageStore S] [LawfulOutbox S]

theorem reset_fresh {now : DateTime} {s s' : S} (done : reset now s = (.ok (),s')) : Fresh s' := by
  have numbers := LawfulMessageStore.reset_moves now s
  have messages := LawfulOutbox.reset_ok now s
  rw [done] at numbers messages
  rcases numbers with ⟨-,left⟩ | ⟨⟨e,failed⟩,-⟩
  · exact ⟨congrArg Prod.fst left,messages rfl⟩
  · cases failed

theorem restart_fresh (restarts : Restarts env w c) : Fresh c.store := by
  obtain ⟨-,-,u,started⟩ := restarts
  unfold reset_store at started
  rw [bind_ok (show utc_now env u = .ok (env.utc_now u.clock_readings) (ticked u u.store) from rfl),store_operation_eq] at started
  rw [show (ticked u u.store).store = u.store from rfl] at started
  rcases result : reset (env.utc_now u.clock_readings) u.store with ⟨e | _,s⟩
  · rw [result] at started
    cases started
  · rw [result] at started
    cases started
    exact reset_fresh result

/-- Nothing has been stored or written since the store was started over. -/
structure Untouched (c w : World S) : Prop where
  fresh : Fresh w.store
  silent : frames w.journal = frames c.journal

omit [LawfulMessageStore S] [LawfulOutbox S] in
theorem Untouched.aside {u v : World S} (untouched : Untouched c u) (aside : Aside u v) : Untouched c v := by
  obtain ⟨store,entries,journal,silent⟩ := aside
  refine ⟨store ▸ untouched.fresh,?_⟩
  rw [journal,frames,List.filterMap_append]
  exact (congrArg (frames u.journal ++ ·) (Numbering.frames_aside silent)).trans ((List.append_nil _).trans untouched.silent)

theorem Untouched.targeted {u : World S} (untouched : Untouched c u) (n : Nat) : Untouched c (final (set_target n u)) := by
  have numbers := LawfulMessageStore.set_target_moves n u.store
  have messages := LawfulOutbox.set_target_keeps n u.store
  have sender : next_sender_seq_number (set_target_seq_number n u.store).2 = next_sender_seq_number u.store := by
    rcases numbers with ⟨-,left⟩ | ⟨-,left⟩
    · exact congrArg Prod.fst left
    · exact congrArg Prod.fst left
  unfold set_target
  rw [store_operation_eq]
  rcases result : set_target_seq_number n u.store with ⟨e | _,s⟩
  · rw [result] at sender messages
    exact ⟨⟨sender.trans untouched.fresh.1,messages.trans untouched.fresh.2⟩,untouched.silent⟩
  · rw [result] at sender messages
    refine ⟨⟨sender.trans untouched.fresh.1,messages.trans untouched.fresh.2⟩,?_⟩
    change frames (u.journal ++ [.TargetSet (n + 1)]) = frames c.journal
    rw [frames,List.filterMap_append]
    exact (List.append_nil _).trans untouched.silent

theorem Untouched.input {u v : World S} {input : Input} (untouched : Untouched c u) (idle : idle env u input = true)
    (done : handle_input env input u = .ok () v) : Untouched c v := by
  by_cases sets : sets_target input = true
  · cases input with
    | Admin request =>
      cases request with
      | SetNextTargetSeqNum seq_num nonzero =>
        have left : final (handle_input env (.Admin (.SetNextTargetSeqNum seq_num nonzero)) u) = v := by
          rw [done]
          rfl
        rw [← left]
        unfold handle_input handle_admin_request try_set_next_target_seq_num
        dsimp only
        rw [get_bind]
        cases u.state with
        | Disconnected disconnected =>
          have untouched' := untouched.targeted (seq_num - 1)
          obtain ⟨r,u',executed⟩ := returns_store (set_target_seq_number (seq_num - 1)) [.TargetSet (seq_num - 1 + 1)] u
          have moved : set_target (seq_num - 1) u = .ok r u' := executed
          rw [moved] at untouched'
          dsimp only
          rw [bind_ok moved]
          exact untouched'
        | _ => exact untouched
      | _ => cases sets
    | _ => cases sets
  · have aside := idle_handled idle (Bool.not_eq_true _ ▸ sets)
    unfold Leads at aside
    rw [done] at aside
    exact untouched.aside aside

theorem Since.untouched {u : World S} (restarts : Restarts env w c) (since : Since env c u) : Untouched c u := by
  have fresh : Untouched c c := ⟨restart_fresh restarts,rfl⟩
  induction since with
  | reset => exact fresh
  | followed idle done =>
    have aside := idle_followed idle
    unfold Leads at aside
    rw [done] at aside
    exact fresh.aside aside
  | handled before armed idle done ih => exact ih.input idle done

theorem Poised.untouched {v : World S} (restarts : Restarts env w c) (poised : Poised env c v) : Untouched c v := by
  cases poised with
  | reset => exact ⟨restart_fresh restarts,rfl⟩
  | checked before idle scheduled =>
    obtain ⟨c',executed,aside⟩ := idle_checked idle
    rw [scheduled] at executed
    cases executed
    exact (before.untouched restarts).aside aside

theorem opened_fresh {v : World S} (fresh : Fresh v.store) (taken : greets env v = true) :
    Fresh (opened env v).2.store ∧ unsendable env (greeting env v) (opened env v).2 = false := by
  unfold greets opened at taken
  unfold opened
  split_ifs at taken ⊢
  · rcases result : reset (env.utc_now v.clock_readings) v.store with ⟨e | _,s⟩
    · rw [result] at taken
      cases taken
    · rw [result] at taken
      exact ⟨reset_fresh result,by simpa using taken⟩
  · exact ⟨fresh,by simpa using taken⟩

omit [LawfulMessageStore S] in
/-- A message that the store takes is stored under its number. -/
theorem filed_stored {o : OutboundMessage} {v : World S} {m : Message} {raw : Bytes} (frame : generated env o v = .ok (m,raw))
    (taken : unsendable env o v = false) :
    stored (filed env o v) = Function.update (stored v.store) (next_sender v) (some raw) := by
  unfold unsendable at taken
  unfold filed
  rw [frame] at taken ⊢
  dsimp only at taken ⊢
  have kept := LawfulOutbox.increment_sender_keeps v.store
  rcases counted : increment_sender_seq_number v.store with ⟨e | _,s⟩
  · rw [counted] at taken
    cases taken
  · rw [counted] at taken kept
    unfold refused at taken
    dsimp only at taken
    have added := LawfulOutbox.add_ok (next_sender v) raw s
    rcases result : add (next_sender v) raw s with ⟨e | _,s'⟩
    · rw [result] at taken
      cases taken
    · rw [result] at added
      rw [show stored s' = _ from added rfl,show stored s = _ from kept]

/-- The first frame of the new period is the Logon of the next connection, and it has
    the number 1, as long as everything before it is idle and the store takes it. -/
theorem period_starts_at_one (restarts : Restarts env w c) :
    (∀ u, Since env c u → next_sender u = 1 ∧ (stored u.store = fun _ => none) ∧ frames u.journal = frames c.journal) ∧
      (∀ raw u, idle_event env c (.FixMessageReceived raw) = true → follow env (.FixMessageReceived raw) c = .ok () u →
        u.store = c.store) ∧
      (∀ raw u v, Since env c u → idle env u (.Event (.FixMessageReceived raw)) = true →
        handle_input env (.Event (.FixMessageReceived raw)) u = .ok () v → v.store = u.store) ∧
      ∀ v writer, Poised env c v → greets env v = true → ∃ v' m raw, follow env (.Connected writer) v = .ok () v' ∧
        m.kind = some .Logon ∧ m.msg_seq_num = some 1 ∧ v'.journal.getLast? = some (.Sent writer m raw) ∧
        frames v'.journal = frames c.journal ++ [raw] ∧ stored v'.store = Function.update (fun _ => none) 1 (some raw) := by
  refine ⟨fun u since => ?_,fun raw u idle done => ?_,fun raw u v since idle done => ?_,fun v writer poised taken => ?_⟩
  · have untouched := since.untouched restarts
    exact ⟨untouched.fresh.1,untouched.fresh.2,untouched.silent⟩
  · have aside := idle_followed idle
    unfold Leads at aside
    rw [done] at aside
    exact aside.1
  · have aside := idle_handled idle rfl
    unfold Leads at aside
    rw [done] at aside
    exact aside.1
  · have untouched := poised.untouched restarts
    obtain ⟨fresh,sendable⟩ := opened_fresh untouched.fresh taken
    obtain ⟨v',connected,greeted⟩ := connect_greets writer taken
    obtain ⟨entries,m,raw,frame,opening,journal⟩ := greeted.journal
    have one : next_sender (opened env v).2 = 1 := fresh.1
    have number : m.msg_seq_num = some 1 := by
      obtain ⟨written,wrote,encoded⟩ := generate_message_ok frame
      have keeps := Numbering.keepsNumber_of_header (Numbering.bodyOnly_keepsHeader (greeting_own env v).bodyOnly)
      have same : m = (written.encode Config.default).1 := by rw [encoded]
      rw [same,encode_msg_seq_num,keeps _ _ wrote,blank_msg_seq_num _ _ _ _ _ _ (by rw [one]; decide),one]
    refine ⟨v',m,raw,?_,own_kind (greeting_own env v) frame,number,?_,?_,?_⟩
    · unfold follow catch_error
      dsimp only
      rw [connected]
    · rw [journal,← List.append_assoc]
      exact List.getLast?_concat
    · have quiet : frames entries = [] := by
        refine List.filterMap_eq_nil_iff.mpr (fun entry member => ?_)
        rcases opening entry member with rfl | ⟨old,rfl⟩
        · rfl
        · rfl
      calc frames v'.journal
          _ = frames v.journal ++ frames [.Connected writer] ++ (frames entries ++ frames [.Sent writer m raw]) := by
            rw [journal]
            simp only [frames,List.filterMap_append]
          _ = frames c.journal ++ [raw] := by
            rw [untouched.silent,quiet]
            exact congrArg (· ++ [raw]) (List.append_nil _)
    · rw [greeted.store,filed_stored frame sendable,one,fresh.2]

end

/-! ### Overnight -/

/-- The period ends after the Logon of the peer. -/
def overnight : Env :=
  { valid [logon,report 2] with
    is_same_session_period := fun created now => .ok (if created = now then .SamePeriod else .DifferentPeriod)
    utc_now := fun reading => if reading < 4 then 0 else 1 }

def evening : World Store := after overnight [connect,receive logon]

def morning : World Store := final (handle_schedule_check overnight evening)

theorem morning_restarts : Restarts overnight evening morning := by
  have late : period_over overnight evening = true := by decide +kernel
  have active : morning.state.as_status = .Active := by decide +kernel
  refine (restarts_or_ends late (returned_final (by decide +kernel))).resolve_right ?_
  rintro ⟨text,ended⟩
  rw [show morning.state = _ from ended] at active
  cases active

/-- The connection of the next morning begins with number 1. -/
theorem morning_logon :
    ∃ v' m raw, follow overnight (.Connected ⟨1⟩) morning = .ok () v' ∧
      m.kind = some .Logon ∧ m.msg_seq_num = some 1 ∧ v'.journal.getLast? = some (.Sent ⟨1⟩ m raw) ∧
      frames v'.journal = frames morning.journal ++ [raw] ∧ stored v'.store = Function.update (fun _ => none) 1 (some raw) :=
  (period_starts_at_one morning_restarts).2.2.2 morning ⟨1⟩ .reset (by decide +kernel)

def sent_kind : Effect → Option MsgKind
  | .Sent _ m _ => m.kind
  | _ => none

/-- A report that arrives on the old connection comes after the restart, and a request
    for a resend takes the number 1. -/
theorem morning_report :
    Reachable overnight (fun _ _ => True) start evening ∧ Restarts overnight evening morning ∧
      handle_input overnight (receive (report 2)) evening = .ok () (final (handle_input overnight (receive (report 2)) evening)) ∧
      (final (handle_input overnight (receive (report 2)) evening)).journal.filterMap sent_kind =
        morning.journal.filterMap sent_kind ++ [.ResendRequest] ∧
      next_sender (final (handle_input overnight (receive (report 2)) evening)) = 2 :=
  ⟨reachable_after (by decide +kernel),morning_restarts,returned_final (by decide +kernel),by decide +kernel⟩

end HotFix.Periods
