import HotFix.Deeds

/-!
How the session reacts to a message in the world in which it is taken up, and what it
may do then: the licence of a reaction, of a handler, and of every other input of the
loop. Whatever is handled is done by deeds that have a licence.
-/
namespace HotFix.Deeds
open HotFix.Program HotFix.Frames HotFix.Operations HotFix.Loop HotFix.Sending MessageStore
variable {S : Type} [MessageStore S]

/-! ### How the session reacts to a message -/

/-- What becomes of a message: it is put off until the awaited range is complete, refused
    before the logon, has no number or no type where it needs one, fails verification,
    is ahead of the expected number, or reaches its handler. -/
inductive Reaction where
  | Deferred
  | Refused
  | Unnumbered
  | Untyped
  | Faulty (error : MessageError)
  | Ahead (expected actual : Nat)
  | Passed (kind : MsgKind)
  deriving DecidableEq

def verdict (kind : MsgKind) : Except VerificationIssue Unit → Reaction
  | .ok () => .Passed kind
  | .error (.SequenceGap expected actual) => .Ahead expected actual
  | .error (.InvalidMessage error) => .Faulty error

/-- The verdict on a message that is looked at. Nothing is verified while disconnected. -/
def judged (env : Env) (v : World S) (m : Message) : Reaction :=
  match m.kind with
  | none => .Untyped
  | some kind =>
    match v.state with
    | .Disconnected _ => .Passed kind
    | _ => verdict kind
        (verify_message_with_ctx m env.config (next_target v) (.for_kind kind m) (env.timestamp_now v.clock_readings))

def reaction (env : Env) (v : World S) (m : Message) : Reaction :=
  match v.state with
  | .AwaitingResend state =>
    match m.msg_seq_num with
    | none => .Unnumbered
    | some n =>
      if n > state.end_seq_number && m.msg_type.any (fun t => t ≠ ResendRequest.MSG_TYPE) then .Deferred else judged env v m
  | .AwaitingLogon _ => if m.msg_type = some Logon.MSG_TYPE then judged env v m else .Refused
  | _ => judged env v m

/-- What a state does about a message that is ahead. -/
def meet_gap (env : Env) (expected actual : Nat) : SessionState → SessionM S VerificationResult
  | .AwaitingResend state => state.handle_gap env expected actual
  | .Active state => open_gap env state.writer expected actual
  | .AwaitingLogon state => open_gap env state.writer expected actual
  | .AwaitingLogout _ => return .Issue .Stay
  | .Disconnected _ => return .Passed

/-- What follows the verification of a message. -/
def conclude (env : Env) (kind : MsgKind) (m : Message) : VerificationResult → SessionM S Unit
  | .Issue result => apply_transition result
  | .Passed => dispatch env kind m

def take_issue : VerificationResult → SessionM S Unit
  | .Issue result => apply_transition result
  | .Passed => return ()

/-- The rest of the processing, once it is clear what becomes of the message. -/
def react (env : Env) (m : Message) (v : World S) : Reaction → EStateM.Result (Abort SessionOperationError) (World S) Unit
  | .Deferred =>
    match v.state with
    | .AwaitingResend state =>
      .ok () { v with state := .AwaitingResend { state with inbound_queue := state.inbound_queue ++ [m] } }
    | _ => .ok () v
  | .Refused => disconnect_writer v
  | .Unnumbered => .error (.Panic "MsgSeqNum missing from validated message - parser bug") v
  | .Untyped => .error (.Error (.MissingField "MSG_TYPE")) v
  | .Faulty error =>
    match v.state.get_writer with
    | some writer => (do apply_transition (← handle_verification_error env writer error)) (ticked v v.store)
    | none => .ok () v
  | .Ahead expected actual => (meet_gap env expected actual v.state >>= take_issue) (ticked v v.store)
  | .Passed kind => dispatch env kind m (if v.state.is_connected then ticked v v.store else v)

section
variable {env : Env} {v : World S} {m : Message}

/-- In a connected state a message is verified first. -/
theorem verify_or_reacts {writer : WriterRef} {kind : MsgKind} (kinded : m.kind = some kind)
    (current : v.state.get_writer = some writer) {gap : Nat → Nat → SessionM S VerificationResult}
    (meets : ∀ expected actual, meet_gap env expected actual v.state = gap expected actual)
    (issues : ∀ expected actual u, Runs (gap expected actual) u (fun r _ => r ≠ .Passed) (fun _ _ => True)) :
    (Panics.verify_or env writer m (.for_kind kind m) gap >>= conclude env kind m) v = react env m v (judged env v m) := by
  have on : v.state.is_connected = true := by
    rw [SessionState.is_connected,current]
    rfl
  have judgement : judged env v m = verdict kind
      (verify_message_with_ctx m env.config (next_target v) (.for_kind kind m) (env.timestamp_now v.clock_readings)) := by
    unfold judged
    rw [kinded]
    dsimp only
    cases state : v.state with
    | Disconnected _ =>
      rw [state] at current
      cases current
    | _ => rfl
  have read : (get : SessionM S (World S)) v = .ok v v := rfl
  have clock : timestamp_now env v = .ok (env.timestamp_now v.clock_readings) (ticked v v.store) := rfl
  rw [judgement]
  rcases checked : verify_message_with_ctx m env.config (next_target v) (.for_kind kind m) (env.timestamp_now v.clock_readings)
    with (⟨expected,actual⟩ | ⟨error⟩) | passed
  · have looked : verify_and_handle_errors env writer m (.for_kind kind m) v =
        .ok (.SequenceGap expected actual) (ticked v v.store) := by
      unfold verify_and_handle_errors
      rw [bind_ok read,bind_ok clock,checked]
      rfl
    have handled : Panics.verify_or env writer m (.for_kind kind m) gap v = gap expected actual (ticked v v.store) := by
      unfold Panics.verify_or
      rw [bind_ok looked]
    have issue := issues expected actual (ticked v v.store)
    simp only [verdict,react,bind,EStateM.bind,handled,meets]
    cases met : gap expected actual (ticked v v.store) with
    | error e u => rfl
    | ok r u =>
      cases r with
      | Issue result => rfl
      | Passed => exact absurd rfl ((runs_ok met).mp issue)
  · have looked : verify_and_handle_errors env writer m (.for_kind kind m) v =
        (do return VerificationOutcome.Handled (← handle_verification_error env writer error)) (ticked v v.store) := by
      unfold verify_and_handle_errors
      rw [bind_ok read,bind_ok clock,checked]
    simp only [verdict,react,current,Panics.verify_or,bind,EStateM.bind,looked]
    cases handle_verification_error env writer error (ticked v v.store) with
    | error e u => rfl
    | ok result u => rfl
  · rw [bind_ok (Panics.verify_passed checked),verdict,react,if_pos on]
    rfl

theorem dispatch_reacts : Panics.verify_and_dispatch env m v = react env m v (judged env v m) := by
  unfold Panics.verify_and_dispatch
  cases typed : m.msg_type with
  | none =>
    have unkinded : m.kind = none := by
      unfold Message.kind
      rw [typed]
      rfl
    unfold judged
    rw [unkinded]
    rfl
  | some message_type =>
    have kinded : m.kind = some (msg_kind message_type) := by
      unfold Message.kind
      rw [typed]
      rfl
    have flagged : VerificationFlags.for_message m = some (.for_kind (msg_kind message_type) m) := by
      unfold VerificationFlags.for_message
      rw [kinded]
      rfl
    rw [flagged]
    dsimp only
    cases state : v.state with
    | Disconnected disconnected =>
      have off : v.state.is_connected = false := by
        rw [state]
        rfl
      have passed : handle_verification_issue env m (.for_kind (msg_kind message_type) m) v = .ok .Passed v := by
        unfold handle_verification_issue
        rw [get_bind,state]
        rfl
      rw [bind_ok passed,judged,kinded,state]
      dsimp only
      rw [react,off]
      rfl
    | Active active =>
      have opened : handle_verification_issue env m (.for_kind (msg_kind message_type) m) v =
          Panics.verify_or env active.writer m (.for_kind (msg_kind message_type) m) (open_gap env active.writer) v := by
        unfold handle_verification_issue
        rw [get_bind,state]
        rfl
      rw [← verify_or_reacts kinded (show v.state.get_writer = some active.writer by rw [state]; rfl)
        (fun _ _ => by rw [state]; rfl) (Panics.open_gap_issue active.writer)]
      exact bind_same opened
    | AwaitingResend awaiting =>
      have opened : handle_verification_issue env m (.for_kind (msg_kind message_type) m) v =
          Panics.verify_or env awaiting.writer m (.for_kind (msg_kind message_type) m) (awaiting.handle_gap env) v := by
        unfold handle_verification_issue
        rw [get_bind,state]
        rfl
      rw [← verify_or_reacts kinded (show v.state.get_writer = some awaiting.writer by rw [state]; rfl)
        (fun _ _ => by rw [state]; rfl) (Panics.handle_gap_issue awaiting)]
      exact bind_same opened
    | AwaitingLogon logon =>
      have opened : handle_verification_issue env m (.for_kind (msg_kind message_type) m) v =
          Panics.verify_or env logon.writer m (.for_kind (msg_kind message_type) m) (open_gap env logon.writer) v := by
        unfold handle_verification_issue
        rw [get_bind,state]
        rfl
      rw [← verify_or_reacts kinded (show v.state.get_writer = some logon.writer by rw [state]; rfl)
        (fun _ _ => by rw [state]; rfl) (Panics.open_gap_issue logon.writer)]
      exact bind_same opened
    | AwaitingLogout logout =>
      have opened : handle_verification_issue env m (.for_kind (msg_kind message_type) m) v =
          Panics.verify_or env logout.writer m (.for_kind (msg_kind message_type) m) (fun _ _ => return .Issue .Stay) v := by
        unfold handle_verification_issue
        rw [get_bind,state]
        rfl
      rw [← verify_or_reacts kinded (show v.state.get_writer = some logout.writer by rw [state]; rfl)
        (fun _ _ => by rw [state]; rfl) (fun _ _ _ => (runs_pure _ _ _ _).mpr (by simp))]
      exact bind_same opened

/-- Processing a message is what the session does in reaction to it. -/
theorem process_message_reacts (env : Env) (m : Message) (v : World S) :
    process_message env m v = react env m v (reaction env v m) := by
  have decided := Panics.pre_process_inbound_eq m v
  have accepted (looked : pre_process_inbound m v = .ok (.Accept m) v) :
      process_message env m v = react env m v (judged env v m) := by
    rw [Panics.process_message_eq,bind_ok looked]
    exact dispatch_reacts
  unfold reaction
  cases state : v.state with
  | Active _ => exact accepted (by simpa [state] using decided)
  | Disconnected _ => exact accepted (by simpa [state] using decided)
  | AwaitingLogout _ => exact accepted (by simpa [state] using decided)
  | AwaitingLogon logon =>
    simp only [state] at decided
    dsimp only
    split_ifs at decided ⊢ with typed
    · exact accepted decided
    · rw [Panics.process_message_eq,bind_ok decided]
      rfl
  | AwaitingResend awaiting =>
    dsimp only
    cases number : m.msg_seq_num with
    | none =>
      simp only [state,number] at decided
      simp only [Panics.process_message_eq,bind,EStateM.bind,decided]
      rfl
    | some n =>
      simp only [state,number] at decided
      dsimp only
      split_ifs at decided ⊢ with beyond
      · rw [Panics.process_message_eq,bind_ok decided,react,state]
        rfl
      · exact accepted decided

end

/-! ### What a message gives licence for -/

def fault_licence : MessageError → Licence
  | .SeqNumberTooLow _ _ possible_duplicate =>
    if possible_duplicate then .none else { Licence.none with store := True, frame := fun f => f.kind = some .Logout }
  | .IncorrectBeginString _ => { Licence.none with store := True, frame := fun f => f.kind = some .Logout, lift := True }
  | .IncorrectCompId _ _ _ => { Licence.none with
      store := True, frame := fun f => f.kind = some .Reject ∨ f.kind = some .Logout, lift := True }
  | _ => { Licence.none with store := True, frame := fun f => f.kind = some .Reject }

def gap_licence (expected actual : Nat) : SessionState → Licence
  | .AwaitingResend state =>
    if (state.update expected actual).1 = .Success then
      { Licence.none with store := True, frame := fun f => f.kind = some .ResendRequest, widen := True }
    else .none
  | .Active _ => { Licence.none with store := True, frame := fun f => f.kind = some .ResendRequest }
  | .AwaitingLogon _ => { Licence.none with store := True, frame := fun f => f.kind = some .ResendRequest, skip := True }
  | _ => .none

/-- A SequenceReset names no number, or none that is to come. -/
def reset_rejected (w : World S) (m : Message) : Bool :=
  match m.body.get_u64 NEW_SEQ_NO with
  | none => true
  | some new_seq_no => new_seq_no ≤ next_target w

/-- A ResendRequest does not name its range. -/
def request_rejected (m : Message) : Bool := (m.body.get_u64 BEGIN_SEQ_NO).isNone || (m.body.get_u64 END_SEQ_NO).isNone

/-- The messages that a ResendRequest asks for. -/
def requested (w : World S) (m : Message) : List Bytes :=
  match m.msg_seq_num,m.body.get_u64 BEGIN_SEQ_NO,m.body.get_u64 END_SEQ_NO with
  | some n,some first,some requested =>
    let last := next_sender w - 1
    match if n = next_target w then increment_target_seq_number w.store else (.ok (),w.store) with
    | (.ok (),s) => cut_out (get_slice first (if requested = 0 then last else min requested last) s)
    | (.error _,_) => []
  | _,_,_ => []

/-- The frame is one that answers a ResendRequest. -/
def answers (env : Env) (w : World S) (m f : Message) : Prop :=
  request_rejected m = true ∧ f.kind = some .Reject ∨ replies env (requested w m) false = true ∧ f.kind = some .SequenceReset ∨
    resends env (requested w m) = true ∧ f.kind = some .Application

def handler_licence (env : Env) (w : World S) (m : Message) : MsgKind → Licence
  | .Heartbeat => { Licence.none with store := True }
  | .Reject => { Licence.none with store := True }
  | .TestRequest =>
    if w.state.is_connected then { Licence.none with store := True, frame := fun f => f.kind = some .Heartbeat } else .none
  | .ResendRequest =>
    if w.state.is_connected then { Licence.none with store := True, frame := fun f => answers env w m f } else .none
  | .SequenceReset =>
    if w.state.is_connected then { Licence.none with
      store := True, frame := fun f => reset_rejected w m = true ∧ f.kind = some .Reject } else .none
  | .Logout => { Licence.none with store := True, frame := fun f => w.state.is_logged_on = true ∧ f.kind = some .Logout }
  | .Logon => if w.state.is_awaiting_logon then { Licence.none with store := True, logon := True } else .none
  | .Application => { Licence.none with
      store := True, deliver := True, frame := fun f => w.state.is_logged_on = true ∧ f.kind = some .Application }

/-- What may be done while a message is processed. -/
def licence (env : Env) (v : World S) (m : Message) : Licence :=
  match reaction env v m with
  | .Faulty error => fault_licence error
  | .Ahead expected actual => gap_licence expected actual v.state
  | .Passed kind => handler_licence env v m kind
  | _ => .none

/-! ### Transitions -/

section
variable {L : Licence} {w : World S}

omit [MessageStore S] in
theorem does_bind {α β : Type} {x : SessionM S α} {f : α → SessionM S β} (first : Leads (Does L) x w)
    (next : ∀ a w', x w = .ok a w' → Does L w w' → Leads (Does L) (f a) w') : Leads (Does L) (x >>= f) w :=
  leads_bind does_trans first next

omit [MessageStore S] in
theorem does_works {α β : Type} {x : SessionM S α} {f : α → SessionM S β} (first : Leads (Works L) x w)
    (next : ∀ a w', x w = .ok a w' → Works L w w' → Leads (Does L) (f a) w') : Leads (Does L) (x >>= f) w := by
  refine leads_bind does_trans first.1 (fun a w' executed _ => next a w' executed ?_)
  have works : Works L w (final (x w)) := first
  rwa [executed] at works

omit [MessageStore S] in
theorem does_get {β : Type} {f : World S → SessionM S β} (next : Leads (Does L) (f w) w) : Leads (Does L) (get >>= f) w :=
  leads_ok rfl next

omit [MessageStore S] in
theorem does_transition {result : TransitionResult} (turns : ∀ state, result = .TransitionTo state → Turns L w.state state) :
    Leads (Does L) (apply_transition result) w := by
  cases result with
  | Stay => exact .refl
  | TransitionTo state => exact .one (.turned (turns state rfl))

theorem ended_unsettled {state : SessionState} (undecided : settled state = false) (reason : Bytes) :
    Turns L state (.new_disconnected true reason) := by
  refine .ended (fun decided => ?_) reason
  rw [undecided] at decided
  cases decided

theorem peer_logout_turns {state next : SessionState} (leads : state.on_peer_logout = .TransitionTo next) : Turns L state next := by
  cases state with
  | AwaitingLogout awaiting =>
    cases leads
    exact .ended (fun decided => by simpa [settled] using decided) _
  | Disconnected disconnected => cases leads
  | AwaitingLogon logon =>
    cases leads
    exact ended_unsettled rfl _
  | AwaitingResend awaiting =>
    cases leads
    exact ended_unsettled rfl _
  | Active active =>
    cases leads
    exact ended_unsettled rfl _

theorem disconnect_turns {state next : SessionState} {reason : Bytes} (leads : state.on_disconnect reason = .TransitionTo next) :
    Turns L state next := by
  cases state with
  | AwaitingLogout awaiting =>
    cases leads
    exact .ended (fun decided => by simpa [settled] using decided) _
  | Disconnected disconnected => cases leads
  | AwaitingLogon logon =>
    cases leads
    exact ended_unsettled rfl _
  | AwaitingResend awaiting =>
    cases leads
    exact ended_unsettled rfl _
  | Active active =>
    cases leads
    exact ended_unsettled rfl _

theorem ended_turns {state next : SessionState} {reason : Bytes}
    (leads : TransitionResult.TransitionTo (.new_disconnected false reason) = .TransitionTo next) : Turns L state next := by
  cases leads
  exact .ended (fun _ => rfl) _

end

/-! ### Handlers -/

section
variable {L : Licence} {w : World S} {env : Env} {m : Message}

theorem works_count (may : L.store) : Leads (Works L) (do store_result (← increment_target) : SessionM S Unit) w :=
  works_bind (works_store may _ rfl) (fun r _ _ _ => works_store_result r)

theorem works_reject_to {writer : WriterRef} (may : L.store) (current : w.state.get_writer = some writer)
    (frames : ∀ message : Message, message.kind = some .Reject → L.frame message) (n : Nat) (reason : SessionRejectReason)
    (text : Bytes) : Leads (Works L) (send_reject env writer n reason text) w :=
  works_own_to (.reject _) may current frames

theorem works_reject_and_count {writer : WriterRef} (may : L.store) (current : w.state.get_writer = some writer)
    (frames : ∀ message : Message, message.kind = some .Reject → L.frame message) (n : Nat) (reason : SessionRejectReason)
    (text : Bytes) : Leads (Works L) (reject_and_count env writer n reason text) w :=
  works_bind (works_reject_to may current frames n reason text) (fun _ _ _ _ =>
    works_bind (works_store may _ rfl) (fun _ _ _ _ => works_pure _))

theorem works_logout_to {writer : WriterRef} (may : L.store) (current : w.state.get_writer = some writer)
    (frames : ∀ message : Message, message.kind = some .Logout → L.frame message) (text : Bytes) :
    Leads (Works L) (logout_and_disconnect env writer text) w :=
  works_bind (works_own_to (.logout _) may current frames) (fun _ _ _ _ => works_note rfl)

theorem does_fault {writer : WriterRef} (current : w.state.get_writer = some writer) (error : MessageError) :
    Leads (Does (fault_licence error)) (handle_verification_error env writer error >>= apply_transition) w := by
  have counted (n : Nat) (reason : SessionRejectReason) (text : Bytes)
      (shaped : fault_licence error = { Licence.none with store := True, frame := fun f => f.kind = some .Reject }) :
      Leads (Does (fault_licence error)) (reject_and_count env writer n reason text >>= fun _ => apply_transition .Stay) w := by
    rw [shaped]
    exact does_works (works_reject_and_count trivial current (fun _ kind => kind) n reason text) (fun _ _ _ _ => .refl)
  cases error with
  | SeqNumberTooLow expected actual possible_duplicate =>
    unfold handle_verification_error handle_sequence_number_too_low
    cases possible_duplicate with
    | true => exact .refl
    | false =>
      simp only [bind_assoc,pure_bind,Bool.false_eq_true,if_false]
      refine does_works (works_logout_to trivial current (fun _ kind => kind) _) (fun _ _ _ _ => ?_)
      exact does_transition (fun _ leads => ended_turns leads)
  | IncorrectBeginString begin_string =>
    unfold handle_verification_error handle_incorrect_begin_string
    simp only [bind_assoc,pure_bind]
    refine does_works (works_logout_to trivial current (fun _ kind => kind) _) (fun _ _ _ _ => does_transition (fun _ leads => ?_))
    cases leads
    exact .lifted trivial _
  | IncorrectCompId comp_id comp_id_type n =>
    unfold handle_verification_error handle_incorrect_comp_id
    simp only [bind_assoc,pure_bind]
    have rejects (f : Message) (kind : f.kind = some .Reject) : (fault_licence (.IncorrectCompId comp_id comp_id_type n)).frame f :=
      .inl kind
    have leaves (f : Message) (kind : f.kind = some .Logout) : (fault_licence (.IncorrectCompId comp_id comp_id_type n)).frame f :=
      .inr kind
    refine does_works (works_reject_to trivial current rejects _ _ _) (fun _ w₁ _ works => ?_)
    refine does_works (works_logout_to trivial (works.2.trans current) leaves _) (fun _ _ _ _ => does_transition (fun _ left => ?_))
    cases left
    exact .lifted trivial _
  | SendingTimeAccuracyIssue n =>
    unfold handle_verification_error
    simp only [bind_assoc,pure_bind]
    exact counted _ _ _ rfl
  | SendingTimeMissing n =>
    unfold handle_verification_error
    simp only [bind_assoc,pure_bind]
    exact counted _ _ _ rfl
  | OriginalSendingTimeMissing n =>
    unfold handle_verification_error
    simp only [bind_assoc,pure_bind]
    exact counted _ _ _ rfl
  | OriginalSendingTimeAfterSendingTime n original sent =>
    unfold handle_verification_error
    simp only [bind_assoc,pure_bind]
    exact counted _ _ _ rfl

theorem works_request {writer : WriterRef} (may : L.store) (current : w.state.get_writer = some writer)
    (frames : ∀ message : Message, message.kind = some .ResendRequest → L.frame message) (expected actual : Nat) :
    Leads (Works L) (request_resend env writer expected actual) w :=
  works_checked "resend request" (works_own_to (.resendRequest _) may current frames)

theorem update_writer {state next : AwaitingResendState} {expected actual : Nat} {outcome : AwaitingResendTransitionOutcome}
    (updated : state.update expected actual = (outcome,next)) : next.writer = state.writer := by
  unfold AwaitingResendState.update at updated
  split_ifs at updated <;> (cases updated; rfl)

theorem keeps_state_prepare (env : Env) (o : OutboundMessage) : Keeps World.state (prepare_message (S := S) env o) := by
  intro w
  rcases frame : generated env o w with text | ⟨message,raw⟩
  · rw [prepare_message_panics frame]
    rfl
  · rw [prepare_message_eq frame]
    rcases increment_sender_seq_number w.store with ⟨e | _,s⟩
    · rfl
    · dsimp only
      rcases add (next_sender w) raw s with ⟨e | _,s'⟩
      · rfl
      · rfl

/-- A request for a resend leaves the state alone. -/
theorem request_state {writer : WriterRef} {expected actual : Nat} {w' : World S}
    (executed : request_resend env writer expected actual w = .ok () w') : w'.state = w.state := by
  have keeps : Keeps World.state (request_resend (S := S) env writer expected actual) := by
    unfold request_resend send_message_to
    refine keeps_bind (keeps_bind (keeps_state_prepare env _) (fun r => ?_)) (fun r => keeps_bind ?_ (fun _ => keeps_pure _ _))
    · cases r with
      | error e => exact keeps_pure _ _
      | ok prepared => exact keeps_bind (keeps_modify (fun _ => rfl)) (fun _ => keeps_pure _ _)
    · cases r with
      | error e => exact keeps_throw _ _
      | ok n => exact keeps_pure _ _
  have kept := keeps w
  rw [executed] at kept
  exact kept

theorem does_gap (expected actual : Nat) :
    Leads (Does (gap_licence expected actual w.state)) (meet_gap env expected actual w.state >>= take_issue) w := by
  cases state : w.state with
  | AwaitingResend awaiting =>
    unfold meet_gap AwaitingResendState.handle_gap
    rcases updated : awaiting.update expected actual with ⟨_ | _ | _,next⟩
    · -- the gap is updated where it is
      have licensed : gap_licence expected actual (.AwaitingResend awaiting) =
          { Licence.none with store := True, frame := fun f => f.kind = some .ResendRequest, widen := True } :=
        if_pos (by rw [updated])
      have writer := update_writer updated
      have widened : Leads (Works (gap_licence expected actual (.AwaitingResend awaiting))) (set_state (.AwaitingResend next)) w := by
        rw [licensed]
        refine ⟨.one (.widened trivial state writer),?_⟩
        rw [state]
        exact congrArg some writer
      simp only [updated,bind_assoc,pure_bind,take_issue]
      refine does_works widened (fun _ w₁ _ works => ?_)
      have current : w₁.state.get_writer = some next.writer := by
        rw [works.2,state]
        exact congrArg some writer.symm
      rw [licensed]
      exact does_works (works_request trivial current (fun _ kind => kind) expected actual) (fun _ _ _ _ => .refl)
    · simp only [updated,bind_assoc,pure_bind,take_issue]
      exact does_works (works_note rfl) (fun _ _ _ _ => does_transition (fun _ leads => ended_turns leads))
    · simp only [updated,bind_assoc,pure_bind,take_issue]
      exact does_works (works_note rfl) (fun _ _ _ _ => does_transition (fun _ leads => ended_turns leads))
  | Active active =>
    unfold meet_gap open_gap
    simp only [bind_assoc,pure_bind,take_issue]
    have current : w.state.get_writer = some active.writer := by rw [state]; rfl
    refine does_works (works_request trivial current (fun _ kind => kind) expected actual) (fun _ w₁ executed _ => ?_)
    refine does_transition (fun _ leads => ?_)
    cases leads
    rw [request_state executed,state]
    exact .gap expected actual
  | AwaitingLogon logon =>
    unfold meet_gap open_gap
    simp only [bind_assoc,pure_bind,take_issue]
    have current : w.state.get_writer = some logon.writer := by rw [state]; rfl
    refine does_works (works_request trivial current (fun _ kind => kind) expected actual) (fun _ w₁ executed _ => ?_)
    refine does_transition (fun _ leads => ?_)
    cases leads
    rw [request_state executed,state]
    exact .skipped trivial expected actual
  | AwaitingLogout logout => exact .refl
  | Disconnected disconnected => exact .refl

/-- Where a connection is needed there is a writer. -/
theorem with_writer {g : WriterRef → SessionM S Unit} {k : MsgKind}
    (handler : ∀ writer, w.state.get_writer = some writer → Leads (Works (handler_licence env w m k)) (g writer) w) :
    Leads (Does (handler_licence env w m k)) (do
      match (← get).state.get_writer with
      | some writer => g writer
      | none => return () : SessionM S Unit) w := by
  refine does_get ?_
  cases current : w.state.get_writer with
  | none => exact .refl
  | some writer => exact (handler writer current).1

theorem connected_of_writer {state : SessionState} {writer : WriterRef} (current : state.get_writer = some writer) :
    state.is_connected = true := by
  rw [SessionState.is_connected,current]
  rfl

theorem works_answer_test_request {writer : WriterRef} (current : w.state.get_writer = some writer) :
    Leads (Works (handler_licence env w m .TestRequest)) (answer_test_request env writer m) w := by
  have licensed : handler_licence env w m .TestRequest =
      { Licence.none with store := True, frame := fun f => f.kind = some .Heartbeat } := if_pos (connected_of_writer current)
  rw [licensed]
  unfold answer_test_request
  cases m.body.get_str TEST_REQ_ID with
  | none => exact works_throw _
  | some id =>
    refine works_bind (works_store trivial _ rfl) (fun r w₁ _ first => works_bind (works_store_result r) (fun _ w₂ _ second => ?_))
    exact works_checked "heartbeat response" (works_own_to (.heartbeat _) trivial (second.2.trans (first.2.trans current))
      (fun _ kind => kind))

theorem works_take_sequence_reset {writer : WriterRef} (current : w.state.get_writer = some writer) :
    Leads (Works (handler_licence env w m .SequenceReset)) (take_sequence_reset env writer m) w := by
  have licensed : handler_licence env w m .SequenceReset =
      { Licence.none with store := True, frame := fun f => reset_rejected w m = true ∧ f.kind = some .Reject } :=
    if_pos (connected_of_writer current)
  rw [licensed]
  unfold take_sequence_reset
  refine works_bind (works_number m) (fun n w₁ executed _ => ?_)
  obtain rfl := number_world executed
  have rejects (rejected : reset_rejected w₁ m = true) (f : Message) (kind : f.kind = some .Reject) :
      reset_rejected w₁ m = true ∧ f.kind = some .Reject := ⟨rejected,kind⟩
  unfold reset_rejected at rejects ⊢
  cases number : m.body.get_u64 NEW_SEQ_NO with
  | none =>
    rw [number] at rejects
    exact works_checked _ (works_reject_to trivial current (rejects rfl) _ _ _)
  | some new_seq_no =>
    rw [number] at rejects
    refine works_get (leads_ite (fun lower => ?_) (fun _ => ?_))
    · exact works_checked _ (works_reject_to trivial current (rejects (decide_eq_true lower)) _ _ _)
    · exact works_bind (works_store trivial _ rfl) (fun r _ _ _ => works_store_result r)

theorem works_answer_resend_request {writer : WriterRef} (current : w.state.get_writer = some writer) (may : L.store)
    (rejects : request_rejected m = true → ∀ f : Message, f.kind = some .Reject → L.frame f)
    (fills : replies env (requested w m) false = true → ∀ f : Message, f.kind = some .SequenceReset → L.frame f)
    (copies : resends env (requested w m) = true → ∀ f : Message, f.kind = some .Application → L.frame f) :
    Leads (Works L) (answer_resend_request env writer m) w := by
  unfold answer_resend_request
  refine works_bind (works_number m) (fun n w₁ executed _ => works_get ?_)
  obtain rfl := number_world executed
  unfold requested at fills copies
  unfold request_rejected at rejects
  rw [number_read executed] at fills copies
  cases first : m.body.get_u64 BEGIN_SEQ_NO with
  | none => exact works_checked _ (works_reject_to may current (rejects (by rw [first]; rfl)) _ _ _)
  | some begin_seq_number =>
    cases last : m.body.get_u64 END_SEQ_NO with
    | none => exact works_checked _ (works_reject_to may current (rejects (by rw [first,last]; rfl)) _ _ _)
    | some requested =>
      rw [first,last] at fills copies
      dsimp only at fills copies
      refine works_get (leads_ite (fun expected => ?_) (fun other => ?_))
      · simp only [if_pos expected] at fills copies
        refine works_bind (works_store may _ rfl) (fun r w₂ counted second =>
          works_bind (works_store_result r) (fun _ w₃ checked third => ?_))
        rw [show increment_target w₁ = store_operation increment_target_seq_number [.TargetIncremented] w₁ from rfl,
          store_operation_eq] at counted
        rcases increments : increment_target_seq_number w₁.store with ⟨e | _,s⟩
        · rw [increments] at counted
          cases counted
          cases checked
        · rw [increments] at counted fills copies
          cases counted
          cases checked
          exact works_resend (w := { w₁ with store := s, journal := w₁.journal ++ [.TargetIncremented] }) current _ _ fills copies
      · simp only [if_neg other] at fills copies
        exact works_resend current _ _ fills copies

theorem works_on_resend_request :
    Leads (Works (handler_licence env w m .ResendRequest)) (on_resend_request env m) w := by
  unfold on_resend_request
  refine works_get (leads_ite (fun on => ?_) (fun _ => works_pure _))
  have licensed : handler_licence env w m .ResendRequest = { Licence.none with store := True, frame := fun f => answers env w m f } :=
    if_pos on
  have stores : (handler_licence env w m .ResendRequest).store := by
    rw [licensed]
    trivial
  have frames (f : Message) (answer : answers env w m f) : (handler_licence env w m .ResendRequest).frame f := by
    rw [licensed]
    exact answer
  have answered {u : World S} {writer : WriterRef} (same : u.store = w.store) (current : u.state.get_writer = some writer) :
      Leads (Works (handler_licence env w m .ResendRequest)) (answer_resend_request env writer m) u := by
    have asked : requested u m = requested w m := by
      unfold requested next_sender next_target
      rw [same]
    refine works_answer_resend_request current stores (fun rejected f kind => frames f (.inl ⟨rejected,kind⟩)) (fun fills f kind => ?_)
      (fun copies f kind => ?_)
    · rw [asked] at fills
      exact frames f (.inr (.inl ⟨fills,kind⟩))
    · rw [asked] at copies
      exact frames f (.inr (.inr ⟨copies,kind⟩))
  refine works_bind (works_number m) (fun n w₁ executed first => ?_)
  obtain rfl := number_world executed
  dsimp only
  cases state : w₁.state with
  | AwaitingResend awaiting =>
    have current : w₁.state.get_writer = some awaiting.writer := by rw [state]; rfl
    refine leads_ite (fun _ => ?_) (fun _ => answered rfl current)
    refine works_bind (works_state (by rw [state]; rfl)) (fun _ w₂ executed second => ?_)
    cases executed
    exact answered rfl rfl
  | AwaitingLogon logon => exact answered rfl (by rw [state]; rfl)
  | AwaitingLogout logout => exact answered rfl (by rw [state]; rfl)
  | Active active => exact answered rfl (by rw [state]; rfl)
  | Disconnected disconnected => exact works_pure _

theorem does_on_logout : Leads (Does (handler_licence env w m .Logout)) (on_logout env) w := by
  have told {u : World S} : Leads (Does (handler_licence env w m .Logout)) (do
      note (.OnLogout (ascii "peer has logged us out"))
      disconnect_writer
      apply_transition (← get).state.on_peer_logout
      store_result (← increment_target) : SessionM S Unit) u := by
    refine does_works (works_note rfl) (fun _ _ _ _ => does_works works_disconnect_writer (fun _ _ _ _ => does_get ?_))
    refine does_bind (does_transition (fun _ leads => peer_logout_turns leads)) (fun _ _ _ _ => ?_)
    exact (works_count trivial).1
  unfold on_logout
  refine does_get (leads_ite (fun on => ?_) (fun _ => told))
  have frames (f : Message) (kind : f.kind = some .Logout) : (handler_licence env w m .Logout).frame f := ⟨on,kind⟩
  exact does_works (works_checked "logout" (works_logout trivial frames _)) (fun _ _ _ _ => told)

theorem does_on_logon : Leads (Does (handler_licence env w m .Logon)) (on_logon (S := S)) w := by
  unfold on_logon
  refine does_get ?_
  cases state : w.state with
  | AwaitingLogon logon =>
    have licensed : handler_licence env w m .Logon = { Licence.none with store := True, logon := True } := by
      unfold handler_licence
      rw [state]
      rfl
    rw [licensed]
    have noted : Leads (Works { Licence.none with store := True, logon := True }) (note .OnLogon) w :=
      ⟨.one (.loggedOn trivial state),rfl⟩
    refine does_works noted (fun _ w₁ executed _ => does_works (works_store trivial _ rfl) (fun r w₂ counted _ =>
      does_works (works_store_result r) (fun _ w₃ checked _ => does_transition (fun _ leads => ?_))))
    have state₁ : w₁.state = w.state := by
      cases executed
      rfl
    have state₂ : w₂.state = w₁.state := by
      have kept := keeps_state_store increment_target_seq_number [.TargetIncremented] w₁
      rw [show store_operation increment_target_seq_number [.TargetIncremented] w₁ = _ from counted] at kept
      exact kept
    have state₃ : w₃.state = w₂.state := by
      cases r with
      | ok _ =>
        cases checked
        rfl
      | error e => cases checked
    cases leads
    rw [state₃,state₂,state₁,state]
    exact .logon trivial
  | AwaitingResend awaiting => exact .refl
  | AwaitingLogout logout => exact .refl
  | Active active => exact .refl
  | Disconnected disconnected => exact .refl

theorem writable_business (state : SessionState) (writes : writable state BusinessReject.MSG_TYPE = true) :
    state.is_logged_on = true := by
  cases state with
  | Active active => rfl
  | AwaitingResend awaiting => rfl
  | AwaitingLogon logon =>
    have other : BusinessReject.MSG_TYPE ≠ Logon.MSG_TYPE := by decide
    have another : BusinessReject.MSG_TYPE ≠ Logout.MSG_TYPE := by decide
    simp [writable,other,another] at writes
  | AwaitingLogout logout => cases writes
  | Disconnected disconnected => cases writes

theorem works_app_message : Leads (Works (handler_licence env w m .Application)) (process_app_message env m) w := by
  unfold process_app_message
  refine works_get (works_bind ⟨.one (.delivered trivial m),rfl⟩ (fun _ w₁ executed _ => ?_))
  have state : w₁.state = w.state := by
    cases executed
    rfl
  have counted {u : World S} : Leads (Works (handler_licence env w m .Application)) (do store_result (← increment_target) : SessionM S Unit) u :=
    works_count trivial
  cases env.application.on_inbound_message w.journal m with
  | Accept => exact counted
  | Reject reason text =>
    cases m.msg_type with
    | none => exact works_throw _
    | some message_type =>
      refine works_bind (works_number m) (fun n w₂ numbered _ => ?_)
      obtain rfl := number_world numbered
      refine works_bind (works_send trivial (fun f raw frame writes => ?_)) (fun r _ _ _ =>
        works_bind (works_send_context _ r) (fun _ _ _ _ => counted))
      rw [state] at writes
      exact ⟨writable_business _ writes,own_kind (.businessReject _) frame⟩
  | TerminateSession => exact works_bind works_disconnect_writer (fun _ _ _ _ => counted)

/-- What a handler may do. -/
theorem does_dispatch (kind : MsgKind) : Leads (Does (handler_licence env w m kind)) (dispatch env kind m) w := by
  cases kind with
  | Heartbeat =>
    unfold dispatch on_heartbeat
    refine does_get ?_
    dsimp only
    split
    · exact does_works (works_update rfl (face_reset_peer_timer _ _) rfl) (fun _ _ _ _ => (works_count trivial).1)
    · exact (works_count trivial).1
  | TestRequest => exact with_writer (fun _ current => works_answer_test_request current)
  | ResendRequest => exact works_on_resend_request.1
  | Reject => exact (works_count trivial).1
  | SequenceReset => exact with_writer (fun _ current => works_take_sequence_reset current)
  | Logout => exact does_on_logout
  | Logon => exact does_on_logon
  | Application => exact works_app_message.1

end

/-- Processing a message does what the message gives licence for. -/
theorem process_message_does (env : Env) (m : Message) (v : World S) :
    Does (licence env v m) v (final (process_message env m v)) := by
  have ticks {L : Licence} : Does L v (ticked v v.store) := .one (.aside [] rfl rfl (List.append_nil _).symm rfl)
  rw [process_message_reacts,licence]
  cases reaction env v m with
  | Deferred =>
    unfold react
    cases state : v.state with
    | AwaitingResend awaiting =>
      refine .one (.aside [] rfl ?_ (List.append_nil _).symm rfl)
      rw [state]
      rfl
    | _ => exact .refl
  | Refused => exact works_disconnect_writer.1
  | Unnumbered => exact .refl
  | Untyped => exact .refl
  | Faulty error =>
    unfold react
    cases current : v.state.get_writer with
    | none => exact .refl
    | some writer => exact ticks.trans (does_fault (w := ticked v v.store) current error)
  | Ahead expected actual => exact ticks.trans (does_gap (w := ticked v v.store) expected actual)
  | Passed kind =>
    unfold react
    dsimp only
    split
    · exact ticks.trans (does_dispatch (w := ticked v v.store) kind)
    · exact does_dispatch kind

/-! ### What else the loop may do -/

section
variable {L : Licence} {w : World S} {env : Env}

theorem keeps_state_send {o : OutboundMessage} (other : o.message_type ≠ Logon.MSG_TYPE) :
    Keeps World.state (send_message (S := S) env o) := by
  refine keeps_bind (keeps_state_prepare env o) (fun r => ?_)
  cases r with
  | error e => exact keeps_pure _ _
  | ok prepared =>
    refine keeps_bind (fun w => ?_) (fun _ => keeps_pure _ _)
    unfold write_prepared
    rw [get_bind]
    cases state : w.state with
    | Active active =>
      simp only [if_neg other]
      exact state
    | AwaitingResend awaiting =>
      simp only [if_neg other]
      exact state
    | AwaitingLogon logon =>
      simp only [if_neg other]
      split
      · exact state
      · exact state
    | AwaitingLogout logout => exact state
    | Disconnected disconnected => exact state

theorem keeps_state_terminate (env : Env) (reason : Bytes) : Keeps World.state (logout_and_terminate (S := S) env reason) := by
  refine keeps_bind (keeps_state_send (show Logout.MSG_TYPE ≠ Logon.MSG_TYPE by decide)) (fun _ w => ?_)
  unfold disconnect_writer
  rw [get_bind]
  cases w.state.get_writer with
  | none => rfl
  | some writer => rfl

omit [MessageStore S] in
theorem does_catch {x : SessionM S Unit} {handler : SessionOperationError → SessionM S Unit} (first : Leads (Does L) x w)
    (next : ∀ e w', x w = .error (.Error e) w' → Leads (Does L) (handler e) w') : Leads (Does L) (catch_error x handler) w := by
  unfold Leads at *
  unfold catch_error
  cases executed : x w with
  | ok value w' =>
    rw [executed] at first
    exact first
  | error e w' =>
    rw [executed] at first
    cases e with
    | Error error => exact first.trans (next error w' executed)
    | Panic text => exact first

theorem does_log_out (may : L.store) (frames : ∀ f : Message, f.kind = some .Logout → L.frame f) (reason : Bytes) (reconnect : Bool) :
    Leads (Does L) (log_out_gracefully env reason reconnect) w := by
  unfold log_out_gracefully initiate_graceful_logout
  refine does_catch ?_ (fun _ _ _ => .refl)
  simp only [bind_assoc]
  refine does_get ?_
  cases turned : w.state.try_transition_to_awaiting_logout reconnect with
  | Stay => exact .refl
  | TransitionTo next =>
    have turns : Turns L w.state next := by
      cases state : w.state with
      | AwaitingLogout logout =>
        rw [state] at turned
        cases turned
      | Disconnected disconnected =>
        rw [state] at turned
        cases turned
      | AwaitingLogon logon =>
        rw [state] at turned
        cases turned
        exact .leaving rfl rfl _
      | AwaitingResend awaiting =>
        rw [state] at turned
        cases turned
        exact .leaving rfl rfl _
      | Active active =>
        rw [state] at turned
        cases turned
        exact .leaving rfl rfl _
    simp only [send_logout,bind_assoc,pure_bind]
    refine does_works (works_logout may frames reason) (fun r w₁ executed _ => does_works (works_send_context _ r) (fun _ w₂ checked _ => ?_))
    have state₁ : w₁.state = w.state := by
      have kept := @keeps_state_send S _ env (Logout.with_reason reason).outbound
        (show Logout.MSG_TYPE ≠ Logon.MSG_TYPE by decide) w
      rw [executed] at kept
      exact kept
    have state₂ : w₂.state = w₁.state := by
      cases r with
      | ok n =>
        cases checked
        rfl
      | error e => cases checked
    refine does_transition (fun _ leads => ?_)
    cases leads
    rw [state₂,state₁]
    exact turns

omit [MessageStore S] in
theorem works_notify : Leads (Works L) (notify_schedule_awaiter : SessionM S Unit) w := by
  unfold notify_schedule_awaiter
  refine works_get ?_
  cases state : w.state with
  | Disconnected disconnected =>
    dsimp only
    cases disconnected.schedule_awaiter with
    | none => exact works_pure _
    | some responder => exact works_bind (works_state (by rw [state]; rfl)) (fun _ _ _ _ => works_note rfl)
  | _ => exact works_pure _

theorem does_restart (may : L.store) (frames : ∀ f : Message, f.kind = some .Logout → L.frame f) (reason : Bytes) :
    Leads (Does L) (restart_period env reason) w := by
  unfold restart_period reset_store
  refine does_works (works_terminate may frames reason) (fun _ _ _ _ => ?_)
  refine does_works (works_bind (works_utc_now env) (fun _ _ _ _ => works_store may _ rfl)) (fun r _ _ _ => ?_)
  cases r with
  | ok _ => exact .refl
  | error e => exact does_transition (fun _ leads => ended_turns leads)

/-- The schedule logs out and starts the store over. -/
theorem does_check (may : L.store) (frames : ∀ f : Message, f.kind = some .Logout → L.frame f) :
    Leads (Does L) (handle_schedule_check env) w := by
  unfold handle_schedule_check
  refine does_works (works_utc_now env) (fun now w₁ _ _ => leads_ite (fun _ => ?_) (fun _ => ?_))
  · refine does_works works_notify (fun _ w₂ _ _ => does_get ?_)
    split
    · exact .refl
    · exact does_restart may frames _
    · exact does_restart may frames _
    · exact (works_terminate may frames _).1
  · exact does_get (leads_ite (fun _ => does_log_out may frames _ _) (fun _ => .refl))

/-- What may be done about a frame that is not valid. -/
def invalid_licence (state : SessionState) (m : Message) : InvalidReason → Licence
  | .InvalidComponent _ => .none
  | .InvalidMsgType _ =>
    if m.msg_seq_num.isSome && state.is_connected then
      { Licence.none with store := True, frame := fun f => f.kind = some .Reject } else .none
  | _ =>
    if m.msg_seq_num.isSome then
      { Licence.none with store := True, frame := fun f => state.is_logged_on = true ∧ f.kind = some .Reject } else .none

theorem writable_reject (state : SessionState) (writes : writable state Reject.MSG_TYPE = true) : state.is_logged_on = true := by
  cases state with
  | Active active => rfl
  | AwaitingResend awaiting => rfl
  | AwaitingLogon logon =>
    have other : Reject.MSG_TYPE ≠ Logon.MSG_TYPE := by decide
    have another : Reject.MSG_TYPE ≠ Logout.MSG_TYPE := by decide
    simp [writable,other,another] at writes
  | AwaitingLogout logout => cases writes
  | Disconnected disconnected => cases writes

theorem works_reject_for {m : Message} {K : Licence} (reason : SessionRejectReason) (text : Bytes) (context : String)
    (shaped : K = if m.msg_seq_num.isSome then
      { Licence.none with store := True, frame := fun f => w.state.is_logged_on = true ∧ f.kind = some .Reject } else .none) :
    Leads (Does K) (send_reject_for env m reason text context) w := by
  unfold send_reject_for
  cases number : m.msg_seq_num with
  | none => exact .refl
  | some n =>
    rw [number] at shaped
    rw [shaped]
    refine (works_checked context (works_send trivial (fun f raw frame writes => ?_))).1
    exact ⟨writable_reject _ writes,own_kind (.reject _) frame⟩

theorem does_on_invalid (m : Message) (reason : InvalidReason) :
    Leads (Does (invalid_licence w.state m reason)) (on_invalid env m reason) w := by
  cases reason with
  | InvalidField tag => exact works_reject_for _ _ _ rfl
  | InvalidGroup tag => exact works_reject_for _ _ _ rfl
  | InvalidComponent name => exact .refl
  | InvalidOrderInGroup tag group_tag => exact works_reject_for _ _ _ rfl
  | RequiredFieldMissing tag group_tag => exact works_reject_for _ _ _ rfl
  | InvalidMsgType msg_type =>
    unfold on_invalid
    refine does_get ?_
    cases current : w.state.get_writer with
    | none => exact .refl
    | some writer =>
      unfold handle_invalid_msg_type invalid_licence
      dsimp only
      cases number : m.msg_seq_num with
      | none => exact .refl
      | some n =>
        rw [connected_of_writer current]
        refine does_works (works_reject_to trivial current (fun _ kind => kind) _ _ _) (fun _ _ _ _ => does_get ?_)
        refine leads_ite (fun _ => ?_) (fun _ => .refl)
        exact (works_bind (works_store trivial _ rfl) (fun _ _ _ _ => works_pure _)).1

/-! ### Frames -/

/-- A message of the backlog is counted or processed. -/
theorem replay_message_does {m : Message} (may : L.store) (granted : (licence env w m).Within L) :
    Leads (Does L) (replay_message env m) w := by
  unfold replay_message
  refine leads_ite (fun _ => (works_count may).1) (fun _ => ?_)
  exact (process_message_does env m w).mono granted

theorem replay_does (may : L.store) (backlog : List Message) : ∀ w : World S,
    (∀ p ∈ replayed env backlog w, (licence env p.1 p.2).Within L) → Leads (Does L) (replay env backlog) w := by
  induction backlog with
  | nil => exact fun w _ => .refl
  | cons m rest ih =>
    intro w granted
    have first : Leads (Does L) (replay_message env m) w := replay_message_does may (granted (w,m) (by simp [replayed]))
    refine does_bind first (fun _ w' executed _ => ih w' (fun p member => granted p ?_))
    simp only [replayed,executed,List.mem_cons]
    exact .inr member

theorem check_end_does (may : L.store) (granted : ∀ p ∈ replayed_after env w, (licence env p.1 p.2).Within L) :
    Leads (Does L) (check_end_of_resend env) w := by
  unfold check_end_of_resend
  refine does_get ?_
  unfold replayed_after at granted
  cases state : w.state with
  | AwaitingResend awaiting =>
    simp only [state,try_complete] at granted ⊢
    split_ifs at granted ⊢ with past
    · have turned : Leads (Does L) (apply_transition (.TransitionTo (.new_active awaiting.writer))) w := by
        refine does_transition (fun _ leads => ?_)
        cases leads
        rw [state]
        exact .complete
      refine does_bind turned (fun _ w₁ executed _ => replay_does may _ w₁ ?_)
      dsimp only at granted
      rw [executed] at granted
      exact granted
    · exact .refl
  | _ => exact .refl

/-- The world once the schedule has been checked and the timer started anew. -/
def checked (env : Env) (w : World S) : World S := touched (final (handle_schedule_check env w))

omit [MessageStore S] in
theorem does_touched (w : World S) : Does L w (touched w) := by
  unfold touched
  split_ifs
  · exact .refl
  · exact .one (.aside [] rfl (face_reset_peer_timer none _) (List.append_nil _).symm rfl)

/-- What may be done while a frame is handled: what its message and those that it
    releases give licence for, and a Logout. An error ends the session. -/
theorem frame_does {raw : Bytes} (may : L.store) (frames : ∀ f : Message, f.kind = some .Logout → L.frame f)
    (granted : ∀ p ∈ taken env (.Event (.FixMessageReceived raw)) w, (licence env p.1 p.2).Within L)
    (invalid : ∀ m reason, env.build raw = .Invalid m reason → (invalid_licence (checked env w).state m reason).Within L)
    (fails : ∀ c e u, handle_schedule_check env w = .ok () c → on_incoming env raw c = .error (.Error e) u →
      settled u.state = true → L.lift) :
    Leads (Does L) (handle_input env (.Event (.FixMessageReceived raw))) w := by
  refine does_bind (does_check may frames) (fun _ c scheduled _ => does_catch ?_ (fun e u executed => ?_))
  · have same : checked env w = touched c := by rw [checked,scheduled]; rfl
    unfold Leads
    rw [on_incoming_eq]
    cases built : env.build raw with
    | Valid m =>
      have arrived : arrival env raw w = some (noted (touched c) (.Received m),m) := by
        unfold arrival
        rw [scheduled,built]
      simp only [taken,arrived] at granted
      have received : Does L c (noted (touched c) (.Received m)) :=
        (does_touched c).tail (.aside [.Received m] rfl rfl rfl rfl)
      refine received.trans (does_bind ?_ (fun _ u executed _ => check_end_does may (fun p member => granted p ?_)))
      · exact (process_message_does env m _).mono (granted (_,m) List.mem_cons_self)
      · rw [executed]
        exact List.mem_cons_of_mem _ member
    | Garbled reason => exact does_touched c
    | UnexpectedError text => exact does_touched c
    | Invalid m reason =>
      have within := invalid m reason built
      rw [same] at within
      exact (does_touched c).trans ((does_on_invalid m reason).mono within)
  · refine does_works (works_terminate may frames _) (fun _ u' terminated _ => does_transition (fun _ leads => ?_))
    cases leads
    have state : u'.state = u.state := by
      have kept := keeps_state_terminate (S := S) env (ascii "internal error") u
      rw [terminated] at kept
      exact kept
    by_cases decided : settled u.state = true
    · exact .lifted (fails c e u scheduled executed decided) _
    · rw [state]
      exact ended_unsettled (Bool.not_eq_true _ ▸ decided) _

/-! ### Other inputs -/

def check_licence : Licence := { Licence.none with store := True, frame := fun f => f.kind = some .Logout }

/-- What may be done about an input that is no frame of the peer. -/
def input_licence (env : Env) (w : World S) : Input → Licence
  | .Event (.Connected _) => { Licence.none with
      store := True, frame := fun f => f.kind = some .Logout ∨ f.kind = some .Logon, connect := True }
  | .Event _ => check_licence
  | .ScheduleCheck => check_licence
  | .Outbound o => { Licence.none with
      store := True, frame := fun f => env.application.on_outbound_message w.journal o = .Send ∧
        writable w.state o.message_type = true ∧ ∃ raw, generated env o w = .ok (f,raw) }
  | .Admin (.InitiateGracefulShutdown _) => check_licence
  | .Admin (.SetNextTargetSeqNum _ _) => { Licence.none with store := True }
  | .Admin _ => .none
  | .HeartbeatTimeout => { Licence.none with store := True, frame := fun f => f.kind = some .Heartbeat }
  | .PeerTimeout =>
    if w.state.is_awaiting_logon || w.state.is_awaiting_logout then .none
    else { Licence.none with store := True, frame := fun f => f.kind = some .Logout ∨ f.kind = some .TestRequest }

theorem works_send_logon (may : L.store) (frames : ∀ f : Message, f.kind = some .Logon → L.frame f) :
    Leads (Works L) (send_logon env) w := by
  have sends (reset_config : ResetSeqNumConfig) {u : World S} : Leads (Works L) (do
      modify (fun w => { w with reset_on_next_logon := false })
      let sent ← send_message env (Logon.new env.config.heartbeat_interval reset_config).outbound
      let _ ← with_send_context "logon" sent : SessionM S Unit) u :=
    works_bind (works_update rfl rfl rfl) (fun _ _ _ _ => works_checked "logon" (works_own (.logon _) may frames))
  unfold send_logon reset_store
  refine works_get ?_
  dsimp only
  split
  · refine works_bind (works_bind (works_utc_now env) (fun _ _ _ _ => works_store may _ rfl)) (fun r _ _ _ => ?_)
    exact works_bind (works_store_result r) (fun _ _ _ _ => sends _)
  · exact sends _

theorem does_connect (writer : WriterRef) :
    Leads (Does (input_licence env w (.Event (.Connected writer)))) (on_connect env writer) w := by
  have frames (f : Message) (kind : f.kind = some .Logon) : (input_licence env w (.Event (.Connected writer))).frame f := .inr kind
  unfold on_connect
  refine does_bind (.one (.connected trivial writer)) (fun _ w₁ _ _ => does_bind (.one (.turned (.connecting trivial writer)))
    (fun _ w₂ _ _ => does_works (works_update rfl (face_reset_peer_timer _ _) rfl) (fun _ w₃ _ _ => ?_)))
  exact (works_send_logon trivial frames).1

omit [MessageStore S] in
theorem works_register (responder : Responder) : Leads (Works L) (register_schedule_awaiter responder : SessionM S Unit) w := by
  unfold register_schedule_awaiter
  refine works_get ?_
  cases state : w.state with
  | Disconnected disconnected =>
    refine leads_ite (fun _ => works_note rfl) (fun _ => works_state ?_)
    rw [state]
    rfl
  | _ => exact works_note rfl

theorem does_outbound (o : OutboundMessage) :
    Leads (Does (input_licence env w (.Outbound o))) (handle_outbound_message env o) w := by
  unfold handle_outbound_message send_app_message
  simp only [bind_assoc]
  refine does_get ?_
  split
  · simp only [bind_assoc]
    refine does_works (works_note rfl) (fun _ w₁ executed _ => ?_)
    cases executed
    cases decision : env.application.on_outbound_message w.journal o with
    | Send =>
      simp only [bind_assoc]
      refine does_works (works_send trivial (fun f raw frame writes => ⟨decision,writes,raw,frame⟩)) (fun r _ _ _ => ?_)
      cases r with
      | ok n => exact .refl
      | error e => exact .refl
    | Drop => exact .refl
    | TerminateSession =>
      simp only [bind_assoc]
      exact does_works works_disconnect_writer (fun _ _ _ _ => .refl)
  · exact .refl

theorem does_peer_timeout : Leads (Does (input_licence env w .PeerTimeout)) (handle_peer_timeout env) w := by
  have asks (other : ¬ (w.state.is_awaiting_logon || w.state.is_awaiting_logout) = true) : input_licence env w .PeerTimeout =
      { Licence.none with store := True, frame := fun f => f.kind = some .Logout ∨ f.kind = some .TestRequest } := if_neg other
  unfold handle_peer_timeout
  refine does_get ?_
  dsimp only
  split_ifs with expecting logon logout
  · have active : ¬ (w.state.is_awaiting_logon || w.state.is_awaiting_logout) = true := by
      cases state : w.state with
      | Active _ => simp [SessionState.is_awaiting_logon,SessionState.is_awaiting_logout]
      | _ =>
        rw [state] at expecting
        cases expecting
    have licensed := asks active
    have leaves (f : Message) (kind : f.kind = some .Logout) : (input_licence env w .PeerTimeout).frame f := by
      rw [licensed]
      exact .inl kind
    have stores : (input_licence env w .PeerTimeout).store := by
      rw [licensed]
      trivial
    exact (works_terminate stores leaves _).1
  · exact works_disconnect_writer.1
  · exact works_disconnect_writer.1
  · rw [asks (by simp [logon,logout])]
    refine does_works (works_own (.testRequest _) trivial (fun _ kind => .inr kind)) (fun _ _ _ _ => ?_)
    exact (works_update rfl (face_reset_peer_timer _ _) rfl).1

/-- Every input but a frame does what it gives licence for. -/
theorem input_does {input : Input} (other : ∀ raw, input ≠ .Event (.FixMessageReceived raw)) :
    Leads (Does (input_licence env w input)) (handle_input env input) w := by
  have logouts {L : Licence} (same : L = check_licence) (f : Message) (kind : f.kind = some .Logout) : L.frame f := by
    rw [same]
    exact kind
  cases input with
  | Event event =>
    cases event with
    | FixMessageReceived raw => exact absurd rfl (other raw)
    | Disconnected reason =>
      refine does_bind (does_check trivial (logouts rfl)) (fun _ w₁ _ _ => ?_)
      refine does_works works_disconnect_writer (fun _ w₂ _ _ => does_get (does_transition (fun _ leads => disconnect_turns leads)))
    | Connected writer =>
      refine does_bind (does_check trivial (fun _ kind => .inl kind)) (fun _ w₁ _ _ => ?_)
      exact does_catch (show Leads (Does (input_licence env w₁ (.Event (.Connected writer)))) _ w₁ from does_connect writer)
        (fun _ _ _ => .refl)
    | ShouldReconnect => exact does_bind (does_check trivial (logouts rfl)) (fun _ w₁ _ _ => does_get (works_note rfl).1)
    | AwaitSchedule responder => exact does_bind (does_check trivial (logouts rfl)) (fun _ w₁ _ _ => (works_register responder).1)
  | Outbound o => exact does_outbound o
  | Admin request =>
    cases request with
    | InitiateGracefulShutdown reconnect => exact does_log_out trivial (logouts rfl) _ reconnect
    | RequestSessionInfo => exact does_get (works_note rfl).1
    | ResetSequenceNumbersOnNextLogon => exact (works_update rfl rfl rfl).1
    | SetNextTargetSeqNum seq_num nonzero =>
      unfold handle_input handle_admin_request try_set_next_target_seq_num
      refine does_get ?_
      split
      · exact (works_bind (works_store trivial _ rfl) (fun _ _ _ _ => works_pure _)).1
      · exact .refl
  | HeartbeatTimeout => exact does_works (works_own (.heartbeat _) trivial (fun _ kind => kind)) (fun _ _ _ _ => .refl)
  | PeerTimeout => exact does_peer_timeout
  | ScheduleCheck => exact does_check trivial (logouts rfl)

omit [MessageStore S] in
theorem frame_or_other (input : Input) :
    (∃ raw, input = .Event (.FixMessageReceived raw)) ∨ ∀ raw, input ≠ .Event (.FixMessageReceived raw) := by
  by_cases frame : ∃ raw, input = .Event (.FixMessageReceived raw)
  · exact .inl frame
  · exact .inr (not_exists.mp frame)

end
end HotFix.Deeds
