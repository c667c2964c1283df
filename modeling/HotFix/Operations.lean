import HotFix.Protocol
import HotFix.Frames

/-!
What a world means to the protocol, and what the operations below the session do
to it. `core` forgets writers, frames, timers and the sending side. Each operation
has one lemma that says how it leaves the core and when it stops.
-/
namespace HotFix.Operations
open HotFix.Program HotFix.Protocol HotFix.Frames MessageStore

/-- What the protocol notes of an effect: among the frames, only the requests for
    a resend. -/
def observe : Effect → Option Note
  | .Connected _ => some .Connected
  | .Received message => some (.Received message)
  | .Sent _ message _ => if message.kind = some .ResendRequest then some .Requested else none
  | .OnInboundMessage message => some (.Delivered message)
  | .TargetIncremented => some .Counted
  | .TargetSet next => some (.Jumped next)
  | .StoreReset => some .Restarted
  | _ => none

def gapOf (state : AwaitingResendState) : Gap :=
  ⟨state.begin_seq_number,state.end_seq_number,state.resend_attempts,state.inbound_queue⟩

@[simp] theorem gapOf_last (state : AwaitingResendState) : (gapOf state).last = state.end_seq_number := rfl
@[simp] theorem gapOf_queue (state : AwaitingResendState) : (gapOf state).queue = state.inbound_queue := rfl

def phaseOf : SessionState → Phase
  | .Disconnected _ => .Disconnected
  | .AwaitingLogon _ => .AwaitingLogon
  | .Active _ => .Active
  | .AwaitingResend state => .AwaitingResend (gapOf state)
  | .AwaitingLogout _ => .AwaitingLogout

variable {S : Type}

theorem runs_note {entry : Effect} {w : World S} {ok : Unit → World S → Prop}
    {stop : Abort SessionOperationError → World S → Prop} :
    Runs (note entry) w ok stop ↔ ok () { w with journal := w.journal ++ [entry] } := Iff.rfl

theorem runs_set_state {state : SessionState} {w : World S} {ok : Unit → World S → Prop}
    {stop : Abort SessionOperationError → World S → Prop} :
    Runs (set_state state) w ok stop ↔ ok () { w with state := state } := Iff.rfl

theorem runs_utc_now {env : Env} {w : World S} {ok : DateTime → World S → Prop}
    {stop : Abort SessionOperationError → World S → Prop} :
    Runs (utc_now env) w ok stop ↔
      ok (env.utc_now w.clock_readings) { w with clock_readings := w.clock_readings + 1 } := Iff.rfl

theorem runs_timestamp_now {env : Env} {w : World S} {ok : Timestamp → World S → Prop}
    {stop : Abort SessionOperationError → World S → Prop} :
    Runs (timestamp_now env) w ok stop ↔
      ok (env.timestamp_now w.clock_readings) { w with clock_readings := w.clock_readings + 1 } := Iff.rfl

variable [MessageStore S]

def core (w : World S) : Core := ⟨phaseOf w.state,next_target w,w.journal.filterMap observe⟩

@[simp] theorem core_phase (w : World S) : (core w).phase = phaseOf w.state := rfl
@[simp] theorem core_next (w : World S) : (core w).next = next_target w := rfl
@[simp] theorem core_log (w : World S) : (core w).log = w.journal.filterMap observe := rfl

/-! ### The journal, the state and the store -/

theorem core_silent {w : World S} {entry : Effect} (silent : observe entry = none) :
    core { w with journal := w.journal ++ [entry] } = core w := by
  simp [core,next_target,silent]

theorem core_noted {w : World S} {entry : Effect} {seen : Note} (observed : observe entry = some seen) :
    core { w with journal := w.journal ++ [entry] } = (core w).add seen := by
  simp [core,Core.add,next_target,observed]

theorem core_set_state (w : World S) (state : SessionState) :
    core { w with state := state } = (core w).goto (phaseOf state) := rfl

theorem keeps_note {entry : Effect} (silent : observe entry = none) : Keeps (core (S := S)) (note entry) :=
  keeps_modify (fun _ => core_silent silent)

theorem disconnect_writer_runs (w : World S) :
    Runs disconnect_writer w (fun _ w' => core w' = core w ∧ w'.state = w.state) (fun _ _ => False) := by
  unfold disconnect_writer
  rw [runs_bind,runs_get]
  cases w.state.get_writer with
  | none => exact ⟨rfl,rfl⟩
  | some writer => exact ⟨core_silent rfl,rfl⟩

theorem keeps_timestamp_now (env : Env) : Keeps (core (S := S)) (timestamp_now env) :=
  keeps_bind (keeps_get _) (fun _ => keeps_bind (keeps_modify (fun _ => rfl)) (fun _ => keeps_pure _ _))

/-- Where a transition leads. -/
def moved (c : Core) : TransitionResult → Core
  | .Stay => c
  | .TransitionTo state => c.goto (phaseOf state)

theorem apply_transition_runs (result : TransitionResult) (w : World S) :
    Runs (apply_transition result) w (fun _ w' => core w' = moved (core w) result) (fun _ _ => False) := by
  cases result with
  | Stay => exact rfl
  | TransitionTo state =>
    unfold apply_transition
    simp only [runs_bind,runs_get,runs_set_state]
    split_ifs
    · exact core_silent rfl
    · exact rfl

theorem observe_sent {writer : WriterRef} {m : Message} {raw : Bytes} (other : m.kind ≠ some .ResendRequest) :
    observe (.Sent writer m raw) = none := if_neg other

/-- Writing a prepared message changes the core only if it is a request. -/
theorem write_prepared_runs (message_type : Bytes) (prepared : PreparedMessage) (w : World S) :
    Runs (write_prepared message_type prepared) w
      (fun _ w' => core w' = core w ∨
        prepared.message.kind = some .ResendRequest ∧ core w' = (core w).add .Requested)
      (fun _ _ => False) := by
  have sent : ∀ writer, core { w with journal := w.journal ++ [.Sent writer prepared.message prepared.raw] } = core w ∨
      prepared.message.kind = some .ResendRequest ∧
        core { w with journal := w.journal ++ [.Sent writer prepared.message prepared.raw] } = (core w).add .Requested := by
    intro writer
    by_cases request : prepared.message.kind = some .ResendRequest
    · exact .inr ⟨request,core_noted (if_pos request)⟩
    · exact .inl (core_silent (observe_sent request))
  unfold write_prepared
  rw [runs_bind,runs_get]
  cases state : w.state with
  | Active active =>
    simp only
    split_ifs
    · exact .inl rfl
    · exact sent active.writer
  | AwaitingResend awaiting =>
    simp only
    split_ifs
    · exact .inl rfl
    · exact sent awaiting.writer
  | AwaitingLogon logon =>
    have phase : ∀ c : Core, c.phase = .AwaitingLogon → c.goto .AwaitingLogon = c := by
      rintro ⟨phase,next,log⟩ rfl
      rfl
    have here : (core w).phase = .AwaitingLogon := by simp [phaseOf,state]
    simp only
    split_ifs
    · exact .inl rfl
    · obtain same | ⟨request,added⟩ := sent logon.writer
      · exact .inl ((congrArg (fun c => Core.goto c .AwaitingLogon) same).trans (phase _ here))
      · exact .inr ⟨request,(congrArg (fun c => Core.goto c .AwaitingLogon) added).trans (phase _ here)⟩
    · exact sent logon.writer
    · exact .inl rfl
  | AwaitingLogout _ => exact .inl rfl
  | Disconnected _ => exact .inl rfl

/-! ### Resending -/

theorem keeps_get_msg_seq_num (m : Message) : Keeps (core (S := S)) (get_msg_seq_num m) := by
  unfold get_msg_seq_num
  split
  · exact keeps_pure _ _
  · exact keeps_throw _ _

theorem keeps_flush_reset (env : Env) (writer : WriterRef) (last : Nat) (start : Option Nat) :
    Keeps (core (S := S)) (flush_reset env writer last start) := by
  cases start with
  | none => exact keeps_pure _ _
  | some first =>
    refine keeps_bind (keeps_timestamp_now env) (fun now => ?_)
    obtain ⟨frame,generated,kind,-⟩ := gapFill_generated env.config.begin_string env.config.sender_comp_id
      env.config.target_comp_id first last now
    rw [generated]
    exact keeps_note (observe_sent (by rw [kind]; simp))

theorem keeps_resend_loop (env : Env) (writer : WriterRef) (messages : List Bytes) :
    ∀ start last, Keeps (core (S := S)) (resend_loop env writer messages start last) := by
  induction messages with
  | nil => exact fun start last => keeps_flush_reset env writer last start
  | cons raw rest ih =>
    intro start last
    unfold resend_loop
    split
    · exact keeps_throw _ _
    · next m _ =>
      refine keeps_bind (keeps_get_msg_seq_num m) (fun n => ?_)
      split
      · exact keeps_throw _ _
      · next message_type typed =>
        refine keeps_ite (fun _ => ih _ _) (fun application => ?_)
        refine keeps_bind (keeps_flush_reset env writer n start) (fun _ => ?_)
        refine keeps_bind (keeps_timestamp_now env) (fun now => ?_)
        have other : ((prepare_message_for_resend m now).1.encode env.message_config).1.kind ≠ some .ResendRequest := by
          unfold Message.kind
          rw [encode_msg_type,prepared_msg_type,typed]
          intro request
          rw [is_admin_iff,not_not] at application
          rw [Option.map_some,application] at request
          cases request
        exact keeps_bind (keeps_note (observe_sent other)) (fun _ => ih _ _)

theorem keeps_resend_messages (env : Env) (writer : WriterRef) (first last : Nat) :
    Keeps (core (S := S)) (resend_messages env writer first last) := by
  refine keeps_bind (keeps_get _) (fun w => keeps_bind ?_ (fun messages => keeps_resend_loop env writer messages none 0))
  unfold slice_result
  split
  · exact keeps_pure _ _
  · exact keeps_throw _ _
  · exact keeps_throw _ _

/-! ### What is counted -/

def rejects : InboundDecision → Bool
  | .Reject _ _ => true
  | _ => false

/-- The handler of the message counts it. -/
def handler_counts (env : Env) (w : World S) (m : Message) : MsgKind → Bool
  | .Heartbeat => true
  | .TestRequest => w.state.is_connected && (m.body.get_str TEST_REQ_ID).isSome
  | .ResendRequest => w.state.is_connected && m.msg_seq_num = some (next_target w) &&
      (m.body.get_u64 BEGIN_SEQ_NO).isSome && (m.body.get_u64 END_SEQ_NO).isSome
  | .Reject => true
  | .SequenceReset => false
  | .Logout => true
  | .Logon => w.state.is_awaiting_logon
  | .Application => !(rejects (env.application.on_inbound_message w.journal m) && m.msg_seq_num.isNone)

/-- The handlers look at the state, the number and the journal. -/
theorem handler_counts_congr {env : Env} {w w' : World S} {m : Message} (state : w'.state = w.state)
    (store : w'.store = w.store) (journal : w'.journal = w.journal) (kind : MsgKind) :
    handler_counts env w' m kind = handler_counts env w m kind := by
  obtain ⟨_,_,_,_,_⟩ := w
  obtain ⟨_,_,_,_,_⟩ := w'
  obtain rfl : _ = _ := state
  obtain rfl : _ = _ := store
  obtain rfl : _ = _ := journal
  cases kind <;> rfl

theorem core_congr {w w' : World S} (state : w'.state = w.state) (store : w'.store = w.store)
    (journal : w'.journal = w.journal) : core w' = core w := by
  simp [core,next_target,state,store,journal]

/-- Verification and the handler count the message; nothing is verified while
    disconnected. -/
def verified_counts (env : Env) (w : World S) (m : Message) (kind : MsgKind) : Bool :=
  match w.state with
  | .Disconnected _ => handler_counts env w m kind
  | _ =>
    match verify_message_with_ctx m env.config (next_target w) (.for_kind kind m) (env.timestamp_now w.clock_readings) with
    | .ok () => handler_counts env w m kind
    | .error (.InvalidMessage error) => error.isTimeError
    | .error (.SequenceGap _ _) => false

/-- Processing counts the message. -/
def counted (env : Env) (w : World S) (m : Message) : Bool :=
  match m.kind with
  | none => false
  | some kind =>
    match w.state with
    | .AwaitingResend state => m.msg_seq_num.any (fun n => n ≤ state.end_seq_number || kind = .ResendRequest) &&
        verified_counts env w m kind
    | .AwaitingLogon _ => kind = .Logon && verified_counts env w m kind
    | _ => verified_counts env w m kind

/-- Replaying counts the message: a ResendRequest always is. -/
def replay_counted (env : Env) (w : World S) (m : Message) : Bool := m.kind = some .ResendRequest || counted env w m

theorem counts_of_time {env : Env} {w : World S} {m : Message} {k : MsgKind} {error : MessageError}
    (on : (core w).connected) (failed : verify_message_with_ctx m env.config (next_target w) (.for_kind k m)
      (env.timestamp_now w.clock_readings) = .error (.InvalidMessage error)) (time : error.isTimeError = true) :
    verified_counts env w m k = true := by
  unfold verified_counts
  cases state : w.state with
  | Disconnected _ => simp [Core.connected,phaseOf,state] at on
  | _ => simp [failed,time]

/-- The message reaches its handler, which counts it or does not. -/
theorem counts_of_passed {env : Env} {w : World S} {m : Message} {k : MsgKind}
    (passed : Passed env (env.timestamp_now w.clock_readings) (core w) m k) :
    verified_counts env w m k = handler_counts env w m k := by
  unfold verified_counts
  obtain off | verified := passed
  · cases state : w.state with
    | Disconnected _ => rfl
    | _ => simp [phaseOf,state] at off
  · cases state : w.state with
    | Disconnected _ => rfl
    | _ =>
      dsimp only
      rw [show verify_message_with_ctx m env.config (next_target w) (.for_kind k m)
        (env.timestamp_now w.clock_readings) = .ok () from verified]

theorem counted_of_accepted {env : Env} {w : World S} {m : Message} {k : MsgKind} (accepted : Accepted (core w) m k) :
    counted env w m = verified_counts env w m k := by
  obtain ⟨kind,looked⟩ := accepted
  unfold counted
  rw [kind]
  cases state : w.state with
  | AwaitingResend awaiting =>
    rw [core_phase,state] at looked
    obtain ⟨n,number,within | request⟩ := looked
    · have low : n ≤ awaiting.end_seq_number := within
      simp [number,low]
    · simp [number,request]
  | AwaitingLogon logon =>
    rw [core_phase,state] at looked
    obtain rfl : k = .Logon := looked
    simp
  | _ => rfl

/-! ### The store -/

/-- A store operation leaves the store that the operation leaves, and notes
    `effects` when it succeeds. -/
theorem store_operation_eq {S : Type} (operation : S → Except StoreError Unit × S) (effects : List Effect) (w : World S) :
    store_operation operation effects w =
      match operation w.store with
      | (.ok (),s) => .ok (.ok ()) { w with store := s, journal := w.journal ++ effects }
      | (.error e,s) => .ok (.error e) { w with store := s } := by
  unfold store_operation
  rw [get_bind]
  rcases operation w.store with ⟨e | _,s⟩
  · rfl
  · rfl

theorem store_operation_store {S : Type} (operation : S → Except StoreError Unit × S) (effects : List Effect) (w : World S) :
    (final (store_operation operation effects w)).store = (operation w.store).2 := by
  rw [store_operation_eq]
  rcases operation w.store with ⟨e | _,s⟩
  · rfl
  · rfl

theorem store_operation_ok {S : Type} {operation : S → Except StoreError Unit × S} (effects : List Effect) {w : World S}
    (done : (operation w.store).1 = .ok ()) :
    store_operation operation effects w =
      .ok (.ok ()) { w with store := (operation w.store).2,journal := w.journal ++ effects } := by
  rw [store_operation_eq]
  rcases result : operation w.store with ⟨e | _,s⟩
  · rw [result] at done
    cases done
  · rfl

/-- A store operation that succeeds moves the expected number to `next` and notes
    `effects`; one that fails changes nothing. -/
theorem store_operation_runs {operation : S → Except StoreError Unit × S} {effects : List Effect} {w : World S}
    {next : Nat} (moves : MovesTarget (operation w.store) (next_target w) next) :
    Runs (store_operation operation effects) w
      (fun r w' => w'.state = w.state ∧ w'.reset_on_next_logon = w.reset_on_next_logon ∧
        (r = .ok () ∧ next_target w' = next ∧ w'.journal = w.journal ++ effects ∨
          (∃ e, r = .error e) ∧ (operation w.store).1 ≠ .ok () ∧ next_target w' = next_target w ∧
            w'.journal = w.journal))
      (fun _ _ => False) := by
  unfold store_operation
  simp only [runs_bind,runs_get]
  obtain ⟨succeeded,left⟩ | ⟨⟨e,failed⟩,left⟩ := moves
  · have result : operation w.store = (.ok (),(operation w.store).2) := Prod.ext succeeded rfl
    rw [result]
    exact ⟨rfl,rfl,.inl ⟨rfl,left,rfl⟩⟩
  · have result : operation w.store = (.error e,(operation w.store).2) := Prod.ext failed rfl
    rw [result]
    exact ⟨rfl,rfl,.inr ⟨⟨e,rfl⟩,by simp,left,rfl⟩⟩

/-- There is room for another message: the sum does not wrap. -/
def Fits (arith : Arith) (c : Core) : Prop := arith.add c.next 1 = c.next + 1

variable {arith : Arith} [counting : CountingStore S arith]
include counting

/-- The expected number went up by one, or a write failed and it stayed. -/
theorem increment_target_runs (w : World S) (fits : Fits arith (core w) := by exact rfl) :
    Runs increment_target w
      (fun r w' => r = .ok () ∧ core w' = (core w).count ∨
        (∃ e, r = .error e) ∧ ¬ StoreSucceeds S ∧ core w' = core w)
      (fun _ _ => False) := by
  refine runs_mono (store_operation_runs (CountingStore.increment_target_moves w.store)) ?_ (fun _ _ no => no)
  rintro r w' ⟨state,-,⟨done,next,journal⟩ | ⟨failed,fault,next,journal⟩⟩
  · have counted : next_target w' = next_target w + 1 := next.trans fits
    exact .inl ⟨done,by simp [core,Core.count,state,counted,journal,observe]⟩
  · exact .inr ⟨failed,fun succeeds => fault (succeeds.increment_target_ok _),by simp [core,state,next,journal]⟩

theorem set_target_runs (n : Nat) (w : World S) (fits : arith.add n 1 = n + 1 := by exact rfl) :
    Runs (set_target n) w
      (fun r w' => r = .ok () ∧ core w' = (core w).jump (n + 1) ∨
        (∃ e, r = .error e) ∧ ¬ StoreSucceeds S ∧ core w' = core w)
      (fun _ _ => False) := by
  refine runs_mono (store_operation_runs (CountingStore.set_target_moves n w.store)) ?_ (fun _ _ no => no)
  rintro r w' ⟨state,-,⟨done,next,journal⟩ | ⟨failed,fault,next,journal⟩⟩
  · have jumped : next_target w' = n + 1 := next.trans fits
    exact .inl ⟨done,by simp [core,Core.jump,state,jumped,journal,observe]⟩
  · exact .inr ⟨failed,fun succeeds => fault (succeeds.set_target_ok n _),by simp [core,state,next,journal]⟩

/-- A count that is not ignored: what follows it runs on the next number, unless
    the store fails. -/
theorem count_then_runs {α : Type} {f : Unit → SessionM S α} {w : World S} {ok : α → World S → Prop}
    {stop : Abort SessionOperationError → World S → Prop}
    (counted : ∀ w', core w' = (core w).count → Runs (f ()) w' ok stop)
    (failed : ∀ e w', core w' = core w → ¬ StoreSucceeds S → stop e w') (fits : Fits arith (core w) := by exact rfl) :
    Runs (increment_target >>= fun r => store_result r >>= f) w ok stop := by
  rw [runs_bind]
  refine runs_mono (increment_target_runs w fits) ?_ (fun _ _ no => no.elim)
  rintro r w' (⟨rfl,moved⟩ | ⟨⟨e,rfl⟩,fault,same⟩)
  · exact counted w' moved
  · exact failed _ w' same fault

/-- A counted message returns, or the store failed. -/
theorem count_runs (w : World S) (fits : Fits arith (core w) := by exact rfl) :
    Runs (do store_result (← increment_target)) w (fun _ w' => core w' = (core w).count)
      (fun _ w' => core w' = core w ∧ ¬ StoreSucceeds S) := by
  have rewritten : (do store_result (← increment_target) : SessionM S Unit) =
      increment_target >>= fun r => store_result r >>= fun _ => pure () := by simp
  rw [rewritten]
  exact count_then_runs (fun _ counted => counted) (fun _ _ same fault => ⟨same,fault⟩) fits

/-! ### Sending -/

/-- Preparing a message generates its frame, or a write to the store fails. -/
theorem prepare_message_runs (env : Env) (o : OutboundMessage) (w : World S) :
    Runs (prepare_message env o) w
      (fun r w' => core w' = core w ∧ w'.state = w.state ∧
        ((∃ prepared, r = .ok prepared ∧
            generate_message env.config.begin_string env.config.sender_comp_id env.config.target_comp_id
              prepared.seq_num o (env.timestamp_now w.clock_readings) = .ok (prepared.message,prepared.raw)) ∨
          (∃ e, r = .error e) ∧ ¬ StoreSucceeds S))
      (fun _ w' => core w' = core w ∧ w'.state = w.state ∧ ¬ Total o) := by
  unfold prepare_message
  simp only [runs_bind,runs_get,runs_timestamp_now]
  split
  · next text generated =>
    refine ⟨rfl,rfl,fun total => ?_⟩
    obtain ⟨frame,written⟩ := generate_message_total total env.config.begin_string env.config.sender_comp_id
      env.config.target_comp_id (next_sender w) (env.timestamp_now w.clock_readings)
    rw [written] at generated
    cases generated
  · next msg raw generated =>
    rw [runs_bind]
    refine runs_mono (store_operation_runs (CountingStore.increment_sender_moves _)) ?_ (fun _ _ no => no.elim)
    rintro r w₁ ⟨state,-,⟨rfl,next,journal⟩ | ⟨⟨e,rfl⟩,fault,next,journal⟩⟩
    · simp only [List.append_nil] at journal
      rw [runs_bind]
      refine runs_mono (store_operation_runs (CountingStore.add_moves _ _ w₁.store)) ?_ (fun _ _ no => no.elim)
      rintro r w₂ ⟨state₂,-,⟨rfl,next₂,journal₂⟩ | ⟨⟨e,rfl⟩,fault,next₂,journal₂⟩⟩
      · simp only [List.append_nil] at journal₂
        have same : next_target w₂ = next_target w := next₂.trans next
        exact ⟨by simp [core,same,state₂,state,journal₂,journal],state₂.trans state,
          .inl ⟨⟨next_sender w,msg,raw⟩,rfl,generated⟩⟩
      · have same : next_target w₂ = next_target w := next₂.trans next
        exact ⟨by simp [core,same,state₂,state,journal₂,journal],state₂.trans state,
          .inr ⟨⟨_,rfl⟩,fun succeeds => fault (succeeds.add_ok _ _ _)⟩⟩
    · have same : next_target w₁ = next_target w := next
      exact ⟨by simp [core,same,state,journal],state,
        .inr ⟨⟨_,rfl⟩,fun succeeds => fault (succeeds.increment_sender_ok _)⟩⟩

theorem send_message_any_runs (env : Env) (o : OutboundMessage) (w : World S) :
    Runs (send_message env o) w
      (fun r w' => (core w' = core w ∨ ¬ NoRequest o ∧ core w' = (core w).add .Requested) ∧
        ((∃ n, r = .ok n) ∨ (∃ e, r = .error e) ∧ ¬ StoreSucceeds S))
      (fun _ w' => core w' = core w ∧ ¬ Total o) := by
  unfold send_message
  rw [runs_bind]
  refine runs_mono (prepare_message_runs env o w) ?_ (fun _ _ stopped => ⟨stopped.1,stopped.2.2⟩)
  rintro r w' ⟨same,-,⟨prepared,rfl,generated⟩ | ⟨⟨e,rfl⟩,fault⟩⟩
  · simp only [runs_bind]
    refine runs_mono (write_prepared_runs o.message_type prepared w') ?_ (fun _ _ no => no.elim)
    rintro _ w'' (kept | ⟨request,added⟩)
    · exact ⟨.inl (kept.trans same),.inl ⟨_,rfl⟩⟩
    · refine ⟨.inr ⟨fun quiet => quiet _ _ _ _ _ _ generated request,?_⟩,.inl ⟨_,rfl⟩⟩
      rw [added,same]
  · exact ⟨.inl same,.inr ⟨⟨e,rfl⟩,fault⟩⟩

theorem send_message_runs (env : Env) {o : OutboundMessage} (quiet : NoRequest o) (w : World S) :
    Runs (send_message env o) w
      (fun r w' => core w' = core w ∧ ((∃ n, r = .ok n) ∨ (∃ e, r = .error e) ∧ ¬ StoreSucceeds S))
      (fun _ w' => core w' = core w ∧ ¬ Total o) := by
  refine runs_mono (send_message_any_runs env o w) ?_ (fun _ _ stopped => stopped)
  rintro r w' ⟨same | ⟨loud,-⟩,result⟩
  · exact ⟨same,result⟩
  · exact absurd quiet loud

theorem send_message_to_runs (env : Env) (writer : WriterRef) {o : OutboundMessage} (plain : Frames.Plain o) (w : World S) :
    Runs (send_message_to env writer o) w
      (fun r w' => core w' = core w ∧ w'.state = w.state ∧
        ((∃ n, r = .ok n) ∨ (∃ e, r = .error e) ∧ ¬ StoreSucceeds S))
      (fun _ _ => False) := by
  unfold send_message_to
  rw [runs_bind]
  refine runs_mono (prepare_message_runs env o w) ?_ (fun _ _ stopped => stopped.2.2 plain.total)
  rintro r w' ⟨same,state,⟨prepared,rfl,generated⟩ | ⟨⟨e,rfl⟩,fault⟩⟩
  · exact ⟨(core_silent (observe_sent (plain.noRequest _ _ _ _ _ _ generated))).trans same,state,.inl ⟨_,rfl⟩⟩
  · exact ⟨same,state,.inr ⟨⟨e,rfl⟩,fault⟩⟩

theorem request_resend_runs (env : Env) (writer : WriterRef) (expected actual : Nat) (w : World S) :
    Runs (request_resend env writer expected actual) w
      (fun _ w' => core w' = (core w).add .Requested)
      (fun _ w' => core w' = core w ∧ ¬ StoreSucceeds S) := by
  unfold request_resend send_message_to
  rw [runs_bind,runs_bind]
  refine runs_mono (prepare_message_runs env _ w) ?_
    (fun _ _ stopped => absurd (resendRequest_bodyOnly _).total stopped.2.2)
  rintro r w' ⟨same,-,⟨prepared,rfl,generated⟩ | ⟨⟨e,rfl⟩,fault⟩⟩
  · have observed : observe (.Sent writer prepared.message prepared.raw) = some .Requested :=
      if_pos (resendRequest_kind generated)
    exact (core_noted observed).trans (by rw [same])
  · exact ⟨same,fault⟩

/-- A send by the session whose failure is an error leaves the core alone. -/
theorem send_runs (env : Env) {o : OutboundMessage} (plain : Frames.Plain o) (context : String) (w : World S) :
    Runs (do let sent ← send_message env o
             let _ ← with_send_context context sent) w
      (fun _ w' => core w' = core w)
      (fun e w' => (∃ error, e = .Error error) ∧ core w' = core w ∧ ¬ StoreSucceeds S) := by
  rw [runs_bind]
  refine runs_mono (send_message_runs env plain.noRequest w) ?_ (fun _ _ stopped => absurd plain.total stopped.2)
  rintro _ w₁ ⟨same,⟨n,rfl⟩ | ⟨⟨e,rfl⟩,fault⟩⟩
  · exact same
  · exact ⟨⟨_,rfl⟩,same,fault⟩

/-- A reject whose failure is an error leaves the core alone. -/
theorem reject_runs (env : Env) (writer : WriterRef) (n : Nat) (reason : SessionRejectReason) (text : Bytes)
    (context : String) (w : World S) :
    Runs (do let sent ← send_reject env writer n reason text
             let _ ← with_send_context context sent) w
      (fun _ w' => core w' = core w) (fun _ w' => core w' = core w ∧ ¬ StoreSucceeds S) := by
  unfold send_reject
  rw [runs_bind]
  refine runs_mono (send_message_to_runs env writer (plain_reject _) w) ?_ (fun _ _ no => no.elim)
  rintro _ w₁ ⟨same,-,⟨n,rfl⟩ | ⟨⟨e,rfl⟩,fault⟩⟩
  · exact same
  · exact ⟨same,fault⟩

/-! ### Messages that fail verification -/

theorem reject_and_count_runs (env : Env) (writer : WriterRef) (n : Nat) (reason : SessionRejectReason) (text : Bytes)
    (w : World S) (fits : Fits arith (core w)) :
    Runs (reject_and_count env writer n reason text) w
      (fun _ w' => core w' = (core w).count ∨ core w' = core w ∧ ¬ StoreSucceeds S) (fun _ _ => False) := by
  unfold reject_and_count send_reject
  rw [runs_bind]
  refine runs_mono (send_message_to_runs env writer (plain_reject _) w) ?_ (fun _ _ no => no.elim)
  rintro _ w₁ ⟨same,-⟩
  rw [← same] at fits
  rw [runs_bind,← same]
  refine runs_mono (increment_target_runs w₁ fits) ?_ (fun _ _ no => no.elim)
  rintro _ w₂ (⟨-,counted⟩ | ⟨-,fault,kept⟩)
  · exact .inl counted
  · exact .inr ⟨kept,fault⟩

theorem logout_and_disconnect_runs (env : Env) (writer : WriterRef) (text : Bytes) (w : World S) :
    Runs (logout_and_disconnect env writer text) w (fun _ w' => core w' = core w) (fun _ _ => False) := by
  unfold logout_and_disconnect
  rw [runs_bind]
  refine runs_mono (send_message_to_runs env writer (plain_logout _) w) ?_ (fun _ _ no => no.elim)
  rintro _ w₁ ⟨same,-⟩
  exact (core_silent rfl).trans same

/-- The three ways to answer a message that fails verification: its time is
    rejected and it is counted, it is an old duplicate, or the session ends. -/
inductive Answered (c : Core) (fault : Prop) : MessageError → TransitionResult → Core → Prop where
  | time {e : MessageError} {c' : Core} (time : e.isTimeError = true) (counted : c' = c.count ∨ c' = c ∧ fault) :
      Answered c fault e .Stay c'
  | duplicate (expected actual : Nat) : Answered c fault (.SeqNumberTooLow expected actual true) .Stay c
  | ended {e : MessageError} (state : DisconnectedState) (noTime : e.isTimeError = false)
      (noDuplicate : ∀ expected actual, e ≠ .SeqNumberTooLow expected actual true) :
      Answered c fault e (.TransitionTo (.Disconnected state)) c

theorem handle_verification_error_runs (env : Env) (writer : WriterRef) (error : MessageError) (w : World S)
    (room : error.isTimeError = true → Fits arith (core w)) :
    Runs (handle_verification_error env writer error) w
      (fun result w' => Answered (core w) (¬ StoreSucceeds S) error result (core w')) (fun _ _ => False) := by
  have counted : ∀ (e : MessageError) n reason text, e.isTimeError = true → Fits arith (core w) →
      Runs (do reject_and_count env writer n reason text; return .Stay) w
        (fun result w' => Answered (core w) (¬ StoreSucceeds S) e result (core w')) (fun _ _ => False) := by
    intro e n reason text time fits
    rw [runs_bind]
    exact runs_mono (reject_and_count_runs env writer n reason text w fits) (fun _ _ either => .time time either)
      (fun _ _ no => no)
  cases error with
  | SeqNumberTooLow expected actual possible_duplicate =>
    simp only [handle_verification_error,handle_sequence_number_too_low]
    split_ifs with duplicate
    · subst duplicate
      exact .duplicate expected actual
    · rw [runs_bind]
      refine runs_mono (logout_and_disconnect_runs env writer _ w) ?_ (fun _ _ no => no)
      rintro _ w' same
      exact same ▸ .ended _ rfl (by rintro _ _ ⟨⟩; exact duplicate rfl)
  | IncorrectBeginString begin_string =>
    simp only [handle_verification_error,handle_incorrect_begin_string]
    rw [runs_bind]
    refine runs_mono (logout_and_disconnect_runs env writer _ w) ?_ (fun _ _ no => no)
    rintro _ w' same
    exact same ▸ .ended _ rfl (by rintro _ _ ⟨⟩)
  | IncorrectCompId comp_id comp_id_type n =>
    simp only [handle_verification_error,handle_incorrect_comp_id,send_reject]
    rw [runs_bind]
    refine runs_mono (send_message_to_runs env writer (plain_reject _) w) ?_ (fun _ _ no => no.elim)
    rintro _ w₁ ⟨rejected,-⟩
    rw [runs_bind]
    refine runs_mono (logout_and_disconnect_runs env writer _ w₁) ?_ (fun _ _ no => no)
    rintro _ w' same
    exact (same.trans rejected) ▸ .ended _ rfl (by rintro _ _ ⟨⟩)
  | SendingTimeAccuracyIssue n => exact counted _ _ _ _ rfl (room rfl)
  | SendingTimeMissing n => exact counted _ _ _ _ rfl (room rfl)
  | OriginalSendingTimeMissing n => exact counted _ _ _ _ rfl (room rfl)
  | OriginalSendingTimeAfterSendingTime n original sending => exact counted _ _ _ _ rfl (room rfl)

theorem verify_and_handle_errors_runs (env : Env) (writer : WriterRef) (m : Message) (flags : VerificationFlags)
    (w : World S) (room : ∀ error : MessageError, verify_message_with_ctx m env.config (next_target w) flags
      (env.timestamp_now w.clock_readings) = .error (.InvalidMessage error) → error.isTimeError = true → Fits arith (core w)) :
    Runs (verify_and_handle_errors env writer m flags) w
      (fun outcome w' =>
        match verify_message_with_ctx m env.config (next_target w) flags (env.timestamp_now w.clock_readings) with
        | .ok () => outcome = .Ok ∧ w'.state = w.state ∧ w'.store = w.store ∧ w'.journal = w.journal
        | .error (.SequenceGap e a) => outcome = .SequenceGap e a ∧ core w' = core w ∧ w'.state = w.state
        | .error (.InvalidMessage error) => ∃ result,outcome = .Handled result ∧
            Answered (core w) (¬ StoreSucceeds S) error result (core w'))
      (fun _ _ => False) := by
  unfold verify_and_handle_errors
  simp only [runs_bind,runs_get,runs_timestamp_now]
  cases result : verify_message_with_ctx m env.config (next_target w) flags (env.timestamp_now w.clock_readings) with
  | ok value => exact ⟨rfl,rfl,rfl,rfl⟩
  | error issue =>
    cases issue with
    | SequenceGap expected actual => exact ⟨rfl,rfl,rfl⟩
    | InvalidMessage error =>
      simp only [runs_bind]
      exact runs_mono (handle_verification_error_runs env writer error _ (room error result))
        (fun result _ answered => ⟨result,rfl,answered⟩) (fun _ _ no => no)

section
variable {env : Env} {faults : Faults} {now : Timestamp} {m : Message} {k : MsgKind}

omit [MessageStore S] counting in
theorem answered_step {c c' : Core} {error : MessageError} {result : TransitionResult} {fault : Prop}
    (store : fault → faults.store) (accepted : Accepted c m k) (on : c.connected)
    (failed : verify env now c m k = .error (.InvalidMessage error)) (answered : Answered c fault error result c') :
    Step env faults now c m (moved c' result) true := by
  cases answered with
  | time time counted =>
    obtain rfl | ⟨rfl,broken⟩ := counted
    · exact .badTime accepted on failed time
    · exact .badTimeFailed accepted on failed time (store broken)
  | duplicate expected actual => exact .duplicate accepted on failed
  | ended state noTime noDuplicate => exact .terminated accepted on failed noTime noDuplicate

/-- The outcome of the verification of a message that is not refused before it. -/
def Verified (env : Env) (faults : Faults) (now : Timestamp) (c : Core) (m : Message) (k : MsgKind) (w : World S) :
    VerificationResult → World S → Prop
  | .Passed,w' => Passed env now c m k ∧ w'.state = w.state ∧ w'.store = w.store ∧ w'.journal = w.journal
  | .Issue result,w' => Step env faults now c m (moved (core w') result) true

theorem open_gap_runs (store : ¬ StoreSucceeds S → faults.store) (writer : WriterRef) {c : Core} {w : World S} {a : Nat}
    (same : core w = c) (accepted : Accepted c m k) (phase : c.phase = .Active ∨ c.phase = .AwaitingLogon)
    (failed : verify env now c m k = .error (.SequenceGap c.next a)) (w₀ : World S) :
    Runs (open_gap env writer c.next a) w (Verified env faults now c m k w₀)
      (fun _ w' => Step env faults now c m (core w') false) := by
  obtain ⟨-,number,above⟩ := verify_gap failed
  unfold open_gap
  rw [runs_bind]
  refine runs_mono (request_resend_runs env writer c.next a w) ?_ ?_
  · intro _ w' requested
    rw [same] at requested
    exact (Step.gapOpened accepted phase failed number above).to (congrArg (fun d => Core.goto d _) requested)
  · rintro _ w' ⟨kept,fault⟩
    exact (Step.storeFailed accepted (store fault)).to (kept.trans same)

omit [MessageStore S] counting in
theorem update_gapOf (state : AwaitingResendState) (first last : Nat) :
    (gapOf state).update first last =
      match state.update first last with
      | (.Success,updated) => some (gapOf updated)
      | _ => none := by
  unfold Gap.update AwaitingResendState.update gapOf
  split_ifs <;> rfl

theorem handle_gap_runs (store : ¬ StoreSucceeds S → faults.store) (state : AwaitingResendState) {c : Core} {w : World S}
    {a : Nat} (same : core w = c) (accepted : Accepted c m k) (phase : c.phase = .AwaitingResend (gapOf state))
    (failed : verify env now c m k = .error (.SequenceGap c.next a)) (w₀ : World S) :
    Runs (state.handle_gap env c.next a) w (Verified env faults now c m k w₀)
      (fun _ w' => Step env faults now c m (core w') false) := by
  obtain ⟨-,number,above⟩ := verify_gap failed
  have updates := update_gapOf state c.next a
  unfold AwaitingResendState.handle_gap
  cases equal : state.update c.next a with | mk outcome updated =>
  rw [equal] at updates
  cases outcome with
  | Success =>
    simp only [runs_bind,runs_set_state]
    refine runs_mono (request_resend_runs env updated.writer c.next a _) ?_ ?_
    · intro _ w' requested
      have left : core w' = (c.add .Requested).goto (.AwaitingResend (gapOf updated)) := by
        rw [requested,core_set_state w,same]
        rfl
      exact (Step.gapUpdated accepted phase failed number above updates).to left
    · rintro _ w' ⟨kept,fault⟩
      have left : core w' = c.goto (.AwaitingResend (gapOf updated)) := by
        rw [kept,core_set_state w,same]
        rfl
      exact (Step.gapUpdateFailed accepted phase failed number above updates (store fault)).to left
  | BeginSeqNumberTooLow =>
    have kept : core { w with journal := w.journal ++ [.Disconnect state.writer] } = c := (core_silent rfl).trans same
    exact (Step.gaveUp accepted phase failed updates).to (congrArg (fun d => Core.goto d .Disconnected) kept)
  | AttemptsExceeded =>
    have kept : core { w with journal := w.journal ++ [.Disconnect state.writer] } = c := (core_silent rfl).trans same
    exact (Step.gaveUp accepted phase failed updates).to (congrArg (fun d => Core.goto d .Disconnected) kept)

/-- Verification on a connection, when what the state does about a gap is a step. -/
theorem verification_runs (store : ¬ StoreSucceeds S → faults.store) {w : World S} (accepted : Accepted (core w) m k)
    (writer : WriterRef) (gap : Nat → Nat → SessionM S VerificationResult) (on : (core w).connected)
    (room : verified_counts env w m k = true → Fits arith (core w))
    (gapped : ∀ a w₁, core w₁ = core w →
      verify env (env.timestamp_now w.clock_readings) (core w) m k = .error (.SequenceGap (core w).next a) →
      Runs (gap (core w).next a) w₁ (Verified env faults (env.timestamp_now w.clock_readings) (core w) m k w)
        (fun _ w' => Step env faults (env.timestamp_now w.clock_readings) (core w) m (core w') false)) :
    Runs (do match ← verify_and_handle_errors env writer m (.for_kind k m) with
            | .Ok => return .Passed
            | .Handled result => return .Issue result
            | .SequenceGap expected actual => gap expected actual) w
      (Verified env faults (env.timestamp_now w.clock_readings) (core w) m k w)
      (fun _ w' => Step env faults (env.timestamp_now w.clock_readings) (core w) m (core w') false) := by
  rw [runs_bind]
  refine runs_mono (verify_and_handle_errors_runs env writer m (.for_kind k m) w
    (fun error failed time => room (counts_of_time on failed time))) ?_ (fun _ _ no => no.elim)
  intro outcome w₁ outcome_is
  cases verified : verify env (env.timestamp_now w.clock_readings) (core w) m k with
  | ok value =>
    rw [show verify_message_with_ctx m env.config (next_target w) (.for_kind k m)
      (env.timestamp_now w.clock_readings) = .ok value from verified] at outcome_is
    obtain ⟨rfl,kept⟩ := outcome_is
    exact ⟨.inr verified,kept⟩
  | error issue =>
    rw [show verify_message_with_ctx m env.config (next_target w) (.for_kind k m)
      (env.timestamp_now w.clock_readings) = .error issue from verified] at outcome_is
    cases issue with
    | SequenceGap e a =>
      obtain ⟨rfl,same,-⟩ := outcome_is
      obtain ⟨rfl,-⟩ := verify_gap verified
      exact gapped a w₁ same verified
    | InvalidMessage error =>
      obtain ⟨result,rfl,answered⟩ := outcome_is
      exact answered_step store accepted on verified answered

/-- Verification either passes and changes nothing, or its answer is a step. -/
theorem handle_verification_issue_runs (store : ¬ StoreSucceeds S → faults.store) (w : World S)
    (accepted : Accepted (core w) m k) (room : verified_counts env w m k = true → Fits arith (core w)) :
    Runs (handle_verification_issue env m (.for_kind k m)) w
      (Verified env faults (env.timestamp_now w.clock_readings) (core w) m k w)
      (fun _ w' => Step env faults (env.timestamp_now w.clock_readings) (core w) m (core w') false) := by
  unfold handle_verification_issue
  rw [runs_bind,runs_get]
  cases state : w.state with
  | Disconnected _ => exact ⟨.inl (by simp [phaseOf,state]),rfl,rfl,rfl⟩
  | Active active =>
    have phase : (core w).phase = .Active := by simp [phaseOf,state]
    exact verification_runs store accepted active.writer (open_gap env active.writer)
      (by simp [Core.connected,phaseOf,state]) room
      (fun _ _ same failed => open_gap_runs store _ same accepted (.inl phase) failed _)
  | AwaitingResend awaiting =>
    have phase : (core w).phase = .AwaitingResend (gapOf awaiting) := by simp [phaseOf,state]
    exact verification_runs store accepted awaiting.writer (awaiting.handle_gap env)
      (by simp [Core.connected,phaseOf,state]) room
      (fun _ _ same failed => handle_gap_runs store _ same accepted phase failed _)
  | AwaitingLogon logon =>
    have phase : (core w).phase = .AwaitingLogon := by simp [phaseOf,state]
    exact verification_runs store accepted logon.writer (open_gap env logon.writer)
      (by simp [Core.connected,phaseOf,state]) room
      (fun _ _ same failed => open_gap_runs store _ same accepted (.inr phase) failed _)
  | AwaitingLogout logout =>
    have phase : (core w).phase = .AwaitingLogout := by simp [phaseOf,state]
    exact verification_runs store accepted logout.writer (fun _ _ => return .Issue .Stay)
      (by simp [Core.connected,phaseOf,state]) room
      (fun _ _ same failed => (Step.gapIgnored accepted phase failed).to same)

end

end HotFix.Operations
