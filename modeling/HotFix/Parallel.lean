import HotFix.Primitives

/-!
Two sessions side by side, over two stores. Where the operations on the stores answer
alike, every input is handled alike: with the same result, the same state and the same
journal. The comparison ends where the first session is lost, which a store that fails
may be. It applies to a session beside itself too, and then says what all handlers but
two keep.
-/
namespace HotFix.Parallel
open HotFix.Program HotFix.Primitives MessageStore
variable {S T : Type} [MessageStore S] [MessageStore T]

/-! ### Worlds that look alike -/

/-- What a handler can read of its world. -/
structure Alike (v : World S) (w : World T) : Prop where
  state : w.state = v.state
  reset_on_next_logon : w.reset_on_next_logon = v.reset_on_next_logon
  clock_readings : w.clock_readings = v.clock_readings
  journal : w.journal = v.journal
  target : next_target w = next_target v
  sender : next_sender w = next_sender v
  created : creation_time w.store = creation_time v.store

/-- The entries that answer a query of the initiator. -/
def is_answer : Effect → Bool
  | .ScheduleAnswer _ _ => true
  | .ReconnectAnswer _ => true
  | _ => false

/-- The stores stay; the worlds change alike, and no awaiter comes and no answer goes. -/
structure Changed (v v' : World S) (w w' : World T) : Prop where
  store : v'.store = v.store
  store_beside : w'.store = w.store
  state : w'.state = v'.state
  reset_on_next_logon : w'.reset_on_next_logon = v'.reset_on_next_logon
  clock_readings : w'.clock_readings = v'.clock_readings
  journal : w'.journal = v'.journal
  awaiter : v'.state.awaiter = none ∨ v'.state = v.state
  entries : ∃ entries, v'.journal = v.journal ++ entries ∧ entries.any is_answer = false

/-- The first session is lost, and returned what it may if it returned. -/
def Lost {α : Type} (bad : World S → Prop) (V : α → Prop) :
    EStateM.Result (Abort SessionOperationError) (World S) α → Prop
  | .ok a v => V a ∧ bad v
  | .error _ v => bad v

/-- Both end in the same way, in worlds that are related. -/
inductive Ends {α : Type} (R : World S → World T → Prop) (V : α → Prop) :
    EStateM.Result (Abort SessionOperationError) (World S) α →
      EStateM.Result (Abort SessionOperationError) (World T) α → Prop where
  | returned {a : α} {v : World S} {w : World T} (fine : V a) (related : R v w) : Ends R V (.ok a v) (.ok a w)
  | stopped {e : Abort SessionOperationError} {v : World S} {w : World T} (related : R v w) :
    Ends R V (.error e v) (.error e w)

omit [MessageStore S] [MessageStore T] in
theorem Ends.ended {α : Type} {R : World S → World T → Prop} {V : α → Prop}
    {r : EStateM.Result (Abort SessionOperationError) (World S) α} {r' : EStateM.Result (Abort SessionOperationError) (World T) α}
    (ends : Ends R V r r') : Program.returned r' = Program.returned r ∧ R (final r) (final r') := by
  cases ends with
  | returned fine related => exact ⟨rfl,related⟩
  | stopped related => exact ⟨rfl,related⟩

/-- From related worlds the two end alike unless the first is lost; once lost it stays so. -/
def Par {α : Type} (bad : World S → Prop) (R : World S → World T → Prop) (V : α → Prop) (x : SessionM S α)
    (y : SessionM T α) : Prop :=
  ∀ v w, Alike v w → (bad v → Lost bad V (x v)) ∧ (R v w → Lost bad V (x v) ∨ Ends R V (x v) (y w))

def any {α : Type} (_ : α) : Prop := True

/-- A transition that brings no awaiter. -/
def plain : TransitionResult → Prop
  | .Stay => True
  | .TransitionTo state => state.awaiter = none

def plain_verification : VerificationResult → Prop
  | .Passed => True
  | .Issue result => plain result

def plain_outcome : VerificationOutcome → Prop
  | .Handled result => plain result
  | _ => True

/-- The operations that the handlers are made of. -/
structure Simulates (env : Env) (bad : World S → Prop) (R : World S → World T → Prop) : Prop where
  alike : ∀ v w, R v w → Alike v w
  full : ∀ v : World S, bad v → ∃ w : World T, Alike v w
  lasts : ∀ v v' : World S, bad v → v'.store = v.store → bad v'
  changed : ∀ v v' w w', R v w → Changed v v' w w' → R v' w'
  counted : Par bad R any increment_target increment_target
  jumped : ∀ n, Par bad R any (set_target n) (set_target n)
  restarted : Par bad R any (reset_store env) (reset_store env)
  prepared : ∀ o, Par bad R any (prepare_message env o) (prepare_message env o)
  sliced : ∀ v w, R v w → ∀ first last, get_slice first last w.store = get_slice first last v.store
  notified : Par bad R any notify_schedule_awaiter notify_schedule_awaiter

/-- The events that query the session. -/
def queries : Input → Bool
  | .Event .ShouldReconnect => true
  | .Event (.AwaitSchedule _) => true
  | _ => false

theorem par_ite {α : Type} {bad : World S → Prop} {R : World S → World T → Prop} {V : α → Prop} {c : Prop} [Decidable c]
    {x x' : SessionM S α} {y y' : SessionM T α} (yes : c → Par bad R V x y) (no : ¬ c → Par bad R V x' y') :
    Par bad R V (if c then x else x') (if c then y else y') := by
  split
  · next holds => exact yes holds
  · next fails => exact no fails

variable {env : Env} {bad : World S → Prop} {R : World S → World T → Prop} {α β : Type} {V : α → Prop} {W : β → Prop}

theorem par_bind (looks : ∀ v w, R v w → Alike v w) (full : ∀ v : World S, bad v → ∃ w : World T, Alike v w) {x : SessionM S α} {y : SessionM T α} {f : α → SessionM S β} {g : α → SessionM T β}
    (first : Par bad R V x y) (next : ∀ a, V a → Par bad R W (f a) (g a)) : Par bad R W (x >>= f) (y >>= g) := by
  intro v w alike
  obtain ⟨stays,meets⟩ := first v w alike
  -- where the first part is lost, what follows starts in a lost world
  have lost (lost : Lost bad V (x v)) : Lost bad W ((x >>= f) v) := by
    cases executed : x v with
    | ok a v' =>
      rw [executed] at lost
      obtain ⟨w',beside⟩ := full v' lost.2
      rw [bind_ok executed]
      exact (next a lost.1 v' w' beside).1 lost.2
    | error e v' =>
      rw [executed] at lost
      simp only [Bind.bind,EStateM.bind,executed]
      exact lost
  refine ⟨fun is_bad => lost (stays is_bad),fun related => ?_⟩
  rcases meets related with gone | ends
  · exact .inl (lost gone)
  · rcases beside : x v with ⟨a,v'⟩ | ⟨e,v'⟩
    · rw [beside] at ends
      rcases other : y w with ⟨b,w'⟩ | ⟨e,w'⟩
      · rw [other] at ends
        cases ends with
        | returned fine still =>
          rw [bind_ok beside,bind_ok other]
          exact (next a fine v' w' (looks _ _ still)).2 still
      · rw [other] at ends
        cases ends
    · rw [beside] at ends
      rcases other : y w with ⟨b,w'⟩ | ⟨e',w'⟩
      · rw [other] at ends
        cases ends
      · rw [other] at ends
        cases ends with
        | stopped still =>
          refine .inr ?_
          simp only [Bind.bind,EStateM.bind,beside,other]
          exact .stopped still

/-- Both change their worlds, and neither returns anything. -/
theorem par_modify {f : World S → World S} {g : World T → World T} (lasts : ∀ (v : World S) (w : World T), Alike v w → bad v → bad (f v))
    (meets : ∀ (v : World S) (w : World T), Alike v w → R v w → R (f v) (g w)) : Par bad R any (modify f) (modify g) :=
  fun v w alike => ⟨fun is_bad => ⟨trivial,lasts v w alike is_bad⟩,fun related => .inr (.returned trivial (meets v w alike related))⟩

namespace Simulates
variable (sim : Simulates env bad R)
include sim

/-! ### Composition -/

omit sim in
theorem returns {a : α} (fine : V a) : Par bad R V (pure a) (pure a) :=
  fun _ _ _ => ⟨fun is_bad => ⟨fine,is_bad⟩,fun related => .inr (.returned fine related)⟩

omit sim in
theorem throws (e : Abort SessionOperationError) : Par bad R V (throw e : SessionM S α) (throw e) :=
  fun _ _ _ => ⟨fun is_bad => is_bad,fun related => .inr (.stopped related)⟩

theorem bind {x : SessionM S α} {y : SessionM T α} {f : α → SessionM S β} {g : α → SessionM T β}
    (first : Par bad R V x y) (next : ∀ a, V a → Par bad R W (f a) (g a)) : Par bad R W (x >>= f) (y >>= g) :=
  par_bind sim.alike sim.full first next

omit sim in
/-- Both read their worlds, which look alike. -/
theorem bind_get {f : World S → SessionM S β} {g : World T → SessionM T β}
    (next : ∀ v w, Alike v w → Par bad R W (f v) (g w)) : Par bad R W (get >>= f) (get >>= g) :=
  fun v w alike => next v w alike v w alike

theorem catch_error {x : SessionM S Unit} {y : SessionM T Unit} {handler : SessionOperationError → SessionM S Unit}
    {handler' : SessionOperationError → SessionM T Unit} (first : Par bad R any x y)
    (next : ∀ e, Par bad R any (handler e) (handler' e)) :
    Par bad R any (catch_error x handler) (catch_error y handler') := by
  intro v w alike
  obtain ⟨stays,meets⟩ := first v w alike
  have lost (lost : Lost bad any (x v)) : Lost bad any (HotFix.catch_error x handler v) := by
    unfold HotFix.catch_error
    cases executed : x v with
    | ok a v' => rw [executed] at lost; exact lost
    | error e v' =>
      rw [executed] at lost
      cases e with
      | Error e =>
        obtain ⟨w',beside⟩ := sim.full v' lost
        exact (next e v' w' beside).1 lost
      | Panic text => exact lost
  refine ⟨fun is_bad => lost (stays is_bad),fun related => ?_⟩
  rcases meets related with gone | ends
  · exact .inl (lost gone)
  · unfold HotFix.catch_error
    rcases beside : x v with ⟨a,v'⟩ | ⟨e,v'⟩
    · rw [beside] at ends
      rcases other : y w with ⟨b,w'⟩ | ⟨e,w'⟩
      · rw [other] at ends
        exact .inr ends
      · rw [other] at ends
        cases ends
    · rw [beside] at ends
      rcases other : y w with ⟨b,w'⟩ | ⟨e',w'⟩
      · rw [other] at ends
        cases ends
      · rw [other] at ends
        cases ends with
        | stopped still =>
          cases e with
          | Error e => exact (next e v' w' (sim.alike _ _ still)).2 still
          | Panic text => exact .inr (.stopped still)

/-! ### What changes no store -/

theorem modifies {f : World S → World S} {g : World T → World T} (changes : ∀ v w, Alike v w → Changed v (f v) w (g w)) :
    Par bad R any (modify f) (modify g) :=
  par_modify (fun v w alike is_bad => sim.lasts _ _ is_bad (changes v w alike).store)
    (fun v w alike related => sim.changed _ _ _ _ related (changes v w alike))

theorem note {entry : Effect} (other : is_answer entry = false) : Par bad R any (note entry) (note entry) :=
  sim.modifies (fun _ _ alike => ⟨rfl,rfl,alike.state,alike.reset_on_next_logon,alike.clock_readings,
    congrArg (· ++ [entry]) alike.journal,.inr rfl,[entry],rfl,by simp [other]⟩)

theorem set_state {state : SessionState} (plain : state.awaiter = none) : Par bad R any (set_state state) (set_state state) :=
  sim.modifies (fun _ _ alike => ⟨rfl,rfl,rfl,alike.reset_on_next_logon,alike.clock_readings,alike.journal,.inl plain,[],
    (List.append_nil _).symm,rfl⟩)

theorem resets_timer (id : Option Bytes) : Par bad R any
    (modify fun w => { w with state := w.state.reset_peer_timer id } : SessionM S Unit)
    (modify fun w => { w with state := w.state.reset_peer_timer id } : SessionM T Unit) := by
  refine sim.modifies (fun v w alike => ⟨rfl,rfl,congrArg (SessionState.reset_peer_timer id) alike.state,
    alike.reset_on_next_logon,alike.clock_readings,alike.journal,?_,[],(List.append_nil _).symm,rfl⟩)
  cases state : v.state with
  | Disconnected disconnected => exact .inr rfl
  | _ => exact .inl rfl

theorem sets_reset (flag : Bool) : Par bad R any
    (modify fun w => { w with reset_on_next_logon := flag } : SessionM S Unit)
    (modify fun w => { w with reset_on_next_logon := flag } : SessionM T Unit) :=
  sim.modifies (fun _ _ alike => ⟨rfl,rfl,alike.state,rfl,alike.clock_readings,alike.journal,.inr rfl,[],
    (List.append_nil _).symm,rfl⟩)

theorem ticks : Par bad R any
    (modify fun w => { w with clock_readings := w.clock_readings + 1 } : SessionM S Unit)
    (modify fun w => { w with clock_readings := w.clock_readings + 1 } : SessionM T Unit) :=
  sim.modifies (fun _ _ alike => ⟨rfl,rfl,alike.state,alike.reset_on_next_logon,congrArg (· + 1) alike.clock_readings,
    alike.journal,.inr rfl,[],(List.append_nil _).symm,rfl⟩)

theorem utc_now : Par bad R any (utc_now env : SessionM S DateTime) (utc_now env : SessionM T DateTime) := by
  refine bind_get (fun v w alike => sim.bind sim.ticks (fun _ _ => ?_))
  rw [alike.clock_readings]
  exact returns trivial

theorem timestamp_now : Par bad R any (timestamp_now env : SessionM S Timestamp) (timestamp_now env : SessionM T Timestamp) := by
  refine bind_get (fun v w alike => sim.bind sim.ticks (fun _ _ => ?_))
  rw [alike.clock_readings]
  exact returns trivial

omit sim in
theorem store_result (r : Except StoreError Unit) : Par bad R any (store_result r : SessionM S Unit) (store_result r : SessionM T Unit) := by
  cases r with
  | ok _ => exact returns trivial
  | error e => exact throws _

omit sim in
theorem with_send_context (context : String) (r : Except InternalSendError α) :
    Par bad R any (with_send_context context r : SessionM S α) (with_send_context context r : SessionM T α) := by
  cases r with
  | ok a => exact returns trivial
  | error e => exact throws _

theorem disconnect_writer : Par bad R any (disconnect_writer : SessionM S Unit) (disconnect_writer : SessionM T Unit) := by
  refine bind_get (fun v w alike => ?_)
  rw [alike.state]
  cases v.state.get_writer with
  | none => exact returns trivial
  | some writer => exact sim.note rfl

theorem apply_transition {result : TransitionResult} (fine : plain result) :
    Par bad R any (apply_transition result : SessionM S Unit) (apply_transition result : SessionM T Unit) := by
  cases result with
  | Stay => exact returns trivial
  | TransitionTo state =>
    refine bind_get (fun v w alike => sim.bind (sim.set_state fine) (fun _ _ => ?_))
    rw [alike.state]
    exact par_ite (fun _ => sim.note rfl) (fun _ => returns trivial)

omit sim in
theorem get_msg_seq_num (m : Message) : Par bad R any (get_msg_seq_num m : SessionM S Nat) (get_msg_seq_num m : SessionM T Nat) := by
  unfold HotFix.get_msg_seq_num
  split
  · exact returns trivial
  · exact throws _

/-! ### Sending -/

theorem write_prepared (message_type : Bytes) (prepared : PreparedMessage) :
    Par bad R any (write_prepared message_type prepared : SessionM S Unit) (write_prepared message_type prepared : SessionM T Unit) := by
  refine bind_get (fun v w alike => ?_)
  rw [alike.state]
  cases v.state with
  | Active state => exact par_ite (fun _ => returns trivial) (fun _ => sim.note rfl)
  | AwaitingResend state => exact par_ite (fun _ => returns trivial) (fun _ => sim.note rfl)
  | AwaitingLogon state =>
    refine par_ite (fun _ => par_ite (fun _ => returns trivial) (fun _ => ?_))
      (fun _ => par_ite (fun _ => sim.note rfl) (fun _ => returns trivial))
    exact sim.bind (sim.note rfl) (fun _ _ => sim.set_state rfl)
  | AwaitingLogout state => exact returns trivial
  | Disconnected state => exact returns trivial

theorem send_message (o : OutboundMessage) :
    Par bad R any (send_message env o : SessionM S _) (send_message env o : SessionM T _) := by
  refine sim.bind (sim.prepared o) (fun r _ => ?_)
  cases r with
  | error e => exact returns trivial
  | ok prepared => exact sim.bind (sim.write_prepared _ prepared) (fun _ _ => returns trivial)

theorem send_message_to (writer : WriterRef) (o : OutboundMessage) :
    Par bad R any (send_message_to env writer o : SessionM S _) (send_message_to env writer o : SessionM T _) := by
  refine sim.bind (sim.prepared o) (fun r _ => ?_)
  cases r with
  | error e => exact returns trivial
  | ok prepared => exact sim.bind (sim.note rfl) (fun _ _ => returns trivial)

theorem send_and_check {x : SessionM S (Except InternalSendError Nat)} {y : SessionM T (Except InternalSendError Nat)}
    (context : String) (sends : Par bad R any x y) :
    Par bad R any (do let _ ← HotFix.with_send_context context (← x)) (do let _ ← HotFix.with_send_context context (← y)) :=
  sim.bind sends (fun r _ => sim.bind (with_send_context context r) (fun _ _ => returns trivial))

theorem send_reject (writer : WriterRef) (n : Nat) (reason : SessionRejectReason) (text : Bytes) :
    Par bad R any (send_reject (S := S) env writer n reason text) (send_reject (S := T) env writer n reason text) :=
  sim.send_message_to writer _

theorem send_logout (reason : Bytes) :
    Par bad R any (send_logout (S := S) env reason) (send_logout (S := T) env reason) :=
  sim.send_and_check "logout" (sim.send_message _)

theorem logout_and_terminate (reason : Bytes) :
    Par bad R any (logout_and_terminate (S := S) env reason) (logout_and_terminate (S := T) env reason) :=
  sim.bind (sim.send_message _) (fun _ _ => sim.disconnect_writer)

theorem logout_and_disconnect (writer : WriterRef) (text : Bytes) :
    Par bad R any (logout_and_disconnect (S := S) env writer text) (logout_and_disconnect (S := T) env writer text) :=
  sim.bind (sim.send_message_to writer _) (fun _ _ => sim.note rfl)

theorem request_resend (writer : WriterRef) (expected actual : Nat) :
    Par bad R any (request_resend (S := S) env writer expected actual) (request_resend (S := T) env writer expected actual) :=
  sim.send_and_check "resend request" (sim.send_message_to writer _)

/-! ### Answers to messages that fail verification -/

theorem counts : Par bad R any (do HotFix.store_result (← increment_target) : SessionM S Unit)
    (do HotFix.store_result (← increment_target) : SessionM T Unit) :=
  sim.bind sim.counted (fun r _ => store_result r)

theorem reject_and_count (writer : WriterRef) (n : Nat) (reason : SessionRejectReason) (text : Bytes) :
    Par bad R any (reject_and_count (S := S) env writer n reason text) (reject_and_count (S := T) env writer n reason text) :=
  sim.bind (sim.send_reject writer n reason text) (fun _ _ => sim.bind sim.counted (fun _ _ => returns trivial))

theorem handle_verification_error (writer : WriterRef) (error : MessageError) :
    Par bad R plain (handle_verification_error (S := S) env writer error)
      (handle_verification_error (S := T) env writer error) := by
  have rejected (n : Nat) (reason : SessionRejectReason) (text : Bytes) : Par bad R plain (do
      HotFix.reject_and_count (S := S) env writer n reason text
      return TransitionResult.Stay) (do
      HotFix.reject_and_count (S := T) env writer n reason text
      return TransitionResult.Stay) :=
    sim.bind (sim.reject_and_count writer n reason text) (fun _ _ => returns trivial)
  cases error with
  | SeqNumberTooLow expected actual duplicate =>
    refine par_ite (fun _ => returns trivial) (fun _ => ?_)
    exact sim.bind (sim.logout_and_disconnect writer _) (fun _ _ => returns rfl)
  | IncorrectBeginString received => exact sim.bind (sim.logout_and_disconnect writer _) (fun _ _ => returns rfl)
  | IncorrectCompId received kind n =>
    refine sim.bind (sim.send_reject writer n _ _) (fun _ _ => ?_)
    exact sim.bind (sim.logout_and_disconnect writer _) (fun _ _ => returns rfl)
  | SendingTimeAccuracyIssue n => exact rejected n _ _
  | SendingTimeMissing n => exact rejected n _ _
  | OriginalSendingTimeMissing n => exact rejected n _ _
  | OriginalSendingTimeAfterSendingTime n _ _ => exact rejected n _ _

theorem verify_and_handle_errors (writer : WriterRef) (m : Message) (flags : VerificationFlags) :
    Par bad R plain_outcome (verify_and_handle_errors (S := S) env writer m flags)
      (verify_and_handle_errors (S := T) env writer m flags) := by
  refine bind_get (fun v w alike => sim.bind sim.timestamp_now (fun now _ => ?_))
  rw [alike.target]
  split
  · exact returns trivial
  · exact returns trivial
  · exact sim.bind (sim.handle_verification_error writer _) (fun _ fine => returns fine)

theorem open_gap (writer : WriterRef) (expected actual : Nat) :
    Par bad R plain_verification (open_gap (S := S) env writer expected actual) (open_gap (S := T) env writer expected actual) :=
  sim.bind (sim.request_resend writer expected actual) (fun _ _ => returns rfl)

theorem handle_gap (state : AwaitingResendState) (expected actual : Nat) :
    Par bad R plain_verification (state.handle_gap (S := S) env expected actual) (state.handle_gap (S := T) env expected actual) := by
  unfold AwaitingResendState.handle_gap
  split
  · exact sim.bind (sim.set_state rfl) (fun _ _ => sim.bind (sim.request_resend _ expected actual) (fun _ _ => returns trivial))
  · exact sim.bind (sim.note rfl) (fun _ _ => returns rfl)
  · exact sim.bind (sim.note rfl) (fun _ _ => returns rfl)

theorem handle_verification_issue (m : Message) (flags : VerificationFlags) :
    Par bad R plain_verification (handle_verification_issue (S := S) env m flags)
      (handle_verification_issue (S := T) env m flags) := by
  have verified (writer : WriterRef) {next : _ → SessionM S VerificationResult} {next' : _ → SessionM T VerificationResult}
      (passed : Par bad R plain_verification (next .Ok) (next' .Ok))
      (handled : ∀ result, plain result → Par bad R plain_verification (next (.Handled result)) (next' (.Handled result)))
      (gap : ∀ expected actual, Par bad R plain_verification (next (.SequenceGap expected actual))
        (next' (.SequenceGap expected actual))) :
      Par bad R plain_verification (HotFix.verify_and_handle_errors env writer m flags >>= next)
        (HotFix.verify_and_handle_errors env writer m flags >>= next') := by
    refine sim.bind (sim.verify_and_handle_errors writer m flags) (fun outcome fine => ?_)
    cases outcome with
    | Ok => exact passed
    | Handled result => exact handled result fine
    | SequenceGap expected actual => exact gap expected actual
  refine bind_get (fun v w alike => ?_)
  rw [alike.state]
  cases v.state with
  | Disconnected state => exact returns trivial
  | Active state => exact verified state.writer (returns trivial) (fun _ fine => returns fine) (sim.open_gap state.writer)
  | AwaitingResend state => exact verified state.writer (returns trivial) (fun _ fine => returns fine) (sim.handle_gap state)
  | AwaitingLogon state => exact verified state.writer (returns trivial) (fun _ fine => returns fine) (sim.open_gap state.writer)
  | AwaitingLogout state =>
    exact verified state.writer (returns trivial) (fun _ fine => returns fine) (fun _ _ => returns trivial)

/-! ### Resending -/

theorem send_sequence_reset (writer : WriterRef) (first last : Nat) :
    Par bad R any (send_sequence_reset env writer first last : SessionM S Unit)
      (send_sequence_reset env writer first last : SessionM T Unit) := by
  refine sim.bind sim.timestamp_now (fun now _ => ?_)
  split
  · exact throws _
  · exact sim.note rfl

theorem flush_reset (writer : WriterRef) (last : Nat) (start : Option Nat) :
    Par bad R any (flush_reset env writer last start : SessionM S Unit) (flush_reset env writer last start : SessionM T Unit) := by
  cases start with
  | none => exact returns trivial
  | some first => exact sim.send_sequence_reset writer first last

theorem resend_loop (writer : WriterRef) (messages : List Bytes) : ∀ (start : Option Nat) (n : Nat),
    Par bad R any (resend_loop env writer messages start n : SessionM S Unit)
      (resend_loop env writer messages start n : SessionM T Unit) := by
  induction messages with
  | nil => exact fun start n => sim.flush_reset writer n start
  | cons raw rest ih =>
    intro start n
    unfold HotFix.resend_loop
    split
    · exact throws _
    · next message _ =>
      refine sim.bind (get_msg_seq_num message) (fun number _ => ?_)
      split
      · exact throws _
      · refine par_ite (fun _ => ih _ _) (fun _ => ?_)
        refine sim.bind (sim.flush_reset writer number start) (fun _ _ => sim.bind sim.timestamp_now (fun now _ => ?_))
        exact sim.bind (sim.note rfl) (fun _ _ => ih _ _)

theorem reads_slice (first last : Nat) :
    Par bad R any (do slice_result (get_slice first last (← get).store) : SessionM S (List Bytes))
      (do slice_result (get_slice first last (← get).store) : SessionM T (List Bytes)) := by
  have sliced (r : Except (Abort StoreError) (List Bytes)) :
      Par bad R any (slice_result r : SessionM S (List Bytes)) (slice_result r : SessionM T (List Bytes)) := by
    rcases r with (_ | _) | _
    · exact throws _
    · exact throws _
    · exact returns trivial
  intro v w alike
  refine ⟨(sliced (get_slice first last v.store) v w alike).1,fun related => ?_⟩
  have both := (sliced (get_slice first last v.store) v w alike).2 related
  rw [get_bind,get_bind,sim.sliced v w related]
  exact both

theorem resend_messages (writer : WriterRef) (first last : Nat) :
    Par bad R any (resend_messages env writer first last : SessionM S Unit)
      (resend_messages env writer first last : SessionM T Unit) :=
  sim.bind (sim.reads_slice first last) (fun messages _ => sim.resend_loop writer messages none 0)

/-! ### Handlers -/

theorem handle_invalid_msg_type (writer : WriterRef) (m : Message) (msg_type : Bytes) :
    Par bad R any (handle_invalid_msg_type (S := S) env writer m msg_type)
      (handle_invalid_msg_type (S := T) env writer m msg_type) := by
  unfold HotFix.handle_invalid_msg_type
  split
  · exact returns trivial
  · refine sim.bind (sim.send_reject writer _ _ _) (fun _ _ => bind_get (fun v w alike => ?_))
    rw [alike.target]
    exact par_ite (fun _ => sim.bind sim.counted (fun _ _ => returns trivial)) (fun _ => returns trivial)

theorem answer_test_request (writer : WriterRef) (m : Message) :
    Par bad R any (answer_test_request (S := S) env writer m) (answer_test_request (S := T) env writer m) := by
  unfold HotFix.answer_test_request
  split
  · exact throws _
  · refine sim.bind sim.counted (fun r _ => sim.bind (store_result r) (fun _ _ => ?_))
    exact sim.send_and_check "heartbeat response" (sim.send_message_to writer _)

theorem take_sequence_reset (writer : WriterRef) (m : Message) :
    Par bad R any (take_sequence_reset (S := S) env writer m) (take_sequence_reset (S := T) env writer m) := by
  refine sim.bind (get_msg_seq_num m) (fun n _ => ?_)
  split
  · exact sim.send_and_check _ (sim.send_reject writer _ _ _)
  · refine bind_get (fun v w alike => ?_)
    rw [alike.target]
    refine par_ite (fun _ => ?_) (fun _ => ?_)
    · exact sim.send_and_check _ (sim.send_reject writer _ _ _)
    · exact sim.bind (sim.jumped _) (fun r _ => store_result r)

theorem answer_resend_request (writer : WriterRef) (m : Message) :
    Par bad R any (answer_resend_request (S := S) env writer m) (answer_resend_request (S := T) env writer m) := by
  refine sim.bind (get_msg_seq_num m) (fun n _ => bind_get (fun v w alike => ?_))
  rw [alike.target]
  split
  · exact sim.send_and_check _ (sim.send_reject writer _ _ _)
  · split
    · exact sim.send_and_check _ (sim.send_reject writer _ _ _)
    · refine bind_get (fun v w alike => ?_)
      rw [alike.sender]
      dsimp only
      split
      · exact sim.bind sim.counted (fun r _ => sim.bind (store_result r) (fun _ _ => sim.resend_messages writer _ _))
      · exact sim.resend_messages writer _ _

theorem on_heartbeat (m : Message) : Par bad R any (on_heartbeat (S := S) m) (on_heartbeat (S := T) m) := by
  refine bind_get (fun v w alike => ?_)
  rw [alike.state]
  dsimp only
  split
  · exact sim.bind (sim.resets_timer none) (fun _ _ => sim.counts)
  · exact sim.counts

omit sim [MessageStore S] in
theorem plain_peer_logout (state : SessionState) : plain state.on_peer_logout := by
  cases state <;> trivial

omit sim [MessageStore S] in
theorem plain_disconnect (reason : Bytes) (state : SessionState) : plain (state.on_disconnect reason) := by
  cases state <;> trivial

theorem on_logout : Par bad R any (on_logout (S := S) env) (on_logout (S := T) env) := by
  have told : Par bad R any (do
      HotFix.note (.OnLogout (ascii "peer has logged us out"))
      HotFix.disconnect_writer
      HotFix.apply_transition (← get).state.on_peer_logout
      HotFix.store_result (← increment_target) : SessionM S Unit) (do
      HotFix.note (.OnLogout (ascii "peer has logged us out"))
      HotFix.disconnect_writer
      HotFix.apply_transition (← get).state.on_peer_logout
      HotFix.store_result (← increment_target) : SessionM T Unit) := by
    refine sim.bind (sim.note rfl) (fun _ _ => sim.bind sim.disconnect_writer (fun _ _ => bind_get (fun v w alike => ?_)))
    rw [alike.state]
    exact sim.bind (sim.apply_transition (plain_peer_logout _)) (fun _ _ => sim.counts)
  refine bind_get (fun v w alike => ?_)
  rw [alike.state]
  split
  · exact sim.bind (sim.send_logout _) (fun _ _ => told)
  · exact told

theorem on_logon : Par bad R any (on_logon (S := S)) (on_logon (S := T)) := by
  refine bind_get (fun v w alike => ?_)
  rw [alike.state]
  split
  · refine sim.bind (sim.note rfl) (fun _ _ => sim.bind sim.counted (fun r _ => ?_))
    exact sim.bind (store_result r) (fun _ _ => sim.apply_transition rfl)
  · exact returns trivial

theorem send_reject_for (m : Message) (reason : SessionRejectReason) (text : Bytes) (context : String) :
    Par bad R any (send_reject_for (S := S) env m reason text context) (send_reject_for (S := T) env m reason text context) := by
  unfold HotFix.send_reject_for
  split
  · exact returns trivial
  · exact sim.send_and_check context (sim.send_message _)

theorem on_invalid (m : Message) (reason : InvalidReason) :
    Par bad R any (on_invalid (S := S) env m reason) (on_invalid (S := T) env m reason) := by
  cases reason with
  | InvalidField tag => exact sim.send_reject_for m _ _ _
  | InvalidGroup tag => exact sim.send_reject_for m _ _ _
  | InvalidComponent name => exact returns trivial
  | InvalidMsgType msg_type =>
    refine bind_get (fun v w alike => ?_)
    rw [alike.state]
    split
    · exact sim.handle_invalid_msg_type _ m msg_type
    · exact returns trivial
  | InvalidOrderInGroup tag group_tag => exact sim.send_reject_for m _ _ _
  | RequiredFieldMissing tag group_tag => exact sim.send_reject_for m _ _ _

theorem pre_process_inbound (m : Message) :
    Par bad R any (pre_process_inbound (S := S) m) (pre_process_inbound (S := T) m) := by
  refine bind_get (fun v w alike => ?_)
  rw [alike.state]
  split
  · refine sim.bind (get_msg_seq_num m) (fun n _ => par_ite (fun _ => ?_) (fun _ => returns trivial))
    exact sim.bind (sim.set_state rfl) (fun _ _ => returns trivial)
  · exact par_ite (fun _ => returns trivial) (fun _ => returns trivial)
  · exact returns trivial

theorem process_app_message (m : Message) :
    Par bad R any (process_app_message (S := S) env m) (process_app_message (S := T) env m) := by
  refine bind_get (fun v w alike => ?_)
  rw [alike.journal]
  refine sim.bind (sim.note rfl) (fun _ _ => ?_)
  cases env.application.on_inbound_message v.journal m with
  | Accept => exact sim.counts
  | Reject reason text =>
    dsimp only
    split
    · exact throws _
    · refine sim.bind (get_msg_seq_num m) (fun n _ => sim.bind (sim.send_message _) (fun r _ => ?_))
      exact sim.bind (with_send_context _ r) (fun _ _ => sim.counts)
  | TerminateSession => exact sim.bind sim.disconnect_writer (fun _ _ => sim.counts)

theorem on_resend_request (m : Message) :
    Par bad R any (on_resend_request (S := S) env m) (on_resend_request (S := T) env m) := by
  refine bind_get (fun v w alike => ?_)
  rw [alike.state,alike.target]
  refine par_ite (fun _ => sim.bind (get_msg_seq_num m) (fun n _ => ?_)) (fun _ => returns trivial)
  dsimp only
  cases v.state with
  | AwaitingResend awaiting =>
    have answered := sim.answer_resend_request awaiting.writer m
    exact par_ite (fun _ => sim.bind (sim.set_state rfl) (fun _ _ => answered)) (fun _ => answered)
  | AwaitingLogon logon => exact sim.answer_resend_request logon.writer m
  | AwaitingLogout logout => exact sim.answer_resend_request logout.writer m
  | Active active => exact sim.answer_resend_request active.writer m
  | Disconnected _ => exact returns trivial

theorem dispatch (kind : MsgKind) (m : Message) :
    Par bad R any (dispatch (S := S) env kind m) (dispatch (S := T) env kind m) := by
  cases kind with
  | Heartbeat => exact sim.on_heartbeat m
  | TestRequest =>
    refine bind_get (fun v w alike => ?_)
    rw [alike.state]
    split
    · exact sim.answer_test_request _ m
    · exact returns trivial
  | ResendRequest => exact sim.on_resend_request m
  | Reject => exact sim.counts
  | SequenceReset =>
    refine bind_get (fun v w alike => ?_)
    rw [alike.state]
    split
    · exact sim.take_sequence_reset _ m
    · exact returns trivial
  | Logout => exact sim.on_logout
  | Logon => exact sim.on_logon
  | Application => exact sim.process_app_message m

theorem process_message (m : Message) :
    Par bad R any (process_message (S := S) env m) (process_message (S := T) env m) := by
  refine sim.bind (sim.pre_process_inbound m) (fun decision _ => ?_)
  cases decision with
  | Queued => exact returns trivial
  | Disconnect => exact sim.disconnect_writer
  | Accept m =>
    dsimp only
    split
    · refine sim.bind (sim.handle_verification_issue m _) (fun verified fine => ?_)
      cases verified with
      | Issue result => exact sim.apply_transition fine
      | Passed => exact sim.dispatch _ m
    · exact throws _

theorem replay (backlog : List Message) : Par bad R any (replay (S := S) env backlog) (replay (S := T) env backlog) := by
  induction backlog with
  | nil => exact returns trivial
  | cons m rest ih => exact sim.bind (par_ite (fun _ => sim.counts) (fun _ => sim.process_message m)) (fun _ _ => ih)

theorem check_end_of_resend : Par bad R any (check_end_of_resend (S := S) env) (check_end_of_resend (S := T) env) := by
  refine bind_get (fun v w alike => ?_)
  rw [alike.state,alike.target]
  split
  · next state _ =>
    unfold try_complete
    split_ifs
    · exact sim.bind (sim.apply_transition rfl) (fun _ _ => sim.replay _)
    · exact returns trivial
  · exact returns trivial

/-! ### Events -/

theorem on_incoming (raw : Bytes) : Par bad R any (on_incoming (S := S) env raw) (on_incoming (S := T) env raw) := by
  refine bind_get (fun v w alike => ?_)
  rw [alike.state]
  dsimp only
  have timed {next : SessionM S Unit} {next' : SessionM T Unit} (built : Par bad R any next next') :
      Par bad R any (if ¬ v.state.is_expecting_test_response = true then
          (do modify (fun w => { w with state := w.state.reset_peer_timer none }); next) else next)
        (if ¬ v.state.is_expecting_test_response = true then
          (do modify (fun w => { w with state := w.state.reset_peer_timer none }); next') else next') :=
    par_ite (fun _ => sim.bind (sim.resets_timer none) (fun _ _ => built)) (fun _ => built)
  cases env.build raw with
  | Valid message =>
    refine timed ?_
    exact sim.bind (sim.note rfl) (fun _ _ => sim.bind (sim.process_message _) (fun _ _ => sim.check_end_of_resend))
  | Garbled _ =>
    refine timed ?_
    exact returns trivial
  | Invalid message reason =>
    refine timed ?_
    exact sim.on_invalid _ _
  | UnexpectedError _ =>
    refine timed ?_
    exact returns trivial

theorem send_logon : Par bad R any (send_logon (S := S) env) (send_logon (S := T) env) := by
  have sends (reset_config : ResetSeqNumConfig) : Par bad R any (do
      modify (fun w => { w with reset_on_next_logon := false })
      let sent ← HotFix.send_message env (Logon.new env.config.heartbeat_interval reset_config).outbound
      let _ ← HotFix.with_send_context "logon" sent : SessionM S Unit) (do
      modify (fun w => { w with reset_on_next_logon := false })
      let sent ← HotFix.send_message env (Logon.new env.config.heartbeat_interval reset_config).outbound
      let _ ← HotFix.with_send_context "logon" sent : SessionM T Unit) :=
    sim.bind (sim.sets_reset false) (fun _ _ => sim.send_and_check "logon" (sim.send_message _))
  refine bind_get (fun v w alike => ?_)
  rw [alike.reset_on_next_logon,alike.target]
  split
  · exact sim.bind sim.restarted (fun r _ => sim.bind (store_result r) (fun _ _ => sends _))
  · exact sends _

theorem on_connect (writer : WriterRef) : Par bad R any (on_connect (S := S) env writer) (on_connect (S := T) env writer) :=
  sim.bind (sim.note rfl) (fun _ _ => sim.bind (sim.apply_transition rfl) (fun _ _ =>
    sim.bind (sim.resets_timer none) (fun _ _ => sim.send_logon)))

theorem on_disconnect (reason : Bytes) : Par bad R any (on_disconnect (S := S) reason) (on_disconnect (S := T) reason) := by
  refine sim.bind sim.disconnect_writer (fun _ _ => bind_get (fun v w alike => ?_))
  rw [alike.state]
  exact sim.apply_transition (plain_disconnect reason _)

theorem log_out_gracefully (reason : Bytes) (reconnect : Bool) :
    Par bad R any (log_out_gracefully (S := S) env reason reconnect) (log_out_gracefully (S := T) env reason reconnect) := by
  refine sim.catch_error ?_ (fun _ => returns trivial)
  have leaves (state : SessionState) : plain (state.try_transition_to_awaiting_logout reconnect) := by
    cases state <;> trivial
  refine sim.bind (V := plain) (bind_get (fun v w alike => ?_)) (fun result fine => sim.apply_transition fine)
  rw [alike.state]
  have fine := leaves v.state
  cases result : v.state.try_transition_to_awaiting_logout reconnect with
  | TransitionTo state =>
    rw [result] at fine
    exact sim.bind (sim.send_logout reason) (fun _ _ => returns fine)
  | Stay => exact returns trivial

theorem restart_period (reason : Bytes) :
    Par bad R any (restart_period (S := S) env reason) (restart_period (S := T) env reason) := by
  refine sim.bind (sim.logout_and_terminate reason) (fun _ _ => sim.bind sim.restarted (fun r _ => ?_))
  cases r with
  | ok _ => exact returns trivial
  | error _ => exact sim.apply_transition rfl

theorem handle_schedule_check :
    Par bad R any (handle_schedule_check (S := S) env) (handle_schedule_check (S := T) env) := by
  refine sim.bind sim.utc_now (fun now _ => par_ite (fun _ => ?_) (fun _ => ?_))
  · refine sim.bind sim.notified (fun _ _ => bind_get (fun v w alike => ?_))
    rw [alike.created]
    split
    · exact returns trivial
    · exact sim.restart_period _
    · exact sim.restart_period _
    · exact sim.logout_and_terminate _
  · refine bind_get (fun v w alike => ?_)
    rw [alike.state]
    exact par_ite (fun _ => sim.log_out_gracefully _ _) (fun _ => returns trivial)

/-! ### Other inputs -/

theorem send_app_message (o : OutboundMessage) :
    Par bad R any (send_app_message (S := S) env o) (send_app_message (S := T) env o) := by
  refine bind_get (fun v w alike => ?_)
  rw [alike.state,alike.journal]
  refine par_ite (fun _ => sim.bind (sim.note rfl) (fun _ _ => ?_)) (fun _ => returns trivial)
  cases env.application.on_outbound_message v.journal o with
  | Send =>
    refine sim.bind (sim.send_message o) (fun r _ => ?_)
    cases r with
    | ok n => exact returns trivial
    | error e => exact returns trivial
  | Drop => exact returns trivial
  | TerminateSession => exact sim.bind sim.disconnect_writer (fun _ _ => returns trivial)

theorem handle_admin_request (request : AdminRequest) :
    Par bad R any (handle_admin_request (S := S) env request) (handle_admin_request (S := T) env request) := by
  cases request with
  | InitiateGracefulShutdown reconnect => exact sim.log_out_gracefully _ reconnect
  | RequestSessionInfo =>
    refine bind_get (fun v w alike => ?_)
    rw [alike.state,alike.target,alike.sender]
    exact sim.note rfl
  | ResetSequenceNumbersOnNextLogon => exact sim.sets_reset true
  | SetNextTargetSeqNum seq_num nonzero =>
    refine bind_get (fun v w alike => ?_)
    rw [alike.state]
    split
    · exact sim.bind (sim.jumped _) (fun _ _ => returns trivial)
    · exact returns trivial

theorem handle_peer_timeout : Par bad R any (handle_peer_timeout (S := S) env) (handle_peer_timeout (S := T) env) := by
  refine bind_get (fun v w alike => ?_)
  rw [alike.state,alike.target]
  refine par_ite (fun _ => sim.logout_and_terminate _) (fun _ => par_ite (fun _ => sim.disconnect_writer)
    (fun _ => par_ite (fun _ => sim.disconnect_writer) (fun _ => ?_)))
  exact sim.bind (sim.send_message _) (fun _ _ => sim.resets_timer _)

theorem handle_input {input : Input} (other : queries input = false) :
    Par bad R any (handle_input (S := S) env input) (handle_input (S := T) env input) := by
  cases input with
  | Event event =>
    refine sim.bind sim.handle_schedule_check (fun _ _ => ?_)
    cases event with
    | FixMessageReceived raw =>
      exact sim.catch_error (sim.on_incoming raw)
        (fun _ => sim.bind (sim.logout_and_terminate _) (fun _ _ => sim.apply_transition rfl))
    | Disconnected reason => exact sim.on_disconnect reason
    | Connected writer => exact sim.catch_error (sim.on_connect writer) (fun _ => returns trivial)
    | ShouldReconnect => cases other
    | AwaitSchedule responder => cases other
  | Outbound o => exact sim.bind (sim.send_app_message o) (fun _ _ => returns trivial)
  | Admin request => exact sim.handle_admin_request request
  | HeartbeatTimeout => exact sim.bind (sim.send_message _) (fun _ _ => returns trivial)
  | PeerTimeout => exact sim.handle_peer_timeout
  | ScheduleCheck => exact sim.handle_schedule_check

end Simulates
end HotFix.Parallel
