import HotFix.Loop
import HotFix.Outcomes
import Mathlib.Data.List.Forall2

/-!
The recovery from a gap. The answer of the peer fills the gap in order, while live
messages beyond it keep arriving: however the two streams interleave, the session
takes up every number once and in order, and is active again behind the last one,
as long as there is a number behind it.
-/
namespace HotFix.Recovery
open HotFix.Program HotFix.Protocol HotFix.Operations HotFix.Refinement HotFix.Outcomes HotFix.Loop
open HotFix.Sample (valid logon report gap_fill message now connect receive wrapped read build_first build_skip)
variable {S : Type} [MessageStore S]

/-! ### The two streams -/

/-- Two streams merged into one, each in its order. -/
inductive Interleaves {α : Type} : List α → List α → List α → Prop where
  | nil : Interleaves [] [] []
  | left {x : α} {xs ys zs : List α} (rest : Interleaves xs ys zs) : Interleaves (x :: xs) ys (x :: zs)
  | right {y : α} {xs ys zs : List α} (rest : Interleaves xs ys zs) : Interleaves xs (y :: ys) (y :: zs)

/-- The answer to a request up to `last`, from a number on: duplicates of application
    messages and gap fills that cover exactly the other numbers. -/
inductive Answers (last : Nat) : Nat → List Message → Prop where
  | done : Answers last (last + 1) []
  | copy {n : Nat} {m : Message} {rest : List Message} (kind : m.kind = some .Application)
      (duplicate : m.poss_dup = true) (number : m.msg_seq_num = some n) (within : n ≤ last)
      (later : Answers last (n + 1) rest) : Answers last n (m :: rest)
  | fill {n target : Nat} {m : Message} {rest : List Message} (kind : m.kind = some .SequenceReset)
      (flag : m.body.get_bool GAP_FILL_FLAG = some true) (number : m.msg_seq_num = some n)
      (new_seq_no : m.body.get_u64 NEW_SEQ_NO = some target) (forwards : n < target) (within : target ≤ last + 1)
      (later : Answers last target rest) : Answers last n (m :: rest)

theorem Answers.within {last n : Nat} {answer : List Message} (answers : Answers last n answer) : n ≤ last + 1 := by
  cases answers with
  | done => exact Nat.le_refl _
  | copy kind duplicate number within later => omega
  | fill kind flag number new_seq_no forwards within later => omega

theorem Answers.finished {last n : Nat} {answer : List Message} (answers : Answers last n answer) (past : last < n) :
    answer = [] := by
  cases answers with
  | done => rfl
  | copy kind duplicate number within later => omega
  | fill kind flag number new_seq_no forwards within later => omega

/-- The next message of an answer has the next number, and is delivered or moves on. -/
theorem Answers.next {last n : Nat} {m : Message} {rest : List Message} (answers : Answers last n (m :: rest)) :
    m.msg_seq_num = some n ∧ n ≤ last ∧
      (m.kind = some .Application ∧ Answers last (n + 1) rest ∨
        ∃ target, m.kind = some .SequenceReset ∧ m.body.get_u64 NEW_SEQ_NO = some target ∧ n < target ∧
          Answers last target rest) := by
  cases answers with
  | copy kind duplicate number within later => exact ⟨number,within,.inl ⟨kind,later⟩⟩
  | fill kind flag number new_seq_no forwards within later =>
    exact ⟨number,by omega,.inr ⟨_,kind,new_seq_no,forwards,later⟩⟩

/-- The types of live messages, each with the fields that its handler needs. -/
def live_kind (m : Message) : MsgKind → Bool
  | .Application => true
  | .Heartbeat => true
  | .TestRequest => (m.body.get_str TEST_REQ_ID).isSome
  | .Reject => true
  | .ResendRequest => WellFormedRequest m
  | _ => false

def Live (m : Message) : Prop := ∃ k, m.kind = some k ∧ live_kind m k = true

/-! ### The core during the recovery -/

def applications (messages : List Message) : List Message := messages.filter (fun m => m.kind = some .Application)

/-- The messages handed to the application. -/
def delivered (log : List Note) : List Message :=
  log.filterMap (fun entry =>
    match entry with
    | .Delivered m => some m
    | _ => none)

@[simp] theorem delivered_append (log log' : List Note) : delivered (log ++ log') = delivered log ++ delivered log' :=
  List.filterMap_append

@[simp] theorem delivered_goto (c : Core) (phase : Phase) : delivered (c.goto phase).log = delivered c.log := rfl
@[simp] theorem delivered_count (c : Core) : delivered c.count.log = delivered c.log := by simp [Core.count,delivered]
@[simp] theorem delivered_jump (c : Core) (n : Nat) : delivered (c.jump n).log = delivered c.log := by
  simp [Core.jump,delivered]
@[simp] theorem delivered_deliver (c : Core) (m : Message) : delivered (c.add (.Delivered m)).log = delivered c.log ++ [m] := by
  simp [Core.add,delivered]

@[simp] theorem applications_append (messages messages' : List Message) :
    applications (messages ++ messages') = applications messages ++ applications messages' :=
  List.filter_append messages messages'

theorem applications_cons (m : Message) (rest : List Message) :
    applications (m :: rest) = (if m.kind = some .Application then [m] else []) ++ applications rest := by
  unfold applications
  split_ifs with application
  · simp [application]
  · simp [application]

/-- The gap is behind: the live messages that are left follow in sequence. -/
structure Resumed (total : List Message) (last : Nat) (live : List Message) (c : Core) : Prop where
  phase : c.phase = .Active
  numbered : Numbered c.next live
  kinds : ∀ m ∈ live, Live m
  ends : c.next + live.length = last + 1
  deliveries : delivered c.log ++ applications live = total

/-- The gap is awaited: the rest of the answer is to come, and the live messages that
    came early wait in order. -/
structure Awaiting (total : List Message) (a last : Nat) (answer live : List Message) (gap : Gap) (c : Core) : Prop where
  phase : c.phase = .AwaitingResend gap
  gap_last : gap.last = a
  answers : Answers a c.next answer
  numbered : Numbered (a + 1) (gap.queue ++ live)
  kinds : ∀ m ∈ gap.queue ++ live, Live m
  ends : a + (gap.queue ++ live).length = last
  deliveries : delivered c.log ++ applications answer ++ applications (gap.queue ++ live) = total

section
variable {env : Env} {faults : Faults} {now : Timestamp} {c c' : Core} {m : Message} {returns : Bool}
  {total answer live : List Message} {a last : Nat} {gap : Gap}

theorem numbered_append {messages messages' : List Message} : ∀ {first : Nat}, Numbered first (messages ++ messages') →
    Numbered (first + messages.length) messages' := by
  induction messages with
  | nil => exact fun numbered => numbered
  | cons m rest ih =>
    intro first numbered
    have later := ih numbered.2
    rwa [show first + 1 + rest.length = first + (m :: rest).length by simp only [List.length_cons]; omega] at later

theorem resumed_received (resumed : Resumed total last live c) : Resumed total last live (c.add (.Received m)) :=
  ⟨resumed.phase,resumed.numbered,resumed.kinds,resumed.ends,by simpa [Core.add,delivered] using resumed.deliveries⟩

theorem awaiting_received (awaiting : Awaiting total a last answer live gap c) :
    Awaiting total a last answer live gap (c.add (.Received m)) :=
  ⟨awaiting.phase,awaiting.gap_last,awaiting.answers,awaiting.numbered,awaiting.kinds,awaiting.ends,
    by simpa [Core.add,delivered] using awaiting.deliveries⟩

/-- With the answer complete, the session resumes with what waits. -/
theorem Awaiting.resumes (awaiting : Awaiting total a last answer live gap c) (past : a < c.next) :
    answer = [] ∧ Resumed total last (gap.queue ++ live) (c.goto .Active) := by
  have empty := awaiting.answers.finished past
  have next : c.next = a + 1 := Nat.le_antisymm awaiting.answers.within past
  subst empty
  refine ⟨rfl,rfl,?_,awaiting.kinds,?_,by simpa [applications] using awaiting.deliveries⟩
  · change Numbered c.next _
    rw [next]
    exact awaiting.numbered
  · change c.next + _ = _
    rw [next,← awaiting.ends]
    omega

/-! ### One message -/

theorem returns_of_live {k : MsgKind} {n : Nat} (sound : ¬ faults.store)
    (answered : m.kind = some .ResendRequest → ¬ faults.resend) (kind : m.kind = some k) (fine : live_kind m k = true)
    (number : m.msg_seq_num = some n) (step : Step env faults now c m c' returns) : returns = true := by
  cases returns with
  | true => rfl
  | false =>
    obtain ⟨rfl,missing⟩ | ⟨rfl,-,fault⟩ := step_stops sound kind number step
    · simp [live_kind,missing] at fine
    · exact absurd fault (answered kind)

/-- What a live message in sequence leaves. -/
theorem outcome_live {k : MsgKind} (fine : live_kind m k = true) :
    outcome c m c.next k = if k = .Application then (c.add (.Delivered m)).count else c.count := by
  cases k with
  | ResendRequest =>
    have wellFormed : WellFormedRequest m := by simpa [live_kind] using fine
    simp [outcome,wellFormed]
  | SequenceReset => cases fine
  | Logout => cases fine
  | Logon => cases fine
  | _ => rfl

theorem Resumed.counts {k : MsgKind} (resumed : Resumed total last (m :: live) c) (kind : m.kind = some k) :
    Resumed total last live (if k = .Application then (c.add (.Delivered m)).count else c.count) := by
  have later : ∀ m' ∈ live, Live m' := fun m' member => resumed.kinds m' (by simp [member])
  have ends : c.next + 1 + live.length = last + 1 := by
    rw [← resumed.ends,List.length_cons]
    omega
  have deliveries := resumed.deliveries
  rw [applications_cons,kind] at deliveries
  split_ifs with application
  · refine ⟨resumed.phase,resumed.numbered.2,later,ends,?_⟩
    simpa [application] using deliveries
  · refine ⟨resumed.phase,resumed.numbered.2,later,ends,?_⟩
    simpa [application] using deliveries

theorem active_connected (active : c.phase = .Active) : c.connected := by simp [Core.connected,active]

theorem active_taken (active : c.phase = .Active) (k : MsgKind) : ¬ SetAside c m k := by simp [SetAside,active]

theorem request_taken (awaiting : c.phase = .AwaitingResend gap) : ¬ SetAside c m .ResendRequest := by
  simp [SetAside,awaiting]

/-- A live message in sequence. -/
theorem resumed_step (sound : ¬ faults.store) (answered : m.kind = some .ResendRequest → ¬ faults.resend)
    (checked : ∀ k, m.kind = some k → check_identity_and_times m env.config (.for_kind k m) now = .ok ())
    (resumed : Resumed total last (m :: live) c) (step : Step env faults now c m c' returns) :
    returns = true ∧ Resumed total last live c' := by
  obtain ⟨k,kind,fine⟩ := resumed.kinds m (by simp)
  have number := resumed.numbered.1
  have verified : verify env now c m k = .ok () :=
    verify_ok (checked k kind) number (fun _ => Nat.le_refl _) (fun _ => Nat.le_refl _)
  have done := returns_of_live sound answered kind fine number step
  have left := (step_outcome (fun _ => sound) kind number (active_connected resumed.phase) verified
    (active_taken resumed.phase k) step).resolve_right (by simp [done])
  rw [left,outcome_live fine]
  exact ⟨done,resumed.counts kind⟩

/-- A message of the answer is looked at. -/
theorem Awaiting.answer_taken (awaiting : Awaiting total a last (m :: answer) live gap c) (k : MsgKind) :
    ¬ SetAside c m k := by
  obtain ⟨number,low,-⟩ := awaiting.answers.next
  rintro (⟨logon,-⟩ | ⟨gap',n,here,number',beyond,-⟩)
  · rw [awaiting.phase] at logon
    cases logon
  · rw [awaiting.phase] at here
    cases here
    rw [number] at number'
    cases number'
    exact absurd beyond (by rw [awaiting.gap_last]; omega)

/-- A message of the answer, while the gap is awaited. -/
theorem answer_step (sound : ¬ faults.store)
    (checked : ∀ k, m.kind = some k → check_identity_and_times m env.config (.for_kind k m) now = .ok ())
    (awaiting : Awaiting total a last (m :: answer) live gap c) (step : Step env faults now c m c' returns) :
    returns = true ∧ Awaiting total a last answer live gap c' := by
  obtain ⟨number,low,kinds⟩ := awaiting.answers.next
  have on : c.connected := by simp [Core.connected,awaiting.phase]
  have verified : ∀ {k}, m.kind = some k → verify env now c m k = .ok () :=
    fun kind => verify_ok (checked _ kind) number (fun _ => Nat.le_refl _) (fun _ => Nat.le_refl _)
  have taken := awaiting.answer_taken
  have done : returns = true := by
    cases returns with
    | true => rfl
    | false =>
      obtain ⟨kind,-⟩ | ⟨target,kind,-⟩ := kinds
      · obtain ⟨wrong,-⟩ | ⟨wrong,-⟩ := step_stops sound kind number step <;> cases wrong
      · obtain ⟨wrong,-⟩ | ⟨wrong,-⟩ := step_stops sound kind number step <;> cases wrong
  have deliveries := awaiting.deliveries
  rw [applications_cons] at deliveries
  obtain ⟨kind,later⟩ | ⟨target,kind,new_seq_no,forwards,later⟩ := kinds
  · have left := (step_outcome (fun _ => sound) kind number on (verified kind) (taken _) step).resolve_right (by simp)
    subst left
    refine ⟨done,awaiting.phase,awaiting.gap_last,later,awaiting.numbered,awaiting.kinds,awaiting.ends,?_⟩
    simpa [outcome,kind] using deliveries
  · have left := (step_outcome (fun _ => sound) kind number on (verified kind) (taken _) step).resolve_right (by simp)
    have jumped : c' = c.jump target := by
      rw [left]
      simp only [outcome,new_seq_no]
      exact if_pos forwards
    subst jumped
    refine ⟨done,awaiting.phase,awaiting.gap_last,later,awaiting.numbered,awaiting.kinds,awaiting.ends,?_⟩
    simpa [kind] using deliveries

/-- A live message while the gap is awaited: it waits for its turn, and a request is
    answered at once. -/
theorem early_step (sound : ¬ faults.store) (answered : m.kind = some .ResendRequest → ¬ faults.resend)
    (checked : m.kind = some .ResendRequest →
      check_identity_and_times m env.config (.for_kind .ResendRequest m) now = .ok ())
    (awaiting : Awaiting total a last answer (m :: live) gap c) (low : c.next ≤ a)
    (step : Step env faults now c m c' returns) :
    returns = true ∧ Awaiting total a last answer live { gap with queue := gap.queue ++ [m] } c' := by
  obtain ⟨k,kind,fine⟩ := awaiting.kinds m (by simp)
  have number : m.msg_seq_num = some (a + 1 + gap.queue.length) := (numbered_append awaiting.numbered).1
  have done := returns_of_live sound answered kind fine number step
  have waits : c' = c.enqueue m := by
    by_cases request : k = .ResendRequest
    · subst request
      have verified : verify env now c m .ResendRequest = .ok () :=
        verify_ok (checked kind) number (by simp [VerificationFlags.for_kind]) (fun _ => by omega)
      have left := (step_outcome (fun _ => sound) kind number (by simp [Core.connected,awaiting.phase]) verified
        (request_taken awaiting.phase) step).resolve_right (by simp)
      rw [left,outcome,if_neg (by omega),if_pos (by omega)]
    · have aside : SetAside c m k :=
        .inr ⟨gap,_,awaiting.phase,number,by rw [awaiting.gap_last]; omega,request⟩
      exact (step_setAside kind aside step).1
  have enqueued : c' = c.goto (.AwaitingResend { gap with queue := gap.queue ++ [m] }) := by
    rw [waits]
    simp [Core.enqueue,awaiting.phase]
  have split : gap.queue ++ m :: live = gap.queue ++ [m] ++ live := by simp
  subst enqueued
  refine ⟨done,rfl,awaiting.gap_last,awaiting.answers,?_,?_,?_,?_⟩
  · exact split ▸ awaiting.numbered
  · exact split ▸ awaiting.kinds
  · exact split ▸ awaiting.ends
  · exact split ▸ awaiting.deliveries

end

/-! ### One frame -/

/-- The schedule is on, in the period in which the store was created. -/
def InSession (env : Env) (w : World S) : Prop :=
  env.is_active_at (env.utc_now w.clock_readings) = true ∧
    env.is_same_session_period (MessageStore.creation_time w.store) (env.utc_now w.clock_readings) = .ok .SamePeriod

/-- The message passes the checks of its header and its times, read now. -/
def Checked (env : Env) (v : World S) (m : Message) : Prop :=
  ∀ k, m.kind = some k →
    check_identity_and_times m env.config (.for_kind k m) (env.timestamp_now v.clock_readings) = .ok ()

/-- While an input is handled, the schedule is on, every message that is verified
    passes its checks, and every request can be answered. -/
def Undisturbed (env : Env) (w : World S) (input : Input) : Prop :=
  InSession env w ∧
    (∀ p ∈ (taken env input w).head?, (∀ n k, p.2.msg_seq_num = some n → p.2.kind = some k → deferred p.1 n k = false →
      Checked env p.1 p.2) ∧ (p.2.kind = some .ResendRequest → ¬ AnswerFails env p.1.store p.2)) ∧
    ∀ p ∈ (taken env input w).tail, p.2.kind ≠ some .ResendRequest → Checked env p.1 p.2

theorem schedule_check_runs {env : Env} {w : World S} (session : InSession env w) :
    Runs (handle_schedule_check env) w (fun _ w' => core w' = core w) (fun _ _ => False) := by
  unfold handle_schedule_check
  rw [runs_bind,runs_utc_now,if_pos session.1,runs_bind]
  refine runs_mono (notify_schedule_awaiter_runs _) ?_ (fun _ _ no => no)
  rintro _ w₁ ⟨same,store⟩
  rw [runs_bind,runs_get,store,session.2]
  exact same

def frame (raw_message : Bytes) : Input := .Event (.FixMessageReceived raw_message)

/-- The condition holds of every input in the world in which it is handled. -/
def Along (env : Env) (cond : World S → Input → Prop) : List Input → World S → Prop
  | [],_ => True
  | input :: rest,w => cond w input ∧ Along env cond rest (final (handle_input env input w))

theorem along_mono {env : Env} {cond cond' : World S → Input → Prop} (more : ∀ w input, cond w input → cond' w input)
    {inputs : List Input} : ∀ {w : World S}, Along env cond inputs w → Along env cond' inputs w := by
  induction inputs with
  | nil => exact fun _ => trivial
  | cons input rest ih => exact fun along => ⟨more _ _ along.1,ih along.2⟩

/-- Every message that is taken up passes its checks, and none is a request. -/
def Untroubled (env : Env) (w : World S) (input : Input) : Prop :=
  ∀ p ∈ taken env input w, p.2.kind ≠ some .ResendRequest ∧ ∀ k ∈ p.2.kind,
    check_identity_and_times p.2 env.config (.for_kind k p.2) (env.timestamp_now p.1.clock_readings) = .ok ()

instance (env : Env) (w : World S) (input : Input) : Decidable (Untroubled env w input) :=
  inferInstanceAs (Decidable (∀ p ∈ taken env input w, _ ∧ _))

instance decidableAlong {env : Env} {cond : World S → Input → Prop} [∀ w input, Decidable (cond w input)] :
    ∀ (inputs : List Input) (w : World S), Decidable (Along env cond inputs w)
  | [],_ => .isTrue trivial
  | input :: rest,w =>
    let _later : Decidable (Along env cond rest (final (handle_input env input w))) := decidableAlong rest _
    inferInstanceAs (Decidable (_ ∧ _))

theorem undisturbed_of {env : Env} {w : World S} {input : Input} (session : InSession env w)
    (untroubled : Untroubled env w input) : Undisturbed env w input := by
  have checked : ∀ p ∈ taken env input w, Checked env p.1 p.2 :=
    fun p member k kind => (untroubled p member).2 k (by rw [kind]; rfl)
  refine ⟨session,fun p member => ⟨fun _ _ _ _ _ => ?_,fun kind => ?_⟩,fun p member _ => ?_⟩
  · exact checked p (List.mem_of_mem_head? member)
  · exact absurd kind (untroubled p (List.mem_of_mem_head? member)).1
  · exact checked p (List.mem_of_mem_tail member)

/-- What is still to come, with a backlog that is being replayed. -/
def Follows (total : List Message) (a last : Nat) (answer live backlog : List Message) (c : Core) : Prop :=
  (backlog = [] ∧ c.next ≤ a ∧ ∃ gap, Awaiting total a last answer live gap c) ∨
    (answer = [] ∧ Resumed total last (backlog ++ live) c)

/-- Between two frames of the recovery. -/
def Recovering (total : List Message) (a last : Nat) (answer live : List Message) (c : Core) : Prop :=
  Follows total a last answer live [] c

/-- While a message is to come, the expected number is not behind the last. -/
theorem Recovering.low {total answer live : List Message} {a last : Nat} {c : Core}
    (recovering : Recovering total a last answer live c) (more : answer ≠ [] ∨ live ≠ []) : c.next ≤ last := by
  obtain ⟨-,low,gap,awaiting⟩ | ⟨empty,resumed⟩ := recovering
  · have ends := awaiting.ends
    omega
  · have ends := resumed.ends
    have some := List.length_pos_iff.mpr (more.resolve_left (not_not_intro empty))
    simp only [List.nil_append] at ends
    omega

section
variable [CountingStore S .wrapping]

omit [CountingStore S .wrapping] in
theorem fits_before {w : World S} {last : Nat} (bound : last + 1 < UInt64.size) (low : (core w).next ≤ last) :
    Fits .wrapping (core w) :=
  Arith.add_eq .wrapping (Nat.lt_of_le_of_lt (Nat.succ_le_succ low) bound)

theorem replay_follows (succeeds : StoreSucceeds S) (env : Env) (total : List Message) (a : Nat) {last : Nat}
    (bound : last + 1 < UInt64.size) (answer live : List Message) :
    ReplayRule (S := S) env (fun v m => m.kind ≠ some .ResendRequest → Checked env v m)
      (Follows total a last answer live) (fun _ => False) := by
  have replayed : ∀ (v : World S) m rest c' returns, (m.kind ≠ some .ResendRequest → Checked env v m) →
      Follows total a last answer live (m :: rest) (core v) →
      Replays env (faults env v.store m) (env.timestamp_now v.clock_readings) (core v) m c' returns →
      returns = true ∧ Follows total a last answer live rest c' := by
    intro v m rest c' returns checked follows replays
    obtain ⟨none,-⟩ | ⟨empty,resumed⟩ := follows
    · cases none
    · cases replays with
      | request kind => exact ⟨rfl,.inr ⟨empty,resumed.counts kind⟩⟩
      | requestFailed kind fault => exact absurd fault (faults_sound succeeds env v.store m)
      | took other step =>
        obtain ⟨done,left⟩ := resumed_step (faults_sound succeeds env v.store m) (fun kind => absurd kind other)
          (checked other) resumed step
        exact ⟨done,.inr ⟨empty,left⟩⟩
  exact
    { room := by
        rintro v m rest - (⟨none,-⟩ | ⟨-,resumed⟩) -
        · cases none
        · have ends := resumed.ends
          simp only [List.cons_append,List.length_cons] at ends
          exact fits_before bound (by omega)
      step := fun v m rest v' checked follows _ replays => (replayed v m rest _ _ checked follows replays).2
      stops := fun v m rest c' checked follows replays => by cases (replayed v m rest _ _ checked follows replays).1 }

/-- A message has been processed, and the end of the resend was not looked for yet. -/
def Settles (total : List Message) (a last : Nat) (answer live : List Message) (c : Core) : Prop :=
  (∃ gap, Awaiting total a last answer live gap c) ∨ (answer = [] ∧ Resumed total last live c)

section
variable {total answer live : List Message} {a last : Nat} {c : Core}

theorem Settles.unfinished (settles : Settles total a last answer live c)
    (unpassed : ∀ gap, c.phase = .AwaitingResend gap → c.next ≤ gap.last) : Recovering total a last answer live c := by
  obtain ⟨gap,awaiting⟩ | resumed := settles
  · exact .inl ⟨rfl,awaiting.gap_last ▸ unpassed gap awaiting.phase,gap,awaiting⟩
  · exact .inr resumed

theorem Settles.finished {gap : Gap} (settles : Settles total a last answer live c) (phase : c.phase = .AwaitingResend gap)
    (past : gap.last < c.next) : Follows total a last answer live gap.queue (c.goto .Active) := by
  obtain ⟨gap',awaiting⟩ | ⟨-,resumed⟩ := settles
  · have same := awaiting.phase
    rw [phase] at same
    cases same
    exact .inr (awaiting.resumes (awaiting.gap_last ▸ past))
  · have active := resumed.phase
    rw [phase] at active
    cases active

end

/-- A valid frame whose message settles. -/
theorem frame_follows (succeeds : StoreSucceeds S) {env : Env} {w : World S} {raw_message : Bytes} {m : Message}
    {total answer live : List Message} {a last : Nat} (bound : last + 1 < UInt64.size) (low : (core w).next ≤ last)
    (built : env.build raw_message = .Valid m) (undisturbed : Undisturbed env w (.Event (.FixMessageReceived raw_message)))
    (settles : ∀ (v : World S) c' returns, core v = (core w).add (.Received m) →
      (∀ n k, m.msg_seq_num = some n → m.kind = some k → ¬ SetAside (core v) m k → Checked env v m) →
      (m.kind = some .ResendRequest → ¬ (faults env v.store m).resend) →
      Step env (faults env v.store m) (env.timestamp_now v.clock_readings) (core v) m c' returns →
      returns = true ∧ Settles total a last answer live c') :
    Runs (handle_input env (.Event (.FixMessageReceived raw_message))) w
      (fun _ w' => Recovering total a last answer live (core w')) (fun _ _ => False) := by
  obtain ⟨session,first,later⟩ := undisturbed
  unfold handle_input handle_session_event
  rw [runs_bind]
  refine runs_mono_of (schedule_check_runs session) ?_ (fun _ _ _ no => no)
  intro _ w₁ checked same
  have incoming := on_incoming_eq env raw_message w₁
  simp only [built] at incoming
  dsimp only
  rw [catch_error_runs,runs_congr incoming,runs_bind]
  have arrived : arrival env raw_message w = some (noted (touched w₁) (.Received m),m) := by
    simp only [arrival,checked,built]
  generalize here : noted (touched w₁) (.Received m) = v at arrived
  have received : core v = (core w).add (.Received m) := by
    rw [← here,← same,← core_touched w₁]
    exact core_noted rfl
  simp only [taken,arrived,List.head?_cons,Option.mem_some_iff,forall_eq',List.tail_cons] at first later
  have stepped : ∀ c' returns, Step env (faults env v.store m) (env.timestamp_now v.clock_readings) (core v) m c' returns →
      returns = true ∧ Settles total a last answer live c' := by
    refine fun c' returns => settles v c' returns received (fun n k number kind looked => ?_) first.2
    exact first.1 n k number kind (Bool.eq_false_iff.mpr (mt (deferred_iff number k).mp looked))
  have fits : Fits .wrapping (core v) := fits_before bound (by rw [received]; exact low)
  refine runs_mono_of (process_message_steps env m v (fun _ => fits)) ?_ ?_
  · intro _ u executed step
    obtain ⟨-,settled⟩ := stepped _ _ step
    rw [executed] at later
    refine runs_mono (check_end_of_resend_runs (replay_follows succeeds env total a bound answer live) later
      settled.unfinished (fun gap => settled.finished)) (fun _ _ follows => follows) (fun _ _ no => no.elim)
  · intro _ u executed step
    cases (stepped _ _ step).1

section
variable {env : Env} {w : World S} {raw_message : Bytes} {m : Message} {total answer live : List Message} {a last : Nat}

/-- A frame of the answer. -/
theorem answer_frame (succeeds : StoreSucceeds S) (bound : last + 1 < UInt64.size) (built : env.build raw_message = .Valid m)
    (undisturbed : Undisturbed env w (.Event (.FixMessageReceived raw_message)))
    (recovering : Recovering total a last (m :: answer) live (core w)) :
    Runs (handle_input env (.Event (.FixMessageReceived raw_message))) w
      (fun _ w' => Recovering total a last answer live (core w')) (fun _ _ => False) := by
  have low := recovering.low (.inl (List.cons_ne_nil m answer))
  refine frame_follows succeeds bound low built undisturbed ?_
  intro v c' returns received checked _ step
  obtain ⟨-,low,gap,before⟩ | ⟨none,-⟩ := recovering
  · have awaiting : Awaiting total a last (m :: answer) live gap (core v) := received ▸ awaiting_received before
    have header : Checked env v m := by
      intro k kind
      exact checked _ k awaiting.answers.next.1 kind (awaiting.answer_taken k) k kind
    obtain ⟨done,left⟩ := answer_step (faults_sound succeeds env v.store m) header awaiting step
    exact ⟨done,.inl ⟨gap,left⟩⟩
  · cases none

/-- A live frame. -/
theorem live_frame (succeeds : StoreSucceeds S) (bound : last + 1 < UInt64.size) (built : env.build raw_message = .Valid m)
    (undisturbed : Undisturbed env w (.Event (.FixMessageReceived raw_message)))
    (recovering : Recovering total a last answer (m :: live) (core w)) :
    Runs (handle_input env (.Event (.FixMessageReceived raw_message))) w
      (fun _ w' => Recovering total a last answer live (core w')) (fun _ _ => False) := by
  have low := recovering.low (.inr (List.cons_ne_nil m live))
  refine frame_follows succeeds bound low built undisturbed ?_
  intro v c' returns received checked answered step
  obtain ⟨-,low,gap,before⟩ | ⟨empty,before⟩ := recovering
  · have awaiting : Awaiting total a last answer (m :: live) gap (core v) := received ▸ awaiting_received before
    have same : (core v).next = (core w).next := by rw [received]; rfl
    have header : m.kind = some .ResendRequest → check_identity_and_times m env.config (.for_kind .ResendRequest m)
        (env.timestamp_now v.clock_readings) = .ok () := by
      intro kind
      exact checked _ _ (numbered_append awaiting.numbered).1 kind (request_taken awaiting.phase) _ kind
    obtain ⟨done,left⟩ := early_step (faults_sound succeeds env v.store m) answered header awaiting (same ▸ low) step
    exact ⟨done,.inl ⟨_,left⟩⟩
  · have resumed : Resumed total last (m :: live) (core v) := received ▸ resumed_received before
    have header : Checked env v m := by
      intro k kind
      exact checked _ k resumed.numbered.1 kind (active_taken resumed.phase k) k kind
    obtain ⟨done,left⟩ := resumed_step (faults_sound succeeds env v.store m) answered header resumed step
    exact ⟨done,.inr ⟨empty,left⟩⟩

/-- The frame that opens the gap. -/
theorem trigger_frame (succeeds : StoreSucceeds S) (bound : a + live.length + 1 < UInt64.size)
    (built : env.build raw_message = .Valid m)
    (undisturbed : Undisturbed env w (.Event (.FixMessageReceived raw_message))) {k : MsgKind}
    (phase : (core w).phase = .Active) (kind : m.kind = some k)
    (compared : (VerificationFlags.for_kind k m).check_too_high = true) (number : m.msg_seq_num = some a)
    (above : next_target w < a) (answers : Answers a (next_target w) answer) (numbered : Numbered (a + 1) live)
    (kinds : ∀ m ∈ live, Live m) :
    Runs (handle_input env (.Event (.FixMessageReceived raw_message))) w
      (fun _ w' => Recovering (delivered (core w).log ++ applications answer ++ applications live) a (a + live.length)
        answer live (core w')) (fun _ _ => False) := by
  refine frame_follows succeeds bound (Nat.le_of_lt (Nat.lt_add_right _ above)) built undisturbed ?_
  intro v c' returns received checked _ step
  have active : (core v).phase = .Active := by rw [received]; exact phase
  have next : (core v).next = next_target w := by rw [received]; rfl
  have header := checked a k number kind (active_taken active k) k kind
  obtain ⟨done,opened⟩ := step_refused (faults_sound succeeds env v.store m) kind number (active_connected active)
    (verify_ahead header number compared (next ▸ above)) (active_taken active k) step active
  refine ⟨done,.inl ⟨⟨(core v).next,a,1,[]⟩,?_⟩⟩
  subst opened
  have log : delivered (core v).log = delivered (core w).log := by
    rw [received]
    simp [Core.add,delivered]
  refine ⟨rfl,rfl,?_,numbered,kinds,rfl,?_⟩
  · change Answers a (core v).next answer
    rw [next]
    exact answers
  · change delivered ((core v).log ++ [.Requested]) ++ _ ++ _ = _
    rw [delivered_append,log]
    simp [delivered]

end

/-! ### Runs -/

/-- However the streams interleave, each frame takes one message of them. -/
theorem run_recovers (succeeds : StoreSucceeds S) {env : Env} {total answer live stream : List Message} {a last : Nat}
    (bound : last + 1 < UInt64.size)
    (mixed : Interleaves answer live stream) : ∀ {raws : List Bytes} {w : World S},
      List.Forall₂ (fun raw m => env.build raw = .Valid m) raws stream →
      Along env (Undisturbed env) (raws.map frame) w → Recovering total a last answer live (core w) →
      Runs (run env (raws.map frame)) w (fun _ w' => Recovering total a last [] [] (core w')) (fun _ _ => False) := by
  have first : ∀ {answer live raws} {raw : Bytes} {w : World S},
      Runs (handle_input env (frame raw)) w (fun _ w' => Recovering total a last answer live (core w')) (fun _ _ => False) →
      (∀ {w₁ : World S}, Along env (Undisturbed env) (raws.map frame) w₁ → Recovering total a last answer live (core w₁) →
        Runs (run env (raws.map frame)) w₁ (fun _ w' => Recovering total a last [] [] (core w')) (fun _ _ => False)) →
      Along env (Undisturbed env) (raws.map frame) (final (handle_input env (frame raw) w)) →
      Runs (run env ((raw :: raws).map frame)) w (fun _ w' => Recovering total a last [] [] (core w')) (fun _ _ => False) := by
    intro answer live raws raw w handles rest along
    rw [List.map_cons,run,runs_bind]
    refine runs_mono_of handles ?_ (fun _ _ _ no => no)
    intro _ w₁ executed recovering
    rw [executed] at along
    exact rest along recovering
  induction mixed with
  | nil =>
    intro raws w parsed along recovering
    cases parsed
    exact recovering
  | left rest ih =>
    intro raws w parsed along recovering
    obtain ⟨raw,raws,built,later,rfl⟩ := List.forall₂_cons_right_iff.mp parsed
    exact first (answer_frame succeeds bound built along.1 recovering) (ih later) along.2
  | right rest ih =>
    intro raws w parsed along recovering
    obtain ⟨raw,raws,built,later,rfl⟩ := List.forall₂_cons_right_iff.mp parsed
    exact first (live_frame succeeds bound built along.1 recovering) (ih later) along.2

/-- The messages handed to the application in a journal. -/
def inbound_messages (journal : List Effect) : List Message :=
  journal.filterMap (fun entry =>
    match entry with
    | .OnInboundMessage m => some m
    | _ => none)

omit [MessageStore S] [CountingStore S .wrapping] in
theorem delivered_observed (journal : List Effect) : delivered (journal.filterMap observe) = inbound_messages journal := by
  unfold delivered inbound_messages
  rw [List.filterMap_filterMap]
  congr 1
  funext entry
  cases entry with
  | Sent writer m raw =>
    simp only [observe]
    split_ifs <;> rfl
  | _ => rfl

/-- A message ahead of the expected number opens a gap; then, however the answer and
    the live messages interleave, the session is active again behind the last of them
    and has handed over each application message once and in order, if and only if
    there is a number behind the last. -/
theorem recovery_delivers (succeeds : StoreSucceeds S) {env : Env} {w : World S} {state : ActiveState}
    {trigger : Message} {k : MsgKind} {a : Nat} {raw : Bytes} {answer live stream : List Message} {raws : List Bytes}
    (active : w.state = .Active state) (built : env.build raw = .Valid trigger) (kind : trigger.kind = some k)
    (opens : k = .Application ∨ k = .Heartbeat ∨ k = .TestRequest ∧ (trigger.body.get_str TEST_REQ_ID).isSome)
    (number : trigger.msg_seq_num = some a) (above : next_target w < a) (answers : Answers a (next_target w) answer)
    (numbered : Numbered (a + 1) live) (kinds : ∀ m ∈ live, Live m) (mixed : Interleaves answer live stream)
    (parsed : List.Forall₂ (fun raw m => env.build raw = .Valid m) raws stream)
    (undisturbed : Along env (Undisturbed env) ((raw :: raws).map frame) w) :
    (∃ w' state', run env ((raw :: raws).map frame) w = .ok () w' ∧ w'.state = .Active state' ∧
      next_target w' = a + live.length + 1 ∧
      inbound_messages w'.journal = inbound_messages w.journal ++ applications answer ++ applications live) ↔
    a + live.length + 1 < UInt64.size := by
  constructor
  · rintro ⟨w',state',-,-,ended,-⟩
    rw [← ended]
    exact CountingStore.next_lt rfl w'.store
  intro bound
  have phase : (core w).phase = .Active := by simp [phaseOf,active]
  have compared : (VerificationFlags.for_kind k trigger).check_too_high = true := by
    obtain rfl | rfl | ⟨rfl,-⟩ := opens <;> rfl
  have opened := trigger_frame succeeds bound built undisturbed.1 phase kind compared number above answers numbered kinds
  have recovers : Runs (run env ((raw :: raws).map frame)) w (fun _ w' => Recovering
      (delivered (core w).log ++ applications answer ++ applications live) a (a + live.length) [] [] (core w'))
      (fun _ _ => False) := by
    rw [List.map_cons,run,runs_bind]
    refine runs_mono_of opened ?_ (fun _ _ _ no => no)
    intro _ w₁ executed recovering
    have later : Along env (Undisturbed env) (raws.map frame) (final (handle_input env (frame raw) w)) := undisturbed.2
    rw [executed] at later
    exact run_recovers succeeds bound mixed parsed later recovering
  unfold Runs at recovers
  split at recovers
  · next w' executed =>
    obtain ⟨-,low,gap,awaiting⟩ | ⟨-,resumed⟩ := recovers
    · have past := awaiting.answers
      generalize (core w').next = n at past low
      cases past
      omega
    · have ended := resumed.ends
      have deliveries := resumed.deliveries
      simp only [core_log,delivered_observed,applications,List.filter_nil,List.append_nil] at deliveries
      have here := resumed.phase
      cases state' : w'.state with
      | Active active' => exact ⟨w',active',executed,state',ended,deliveries⟩
      | _ => simp [phaseOf,state'] at here
  · exact recovers.elim

end

theorem active_of_status {state : SessionState} (status : state.as_status = .Active) : ∃ active, state = .Active active := by
  cases state with
  | Active active => exact ⟨active,rfl⟩
  | _ => cases status

/-- The copy of a report that was lost. -/
def duplicate (n : Nat) : Message :=
  message (ascii "8") n [(POSS_DUP_FLAG,bool_bytes true),(ORIG_SENDING_TIME,now.to_bytes)]

def peer : Env := valid [logon,report 3,duplicate 2,gap_fill 3 4,report 4]

/-- The Logon of the peer is counted: number 2 is expected. -/
def logged_on : World (InMemoryMessageStore .wrapping) := wrapped peer [connect,receive logon]

theorem peer_builds : peer.build (Sample.wire (report 3)) = .Valid (read (report 3)) ∧
    peer.build (Sample.wire (duplicate 2)) = .Valid (read (duplicate 2)) ∧
    peer.build (Sample.wire (gap_fill 3 4)) = .Valid (read (gap_fill 3 4)) ∧
    peer.build (Sample.wire (report 4)) = .Valid (read (report 4)) := by
  refine ⟨?_,?_,?_,?_⟩
  · exact (build_skip _ _ (by decide +kernel)).trans (build_first _ _ _)
  · exact (build_skip _ _ (by decide +kernel)).trans ((build_skip _ _ (by decide +kernel)).trans (build_first _ _ _))
  · exact (build_skip _ _ (by decide +kernel)).trans ((build_skip _ _ (by decide +kernel)).trans
      ((build_skip _ _ (by decide +kernel)).trans (build_first _ _ _)))
  · exact (build_skip _ _ (by decide +kernel)).trans ((build_skip _ _ (by decide +kernel)).trans
      ((build_skip _ _ (by decide +kernel)).trans ((build_skip _ _ (by decide +kernel)).trans (build_first _ _ _))))

/-- Report 3 comes first, then the copy of report 2, report 4 and the gap fill for 3. -/
theorem lost_report_recovered :
    ∃ w' state, run peer [receive (report 3),receive (duplicate 2),receive (report 4),receive (gap_fill 3 4)] logged_on =
        .ok () w' ∧ w'.state = .Active state ∧ next_target w' = 5 ∧
      inbound_messages w'.journal = inbound_messages logged_on.journal ++
        applications [read (duplicate 2),read (gap_fill 3 4)] ++ applications [read (report 4)] := by
  obtain ⟨first,copied,filled,last⟩ := peer_builds
  obtain ⟨state,active⟩ := active_of_status (show logged_on.state.as_status = .Active by decide +kernel)
  have next : next_target logged_on = 2 := by decide +kernel
  have answers : Answers 3 (next_target logged_on) [read (duplicate 2),read (gap_fill 3 4)] := by
    rw [next]
    refine .copy (by decide +kernel) (by decide +kernel) (by decide +kernel) (by decide) ?_
    exact .fill (by decide +kernel) (by decide +kernel) (by decide +kernel) (show _ = some 4 by decide +kernel)
      (by decide) (by decide) .done
  have untroubled : Along peer (Untroubled peer)
    [receive (report 3),receive (duplicate 2),receive (report 4),receive (gap_fill 3 4)] logged_on := by decide +kernel
  refine (recovery_delivers (InMemoryMessageStore.succeeds .wrapping) active first
    (show (read (report 3)).kind = some .Application by decide +kernel) (.inl rfl) (by decide +kernel)
    (by rw [next]; decide) answers (show Numbered 4 [read (report 4)] from ⟨by decide +kernel,trivial⟩)
    (by simpa using ⟨MsgKind.Application,by decide +kernel,rfl⟩) (.left (.right (.left .nil)))
    (.cons copied (.cons last (.cons filled .nil))) (along_mono (fun _ _ => undisturbed_of ⟨rfl,rfl⟩) untroubled)).mpr ?_
  decide

/-- A session whose peer uses the last two numbers. -/
def far : Env := valid [logon,gap_fill 2 (UInt64.size - 2),report (UInt64.size - 1),duplicate (UInt64.size - 2),
  duplicate (UInt64.size - 1)]

/-- The last number but one is expected. -/
def far_on : World (InMemoryMessageStore .wrapping) :=
  wrapped far [connect,receive logon,receive (gap_fill 2 (UInt64.size - 2))]

/-- A report with the last number opens a gap, and both reports are sent again: the
    last one takes the expected number back to zero, and the session waits for ever. -/
theorem last_number_unrecovered :
    far_on.state.as_status = .Active ∧ next_target far_on = UInt64.size - 2 ∧
      Answers (UInt64.size - 1) (UInt64.size - 2) [read (duplicate (UInt64.size - 2)),read (duplicate (UInt64.size - 1))] ∧
      Along far (Undisturbed far) [receive (report (UInt64.size - 1)),receive (duplicate (UInt64.size - 2)),
        receive (duplicate (UInt64.size - 1))] far_on ∧
      returned (run far [receive (report (UInt64.size - 1)),receive (duplicate (UInt64.size - 2)),
        receive (duplicate (UInt64.size - 1))] far_on) = true ∧
      (final (run far [receive (report (UInt64.size - 1)),receive (duplicate (UInt64.size - 2)),
        receive (duplicate (UInt64.size - 1))] far_on)).state.as_status =
        .AwaitingResend (UInt64.size - 2) (UInt64.size - 1) 1 ∧
      next_target (final (run far [receive (report (UInt64.size - 1)),receive (duplicate (UInt64.size - 2)),
        receive (duplicate (UInt64.size - 1))] far_on)) = 0 := by
  have untroubled : Along far (Untroubled far) [receive (report (UInt64.size - 1)),
    receive (duplicate (UInt64.size - 2)),receive (duplicate (UInt64.size - 1))] far_on := by decide +kernel
  refine ⟨by decide +kernel,by decide +kernel,?_,along_mono (fun _ _ => undisturbed_of ⟨rfl,rfl⟩) untroubled,
    by decide +kernel⟩
  refine .copy (by decide +kernel) (by decide +kernel) (by decide +kernel) (by decide) ?_
  exact .copy (by decide +kernel) (by decide +kernel) (by decide +kernel) (by decide) .done

end HotFix.Recovery
