import HotFix.Loop
import HotFix.Outcomes

/-!
What the replay of the backlog may skip. Every message of the backlog was received
on the connection; as long as the messages that are counted without a comparison
carry the expected number, the replay moves past a number only for a message that
carries it or for a SequenceReset that covers it.
-/
namespace HotFix.Replay
open HotFix.Program HotFix.Protocol HotFix.Operations HotFix.Refinement HotFix.Outcomes HotFix.Loop
open HotFix.Sample (valid logon report resend_request gap_fill start connect receive after reachable_after Store)
variable {S : Type} [MessageStore S]

/-! ### The messages received on a connection -/

def take_received (messages : List Message) : Note → List Message
  | .Connected => []
  | .Received m => messages ++ [m]
  | _ => messages

/-- The messages received since the last connection was made. -/
def received (log : List Note) : List Message := log.foldl take_received []

@[simp] theorem received_snoc (log : List Note) (entry : Note) :
    received (log ++ [entry]) = take_received (received log) entry := by
  simp [received]

section
variable {env : Env} {faults : Faults} {now : Timestamp} {c c' : Core} {m : Message} {returns : Bool}

@[simp] theorem received_goto (phase : Phase) : received (c.goto phase).log = received c.log := rfl
@[simp] theorem received_count : received c.count.log = received c.log := received_snoc _ _
@[simp] theorem received_jump (n : Nat) : received (c.jump n).log = received c.log := received_snoc _ _
@[simp] theorem received_restart : received c.restart.log = received c.log := received_snoc _ _
@[simp] theorem received_add (entry : Note) : received (c.add entry).log = take_received (received c.log) entry :=
  received_snoc _ _
@[simp] theorem received_enqueue : received (c.enqueue m).log = received c.log := by
  unfold Core.enqueue
  split <;> rfl

/-- Handling a message receives none. -/
theorem received_step (step : Step env faults now c m c' returns) : received c'.log = received c.log := by
  cases step with
  | resendRequestMalformed => split_ifs <;> simp
  | resendRequestAhead => split_ifs <;> simp
  | _ => simp [take_received]

theorem received_replays (replays : Replays env faults now c m c' returns) : received c'.log = received c.log := by
  cases replays with
  | request kind => simp
  | requestFailed kind fault => rfl
  | took kind step => exact received_step step

/-! ### The queue -/

/-- Whatever waits in the queue was received on this connection. -/
def Queued (c : Core) : Prop := ∀ gap, c.phase = .AwaitingResend gap → ∀ x ∈ gap.queue, x ∈ received c.log

theorem queued_same (queued : Queued c) (kept : received c'.log = received c.log) (phase : c'.phase = c.phase) :
    Queued c' := by
  intro gap here x member
  rw [kept]
  exact queued gap (phase ▸ here) x member

theorem queued_phase {phase : Phase} (other : ∀ gap, phase ≠ .AwaitingResend gap) : Queued (c.goto phase) :=
  fun gap here => absurd here (other gap)

theorem queued_step (queued : Queued c) (here : m ∈ received c.log) (step : Step env faults now c m c' returns) :
    Queued c' := by
  intro gap' phase' x member
  rw [received_step step]
  obtain ⟨gap,phase,-,queue | queue⟩ | ⟨-,-,empty | ⟨gap,phase,queue⟩⟩ := step_awaits step phase'
  · exact queued gap phase x (queue ▸ member)
  · rw [queue,List.mem_append,List.mem_singleton] at member
    obtain old | rfl := member
    · exact queued gap phase x old
    · exact here
  · rw [empty] at member
    cases member
  · exact queued gap phase x (queue ▸ member)

theorem queued_replays (queued : Queued c) (here : m ∈ received c.log)
    (replays : Replays env faults now c m c' returns) : Queued c' := by
  cases replays with
  | request kind => exact queued_same queued received_count rfl
  | requestFailed kind fault => exact queued
  | took kind step => exact queued_step queued here step

theorem queued_aside (queued : Queued c) (aside : Aside c c') : Queued c' := by
  cases aside with
  | stayed => exact queued
  | loggingOut on => exact queued_phase (by simp)
  | left => exact queued_phase (by simp)
  | restarted => exact queued_same queued received_restart rfl

theorem queued_turn {asks : Prop} {input : Input} (queued : Queued c) (turn : Turn asks input c c') : Queued c' := by
  cases turn with
  | aside aside => exact queued_aside queued aside
  | left aside => exact queued_phase (by simp)
  | connected connect aside => exact queued_phase (by simp)
  | reset connect aside => exact fun gap phase => by cases phase
  | set admin phase => exact fun gap here => by simp [Core.jump,phase] at here
  | asked may => exact queued_same queued (received_add .Requested) rfl

end

/-! ### Counting without a comparison -/

/-- The handlers of these types count even what nothing has verified. -/
def counted_unverified : MsgKind → Bool
  | .Heartbeat => true
  | .Reject => true
  | .Logout => true
  | .Application => true
  | _ => false

/-- Replayed in this world, the message is counted whatever its number. -/
def blind (env : Env) (w : World S) (m : Message) : Bool :=
  match m.kind with
  | none => false
  | some .ResendRequest => true
  | some kind => !m.msg_seq_num.any (fun n => deferred w n kind) &&
    if w.state.is_connected then
      match verify_message_with_ctx m env.config (next_target w) (.for_kind kind m)
          (env.timestamp_now w.clock_readings) with
      | .ok () => kind = .Reject || kind = .Logout
      | .error (.InvalidMessage error) => error.isTimeError
      | .error (.SequenceGap _ _) => false
    else counted_unverified kind

/-- Every message that is replayed while an input is handled is compared with the
    expected number, or carries it. -/
def Compared (env : Env) (w : World S) (input : Input) : Prop :=
  ∀ p ∈ (taken env input w).tail, blind env p.1 p.2 = true → p.2.msg_seq_num = some (next_target p.1)

instance (env : Env) (w : World S) (input : Input) : Decidable (Compared env w input) :=
  inferInstanceAs (Decidable (∀ p ∈ (taken env input w).tail, _ → _))

/-- What the protocol counts without a comparison. -/
inductive Blind (env : Env) (now : Timestamp) (c : Core) (m : Message) : Prop where
  | request (kind : m.kind = some .ResendRequest)
  | time {k : MsgKind} {e : MessageError} (accepted : Accepted c m k) (on : c.connected)
      (failed : verify env now c m k = .error (.InvalidMessage e)) (time : e.isTimeError = true)
  | relaxed {k : MsgKind} (accepted : Accepted c m k) (on : c.connected) (verified : verify env now c m k = .ok ())
      (kind : k = .Reject ∨ k = .Logout)
  | unverified {k : MsgKind} (accepted : Accepted c m k) (off : c.phase = .Disconnected)
      (kind : counted_unverified k = true)

theorem is_connected_iff {w : World S} : w.state.is_connected = true ↔ (core w).connected := by
  refine ⟨connected_of,fun on => ?_⟩
  cases here : w.state.get_writer with
  | none => exact absurd (get_writer_none here) on
  | some writer => simp [SessionState.is_connected,here]

theorem accepted_not_deferred {w : World S} {m : Message} {k : MsgKind} (accepted : Accepted (core w) m k) :
    m.msg_seq_num.any (fun n => deferred w n k) = false := by
  cases number : m.msg_seq_num with
  | none => rfl
  | some n =>
    simp only [Option.any_some,Bool.eq_false_iff]
    exact mt (deferred_iff number k).mp (not_setAside_of_accepted accepted)

theorem blind_of {env : Env} {w : World S} {m : Message}
    (counted : Blind env (env.timestamp_now w.clock_readings) (core w) m) : blind env w m = true := by
  unfold blind
  cases counted with
  | request kind => simp [kind]
  | time accepted on failed time =>
    have reached : verify_message_with_ctx m env.config (next_target w) (.for_kind _ m)
      (env.timestamp_now w.clock_readings) = .error (.InvalidMessage _) := failed
    rw [accepted.1]
    split
    · next none => cases none
    · rfl
    · next k other here =>
      cases here
      simp [accepted_not_deferred accepted,is_connected_iff.mpr on,reached,time]
  | relaxed accepted on verified kind =>
    have reached : verify_message_with_ctx m env.config (next_target w) (.for_kind _ m)
      (env.timestamp_now w.clock_readings) = .ok () := verified
    rw [accepted.1]
    split
    · next none => cases none
    · rfl
    · next k other here =>
      cases here
      simp [accepted_not_deferred accepted,is_connected_iff.mpr on,reached,kind]
  | unverified accepted off kind =>
    rw [accepted.1]
    split
    · next none => cases none
    · rfl
    · next k other here =>
      cases here
      have away : w.state.is_connected = false := Bool.eq_false_iff.mpr (fun on => is_connected_iff.mp on off)
      simp [accepted_not_deferred accepted,away,kind]

section
variable {env : Env} {faults : Faults} {now : Timestamp} {c c' : Core} {m : Message} {returns : Bool}

/-- A replay that compares moves past the number of its message, or to the target of
    a SequenceReset. -/
theorem replays_next (positive : 0 < c.next) (compared : Blind env now c m → m.msg_seq_num = some c.next)
    (replays : Replays env faults now c m c' returns) :
    c'.next = c.next ∨ c'.next = c.next + 1 ∧ m.msg_seq_num = some c.next ∨
      returns = true ∧ m.kind = some .SequenceReset ∧ m.body.get_u64 NEW_SEQ_NO = some c'.next := by
  have passed_number : ∀ {k}, Accepted c m k → Passed env now c m k → counted_unverified k = true →
      VerificationFlags.for_kind k m = ⟨true,true,m.poss_dup⟩ → m.msg_seq_num = some c.next := by
    rintro k accepted (off | verified) kind checked
    · exact compared (.unverified accepted off kind)
    · exact verify_number positive verified checked
  have relaxed_number : ∀ {k}, Accepted c m k → Passed env now c m k → k = .Reject ∨ k = .Logout →
      m.msg_seq_num = some c.next := by
    rintro k accepted passed kind
    by_cases off : c.phase = .Disconnected
    · exact compared (.unverified accepted off (by obtain rfl | rfl := kind <;> rfl))
    · exact compared (.relaxed accepted off (passed.resolve_left off) kind)
  cases replays with
  | request kind => exact .inr (.inl ⟨rfl,compared (.request kind)⟩)
  | requestFailed kind fault => exact .inl rfl
  | took other step =>
    cases step with
    | badTime accepted on failed time => exact .inr (.inl ⟨rfl,compared (.time accepted on failed time)⟩)
    | heartbeat accepted passed => exact .inr (.inl ⟨rfl,passed_number accepted passed rfl rfl⟩)
    | testRequest accepted passed on id fault =>
      exact .inr (.inl ⟨rfl,verify_number positive (passed.resolve_left on) rfl⟩)
    | reject accepted passed => exact .inr (.inl ⟨rfl,relaxed_number accepted passed (.inl rfl)⟩)
    | resendRequestMalformed accepted => exact absurd accepted.1 other
    | resendRequestCounted accepted => exact absurd accepted.1 other
    | resendRequestAhead accepted => exact absurd accepted.1 other
    | sequenceReset accepted passed on target forwards => exact .inr (.inr ⟨rfl,accepted.1,target⟩)
    | logout accepted passed => exact .inr (.inl ⟨rfl,relaxed_number accepted passed (.inr rfl)⟩)
    | logon accepted passed phase =>
      exact .inr (.inl ⟨rfl,verify_number positive (passed.resolve_left (by simp [phase])) rfl⟩)
    | delivered accepted passed => exact .inr (.inl ⟨rfl,passed_number accepted passed rfl rfl⟩)
    | queued => exact .inl (Core.next_enqueue c m)
    | _ => exact .inl rfl

end

/-! ### Runs -/

variable [LawfulMessageStore S]

/-- The message that arrives is received, and what waited still waits. -/
theorem queued_arrival {env : Env} {raw_message : Bytes} {w v : World S} {m : Message} (queued : Queued (core w))
    (arrived : arrival env raw_message w = some (v,m)) : Queued (core v) ∧ m ∈ received (core v).log := by
  obtain ⟨-,c,aside,same⟩ := arrival_core arrived
  rw [same]
  refine ⟨fun gap phase x member => ?_,by simp [take_received]⟩
  simp only [received_add,take_received,List.mem_append]
  exact .inl (queued_aside queued aside gap phase x member)

theorem frame_queued {env : Env} {raw_message : Bytes} {w : World S} (queued : Queued (core w)) :
    FrameRule env raw_message w (fun _ _ => True) (fun backlog c => Queued c ∧ ∀ x ∈ backlog, x ∈ received c.log)
      Queued Queued where
  step v m rest v' _ held executed replays := by
    obtain ⟨queue,backlog⟩ := held
    have here := backlog m (by simp)
    refine ⟨queued_replays queue here replays,fun x member => ?_⟩
    rw [received_replays replays]
    exact backlog x (by simp [member])
  stops v m rest c' _ held replays := queued_replays held.1 (held.2 m (by simp)) replays
  unfinished v m u arrived executed step _ := by
    obtain ⟨queue,here⟩ := queued_arrival queued arrived
    exact ⟨queued_step queue here step,by simp⟩
  finished v m u gap arrived executed step phase _ := by
    obtain ⟨queue,here⟩ := queued_arrival queued arrived
    exact ⟨queued_phase (by simp),fun x member => queued_step queue here step gap phase x member⟩
  stopped v m c' arrived step := by
    obtain ⟨queue,here⟩ := queued_arrival queued arrived
    exact queued_step queue here step
  returned _ held := held.1
  failed _ _ := queued_phase (by simp)
  skipped _ aside := queued_aside queued aside
  broken _ _ _ := queued_phase (by simp)
  invalid c c' m reason aside built answered := by
    have queue := queued_aside queued aside
    cases answered with
    | ignored _ => exact queue
    | counted _ _ _ => exact queued_same queue received_count rfl

/-- In every run, what waits was received on the present connection. -/
theorem reachable_queued {env : Env} {allowed : World S → Input → Prop} {store : S} {w : World S}
    (run : Reachable env allowed (World.initial store) w) : Queued (core w) := by
  refine reachable_rule Queued (fun gap phase => by cases phase) (fun _ _ _ _ held turn => queued_turn held turn) ?_ run
  intro v raw_message _ _ held
  exact ⟨_,_,frame_queued held,fun _ _ => trivial⟩

/-- The messages received since the last connection of a journal. -/
def received_on_connection (journal : List Effect) : List Message :=
  journal.foldl (fun messages entry =>
    match entry with
    | .Connected _ => []
    | .Received m => messages ++ [m]
    | _ => messages) []

omit [MessageStore S] [LawfulMessageStore S] in
theorem received_observed (journal : List Effect) :
    received (journal.filterMap observe) = received_on_connection journal := by
  unfold received received_on_connection
  rw [List.foldl_filterMap]
  congr 1
  funext messages entry
  cases entry with
  | Sent writer m raw =>
    simp only [observe]
    split_ifs <;> rfl
  | _ => rfl

/-- The replayed message is a SequenceReset that takes the session from a number up
    to `n` past it. -/
def covers (env : Env) (w : World S) (m : Message) (n : Nat) : Prop :=
  m.kind = some .SequenceReset ∧ next_target w ≤ n ∧ n < next_target (final (replay_message env m w)) ∧
    m.body.get_u64 NEW_SEQ_NO = some (next_target (final (replay_message env m w)))

/-- The number was received on the connection, or a replayed SequenceReset covers it. -/
def Accounted (env : Env) (u : World S) (n : Nat) : Prop :=
  (∃ r ∈ received_on_connection u.journal, r.msg_seq_num = some n) ∨
    ∃ p ∈ replayed_after env u, covers env p.1 p.2 n

instance (env : Env) (u : World S) (n : Nat) : Decidable (Accounted env u n) :=
  inferInstanceAs (Decidable ((∃ r ∈ _,_) ∨ ∃ p ∈ _,_ ∧ _ ∧ _ ∧ _))

theorem accounted_next {env : Env} {u v : World S} {m : Message} {c' : Core} {returns : Bool}
    (member : (v,m) ∈ replayed_after env u) (compared : blind env v m = true → m.msg_seq_num = some (next_target v))
    (here : m ∈ received_on_connection u.journal)
    (before : ∀ n, next_target u ≤ n → n < (core v).next → Accounted env u n)
    (executed : returns = true → next_target (final (replay_message env m v)) = c'.next)
    (replays : Replays env (faults env v.store m) (env.timestamp_now v.clock_readings) (core v) m c' returns) :
    ∀ n, next_target u ≤ n → n < c'.next → Accounted env u n := by
  intro n low high
  by_cases old : n < (core v).next
  · exact before n low old
  · obtain same | ⟨counted,number⟩ | ⟨done,kind,target⟩ :=
      replays_next (next_positive v) (fun counted => compared (blind_of counted)) replays
    · omega
    · have equal : n = (core v).next := by omega
      exact .inl ⟨m,here,equal ▸ number⟩
    · refine .inr ⟨(v,m),member,kind,Nat.le_of_not_lt old,?_⟩
      rw [executed done]
      exact ⟨high,target⟩

theorem replay_accounted (env : Env) (u : World S) :
    ReplayRule env (fun v m => (v,m) ∈ replayed_after env u ∧ (blind env v m = true → m.msg_seq_num = some (next_target v)))
      (fun backlog c => (∀ x ∈ backlog, x ∈ received_on_connection u.journal) ∧
        ∀ n, next_target u ≤ n → n < c.next → Accounted env u n)
      (fun c => ∀ n, next_target u ≤ n → n < c.next → Accounted env u n) where
  step v m rest v' fine held executed replays := by
    obtain ⟨backlog,before⟩ := held
    refine ⟨fun x later => backlog x (by simp [later]),?_⟩
    exact accounted_next fine.1 fine.2 (backlog m (by simp)) before (fun _ => by rw [executed]; rfl) replays
  stops v m rest c' fine held replays := by
    obtain ⟨backlog,before⟩ := held
    exact accounted_next fine.1 fine.2 (backlog m (by simp)) before (by simp) replays

/-- The world in which the end of a resend is looked for, once a frame has been
    processed. -/
def processed (env : Env) (raw_message : Bytes) (w : World S) : Option (World S) :=
  match arrival env raw_message w with
  | some (v,m) =>
    match process_message env m v with
    | .ok _ u => some u
    | .error _ _ => none
  | none => none

omit [LawfulMessageStore S] in
theorem processed_some {env : Env} {raw_message : Bytes} {w u : World S} (left : processed env raw_message w = some u) :
    ∃ v m, arrival env raw_message w = some (v,m) ∧ process_message env m v = .ok () u := by
  unfold processed at left
  split at left
  · next v m arrived =>
    split at left
    · next done =>
      cases left
      exact ⟨v,m,arrived,done⟩
    · cases left
  · cases left

/-- While every replayed message is compared, the end of a resend skips no number
    that was not received, and counts a waiting request only for its own number. -/
theorem replay_skips_nothing {env : Env} {store : S} {w u : World S} {raw_message : Bytes}
    (run : Reachable env (fun _ _ => True) (World.initial store) w)
    (compared : Compared env w (.Event (.FixMessageReceived raw_message)))
    (left : processed env raw_message w = some u) :
    (∀ n, next_target u ≤ n → n < next_target (final (check_end_of_resend env u)) → Accounted env u n) ∧
      ∀ p ∈ replayed_after env u, p.2.kind = some .ResendRequest →
        next_target p.1 < next_target (final (replay_message env p.2 p.1)) → p.2.msg_seq_num = some (next_target p.1) := by
  obtain ⟨v,m,arrived,done⟩ := processed_some left
  have conds : ∀ p ∈ replayed_after env u, blind env p.1 p.2 = true → p.2.msg_seq_num = some (next_target p.1) := by
    intro p member
    exact compared p (by simpa [taken,arrived,done] using member)
  refine ⟨?_,fun p member kind _ => conds p member (blind_of (.request kind))⟩
  have queued : Queued (core u) := by
    have step := process_message_steps env m v
    unfold Steps at step
    rw [runs_ok done] at step
    obtain ⟨queue,here⟩ := queued_arrival (reachable_queued run) arrived
    exact queued_step queue here step
  have backlog : ∀ gap, (core u).phase = .AwaitingResend gap → ∀ x ∈ gap.queue, x ∈ received_on_connection u.journal :=
    fun gap phase x member => received_observed u.journal ▸ queued gap phase x member
  have none_yet : ∀ n, next_target u ≤ n → n < (core u).next → Accounted env u n :=
    fun n low high => absurd low (Nat.not_le_of_lt high)
  have replays := check_end_of_resend_runs (replay_accounted env u) (fun p member => ⟨member,conds p member⟩)
    (fun _ => ⟨by simp,none_yet⟩) (fun gap phase _ => ⟨backlog gap phase,none_yet⟩)
  exact (runs_final (fun w' => ∀ n, next_target u ≤ n → n < (core w').next → Accounted env u n)).mp
    (runs_mono replays (fun _ _ held => held.2) (fun _ _ held => held))

/-- The gap from 2 to 5 is filled at once, while a request with the given number waits. -/
def requested (n : Nat) : Env := valid [logon,report 5,resend_request n 1 1,gap_fill 2 6]

def waiting (n : Nat) : World Store :=
  after (requested n) [connect,receive logon,receive (report 5),receive (resend_request n 1 1)]

/-- A request with number 4 waits, number 6 is expected, and the replay of the
    request moves past 6, which nobody has sent. -/
theorem waiting_request_skips :
    Reachable (requested 4) (fun _ _ => True) start (waiting 4) ∧
      ∃ u, processed (requested 4) (Sample.wire (gap_fill 2 6)) (waiting 4) = some u ∧ next_target u = 6 ∧
        next_target (final (check_end_of_resend (requested 4) u)) = 7 ∧ ¬ Accounted (requested 4) u 6 ∧
        ∃ p ∈ replayed_after (requested 4) u, p.2.kind = some .ResendRequest ∧ p.2.msg_seq_num = some 4 ∧
          next_target p.1 = 6 ∧ next_target (final (replay_message (requested 4) p.2 p.1)) = 7 := by
  refine ⟨reachable_after (by decide +kernel),?_⟩
  have shown : ∃ u ∈ processed (requested 4) (Sample.wire (gap_fill 2 6)) (waiting 4), next_target u = 6 ∧
      next_target (final (check_end_of_resend (requested 4) u)) = 7 ∧ ¬ Accounted (requested 4) u 6 ∧
      ∃ p ∈ replayed_after (requested 4) u, p.2.kind = some .ResendRequest ∧ p.2.msg_seq_num = some 4 ∧
        next_target p.1 = 6 ∧ next_target (final (replay_message (requested 4) p.2 p.1)) = 7 := by decide +kernel
  exact shown

/-- A request with number 6 waits and is counted as 6. -/
theorem waiting_request_counted :
    ∃ u, processed (requested 6) (Sample.wire (gap_fill 2 6)) (waiting 6) = some u ∧ next_target u = 6 ∧
      next_target (final (check_end_of_resend (requested 6) u)) = 7 ∧ Accounted (requested 6) u 6 := by
  have reached : Reachable (requested 6) (fun _ _ => True) start (waiting 6) := reachable_after (by decide +kernel)
  have compared : Compared (requested 6) (waiting 6) (receive (gap_fill 2 6)) := by decide +kernel
  have shown : ∃ u ∈ processed (requested 6) (Sample.wire (gap_fill 2 6)) (waiting 6), next_target u = 6 ∧
      next_target (final (check_end_of_resend (requested 6) u)) = 7 := by decide +kernel
  obtain ⟨u,left,before,after⟩ := shown
  have accounted := (replay_skips_nothing reached compared left).1 6 (by omega) (by omega)
  exact ⟨u,left,before,after,accounted⟩

end HotFix.Replay
