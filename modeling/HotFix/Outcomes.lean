import HotFix.Refinement

/-!
What a step leaves, told by the message: one that is set aside waits, one that fails
verification is refused, and one that passes leaves what the handler of its type
leaves. The proofs about counting, recovery and replay invert steps through these
lemmas only.
-/
namespace HotFix.Outcomes
open HotFix.Program HotFix.Protocol HotFix.Operations HotFix.Refinement
variable {S : Type} [MessageStore S]

/-- The message is queued or refused before it is verified. -/
def SetAside (c : Core) (m : Message) (k : MsgKind) : Prop :=
  c.phase = .AwaitingLogon ∧ k ≠ .Logon ∨
    ∃ gap n, c.phase = .AwaitingResend gap ∧ m.msg_seq_num = some n ∧ gap.last < n ∧ k ≠ .ResendRequest

section
variable {env : Env} {faults : Faults} {now : Timestamp} {c c' : Core} {m : Message} {k : MsgKind} {returns : Bool}

theorem not_setAside_of_accepted (accepted : Accepted c m k) : ¬ SetAside c m k := by
  rintro (⟨logon,other⟩ | ⟨gap,n,awaiting,number,beyond,other⟩)
  · have only := accepted.2
    rw [logon] at only
    exact other only
  · have within := accepted.2
    rw [awaiting] at within
    obtain ⟨n',number',low | request⟩ := within
    · rw [number] at number'
      cases number'
      omega
    · exact other request

/-- A message that is set aside waits in the queue of the gap, if there is one. -/
theorem step_setAside (kind : m.kind = some k) (aside : SetAside c m k) (step : Step env faults now c m c' returns) :
    c' = c.enqueue m ∧ returns = true := by
  have never : ∀ {k'}, ¬ Accepted c m k' := by
    intro k' accepted
    have same := accepted.1
    rw [kind] at same
    cases same
    exact not_setAside_of_accepted accepted aside
  cases step with
  | queued => exact ⟨rfl,rfl⟩
  | refused phase _ => exact ⟨by simp [Core.enqueue,phase],rfl⟩
  | unnumbered phase number =>
    obtain ⟨logon,-⟩ | ⟨gap,n,-,here,-⟩ := aside
    · rw [phase] at logon
      cases logon
    · rw [number] at here
      cases here
  | untyped none =>
    rw [kind] at none
    cases none
  | _ => exact absurd ‹Accepted c m _› never

theorem step_setAside_next (kind : m.kind = some k) (aside : SetAside c m k) (step : Step env faults now c m c' returns) :
    c'.next = c.next := by
  rw [(step_setAside kind aside step).1]
  exact Core.next_enqueue c m

theorem kind_unique {k' : MsgKind} (accepted : Accepted c m k') (kind : m.kind = some k) : k' = k := by
  have same := accepted.1
  rw [kind] at same
  exact (Option.some.inj same).symm

/-- What the handler of a verified message with number `n` leaves. -/
def outcome (c : Core) (m : Message) (n : Nat) : MsgKind → Core
  | .Heartbeat => c.count
  | .TestRequest => c.count
  | .ResendRequest => if WellFormedRequest m ∧ n = c.next then c.count else if c.next < n then c.enqueue m else c
  | .Reject => c.count
  | .SequenceReset =>
    match m.body.get_u64 NEW_SEQ_NO with
    | some target => if c.next < target then c.jump target else c
    | none => c
  | .Logout => c.count.goto .Disconnected
  | .Logon =>
    match c.phase with
    | .AwaitingLogon => c.count.goto .Active
    | _ => c
  | .Application => (c.add (.Delivered m)).count

theorem outcome_counts_iff (phase : c.phase ≠ .AwaitingLogon) (other : k ≠ .SequenceReset) :
    (outcome c m c.next k).next = c.next + 1 ↔ k ≠ .Logon ∧ (k = .ResendRequest → WellFormedRequest m) := by
  cases k with
  | Logon => simp [outcome]
  | ResendRequest =>
    by_cases wellFormed : WellFormedRequest m
    · simp [outcome,wellFormed]
    · simp [outcome,wellFormed]
  | SequenceReset => exact absurd rfl other
  | _ => simp [outcome]

/-- A verified message leaves what its handler leaves, unless a TestRequest without
    an identifier panics. -/
theorem step_outcome {n : Nat} (sound : returns = false → ¬ faults.store) (kind : m.kind = some k) (number : m.msg_seq_num = some n)
    (on : c.connected) (verified : verify env now c m k = .ok ()) (taken : ¬ SetAside c m k)
    (step : Step env faults now c m c' returns) :
    c' = outcome c m n k ∨ k = .TestRequest ∧ returns = false := by
  have passes : ∀ {k' issue}, Accepted c m k' → verify env now c m k' ≠ .error issue := by
    intro k' issue accepted failed
    cases kind_unique accepted kind
    rw [verified] at failed
    cases failed
  rw [or_iff_not_imp_right]
  intro noPanic
  cases step with
  | queued phase number' kind' other beyond =>
    rw [kind] at kind'
    cases kind'
    exact absurd (.inr ⟨_,_,phase,number',beyond,other⟩) taken
  | unnumbered phase none =>
    rw [number] at none
    cases none
  | refused phase other => exact absurd (.inl ⟨phase,fun logon => other (logon ▸ kind)⟩) taken
  | untyped none =>
    rw [kind] at none
    cases none
  | heartbeat accepted => cases kind_unique accepted kind; rfl
  | testRequest accepted passed on id fault => cases kind_unique accepted kind; rfl
  | testRequestPanic accepted passed on id => cases kind_unique accepted kind; exact absurd ⟨rfl,rfl⟩ noPanic
  | reject accepted => cases kind_unique accepted kind; rfl
  | resendRequestPanic accepted passed on none =>
    rw [number] at none
    cases none
  | resendRequestMalformed accepted passed on number' malformed fault =>
    cases kind_unique accepted kind
    rw [number] at number'
    cases number'
    simp [outcome,malformed]
  | resendRequestCounted accepted passed on number' wellFormed fault =>
    cases kind_unique accepted kind
    rw [number] at number'
    cases number'
    simp [outcome,wellFormed]
  | resendRequestAhead accepted passed on number' other wellFormed fault =>
    cases kind_unique accepted kind
    rw [number] at number'
    cases number'
    simp [outcome,other]
  | sequenceResetPanic accepted passed on none =>
    rw [number] at none
    cases none
  | sequenceResetRejected accepted passed on backwards fault =>
    cases kind_unique accepted kind
    simp only [outcome]
    cases target : m.body.get_u64 NEW_SEQ_NO with
    | none => rfl
    | some target' => exact (if_neg (Nat.not_lt_of_le (backwards target' target))).symm
  | sequenceReset accepted passed on target forwards =>
    cases kind_unique accepted kind
    simp [outcome,target,forwards]
  | logout accepted => cases kind_unique accepted kind; rfl
  | logon accepted passed phase =>
    cases kind_unique accepted kind
    simp [outcome,phase]
  | logonIgnored accepted passed phase =>
    cases kind_unique accepted kind
    simp only [outcome]
  | delivered accepted => cases kind_unique accepted kind; rfl
  | deliveredFailed accepted passed fault =>
    obtain broken | none := fault
    · exact absurd broken (sound rfl)
    · rw [number] at none
      cases none
  | unhandled accepted phase inert => exact absurd phase on
  | storeFailed accepted fault => exact absurd fault (sound rfl)
  | logoutFailed accepted passed left fault => exact absurd fault (sound rfl)
  | terminated accepted on failed => exact absurd failed (passes accepted)
  | duplicate accepted on failed => exact absurd failed (passes accepted)
  | badTime accepted on failed => exact absurd failed (passes accepted)
  | badTimeFailed accepted on failed => exact absurd failed (passes accepted)
  | gapOpened accepted phase failed => exact absurd failed (passes accepted)
  | gapUpdated accepted phase failed => exact absurd failed (passes accepted)
  | gapUpdateFailed accepted phase failed => exact absurd failed (passes accepted)
  | gaveUp accepted phase failed => exact absurd failed (passes accepted)
  | gapIgnored accepted phase failed => exact absurd failed (passes accepted)

/-- The gap that is awaited after a step, and what waits in it: it was awaited before,
    with the same end, or it reaches beyond the expected number. -/
theorem step_awaits {gap' : Gap} (step : Step env faults now c m c' returns) (phase' : c'.phase = .AwaitingResend gap') :
    (∃ gap, c.phase = .AwaitingResend gap ∧ gap.last = gap'.last ∧
      (gap'.queue = gap.queue ∨ gap'.queue = gap.queue ++ [m])) ∨
    c'.next = c.next ∧ c.next < gap'.last ∧
      (gap'.queue = [] ∨ ∃ gap, c.phase = .AwaitingResend gap ∧ gap'.queue = gap.queue) := by
  have kept : c.phase = .AwaitingResend gap' → ∃ gap, c.phase = .AwaitingResend gap ∧ gap.last = gap'.last ∧
      (gap'.queue = gap.queue ∨ gap'.queue = gap.queue ++ [m]) := fun phase => ⟨gap',phase,rfl,.inl rfl⟩
  have enqueued : (c.enqueue m).phase = .AwaitingResend gap' → ∃ gap, c.phase = .AwaitingResend gap ∧
      gap.last = gap'.last ∧ (gap'.queue = gap.queue ∨ gap'.queue = gap.queue ++ [m]) := by
    intro here
    unfold Core.enqueue at here
    split at here
    · next gap phase =>
      cases here
      exact ⟨gap,phase,rfl,.inr rfl⟩
    · exact kept here
  cases step with
  | queued => exact .inl (enqueued phase')
  | resendRequestMalformed =>
    split_ifs at phase'
    · exact .inl (enqueued phase')
    · exact .inl (kept phase')
  | resendRequestAhead =>
    split_ifs at phase'
    · exact .inl (enqueued phase')
    · exact .inl (kept phase')
  | gapOpened accepted phase failed number above =>
    cases phase'
    exact .inr ⟨rfl,above,.inl rfl⟩
  | gapUpdated accepted phase failed number above updated =>
    cases phase'
    obtain ⟨last,queue⟩ := Gap.update_some updated
    exact .inr ⟨rfl,last ▸ above,.inr ⟨_,phase,queue⟩⟩
  | gapUpdateFailed accepted phase failed number above updated =>
    cases phase'
    obtain ⟨last,queue⟩ := Gap.update_some updated
    exact .inr ⟨rfl,last ▸ above,.inr ⟨_,phase,queue⟩⟩
  | logoutFailed accepted passed left fault =>
    obtain rfl | rfl := left
    · exact .inl (kept phase')
    · cases phase'
  | terminated => cases phase'
  | gaveUp => cases phase'
  | logout => cases phase'
  | logon => cases phase'
  | _ => exact .inl (kept phase')

/-- What can keep a typed and numbered message from returning, when no write to the
    store fails. -/
theorem step_stops {n : Nat} (sound : ¬ faults.store) (kind : m.kind = some k) (number : m.msg_seq_num = some n)
    (step : Step env faults now c m c' false) :
    k = .TestRequest ∧ m.body.get_str TEST_REQ_ID = none ∨
      k = .ResendRequest ∧ WellFormedRequest m ∧ faults.resend := by
  have numbered : m.msg_seq_num ≠ none := by simp [number]
  cases step with
  | unnumbered phase none => exact absurd none numbered
  | untyped none =>
    rw [kind] at none
    cases none
  | gapUpdateFailed accepted phase failed number above updated fault => exact absurd fault sound
  | testRequest accepted passed on id fault => exact absurd (fault rfl) sound
  | testRequestPanic accepted passed on id => exact .inl ⟨(kind_unique accepted kind).symm,id⟩
  | resendRequestPanic accepted passed on none => exact absurd none numbered
  | resendRequestMalformed accepted passed on number malformed fault => exact absurd (fault rfl) sound
  | resendRequestCounted accepted passed on number wellFormed fault =>
    exact .inr ⟨(kind_unique accepted kind).symm,wellFormed,fault rfl⟩
  | resendRequestAhead accepted passed on number other wellFormed fault =>
    exact .inr ⟨(kind_unique accepted kind).symm,wellFormed,fault rfl⟩
  | sequenceResetPanic accepted passed on none => exact absurd none numbered
  | sequenceResetRejected accepted passed on backwards fault => exact absurd (fault rfl) sound
  | logoutFailed accepted passed left fault => exact absurd fault sound
  | deliveredFailed accepted passed fault => exact absurd (fault.resolve_right numbered) sound
  | storeFailed accepted fault => exact absurd fault sound

/-- What the refusal of a message leaves: a fault of its times is counted, and a gap
    is opened by an active session. -/
def Refused (c c' : Core) (returns : Bool) : VerificationIssue → Prop
  | .InvalidMessage error => error.isTimeError = true → returns = true ∧ c' = c.count
  | .SequenceGap _ a => c.phase = .Active →
      returns = true ∧ c' = (c.add .Requested).goto (.AwaitingResend ⟨c.next,a,1,[]⟩)

theorem step_refused {issue : VerificationIssue} {n : Nat} (sound : ¬ faults.store) (kind : m.kind = some k)
    (number : m.msg_seq_num = some n) (on : c.connected) (failed : verify env now c m k = .error issue)
    (taken : ¬ SetAside c m k) (step : Step env faults now c m c' returns) : Refused c c' returns issue := by
  have stuck : ∀ {k'}, Accepted c m k' → ¬ Passed env now c m k' := by
    rintro k' accepted (off | verified)
    · exact on off
    · cases kind_unique accepted kind
      rw [failed] at verified
      cases verified
  have only : ∀ {k' issue'}, Accepted c m k' → verify env now c m k' = .error issue' → issue = issue' := by
    intro k' issue' accepted here
    cases kind_unique accepted kind
    rw [failed] at here
    exact Except.error.inj here
  have elsewhere : ∀ {phase : Phase}, c.phase = phase → phase ≠ .Active → ¬ c.phase = .Active :=
    fun here other active => other (here.symm.trans active)
  cases step with
  | queued phase number' kind' other beyond =>
    rw [kind] at kind'
    cases kind'
    exact absurd (.inr ⟨_,_,phase,number',beyond,other⟩) taken
  | unnumbered phase none =>
    rw [number] at none
    cases none
  | refused phase other => exact absurd (.inl ⟨phase,fun logon => other (logon ▸ kind)⟩) taken
  | untyped none =>
    rw [kind] at none
    cases none
  | badTime accepted on here time =>
    rw [only accepted here]
    exact fun _ => ⟨rfl,rfl⟩
  | terminated accepted on here noTime =>
    rw [only accepted here]
    exact fun time => absurd time (by simp [noTime])
  | duplicate accepted on here =>
    rw [only accepted here]
    exact fun time => by cases time
  | gapOpened accepted phase here =>
    rw [only accepted here]
    exact fun _ => ⟨rfl,rfl⟩
  | gapUpdated accepted phase here =>
    rw [only accepted here]
    exact fun active => absurd active (elsewhere phase (by simp))
  | gaveUp accepted phase here =>
    rw [only accepted here]
    exact fun active => absurd active (elsewhere phase (by simp))
  | gapIgnored accepted phase here =>
    rw [only accepted here]
    exact fun active => absurd active (elsewhere phase (by simp))
  | badTimeFailed accepted on here time fault => exact absurd fault sound
  | gapUpdateFailed accepted phase here number above updated fault => exact absurd fault sound
  | unhandled accepted phase inert => exact absurd phase on
  | storeFailed accepted fault => exact absurd fault sound
  | _ => exact absurd ‹Passed env now c m _› (stuck ‹_›)

end

/-! ### Worlds -/

/-- The message is not looked at now: before the logon only a Logon is, and while a
    resend is awaited what lies beyond its end waits, except a ResendRequest. -/
def deferred (w : World S) (n : Nat) (k : MsgKind) : Bool :=
  match w.state with
  | .AwaitingLogon _ => k ≠ .Logon
  | .AwaitingResend state => state.end_seq_number < n && k ≠ .ResendRequest
  | _ => false

theorem deferred_iff {w : World S} {m : Message} {n : Nat} (number : m.msg_seq_num = some n) (k : MsgKind) :
    deferred w n k = true ↔ SetAside (core w) m k := by
  unfold deferred SetAside
  cases state : w.state with
  | AwaitingResend awaiting => simp [phaseOf,state,number,gapOf]
  | _ => simp [phaseOf,state]

theorem connected_of {w : World S} (on : w.state.is_connected = true) : (core w).connected := by
  obtain ⟨writer,here⟩ := Option.isSome_iff_exists.mp on
  exact get_writer_some here

theorem faults_sound (succeeds : StoreSucceeds S) (env : Env) (s : S) (m : Message) : ¬ (faults env s m).store :=
  fun fault => fault succeeds

variable {arith : Arith} [CountingStore S arith]

/-- However processing ends, it is a step. -/
theorem process_message_step (env : Env) (m : Message) (w : World S)
    (room : counted env w m = true → Fits arith (core w) := by exact fun _ => rfl) :
    ∃ returns, Step env (faults env w.store m) (env.timestamp_now w.clock_readings) (core w) m
      (core (final (process_message env m w))) returns :=
  (runs_final (fun w' => ∃ returns, Step env (faults env w.store m) (env.timestamp_now w.clock_readings) (core w) m
    (core w') returns)).mp (runs_mono (process_message_steps env m w room) (fun _ _ step => ⟨true,step⟩)
      (fun _ _ step => ⟨false,step⟩))

end HotFix.Outcomes
