import HotFix.Loop
import HotFix.Outcomes

/-!
The end of a resend is noticed: between two inputs, the expected number has not
passed the end of a gap that is still awaited. Two ways to pass it unnoticed are
excluded: a message of unknown type that carries the last number of the gap, and a
replay that goes past the end of a gap which it has opened itself.
-/
namespace HotFix.Completion
open HotFix.Program HotFix.Protocol HotFix.Operations HotFix.Refinement HotFix.Outcomes HotFix.Loop
open HotFix.Sample (logon report message start connect receive after reachable_after Store)
variable {S : Type} [MessageStore S]

/-! ### The two ways to pass the end unnoticed -/

/-- The handler of the type counts a verified message. -/
def counts (m : Message) : MsgKind → Bool
  | .Heartbeat => true
  | .TestRequest => (m.body.get_str TEST_REQ_ID).isSome
  | .Reject => true
  | .Application => true
  | _ => false

/-- The message, replayed in this world, goes past the end of the gap that is
    awaited. -/
def overruns (env : Env) (w : World S) (m : Message) : Bool :=
  match w.state,m.kind with
  | .AwaitingResend state,some kind =>
    if kind = .ResendRequest then next_target w = state.end_seq_number
    else m.msg_seq_num.any (fun n => n ≤ state.end_seq_number) &&
      match verify_message_with_ctx m env.config (next_target w) (.for_kind kind m)
          (env.timestamp_now w.clock_readings) with
      | .ok () => counts m kind && next_target w = state.end_seq_number ||
          kind = .SequenceReset && (m.body.get_u64 NEW_SEQ_NO).any (fun target => state.end_seq_number < target)
      | .error (.InvalidMessage error) => error.isTimeError && next_target w = state.end_seq_number
      | .error (.SequenceGap _ _) => false
  | _,_ => false

/-- A frame of unknown type carries the last number of the gap, and that is the
    expected one. -/
def unknown_at_end (env : Env) (w : World S) : Input → Bool
  | .Event (.FixMessageReceived raw_message) =>
    match w.state,env.build raw_message with
    | .AwaitingResend state,.Invalid m (.InvalidMsgType _) =>
      next_target w = state.end_seq_number && m.msg_seq_num = some (next_target w)
    | _,_ => false
  | _ => false

def Noticed (env : Env) (w : World S) (input : Input) : Prop :=
  unknown_at_end env w input = false ∧ ∀ p ∈ (taken env input w).tail, overruns env p.1 p.2 = false

instance (env : Env) (w : World S) (input : Input) : Decidable (Noticed env w input) :=
  inferInstanceAs (Decidable (_ ∧ _))

/-! ### The gap stays open -/

/-- The expected number lies within the gap that is awaited. -/
def Within (c : Core) : Prop := ∀ gap, c.phase = .AwaitingResend gap → c.next ≤ gap.last ∧ 1 < gap.last

section
variable {env : Env} {faults : Faults} {now : Timestamp} {c c' : Core} {m : Message}

theorem within_phase {phase : Phase} (other : ∀ gap, phase ≠ .AwaitingResend gap) : Within (c.goto phase) :=
  fun gap here => absurd here (other gap)

theorem within_gap {gap : Gap} (above : c.next ≤ gap.last) (wide : 1 < gap.last) :
    Within (c.goto (.AwaitingResend gap)) := by
  rintro _ ⟨⟩
  exact ⟨above,wide⟩

theorem Within.count (within : Within c) (room : ∀ gap, c.phase = .AwaitingResend gap → c.next ≠ gap.last) :
    Within c.count := by
  intro gap phase
  obtain ⟨above,wide⟩ := within gap phase
  have other := room gap phase
  exact ⟨by simp only [Core.next_count]; omega,wide⟩

theorem Within.jump (within : Within c) {n : Nat} (room : ∀ gap, c.phase = .AwaitingResend gap → n ≤ gap.last) :
    Within (c.jump n) :=
  fun gap phase => ⟨room gap phase,(within gap phase).2⟩

theorem Within.enqueue (within : Within c) (m : Message) : Within (c.enqueue m) := by
  unfold Core.enqueue
  split
  · next gap phase => exact within_gap (within gap phase).1 (within gap phase).2
  · exact within

theorem within_aside (within : Within c) (aside : Aside c c') : Within c' := by
  cases aside with
  | stayed => exact within
  | loggingOut on => exact within_phase (by simp)
  | left => exact within_phase (by simp)
  | restarted => exact fun gap phase => ⟨Nat.le_of_lt (within gap phase).2,(within gap phase).2⟩

theorem within_turn {asks : Prop} {input : Input} (within : Within c) (turn : Turn asks input c c') : Within c' := by
  cases turn with
  | aside aside => exact within_aside within aside
  | left aside => exact within_phase (by simp)
  | connected connect aside => exact within_phase (by simp)
  | reset connect aside => exact fun gap phase => by cases phase
  | set admin phase => exact within.jump (by simp [phase])
  | asked may => exact within

/-- The message leaves the end of the gap ahead. -/
structure Room (env : Env) (now : Timestamp) (c : Core) (m : Message) (gap : Gap) : Prop where
  request : m.kind = some .ResendRequest → c.next ≠ gap.last
  counted : ∀ k, Accepted c m k → k ≠ .ResendRequest → verify env now c m k = .ok () → counts m k = true →
    c.next ≠ gap.last
  target : ∀ t, Accepted c m .SequenceReset → verify env now c m .SequenceReset = .ok () →
    m.body.get_u64 NEW_SEQ_NO = some t → t ≤ gap.last
  time : ∀ k e, Accepted c m k → k ≠ .ResendRequest → verify env now c m k = .error (.InvalidMessage e) →
    e.isTimeError = true → c.next ≠ gap.last

theorem replays_within (sound : ¬ faults.store) (positive : 0 < c.next) (within : Within c)
    (room : ∀ gap, c.phase = .AwaitingResend gap → Room env now c m gap)
    (replays : Replays env faults now c m c' true) : Within c' := by
  cases replays with
  | request kind => exact within.count (fun gap phase => (room gap phase).request kind)
  | took other step =>
    have noRequest : ∀ {k}, Accepted c m k → k ≠ .ResendRequest := by
      rintro k accepted rfl
      exact other accepted.1
    have passed_count : ∀ {k}, Accepted c m k → Passed env now c m k → counts m k = true → Within c.count := by
      intro k accepted passed counted
      obtain off | verified := passed
      · exact within.count (by simp [off])
      · exact within.count (fun gap phase => (room gap phase).counted k accepted (noRequest accepted) verified counted)
    cases step with
    | queued => exact within.enqueue m
    | terminated => exact within_phase (by simp)
    | badTime accepted on failed time =>
      exact within.count (fun gap phase => (room gap phase).time _ _ accepted (noRequest accepted) failed time)
    | gapOpened accepted phase failed number above =>
      refine within_gap (c := c.add .Requested) (Nat.le_of_lt above) ?_
      simp only
      omega
    | gapUpdated accepted phase failed number above updated =>
      have last := (Gap.update_some updated).1
      refine within_gap (c := c.add .Requested) ?_ ?_
      · rw [last]
        exact Nat.le_of_lt above
      · rw [last]
        omega
    | gaveUp => exact within_phase (by simp)
    | heartbeat accepted passed => exact passed_count accepted passed rfl
    | testRequest accepted passed on id fault => exact passed_count accepted passed id
    | reject accepted passed => exact passed_count accepted passed rfl
    | resendRequestMalformed accepted => exact absurd rfl (noRequest accepted)
    | resendRequestCounted accepted => exact absurd rfl (noRequest accepted)
    | resendRequestAhead accepted => exact absurd rfl (noRequest accepted)
    | sequenceReset accepted passed on target forwards =>
      obtain off | verified := passed
      · exact absurd off on
      · exact within.jump (fun gap phase => (room gap phase).target _ accepted verified target)
    | logout => exact within_phase (by simp)
    | logon => exact within_phase (by simp)
    | delivered accepted passed =>
      exact passed_count accepted passed rfl
    | badTimeFailed accepted on failed time fault => exact absurd fault sound
    | _ => exact within

end

theorem room_of_overruns {env : Env} {v : World S} {m : Message} {state : AwaitingResendState}
    (awaiting : v.state = .AwaitingResend state) (harmless : overruns env v m = false) :
    Room env (env.timestamp_now v.clock_readings) (core v) m (gapOf state) := by
  have phase : (core v).phase = .AwaitingResend (gapOf state) := by simp [phaseOf,awaiting]
  have numbered : ∀ {k}, Accepted (core v) m k → k ≠ .ResendRequest →
      m.msg_seq_num.any (fun n => n ≤ state.end_seq_number) = true := by
    intro k accepted other
    have within := accepted.2
    rw [phase] at within
    obtain ⟨n,number,low | request⟩ := within
    · simpa [number] using low
    · exact absurd request other
  unfold overruns at harmless
  rw [awaiting] at harmless
  refine ⟨?_,?_,?_,?_⟩
  · intro kind
    simpa [kind] using harmless
  · intro k accepted other verified counted
    have reached : verify_message_with_ctx m env.config (next_target v) (.for_kind k m)
      (env.timestamp_now v.clock_readings) = .ok () := verified
    simp only [accepted.1,if_neg other,numbered accepted other,reached,counted,Bool.true_and,Bool.or_eq_false_iff,
      decide_eq_false_iff_not] at harmless
    exact harmless.1
  · intro t accepted verified target
    have reached : verify_message_with_ctx m env.config (next_target v) (.for_kind .SequenceReset m)
      (env.timestamp_now v.clock_readings) = .ok () := verified
    simpa [accepted.1,numbered accepted (by simp),reached,target,counts] using harmless
  · intro k e accepted other failed time
    have reached : verify_message_with_ctx m env.config (next_target v) (.for_kind k m)
      (env.timestamp_now v.clock_readings) = .error (.InvalidMessage e) := failed
    simpa [accepted.1,other,numbered accepted other,reached,time] using harmless

/-- A counted message of unknown type leaves the end of the gap ahead. -/
theorem within_unknown {env : Env} {w : World S} {raw_message : Bytes} {m : Message} {t : Bytes} {c : Core}
    (known : unknown_at_end env w (.Event (.FixMessageReceived raw_message)) = false) (within : Within (core w))
    (aside : Aside (core w) c) (built : env.build raw_message = .Invalid m (.InvalidMsgType t))
    (number : m.msg_seq_num = some c.next) : Within c.count := by
  refine (within_aside within aside).count (fun gap phase => ?_)
  cases aside with
  | stayed =>
    cases state : w.state with
    | AwaitingResend awaiting =>
      simp only [core_phase,phaseOf,state,Phase.AwaitingResend.injEq] at phase
      subst phase
      simpa [unknown_at_end,state,built,number] using known
    | _ => simp [phaseOf,state] at phase
  | loggingOut on => cases phase
  | left => cases phase
  | restarted => exact Nat.ne_of_lt (within gap phase).2

variable [LawfulMessageStore S]

theorem frame_within (succeeds : StoreSucceeds S) {env : Env} {w : World S} {raw_message : Bytes}
    (known : unknown_at_end env w (.Event (.FixMessageReceived raw_message)) = false) (within : Within (core w)) :
    FrameRule env raw_message w (fun v m => overruns env v m = false) (fun _ => Within) (fun _ => True) Within where
  step v m rest v' harmless held executed replays := by
    refine replays_within (faults_sound succeeds env v.store m) (next_positive v) held (fun gap phase => ?_) replays
    cases state : v.state with
    | AwaitingResend awaiting =>
      simp only [core_phase,phaseOf,state,Phase.AwaitingResend.injEq] at phase
      subst phase
      exact room_of_overruns state harmless
    | _ => simp [phaseOf,state] at phase
  stops _ _ _ _ _ _ _ := trivial
  unfinished v m u arrived executed step unpassed := by
    intro gap phase
    refine ⟨unpassed gap phase,?_⟩
    obtain ⟨-,c,aside,same⟩ := arrival_core arrived
    obtain ⟨gap₀,before,equal,-⟩ | ⟨-,above,-⟩ := step_awaits step phase
    · rw [same] at before
      rw [← equal]
      exact (within_aside within aside gap₀ before).2
    · have positive := next_positive v
      omega
  finished _ _ _ _ _ _ _ _ _ := within_phase (by simp)
  stopped _ _ _ _ _ := trivial
  returned _ held := held
  failed _ _ := within_phase (by simp)
  skipped _ aside := within_aside within aside
  broken _ _ _ := within_phase (by simp)
  invalid c c' m reason aside built answered := by
    cases answered with
    | ignored _ => exact within_aside within aside
    | counted unknown on number => exact within_unknown known within aside (unknown ▸ built) number

/-- While every end of a resend can be noticed, a resend that is awaited has not been
    passed. -/
theorem awaited_gap_open (succeeds : StoreSucceeds S) {env : Env} {store : S} {w : World S} {state : AwaitingResendState}
    (run : Reachable env (Noticed env) (World.initial store) w) (awaiting : w.state = .AwaitingResend state) :
    next_target w ≤ state.end_seq_number := by
  have within : Within (core w) := by
    refine reachable_rule (fun _ => True) (fun gap phase => by cases phase)
      (fun _ _ _ _ held turn => within_turn held turn) ?_ run
    intro v raw_message _ fine held
    exact ⟨_,_,frame_within succeeds fine.1 held,fine.2⟩
  exact (within (gapOf state) (by simp [phaseOf,awaiting])).1

theorem awaiting_of_status {state : SessionState} {first last attempts : Nat}
    (status : state.as_status = .AwaitingResend first last attempts) :
    ∃ awaiting, state = .AwaitingResend awaiting ∧ awaiting.end_seq_number = last := by
  cases state with
  | AwaitingResend awaiting =>
    simp only [SessionState.as_status,Status.AwaitingResend.injEq] at status
    exact ⟨awaiting,rfl,status.2.1⟩
  | _ => cases status

/-- A message of a type that the dictionary does not know. -/
def unknown (n : Nat) : Message := message (ascii "ZZ") n []

def dictionary : Env :=
  Sample.env [(logon,.Valid),(report 2,.Valid),(report 3,.Valid),(unknown 3,fun m => .Invalid m (.InvalidMsgType (ascii "ZZ")))]

/-- The gap from 2 to 3 is filled by a report and a message of unknown type, and the
    session goes on waiting for it. -/
theorem completion_missed :
    Reachable dictionary (fun _ _ => True) start
        (after dictionary [connect,receive logon,receive (report 3),receive (report 2),receive (unknown 3)]) ∧
      (after dictionary [connect,receive logon,receive (report 3),receive (report 2),receive (unknown 3)]).state.as_status =
        .AwaitingResend 2 3 1 ∧
      next_target (after dictionary [connect,receive logon,receive (report 3),receive (report 2),receive (unknown 3)]) = 4 :=
  ⟨reachable_after (by decide +kernel),by decide +kernel⟩

/-- One report short of the end, the gap is open. -/
theorem gap_open_before_end :
    (after dictionary [connect,receive logon,receive (report 3),receive (report 2)]).state.as_status =
        .AwaitingResend 2 3 1 ∧
      next_target (after dictionary [connect,receive logon,receive (report 3),receive (report 2)]) ≤ 3 := by
  have status : (after dictionary [connect,receive logon,receive (report 3),receive (report 2)]).state.as_status =
    .AwaitingResend 2 3 1 := by decide +kernel
  have along : AllowedAlong dictionary (Noticed dictionary) [connect,receive logon,receive (report 3),receive (report 2)]
    start := by decide +kernel
  obtain ⟨awaiting,here,last⟩ := awaiting_of_status status
  have unpassed := awaited_gap_open (InMemoryMessageStore.succeeds .exact) (reachable_after along) here
  exact ⟨status,last ▸ unpassed⟩

end HotFix.Completion
