import HotFix.Session

/-!
What inbound processing is for, without writers, stores and frames: a receiver of
a numbered stream. Its core is the phase of the session, the number expected next,
and a log of what happened to the numbers. `Step` lists everything the handling of
one message can do to the core, with the conditions under which it does it; the
refinement proves that processing a message never does anything else.
-/
namespace HotFix.Protocol

/-- The numbers awaited from a resend, the requests made for them, and the
    messages beyond them that wait. -/
structure Gap where
  first : Nat
  last : Nat
  attempts : Nat
  queue : List Message

inductive Phase where
  | Disconnected
  | AwaitingLogon
  | Active
  | AwaitingResend (gap : Gap)
  | AwaitingLogout

inductive Note where
  | Connected
  | Received (message : Message)
  | Requested
  | Delivered (message : Message)
  | Counted
  | Jumped (next : Nat)
  | Restarted

structure Core where
  phase : Phase
  next : Nat
  log : List Note

namespace Core

def add (c : Core) (entry : Note) : Core := { c with log := c.log ++ [entry] }
def goto (c : Core) (phase : Phase) : Core := { c with phase }
def count (c : Core) : Core := { c with next := c.next + 1, log := c.log ++ [.Counted] }
def jump (c : Core) (next : Nat) : Core := { c with next, log := c.log ++ [.Jumped next] }

def restart (c : Core) : Core := { c with next := 1, log := c.log ++ [.Restarted] }

/-- The message waits in the queue of the gap, if there is a gap. -/
def enqueue (c : Core) (m : Message) : Core :=
  match c.phase with
  | .AwaitingResend gap => c.goto (.AwaitingResend { gap with queue := gap.queue ++ [m] })
  | _ => c

def connected (c : Core) : Prop := c.phase ≠ .Disconnected

@[simp] theorem next_goto (c : Core) (phase : Phase) : (c.goto phase).next = c.next := rfl
@[simp] theorem next_add (c : Core) (entry : Note) : (c.add entry).next = c.next := rfl
@[simp] theorem next_count (c : Core) : c.count.next = c.next + 1 := rfl
@[simp] theorem next_jump (c : Core) (next : Nat) : (c.jump next).next = next := rfl
@[simp] theorem next_enqueue (c : Core) (m : Message) : (c.enqueue m).next = c.next := by
  unfold enqueue
  split <;> rfl

end Core

/-- The messages carry the numbers from `first` on. -/
def Numbered : Nat → List Message → Prop
  | _,[] => True
  | first,m :: rest => m.msg_seq_num = some first ∧ Numbered (first + 1) rest

/-- Another request for the gap: none once three have been made from the same
    number, or the number went back. -/
def Gap.update (gap : Gap) (first last : Nat) : Option Gap :=
  if gap.first = first then
    if gap.attempts + 1 > MAX_RESEND_ATTEMPTS then none else some { gap with first, last, attempts := gap.attempts + 1 }
  else if first < gap.first then none
  else some { gap with first, last, attempts := 1 }

theorem Gap.update_some {gap gap' : Gap} {first last : Nat} (updated : gap.update first last = some gap') :
    gap'.last = last ∧ gap'.queue = gap.queue := by
  unfold Gap.update at updated
  split_ifs at updated <;> cases updated <;> exact ⟨rfl,rfl⟩

/-- The message is neither queued nor refused before verification. -/
def Accepted (c : Core) (m : Message) (k : MsgKind) : Prop :=
  m.kind = some k ∧
    match c.phase with
    | .AwaitingResend gap => ∃ n, m.msg_seq_num = some n ∧ (n ≤ gap.last ∨ k = .ResendRequest)
    | .AwaitingLogon => k = .Logon
    | _ => True

/-- The verification of a message of a kind against the expected number. -/
def verify (env : Env) (now : Timestamp) (c : Core) (m : Message) (k : MsgKind) : Except VerificationIssue Unit :=
  verify_message_with_ctx m env.config c.next (.for_kind k m) now

theorem verify_gap {env : Env} {now : Timestamp} {c : Core} {m : Message} {k : MsgKind} {e a : Nat}
    (failed : verify env now c m k = .error (.SequenceGap e a)) :
    e = c.next ∧ m.msg_seq_num.getD 0 = a ∧ c.next < a := by
  unfold verify at failed
  rw [verify_message_with_ctx_eq] at failed
  split at failed
  · cases failed
  · obtain ⟨rfl,rfl,above,-⟩ := check_sequence_number_gap failed
    exact ⟨rfl,rfl,above⟩

/-- A message that takes both checks of the number and passes carries the expected one. -/
theorem verify_number {env : Env} {now : Timestamp} {c : Core} {m : Message} {k : MsgKind} (positive : 0 < c.next)
    (verified : verify env now c m k = .ok ())
    (checked : VerificationFlags.for_kind k m = ⟨true,true,m.poss_dup⟩) : m.msg_seq_num = some c.next := by
  unfold verify at verified
  rw [checked,verify_message_with_ctx_eq] at verified
  split at verified
  · cases verified
  · obtain ⟨high,low⟩ := check_sequence_number_ok.mp verified
    have equal : m.msg_seq_num.getD 0 = c.next := Nat.le_antisymm (high rfl) (low rfl)
    cases number : m.msg_seq_num with
    | none =>
      simp only [number,Option.getD_none] at equal
      omega
    | some n =>
      simp only [number,Option.getD_some] at equal
      rw [equal]

/-- Identity and times are right, and the number is not refused. -/
theorem verify_ok {env : Env} {now : Timestamp} {c : Core} {m : Message} {k : MsgKind} {n : Nat}
    (checked : check_identity_and_times m env.config (.for_kind k m) now = .ok ()) (number : m.msg_seq_num = some n)
    (high : (VerificationFlags.for_kind k m).check_too_high = true → n ≤ c.next)
    (low : (VerificationFlags.for_kind k m).check_too_low = true → c.next ≤ n) : verify env now c m k = .ok () := by
  unfold verify
  rw [verify_message_with_ctx_eq,checked,number]
  exact check_sequence_number_ok.mpr ⟨high,low⟩

/-- Identity and times are right, and the number lies ahead. -/
theorem verify_ahead {env : Env} {now : Timestamp} {c : Core} {m : Message} {k : MsgKind} {n : Nat}
    (checked : check_identity_and_times m env.config (.for_kind k m) now = .ok ()) (number : m.msg_seq_num = some n)
    (flag : (VerificationFlags.for_kind k m).check_too_high = true) (above : c.next < n) :
    verify env now c m k = .error (.SequenceGap c.next n) := by
  unfold verify
  rw [verify_message_with_ctx_eq,checked,number]
  exact if_pos ⟨above,flag⟩

/-- The message reaches its handler: it passes verification, or nothing is verified. -/
def Passed (env : Env) (now : Timestamp) (c : Core) (m : Message) (k : MsgKind) : Prop :=
  c.phase = .Disconnected ∨ verify env now c m k = .ok ()

/-- A ResendRequest names both ends of its range. -/
def WellFormedRequest (m : Message) : Prop :=
  (m.body.get_u64 BEGIN_SEQ_NO).isSome ∧ (m.body.get_u64 END_SEQ_NO).isSome

instance (m : Message) : Decidable (WellFormedRequest m) := inferInstanceAs (Decidable (_ ∧ _))

/-- What can fail below the session: a write to the store, or a resend. -/
structure Faults where
  store : Prop
  resend : Prop

/-- What the handling of `m` can do. The last argument says whether it returns. -/
inductive Step (env : Env) (faults : Faults) (now : Timestamp) (c : Core) (m : Message) : Core → Bool → Prop where
  | queued {gap : Gap} {n : Nat} {k : MsgKind} (phase : c.phase = .AwaitingResend gap)
      (number : m.msg_seq_num = some n) (kind : m.kind = some k) (other : k ≠ .ResendRequest) (beyond : gap.last < n) :
      Step env faults now c m (c.enqueue m) true
  | unnumbered {gap : Gap} (phase : c.phase = .AwaitingResend gap) (number : m.msg_seq_num = none) :
      Step env faults now c m c false
  | refused (phase : c.phase = .AwaitingLogon) (kind : m.kind ≠ some .Logon) : Step env faults now c m c true
  | untyped (kind : m.kind = none) : Step env faults now c m c false
  | terminated {k : MsgKind} {e : MessageError} (accepted : Accepted c m k) (on : c.connected)
      (failed : verify env now c m k = .error (.InvalidMessage e)) (noTime : e.isTimeError = false)
      (noDuplicate : ∀ expected actual, e ≠ .SeqNumberTooLow expected actual true) :
      Step env faults now c m (c.goto .Disconnected) true
  | duplicate {k : MsgKind} {e a : Nat} (accepted : Accepted c m k) (on : c.connected)
      (failed : verify env now c m k = .error (.InvalidMessage (.SeqNumberTooLow e a true))) :
      Step env faults now c m c true
  | badTime {k : MsgKind} {e : MessageError} (accepted : Accepted c m k) (on : c.connected)
      (failed : verify env now c m k = .error (.InvalidMessage e)) (time : e.isTimeError = true) :
      Step env faults now c m c.count true
  | badTimeFailed {k : MsgKind} {e : MessageError} (accepted : Accepted c m k) (on : c.connected)
      (failed : verify env now c m k = .error (.InvalidMessage e)) (time : e.isTimeError = true)
      (fault : faults.store) : Step env faults now c m c true
  | gapOpened {k : MsgKind} {a : Nat} (accepted : Accepted c m k) (phase : c.phase = .Active ∨ c.phase = .AwaitingLogon)
      (failed : verify env now c m k = .error (.SequenceGap c.next a)) (number : m.msg_seq_num.getD 0 = a)
      (above : c.next < a) :
      Step env faults now c m ((c.add .Requested).goto (.AwaitingResend ⟨c.next,a,1,[]⟩)) true
  | gapUpdated {k : MsgKind} {gap gap' : Gap} {a : Nat} (accepted : Accepted c m k)
      (phase : c.phase = .AwaitingResend gap) (failed : verify env now c m k = .error (.SequenceGap c.next a))
      (number : m.msg_seq_num.getD 0 = a) (above : c.next < a) (updated : gap.update c.next a = some gap') :
      Step env faults now c m ((c.add .Requested).goto (.AwaitingResend gap')) true
  | gapUpdateFailed {k : MsgKind} {gap gap' : Gap} {a : Nat} (accepted : Accepted c m k)
      (phase : c.phase = .AwaitingResend gap) (failed : verify env now c m k = .error (.SequenceGap c.next a))
      (number : m.msg_seq_num.getD 0 = a) (above : c.next < a) (updated : gap.update c.next a = some gap')
      (fault : faults.store) : Step env faults now c m (c.goto (.AwaitingResend gap')) false
  | gaveUp {k : MsgKind} {gap : Gap} {a : Nat} (accepted : Accepted c m k) (phase : c.phase = .AwaitingResend gap)
      (failed : verify env now c m k = .error (.SequenceGap c.next a)) (updated : gap.update c.next a = none) :
      Step env faults now c m (c.goto .Disconnected) true
  | gapIgnored {k : MsgKind} {a : Nat} (accepted : Accepted c m k) (phase : c.phase = .AwaitingLogout)
      (failed : verify env now c m k = .error (.SequenceGap c.next a)) : Step env faults now c m c true
  | heartbeat (accepted : Accepted c m .Heartbeat) (passed : Passed env now c m .Heartbeat) :
      Step env faults now c m c.count true
  | testRequest {returns : Bool} (accepted : Accepted c m .TestRequest) (passed : Passed env now c m .TestRequest)
      (on : c.connected) (id : (m.body.get_str TEST_REQ_ID).isSome) (fault : returns = false → faults.store) :
      Step env faults now c m c.count returns
  | testRequestPanic (accepted : Accepted c m .TestRequest) (passed : Passed env now c m .TestRequest)
      (on : c.connected) (id : m.body.get_str TEST_REQ_ID = none) : Step env faults now c m c false
  | reject (accepted : Accepted c m .Reject) (passed : Passed env now c m .Reject) : Step env faults now c m c.count true
  | resendRequestPanic (accepted : Accepted c m .ResendRequest) (passed : Passed env now c m .ResendRequest)
      (on : c.connected) (number : m.msg_seq_num = none) : Step env faults now c m c false
  | resendRequestMalformed {n : Nat} {returns : Bool} (accepted : Accepted c m .ResendRequest)
      (passed : Passed env now c m .ResendRequest) (on : c.connected) (number : m.msg_seq_num = some n)
      (malformed : ¬ WellFormedRequest m) (fault : returns = false → faults.store) :
      Step env faults now c m (if c.next < n then c.enqueue m else c) returns
  | resendRequestCounted {returns : Bool} (accepted : Accepted c m .ResendRequest)
      (passed : Passed env now c m .ResendRequest) (on : c.connected) (number : m.msg_seq_num = some c.next)
      (wellFormed : WellFormedRequest m) (fault : returns = false → faults.resend) :
      Step env faults now c m c.count returns
  | resendRequestAhead {n : Nat} {returns : Bool} (accepted : Accepted c m .ResendRequest)
      (passed : Passed env now c m .ResendRequest) (on : c.connected) (number : m.msg_seq_num = some n)
      (other : n ≠ c.next) (wellFormed : WellFormedRequest m) (fault : returns = false → faults.resend) :
      Step env faults now c m (if c.next < n then c.enqueue m else c) returns
  | sequenceResetPanic (accepted : Accepted c m .SequenceReset) (passed : Passed env now c m .SequenceReset)
      (on : c.connected) (number : m.msg_seq_num = none) : Step env faults now c m c false
  | sequenceResetRejected {returns : Bool} (accepted : Accepted c m .SequenceReset)
      (passed : Passed env now c m .SequenceReset) (on : c.connected)
      (backwards : ∀ n, m.body.get_u64 NEW_SEQ_NO = some n → n ≤ c.next) (fault : returns = false → faults.store) :
      Step env faults now c m c returns
  | sequenceReset {n : Nat} (accepted : Accepted c m .SequenceReset) (passed : Passed env now c m .SequenceReset)
      (on : c.connected) (target : m.body.get_u64 NEW_SEQ_NO = some n) (forwards : c.next < n)
      (number : m.msg_seq_num ≠ none) : Step env faults now c m (c.jump n) true
  | logout (accepted : Accepted c m .Logout) (passed : Passed env now c m .Logout) :
      Step env faults now c m (c.count.goto .Disconnected) true
  | logoutFailed {phase : Phase} (accepted : Accepted c m .Logout) (passed : Passed env now c m .Logout)
      (left : phase = c.phase ∨ phase = .Disconnected) (fault : faults.store) :
      Step env faults now c m (c.goto phase) false
  | logon (accepted : Accepted c m .Logon) (passed : Passed env now c m .Logon) (phase : c.phase = .AwaitingLogon) :
      Step env faults now c m (c.count.goto .Active) true
  | logonIgnored (accepted : Accepted c m .Logon) (passed : Passed env now c m .Logon)
      (phase : c.phase ≠ .AwaitingLogon) : Step env faults now c m c true
  | delivered (accepted : Accepted c m .Application) (passed : Passed env now c m .Application) :
      Step env faults now c m (c.add (.Delivered m)).count true
  | deliveredFailed (accepted : Accepted c m .Application) (passed : Passed env now c m .Application)
      (fault : faults.store ∨ m.msg_seq_num = none) : Step env faults now c m (c.add (.Delivered m)) false
  | unhandled {k : MsgKind} (accepted : Accepted c m k) (phase : c.phase = .Disconnected)
      (inert : k = .TestRequest ∨ k = .ResendRequest ∨ k = .SequenceReset) : Step env faults now c m c true
  | storeFailed {k : MsgKind} (accepted : Accepted c m k) (fault : faults.store) : Step env faults now c m c false

theorem Step.to {env : Env} {faults : Faults} {now : Timestamp} {c d d' : Core} {m : Message} {returns : Bool}
    (step : Step env faults now c m d returns) (same : d' = d) : Step env faults now c m d' returns := same ▸ step

/-- What the replay of `m` from the backlog can do: a request is only counted. -/
inductive Replays (env : Env) (faults : Faults) (now : Timestamp) (c : Core) (m : Message) : Core → Bool → Prop where
  | request (kind : m.kind = some .ResendRequest) : Replays env faults now c m c.count true
  | requestFailed (kind : m.kind = some .ResendRequest) (fault : faults.store) : Replays env faults now c m c false
  | took {c' : Core} {returns : Bool} (kind : m.kind ≠ some .ResendRequest)
      (step : Step env faults now c m c' returns) : Replays env faults now c m c' returns

/-- What the answer to an invalid message can do: only an unknown message type is
    counted, and only with the expected number. -/
inductive Invalidated (fault : Prop) (c : Core) (m : Message) (reason : InvalidReason) : Core → Prop where
  | ignored (uncounted : ∀ t, reason = .InvalidMsgType t → c.connected → m.msg_seq_num = some c.next → fault) :
      Invalidated fault c m reason c
  | counted {t : Bytes} (unknown : reason = .InvalidMsgType t) (on : c.connected)
      (number : m.msg_seq_num = some c.next) : Invalidated fault c m reason c.count

theorem Invalidated.to {fault : Prop} {c d d' : Core} {m : Message} {reason : InvalidReason}
    (answered : Invalidated fault c m reason d) (same : d' = d) : Invalidated fault c m reason d' := same ▸ answered

/-- What the schedule, the administrator and the timers can do. -/
inductive Aside (c : Core) : Core → Prop where
  | stayed : Aside c c
  | loggingOut (on : c.connected) : Aside c (c.goto .AwaitingLogout)
  | left : Aside c (c.goto .Disconnected)
  | restarted : Aside c c.restart

theorem Aside.to {c d d' : Core} (aside : Aside c d) (same : d' = d) : Aside c d' := same ▸ aside

/-- What an input other than a frame does. `asks` says whether the application sends
    a request for a resend of its own. -/
inductive Turn (asks : Prop) (input : Input) (c : Core) : Core → Prop where
  | aside {c₁ : Core} (aside : Aside c c₁) : Turn asks input c c₁
  | left {c₁ : Core} (aside : Aside c c₁) : Turn asks input c (c₁.goto .Disconnected)
  | connected {c₁ : Core} {writer : WriterRef} (connect : input = .Event (.Connected writer)) (aside : Aside c c₁) :
      Turn asks input c ((c₁.add .Connected).goto .AwaitingLogon)
  | reset {c₁ : Core} {writer : WriterRef} (connect : input = .Event (.Connected writer)) (aside : Aside c c₁) :
      Turn asks input c ((c₁.add .Connected).goto .AwaitingLogon).restart
  | set {n : Nat} {nonzero : 0 < n} (admin : input = .Admin (.SetNextTargetSeqNum n nonzero))
      (phase : c.phase = .Disconnected) : Turn asks input c (c.jump n)
  | asked (may : asks) : Turn asks input c (c.add .Requested)

theorem Turn.to {asks : Prop} {input : Input} {c d d' : Core} (turn : Turn asks input c d) (same : d' = d) :
    Turn asks input c d' := same ▸ turn

/-- Everything the session can do to its core. `asks` says whether the application
    may send requests for a resend of its own. -/
inductive Move (env : Env) (asks : Prop) (c : Core) : Core → Prop where
  | took {faults : Faults} {now : Timestamp} {m : Message} {c' : Core} {returns : Bool}
      (step : Step env faults now c m c' returns) : Move env asks c c'
  | counted : Move env asks c c.count
  | completed {gap : Gap} (phase : c.phase = .AwaitingResend gap) (past : gap.last < c.next) :
      Move env asks c (c.goto .Active)
  | received (m : Message) : Move env asks c (c.add (.Received m))
  | connected : Move env asks c ((c.add .Connected).goto .AwaitingLogon)
  | aside {c' : Core} (aside : Aside c c') : Move env asks c c'
  | set (phase : c.phase = .Disconnected) (n : Nat) : Move env asks c (c.jump n)
  | asked (may : asks) : Move env asks c (c.add .Requested)

theorem Move.mono {env : Env} {asks asks' : Prop} {c d : Core} (more : asks → asks') (move : Move env asks c d) :
    Move env asks' c d := by
  cases move with
  | took step => exact .took step
  | counted => exact .counted
  | completed phase past => exact .completed phase past
  | received m => exact .received m
  | connected => exact .connected
  | aside aside => exact .aside aside
  | set phase n => exact .set phase n
  | asked may => exact .asked (more may)

end HotFix.Protocol
