import HotFix.Loop
import Mathlib.Data.List.Infix

/-!
How many requests for a resend a connection makes while the expected number stays
the same. The tally of a log counts them; the invariant ties it to the attempts of
the gap that is awaited.
-/
namespace HotFix.Requests
open HotFix.Program HotFix.Protocol HotFix.Operations HotFix.Refinement HotFix.Loop
variable {S : Type} [MessageStore S]

/-! ### The tally of a log -/

/-- The number expected, and the requests since it last changed on this connection. -/
structure Tally where
  next : Nat
  requests : Nat

/-- A number that replaces the expected one starts a new count if it differs. -/
def Tally.moveTo (t : Tally) (next : Nat) : Tally := if next = t.next then t else ⟨next,0⟩

def Tally.see (t : Tally) : Note → Tally
  | .Connected => { t with requests := 0 }
  | .Requested => { t with requests := t.requests + 1 }
  | .Counted => t.moveTo (t.next + 1)
  | .Jumped next => t.moveTo next
  | .Restarted => t.moveTo 1
  | .Received _ => t
  | .Delivered _ => t

def tally (n : Nat) (log : List Note) : Tally := log.foldl Tally.see ⟨n,0⟩

@[simp] theorem tally_nil (n : Nat) : tally n [] = ⟨n,0⟩ := rfl

@[simp] theorem tally_snoc (n : Nat) (log : List Note) (entry : Note) :
    tally n (log ++ [entry]) = (tally n log).see entry := by
  simp [tally]

/-- At every point of the log the requests are within the limit. -/
def Bounded (n : Nat) (log : List Note) : Prop := ∀ past, past <+: log → (tally n past).requests ≤ MAX_RESEND_ATTEMPTS

theorem bounded_snoc {n : Nat} {log : List Note} {entry : Note} (bounded : Bounded n log)
    (last : (tally n (log ++ [entry])).requests ≤ MAX_RESEND_ATTEMPTS) : Bounded n (log ++ [entry]) := by
  intro past earlier
  rw [List.prefix_concat_iff] at earlier
  obtain rfl | earlier := earlier
  · exact last
  · exact bounded past earlier

/-- What the phase says about the requests made at the number `next`. -/
def Room (next requests : Nat) : Phase → Prop
  | .Active => requests = 0
  | .AwaitingLogon => requests = 0
  | .AwaitingResend gap => gap.first ≤ gap.last ∧ gap.attempts ≤ MAX_RESEND_ATTEMPTS ∧
      (gap.first = next → requests ≤ gap.attempts) ∧ (gap.first < next → requests = 0)
  | .AwaitingLogout => True
  | .Disconnected => True

structure Limited (n : Nat) (c : Core) : Prop where
  next : (tally n c.log).next = c.next
  bounded : Bounded n c.log
  room : Room c.next (tally n c.log).requests c.phase

/-! ### Every move keeps the limit -/

section
variable {n : Nat} {c : Core}

theorem room_zero {next next' requests : Nat} {phase : Phase} (room : Room next requests phase) : Room next' 0 phase := by
  cases phase with
  | AwaitingResend gap => exact ⟨room.1,room.2.1,fun _ => Nat.zero_le _,fun _ => rfl⟩
  | Active => rfl
  | AwaitingLogon => rfl
  | AwaitingLogout => trivial
  | Disconnected => trivial

theorem moveTo_requests_le (t : Tally) (next : Nat) : (t.moveTo next).requests ≤ t.requests := by
  unfold Tally.moveTo
  split_ifs
  · exact Nat.le_refl _
  · exact Nat.zero_le _

theorem moveTo_next (t : Tally) (next : Nat) : (t.moveTo next).next = next := by
  unfold Tally.moveTo
  split_ifs with same
  · exact same.symm
  · rfl

theorem Limited.requests_le (limited : Limited n c) : (tally n c.log).requests ≤ MAX_RESEND_ATTEMPTS :=
  limited.bounded c.log (List.prefix_refl _)

theorem Limited.goto {phase : Phase} (limited : Limited n c) (room : Room c.next (tally n c.log).requests phase) :
    Limited n (c.goto phase) := ⟨limited.next,limited.bounded,room⟩

/-- A new number keeps the limit in every phase. -/
theorem Limited.moveTo {next : Nat} {entry : Note} (limited : Limited n c)
    (moves : (tally n c.log).see entry = (tally n c.log).moveTo next) :
    Limited n { c with next, log := c.log ++ [entry] } := by
  have seen : tally n (c.log ++ [entry]) = (tally n c.log).moveTo next := (tally_snoc n c.log entry).trans moves
  have fewer := (moveTo_requests_le (tally n c.log) next).trans limited.requests_le
  refine ⟨?_,bounded_snoc limited.bounded (seen ▸ fewer),?_⟩
  · rw [seen]
    exact moveTo_next _ _
  · rw [seen]
    unfold Tally.moveTo
    split_ifs with same
    · rw [limited.next] at same
      rw [same]
      exact limited.room
    · exact room_zero limited.room

theorem Limited.count (limited : Limited n c) : Limited n c.count :=
  limited.moveTo (by rw [← limited.next]; rfl)

theorem Limited.jump (limited : Limited n c) (next : Nat) : Limited n (c.jump next) := limited.moveTo rfl

theorem Limited.restart (limited : Limited n c) : Limited n c.restart := limited.moveTo rfl

/-- An entry that neither moves the number nor asks for anything. -/
theorem Limited.add {entry : Note} (limited : Limited n c) (silent : ∀ t : Tally, t.see entry = t) :
    Limited n (c.add entry) := by
  have seen : tally n (c.log ++ [entry]) = tally n c.log := (tally_snoc n c.log entry).trans (silent _)
  refine ⟨?_,bounded_snoc limited.bounded (seen ▸ limited.requests_le),?_⟩
  · exact (congrArg Tally.next seen).trans limited.next
  · change Room c.next (tally n (c.log ++ [entry])).requests c.phase
    rw [seen]
    exact limited.room

theorem Limited.enqueue (limited : Limited n c) (m : Message) : Limited n (c.enqueue m) := by
  unfold Core.enqueue
  split
  · next gap phase =>
    have room := limited.room
    rw [phase] at room
    exact limited.goto room
  · exact limited

/-- A request is within the limit where the phase leaves room for it. -/
theorem Limited.request {gap : Gap} (limited : Limited n c) (ordered : gap.first ≤ gap.last)
    (few : gap.attempts ≤ MAX_RESEND_ATTEMPTS) (here : gap.first = c.next)
    (room : (tally n c.log).requests + 1 ≤ gap.attempts) :
    Limited n ((c.add .Requested).goto (.AwaitingResend gap)) := by
  have seen : tally n (c.log ++ [.Requested]) = ⟨(tally n c.log).next,(tally n c.log).requests + 1⟩ :=
    tally_snoc n c.log .Requested
  refine ⟨?_,bounded_snoc limited.bounded ?_,ordered,few,fun _ => ?_,fun below => ?_⟩
  · exact (congrArg Tally.next seen).trans limited.next
  · rw [seen]
    exact room.trans few
  · change (tally n (c.log ++ [.Requested])).requests ≤ gap.attempts
    rw [seen]
    exact room
  · exact absurd here (Nat.ne_of_lt below)

/-- What a further request leaves of the room of the gap. -/
theorem update_room {gap gap' : Gap} {next a requests : Nat} (room : Room next requests (.AwaitingResend gap))
    (above : next < a) (updated : gap.update next a = some gap') :
    gap'.first = next ∧ gap'.first ≤ gap'.last ∧ gap'.attempts ≤ MAX_RESEND_ATTEMPTS ∧ requests + 1 ≤ gap'.attempts := by
  obtain ⟨-,-,same,passed⟩ := room
  unfold Gap.update at updated
  split_ifs at updated with here few below
  · cases updated
    exact ⟨rfl,Nat.le_of_lt above,Nat.le_of_not_lt few,Nat.succ_le_succ (same here)⟩
  · cases updated
    have none := passed (by omega)
    exact ⟨rfl,Nat.le_of_lt above,by simp [MAX_RESEND_ATTEMPTS],by simp [none]⟩

theorem limited_step {env : Env} {faults : Faults} {now : Timestamp} {m : Message} {c' : Core} {returns : Bool}
    (limited : Limited n c) (step : Step env faults now c m c' returns) : Limited n c' := by
  have left : Limited n (c.goto .Disconnected) := limited.goto trivial
  cases step with
  | queued phase number kind other beyond => exact limited.enqueue m
  | terminated => exact left
  | badTime => exact limited.count
  | gapOpened accepted phase failed number above =>
    have none : (tally n c.log).requests = 0 := by
      have room := limited.room
      obtain active | logon := phase
      · rwa [active] at room
      · rwa [logon] at room
    exact limited.request (Nat.le_of_lt above) (by simp [MAX_RESEND_ATTEMPTS]) rfl (by simp [none])
  | gapUpdated accepted phase failed number above updated =>
    have room := limited.room
    rw [phase] at room
    obtain ⟨here,ordered,few,enough⟩ := update_room room above updated
    exact limited.request ordered few here enough
  | gapUpdateFailed accepted phase failed number above updated fault =>
    have room := limited.room
    rw [phase] at room
    obtain ⟨here,ordered,few,enough⟩ := update_room room above updated
    exact limited.goto ⟨ordered,few,fun _ => Nat.le_of_succ_le enough,fun below => absurd here (Nat.ne_of_lt below)⟩
  | gaveUp => exact left
  | heartbeat => exact limited.count
  | testRequest => exact limited.count
  | reject => exact limited.count
  | resendRequestMalformed =>
    split_ifs
    · exact limited.enqueue m
    · exact limited
  | resendRequestCounted => exact limited.count
  | resendRequestAhead =>
    split_ifs
    · exact limited.enqueue m
    · exact limited
  | sequenceReset => exact limited.jump _
  | logout => exact limited.count.goto trivial
  | logoutFailed accepted passed stayed fault =>
    obtain rfl | rfl := stayed
    · exact limited
    · exact left
  | logon accepted passed phase =>
    have room := limited.count.room
    rw [show c.count.phase = .AwaitingLogon from phase] at room
    exact limited.count.goto room
  | delivered => exact (limited.add (fun _ => rfl)).count
  | deliveredFailed => exact limited.add (fun _ => rfl)
  | _ => exact limited

theorem limited_aside {c' : Core} (limited : Limited n c) (aside : Aside c c') : Limited n c' := by
  cases aside with
  | stayed => exact limited
  | loggingOut on => exact limited.goto trivial
  | left => exact limited.goto trivial
  | restarted => exact limited.restart

theorem limited_move {env : Env} {c' : Core} (limited : Limited n c) (move : Move env False c c') : Limited n c' := by
  cases move with
  | took step => exact limited_step limited step
  | counted => exact limited.count
  | completed phase past =>
    -- past its end, nothing has been asked for at the present number
    have room := limited.room
    rw [phase] at room
    exact limited.goto (room.2.2.2 (Nat.lt_of_le_of_lt room.1 past))
  | received m => exact limited.add (fun _ => rfl)
  | connected =>
    have seen : tally n (c.log ++ [.Connected]) = ⟨(tally n c.log).next,0⟩ := tally_snoc n c.log .Connected
    refine ⟨(congrArg Tally.next seen).trans limited.next,bounded_snoc limited.bounded ?_,congrArg Tally.requests seen⟩
    rw [seen]
    exact Nat.zero_le _
  | aside aside => exact limited_aside limited aside
  | set phase next => exact limited.jump next
  | asked may => exact may.elim

end

/-! ### The journal -/

/-- The number expected after an effect. -/
def expected_after (n : Nat) : Effect → Nat
  | .TargetIncremented => n + 1
  | .TargetSet next => next
  | .StoreReset => 1
  | _ => n

/-- The number expected at the end of a journal that starts with `n` expected. -/
def expected (n : Nat) (journal : List Effect) : Nat := journal.foldl expected_after n

def is_resend_request : Effect → Bool
  | .Sent _ message _ => message.kind = some .ResendRequest
  | _ => false

def requests (journal : List Effect) : Nat := journal.countP is_resend_request

/-- What a tally makes of an effect. -/
def Tally.notice (t : Tally) (effect : Effect) : Tally :=
  match observe effect with
  | some entry => t.see entry
  | none => t

theorem notice_next (t : Tally) (effect : Effect) : (t.notice effect).next = expected_after t.next effect := by
  cases effect with
  | Sent writer message raw =>
    simp only [Tally.notice,observe]
    split_ifs <;> rfl
  | TargetIncremented => exact moveTo_next t (t.next + 1)
  | TargetSet next => exact moveTo_next t next
  | StoreReset => exact moveTo_next t 1
  | _ => rfl

/-- An effect that leaves the expected number adds to the tally what it requests. -/
theorem notice_requests (t : Tally) {effect : Effect} (same : expected_after t.next effect = t.next)
    (connected : ∀ writer, effect ≠ .Connected writer) :
    t.notice effect = ⟨t.next,t.requests + if is_resend_request effect then 1 else 0⟩ := by
  cases effect with
  | Connected writer => exact absurd rfl (connected writer)
  | Sent writer message raw =>
    simp only [Tally.notice,observe,is_resend_request,decide_eq_true_eq]
    split_ifs <;> rfl
  | TargetIncremented => exact absurd same (Nat.succ_ne_self _)
  | TargetSet next => exact if_pos same
  | StoreReset => exact if_pos same
  | _ => rfl

theorem tally_journal (journal : List Effect) : ∀ t : Tally,
    (journal.filterMap observe).foldl Tally.see t = journal.foldl Tally.notice t := by
  induction journal with
  | nil => exact fun _ => rfl
  | cons effect rest ih =>
    intro t
    cases seen : observe effect with
    | none => simp [seen,ih,Tally.notice]
    | some entry => simp [seen,ih,Tally.notice]

theorem notices_next (journal : List Effect) : ∀ t : Tally,
    (journal.foldl Tally.notice t).next = expected t.next journal := by
  induction journal with
  | nil => exact fun _ => rfl
  | cons effect rest ih =>
    intro t
    rw [List.foldl_cons,ih,notice_next]
    rfl

/-- A stretch of the journal on one connection and at one number. -/
theorem notices_requests (segment : List Effect) : ∀ t : Tally, (∀ writer, .Connected writer ∉ segment) →
    (∀ past, past <+: segment → expected t.next past = t.next) →
    (segment.foldl Tally.notice t).requests = t.requests + requests segment := by
  induction segment with
  | nil => exact fun _ _ _ => rfl
  | cons effect rest ih =>
    intro t connected same
    have here : expected_after t.next effect = t.next := same [effect] ⟨rest,rfl⟩
    have noticed := notice_requests t here (fun writer is => connected writer (is ▸ List.mem_cons_self))
    rw [List.foldl_cons,noticed,ih _ (fun writer member => connected writer (List.mem_cons_of_mem _ member))]
    · simp only [requests,List.countP_cons]
      omega
    · intro past earlier
      have later := same (effect :: past) (List.cons_prefix_cons.mpr ⟨rfl,earlier⟩)
      rw [expected,List.foldl_cons,here] at later
      exact later

/-- However the peer's messages come, one connection sends at most three requests
    for a resend while the expected number stays the same. -/
theorem resend_requests_bounded [LawfulMessageStore S] {env : Env} {store : S} {w : World S}
    (run : Leaves env (fun _ input => ¬ Asks input) (World.initial store) w) :
    next_target w = expected (MessageStore.next_target_seq_number store) w.journal ∧
      ∀ before segment after, w.journal = before ++ segment ++ after → (∀ writer, .Connected writer ∉ segment) →
        (∀ past, past <+: segment → expected (MessageStore.next_target_seq_number store) (before ++ past) =
          expected (MessageStore.next_target_seq_number store) before) →
        requests segment ≤ MAX_RESEND_ATTEMPTS := by
  have begins : Limited (MessageStore.next_target_seq_number store) (core (World.initial store)) :=
    ⟨rfl,fun past earlier => by rw [List.prefix_nil.mp earlier]; exact Nat.zero_le _,trivial⟩
  have limited : Limited (MessageStore.next_target_seq_number store) (core w) :=
    leaves_invariant False (fun _ _ quiet => quiet) begins (fun _ _ move kept => limited_move kept move) run
  refine ⟨?_,?_⟩
  · have same := limited.next
    rw [core_log,core_next,tally,tally_journal,notices_next] at same
    exact same.symm
  · intro before segment after split connected unchanged
    have bounded := limited.bounded ((before ++ segment).filterMap observe) (by
      rw [core_log,split]
      exact ⟨after.filterMap observe,List.filterMap_append.symm⟩)
    rw [tally,tally_journal,List.foldl_append,notices_requests segment _ connected] at bounded
    · exact (Nat.le_add_left _ _).trans bounded
    · intro past earlier
      rw [notices_next]
      have later := unchanged past earlier
      rw [expected,List.foldl_append] at later
      exact later

section
open Sample

/-- Reports far ahead of the expected number, three times. -/
def ahead : Env := valid [logon,report 9,report 8,report 7]

def asked_twice : World Store := after ahead [connect,receive logon,receive (report 9),receive (report 8)]

def asked_thrice : World Store := final (handle_input ahead (receive (report 7)) asked_twice)

/-- The limit is reached: after the logon, three reports and three requests. -/
theorem requests_reach_limit :
    requests (asked_thrice.journal.drop 7) = 3 ∧ requests (asked_thrice.journal.drop 7) ≤ MAX_RESEND_ATTEMPTS := by
  have reached : Reachable ahead (fun _ input => ¬ Asks input) start asked_twice := by
    have along : AllowedAlong ahead (fun _ input => is_event input = true)
        [connect,receive logon,receive (report 9),receive (report 8)] start := by decide +kernel
    refine reachable_mono ?_ (reachable_after along)
    intro _ input event
    cases input with
    | Event _ => exact id
    | _ => cases event
  have bounded := (resend_requests_bounded ⟨asked_twice,receive (report 7),reached,rfl,id,rfl⟩).2
    (asked_thrice.journal.take 7) (asked_thrice.journal.drop 7) [] (by simp [asked_thrice])
  refine ⟨by decide +kernel,bounded ?_ ?_⟩
  · have none : ∀ effect ∈ asked_thrice.journal.drop 7, (effect matches .Connected _) = false := by decide +kernel
    intro writer member
    cases none _ member
  · have same : ∀ past ∈ (asked_thrice.journal.drop 7).inits,
        expected 1 (asked_thrice.journal.take 7 ++ past) = expected 1 (asked_thrice.journal.take 7) := by decide +kernel
    exact fun past earlier => same past ((List.mem_inits _ _).mpr earlier)

end

end HotFix.Requests
