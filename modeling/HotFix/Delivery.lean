import HotFix.Loop
import HotFix.Outcomes

/-!
What reaches the application. While every application message is taken up on a
connection, each one that is delivered has passed verification with the expected
number and is counted at once; between resets of the numbers the delivered numbers
increase.
-/
namespace HotFix.Delivery
open HotFix.Program HotFix.Protocol HotFix.Operations HotFix.Refinement HotFix.Outcomes HotFix.Loop
open HotFix.Sample (valid logon report message start connect receive after reachable_after Store)
variable {S : Type} [MessageStore S]

/-! ### Moves that deliver nothing -/

/-- The log grows without a delivery, and without a restart the expected number does
    not fall. It never comes to zero. -/
def Quiet (c c' : Core) : Prop :=
  (∃ entries, c'.log = c.log ++ entries ∧ (∀ m, .Delivered m ∉ entries) ∧ (.Restarted ∉ entries → c.next ≤ c'.next)) ∧
    (0 < c.next → 0 < c'.next)

section
variable {env : Env} {faults : Faults} {now : Timestamp} {c c' c'' : Core} {m : Message} {returns : Bool}

theorem quiet_refl (c : Core) : Quiet c c := ⟨⟨[],by simp,by simp,fun _ => Nat.le_refl _⟩,id⟩

theorem Quiet.trans (first : Quiet c c') (second : Quiet c' c'') : Quiet c c'' := by
  obtain ⟨⟨entries,log,none,grows⟩,positive⟩ := first
  obtain ⟨⟨entries',log',none',grows'⟩,positive'⟩ := second
  refine ⟨⟨entries ++ entries',by rw [log',log,List.append_assoc],fun m => ?_,fun unrestarted => ?_⟩,positive' ∘ positive⟩
  · simp [none m,none' m]
  · rw [List.mem_append,not_or] at unrestarted
    exact Nat.le_trans (grows unrestarted.1) (grows' unrestarted.2)

theorem quiet_goto (phase : Phase) : Quiet c (c.goto phase) := quiet_refl c

theorem quiet_add {entry : Note} (other : ∀ m, entry ≠ .Delivered m) : Quiet c (c.add entry) :=
  ⟨⟨[entry],rfl,fun m member => other m (List.mem_singleton.mp member).symm,fun _ => Nat.le_refl _⟩,id⟩

theorem quiet_count : Quiet c c.count := ⟨⟨[.Counted],rfl,by simp,fun _ => Nat.le_succ _⟩,fun _ => Nat.succ_pos _⟩

theorem quiet_jump {n : Nat} (forwards : c.next < n) : Quiet c (c.jump n) :=
  ⟨⟨[.Jumped n],rfl,by simp,fun _ => Nat.le_of_lt forwards⟩,fun _ => Nat.zero_lt_of_lt forwards⟩

theorem quiet_restart : Quiet c c.restart := ⟨⟨[.Restarted],rfl,by simp,by simp⟩,fun _ => Nat.one_pos⟩

theorem quiet_enqueue : Quiet c (c.enqueue m) := by
  unfold Core.enqueue
  split
  · exact quiet_goto _
  · exact quiet_refl c

theorem quiet_aside (aside : Aside c c') : Quiet c c' := by
  cases aside with
  | stayed => exact quiet_refl c
  | loggingOut on => exact quiet_goto _
  | left => exact quiet_goto _
  | restarted => exact quiet_restart

/-- The message is an application message that passes verification in sequence. -/
structure InSequence (env : Env) (now : Timestamp) (c : Core) (m : Message) : Prop where
  kind : m.kind = some .Application
  verified : verify env now c m .Application = .ok ()
  number : m.msg_seq_num = some c.next

/-- On a connection, a step that delivers does so in sequence, and counts. -/
theorem step_delivers (sound : ¬ faults.store) (positive : 0 < c.next) (on : m.kind = some .Application → c.connected)
    (step : Step env faults now c m c' returns) :
    Quiet c c' ∨ returns = true ∧ InSequence env now c m ∧ c' = (c.add (.Delivered m)).count := by
  have in_sequence : Accepted c m .Application → Passed env now c m .Application → InSequence env now c m := by
    intro accepted passed
    have verified := passed.resolve_left (on accepted.1)
    exact ⟨accepted.1,verified,verify_number positive verified rfl⟩
  cases step with
  | queued => exact .inl quiet_enqueue
  | terminated => exact .inl (quiet_goto _)
  | badTime => exact .inl quiet_count
  | gapOpened => exact .inl ((quiet_add (by simp)).trans (quiet_goto _))
  | gapUpdated => exact .inl ((quiet_add (by simp)).trans (quiet_goto _))
  | gapUpdateFailed => exact .inl (quiet_goto _)
  | gaveUp => exact .inl (quiet_goto _)
  | heartbeat => exact .inl quiet_count
  | testRequest => exact .inl quiet_count
  | reject => exact .inl quiet_count
  | resendRequestMalformed =>
    split_ifs
    · exact .inl quiet_enqueue
    · exact .inl (quiet_refl c)
  | resendRequestCounted => exact .inl quiet_count
  | resendRequestAhead =>
    split_ifs
    · exact .inl quiet_enqueue
    · exact .inl (quiet_refl c)
  | sequenceReset accepted passed on target forwards => exact .inl (quiet_jump forwards)
  | logout => exact .inl (quiet_count.trans (quiet_goto _))
  | logoutFailed => exact .inl (quiet_goto _)
  | logon => exact .inl (quiet_count.trans (quiet_goto _))
  | delivered accepted passed => exact .inr ⟨rfl,in_sequence accepted passed,rfl⟩
  | deliveredFailed accepted passed fault =>
    have number := (in_sequence accepted passed).number
    obtain broken | none := fault
    · exact absurd broken sound
    · rw [number] at none
      cases none
  | _ => exact .inl (quiet_refl c)

theorem replays_deliver (sound : ¬ faults.store) (positive : 0 < c.next)
    (on : m.kind = some .Application → c.connected) (replays : Replays env faults now c m c' returns) :
    Quiet c c' ∨ returns = true ∧ InSequence env now c m ∧ c' = (c.add (.Delivered m)).count := by
  cases replays with
  | request kind => exact .inl quiet_count
  | requestFailed kind fault => exact .inl (quiet_refl c)
  | took kind step => exact step_delivers sound positive on step

end

/-! ### Messages taken up on a connection -/

/-- Every application message that is taken up while an input is handled is taken up
    on a connection. -/
def Attended (env : Env) (w : World S) (input : Input) : Prop :=
  ∀ p ∈ taken env input w, p.2.kind = some .Application → p.1.state.is_connected = true

instance (env : Env) (w : World S) (input : Input) : Decidable (Attended env w input) :=
  inferInstanceAs (Decidable (∀ p ∈ taken env input w, _ → _))

/-- No message that the input makes the session count is counted at the last number,
    and the number that the operator sets is one of 64 bits. -/
def Room (env : Env) (w : World S) (input : Input) : Prop :=
  (∀ p ∈ (taken env input w).take 1, counted env p.1 p.2 = true → next_target p.1 + 1 < UInt64.size) ∧
    (∀ p ∈ (taken env input w).tail, replay_counted env p.1 p.2 = true → next_target p.1 + 1 < UInt64.size) ∧
    match input with
    | .Event (.FixMessageReceived raw_message) => ∀ p ∈ unknown env raw_message w, p.1.state.is_connected = true →
        p.2.msg_seq_num = some (next_target p.1) → next_target p.1 + 1 < UInt64.size
    | .Admin (.SetNextTargetSeqNum n _) => n < UInt64.size
    | _ => True

instance (env : Env) (w : World S) (input : Input) : Decidable (Room env w input) := by
  unfold Room
  split <;> infer_instance

/-- The condition on an input under which deliveries are in sequence. -/
def Orderly (env : Env) (w : World S) (input : Input) : Prop := Attended env w input ∧ Room env w input

instance (env : Env) (w : World S) (input : Input) : Decidable (Orderly env w input) :=
  inferInstanceAs (Decidable (_ ∧ _))

theorem arrival_taken {env : Env} {raw_message : Bytes} {w v : World S} {m : Message}
    (arrived : arrival env raw_message w = some (v,m)) :
    (v,m) ∈ taken env (.Event (.FixMessageReceived raw_message)) w := by
  simp [taken,arrived]

/-! ### Numbers that increase -/

/-- The numbers that were delivered. -/
def delivered_numbers (entries : List Note) : List Nat :=
  entries.filterMap (fun entry =>
    match entry with
    | .Delivered m => m.msg_seq_num
    | _ => none)

/-- Unless the numbers were reset since `c₀`, those delivered since increase and lie
    below the expected one. -/
def Rising (c₀ c : Core) : Prop :=
  ∃ entries, c.log = c₀.log ++ entries ∧ (.Restarted ∉ entries →
    (delivered_numbers entries).Pairwise (· < ·) ∧ ∀ n ∈ delivered_numbers entries, n < c.next)

section
variable {c₀ c c' : Core} {m : Message}

theorem delivered_numbers_quiet {entries : List Note} (none : ∀ m, .Delivered m ∉ entries) :
    delivered_numbers entries = [] := by
  unfold delivered_numbers
  rw [List.filterMap_eq_nil_iff]
  intro entry member
  cases entry with
  | Delivered m => exact absurd member (none m)
  | _ => rfl

theorem Rising.quiet (rising : Rising c₀ c) (quiet : Quiet c c') : Rising c₀ c' := by
  obtain ⟨entries,log,rises⟩ := rising
  obtain ⟨⟨more,log',none,grows⟩,-⟩ := quiet
  refine ⟨entries ++ more,by rw [log',log,List.append_assoc],fun unrestarted => ?_⟩
  rw [List.mem_append,not_or] at unrestarted
  have same : delivered_numbers (entries ++ more) = delivered_numbers entries := by
    rw [delivered_numbers,List.filterMap_append]
    change delivered_numbers entries ++ delivered_numbers more = _
    rw [delivered_numbers_quiet none,List.append_nil]
  obtain ⟨increasing,below⟩ := rises unrestarted.1
  rw [same]
  exact ⟨increasing,fun n member => Nat.lt_of_lt_of_le (below n member) (grows unrestarted.2)⟩

theorem Rising.deliver (rising : Rising c₀ c) (number : m.msg_seq_num = some c.next) :
    Rising c₀ (c.add (.Delivered m)).count := by
  obtain ⟨entries,log,rises⟩ := rising
  refine ⟨entries ++ [.Delivered m,.Counted],by simp [Core.count,Core.add,log],fun unrestarted => ?_⟩
  obtain ⟨increasing,below⟩ := rises (fun member => unrestarted (by simp [member]))
  have same : delivered_numbers (entries ++ [.Delivered m,.Counted]) = delivered_numbers entries ++ [c.next] := by
    simp [delivered_numbers,List.filterMap_append,number]
  rw [same]
  constructor
  · refine List.pairwise_append.mpr ⟨increasing,by simp,fun n member n' last => ?_⟩
    rw [List.mem_singleton.mp last]
    exact below n member
  · intro n member
    obtain old | last := List.mem_append.mp member
    · exact Nat.lt_succ_of_lt (below n old)
    · rw [List.mem_singleton.mp last]
      exact Nat.lt_succ_self c.next

/-- The administrator sets the expected number. -/
def SetsTarget : Input → Prop
  | .Admin (.SetNextTargetSeqNum _ _) => True
  | _ => False

instance : DecidablePred SetsTarget
  | .Admin (.SetNextTargetSeqNum _ _) => .isTrue trivial
  | .Admin (.InitiateGracefulShutdown _) | .Admin .RequestSessionInfo | .Admin .ResetSequenceNumbersOnNextLogon
  | .Event _ | .Outbound _ | .HeartbeatTimeout | .PeerTimeout | .ScheduleCheck => .isFalse id

/-- A turn is quiet, unless the administrator sets the expected number. -/
theorem turn_quiet {asks : Prop} {input : Input} (turn : Turn asks input c c') :
    Quiet c c' ∨ SetsTarget input ∧ ∃ n, 0 < n ∧ c' = c.jump n := by
  cases turn with
  | aside aside => exact .inl (quiet_aside aside)
  | left aside => exact .inl ((quiet_aside aside).trans (quiet_goto _))
  | connected connect aside => exact .inl ((quiet_aside aside).trans ((quiet_add (by simp)).trans (quiet_goto _)))
  | reset connect aside =>
    exact .inl ((quiet_aside aside).trans ((quiet_add (by simp)).trans ((quiet_goto _).trans quiet_restart)))
  | @set n nonzero admin phase =>
    subst admin
    exact .inr ⟨trivial,n,nonzero,rfl⟩
  | asked may => exact .inl (quiet_add (by simp))

theorem turn_positive {asks : Prop} {input : Input} (positive : 0 < c.next) (turn : Turn asks input c c') : 0 < c'.next := by
  obtain quiet | ⟨-,n,nonzero,rfl⟩ := turn_quiet turn
  · exact quiet.2 positive
  · exact nonzero

end

/-! ### Every delivery -/

/-- While the input is handled, the message is taken up when the log stands as given,
    passes verification with the expected number, is delivered and counted. -/
def Delivers (env : Env) (input : Input) (w : World S) (log : List Note) (m : Message) : Prop :=
  ∃ v u flags, (v,m) ∈ taken env input w ∧ (core v).log = log ∧ VerificationFlags.for_message m = some flags ∧
    verify_message_with_ctx m env.config (next_target v) flags (env.timestamp_now v.clock_readings) = .ok () ∧
    m.msg_seq_num = some (next_target v) ∧ process_message env m v = .ok () u ∧
    (core u).log = log ++ [.Delivered m,.Counted] ∧ next_target u = next_target v + 1

/-- All deliveries since `w` are sound. -/
def AllDelivers (env : Env) (input : Input) (w : World S) (c : Core) : Prop :=
  ∃ entries, c.log = (core w).log ++ entries ∧
    ∀ pre m post, entries = pre ++ .Delivered m :: post → Delivers env input w ((core w).log ++ pre) m

/-- A delivery in a longer log stands in the old part or in the new one. -/
theorem delivered_split {entries more pre post : List Note} {m : Message}
    (split : entries ++ more = pre ++ .Delivered m :: post) :
    (∃ post', entries = pre ++ .Delivered m :: post') ∨
      ∃ pre', pre = entries ++ pre' ∧ more = pre' ++ .Delivered m :: post := by
  obtain ⟨pre',rfl,here⟩ | ⟨rest,rfl,here⟩ := List.append_eq_append_iff.mp split
  · exact .inr ⟨pre',rfl,here⟩
  · cases rest with
    | nil => exact .inr ⟨[],by simp,by simpa using here.symm⟩
    | cons entry post' =>
      simp only [List.cons_append,List.cons.injEq] at here
      exact .inl ⟨post',by rw [here.1]⟩

section
variable {env : Env} {input : Input} {w : World S} {c c' : Core}

theorem allDelivers_append {more : List Note} (sound : AllDelivers env input w c) (log : c'.log = c.log ++ more)
    (delivers : ∀ pre m post, more = pre ++ .Delivered m :: post → Delivers env input w (c.log ++ pre) m) :
    AllDelivers env input w c' := by
  obtain ⟨entries,before,old⟩ := sound
  refine ⟨entries ++ more,by rw [log,before,List.append_assoc],fun pre m post split => ?_⟩
  obtain ⟨post',here⟩ | ⟨pre',rfl,here⟩ := delivered_split split
  · exact old pre m post' here
  · rw [← List.append_assoc,← before]
    exact delivers pre' m post here

theorem allDelivers_silent {more : List Note} (sound : AllDelivers env input w c) (log : c'.log = c.log ++ more)
    (none : ∀ m, .Delivered m ∉ more) : AllDelivers env input w c' :=
  allDelivers_append sound log (fun pre m post split => absurd (by simp [split]) (none m))

theorem allDelivers_quiet (sound : AllDelivers env input w c) (quiet : Quiet c c') : AllDelivers env input w c' := by
  obtain ⟨⟨more,log,none,-⟩,-⟩ := quiet
  exact allDelivers_silent sound log none

theorem allDelivers_turn {asks : Prop} (sound : AllDelivers env input w c) (turn : Turn asks input c c') :
    AllDelivers env input w c' := by
  obtain quiet | ⟨-,n,-,rfl⟩ := turn_quiet turn
  · exact allDelivers_quiet sound quiet
  · exact allDelivers_silent sound (show (c.jump n).log = c.log ++ [.Jumped n] from rfl) (by simp)

end

/-! ### Runs -/

theorem room_settles {arith : Arith} {env : Env} {w : World S} {input : Input} (room : Room env w input) :
    Settles arith input := by
  rintro n nonzero rfl
  have small : n < UInt64.size := room.2.2
  exact arith.add_eq (by omega)

section
variable {arith : Arith} [counting : CountingStore S arith] [RestartingStore S]
include counting

/-- A frame keeps what every quiet move and every delivery in sequence keep. -/
theorem frame_delivers (succeeds : StoreSucceeds S) {env : Env} {P : Core → Prop} {w : World S} {raw_message : Bytes}
    (orderly : Orderly env w (.Event (.FixMessageReceived raw_message))) (positive : ∀ c, P c → 0 < c.next)
    (quiet : ∀ c c', P c → Quiet c c' → P c')
    (delivers : ∀ v m u, (v,m) ∈ taken env (.Event (.FixMessageReceived raw_message)) w →
      process_message env m v = .ok () u → InSequence env (env.timestamp_now v.clock_readings) (core v) m →
      core u = ((core v).add (.Delivered m)).count → P (core v) → P (core u))
    (holds : P (core w)) :
    FrameRule env raw_message w (fun v m => (v,m) ∈ (taken env (.Event (.FixMessageReceived raw_message)) w).tail)
      (fun _ => P) P P := by
  obtain ⟨attended,arriving,later,answered⟩ := orderly
  have arrives : ∀ {v m}, arrival env raw_message w = some (v,m) → P (core v) := by
    intro v m arrived
    obtain ⟨-,c,aside,same⟩ := arrival_core arrived
    rw [same]
    exact quiet _ _ holds ((quiet_aside aside).trans (quiet_add (by simp)))
  have connected : ∀ {v m}, (v,m) ∈ taken env (.Event (.FixMessageReceived raw_message)) w →
      m.kind = some .Application → (core v).connected :=
    fun member kind => connected_of (attended _ member kind)
  have processed : ∀ {v m u}, arrival env raw_message w = some (v,m) → process_message env m v = .ok () u →
      Step env (faults env v.store m) (env.timestamp_now v.clock_readings) (core v) m (core u) true → P (core u) := by
    intro v m u arrived executed step
    have member := arrival_taken arrived
    have before := arrives arrived
    obtain still | ⟨-,in_sequence,same⟩ :=
      step_delivers (faults_sound succeeds env v.store m) (positive _ before) (connected member) step
    · exact quiet _ _ before still
    · exact delivers v m u member executed in_sequence same before
  exact
    { room := fun v m _ member _ counts => arith.add_eq (later (v,m) member counts)
      first := fun v m arrived counts => arith.add_eq (arriving (v,m) (by simp [taken,arrived]) counts)
      answered := by
        intro v m here on number
        refine arith.add_eq (answered (v,m) here ?_ number)
        cases state : v.state with
        | Disconnected _ => simp [Core.connected,phaseOf,state] at on
        | _ => rfl
      step := by
        intro v m rest v' member held executed replays
        have taken := List.mem_of_mem_tail member
        obtain still | ⟨-,in_sequence,same⟩ :=
          replays_deliver (faults_sound succeeds env v.store m) (positive _ held) (connected taken) replays
        · exact quiet _ _ held still
        · rw [replay_message_other env (by simp [in_sequence.kind])] at executed
          exact delivers v m v' taken executed in_sequence same held
      stops := by
        intro v m rest c' member held replays
        obtain still | ⟨returns,-⟩ := replays_deliver (faults_sound succeeds env v.store m) (positive _ held)
          (connected (List.mem_of_mem_tail member)) replays
        · exact quiet _ _ held still
        · cases returns
      unfinished := fun v m u arrived executed step _ => processed arrived executed step
      finished := fun v m u gap arrived executed step _ _ => quiet _ _ (processed arrived executed step) (quiet_goto _)
      stopped := by
        intro v m c' arrived step
        have before := arrives arrived
        obtain still | ⟨returns,-⟩ := step_delivers (faults_sound succeeds env v.store m) (positive _ before)
          (connected (arrival_taken arrived)) step
        · exact quiet _ _ before still
        · cases returns
      returned := fun _ held => held
      failed := fun _ held => quiet _ _ held (quiet_goto _)
      skipped := fun _ aside => quiet _ _ holds (quiet_aside aside)
      broken := fun _ aside _ => quiet _ _ holds ((quiet_aside aside).trans (quiet_goto _))
      invalid := by
        intro c c' m reason aside built answered
        refine quiet _ _ holds ((quiet_aside aside).trans ?_)
        cases answered with
        | ignored _ => exact quiet_refl c
        | counted _ _ _ => exact quiet_count }

/-- All deliveries since `w` are sound, and the expected number is not zero. -/
def Sound (env : Env) (input : Input) (w : World S) (c : Core) : Prop := AllDelivers env input w c ∧ 0 < c.next

theorem input_delivers (succeeds : StoreSucceeds S) {env : Env} {input : Input} {w : World S}
    (orderly : Orderly env w input) (positive : 0 < (core w).next) :
    AllDelivers env input w (core (final (handle_input env input w))) := by
  have begins : AllDelivers env input w (core w) := ⟨[],by simp,by simp⟩
  have kept : Runs (handle_input env input) w (fun _ w' => Sound env input w (core w'))
      (fun _ w' => Sound env input w (core w') ∨ Sound env input w (core w')) := by
    refine input_rule (room_settles orderly.2) (fun c' turn => ⟨allDelivers_turn begins turn,turn_positive positive turn⟩) ?_
    rintro raw_message rfl
    refine ⟨_,_,frame_delivers succeeds orderly (fun _ held => held.2) ?_ ?_ ⟨begins,positive⟩,fun p member => member⟩
    · exact fun c c' held still => ⟨allDelivers_quiet held.1 still,still.2 held.2⟩
    · intro v m u member executed in_sequence same sound
      have next : (core u).next = (core v).next + 1 := congrArg Core.next same
      refine ⟨?_,by omega⟩
      have log : (core u).log = (core v).log ++ [.Delivered m,.Counted] := by
        rw [same]
        simp [Core.count,Core.add]
      refine allDelivers_append sound.1 log (fun pre m' post split => ?_)
      have first : pre = [] ∧ m' = m := by
        cases pre with
        | nil => simp_all
        | cons entry rest =>
          cases rest <;> simp at split
      obtain ⟨rfl,rfl⟩ := first
      exact ⟨v,u,_,member,by simp,by rw [VerificationFlags.for_message,in_sequence.kind]; rfl,in_sequence.verified,
        in_sequence.number,executed,by simpa using log,next⟩
  exact (runs_final (fun w' => AllDelivers env input w (core w'))).mp
    (runs_mono kept (fun _ _ => And.left) (fun _ _ either => either.elim And.left And.left))

/-- The expected number never comes to zero. -/
theorem reachable_positive (succeeds : StoreSucceeds S) {env : Env} {start w : World S} (positive : 0 < (core start).next)
    (run : Reachable env (Orderly env) start w) : 0 < (core w).next := by
  refine reachable_rule (P := fun c => 0 < c.next) (fun c => 0 < c.next) positive
    (fun w input c' orderly held turn => turn_positive held turn) ?_ run (fun _ _ orderly => room_settles orderly.2)
  intro w raw_message before orderly held
  refine ⟨_,_,frame_delivers succeeds orderly (fun _ held => held) (fun _ _ held still => still.2 held) ?_ held,
    fun p member => member⟩
  intro v m u member executed in_sequence same held
  rw [same]
  exact Nat.succ_pos _

theorem leaves_rising (succeeds : StoreSucceeds S) {env : Env} {earlier left : World S} (positive : 0 < (core earlier).next)
    (leaves : Leaves env (fun w input => Orderly env w input ∧ ¬ SetsTarget input) earlier left) :
    Rising (core earlier) (core left) := by
  refine (leaves_rule (P := fun c => Rising (core earlier) c ∧ 0 < c.next)
    ⟨⟨[],by simp,by simp [delivered_numbers]⟩,positive⟩ ?_ ?_ leaves (fun _ _ fine => room_settles fine.1.2)).1
  · intro w input c' fine held turn
    have still := (turn_quiet turn).resolve_right (fun set => fine.2 set.1)
    exact ⟨held.1.quiet still,still.2 held.2⟩
  · intro w raw_message before fine held
    refine ⟨_,_,frame_delivers succeeds fine.1 (fun _ held => held.2) ?_ ?_ held,fun p member => member⟩
    · exact fun _ _ held still => ⟨held.1.quiet still,still.2 held.2⟩
    · intro v m u member executed in_sequence same held
      rw [same]
      exact ⟨held.1.deliver in_sequence.number,Nat.succ_pos _⟩

/-- While application messages are taken up on a connection only and no message is
    counted at the last number, each delivery is verified, in sequence and counted at
    once, and between two resets of the numbers the delivered ones increase. -/
theorem deliveries_in_sequence (succeeds : StoreSucceeds S) (env : Env) (store : S)
    (positive : 0 < next_target (World.initial store)) :
    (∀ w input, Reachable env (Orderly env) (World.initial store) w → Orderly env w input →
      AllDelivers env input w (core (final (handle_input env input w)))) ∧
    ∀ earlier left, Reachable env (Orderly env) (World.initial store) earlier →
      Leaves env (fun w input => Orderly env w input ∧ ¬ SetsTarget input) earlier left →
      Rising (core earlier) (core left) :=
  ⟨fun _ _ run orderly => input_delivers succeeds orderly (reachable_positive succeeds positive run),
    fun _ _ run leaves => leaves_rising succeeds (reachable_positive succeeds positive run) leaves⟩

end

/-- The peer logs out. -/
def logout (n : Nat) : Message := message Logout.MSG_TYPE n []

/-- A session that reads these messages. -/
def session : Env := valid [logon,report 2,report 3,logout 2,report 9]

/-- After the Logout of the peer the session is disconnected; a report with number 9
    that was already under way is delivered in the place of 3. -/
theorem late_report_delivered :
    Reachable session (fun _ _ => True) start (after session [connect,receive logon,receive (logout 2)]) ∧
      Reachable session (fun _ _ => True) start (after session [connect,receive logon,receive (logout 2),receive (report 9)]) ∧
      next_target (after session [connect,receive logon,receive (logout 2)]) = 3 ∧
      delivered_numbers (core (after session [connect,receive logon,receive (logout 2)])).log = [] ∧
      verify_message_with_ctx (report 9) session.config 3 (.for_kind .Application (report 9)) (session.timestamp_now 0) =
        .error (.SequenceGap 3 9) ∧
      delivered_numbers (core (after session [connect,receive logon,receive (logout 2),receive (report 9)])).log = [9] ∧
      next_target (after session [connect,receive logon,receive (logout 2),receive (report 9)]) = 4 :=
  ⟨reachable_after (by decide +kernel),reachable_after (by decide +kernel),by decide +kernel⟩

/-- Two reports in sequence are delivered in sequence. -/
theorem reports_delivered :
    delivered_numbers (core (final (handle_input session (receive (report 3))
        (after session [connect,receive logon,receive (report 2)])))).log = [2,3] ∧
      AllDelivers session (receive (report 3)) (after session [connect,receive logon,receive (report 2)])
        (core (final (handle_input session (receive (report 3)) (after session [connect,receive logon,receive (report 2)])))) ∧
      Rising (core start) (core (final (handle_input session (receive (report 3))
        (after session [connect,receive logon,receive (report 2)])))) := by
  obtain ⟨deliver,rise⟩ := deliveries_in_sequence (InMemoryMessageStore.succeeds .exact) session (InMemoryMessageStore.new 0)
    (by decide)
  have reached : Reachable session (fun w input => Orderly session w input ∧ ¬ SetsTarget input) start
      (after session [connect,receive logon,receive (report 2)]) := reachable_after (by decide +kernel)
  have orderly : Orderly session (after session [connect,receive logon,receive (report 2)]) (receive (report 3)) := by
    decide +kernel
  refine ⟨by decide +kernel,deliver _ _ (reachable_mono (fun _ _ fine => fine.1) reached) orderly,?_⟩
  exact rise start _ .start ⟨_,_,reached,rfl,⟨orderly,id⟩,rfl⟩

end HotFix.Delivery
