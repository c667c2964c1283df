import HotFix.Queries
import HotFix.Transport

/-!
What a step of the tasks can do: the session handles what woke it, the initiator moves
on, or a reader or a writer works on its connection. Every result about the system is
read off these cases.
-/
namespace HotFix.Interleavings
open HotFix.Program HotFix.Systems HotFix.Transport MessageStore
variable {S : Type}

/-! ### Posts and updates -/

/-- Events that one task sends in a row. -/
def posts (sys : System S) (task : Task) (events : List SessionEvent) : System S :=
  if sys.running then { sys with events := sys.events.post (events.map (task,·)) } else sys

section
variable (sys : System S) (task : Task) (events : List SessionEvent)

theorem posts_one (event : SessionEvent) : posts sys task [event] = sys.post task event := rfl

theorem posts_nil : posts sys task [] = sys := by
  unfold posts
  split_ifs
  · obtain ⟨w,running,⟨posted,taken,inside⟩,connections,initiator⟩ := sys
    simp [Channel.post]
  · rfl

@[simp] theorem posts_world : (posts sys task events).world = sys.world := by
  unfold posts
  split_ifs <;> rfl

@[simp] theorem posts_running : (posts sys task events).running = sys.running := by
  unfold posts
  split_ifs <;> rfl

@[simp] theorem posts_connections : (posts sys task events).connections = sys.connections := by
  unfold posts
  split_ifs <;> rfl

@[simp] theorem posts_initiator : (posts sys task events).initiator = sys.initiator := by
  unfold posts
  split_ifs <;> rfl

end

theorem posts_alive {sys : System S} (alive : sys.running = true) (task : Task) (events : List SessionEvent) :
    (posts sys task events).events = sys.events.post (events.map (task,·)) := by
  unfold posts
  rw [if_pos alive]

theorem posts_gone {sys : System S} (gone : sys.running = false) (task : Task) (events : List SessionEvent) :
    posts sys task events = sys := by
  unfold posts
  rw [gone]
  rfl

theorem modify_set {α : Type} {l : List α} {k : Nat} {a : α} (here : l[k]? = some a) (f : α → α) : l.modify k f = l.set k (f a) := by
  rw [List.modify_eq_set_getElem?,here]
  rfl

/-- The system with another value for one connection. -/
def put (sys : System S) (k : Nat) (c : FixConnection) : System S := { sys with connections := sys.connections.set k c }

theorem update_put {sys : System S} {k : Nat} {c : FixConnection} (here : sys.connections[k]? = some c)
    (f : FixConnection → FixConnection) : sys.update k f = put sys k (f c) := by
  unfold System.update put
  rw [modify_set here]

/-! ### The cases -/

/-- What a reader or a writer does to its connection, and the events it sends. -/
inductive Work (arith : Arith) (sys : System S) (k : Nat) (c : FixConnection) : List SessionEvent → FixConnection → Prop where
  | read (reading : c.reader = .Reading []) (chunk : Bytes) : Work arith sys k c [] (c.read arith chunk)
  | delivered {message : Bytes} {rest : List Bytes} (reading : c.reader = .Reading (message :: rest)) :
    Work arith sys k c [.FixMessageReceived message] { c with reader := .Reading rest }
  | left (reading : c.reader = .Reading []) {cause : Cause} {reason : Bytes} (given : cause.reason c.kill = some reason) :
    Work arith sys k c [.Disconnected reason] { c with reader := .Leaving }
  | signalled (leaving : c.reader = .Leaving) : Work arith sys k c [] { c with reader := .Exited }
  | took (running : c.writer = .Running) {message : WriterMessage} (next : c.mailbox.next = some message) :
    Work arith sys k c [] (c.handle message)
  | wrote {rest : Bytes} (writing : c.writer = .Writing rest) {n : Nat} (some_bytes : n ≠ 0) : Work arith sys k c [] (c.wrote rest n)
  | failed {rest : Bytes} (writing : c.writer = .Writing rest) : Work arith sys k c [] { c with torn := true, writer := .Running }
  | orphaned (running : c.writer = .Running) (empty : c.mailbox.waiting = []) (alone : sys.reaches_writer k = false) :
    Work arith sys k c [] { c with writer := .Closing }
  | closed (closing : c.writer = .Closing) : Work arith sys k c [] { c with writer := .Exited }

/-- The initiator moves on without a word. -/
inductive Lead (sys : System S) : Initiator → Initiator → Prop where
  | answered {responder : Responder} (answer : schedule_answer responder sys.world.journal = some .InSchedule) :
    Lead sys (.AwaitingSchedule responder) .Connecting
  | shut {responder : Responder} (answer : schedule_answer responder sys.world.journal = some .Shutdown) :
    Lead sys (.AwaitingSchedule responder) (.Finished .Shutdown)
  | dropped {responder : Responder} (silent : schedule_answer responder sys.world.journal = none)
    (lost : sys.pending responder = false) : Lead sys (.AwaitingSchedule responder) (.Finished .SessionGone)
  | unconnected : Lead sys .Connecting .Asking
  | closing {k : Nat} {c : FixConnection} (here : sys.connections[k]? = some c) (exited : c.writer = .Exited) :
    Lead sys (.Running k) (.Closing k)
  | reconnects {query : Nat} (answer : (reconnect_answers sys.world.journal)[query]? = some true) :
    Lead sys (.AwaitingDecision query) .Sleeping
  | stays {query : Nat} (answer : (reconnect_answers sys.world.journal)[query]? = some false) :
    Lead sys (.AwaitingDecision query) (.Finished .StayAway)
  | lost {initiator : Initiator} (gone : sys.running = false) (free : initiator.holds = none) :
    Lead sys initiator (.Finished .SessionGone)
  | woke : Lead sys .Sleeping .Starting

/-- The initiator sends an event, to a session that runs. -/
inductive Pose (sys : System S) : Initiator → SessionEvent → Initiator → Prop where
  | schedule : Pose sys .Starting (.AwaitSchedule sys.events.posted.length) (.AwaitingSchedule sys.events.posted.length)
  | connected (k : Nat) : Pose sys (.Registering k) (.Connected ⟨k⟩) (.Running k)
  | reconnect : Pose sys .Asking .ShouldReconnect (.AwaitingDecision (sys.events.posted.filter is_query).length)

/-- The initiator lets its connection go. -/
inductive Leave (sys : System S) (k : Nat) : Initiator → Initiator → Prop where
  | returned {initiator : Initiator} {c : FixConnection} (holds : initiator.holds = some k) (inside : initiator ≠ .Registering k)
    (here : sys.connections[k]? = some c) (gone : c.reader.gone = true) : Leave sys k initiator .Asking
  | unregistered (gone : sys.running = false) : Leave sys k (.Registering k) (.Finished .SessionGone)

/-! ### What the cases leave alone -/

section
variable {arith : Arith} {sys : System S} {k : Nat} {c c' : FixConnection}

/-- What is posted by another task than the initiator registers nobody. -/
theorem registers_reader {i : Nat} {events : List SessionEvent} (work : Work arith sys k c events c') {entry : Task × SessionEvent}
    (member : entry ∈ events.map (Task.Reader k,·)) : registers i entry = false := by
  obtain ⟨event,inside,rfl⟩ := List.mem_map.mp member
  cases work with
  | delivered reading => cases List.mem_singleton.mp inside; rfl
  | left reading given => cases List.mem_singleton.mp inside; rfl
  | _ => cases inside

theorem mem_posts {task : Task} {events : List SessionEvent} {entry : Task × SessionEvent}
    (member : entry ∈ (posts sys task events).events.posted) : entry ∈ sys.events.posted ∨ entry ∈ events.map (task,·) := by
  cases alive : sys.running with
  | false =>
    rw [posts_gone alive] at member
    exact .inl member
  | true =>
    rw [posts_alive alive] at member
    exact List.mem_append.mp member

theorem lead_holds {initiator initiator' : Initiator} (lead : Lead sys initiator initiator') {i : Nat}
    (holds : initiator'.holds = some i) : initiator.holds = some i := by
  cases lead with
  | closing here exited => exact holds
  | _ => cases holds

theorem pose_registers {initiator initiator' : Initiator} {event : SessionEvent} (pose : Pose sys initiator event initiator')
    {task : Task} {i : Nat} (registered : registers i (task,event) = true) : initiator.holds = some i := by
  cases pose with
  | connected i' =>
    simp only [registers,decide_eq_true_eq] at registered
    exact congrArg some registered
  | schedule => cases registered
  | reconnect => cases registered

theorem pose_holds {initiator initiator' : Initiator} {event : SessionEvent} (pose : Pose sys initiator event initiator')
    {i : Nat} (holds : initiator'.holds = some i) : initiator.holds = some i := by
  cases pose with
  | connected i' => exact holds
  | schedule => cases holds
  | reconnect => cases holds

theorem leave_holds {initiator initiator' : Initiator} (leave : Leave sys k initiator initiator') : initiator'.holds = none := by
  cases leave with
  | returned holds inside here gone => rfl
  | unregistered gone => rfl

end

/-- One reader or one writer worked on its connection. -/
def Worked (arith : Arith) (sys : System S) (k : Nat) (sys' : System S) : Prop :=
  ∃ c events c', sys.connections[k]? = some c ∧ Work arith sys k c events c' ∧ sys' = put (posts sys (.Reader k) events) k c'

theorem worked_silent {arith : Arith} {sys : System S} {k : Nat} {c : FixConnection} (here : sys.connections[k]? = some c)
    {f : FixConnection → FixConnection} (work : Work arith sys k c [] (f c)) : Worked arith sys k (sys.update k f) :=
  ⟨c,[],f c,here,work,by rw [posts_nil,update_put here]⟩

variable [MessageStore S]

/-- One step of the system. -/
inductive Move (arith : Arith) (env : Env) (sys : System S) : System S → Prop where
  | event (alive : sys.running = true) {task : Task} {event : SessionEvent} (next : sys.events.next = some (task,event)) :
    Move arith env sys ({ sys with events := sys.events.take }.handle env (.Event event))
  | woken (alive : sys.running = true) {input : Input} (armed : enabled sys.world.state input = true)
    (inner : is_event input = false) : Move arith env sys (sys.handle env input)
  | ended {ending : Ending} (finished : sys.initiator = .Finished ending) (gone : sys.readers_gone = true) :
    Move arith env sys { sys with running := false }
  | leads {initiator : Initiator} (leads : Lead sys sys.initiator initiator) : Move arith env sys { sys with initiator := initiator }
  | poses (alive : sys.running = true) {event : SessionEvent} {initiator : Initiator} (poses : Pose sys sys.initiator event initiator) :
    Move arith env sys { posts sys .Initiator [event] with initiator := initiator }
  | opened (connecting : sys.initiator = .Connecting) : Move arith env sys
    { sys with connections := sys.connections ++ [.new], initiator := .Registering sys.connections.length }
  | leaves {k : Nat} {initiator : Initiator} (leaves : Leave sys k sys.initiator initiator) : Move arith env sys (sys.leave k initiator)
  | forced {k : Nat} (closing : sys.initiator = .Closing k) : Move arith env sys
    { sys.update k (fun c => { c with kill := .Sent }) with initiator := .Killing k }
  | works {k : Nat} {c c' : FixConnection} {events : List SessionEvent} (here : sys.connections[k]? = some c)
    (work : Work arith sys k c events c') : Move arith env sys (put (posts sys (.Reader k) events) k c')

section
variable {arith : Arith} {env : Env} {sys sys' : System S}

/-! ### Every step is one of the cases -/

theorem handle_event_moves (stepped : handle_event env sys = some sys') : Move arith env sys sys' := by
  unfold handle_event at stepped
  split_ifs at stepped with alive
  obtain ⟨⟨task,event⟩,next,rfl⟩ := Option.map_eq_some_iff.mp stepped
  exact .event alive next

theorem handle_other_moves {input : Input} (stepped : handle_other env input sys = some sys') : Move arith env sys sys' := by
  unfold handle_other at stepped
  split_ifs at stepped with guard
  cases stepped
  exact .woken guard.1 guard.2.1 guard.2.2

theorem session_ends_moves (stepped : session_ends sys = some sys') : Move arith env sys sys' := by
  unfold session_ends at stepped
  cases initiator : sys.initiator with
  | Finished ending =>
    rw [initiator] at stepped
    dsimp only at stepped
    split_ifs at stepped with guard
    cases stepped
    rw [← initiator]
    exact .ended initiator guard.2
  | _ => simp [initiator] at stepped

theorem moved_to {initiator : Initiator} (leads : Lead sys sys.initiator initiator)
    (moved : some { sys with initiator := initiator } = some sys') : Move arith env sys sys' := by
  cases moved
  exact .leads leads

/-- A send fails where the session is gone. -/
theorem sent_or_lost {event : SessionEvent} {initiator : Initiator} (free : sys.initiator.holds = none)
    (poses : Pose sys sys.initiator event initiator)
    (moved : some (if sys.running then { sys.post .Initiator event with initiator := initiator }
      else { sys with initiator := .Finished .SessionGone }) = some sys') : Move arith env sys sys' := by
  split_ifs at moved with alive
  · cases moved
    exact .poses alive poses
  · exact moved_to (.lost (Bool.eq_false_iff.mpr alive) free) moved

theorem request_schedule_moves (stepped : request_schedule sys = some sys') : Move arith env sys sys' := by
  unfold request_schedule at stepped
  cases initiator : sys.initiator with
  | Starting =>
    rw [initiator] at stepped
    exact sent_or_lost (by rw [initiator]; rfl) (by rw [initiator]; exact .schedule) stepped
  | _ => simp [initiator] at stepped

theorem schedule_answered_moves (stepped : schedule_answered sys = some sys') : Move arith env sys sys' := by
  unfold schedule_answered at stepped
  cases initiator : sys.initiator with
  | AwaitingSchedule responder =>
    rw [initiator] at stepped
    dsimp only at stepped
    cases answer : schedule_answer responder sys.world.journal with
    | none =>
      rw [answer] at stepped
      dsimp only at stepped
      split_ifs at stepped with waits
      exact moved_to (by rw [initiator]; exact .dropped answer (Bool.eq_false_iff.mpr waits)) stepped
    | some response =>
      rw [answer] at stepped
      cases response with
      | InSchedule => exact moved_to (by rw [initiator]; exact .answered answer) stepped
      | Shutdown => exact moved_to (by rw [initiator]; exact .shut answer) stepped
  | _ => simp [initiator] at stepped

theorem connect_moves {connected : Bool} (stepped : connect connected sys = some sys') : Move arith env sys sys' := by
  unfold connect at stepped
  cases initiator : sys.initiator with
  | Connecting =>
    rw [initiator] at stepped
    dsimp only at stepped
    split_ifs at stepped
    · cases stepped
      exact .opened initiator
    · exact moved_to (by rw [initiator]; exact .unconnected) stepped
  | _ => simp [initiator] at stepped

theorem register_moves (stepped : register sys = some sys') : Move arith env sys sys' := by
  unfold register at stepped
  cases initiator : sys.initiator with
  | Registering k =>
    rw [initiator] at stepped
    dsimp only at stepped
    split_ifs at stepped with alive
    · cases stepped
      exact .poses alive (by rw [initiator]; exact .connected k)
    · cases stepped
      exact .leaves (by rw [initiator]; exact .unregistered (Bool.eq_false_iff.mpr alive))
  | _ => simp [initiator] at stepped

theorem writer_exited_moves (stepped : writer_exited sys = some sys') : Move arith env sys sys' := by
  unfold writer_exited at stepped
  cases initiator : sys.initiator with
  | Running k =>
    rw [initiator] at stepped
    dsimp only at stepped
    split_ifs at stepped with exited
    obtain ⟨c,here,gone⟩ := (Option.any_eq_true _ _).mp exited
    exact moved_to (by rw [initiator]; exact .closing here (of_decide_eq_true gone)) stepped
  | _ => simp [initiator] at stepped

theorem returned_moves {k : Nat} (holds : sys.initiator.holds = some k) (inside : sys.initiator ≠ .Registering k)
    (stepped : (if sys.connections[k]?.any (fun c => c.reader.gone) then some (sys.leave k .Asking) else none) = some sys') :
    Move arith env sys sys' := by
  split_ifs at stepped with exited
  cases stepped
  obtain ⟨c,here,gone⟩ := (Option.any_eq_true _ _).mp exited
  exact .leaves (.returned holds inside here gone)

theorem reader_exited_moves (stepped : reader_exited sys = some sys') : Move arith env sys sys' := by
  unfold reader_exited at stepped
  cases initiator : sys.initiator with
  | Running k =>
    rw [initiator] at stepped
    exact returned_moves (by rw [initiator]; rfl) (by rw [initiator]; exact fun same => by cases same) stepped
  | Closing k =>
    rw [initiator] at stepped
    exact returned_moves (by rw [initiator]; rfl) (by rw [initiator]; exact fun same => by cases same) stepped
  | Killing k =>
    rw [initiator] at stepped
    exact returned_moves (by rw [initiator]; rfl) (by rw [initiator]; exact fun same => by cases same) stepped
  | _ => simp [initiator] at stepped

theorem force_close_moves (stepped : force_close sys = some sys') : Move arith env sys sys' := by
  unfold force_close at stepped
  cases initiator : sys.initiator with
  | Closing k =>
    rw [initiator] at stepped
    cases stepped
    exact .forced initiator
  | _ => simp [initiator] at stepped

theorem request_decision_moves (stepped : request_decision sys = some sys') : Move arith env sys sys' := by
  unfold request_decision at stepped
  cases initiator : sys.initiator with
  | Asking =>
    rw [initiator] at stepped
    exact sent_or_lost (by rw [initiator]; rfl) (by rw [initiator]; exact .reconnect) stepped
  | _ => simp [initiator] at stepped

theorem decision_made_moves (stepped : decision_made sys = some sys') : Move arith env sys sys' := by
  unfold decision_made at stepped
  cases initiator : sys.initiator with
  | AwaitingDecision query =>
    rw [initiator] at stepped
    dsimp only at stepped
    cases answer : (reconnect_answers sys.world.journal)[query]? with
    | none =>
      rw [answer] at stepped
      dsimp only at stepped
      split_ifs at stepped with alive
      exact moved_to (.lost (Bool.eq_false_iff.mpr alive) (by rw [initiator]; rfl)) stepped
    | some reconnect =>
      rw [answer] at stepped
      cases reconnect with
      | true => exact moved_to (by rw [initiator]; exact .reconnects answer) stepped
      | false => exact moved_to (by rw [initiator]; exact .stays answer) stepped
  | _ => simp [initiator] at stepped

theorem wake_moves (stepped : wake sys = some sys') : Move arith env sys sys' := by
  unfold wake at stepped
  cases initiator : sys.initiator with
  | Sleeping =>
    rw [initiator] at stepped
    exact moved_to (by rw [initiator]; exact .woke) stepped
  | _ => simp [initiator] at stepped

/-! #### The readers and the writers -/

omit [MessageStore S] in
theorem read_worked {k : Nat} {chunk : Bytes} (stepped : Transport.read arith k chunk sys = some sys') : Worked arith sys k sys' := by
  unfold Transport.read at stepped
  split at stepped
  · next here =>
    split_ifs at stepped
    cases stepped
    exact worked_silent here (.read rfl chunk)
  · cases stepped

omit [MessageStore S] in
theorem deliver_message_worked {k : Nat} (stepped : deliver_message k sys = some sys') : Worked arith sys k sys' := by
  unfold deliver_message at stepped
  split at stepped
  · next here =>
    cases stepped
    rw [← posts_one,update_put (by rw [posts_connections]; exact here)]
    exact ⟨_,_,_,here,.delivered rfl,rfl⟩
  · cases stepped

omit [MessageStore S] in
theorem leave_loop_worked {k : Nat} {cause : Cause} (stepped : leave_loop k cause sys = some sys') : Worked arith sys k sys' := by
  unfold leave_loop at stepped
  split at stepped
  · next here =>
    obtain ⟨reason,given,rfl⟩ := Option.map_eq_some_iff.mp stepped
    rw [← posts_one,update_put (by rw [posts_connections]; exact here)]
    exact ⟨_,_,_,here,.left rfl given,rfl⟩
  · cases stepped

omit [MessageStore S] in
theorem signal_worked {k : Nat} (stepped : signal k sys = some sys') : Worked arith sys k sys' := by
  unfold signal at stepped
  split at stepped
  · next here =>
    cases stepped
    exact worked_silent here (.signalled rfl)
  · cases stepped

omit [MessageStore S] in
theorem write_worked {k : Nat} (stepped : write k sys = some sys') : Worked arith sys k sys' := by
  unfold write at stepped
  cases here : sys.connections[k]? with
  | none => simp [here] at stepped
  | some c =>
    rw [here] at stepped
    dsimp only at stepped
    split_ifs at stepped with running
    obtain ⟨message,next,rfl⟩ := Option.map_eq_some_iff.mp stepped
    exact worked_silent here (.took running next)

omit [MessageStore S] in
theorem wrote_worked {k n : Nat} (stepped : wrote k n sys = some sys') : Worked arith sys k sys' := by
  unfold wrote at stepped
  split at stepped
  · next here =>
    split_ifs at stepped with some_bytes
    cases stepped
    exact worked_silent here (.wrote rfl some_bytes)
  · cases stepped

omit [MessageStore S] in
theorem fail_worked {k : Nat} (stepped : fail k sys = some sys') : Worked arith sys k sys' := by
  unfold fail at stepped
  split at stepped
  · next here =>
    cases stepped
    exact worked_silent here (.failed rfl)
  · cases stepped

omit [MessageStore S] in
theorem orphaned_worked {k : Nat} (stepped : orphaned k sys = some sys') : Worked arith sys k sys' := by
  unfold orphaned at stepped
  cases here : sys.connections[k]? with
  | none => simp [here] at stepped
  | some c =>
    rw [here] at stepped
    dsimp only at stepped
    split_ifs at stepped with guard
    cases stepped
    exact worked_silent here (.orphaned guard.1 (List.isEmpty_iff.mp guard.2.1) guard.2.2)

omit [MessageStore S] in
theorem close_writer_worked {k : Nat} (stepped : close_writer k sys = some sys') : Worked arith sys k sys' := by
  unfold close_writer at stepped
  cases here : sys.connections[k]? with
  | none => simp [here] at stepped
  | some c =>
    rw [here] at stepped
    dsimp only at stepped
    split_ifs at stepped with closing
    cases stepped
    exact worked_silent here (.closed closing)

/-- The connection that a reader or a writer works on. -/
def works_on : Action → Option Nat
  | .Read k _ => some k
  | .Deliver k => some k
  | .Leave k _ => some k
  | .Signal k => some k
  | .Write k => some k
  | .Wrote k _ => some k
  | .Fail k => some k
  | .Orphaned k => some k
  | .CloseWriter k => some k
  | _ => none

theorem step_worked {action : Action} {k : Nat} (works : works_on action = some k) (stepped : step arith env action sys = some sys') :
    Worked arith sys k sys' := by
  cases action with
  | Read i chunk => cases works; exact read_worked stepped
  | Deliver i => cases works; exact deliver_message_worked stepped
  | Leave i cause => cases works; exact leave_loop_worked stepped
  | Signal i => cases works; exact signal_worked stepped
  | Write i => cases works; exact write_worked stepped
  | Wrote i n => cases works; exact wrote_worked stepped
  | Fail i => cases works; exact fail_worked stepped
  | Orphaned i => cases works; exact orphaned_worked stepped
  | CloseWriter i => cases works; exact close_writer_worked stepped
  | _ => cases works

theorem step_moves {action : Action} (stepped : step arith env action sys = some sys') : Move arith env sys sys' := by
  have moves {k : Nat} (works : works_on action = some k) : Move arith env sys sys' := by
    obtain ⟨c,events,c',here,work,rfl⟩ := step_worked works stepped
    exact .works here work
  cases action with
  | HandleEvent => exact handle_event_moves stepped
  | Handle input => exact handle_other_moves stepped
  | SessionEnds => exact session_ends_moves stepped
  | RequestSchedule => exact request_schedule_moves stepped
  | ScheduleAnswered => exact schedule_answered_moves stepped
  | Connect connected => exact connect_moves stepped
  | Register => exact register_moves stepped
  | WriterExited => exact writer_exited_moves stepped
  | ReaderExited => exact reader_exited_moves stepped
  | ForceClose => exact force_close_moves stepped
  | RequestDecision => exact request_decision_moves stepped
  | DecisionMade => exact decision_made_moves stepped
  | Wake => exact wake_moves stepped
  | _ => exact moves rfl

/-- What holds at first and is kept in every case holds of every state reached. -/
theorem reached_invariant {store : S} {P : System S → Prop} (reached : Reached (step arith env) (.initial store) sys)
    (initial : P (.initial store))
    (kept : ∀ sys sys', Reached (step arith env) (.initial store) sys → P sys → Move arith env sys sys' → P sys') : P sys :=
  reached.invariant initial (fun _ s s' before here stepped => kept s s' before here (step_moves stepped))

end
end HotFix.Interleavings
