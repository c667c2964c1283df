import HotFix.Lifecycle

/-!
What the initiator asks the session. While the session runs, a query is in the channel,
or the session keeps its responder, or it has been answered; so the initiator never waits
for an answer that cannot come, and a connection is opened only to a session without a
writer.
-/
namespace HotFix.Waking
open HotFix.Parallel (queries)
open HotFix.Program HotFix.Systems HotFix.Transport HotFix.Interleavings HotFix.Queries HotFix.Streams HotFix.Lifecycle MessageStore
variable {S : Type} {arith : Arith} {env : Env} {sys sys' : System S} {w w' : World S}
  {events : Channel (Task × SessionEvent)} {responder : Responder} {query : Nat}

/-! ### Answers -/

theorem schedule_answer_append (responder : Responder) (journal entries : List Effect) :
    schedule_answer responder (journal ++ entries) = (schedule_answer responder journal).or (schedule_answer responder entries) :=
  List.findSome?_append ..

theorem reconnect_answers_append (journal entries : List Effect) :
    reconnect_answers (journal ++ entries) = reconnect_answers journal ++ reconnect_answers entries := List.filterMap_append ..

theorem is_query_task (task : Task) (event : SessionEvent) : is_query (task,event) = is_query (.Initiator,event) := by
  cases event <;> rfl

/-- Nothing but the answers is looked at. -/
theorem schedule_answer_answers (responder : Responder) (journal : List Effect) :
    schedule_answer responder (answers journal) = schedule_answer responder journal := by
  induction journal with
  | nil => rfl
  | cons entry rest ih =>
    have here := schedule_answer_append responder [entry] rest
    have there := schedule_answer_append responder (answers [entry]) (answers rest)
    rw [← answers_append,ih] at there
    rw [show entry :: rest = [entry] ++ rest from rfl,here,there]
    cases entry <;> rfl

theorem reconnect_answers_answers (journal : List Effect) : reconnect_answers (answers journal) = reconnect_answers journal := by
  induction journal with
  | nil => rfl
  | cons entry rest ih =>
    have here := reconnect_answers_append [entry] rest
    have there := reconnect_answers_append (answers [entry]) (answers rest)
    rw [← answers_append,ih] at there
    rw [show entry :: rest = [entry] ++ rest from rfl,here,there]
    cases entry <;> rfl

/-- The answers of the journal, with one more. -/
theorem schedule_answer_more {journal journal' : List Effect} {answer : Effect} (added : answers journal' = answers journal ++ [answer]) :
    schedule_answer responder journal' = (schedule_answer responder journal).or (schedule_answer responder [answer]) := by
  rw [← schedule_answer_answers,added,schedule_answer_append,schedule_answer_answers]

theorem schedule_answer_same {journal journal' : List Effect} (same : answers journal' = answers journal) :
    schedule_answer responder journal' = schedule_answer responder journal := by
  rw [← schedule_answer_answers,same,schedule_answer_answers]

theorem reconnect_answers_more {journal journal' : List Effect} {answer : Effect} (added : answers journal' = answers journal ++ [answer]) :
    reconnect_answers journal' = reconnect_answers journal ++ reconnect_answers [answer] := by
  rw [← reconnect_answers_answers,added,reconnect_answers_append,reconnect_answers_answers]

theorem reconnect_answers_same {journal journal' : List Effect} (same : answers journal' = answers journal) :
    reconnect_answers journal' = reconnect_answers journal := by
  rw [← reconnect_answers_answers,same,reconnect_answers_answers]

/-! ### Phases -/

/-- No query waits in the channel. -/
def Silent (entries : List (Task × SessionEvent)) : Prop := ∀ entry ∈ entries, queries (.Event entry.2) = false

/-- No query waits at all. -/
structure Rests (w : World S) (events : Channel (Task × SessionEvent)) : Prop where
  awaiter : w.state.awaiter = none
  silent : Silent events.waiting

/-- No writer is known to the session or on its way. -/
structure Unwritten (w : World S) (events : Channel (Task × SessionEvent)) : Prop where
  writer : w.state.get_writer = none
  waiting : ∀ entry ∈ events.waiting, ∀ k, registers k entry = false

/-- Where the query about the schedule is. -/
inductive Queried (w : World S) (events : Channel (Task × SessionEvent)) (responder : Responder) : Prop where
  | asked {front : List (Task × SessionEvent)} (waiting : events.waiting = front ++ [(.Initiator,.AwaitSchedule responder)])
    (silent : Silent front) (awaiter : w.state.awaiter = none) (fresh : schedule_answer responder w.journal = none)
  | kept (waiting : events.waiting = []) (awaiter : w.state.awaiter = some responder)
    (fresh : schedule_answer responder w.journal = none)
  | answered (waiting : events.waiting = []) (awaiter : w.state.awaiter = none) {response : ScheduleResponse}
    (answer : schedule_answer responder w.journal = some response) (free : response = .InSchedule → w.state.get_writer = none)

/-- Where the query about the next connection is. -/
inductive Decides (w : World S) (events : Channel (Task × SessionEvent)) : Prop where
  | asked {front : List (Task × SessionEvent)} (waiting : events.waiting = front ++ [(.Initiator,.ShouldReconnect)])
    (silent : Silent front) (awaiter : w.state.awaiter = none)
  | answered (waiting : events.waiting = []) (awaiter : w.state.awaiter = none)

/-- What the session and the channel are up to, by where the initiator is. -/
def Phase (w : World S) (events : Channel (Task × SessionEvent)) : Initiator → Prop
  | .AwaitingSchedule responder => responder < events.posted.length ∧ Queried w events responder
  | .Connecting => Rests w events ∧ Unwritten w events
  | .Registering _ => Rests w events ∧ Unwritten w events
  | .AwaitingDecision query => query + 1 = (events.posted.filter is_query).length ∧ Decides w events
  | _ => Rests w events

variable [MessageStore S]

/-! ### The session in a phase -/

theorem rests_input (env : Env) {input : Input} (awaiter : w.state.awaiter = none) (other : queries input = false) :
    (final (handle_input env input w)).state.awaiter = none ∧ answers (final (handle_input env input w)).journal = answers w.journal :=
  calm_input other ⟨awaiter,rfl⟩

/-- A session without a writer does not come by one. -/
theorem unwritten_input {input : Input} (writer : w.state.get_writer = none) (other : ∀ writer, input ≠ .Event (.Connected writer)) :
    (final (handle_input env input w)).state.get_writer = none := by
  rcases handle_writer env input w with (gone | same) | ⟨writer,brought,-⟩
  · exact gone
  · exact same.trans writer
  · exact absurd brought (other writer)

/-- The query about the schedule is kept, or refused to a session with a writer. -/
theorem await_input (awaiter : w.state.awaiter = none) (returns : returned (handle_input env (.Event (.AwaitSchedule responder)) w) = true) :
    (final (handle_input env (.Event (.AwaitSchedule responder)) w)).state.awaiter = some responder ∧
      answers (final (handle_input env (.Event (.AwaitSchedule responder)) w)).journal = answers w.journal ∨
    (final (handle_input env (.Event (.AwaitSchedule responder)) w)).state.awaiter = none ∧
      answers (final (handle_input env (.Event (.AwaitSchedule responder)) w)).journal =
        answers w.journal ++ [.ScheduleAnswer responder .Shutdown] ∧
      ∃ writer, (final (handle_input env (.Event (.AwaitSchedule responder)) w)).state.get_writer = some writer := by
  rcases handled : handle_input env (.Event (.AwaitSchedule responder)) w with ⟨_,w'⟩ | ⟨e,w'⟩
  · rcases calm_await ⟨awaiter,rfl⟩ handled with waits | ⟨calm,written⟩
    · exact .inl waits
    · exact .inr ⟨calm.1,calm.2,written⟩
  · rw [handled] at returns
    cases returns

/-- Whether to reconnect is answered at once. -/
theorem decision_input (awaiter : w.state.awaiter = none) (returns : returned (handle_input env (.Event .ShouldReconnect) w) = true) :
    (final (handle_input env (.Event .ShouldReconnect) w)).state.awaiter = none ∧
    ∃ answer, answers (final (handle_input env (.Event .ShouldReconnect) w)).journal = answers w.journal ++ [.ReconnectAnswer answer] := by
  rcases handled : handle_input env (.Event .ShouldReconnect) w with ⟨_,w'⟩ | ⟨e,w'⟩
  · obtain ⟨answer,calm⟩ := calm_reconnect ⟨awaiter,rfl⟩ handled
    exact ⟨calm.1,answer,calm.2⟩
  · rw [handled] at returns
    cases returns

omit [MessageStore S] in
theorem register_returns (responder : Responder) (w : World S) : returned (register_schedule_awaiter responder w) = true := by
  unfold register_schedule_awaiter
  rw [get_bind]
  cases w.state with
  | Disconnected state =>
    dsimp only
    split_ifs <;> rfl
  | _ => rfl

/-- A query that is not handled to its end gets no answer. -/
theorem query_fails {event : SessionEvent} (awaiter : w.state.awaiter = none) (query : queries (.Event event) = true)
    (fails : returned (handle_input env (.Event event) w) = false) :
    answers (final (handle_input env (.Event event) w)).journal = answers w.journal := by
  have checked := @calm_check _ _ _ (answers w.journal) env ⟨awaiter,rfl⟩
  have stops {f : SessionM S Unit} (returns : ∀ c, returned (f c) = true)
      (fails : returned ((handle_schedule_check env >>= fun _ => f) w) = false) :
      answers (final ((handle_schedule_check env >>= fun _ => f) w)).journal = answers w.journal := by
    rcases scheduled : handle_schedule_check env w with ⟨_,c⟩ | ⟨e,c⟩
    · rw [bind_ok scheduled,returns c] at fails
      cases fails
    · rw [scheduled] at checked
      simp only [bind,EStateM.bind,scheduled]
      exact checked.2
  cases event with
  | ShouldReconnect => exact stops (fun c => rfl) fails
  | AwaitSchedule responder => exact stops (register_returns responder) fails
  | _ => cases query

/-- What the session answers while it handles an event. -/
inductive Answered (event : SessionEvent) (w : World S) : EStateM.Result (Abort SessionOperationError) (World S) Unit → Prop where
  | silent {result : EStateM.Result (Abort SessionOperationError) (World S) Unit}
    (same : answers (final result).journal = answers w.journal)
    (other : returned result = true → is_query (.Initiator,event) = false) : Answered event w result
  | refused {result : EStateM.Result (Abort SessionOperationError) (World S) Unit} {responder : Responder} {writer : WriterRef}
    (asked : event = .AwaitSchedule responder) (returns : returned result = true)
    (added : answers (final result).journal = answers w.journal ++ [.ScheduleAnswer responder .Shutdown])
    (writer : (final result).state.get_writer = some writer) : Answered event w result
  | decided {result : EStateM.Result (Abort SessionOperationError) (World S) Unit} {answer : Bool} (asked : event = .ShouldReconnect)
    (added : answers (final result).journal = answers w.journal ++ [.ReconnectAnswer answer]) : Answered event w result

theorem answered_event (env : Env) {event : SessionEvent} (awaiter : w.state.awaiter = none) :
    Answered event w (handle_input env (.Event event) w) := by
  by_cases query : queries (.Event event) = true
  · by_cases returns : returned (handle_input env (.Event event) w) = true
    · cases event with
      | ShouldReconnect =>
        obtain ⟨free,answer,added⟩ := decision_input awaiter returns
        exact .decided rfl added
      | AwaitSchedule responder =>
        rcases await_input awaiter returns with ⟨kept,same⟩ | ⟨free,added,writer,written⟩
        · exact .silent same (fun _ => rfl)
        · exact .refused rfl returns added written
      | _ => cases query
    · exact .silent (query_fails awaiter query (Bool.eq_false_iff.mpr returns)) (fun on => absurd on returns)
  · refine .silent (rests_input env awaiter (Bool.eq_false_iff.mpr query)).2 (fun _ => ?_)
    cases event with
    | ShouldReconnect => exact absurd rfl query
    | _ => rfl

/-- A responder that is kept stays, or is answered. -/
theorem kept_input (env : Env) {input : Input} (awaiter : w.state.awaiter = some responder) (armed : enabled w.state input = true)
    (inner : is_event input = false) :
    (final (handle_input env input w)).state.awaiter = some responder ∧ answers (final (handle_input env input w)).journal = answers w.journal ∨
    (final (handle_input env input w)).state.awaiter = none ∧
      answers (final (handle_input env input w)).journal = answers w.journal ++ [.ScheduleAnswer responder .InSchedule] := by
  refine waits_input ⟨awaiter,rfl⟩ armed (fun event same => ?_)
  rw [same] at inner
  cases inner

/-! ### The phase over one step -/

omit [MessageStore S] in
theorem silent_tail {entry : Task × SessionEvent} {front : List (Task × SessionEvent)} (silent : Silent (entry :: front)) :
    queries (.Event entry.2) = false ∧ Silent front := List.forall_mem_cons.mp silent

/-- A phase without a query, while the session handles something else. -/
theorem Rests.input {input : Input} {events' : Channel (Task × SessionEvent)} (rests : Rests w events) (other : queries input = false)
    (fewer : ∀ entry ∈ events'.waiting, entry ∈ events.waiting) : Rests (final (handle_input env input w)) events' :=
  ⟨(rests_input env rests.awaiter other).1,fun entry member => rests.silent entry (fewer entry member)⟩

theorem Unwritten.input {input : Input} {events' : Channel (Task × SessionEvent)} (unwritten : Unwritten w events)
    (other : ∀ writer, input ≠ .Event (.Connected writer)) (fewer : ∀ entry ∈ events'.waiting, entry ∈ events.waiting) :
    Unwritten (final (handle_input env input w)) events' :=
  ⟨unwritten_input unwritten.writer other,fun entry member k => unwritten.waiting entry (fewer entry member) k⟩

section
variable {task : Task} {event : SessionEvent}

/-- The session takes an event. -/
theorem Queried.next (queried : Queried w events responder) (next : events.next = some (task,event))
    (returns : returned (handle_input env (.Event event) w) = true) :
    Queried (final (handle_input env (.Event event) w)) events.take responder := by
  have first := Channel.waiting_next next
  cases queried with
  | @asked front waiting silent awaiter fresh =>
    rw [first] at waiting
    cases front with
    | nil =>
      obtain ⟨same,empty⟩ := List.cons.inj waiting
      cases same
      rcases await_input awaiter returns with ⟨kept,answered⟩ | ⟨free,answered,writer,written⟩
      · exact .kept empty kept ((schedule_answer_same answered).trans fresh)
      · have refused : schedule_answer responder (final (handle_input env (.Event (.AwaitSchedule responder)) w)).journal =
            some .Shutdown := by
          rw [schedule_answer_more answered,fresh]
          simp [schedule_answer]
        exact .answered empty free refused (fun same => by cases same)
    | cons entry front =>
      obtain ⟨same,rest⟩ := List.cons.inj waiting
      cases same
      obtain ⟨other,silent⟩ := silent_tail silent
      obtain ⟨free,answered⟩ := rests_input env awaiter other
      exact .asked rest silent free ((schedule_answer_same answered).trans fresh)
  | kept waiting awaiter fresh =>
    rw [waiting] at first
    cases first
  | answered waiting awaiter answer free =>
    rw [waiting] at first
    cases first

theorem Decides.next (decides : Decides w events) (next : events.next = some (task,event))
    (returns : returned (handle_input env (.Event event) w) = true) :
    Decides (final (handle_input env (.Event event) w)) events.take := by
  have first := Channel.waiting_next next
  cases decides with
  | @asked front waiting silent awaiter =>
    rw [first] at waiting
    cases front with
    | nil =>
      obtain ⟨same,empty⟩ := List.cons.inj waiting
      cases same
      exact .answered empty (decision_input awaiter returns).1
    | cons entry front =>
      obtain ⟨same,rest⟩ := List.cons.inj waiting
      cases same
      obtain ⟨other,silent⟩ := silent_tail silent
      exact .asked rest silent (rests_input env awaiter other).1
  | answered waiting awaiter =>
    rw [waiting] at first
    cases first

theorem phase_event {initiator : Initiator} (phase : Phase w events initiator) (next : events.next = some (task,event))
    (returns : returned (handle_input env (.Event event) w) = true) :
    Phase (final (handle_input env (.Event event) w)) events.take initiator := by
  have first := Channel.waiting_next next
  have fewer (entry : Task × SessionEvent) (member : entry ∈ events.take.waiting) : entry ∈ events.waiting := by
    rw [first]
    exact List.mem_cons_of_mem _ member
  have head : (task,event) ∈ events.waiting := by
    rw [first]
    exact List.mem_cons_self
  have rests (before : Rests w events) : Rests (final (handle_input env (.Event event) w)) events.take :=
    before.input (before.silent _ head) fewer
  have unwritten (before : Unwritten w events) : Unwritten (final (handle_input env (.Event event) w)) events.take := by
    refine before.input (fun writer same => ?_) fewer
    cases same
    have := before.waiting _ head writer.connection
    simp [registers] at this
  cases initiator with
  | AwaitingSchedule responder =>
    obtain ⟨known,queried⟩ := phase
    exact ⟨by rwa [Channel.posted_take],queried.next next returns⟩
  | AwaitingDecision query =>
    obtain ⟨counted,decides⟩ := phase
    exact ⟨by rwa [Channel.posted_take],decides.next next returns⟩
  | Connecting => exact ⟨rests phase.1,unwritten phase.2⟩
  | Registering k => exact ⟨rests phase.1,unwritten phase.2⟩
  | _ => exact rests phase

end

/-- Something else wakes the session. -/
theorem phase_woken {initiator : Initiator} {input : Input} (phase : Phase w events initiator) (armed : enabled w.state input = true)
    (inner : is_event input = false) : Phase (final (handle_input env input w)) events initiator := by
  have other : queries input = false := by
    cases input with
    | Event event => cases inner
    | _ => rfl
  have apart (writer : WriterRef) : input ≠ .Event (.Connected writer) := by
    rintro rfl
    cases inner
  have rests (before : Rests w events) : Rests (final (handle_input env input w)) events :=
    before.input other (fun _ member => member)
  have unwritten (before : Unwritten w events) : Unwritten (final (handle_input env input w)) events :=
    before.input apart (fun _ member => member)
  cases initiator with
  | AwaitingSchedule responder =>
    obtain ⟨known,queried⟩ := phase
    refine ⟨known,?_⟩
    cases queried with
    | asked waiting silent awaiter fresh =>
      obtain ⟨free,answered⟩ := rests_input env awaiter other
      exact .asked waiting silent free ((schedule_answer_same answered).trans fresh)
    | kept waiting awaiter fresh =>
      have writer : w.state.get_writer = none := by
        obtain ⟨disconnected,state,-⟩ := awaiter_writer awaiter
        rw [state]
        rfl
      rcases kept_input env awaiter armed inner with ⟨kept,answered⟩ | ⟨free,answered⟩
      · exact .kept waiting kept ((schedule_answer_same answered).trans fresh)
      · have let_in : schedule_answer responder (final (handle_input env input w)).journal = some .InSchedule := by
          rw [schedule_answer_more answered,fresh]
          simp [schedule_answer]
        exact .answered waiting free let_in (fun _ => unwritten_input writer apart)
    | answered waiting awaiter answer free =>
      obtain ⟨still,answered⟩ := rests_input env awaiter other
      exact .answered waiting still ((schedule_answer_same answered).trans answer)
        (fun in_schedule => unwritten_input (free in_schedule) apart)
  | AwaitingDecision query =>
    obtain ⟨counted,decides⟩ := phase
    refine ⟨counted,?_⟩
    cases decides with
    | asked waiting silent awaiter => exact .asked waiting silent (rests_input env awaiter other).1
    | answered waiting awaiter => exact .answered waiting (rests_input env awaiter other).1
  | Connecting => exact ⟨rests phase.1,unwritten phase.2⟩
  | Registering k => exact ⟨rests phase.1,unwritten phase.2⟩
  | _ => exact rests phase

omit [MessageStore S] in
/-- A reader posts something. -/
theorem phase_posts {initiator : Initiator} {events' : Channel (Task × SessionEvent)} {more : List (Task × SessionEvent)}
    (phase : Phase w events initiator) (posted : events' = events.post more) (held : more ≠ [] → initiator.holds ≠ none)
    (silent : Silent more) (apart : ∀ entry ∈ more, ∀ k, registers k entry = false) : Phase w events' initiator := by
  subst posted
  have rests (before : Rests w events) : Rests w (events.post more) := by
    refine ⟨before.awaiter,?_⟩
    rw [Channel.waiting_post]
    exact List.forall_mem_append.mpr ⟨before.silent,silent⟩
  have nothing (free : initiator.holds = none) : events.post more = events := by
    obtain rfl : more = [] := by
      by_contra some_more
      exact held some_more free
    obtain ⟨posted,taken,inside⟩ := events
    simp [Channel.post]
  cases initiator with
  | AwaitingSchedule responder =>
    rw [nothing rfl]
    exact phase
  | AwaitingDecision query =>
    rw [nothing rfl]
    exact phase
  | Connecting =>
    rw [nothing rfl]
    exact phase
  | Registering k =>
    refine ⟨rests phase.1,phase.2.writer,?_⟩
    rw [Channel.waiting_post]
    exact List.forall_mem_append.mpr ⟨phase.2.waiting,apart⟩
  | _ => exact rests phase

omit [MessageStore S] in
/-- What a reader posts is no query, and registers nobody. -/
theorem work_posts {k : Nat} {c c' : FixConnection} {events : List SessionEvent} (work : Work arith sys k c events c') :
    Silent (events.map (Task.Reader k,·)) ∧ ∀ entry ∈ events.map (Task.Reader k,·), ∀ i, registers i entry = false := by
  refine ⟨fun entry member => ?_,fun entry member i => registers_reader work member⟩
  obtain ⟨event,inside,rfl⟩ := List.mem_map.mp member
  cases work with
  | delivered reading => cases List.mem_singleton.mp inside; rfl
  | left reading given => cases List.mem_singleton.mp inside; rfl
  | _ => cases inside

/-! ### The phase over a run -/

/-- While the session runs: the phase, and what has been asked and answered so far. -/
structure Phased (sys : System S) : Prop where
  phase : Phase sys.world sys.events sys.initiator
  fresh : ∀ responder, sys.events.posted.length ≤ responder → schedule_answer responder sys.world.journal = none
  counted : (reconnect_answers sys.world.journal).length = (sys.events.handled.filter is_query).length

omit [MessageStore S] in
theorem Phase.rested {initiator : Initiator} (phase : Phase w events initiator) (held : initiator.holds ≠ none) : Rests w events := by
  cases initiator with
  | Registering k => exact phase.1
  | Running k => exact phase
  | Closing k => exact phase
  | Killing k => exact phase
  | _ => exact absurd rfl held

omit [MessageStore S] in
theorem rests_empty (awaiter : w.state.awaiter = none) (waiting : events.waiting = []) : Rests w events := by
  refine ⟨awaiter,?_⟩
  rw [waiting]
  exact fun entry member => by cases member

omit [MessageStore S] in
/-- With as many answers as there are queries, none waits. -/
theorem Decides.made (decides : Decides w events) (asked : query + 1 = (events.posted.filter is_query).length)
    (handled : query < (events.handled.filter is_query).length) : Rests w events := by
  cases decides with
  | @asked front waiting silent awaiter =>
    -- the query itself has not been handled
    have whole := events.handled_waiting
    rw [waiting] at whole
    rw [← whole] at asked
    simp only [List.filter_append,List.length_append] at asked
    rw [show [(Task.Initiator,SessionEvent.ShouldReconnect)].filter is_query = [(Task.Initiator,SessionEvent.ShouldReconnect)] from rfl,
      List.length_singleton] at asked
    omega
  | answered waiting awaiter => exact rests_empty awaiter waiting

omit [MessageStore S] in
/-- The initiator only moves on. -/
theorem Phased.lead {initiator : Initiator} (phased : Phased sys) (alive : sys.running = true) (lead : Lead sys sys.initiator initiator) :
    Phase sys.world sys.events initiator := by
  have phase := phased.phase
  have counted := phased.counted
  generalize sys.initiator = before at phase lead
  cases lead with
  | answered answer =>
    obtain ⟨known,queried⟩ := phase
    cases queried with
    | asked waiting silent awaiter fresh => cases fresh.symm.trans answer
    | kept waiting awaiter fresh => cases fresh.symm.trans answer
    | answered waiting awaiter given free =>
      cases given.symm.trans answer
      refine ⟨rests_empty awaiter waiting,free rfl,?_⟩
      rw [waiting]
      exact fun entry member => by cases member
  | shut answer =>
    obtain ⟨known,queried⟩ := phase
    cases queried with
    | asked waiting silent awaiter fresh => cases fresh.symm.trans answer
    | kept waiting awaiter fresh => cases fresh.symm.trans answer
    | answered waiting awaiter given free =>
      exact rests_empty awaiter waiting
  | dropped silent lost =>
    obtain ⟨known,queried⟩ := phase
    unfold System.pending at lost
    cases queried with
    | asked waiting silent awaiter fresh => simp [alive,waiting,awaits] at lost
    | kept waiting awaiter fresh => simp [alive,awaiter] at lost
    | answered waiting awaiter given free => cases silent.symm.trans given
  | unconnected => exact phase.1
  | closing here exited => exact phase
  | reconnects answer => exact phase.2.made phase.1 (counted ▸ (List.getElem?_eq_some_iff.mp answer).1)
  | stays answer => exact phase.2.made phase.1 (counted ▸ (List.getElem?_eq_some_iff.mp answer).1)
  | lost gone free =>
    rw [alive] at gone
    cases gone
  | woke => exact phase

omit [MessageStore S] in
/-- An event waits only while no responder is kept. -/
theorem Phase.unkept {initiator : Initiator} {entry : Task × SessionEvent} (phase : Phase w events initiator)
    (next : events.next = some entry) : w.state.awaiter = none := by
  have first := Channel.waiting_next next
  have queried {responder : Responder} (queried : Queried w events responder) : w.state.awaiter = none := by
    cases queried with
    | asked waiting silent awaiter fresh => exact awaiter
    | kept waiting awaiter fresh =>
      rw [waiting] at first
      cases first
    | answered waiting awaiter answer free => exact awaiter
  have decides (decides : Decides w events) : w.state.awaiter = none := by
    cases decides with
    | asked waiting silent awaiter => exact awaiter
    | answered waiting awaiter => exact awaiter
  cases initiator with
  | AwaitingSchedule responder => exact queried phase.2
  | AwaitingDecision query => exact decides phase.2
  | Connecting => exact phase.1.awaiter
  | Registering k => exact phase.1.awaiter
  | _ => exact phase.awaiter

omit [MessageStore S] in
/-- A query about the schedule comes up only while the initiator waits for its answer, and
    nothing waits behind it. -/
theorem Phase.asked {initiator : Initiator} {task : Task} (phase : Phase w events initiator)
    (next : events.next = some (task,.AwaitSchedule responder)) :
    initiator = .AwaitingSchedule responder ∧ events.waiting = [(.Initiator,.AwaitSchedule responder)] := by
  have first := Channel.waiting_next next
  have resting {P : Prop} (rests : Rests w events) : P := by
    cases rests.silent (task,.AwaitSchedule responder) (by rw [first]; exact List.mem_cons_self)
  cases initiator with
  | AwaitingSchedule own =>
    obtain ⟨known,queried⟩ := phase
    cases queried with
    | @asked front waiting silent awaiter fresh =>
      rw [waiting] at first ⊢
      cases front with
      | nil =>
        cases (List.cons.inj first).1
        exact ⟨rfl,rfl⟩
      | cons entry front =>
        obtain ⟨rfl,-⟩ := List.cons.inj first
        cases silent _ List.mem_cons_self
    | kept waiting awaiter fresh =>
      rw [waiting] at first
      cases first
    | answered waiting awaiter answer free =>
      rw [waiting] at first
      cases first
  | AwaitingDecision query =>
    obtain ⟨counted,decides⟩ := phase
    cases decides with
    | @asked front waiting silent awaiter =>
      rw [waiting] at first
      cases front with
      | nil => cases (List.cons.inj first).1
      | cons entry front =>
        obtain ⟨rfl,-⟩ := List.cons.inj first
        cases silent _ List.mem_cons_self
    | answered waiting awaiter =>
      rw [waiting] at first
      cases first
  | Connecting => exact resting phase.1
  | Registering k => exact resting phase.1
  | _ => exact resting phase

theorem Phased.event {task : Task} {event : SessionEvent} (phased : Phased sys) (next : sys.events.next = some (task,event))
    (returns : returned (handle_input env (.Event event) sys.world) = true) :
    Phased ({ sys with events := sys.events.take }.handle env (.Event event)) := by
  refine ⟨phase_event phased.phase next returns,fun other unasked => ?_,?_⟩
  · change sys.events.take.posted.length ≤ other at unasked
    rw [Channel.posted_take] at unasked
    have before := phased.fresh other unasked
    cases @answered_event _ _ _ env event (phased.phase.unkept next) with
    | silent same _ => exact (schedule_answer_same same).trans before
    | @refused responder _ asked _ added _ =>
      subst asked
      have phase := phased.phase
      rw [(phased.phase.asked next).1] at phase
      have apart : other ≠ responder := by
        rintro rfl
        exact absurd unasked (Nat.not_le.mpr phase.1)
      refine (schedule_answer_more added).trans ?_
      rw [before]
      simp [schedule_answer,apart.symm]
    | decided _ added =>
      refine (schedule_answer_more added).trans ?_
      rw [before]
      rfl
  · change _ = (sys.events.take.handled.filter is_query).length
    rw [Channel.handled_take next,List.filter_append,List.length_append,← phased.counted]
    cases @answered_event _ _ _ env event (phased.phase.unkept next) with
    | silent same other =>
      refine (congrArg List.length (reconnect_answers_same same)).trans ?_
      rw [List.filter_singleton,is_query_task task event,other returns]
      rfl
    | refused asked _ added _ =>
      subst asked
      exact (congrArg List.length (reconnect_answers_more added)).trans (by simp [reconnect_answers,reconnect_answer,is_query])
    | decided asked added =>
      subst asked
      exact (congrArg List.length (reconnect_answers_more added)).trans (by
        rw [List.filter_singleton,is_query_task]
        simp [reconnect_answers,reconnect_answer,is_query])

/-- What the session answers when something else wakes it. -/
theorem answered_woken (env : Env) {initiator : Initiator} {input : Input} (phase : Phase w events initiator) (armed : enabled w.state input = true)
    (inner : is_event input = false) : answers (final (handle_input env input w)).journal = answers w.journal ∨
      ∃ responder, initiator = .AwaitingSchedule responder ∧
        answers (final (handle_input env input w)).journal = answers w.journal ++ [.ScheduleAnswer responder .InSchedule] := by
  have other : queries input = false := by
    cases input with
    | Event event => cases inner
    | _ => rfl
  cases kept : w.state.awaiter with
  | none => exact .inl (rests_input env kept other).2
  | some own =>
    have apart {initiator : Initiator} (rests : Rests w events) : initiator = .AwaitingSchedule own := by
      cases rests.awaiter.symm.trans kept
    have asking : initiator = .AwaitingSchedule own := by
      cases initiator with
      | AwaitingSchedule responder =>
        obtain ⟨known,queried⟩ := phase
        cases queried with
        | asked waiting silent awaiter fresh => cases awaiter.symm.trans kept
        | kept waiting awaiter fresh =>
          cases awaiter.symm.trans kept
          rfl
        | answered waiting awaiter answer free => cases awaiter.symm.trans kept
      | AwaitingDecision query =>
        obtain ⟨counted,decides⟩ := phase
        cases decides with
        | asked waiting silent awaiter => cases awaiter.symm.trans kept
        | answered waiting awaiter => cases awaiter.symm.trans kept
      | Connecting => exact apart phase.1
      | Registering k => exact apart phase.1
      | _ => exact apart phase
    rcases kept_input env kept armed inner with ⟨_,same⟩ | ⟨_,added⟩
    · exact .inl same
    · exact .inr ⟨own,asking,added⟩

theorem Phased.woken {input : Input} (phased : Phased sys) (armed : enabled sys.world.state input = true)
    (inner : is_event input = false) : Phased (sys.handle env input) := by
  refine ⟨phase_woken phased.phase armed inner,fun other unasked => ?_,?_⟩
  · have before := phased.fresh other unasked
    rcases answered_woken env phased.phase armed inner with same | ⟨responder,asking,added⟩
    · exact (schedule_answer_same same).trans before
    · have phase := phased.phase
      rw [asking] at phase
      have apart : other ≠ responder := by
        rintro rfl
        exact absurd unasked (Nat.not_le.mpr phase.1)
      refine (schedule_answer_more added).trans ?_
      rw [before]
      simp [schedule_answer,apart.symm]
  · change _ = (sys.events.handled.filter is_query).length
    rw [← phased.counted]
    rcases answered_woken env phased.phase armed inner with same | ⟨responder,asking,added⟩
    · exact congrArg List.length (reconnect_answers_same same)
    · exact (congrArg List.length (reconnect_answers_more added)).trans (by simp [reconnect_answers,reconnect_answer])

omit [MessageStore S] in
/-- The initiator asks, or registers its connection. -/
theorem Phased.pose {initiator : Initiator} {event : SessionEvent} (phased : Phased sys) (pose : Pose sys sys.initiator event initiator) :
    Phase sys.world (sys.events.post [(.Initiator,event)]) initiator := by
  have phase := phased.phase
  generalize sys.initiator = before at phase pose
  cases pose with
  | schedule =>
    refine ⟨by simp,.asked (by simp) phase.silent phase.awaiter (phased.fresh _ (Nat.le_refl _))⟩
  | connected k =>
    refine ⟨phase.1.awaiter,?_⟩
    rw [Channel.waiting_post]
    exact List.forall_mem_append.mpr ⟨phase.1.silent,fun entry member => by cases List.mem_singleton.mp member; rfl⟩
  | reconnect =>
    refine ⟨?_,.asked (by simp) phase.silent phase.awaiter⟩
    rw [Channel.posted_post,List.filter_append,List.length_append]
    rfl

theorem Phased.move (phased : Phased sys) (single : Single sys) (before : sys.running = true) (move : Move arith env sys sys')
    (alive : sys'.running = true) : Phased sys' := by
  cases move with
  | event on next => exact phased.event next alive
  | woken on armed inner => exact phased.woken armed inner
  | ended finished gone => cases alive
  | leads lead => exact ⟨phased.lead before lead,phased.fresh,phased.counted⟩
  | @poses on event initiator pose =>
    refine ⟨?_,fun other unasked => ?_,?_⟩
    · change Phase (posts sys .Initiator [event]).world (posts sys .Initiator [event]).events initiator
      rw [posts_world,posts_alive on]
      exact phased.pose pose
    · change (posts sys .Initiator [event]).events.posted.length ≤ other at unasked
      rw [posts_alive on,Channel.posted_post,List.length_append] at unasked
      change schedule_answer other (posts sys .Initiator [event]).world.journal = none
      rw [posts_world]
      exact phased.fresh other (by omega)
    · change (reconnect_answers (posts sys .Initiator [event]).world.journal).length =
        ((posts sys .Initiator [event]).events.handled.filter is_query).length
      rw [posts_world,posts_alive on,Channel.handled_post]
      exact phased.counted
  | opened connecting =>
    refine ⟨?_,phased.fresh,phased.counted⟩
    have phase := phased.phase
    rw [connecting] at phase
    exact phase
  | @leaves k initiator leave =>
    refine ⟨?_,phased.fresh,phased.counted⟩
    have phase := phased.phase
    change Phase sys.world sys.events initiator
    generalize sys.initiator = holding at phase leave
    cases leave with
    | returned holds inside here gone => exact phase.rested (by rw [holds]; simp)
    | unregistered gone =>
      rw [before] at gone
      cases gone
  | forced closing =>
    refine ⟨?_,phased.fresh,phased.counted⟩
    have phase := phased.phase
    rw [closing] at phase
    exact phase
  | @works k c c' events here work =>
    have world : (put (posts sys (.Reader k) events) k c').world = sys.world := posts_world ..
    have channel : (put (posts sys (.Reader k) events) k c').events = sys.events.post (events.map (.Reader k,·)) := posts_alive before ..
    have initiator : (put (posts sys (.Reader k) events) k c').initiator = sys.initiator := posts_initiator ..
    obtain ⟨silent,apart⟩ := work_posts work
    refine ⟨?_,fun other unasked => ?_,?_⟩
    · rw [world,initiator]
      refine phase_posts phased.phase channel (fun some_event free => ?_) silent apart
      have gone := single.others before k c here (by rw [free]; simp)
      exact some_event (by rw [(work_gone work gone).1]; rfl)
    · rw [channel,Channel.posted_post,List.length_append] at unasked
      rw [world]
      exact phased.fresh other (by omega)
    · rw [world,channel,Channel.handled_post]
      exact phased.counted

theorem phased_reached {store : S} (reached : Reached (step arith env) (.initial store) sys) : sys.running = true → Phased sys := by
  refine reached_invariant (P := fun sys => sys.running = true → Phased sys) reached (fun _ => ⟨⟨rfl,?_⟩,fun _ _ => rfl,rfl⟩)
    (fun _ _ reached phased move alive => ?_)
  · exact fun entry member => by cases member
  have before := move_running move alive
  exact (phased before).move (single_reached reached) before move alive

/-! ### The initiator is never stuck -/

/-- While the session runs, the query about the schedule that the initiator waits for is in
    the channel, behind what the session has yet to take; or the session keeps its
    responder, and the next check in the schedule lets the initiator go on; or it can go on. -/
theorem schedule_comes {store : S} (reached : Reached (step arith env) (.initial store) sys) (alive : sys.running = true)
    (waits : sys.initiator = .AwaitingSchedule responder) :
    (∃ front, sys.events.waiting = front ++ [(.Initiator,.AwaitSchedule responder)]) ∨
    (sys.events.waiting = [] ∧ sys.world.state.awaiter = some responder ∧
      (env.is_active_at (env.utc_now sys.world.clock_readings) = true → ∃ checked connecting,
        step arith env (.Handle .ScheduleCheck) sys = some checked ∧
        step arith env .ScheduleAnswered checked = some connecting ∧ connecting.initiator = .Connecting)) ∨
    sys.events.waiting = [] ∧ ∃ later, step arith env .ScheduleAnswered sys = some later ∧
      (later.initiator = .Connecting ∨ later.initiator = .Finished .Shutdown) := by
  have phase := (phased_reached reached alive).phase
  rw [waits] at phase
  obtain ⟨known,queried⟩ := phase
  have goes_on {sys : System S} (waits : sys.initiator = .AwaitingSchedule responder) {response : ScheduleResponse}
      (answer : schedule_answer responder sys.world.journal = some response) :
      schedule_answered sys = some { sys with initiator := if response = .InSchedule then .Connecting else .Finished .Shutdown } := by
    unfold schedule_answered
    rw [waits]
    dsimp only
    rw [answer]
    cases response <;> rfl
  cases queried with
  | @asked front waiting silent awaiter fresh => exact .inl ⟨front,waiting⟩
  | kept waiting awaiter fresh =>
    refine .inr (.inl ⟨waiting,awaiter,fun active => ?_⟩)
    have checks : step arith env (.Handle .ScheduleCheck) sys = some (sys.handle env .ScheduleCheck) := by
      simp [step,handle_other,alive,enabled,is_event]
    have added := (answered_check ⟨awaiter,rfl⟩ active).2
    have answer : schedule_answer responder (sys.handle env .ScheduleCheck).world.journal = some .InSchedule := by
      refine (schedule_answer_more added).trans ?_
      rw [fresh]
      simp [schedule_answer]
    have still : (sys.handle env .ScheduleCheck).initiator = .AwaitingSchedule responder := waits
    exact ⟨_,_,checks,goes_on still answer,rfl⟩
  | @answered waiting awaiter response answer free =>
    refine .inr (.inr ⟨waiting,_,goes_on waits answer,?_⟩)
    cases response
    · exact .inl rfl
    · exact .inr rfl

def waits_for (responder : Responder) : Initiator → Bool
  | .AwaitingSchedule own => own = responder
  | _ => false

/-- The responder is kept by a session in its schedule. -/
theorem first_comes : ∃ sys : System Sample.Store, Reached (step .wrapping peer) fresh sys ∧ sys.running = true ∧
    sys.initiator = .AwaitingSchedule 0 ∧ ((∃ front, sys.events.waiting = front ++ [(.Initiator,.AwaitSchedule 0)]) ∨
    (sys.events.waiting = [] ∧ sys.world.state.awaiter = some 0 ∧
      (peer.is_active_at (peer.utc_now sys.world.clock_readings) = true → ∃ checked connecting,
        step .wrapping peer (.Handle .ScheduleCheck) sys = some checked ∧
        step .wrapping peer .ScheduleAnswered checked = some connecting ∧ connecting.initiator = .Connecting)) ∨
    sys.events.waiting = [] ∧ ∃ later, step .wrapping peer .ScheduleAnswered sys = some later ∧
      (later.initiator = .Connecting ∨ later.initiator = .Finished .Shutdown)) := by
  obtain ⟨sys,reached,asks⟩ := reached_any (p := fun sys => sys.running && waits_for 0 sys.initiator) [.RequestSchedule,.HandleEvent]
    (show (steps (step .wrapping peer) _ fresh).any _ = true by decide +kernel)
  obtain ⟨alive,waiting⟩ := Bool.and_eq_true_iff.mp asks
  have waits : sys.initiator = .AwaitingSchedule 0 := by
    unfold waits_for at waiting
    split at waiting
    · next at_now => exact at_now.trans (congrArg _ (of_decide_eq_true waiting))
    · cases waiting
  exact ⟨sys,reached,alive,waits,schedule_comes reached alive waits⟩

/-- While the session runs, its decision on the next connection waits for it in the channel,
    or has been made. -/
theorem decision_comes {store : S} (reached : Reached (step arith env) (.initial store) sys) (alive : sys.running = true)
    (waits : sys.initiator = .AwaitingDecision query) :
    (∃ front, sys.events.waiting = front ++ [(.Initiator,.ShouldReconnect)]) ∨
    sys.events.waiting = [] ∧ ∃ later, step arith env .DecisionMade sys = some later ∧
      (later.initiator = .Sleeping ∨ later.initiator = .Finished .StayAway) := by
  obtain ⟨phase,fresh,counted⟩ := phased_reached reached alive
  rw [waits] at phase
  obtain ⟨asked,decides⟩ := phase
  cases decides with
  | @asked front waiting silent awaiter => exact .inl ⟨front,waiting⟩
  | answered waiting awaiter =>
    rw [Channel.handled_all waiting] at counted
    obtain ⟨answer,made⟩ : ∃ answer, (reconnect_answers sys.world.journal)[query]? = some answer :=
      ⟨_,List.getElem?_eq_getElem (by omega)⟩
    refine .inr ⟨waiting,{ sys with initiator := if answer then .Sleeping else .Finished .StayAway },?_,?_⟩
    · change decision_made sys = _
      unfold decision_made
      rw [waits]
      dsimp only
      rw [made]
      cases answer <;> rfl
    · cases answer
      · exact .inr rfl
      · exact .inl rfl

def decides_on (query : Nat) : Initiator → Bool
  | .AwaitingDecision own => own = query
  | _ => false

/-- The session decides about the connection behind its first. -/
theorem next_decided : ∃ sys : System Sample.Store, Reached (step .wrapping peer) fresh sys ∧ sys.running = true ∧
    sys.initiator = .AwaitingDecision 0 ∧ ((∃ front, sys.events.waiting = front ++ [(.Initiator,.ShouldReconnect)]) ∨
    sys.events.waiting = [] ∧ ∃ later, step .wrapping peer .DecisionMade sys = some later ∧
      (later.initiator = .Sleeping ∨ later.initiator = .Finished .StayAway)) := by
  obtain ⟨sys,reached,asks⟩ := reached_any (p := fun sys => sys.running && decides_on 0 sys.initiator) (opened_again.take 12)
    (show (steps (step .wrapping peer) _ fresh).any _ = true by decide +kernel)
  obtain ⟨alive,waiting⟩ := Bool.and_eq_true_iff.mp asks
  have waits : sys.initiator = .AwaitingDecision 0 := by
    unfold decides_on at waiting
    split at waiting
    · next at_now => exact at_now.trans (congrArg _ (of_decide_eq_true waiting))
    · cases waiting
  exact ⟨sys,reached,alive,waits,decision_comes reached alive waits⟩

end HotFix.Waking
