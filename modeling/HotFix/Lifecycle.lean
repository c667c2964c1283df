import HotFix.Streams

/-!
One connection after the other. While the session runs, no connection is opened before
the reader of the one before it is gone, so the events of one connection all stand in
front of those of the next, and the session never takes an event of one connection while
it has the writer of another. A query of the initiator is never lost.
-/
namespace HotFix.Lifecycle
open HotFix.Program HotFix.Systems HotFix.Transport HotFix.Interleavings HotFix.Queries HotFix.Streams MessageStore
variable {S : Type} {arith : Arith} {env : Env} {sys sys' : System S} {k j : Nat} {c c' : FixConnection}

/-! ### One connection at a time -/

theorem work_gone {events : List SessionEvent} (work : Work arith sys k c events c') (gone : c.reader.gone = true) :
    events = [] ∧ c'.reader = c.reader := by
  cases work with
  | read reading chunk =>
    rw [reading] at gone
    cases gone
  | delivered reading =>
    rw [reading] at gone
    cases gone
  | left reading given =>
    rw [reading] at gone
    cases gone
  | signalled leaving =>
    rw [leaving] at gone
    cases gone
  | @took running message next =>
    cases message with
    | SendMessage raw => exact ⟨rfl,rfl⟩
    | Disconnect => exact ⟨rfl,rfl⟩
  | wrote writing some_bytes => exact ⟨rfl,rfl⟩
  | failed writing => exact ⟨rfl,rfl⟩
  | orphaned running empty alone => exact ⟨rfl,rfl⟩
  | closed closing => exact ⟨rfl,rfl⟩

variable [MessageStore S]

/-- A connection was there before the step, with the reader it has if that was gone; or it is new. -/
theorem move_reader (move : Move arith env sys sys') (here : sys'.connections[k]? = some c') :
    (∃ c, sys.connections[k]? = some c ∧ (c.reader.gone = true → c'.reader = c.reader)) ∨ k = sys.connections.length := by
  cases move_at move here with
  | kept there kill entries journal reader => exact .inl ⟨_,there,fun _ => rfl⟩
  | opened last journal reader => exact .inr last
  | worked there work journal reader => exact .inl ⟨_,there,fun gone => (work_gone work gone).2⟩

/-- A connection that is there stays there. -/
theorem move_stays (move : Move arith env sys sys') (here : sys.connections[k]? = some c) (gone : c.reader.gone = true) :
    ∃ c', sys'.connections[k]? = some c' ∧ c'.reader = c.reader := by
  have inside : k < sys.connections.length := (List.getElem?_eq_some_iff.mp here).1
  have still : k < sys'.connections.length := by
    by_contra outside
    have := (move_beyond move (Nat.le_of_not_lt outside)).1
    omega
  refine ⟨_,List.getElem?_eq_getElem still,?_⟩
  rcases move_reader move (List.getElem?_eq_getElem still) with ⟨before,there,same⟩ | last
  · cases here.symm.trans there
    exact same gone
  · omega

theorem handle_length (env : Env) (input : Input) (sys : System S) :
    (sys.handle env input).connections.length = sys.connections.length := List.length_mapIdx ..

/-- A connection is opened to be held, and none is taken up again. -/
theorem move_length (move : Move arith env sys sys') :
    (sys'.connections.length = sys.connections.length ∧ ∀ k, sys'.initiator.holds = some k → sys.initiator.holds = some k) ∨
    sys'.connections.length = sys.connections.length + 1 ∧ sys'.initiator.holds = some sys.connections.length := by
  cases move with
  | event alive next => exact .inl ⟨handle_length ..,fun k holds => holds⟩
  | woken alive armed inner => exact .inl ⟨handle_length ..,fun k holds => holds⟩
  | ended finished gone => exact .inl ⟨rfl,fun k holds => holds⟩
  | leads leads => exact .inl ⟨rfl,fun k holds => lead_holds leads holds⟩
  | poses alive poses => exact .inl ⟨by simp,fun k holds => pose_holds poses holds⟩
  | opened connecting => exact .inr ⟨by simp,rfl⟩
  | leaves leaves =>
    refine .inl ⟨by simp [System.leave,System.update],fun k holds => ?_⟩
    rw [show (sys.leave _ _).initiator.holds = none from leave_holds leaves] at holds
    cases holds
  | forced closing =>
    refine .inl ⟨by simp [System.update],fun k holds => ?_⟩
    rw [closing]
    exact holds
  | works here work => exact .inl ⟨by simp [put],fun k holds => by simpa [put] using holds⟩

/-- The initiator holds the last connection. While the session runs, the readers of all
    others are gone. -/
structure Single (sys : System S) : Prop where
  held : ∀ k, sys.initiator.holds = some k → k + 1 = sys.connections.length
  others : sys.running = true → ∀ (k : Nat) c, sys.connections[k]? = some c → sys.initiator.holds ≠ some k → c.reader.gone = true

theorem Single.held_move (single : Single sys) (move : Move arith env sys sys') (holds : sys'.initiator.holds = some k) :
    k + 1 = sys'.connections.length := by
  rcases move_length move with ⟨same,before⟩ | ⟨longer,last⟩
  · rw [same]
    exact single.held k (before k holds)
  · cases last.symm.trans holds
    exact longer.symm

omit [MessageStore S] in
/-- A connection is let go only behind its reader, while the session runs. -/
theorem leave_gone {initiator : Initiator} (leave : Leave sys j sys.initiator initiator) (alive : sys.running = true)
    (holds : sys.initiator.holds = some k) (here : sys.connections[k]? = some c) : c.reader.gone = true := by
  generalize sys.initiator = before at leave holds
  cases leave with
  | returned held inside there gone =>
    cases held.symm.trans holds
    cases here.symm.trans there
    exact gone
  | unregistered lost =>
    rw [alive] at lost
    cases lost

theorem Single.over_move (single : Single sys) (move : Move arith env sys sys') (alive : sys'.running = true)
    (here : sys'.connections[k]? = some c') (free : sys'.initiator.holds ≠ some k) : c'.reader.gone = true := by
  have before := move_running move alive
  rcases move_reader move here with ⟨c,there,same⟩ | last
  · have gone : c.reader.gone = true := by
      by_cases holds : sys.initiator.holds = some k
      · cases move with
        | event on next => exact absurd holds free
        | woken on armed inner => exact absurd holds free
        | ended finished gone => exact absurd holds free
        | leads leads =>
          generalize sys.initiator = initiator at leads holds
          cases leads with
          | closing at_k exited => exact absurd holds free
          | lost gone unheld =>
            rw [unheld] at holds
            cases holds
          | _ => cases holds
        | poses on poses =>
          generalize sys.initiator = initiator at poses holds
          cases poses with
          | connected i => exact absurd holds free
          | _ => cases holds
        | opened connecting =>
          rw [connecting] at holds
          cases holds
        | leaves leaves => exact leave_gone leaves before holds there
        | forced closing =>
          rw [closing] at holds
          exact absurd holds free
        | works at_i work => exact absurd holds (by simpa [put] using free)
      · exact single.others before k c there holds
    rw [same gone]
    exact gone
  · have inside := (List.getElem?_eq_some_iff.mp here).1
    rcases move_length move with ⟨same,-⟩ | ⟨-,held⟩
    · omega
    · exact absurd (last ▸ held) free

theorem single_reached {store : S} (reached : Reached (step arith env) (.initial store) sys) : Single sys := by
  refine reached_invariant reached ⟨fun k holds => ?_,fun _ k c here => ?_⟩ (fun _ _ _ single move =>
    ⟨fun k holds => single.held_move move holds,fun alive k c here free => single.over_move move alive here free⟩)
  · cases holds
  · rw [System.initial,List.getElem?_nil] at here
    cases here

/-! ### The order of the events -/

/-- The connection that an event is about. -/
def concerns : Task × SessionEvent → Option Nat
  | (.Reader k,_) => some k
  | (.Initiator,.Connected writer) => some writer.connection
  | (.Initiator,_) => none

/-- The reader of the connection has told its end, or died. -/
def Over (sys : System S) (log : List (Task × SessionEvent)) (k : Nat) : Prop :=
  (∃ reason, (Task.Reader k,SessionEvent.Disconnected reason) ∈ log) ∨ ∃ c, sys.connections[k]? = some c ∧ c.reader = .Panicked

theorem Over.move {log : List (Task × SessionEvent)} (ended : Over sys log k) (move : Move arith env sys sys') : Over sys' log k := by
  rcases ended with told | ⟨c,here,panicked⟩
  · exact .inl told
  · obtain ⟨c',there,same⟩ := move_stays move here (by rw [panicked]; rfl)
    exact .inr ⟨c',there,same.trans panicked⟩

omit [MessageStore S] in
theorem mem_by_reader {posted : List (Task × SessionEvent)} {event : SessionEvent} (member : event ∈ by_reader k posted) :
    (Task.Reader k,event) ∈ posted := by
  obtain ⟨⟨task,own⟩,inside,same⟩ := List.mem_filterMap.mp member
  unfold from_reader at same
  split_ifs at same with by_k
  obtain rfl := by_k
  cases same
  exact inside

omit [MessageStore S] in
/-- A reader that is gone has told its end, or died. -/
theorem gone_over (attentive : Attentive arith sys) (alive : sys.running = true) (here : sys.connections[k]? = some c)
    (gone : c.reader.gone = true) : Over sys sys.events.posted k := by
  obtain ⟨frames,told,cuts,tells,inside,all⟩ := attentive.hears k c here
  cases reader : c.reader with
  | Panicked => exact .inr ⟨c,here,reader⟩
  | Exited =>
    rw [reader] at tells
    cases tells with
    | exited reason => exact .inl ⟨reason,mem_by_reader (by rw [all alive]; simp)⟩
  | _ =>
    rw [reader] at gone
    cases gone

/-- One step posts one event at most, which concerns the connection that the initiator holds. -/
theorem move_posts (single : Single sys) (move : Move arith env sys sys') : sys'.events.posted = sys.events.posted ∨
    ∃ entry, sys'.events.posted = sys.events.posted ++ [entry] ∧ sys.running = true ∧
      ∀ k, concerns entry = some k → sys.initiator.holds = some k := by
  cases move with
  | event alive next => exact .inl (Channel.posted_take _)
  | woken alive armed inner => exact .inl rfl
  | ended finished gone => exact .inl rfl
  | leads leads => exact .inl rfl
  | @poses alive event initiator pose =>
    refine .inr ⟨(.Initiator,event),by simp [posts_alive alive],alive,fun k concerned => ?_⟩
    generalize sys.initiator = before at pose
    cases pose with
    | connected i => exact concerned
    | schedule => cases concerned
    | reconnect => cases concerned
  | opened connecting => exact .inl rfl
  | leaves leaves => exact .inl rfl
  | forced closing => exact .inl rfl
  | @works i before after events here work =>
    cases alive : sys.running with
    | false => exact .inl (by simp [put,posts_gone alive])
    | true =>
      have held (some_event : events ≠ []) : sys.initiator.holds = some i := by
        by_contra free
        exact some_event (work_gone work (single.others alive i before here free)).1
      have one {event : SessionEvent} (same : events = [event]) : ∃ entry,
          (put (posts sys (.Reader i) events) i after).events.posted = sys.events.posted ++ [entry] ∧ sys.running = true ∧
            ∀ k, concerns entry = some k → sys.initiator.holds = some k := by
        refine ⟨(.Reader i,event),?_,alive,fun k concerned => ?_⟩
        · rw [same]
          simp [put,posts_alive alive]
        · cases concerned
          exact held (by simp [same])
      cases work with
      | delivered reading => exact .inr (alive ▸ one rfl)
      | left reading given => exact .inr (alive ▸ one rfl)
      | _ => exact .inl (by simp [put,posts_nil])

/-- The events of one connection stand in front of those of the next. -/
structure Ordered (sys : System S) : Prop where
  inside : ∀ entry ∈ sys.events.posted, ∀ k, concerns entry = some k → k < sys.connections.length
  log : ∀ front entry back j, sys.events.posted = front ++ entry :: back → concerns entry = some j →
    ∀ k < j, Over sys front k ∧ ∀ later ∈ back, concerns later ≠ some k

theorem Ordered.move (ordered : Ordered sys) (single : Single sys) (attentive : Attentive arith sys) (move : Move arith env sys sys') :
    Ordered sys' := by
  have longer : sys.connections.length ≤ sys'.connections.length := by
    rcases move_length move with ⟨same,-⟩ | ⟨more,-⟩ <;> omega
  have old {front back : List (Task × SessionEvent)} {entry : Task × SessionEvent} {j : Nat}
      (log : sys.events.posted = front ++ entry :: back) (concerned : concerns entry = some j) (k : Nat) (before : k < j) :
      Over sys' front k ∧ ∀ later ∈ back, concerns later ≠ some k := by
    obtain ⟨ended,apart⟩ := ordered.log front entry back j log concerned k before
    exact ⟨ended.move move,apart⟩
  rcases move_posts single move with same | ⟨new,posted,alive,about⟩
  · refine ⟨fun entry member k concerned => ?_,fun front entry back j log concerned k before => ?_⟩
    · exact (ordered.inside entry (same ▸ member) k concerned).trans_le longer
    · exact old (same ▸ log) concerned k before
  · refine ⟨fun entry member k concerned => ?_,fun front entry back j log concerned k before => ?_⟩
    · rw [posted] at member
      rcases List.mem_append.mp member with early | last
      · exact (ordered.inside entry early k concerned).trans_le longer
      · obtain rfl : entry = new := List.mem_singleton.mp last
        have := single.held k (about k concerned)
        omega
    · rw [posted] at log
      rcases List.eq_nil_or_concat' back with rfl | ⟨rest,last,rfl⟩
      · -- the new event: whatever came before its connection is over
        obtain ⟨rfl,only⟩ := List.append_inj' log rfl
        cases only
        have held := about j concerned
        have there : k < sys.connections.length := by
          have := single.held j held
          omega
        have free : sys.initiator.holds ≠ some k := by
          rw [held]
          intro same
          cases same
          omega
        have here := List.getElem?_eq_getElem there
        have gone := single.others alive k _ here free
        exact ⟨(gone_over attentive alive here gone).move move,fun later member => (by cases member)⟩
      · rw [← List.cons_append,← List.append_assoc] at log
        obtain ⟨early,only⟩ := List.append_inj' log rfl
        cases only
        obtain ⟨ended,apart⟩ := old early concerned k before
        refine ⟨ended,fun later member => ?_⟩
        rcases List.mem_append.mp member with behind | end_of
        · exact apart later behind
        · obtain rfl : later = new := List.mem_singleton.mp end_of
          intro of_k
          have last_one := single.held k (about k of_k)
          have := ordered.inside entry (by rw [early]; simp) j concerned
          omega

theorem ordered_reached {store : S} (reached : Reached (step arith env) (.initial store) sys) : Ordered sys := by
  refine reached_invariant reached ⟨fun entry member => ?_,fun front entry back j log => ?_⟩
    (fun _ _ before ordered move => ordered.move (single_reached before) (attentive_reached before) move)
  · cases member
  · cases front <;> cases log

/-- Where the log has an event of a connection, the reader of every earlier one has told its
    end in front of it, or died, and no event of that one follows. -/
theorem log_in_order {store : S} (reached : Reached (step arith env) (.initial store) sys) {front back : List (Task × SessionEvent)}
    {entry : Task × SessionEvent} (log : sys.events.posted = front ++ entry :: back) (concerned : concerns entry = some j) (before : k < j) :
    ((∃ reason, (Task.Reader k,SessionEvent.Disconnected reason) ∈ front) ∨
      ∃ c, sys.connections[k]? = some c ∧ c.reader = .Panicked) ∧ ∀ later ∈ back, concerns later ≠ some k :=
  (ordered_reached reached).log front entry back j log concerned k before

/-- The first connection ends, and the next is opened and registered. -/
def opened_again : List Action := entered ++ [.Leave 0 .Eof,.Signal 0,.ReaderExited,.HandleEvent,.RequestDecision,.HandleEvent,
  .DecisionMade,.Wake,.RequestSchedule,.HandleEvent,.Handle .ScheduleCheck,.ScheduleAnswered,.Connect true,.Register]

theorem second_behind_first : ∃ sys front entry back, Reached (step .wrapping peer) fresh sys ∧
    sys.events.posted = front ++ entry :: back ∧ concerns entry = some 1 ∧
    ((∃ reason, (Task.Reader 0,SessionEvent.Disconnected reason) ∈ front) ∨
      ∃ c, sys.connections[0]? = some c ∧ c.reader = .Panicked) ∧ ∀ later ∈ back, concerns later ≠ some 0 := by
  obtain ⟨sys,reached,second⟩ := reached_any (p := fun sys => sys.events.posted[5]?.any (fun entry => concerns entry = some 1))
    opened_again (show (steps (step .wrapping peer) _ fresh).any _ = true by decide +kernel)
  obtain ⟨entry,here,of_second⟩ := (Option.any_eq_true _ _).mp second
  obtain ⟨there,same⟩ := List.getElem?_eq_some_iff.mp here
  have log : sys.events.posted = sys.events.posted.take 5 ++ entry :: sys.events.posted.drop 6 := by
    rw [← same,← List.drop_eq_getElem_cons there,List.take_append_drop]
  exact ⟨sys,_,entry,_,reached,log,of_decide_eq_true of_second,log_in_order reached log (of_decide_eq_true of_second) Nat.zero_lt_one⟩

end HotFix.Lifecycle
