import HotFix.Waking

/-!
The writer that the session has. It is the writer of the last connection, and whenever the
session takes an event of a reader it is the writer of the same connection. Only a reader
that told its end before its connection was registered, or that died, leaves a writer
behind for which the session shuts the initiator down.
-/
namespace HotFix.Writers
open HotFix.Program HotFix.Systems HotFix.Transport HotFix.Interleavings HotFix.Queries HotFix.Streams HotFix.Lifecycle
open HotFix.Waking MessageStore
variable {S : Type} [MessageStore S] {arith : Arith} {env : Env} {sys sys' : System S} {k : Nat} {responder : Responder}

/-! ### The session of the system -/

/-- While it runs, the session is as its inputs leave it one after the other. -/
theorem session_reachable {store : S} (reached : Reached (step arith env) (.initial store) sys) (alive : sys.running = true) :
    Reachable env (fun _ _ => True) (World.initial store) sys.world := by
  have handled {sys sys' : System S} {input : Input} (before : Reachable env (fun _ _ => True) (World.initial store) sys.world)
      (armed : enabled sys.world.state input = true) (returns : returned (handle_input env input sys.world) = true)
      (same : sys'.world = final (handle_input env input sys.world)) :
      Reachable env (fun _ _ => True) (World.initial store) sys'.world := by
    rcases result : handle_input env input sys.world with ⟨_,w'⟩ | ⟨e,w'⟩
    · rw [same,result]
      exact before.step armed trivial result
    · rw [result] at returns
      cases returns
  refine reached_invariant (P := fun sys => sys.running = true → Reachable env (fun _ _ => True) (World.initial store) sys.world)
    reached (fun _ => .start) (fun sys sys' _ before move alive => ?_) alive
  have there := before (move_running move alive)
  cases move with
  | event on next => exact handled there rfl alive rfl
  | woken on armed inner => exact handled there armed alive rfl
  | poses on pose =>
    change Reachable env _ _ (posts sys .Initiator _).world
    rw [posts_world]
    exact there
  | works here work =>
    change Reachable env _ _ (posts sys _ _).world
    rw [posts_world]
    exact there
  | _ => exact there

/-! ### Where the writer comes from -/

/-- Connections are registered by the initiator alone. -/
theorem registered_by {store : S} (reached : Reached (step arith env) (.initial store) sys) :
    ∀ entry ∈ sys.events.posted, ∀ k, registers k entry = true → entry = (.Initiator,.Connected ⟨k⟩) := by
  refine reached_invariant (P := fun sys => ∀ entry ∈ sys.events.posted, ∀ k, registers k entry = true → entry = (.Initiator,.Connected ⟨k⟩))
    reached (fun entry member => ?_) (fun sys sys' _ before move entry member k registered => ?_)
  · cases member
  · cases move with
    | event alive next => exact before entry (Channel.posted_take sys.events ▸ member) k registered
    | @poses alive event initiator pose =>
      rcases mem_posts member with old | new
      · exact before entry old k registered
      · obtain rfl : entry = (.Initiator,event) := by simpa using new
        generalize sys.initiator = posing at pose
        cases pose with
        | connected i =>
          simp only [registers,decide_eq_true_eq] at registered
          rw [← registered]
        | schedule => cases registered
        | reconnect => cases registered
    | works here work =>
      rcases mem_posts member with old | new
      · exact before entry old k registered
      · rw [registers_reader work new] at registered
        cases registered
    | _ => exact before entry member k registered

/-- While the session runs, its writer and those on their way are of the last connection. Its
    writer was registered, and no end of a connection has been taken since. -/
structure Current (sys : System S) : Prop where
  last : ∀ writer, sys.world.state.get_writer = some writer → writer.connection + 1 = sys.connections.length
  waiting : ∀ entry ∈ sys.events.waiting, ∀ k, registers k entry = true → k + 1 = sys.connections.length
  brought : ∀ writer, sys.world.state.get_writer = some writer → ∃ front back,
    sys.events.handled = front ++ (.Initiator,.Connected writer) :: back ∧
      ∀ task reason, (task,SessionEvent.Disconnected reason) ∉ back

theorem Current.event {task : Task} {event : SessionEvent} (current : Current sys) (next : sys.events.next = some (task,event))
    (own : ∀ k, registers k (task,event) = true → (task,event) = (.Initiator,.Connected ⟨k⟩))
    (returns : returned (handle_input env (.Event event) sys.world) = true) :
    Current ({ sys with events := sys.events.take }.handle env (.Event event)) := by
  have first := Channel.waiting_next next
  have length := handle_length env (.Event event) { sys with events := sys.events.take }
  have head : (task,event) ∈ sys.events.waiting := by
    rw [first]
    exact List.mem_cons_self
  have comes (writer : WriterRef) (written : (final (handle_input env (.Event event) sys.world)).state.get_writer = some writer) :
      (sys.world.state.get_writer = some writer ∧ ∀ reason, event ≠ .Disconnected reason) ∨ event = .Connected writer := by
    rcases handle_writer env (.Event event) sys.world with (gone | same) | ⟨brought,same,written'⟩
    · cases gone.symm.trans written
    · refine .inl ⟨same.symm.trans written,fun reason end_of => ?_⟩
      subst end_of
      rcases handled : handle_input env (.Event (.Disconnected reason)) sys.world with ⟨_,w'⟩ | ⟨e,w'⟩
      · rw [handled] at written
        cases (disconnected_writer handled).symm.trans written
      · rw [handled] at returns
        cases returns
    · cases written'.symm.trans written
      cases same
      exact .inr rfl
  refine ⟨fun writer written => ?_,fun entry member k registered => ?_,fun writer written => ?_⟩
  · rw [length]
    rcases comes writer written with ⟨before,-⟩ | rfl
    · exact current.last writer before
    · exact current.waiting _ head writer.connection (decide_eq_true rfl)
  · rw [length]
    refine current.waiting entry ?_ k registered
    rw [first]
    exact List.mem_cons_of_mem _ member
  · change ∃ front back, sys.events.take.handled = _ ∧ _
    rw [Channel.handled_take next]
    rcases comes writer written with ⟨before,still⟩ | rfl
    · obtain ⟨front,back,handled,since⟩ := current.brought writer before
      refine ⟨front,back ++ [(task,event)],by rw [handled]; simp,fun other reason member => ?_⟩
      rcases List.mem_append.mp member with early | late
      · exact since other reason early
      · cases List.mem_singleton.mp late
        exact still reason rfl
    · rw [own writer.connection (decide_eq_true rfl)]
      exact ⟨sys.events.handled,[],rfl,fun other reason member => by cases member⟩

theorem Current.woken {input : Input} (current : Current sys) (inner : is_event input = false) : Current (sys.handle env input) := by
  have length := handle_length env input sys
  have comes (writer : WriterRef) (written : (final (handle_input env input sys.world)).state.get_writer = some writer) :
      sys.world.state.get_writer = some writer := by
    rcases handle_writer env input sys.world with (gone | same) | ⟨brought,event,-⟩
    · cases gone.symm.trans written
    · exact same.symm.trans written
    · rw [event] at inner
      cases inner
  exact ⟨fun writer written => length ▸ current.last writer (comes writer written),
    fun entry member k registered => length ▸ current.waiting entry member k registered,
    fun writer written => current.brought writer (comes writer written)⟩

theorem Current.move (current : Current sys) (single : Single sys) (phased : Phased sys)
    (own : ∀ entry ∈ sys.events.posted, ∀ k, registers k entry = true → entry = (.Initiator,.Connected ⟨k⟩))
    (move : Move arith env sys sys') (before : sys.running = true) (alive : sys'.running = true) : Current sys' := by
  cases move with
  | event on next => exact current.event next (own _ (Channel.next_mem next)) alive
  | woken on armed inner => exact current.woken inner
  | ended finished gone => cases alive
  | leads lead => exact ⟨current.last,current.waiting,current.brought⟩
  | @poses on event initiator pose =>
    refine ⟨by simpa using current.last,fun entry member k registered => ?_,?_⟩
    · change entry ∈ (posts sys .Initiator [event]).events.waiting at member
      rw [posts_alive on,Channel.waiting_post,List.mem_append] at member
      change k + 1 = (posts sys .Initiator [event]).connections.length
      rw [posts_connections]
      rcases member with early | new
      · exact current.waiting entry early k registered
      · obtain rfl : entry = (.Initiator,event) := by simpa using new
        exact single.held k (pose_registers pose registered)
    · intro writer written
      change ∃ front back, (posts sys .Initiator [event]).events.handled = _ ∧ _
      rw [posts_alive on,Channel.handled_post]
      exact current.brought writer (by simpa using written)
  | opened connecting =>
    have phase := phased.phase
    rw [connecting] at phase
    obtain ⟨-,unwritten⟩ := phase
    refine ⟨fun writer written => ?_,fun entry member k registered => ?_,fun writer written => ?_⟩
    · cases unwritten.writer.symm.trans written
    · rw [unwritten.waiting entry member k] at registered
      cases registered
    · cases unwritten.writer.symm.trans written
  | @leaves i initiator leave =>
    have length : (sys.leave i initiator).connections.length = sys.connections.length := by simp [System.leave,System.update]
    exact ⟨length ▸ current.last,length ▸ current.waiting,current.brought⟩
  | @forced i closing =>
    have length : (sys.update i (fun c => { c with kill := .Sent })).connections.length = sys.connections.length := by
      simp [System.update]
    exact ⟨length ▸ current.last,length ▸ current.waiting,current.brought⟩
  | @works i c c' events here work =>
    have world : (put (posts sys (.Reader i) events) i c').world = sys.world := posts_world ..
    have channel : (put (posts sys (.Reader i) events) i c').events = sys.events.post (events.map (.Reader i,·)) := posts_alive before ..
    have length : (put (posts sys (.Reader i) events) i c').connections.length = sys.connections.length := by simp [put]
    refine ⟨?_,fun entry member k registered => ?_,?_⟩
    · rw [world,length]
      exact current.last
    · rw [length]
      rw [channel,Channel.waiting_post,List.mem_append] at member
      rcases member with early | new
      · exact current.waiting entry early k registered
      · rw [registers_reader work new] at registered
        cases registered
    · rw [world,channel,Channel.handled_post]
      exact current.brought

theorem current_reached {store : S} (reached : Reached (step arith env) (.initial store) sys) : sys.running = true → Current sys := by
  refine reached_invariant (P := fun sys => sys.running = true → Current sys) reached (fun _ => ⟨?_,?_,?_⟩)
    (fun _ _ reached current move alive => ?_)
  · intro writer written
    cases written
  · intro entry member
    cases member
  · intro writer written
    cases written
  · have before := move_running move alive
    exact (current before).move (single_reached reached) (phased_reached reached before) (registered_by reached) move before alive

/-! ### Its own connection -/

/-- When the session takes an event of a reader, it has the writer of that connection or
    none, and the frames that it sends meanwhile go over that connection. -/
theorem own_connection {store : S} (reached : Reached (step arith env) (.initial store) sys) (alive : sys.running = true)
    {event : SessionEvent} (next : sys.events.next = some (.Reader k,event)) :
    (sys.world.state.get_writer = none ∨ sys.world.state.get_writer = some ⟨k⟩) ∧
    ∀ other ≠ k, frames_to other (noted_while env (.Event event) sys) = [] := by
  have current := current_reached reached alive
  have ordered := ordered_reached reached
  have writer : sys.world.state.get_writer = none ∨ sys.world.state.get_writer = some ⟨k⟩ := by
    cases written : sys.world.state.get_writer with
    | none => exact .inl rfl
    | some writer =>
      obtain ⟨front,back,handled,-⟩ := current.brought writer written
      have log := sys.events.handled_waiting
      rw [handled,List.append_assoc,List.cons_append,Channel.waiting_next next] at log
      have last := current.last writer written
      have inside := ordered.inside _ (Channel.next_mem next) k rfl
      have same : writer.connection = k := by
        by_contra other
        have apart := (ordered.log front (.Initiator,.Connected writer) _ writer.connection log.symm rfl k (by omega)).2
        exact apart (.Reader k,event) (by simp) rfl
      exact .inr (congrArg (fun k => some (WriterRef.mk k)) same)
  refine ⟨writer,fun other apart => noted_frames (fun written => ?_) (fun same => ?_)⟩
  · rcases writer with none_there | there
    · cases none_there.symm.trans written
    · cases there.symm.trans written
      exact apart rfl
  · cases same
    cases registered_by reached _ (Channel.next_mem next) other (decide_eq_true rfl)

def taken_from (k : Nat) (entry : Task × SessionEvent) : Bool := entry.1 = .Reader k

/-- The heartbeat of the peer is answered over the connection it came over. -/
theorem first_answered : ∃ (sys : System Sample.Store) (event : SessionEvent), Reached (step .wrapping peer) fresh sys ∧
    sys.running = true ∧ sys.events.next = some (.Reader 0,event) ∧
    (sys.world.state.get_writer = none ∨ sys.world.state.get_writer = some ⟨0⟩) ∧
    ∀ other ≠ 0, frames_to other (noted_while peer (.Event event) sys) = [] := by
  obtain ⟨sys,reached,takes⟩ := reached_any (p := fun sys => sys.running && sys.events.next.any (taken_from 0)) (answered_badly.take 10)
    (show (steps (step .wrapping peer) _ fresh).any _ = true by decide +kernel)
  obtain ⟨alive,waits⟩ := Bool.and_eq_true_iff.mp takes
  obtain ⟨⟨task,event⟩,first,by_first⟩ := (Option.any_eq_true _ _).mp waits
  have next : sys.events.next = some (.Reader 0,event) := by
    rw [first,show task = .Reader 0 from of_decide_eq_true by_first]
  exact ⟨sys,event,reached,alive,next,own_connection reached alive next⟩

/-! ### Told to shut down -/

/-- A reader died, or told its end before its connection was registered. -/
def Raced (sys : System S) : Prop := ∃ k, (∃ c, sys.connections[k]? = some c ∧ c.reader = .Panicked) ∨
  ∃ front back reason, sys.events.posted = front ++ (.Initiator,.Connected ⟨k⟩) :: back ∧ (.Reader k,.Disconnected reason) ∈ front

theorem Raced.move (raced : Raced sys) (single : Single sys) (move : Move arith env sys sys') : Raced sys' := by
  obtain ⟨k,⟨c,here,panicked⟩ | ⟨front,back,reason,log,told⟩⟩ := raced
  · obtain ⟨c',there,same⟩ := move_stays move here (by rw [panicked]; rfl)
    exact ⟨k,.inl ⟨c',there,same.trans panicked⟩⟩
  · rcases move_posts single move with same | ⟨entry,more,-⟩
    · exact ⟨k,.inr ⟨front,back,reason,same.trans log,told⟩⟩
    · exact ⟨k,.inr ⟨front,back ++ [entry],reason,by rw [more,log]; simp,told⟩⟩

omit [MessageStore S] in
/-- A writer in a session that the initiator asks about the schedule was left behind. -/
theorem left_behind (current : Current sys) (single : Single sys) (attentive : Attentive arith sys) (alive : sys.running = true)
    (asking : sys.initiator = .AwaitingSchedule responder)
    (only : sys.events.waiting = [(.Initiator,.AwaitSchedule responder)]) {writer : WriterRef}
    (written : sys.world.state.get_writer = some writer) : Raced sys := by
  obtain ⟨front,back,handled,since⟩ := current.brought writer written
  have last := current.last writer written
  have here := List.getElem?_eq_getElem (show writer.connection < sys.connections.length by omega)
  have gone := single.others alive _ _ here (by rw [asking]; simp [Initiator.holds])
  refine ⟨writer.connection,?_⟩
  rcases gone_over attentive alive here gone with ⟨reason,told⟩ | died
  · have log := sys.events.handled_waiting
    rw [handled,only,List.append_assoc,List.cons_append] at log
    refine .inr ⟨front,_,reason,log.symm,?_⟩
    rw [← log] at told
    simp only [List.mem_append,List.mem_cons,List.not_mem_nil,or_false] at told
    rcases told with early | own | late | query
    · exact early
    · cases own
    · exact absurd late (since _ reason)
    · cases query
  · exact .inl died

theorem shuts_move (before : (∃ responder, schedule_answer responder sys.world.journal = some .Shutdown) → Raced sys) (single : Single sys)
    (attentive : Attentive arith sys) (current : sys.running = true → Current sys) (phased : sys.running = true → Phased sys)
    (move : Move arith env sys sys') (shuts : ∃ responder, schedule_answer responder sys'.world.journal = some .Shutdown) : Raced sys' := by
  obtain ⟨responder,shut⟩ := shuts
  have moved := move
  have old (same : answers sys'.world.journal = answers sys.world.journal) : Raced sys' :=
    (before ⟨responder,(schedule_answer_same same).symm.trans shut⟩).move single moved
  have other {answer : Effect} (added : answers sys'.world.journal = answers sys.world.journal ++ [answer])
      (no_shut : schedule_answer responder [answer] ≠ some .Shutdown) : Raced sys' := by
    refine (before ⟨responder,?_⟩).move single moved
    rw [schedule_answer_more added] at shut
    rcases Option.or_eq_some_iff.mp shut with there | ⟨-,new⟩
    · exact there
    · exact absurd new no_shut
  cases move with
  | @event alive task event next =>
    have phase := (phased alive).phase
    cases @answered_event _ _ _ env event (phase.unkept next) with
    | silent same _ => exact old same
    | @refused asked writer event_is returns added written =>
      subst event_is
      obtain ⟨asking,only⟩ := phase.asked next
      have kept : sys.world.state.get_writer = some writer := by
        rcases handle_writer env (.Event (.AwaitSchedule asked)) sys.world with (gone | same) | ⟨_,brought,-⟩
        · cases gone.symm.trans written
        · exact same.symm.trans written
        · cases brought
      exact (left_behind (current alive) single attentive alive asking only kept).move single moved
    | decided _ added => exact other added (by simp [schedule_answer])
  | @woken alive input armed inner =>
    rcases answered_woken env (phased alive).phase armed inner with same | ⟨own,-,added⟩
    · exact old same
    · refine other added ?_
      simp only [schedule_answer,List.findSome?_cons,List.findSome?_nil]
      split_ifs <;> simp
  | poses alive pose => exact old (by simp)
  | works here work => exact old (by simp [put])
  | _ => exact old rfl

/-- What is in the journal stays there. -/
theorem move_journal (move : Move arith env sys sys') : sys.world.journal <+: sys'.world.journal := by
  cases move with
  | event alive next => exact handle_grows env _ sys.world
  | woken alive armed inner => exact handle_grows env _ sys.world
  | poses alive pose => simp
  | works here work => simp [put]
  | _ => exact List.prefix_rfl

/-- The initiator is done when it has been told to shut down. -/
theorem shut_told {store : S} (reached : Reached (step arith env) (.initial store) sys) (finished : sys.initiator = .Finished .Shutdown) :
    ∃ responder, schedule_answer responder sys.world.journal = some .Shutdown := by
  refine reached_invariant (P := fun sys => sys.initiator = .Finished .Shutdown → ∃ responder,
    schedule_answer responder sys.world.journal = some .Shutdown) reached (fun same => by cases same) (fun sys sys' _ before move done => ?_)
    finished
  have stays (done : sys.initiator = .Finished .Shutdown) : ∃ responder, schedule_answer responder sys'.world.journal = some .Shutdown := by
    obtain ⟨responder,shut⟩ := before done
    obtain ⟨entries,grows⟩ := move_journal move
    exact ⟨responder,by rw [← grows,schedule_answer_append,shut]; rfl⟩
  cases move with
  | event alive next => exact stays done
  | woken alive armed inner => exact stays done
  | ended finished gone => exact stays done
  | @leads initiator lead =>
    obtain rfl : initiator = .Finished .Shutdown := done
    generalize sys.initiator = from_here at lead
    cases lead with
    | shut answer => exact ⟨_,answer⟩
  | @poses alive event initiator pose =>
    obtain rfl : initiator = .Finished .Shutdown := done
    generalize sys.initiator = from_here at pose
    cases pose
  | opened connecting => cases done
  | @leaves k initiator leave =>
    obtain rfl : initiator = .Finished .Shutdown := done
    generalize sys.initiator = from_here at leave
    cases leave
  | forced closing => cases done
  | works here work => exact stays (by simpa [put] using done)

/-- The initiator ends because it is told to shut down only if some reader died, or told
    its end before its connection was registered. -/
theorem shut_by_race {store : S} (reached : Reached (step arith env) (.initial store) sys)
    (finished : sys.initiator = .Finished .Shutdown) : ∃ k, (∃ c, sys.connections[k]? = some c ∧ c.reader = .Panicked) ∨
      ∃ front back reason, sys.events.posted = front ++ (.Initiator,.Connected ⟨k⟩) :: back ∧
        (.Reader k,.Disconnected reason) ∈ front := by
  refine reached_invariant (P := fun sys => (∃ responder, schedule_answer responder sys.world.journal = some .Shutdown) → Raced sys)
    reached (fun ⟨responder,answer⟩ => by cases answer) (fun _ _ before raced move => ?_) (shut_told reached finished)
  exact shuts_move raced (single_reached before) (attentive_reached before) (current_reached before) (phased_reached before) move

/-- The peer closes the connection before it is registered. -/
def closed_early : List Action := entered.take 5 ++ [.Leave 0 .Eof,.Signal 0,.Register,.HandleEvent,.HandleEvent,.ReaderExited,
  .RequestDecision,.HandleEvent,.DecisionMade,.Wake,.RequestSchedule,.HandleEvent,.ScheduleAnswered]

def shuts : Initiator → Bool
  | .Finished .Shutdown => true
  | _ => false

/-- The initiator does not connect again, though nobody asked it to stop. -/
theorem stopped_by_race : ∃ sys : System Sample.Store, Reached (step .wrapping peer) fresh sys ∧ sys.initiator = .Finished .Shutdown ∧
    ∃ k, (∃ c, sys.connections[k]? = some c ∧ c.reader = .Panicked) ∨
      ∃ front back reason, sys.events.posted = front ++ (.Initiator,.Connected ⟨k⟩) :: back ∧ (.Reader k,.Disconnected reason) ∈ front := by
  obtain ⟨sys,reached,shut⟩ := reached_any (p := fun sys => shuts sys.initiator) closed_early
    (show (steps (step .wrapping peer) _ fresh).any _ = true by decide +kernel)
  have finished : sys.initiator = .Finished .Shutdown := by
    unfold shuts at shut
    split at shut
    · assumption
    · cases shut
  exact ⟨sys,reached,finished,shut_by_race reached finished⟩

end HotFix.Writers
