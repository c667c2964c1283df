import HotFix.Interleavings

/-!
The bytes of a connection, in every interleaving of the tasks. The session is sent the
frames that are cut of the bytes read, each once and in order, and one disconnect behind
them; what was read never depends on the chunks it came in. The bytes written are the
frames that the session handed to the writer, in order and whole but for the one that is
being written, up to the first disconnect it put into the mailbox.
-/
namespace HotFix.Streams
open HotFix.Program HotFix.Systems HotFix.Transport HotFix.Interleavings HotFix.Queries HotFix.Cutting MessageStore
open HotFix.FrameParser (message_ahead message_ahead_stable message_ahead_nil parse_cuts)
variable {S : Type} {arith : Arith} {env : Env} {sys sys' : System S} {k : Nat} {c c' : FixConnection}

/-! ### One connection over one step -/

def from_reader (k : Nat) (entry : Task × SessionEvent) : Option SessionEvent :=
  if entry.1 = .Reader k then some entry.2 else none

/-- The events that the reader of the connection sent. -/
def by_reader (k : Nat) (posted : List (Task × SessionEvent)) : List SessionEvent := posted.filterMap (from_reader k)

theorem by_reader_append (posted more : List (Task × SessionEvent)) :
    by_reader k (posted ++ more) = by_reader k posted ++ by_reader k more := List.filterMap_append ..

theorem by_reader_own (events : List SessionEvent) : by_reader k (events.map (Task.Reader k,·)) = events := by
  induction events with
  | nil => rfl
  | cons event rest ih =>
    rw [List.map_cons,by_reader,List.filterMap_cons_some (b := event) (by simp [from_reader])]
    exact congrArg _ ih

theorem by_reader_other {task : Task} (other : task ≠ .Reader k) (events : List SessionEvent) :
    by_reader k (events.map (task,·)) = [] := by
  refine List.filterMap_eq_nil_iff.mpr (fun entry member => ?_)
  obtain ⟨event,-,rfl⟩ := List.mem_map.mp member
  simp [from_reader,other]

theorem by_reader_posts {task : Task} (other : task ≠ .Reader k) (events : List SessionEvent) :
    by_reader k (posts sys task events).events.posted = by_reader k sys.events.posted := by
  cases alive : sys.running with
  | false => rw [posts_gone alive]
  | true =>
    rw [posts_alive alive]
    exact (by_reader_append ..).trans (by rw [by_reader_other other,List.append_nil])

theorem by_reader_posts_own (events : List SessionEvent) : by_reader k (posts sys (.Reader k) events).events.posted =
    by_reader k sys.events.posted ++ if sys.running then events else [] := by
  cases alive : sys.running with
  | false => rw [posts_gone alive]; simp
  | true =>
    rw [posts_alive alive]
    exact (by_reader_append ..).trans (by rw [by_reader_own]; simp)

/-- What a step does to one connection: something else happened, and the session may have
    put something into its mailbox; or it was opened; or its reader or writer worked. -/
inductive At (arith : Arith) (sys sys' : System S) (k : Nat) : FixConnection → Prop where
  | kept {c : FixConnection} (here : sys.connections[k]? = some c) (kill : KillSender) (entries : List Effect)
    (journal : sys'.world.journal = sys.world.journal ++ entries)
    (reader : by_reader k sys'.events.posted = by_reader k sys.events.posted) :
    At arith sys sys' k { c with kill := kill, mailbox := c.mailbox.post (mail k entries) }
  | opened (last : k = sys.connections.length) (journal : sys'.world.journal = sys.world.journal)
    (reader : by_reader k sys'.events.posted = by_reader k sys.events.posted) : At arith sys sys' k .new
  | worked {c c' : FixConnection} {events : List SessionEvent} (here : sys.connections[k]? = some c)
    (work : Work arith sys k c events c') (journal : sys'.world.journal = sys.world.journal)
    (reader : by_reader k sys'.events.posted = by_reader k sys.events.posted ++ if sys.running then events else []) :
    At arith sys sys' k c'

theorem at_quiet (here : sys.connections[k]? = some c) (kill : KillSender) (journal : sys'.world.journal = sys.world.journal)
    (reader : by_reader k sys'.events.posted = by_reader k sys.events.posted) : At arith sys sys' k { c with kill := kill } := by
  have stays : At arith sys sys' k { c with kill := kill, mailbox := c.mailbox.post (mail k []) } :=
    .kept here kill [] (by rw [journal,List.append_nil]) reader
  have same : c.mailbox.post (mail k []) = c.mailbox := by
    obtain ⟨posted,taken,inside⟩ := c.mailbox
    simp [Channel.post,mail]
  rwa [same] at stays

theorem at_same (here : sys.connections[k]? = some c) (journal : sys'.world.journal = sys.world.journal)
    (reader : by_reader k sys'.events.posted = by_reader k sys.events.posted) : At arith sys sys' k c :=
  at_quiet here c.kill journal reader

variable [MessageStore S]

/-- What the session notes while it handles the input. -/
def noted_while (env : Env) (input : Input) (sys : System S) : List Effect :=
  (final (handle_input env input sys.world)).journal.drop sys.world.journal.length

theorem handle_journal (env : Env) (input : Input) (sys : System S) :
    (sys.handle env input).world.journal = sys.world.journal ++ noted_while env input sys :=
  (List.prefix_iff_eq_append.mp (handle_grows env input sys.world)).symm

theorem handle_at (env : Env) (input : Input) (sys : System S) : (sys.handle env input).connections[k]? =
    sys.connections[k]?.map (fun c => { c with mailbox := c.mailbox.post (mail k (noted_while env input sys)) }) :=
  List.getElem?_mapIdx ..

theorem at_handled {sys₀ : System S} {input : Input} (here : (sys₀.handle env input).connections[k]? = some c)
    (world : sys₀.world = sys.world) (connections : sys₀.connections = sys.connections)
    (posted : sys₀.events.posted = sys.events.posted) : At arith sys (sys₀.handle env input) k c := by
  rw [handle_at,connections] at here
  obtain ⟨before,there,rfl⟩ := Option.map_eq_some_iff.mp here
  refine .kept there before.kill _ ?_ (by rw [← posted]; rfl)
  rw [← world]
  exact handle_journal env input sys₀

omit [MessageStore S] in
theorem put_at (sys : System S) (i : Nat) (c : FixConnection) (here : sys.connections[i]?.isSome) :
    (put sys i c).connections[k]? = if i = k then some c else sys.connections[k]? := by
  unfold put
  rw [List.getElem?_set]
  split_ifs with same inside
  · rfl
  · subst same
    rw [List.getElem?_eq_none (by omega)] at here
    cases here
  · rfl

/-- A connection after a step. -/
theorem move_at (move : Move arith env sys sys') (here : sys'.connections[k]? = some c) : At arith sys sys' k c := by
  cases move with
  | event alive next => exact at_handled here rfl rfl (Channel.posted_take _)
  | woken alive armed inner => exact at_handled here rfl rfl rfl
  | ended finished gone => exact at_same here rfl rfl
  | leads leads => exact at_same here rfl rfl
  | poses alive poses =>
    refine at_same (by simpa using here) (by simp) ?_
    exact by_reader_posts (fun same => by cases same) _
  | opened connecting =>
    rcases Nat.lt_trichotomy k sys.connections.length with before | last | behind
    · rw [List.getElem?_append_left before] at here
      exact at_same here rfl rfl
    · rw [last,List.getElem?_concat_length] at here
      cases here
      exact .opened last rfl rfl
    · rw [List.getElem?_eq_none (by simp; omega)] at here
      cases here
  | @leaves i initiator leaves =>
    obtain ⟨before,there,same⟩ : ∃ before, sys.connections[k]? = some before ∧ ∃ kill, c = { before with kill := kill } := by
      change (sys.connections.modify i FixConnection.release)[k]? = some c at here
      rw [List.getElem?_modify] at here
      obtain ⟨before,there,rfl⟩ := Option.map_eq_some_iff.mp here
      refine ⟨before,there,?_⟩
      split_ifs
      · unfold FixConnection.release
        split_ifs
        · exact ⟨_,rfl⟩
        · exact ⟨before.kill,rfl⟩
      · exact ⟨before.kill,rfl⟩
    obtain ⟨kill,rfl⟩ := same
    exact at_quiet there kill rfl rfl
  | @forced i closing =>
    obtain ⟨before,there,same⟩ : ∃ before, sys.connections[k]? = some before ∧ ∃ kill, c = { before with kill := kill } := by
      change (sys.connections.modify i _)[k]? = some c at here
      rw [List.getElem?_modify] at here
      obtain ⟨before,there,rfl⟩ := Option.map_eq_some_iff.mp here
      refine ⟨before,there,?_⟩
      split_ifs
      · exact ⟨.Sent,rfl⟩
      · exact ⟨before.kill,rfl⟩
    obtain ⟨kill,rfl⟩ := same
    exact at_quiet there kill rfl rfl
  | @works i before after events there work =>
    rw [put_at _ _ _ (by simp [there])] at here
    split_ifs at here with same
    · subst same
      cases here
      exact .worked there work (by simp [put]) (by_reader_posts_own events)
    · refine at_same (by simpa using here) (by simp [put]) ?_
      exact by_reader_posts (fun equal => by cases equal; exact same rfl) _

/-! ### The reader -/

/-- The frames that the reader gets of what it has read. Of the last chunk it gets none if
    its parser does not come back with it. -/
inductive Gets (arith : Arith) (c : FixConnection) (frames : List Bytes) : Prop where
  | all (free : c.reader.caught = false) (cuts : Cuts (message_ahead arith) c.received.flatten frames c.parser.buffer)
  | caught (caught : c.reader.caught = true) {before : List Bytes} {chunk : Bytes} (received : c.received = before ++ [chunk])
    (cuts : Cuts (message_ahead arith) before.flatten frames c.parser.buffer)
    (stuck : ∀ rounds messages parser, c.parser.parse arith rounds chunk ≠ .ok (some (messages,parser)))

theorem Gets.same {frames : List Bytes} (gets : Gets arith c frames) (received : c'.received = c.received)
    (parser : c'.parser = c.parser) (reader : c'.reader = c.reader) : Gets arith c' frames := by
  cases gets with
  | all free cuts => exact .all (reader ▸ free) (received ▸ parser ▸ cuts)
  | caught caught last cuts stuck => exact .caught (reader ▸ caught) (received.trans last) (parser ▸ cuts) (parser ▸ stuck)

/-- What the reader has told, with these frames to tell. -/
inductive Told (frames : List Bytes) : ReaderActor → List SessionEvent → Prop where
  | reading {told rest : List Bytes} (same : frames = told ++ rest) : Told frames (.Reading rest) (told.map .FixMessageReceived)
  | leaving (reason : Bytes) : Told frames .Leaving (frames.map .FixMessageReceived ++ [.Disconnected reason])
  | exited (reason : Bytes) : Told frames .Exited (frames.map .FixMessageReceived ++ [.Disconnected reason])
  | panicked : Told frames .Panicked (frames.map .FixMessageReceived)
  | spinning : Told frames .Spinning (frames.map .FixMessageReceived)

omit [MessageStore S] in
/-- A parser that comes back at all comes back within the rounds that the reader gives it. -/
theorem stuck_for_good {chunk : Bytes}
    (stuck : ∀ messages parser, c.parser.parse arith (c.parser.buffer.length + chunk.length + 1) chunk ≠ .ok (some (messages,parser))) :
    ∀ rounds messages parser, c.parser.parse arith rounds chunk ≠ .ok (some (messages,parser)) := by
  intro rounds messages parser ended
  have cuts := parse_cuts.mp ⟨rounds,ended⟩
  have few := cuts.length_le
  rw [List.length_append] at few
  exact stuck messages ⟨parser.buffer⟩ (FrameParser.parse_of_cuts cuts (by omega))

/-- What is posted is what was told, until the session is gone. -/
structure Hears (arith : Arith) (alive : Bool) (posted : List SessionEvent) (c : FixConnection) (frames : List Bytes)
    (told : List SessionEvent) : Prop where
  gets : Gets arith c frames
  tells : Told frames c.reader told
  inside : posted <+: told
  all : alive = true → posted = told

section
variable {alive : Bool} {posted told : List SessionEvent} {frames : List Bytes}

theorem Hears.read (hears : Hears arith alive posted c frames told) (reading : c.reader = .Reading []) (chunk : Bytes) :
    ∃ frames, Hears arith alive posted (c.read arith chunk) frames told := by
  obtain ⟨gets,tells,inside,all⟩ := hears
  rw [reading] at tells
  cases gets with
  | caught caught received cuts stuck =>
    rw [reading] at caught
    cases caught
  | all free cuts =>
    cases tells with
    | @reading before _ same =>
      rw [List.append_nil] at same
      subst same
      unfold FixConnection.read
      split
      · next messages parser cut =>
        have more := parse_cuts.mp ⟨_,cut⟩
        refine ⟨frames ++ messages,.all rfl ?_,.reading rfl,inside,all⟩
        rw [List.flatten_append,List.flatten_singleton]
        exact cuts.append (message_ahead_stable arith) more
      · next endless =>
        have stuck := stuck_for_good (fun messages parser ended => by cases endless.symm.trans ended)
        exact ⟨frames,.caught rfl rfl cuts stuck,.spinning,inside,all⟩
      · next panics =>
        have stuck := stuck_for_good (fun messages parser ended => by cases panics.symm.trans ended)
        exact ⟨frames,.caught rfl rfl cuts stuck,.panicked,inside,all⟩

theorem Hears.goes_on {reader : ReaderActor} (hears : Hears arith alive posted c frames told) (before : c.reader.caught = false)
    (after : reader.caught = false) : Gets arith { c with reader := reader } frames := by
  cases hears.gets with
  | all free cuts => exact .all after cuts
  | caught caught received cuts stuck =>
    rw [before] at caught
    cases caught

theorem Hears.tell {reader : ReaderActor} {event : SessionEvent} (hears : Hears arith alive posted c frames told)
    (before : c.reader.caught = false) (after : reader.caught = false) (tells : Told frames reader (told ++ [event])) :
    Hears arith alive (posted ++ if alive then [event] else []) { c with reader := reader } frames (told ++ [event]) := by
  have gets := hears.goes_on before after
  obtain ⟨-,-,inside,all⟩ := hears
  cases alive with
  | false => exact ⟨gets,tells,by simpa using inside.trans (List.prefix_append _ _),fun gone => by cases gone⟩
  | true =>
    rw [all rfl]
    exact ⟨gets,tells,List.prefix_rfl,fun _ => rfl⟩

omit [MessageStore S] in
theorem Hears.weaken {later : Bool} (hears : Hears arith alive posted c frames told) (less : later = true → alive = true) :
    Hears arith later posted c frames told :=
  ⟨hears.gets,hears.tells,hears.inside,fun on => hears.all (less on)⟩

omit [MessageStore S] in
/-- Only what the reader does to its connection matters to it. -/
theorem Hears.same (hears : Hears arith alive posted c frames told) (received : c'.received = c.received)
    (parser : c'.parser = c.parser) (reader : c'.reader = c.reader) : Hears arith alive posted c' frames told :=
  ⟨hears.gets.same received parser reader,reader ▸ hears.tells,hears.inside,hears.all⟩

omit [MessageStore S] in
theorem hears_new : Hears arith alive [] FixConnection.new [] [] :=
  ⟨.all rfl (.wait (message_ahead_nil arith)),@Told.reading [] [] [] rfl,List.prefix_rfl,fun _ => rfl⟩

omit [MessageStore S] in
theorem Hears.work {events : List SessionEvent} (hears : Hears arith alive posted c frames told)
    (work : Work arith sys k c events c') :
    ∃ frames told, Hears arith alive (posted ++ if alive then events else []) c' frames told := by
  have quiet (same : events = []) (kept : ∃ frames told, Hears arith alive posted c' frames told) :
      ∃ frames told, Hears arith alive (posted ++ if alive then events else []) c' frames told := by
    subst same
    simpa using kept
  have tells := hears.tells
  cases work with
  | read reading chunk =>
    obtain ⟨more,read⟩ := hears.read reading chunk
    exact quiet rfl ⟨more,told,read⟩
  | @delivered message rest reading =>
    rw [reading] at tells
    cases tells with
    | @reading before _ same =>
      refine ⟨frames,_,hears.tell (by rw [reading]; rfl) rfl ?_⟩
      have next : Told frames (.Reading rest) ((before ++ [message]).map .FixMessageReceived) := .reading (by rw [same]; simp)
      rwa [List.map_append] at next
  | @left reading cause reason given =>
    rw [reading] at tells
    cases tells with
    | @reading before _ same =>
      rw [List.append_nil] at same
      subst same
      exact ⟨_,_,hears.tell (by rw [reading]; rfl) rfl (.leaving reason)⟩
  | signalled leaving =>
    rw [leaving] at tells
    cases tells with
    | leaving reason =>
      exact quiet rfl ⟨frames,_,hears.goes_on (by rw [leaving]; rfl) rfl,.exited reason,hears.inside,hears.all⟩
  | @took running message next =>
    refine quiet rfl ⟨frames,told,?_⟩
    cases message with
    | SendMessage raw => exact hears.same rfl rfl rfl
    | Disconnect => exact hears.same rfl rfl rfl
  | wrote writing some_bytes => exact quiet rfl ⟨frames,told,hears.same rfl rfl rfl⟩
  | failed writing => exact quiet rfl ⟨frames,told,hears.same rfl rfl rfl⟩
  | orphaned running empty alone => exact quiet rfl ⟨frames,told,hears.same rfl rfl rfl⟩
  | closed closing => exact quiet rfl ⟨frames,told,hears.same rfl rfl rfl⟩

end

/-- A session that is gone does not come back. -/
theorem move_running (move : Move arith env sys sys') (alive : sys'.running = true) : sys.running = true := by
  cases move with
  | event before next => exact before
  | woken before armed inner => exact before
  | ended finished gone => cases alive
  | leads leads => exact alive
  | poses before poses => exact before
  | opened connecting => exact alive
  | leaves leaves => exact alive
  | forced closing => exact alive
  | works here work => exact (posts_running ..) ▸ alive

/-- Connections are never removed, and the readers of those to come are silent. -/
theorem move_beyond (move : Move arith env sys sys') (beyond : sys'.connections.length ≤ k) :
    sys.connections.length ≤ k ∧ by_reader k sys'.events.posted = by_reader k sys.events.posted := by
  have handled {sys₀ : System S} {input : Input} (connections : sys₀.connections = sys.connections)
      (posted : sys₀.events.posted = sys.events.posted) (outside : (sys₀.handle env input).connections.length ≤ k) :
      sys.connections.length ≤ k ∧ by_reader k (sys₀.handle env input).events.posted = by_reader k sys.events.posted := by
    refine ⟨?_,congrArg _ posted⟩
    rwa [show (sys₀.handle env input).connections.length = sys₀.connections.length from List.length_mapIdx ..,connections] at outside
  cases move with
  | event alive next => exact handled rfl (Channel.posted_take _) beyond
  | woken alive armed inner => exact handled rfl rfl beyond
  | ended finished gone => exact ⟨beyond,rfl⟩
  | leads leads => exact ⟨beyond,rfl⟩
  | poses alive poses => exact ⟨by simpa using beyond,by_reader_posts (fun same => by cases same) _⟩
  | opened connecting =>
    rw [List.length_append,List.length_singleton] at beyond
    exact ⟨by omega,rfl⟩
  | leaves leaves =>
    refine ⟨?_,rfl⟩
    simpa [System.leave,System.update] using beyond
  | forced closing =>
    refine ⟨?_,rfl⟩
    simpa [System.update] using beyond
  | @works i before after events here work =>
    have inside : sys.connections.length ≤ k := by simpa [put] using beyond
    refine ⟨inside,by_reader_posts (fun same => ?_) _⟩
    cases same
    rw [List.getElem?_eq_none inside] at here
    cases here

/-- The readers have told what they read. -/
structure Attentive (arith : Arith) (sys : System S) : Prop where
  beyond : ∀ k, sys.connections.length ≤ k → by_reader k sys.events.posted = []
  hears : ∀ (k : Nat) c, sys.connections[k]? = some c →
    ∃ frames told, Hears arith sys.running (by_reader k sys.events.posted) c frames told

theorem Attentive.move (attentive : Attentive arith sys) (move : Move arith env sys sys') : Attentive arith sys' := by
  refine ⟨fun k outside => ?_,fun k c here => ?_⟩
  · obtain ⟨before,same⟩ := move_beyond move outside
    rw [same]
    exact attentive.beyond k before
  · have alive := move_running move
    cases move_at move here with
    | @kept before there kill entries journal reader =>
      obtain ⟨frames,told,hears⟩ := attentive.hears k before there
      rw [reader]
      exact ⟨frames,told,(hears.weaken alive).same rfl rfl rfl⟩
    | opened last journal reader =>
      rw [reader,attentive.beyond k last.ge]
      exact ⟨[],[],hears_new⟩
    | worked there work journal reader =>
      obtain ⟨frames,told,hears⟩ := attentive.hears k _ there
      rw [reader]
      obtain ⟨frames,told,later⟩ := hears.work work
      exact ⟨frames,told,later.weaken alive⟩

theorem attentive_reached {store : S} (reached : Reached (step arith env) (.initial store) sys) : Attentive arith sys := by
  refine reached_invariant reached ⟨fun k _ => rfl,fun k c here => ?_⟩ (fun _ _ _ attentive move => attentive.move move)
  rw [System.initial,List.getElem?_nil] at here
  cases here

/-- The session is sent the frames that are cut of what the reader has read, each once and
    in order, then the disconnect; and so are they handled. A reader that is caught in its
    parser tells nothing of its last chunk and no disconnect, and a session that is gone
    misses the end of what is told. -/
theorem reader_tells {store : S} (reached : Reached (step arith env) (.initial store) sys) (here : sys.connections[k]? = some c) :
    ∃ frames told, Gets arith c frames ∧ Told frames c.reader told ∧
      by_reader k sys.events.posted <+: told ∧ (sys.running = true → by_reader k sys.events.posted = told) ∧
      by_reader k sys.events.handled <+: told := by
  obtain ⟨frames,told,gets,tells,inside,all⟩ := (attentive_reached reached).hears k c here
  refine ⟨frames,told,gets,tells,inside,all,List.IsPrefix.trans ?_ inside⟩
  exact (List.take_prefix _ _).filterMap _

/-- A session whose peer starts with a heartbeat. -/
def peer : Env := Sample.valid [Sample.logon,Sample.heartbeat 1]

/-- Its first connection, until it has the writer. -/
def entered : List Action :=
  [.RequestSchedule,.HandleEvent,.Handle .ScheduleCheck,.ScheduleAnswered,.Connect true,.Register,.HandleEvent]

/-- The heartbeat comes in two chunks. -/
def answered_badly : List Action := entered ++ [.Read 0 ((Sample.wire (Sample.heartbeat 1)).take 9),
  .Read 0 ((Sample.wire (Sample.heartbeat 1)).drop 9),.Deliver 0,.HandleEvent]

def fresh : System Sample.Store := .initial (InMemoryMessageStore.new 0)

/-- One frame in two chunks is told, and the end behind it. -/
theorem heartbeat_told : ∃ sys c, Reached (step .wrapping peer) fresh sys ∧ sys.connections[0]? = some c ∧ c.received.length = 2 ∧
    ∃ frames told, Gets .wrapping c frames ∧ Told frames c.reader told ∧
      by_reader 0 sys.events.posted <+: told ∧ (sys.running = true → by_reader 0 sys.events.posted = told) ∧
      by_reader 0 sys.events.handled <+: told := by
  obtain ⟨sys,reached,reads⟩ := reached_any (p := fun sys => sys.connections[0]?.any (fun c => c.received.length = 2))
    (answered_badly ++ [.Leave 0 .Eof]) (show (steps (step .wrapping peer) _ fresh).any _ = true by decide +kernel)
  obtain ⟨c,here,twice⟩ := (Option.any_eq_true _ _).mp reads
  exact ⟨sys,c,reached,here,of_decide_eq_true twice,reader_tells reached here⟩

/-! ### The writer -/

def send : WriterMessage → Option Bytes
  | .SendMessage raw => some raw
  | .Disconnect => none

/-- The frames among the messages. -/
def sends (messages : List WriterMessage) : List Bytes := messages.filterMap send

/-- The frames in front of the first disconnect. -/
def before_disconnect : List WriterMessage → List Bytes
  | .SendMessage raw :: rest => raw :: before_disconnect rest
  | _ => []

def frame_to (k : Nat) : Effect → Option Bytes
  | .Sent writer _ raw => if writer.connection = k then some raw else none
  | _ => none

/-- The frames that the session hands to the writer of the connection. -/
def frames_to (k : Nat) (entries : List Effect) : List Bytes := entries.filterMap (frame_to k)

theorem frames_to_append (entries more : List Effect) : frames_to k (entries ++ more) = frames_to k entries ++ frames_to k more :=
  List.filterMap_append ..

theorem sends_append (messages more : List WriterMessage) : sends (messages ++ more) = sends messages ++ sends more :=
  List.filterMap_append ..

theorem sends_mail (k : Nat) (entries : List Effect) : sends (mail k entries) = frames_to k entries := by
  unfold sends mail frames_to
  rw [List.filterMap_filterMap]
  refine congrArg (List.filterMap · entries) (funext fun entry => ?_)
  cases entry with
  | Sent writer m raw =>
    simp only [to_writer,frame_to]
    split_ifs <;> rfl
  | Disconnect writer =>
    simp only [to_writer,frame_to]
    split_ifs <;> rfl
  | _ => rfl

theorem before_disconnect_append {front : List WriterMessage} (open_front : .Disconnect ∉ front) (rest : List WriterMessage) :
    before_disconnect (front ++ rest) = sends front ++ before_disconnect rest := by
  induction front with
  | nil => rfl
  | cons message front ih =>
    cases message with
    | SendMessage raw =>
      have later := ih (fun member => open_front (List.mem_cons_of_mem _ member))
      exact congrArg (raw :: ·) later
    | Disconnect => exact absurd List.mem_cons_self open_front

theorem before_disconnect_none {messages : List WriterMessage} (silent : sends messages = []) : before_disconnect messages = [] := by
  cases messages with
  | nil => rfl
  | cons message rest =>
    cases message with
    | SendMessage raw => cases silent
    | Disconnect => rfl

/-- The frames handed to a writer that is not addressed. -/
theorem frames_to_other {entries : List Effect} (other : ∀ writer ∈ entries.filterMap addressee, writer.connection ≠ k) :
    frames_to k entries = [] := by
  refine List.filterMap_eq_nil_iff.mpr (fun entry member => ?_)
  cases entry with
  | Sent writer m raw => exact if_neg (other writer (List.mem_filterMap.mpr ⟨_,member,rfl⟩))
  | _ => rfl

/-- The connections that the session and the channel know have been opened. -/
structure Known (sys : System S) : Prop where
  writer : ∀ writer, sys.world.state.get_writer = some writer → writer.connection < sys.connections.length
  connected : ∀ entry ∈ sys.events.posted, ∀ k, registers k entry = true → k < sys.connections.length
  held : ∀ k, sys.initiator.holds = some k → k < sys.connections.length
  frames : ∀ k, sys.connections.length ≤ k → frames_to k sys.world.journal = []

theorem noted_frames {input : Input} (other : sys.world.state.get_writer ≠ some ⟨k⟩)
    (apart : input ≠ .Event (.Connected ⟨k⟩)) : frames_to k (noted_while env input sys) = [] := by
  obtain ⟨entries,journal,speaks⟩ := @handle_speaks S _ env sys.world input
  have same : noted_while env input sys = entries := by
    unfold noted_while
    rw [journal,List.drop_left]
  rw [same]
  refine frames_to_other (fun writer member here => ?_)
  obtain rfl : writer = ⟨k⟩ := congrArg WriterRef.mk here
  rcases speaks _ member with current | brought
  · exact other current
  · exact apart brought

theorem Known.handled {sys₀ : System S} {input : Input} (known : Known sys) (world : sys₀.world = sys.world)
    (connections : sys₀.connections = sys.connections) (posted : sys₀.events.posted = sys.events.posted)
    (initiator : sys₀.initiator = sys.initiator)
    (brought : ∀ writer, input = .Event (.Connected writer) → writer.connection < sys.connections.length) :
    Known (sys₀.handle env input) := by
  have length : (sys₀.handle env input).connections.length = sys.connections.length := by
    rw [← connections]
    exact List.length_mapIdx ..
  refine ⟨fun writer current => ?_,fun entry member i registers => ?_,fun i holds => ?_,fun i outside => ?_⟩
  · rw [length]
    rcases handle_writer env input sys₀.world with (gone | same) | ⟨_,rfl,same⟩
    · cases gone.symm.trans current
    · exact known.writer writer (world ▸ same.symm.trans current)
    · cases same.symm.trans current
      exact brought writer rfl
  · rw [length]
    exact known.connected entry (posted ▸ member) i registers
  · rw [length]
    exact known.held i (initiator ▸ holds)
  · rw [length] at outside
    rw [handle_journal,world,frames_to_append,known.frames i outside]
    refine noted_frames (fun current => ?_) (fun same => ?_)
    · have := known.writer _ (world ▸ current)
      dsimp only at this
      omega
    · have := brought _ same
      dsimp only at this
      omega

theorem Known.move (known : Known sys) (move : Move arith env sys sys') : Known sys' := by
  cases move with
  | @event alive task event next =>
    refine known.handled rfl rfl (Channel.posted_take _) rfl (fun writer same => ?_)
    cases same
    exact known.connected _ (Channel.next_mem next) _ (decide_eq_true rfl)
  | @woken alive input armed inner =>
    refine known.handled rfl rfl rfl rfl (fun writer same => ?_)
    rw [same] at inner
    cases inner
  | ended finished gone => exact ⟨known.writer,known.connected,known.held,known.frames⟩
  | leads leads => exact ⟨known.writer,known.connected,fun i holds => known.held i (lead_holds leads holds),known.frames⟩
  | @poses alive event initiator pose =>
    refine ⟨by simpa using known.writer,fun entry member i registered => ?_,fun i holds => ?_,by simpa using known.frames⟩
    · simp only [posts_connections]
      rcases mem_posts member with before | new
      · exact known.connected entry before i registered
      · obtain rfl : entry = (.Initiator,event) := by simpa using new
        exact known.held i (pose_registers pose registered)
    · simp only [posts_connections]
      exact known.held i (pose_holds pose holds)
  | opened connecting =>
    have longer (i : Nat) (inside : i < sys.connections.length) : i < (sys.connections ++ [FixConnection.new]).length := by
      rw [List.length_append]
      omega
    refine ⟨fun writer current => longer _ (known.writer writer current),
      fun entry member i registered => longer _ (known.connected entry member i registered),fun i holds => ?_,fun i outside => ?_⟩
    · cases holds
      simp
    · rw [List.length_append] at outside
      exact known.frames i (by omega)
  | @leaves i₀ initiator leaves =>
    have length {f : FixConnection → FixConnection} : (sys.connections.modify i₀ f).length = _ := List.length_modify ..
    refine ⟨fun writer current => ?_,fun entry member i registered => ?_,fun i holds => ?_,fun i outside => ?_⟩
    · exact (known.writer writer current).trans_eq length.symm
    · exact (known.connected entry member i registered).trans_eq length.symm
    · rw [show (sys.leave _ _).initiator.holds = none from leave_holds leaves] at holds
      cases holds
    · exact known.frames i (length.symm.trans_le outside)
  | @forced i closing =>
    have length {f : FixConnection → FixConnection} : (sys.connections.modify i f).length = _ := List.length_modify ..
    refine ⟨fun writer current => ?_,fun entry member i registered => ?_,fun j holds => ?_,fun j outside => ?_⟩
    · exact (known.writer writer current).trans_eq length.symm
    · exact (known.connected entry member i registered).trans_eq length.symm
    · cases holds
      exact (known.held i (by rw [closing]; rfl)).trans_eq length.symm
    · exact known.frames j (length.symm.trans_le outside)
  | @works i before after events here work =>
    have length : (put (posts sys (.Reader i) events) i after).connections.length = sys.connections.length := by simp [put]
    refine ⟨fun writer current => ?_,fun entry member j registered => ?_,fun j holds => ?_,fun j outside => ?_⟩
    · rw [length]
      exact known.writer writer (by simpa [put] using current)
    · rw [length]
      rcases mem_posts member with old | new
      · exact known.connected entry old j registered
      · rw [registers_reader work new] at registered
        cases registered
    · rw [length]
      exact known.held j (by simpa [put] using holds)
    · rw [length] at outside
      simpa [put] using known.frames j outside

theorem known_reached {store : S} (reached : Reached (step arith env) (.initial store) sys) : Known sys := by
  refine reached_invariant reached ⟨fun _ current => ?_,fun _ member => ?_,fun _ holds => ?_,fun _ _ => rfl⟩
    (fun _ _ _ known move => known.move move)
  · cases current
  · cases member
  · cases holds

omit [MessageStore S] in
/-- Nobody can put anything into the mailbox. -/
theorem reaches_writer_false : sys.reaches_writer k = false ↔ (sys.running = true → sys.world.state.get_writer ≠ some ⟨k⟩ ∧
    ∀ entry ∈ sys.events.waiting, registers k entry = false) ∧ sys.initiator.holds ≠ some k := by
  unfold System.reaches_writer
  cases sys.running with
  | false => simp
  | true => simp

/-- A mailbox that nobody reaches stays so, and no frame is put into it any more. -/
theorem alone_stays (move : Move arith env sys sys') (inside : k < sys.connections.length) (alone : sys.reaches_writer k = false) :
    sys'.reaches_writer k = false ∧ frames_to k sys'.world.journal = frames_to k sys.world.journal := by
  rw [reaches_writer_false] at alone ⊢
  obtain ⟨apart,free⟩ := alone
  have handled {sys₀ : System S} {input : Input} (world : sys₀.world = sys.world) (alive : sys.running = true)
      (waiting : ∀ entry ∈ sys₀.events.waiting, entry ∈ sys.events.waiting) (initiator : sys₀.initiator = sys.initiator)
      (brought : input ≠ .Event (.Connected ⟨k⟩)) :
      (((sys₀.handle env input).running = true → (sys₀.handle env input).world.state.get_writer ≠ some ⟨k⟩ ∧
        ∀ entry ∈ (sys₀.handle env input).events.waiting, registers k entry = false) ∧
        (sys₀.handle env input).initiator.holds ≠ some k) ∧
      frames_to k (sys₀.handle env input).world.journal = frames_to k sys.world.journal := by
    obtain ⟨other,silent⟩ := apart alive
    refine ⟨⟨fun _ => ⟨fun current => ?_,fun entry member => silent entry (waiting entry member)⟩,initiator ▸ free⟩,?_⟩
    · rcases handle_writer env input sys₀.world with (gone | same) | ⟨writer,rfl,same⟩
      · cases gone.symm.trans current
      · exact other (world ▸ same.symm.trans current)
      · cases same.symm.trans current
        exact brought rfl
    · rw [handle_journal,frames_to_append,noted_frames (world ▸ other) brought,List.append_nil,world]
  cases move with
  | @event alive task event next =>
    have first := Channel.waiting_next next
    refine handled rfl alive (fun entry member => ?_) rfl (fun same => ?_)
    · rw [first]
      exact List.mem_cons_of_mem _ member
    · cases same
      have := (apart alive).2 (task,.Connected ⟨k⟩) (by rw [first]; exact List.mem_cons_self)
      simp [registers] at this
  | @woken alive input armed inner =>
    refine handled rfl alive (fun _ member => member) rfl (fun same => ?_)
    rw [same] at inner
    cases inner
  | ended finished gone => exact ⟨⟨fun on => (by cases on),free⟩,rfl⟩
  | leads lead => exact ⟨⟨apart,fun holds => free (lead_holds lead holds)⟩,rfl⟩
  | @poses alive event initiator pose =>
    refine ⟨⟨fun _ => ⟨by simpa using (apart alive).1,fun entry member => ?_⟩,fun holds => free (pose_holds pose holds)⟩,by simp⟩
    change entry ∈ (posts sys .Initiator [event]).events.waiting at member
    rw [posts_alive alive,Channel.waiting_post,List.mem_append] at member
    rcases member with before | new
    · exact (apart alive).2 entry before
    · obtain rfl : entry = (.Initiator,event) := by simpa using new
      cases registered : registers k (Task.Initiator,event) with
      | false => rfl
      | true => exact absurd (pose_registers pose registered) free
  | opened connecting =>
    refine ⟨⟨apart,fun holds => ?_⟩,rfl⟩
    cases holds
    omega
  | leaves leaves =>
    refine ⟨⟨apart,fun holds => ?_⟩,rfl⟩
    rw [show (sys.leave _ _).initiator.holds = none from leave_holds leaves] at holds
    cases holds
  | @forced i closing =>
    refine ⟨⟨apart,fun holds => free ?_⟩,rfl⟩
    rw [closing]
    exact holds
  | @works i before after events here work =>
    refine ⟨⟨fun alive => ?_,by simpa [put] using free⟩,by simp [put]⟩
    have on : sys.running = true := by simpa [put] using alive
    refine ⟨by simpa [put] using (apart on).1,fun entry member => ?_⟩
    change entry ∈ (posts sys (.Reader i) events).events.waiting at member
    rw [posts_alive on,Channel.waiting_post,List.mem_append] at member
    rcases member with old | new
    · exact (apart on).2 entry old
    · exact registers_reader work new

/-- What the socket has yet to take of a frame that is being written. -/
def unwritten : WriterActor → Bytes
  | .Writing rest => rest
  | _ => []

/-- What the writer has taken from its mailbox and written. -/
structure Writes (c : FixConnection) (alone : Prop) : Prop where
  written : c.torn = false → c.written ++ unwritten c.writer = (sends c.mailbox.handled).flatten
  running : c.writer.stopped = false → .Disconnect ∉ c.mailbox.handled
  stopped : c.writer.stopped = true → (∃ front, c.mailbox.handled = front ++ [.Disconnect] ∧ .Disconnect ∉ front) ∨
    .Disconnect ∉ c.mailbox.handled ∧ sends c.mailbox.waiting = [] ∧ alone

theorem writes_new {alone : Prop} : Writes .new alone :=
  ⟨fun _ => rfl,fun _ => List.not_mem_nil,fun stopped => by cases stopped⟩

omit [MessageStore S] in
theorem Writes.work {alone : Prop} {events : List SessionEvent} (writes : Writes c alone)
    (is_alone : alone ↔ sys.reaches_writer k = false) (work : Work arith sys k c events c') : Writes c' alone := by
  obtain ⟨written,running,stopped⟩ := writes
  cases work with
  | read reading chunk =>
    unfold FixConnection.read
    split
    · exact ⟨written,running,stopped⟩
    · exact ⟨written,running,stopped⟩
    · exact ⟨written,running,stopped⟩
  | delivered reading => exact ⟨written,running,stopped⟩
  | left reading given => exact ⟨written,running,stopped⟩
  | signalled leaving => exact ⟨written,running,stopped⟩
  | @took on message next =>
    have handled := Channel.handled_take next
    have open_front := running (by rw [on]; rfl)
    rw [on] at written
    cases message with
    | SendMessage raw =>
      have more : sends c.mailbox.take.handled = sends c.mailbox.handled ++ [raw] := by
        rw [handled,sends_append]
        rfl
      refine ⟨fun whole => ?_,fun _ => ?_,fun off => (by cases off)⟩
      · change c.written ++ raw = (sends c.mailbox.take.handled).flatten
        rw [more,List.flatten_append,← written whole]
        simp [unwritten]
      · change WriterMessage.Disconnect ∉ c.mailbox.take.handled
        rw [handled]
        simp [open_front]
    | Disconnect =>
      refine ⟨fun whole => ?_,fun on => (by cases on),fun _ => .inl ⟨c.mailbox.handled,handled,open_front⟩⟩
      change c.written ++ [] = (sends c.mailbox.take.handled).flatten
      rw [handled,sends_append,List.flatten_append,← written whole]
      simp [unwritten,sends,send]
  | @wrote rest writing n some_bytes =>
    have open_front := running (by rw [writing]; rfl)
    rw [writing] at written
    refine ⟨fun whole => ?_,fun _ => open_front,fun off => ?_⟩
    · change c.written ++ rest.take n ++ unwritten (if rest.length ≤ n then .Running else .Writing (rest.drop n)) = _
      refine Eq.trans ?_ (written whole)
      split_ifs with all
      · simp [unwritten,List.take_of_length_le all]
      · simp [unwritten]
    · change (if rest.length ≤ n then WriterActor.Running else .Writing (rest.drop n)).stopped = true at off
      split_ifs at off <;> cases off
  | failed writing =>
    exact ⟨fun whole => (by cases whole),fun _ => running (by rw [writing]; rfl),fun off => (by cases off)⟩
  | orphaned on empty lost =>
    rw [on] at written
    refine ⟨written,fun on => (by cases on),fun _ => .inr ⟨running (by rw [on]; rfl),?_,is_alone.mpr lost⟩⟩
    rw [show c.mailbox.waiting = [] from empty]
    rfl
  | closed closing =>
    rw [closing] at written
    exact ⟨written,fun on => (by cases on),fun _ => stopped (by rw [closing]; rfl)⟩

omit [MessageStore S] in
theorem Writes.weaken {alone alone' : Prop} (writes : Writes c alone) (more : alone → alone') : Writes c alone' := by
  refine ⟨writes.written,writes.running,fun stopped => ?_⟩
  rcases writes.stopped stopped with disconnected | ⟨no_disconnect,silent,lost⟩
  · exact .inl disconnected
  · exact .inr ⟨no_disconnect,silent,more lost⟩

omit [MessageStore S] in
/-- More mail changes nothing, unless the writer is gone and still gets a frame. -/
theorem Writes.post {alone : Prop} (writes : Writes c alone) (kill : KillSender) (more : List WriterMessage)
    (silent : alone → sends more = []) : Writes { c with kill := kill, mailbox := c.mailbox.post more } alone := by
  obtain ⟨written,running,stopped⟩ := writes
  refine ⟨?_,?_,?_⟩
  · simpa using written
  · simpa using running
  · simp only [Channel.handled_post,Channel.waiting_post,sends_append]
    intro off
    rcases stopped off with disconnected | ⟨no_disconnect,empty,lost⟩
    · exact .inl disconnected
    · exact .inr ⟨no_disconnect,by rw [empty,silent lost,List.append_nil],lost⟩

omit [MessageStore S] in
/-- Readers and writers put nothing into the mailbox. -/
theorem work_posted {events : List SessionEvent} (work : Work arith sys k c events c') : c'.mailbox.posted = c.mailbox.posted := by
  cases work with
  | read reading chunk =>
    unfold FixConnection.read
    split <;> rfl
  | @took on message next =>
    cases message with
    | SendMessage raw => exact Channel.posted_take _
    | Disconnect => exact Channel.posted_take _
  | _ => rfl

/-- The writer of the connection has what the session gave it. -/
structure Mailed (sys : System S) (k : Nat) (c : FixConnection) : Prop where
  given : sends c.mailbox.posted = frames_to k sys.world.journal
  writes : Writes c (sys.reaches_writer k = false)

theorem mailed_move (known : Known sys) (before : ∀ (k : Nat) c, sys.connections[k]? = some c → Mailed sys k c)
    (move : Move arith env sys sys') (here : sys'.connections[k]? = some c) : Mailed sys' k c := by
  cases move_at move here with
  | @kept front there kill entries journal reader =>
    obtain ⟨given,writes⟩ := before k front there
    have inside : k < sys.connections.length := (List.getElem?_eq_some_iff.mp there).1
    have stays := fun alone => alone_stays move inside alone
    refine ⟨?_,(writes.post kill _ (fun alone => ?_)).weaken (fun alone => (stays alone).1)⟩
    · rw [journal,frames_to_append,Channel.posted_post,sends_append,sends_mail,given]
    · have same := (stays alone).2
      rw [journal,frames_to_append] at same
      rw [sends_mail]
      exact List.append_right_eq_self.mp same
  | opened last journal reader =>
    refine ⟨?_,writes_new⟩
    rw [journal,known.frames k last.ge]
    rfl
  | @worked front _ events there work journal reader =>
    obtain ⟨given,writes⟩ := before k front there
    have inside : k < sys.connections.length := (List.getElem?_eq_some_iff.mp there).1
    refine ⟨?_,(writes.work Iff.rfl work).weaken (fun alone => (alone_stays move inside alone).1)⟩
    rw [journal,← given,work_posted work]

theorem mailed_reached {store : S} (reached : Reached (step arith env) (.initial store) sys) :
    ∀ (k : Nat) c, sys.connections[k]? = some c → Mailed sys k c := by
  refine reached_invariant reached (fun k c here => ?_) (fun _ _ before mailed move k c => mailed_move (known_reached before) mailed move)
  rw [System.initial,List.getElem?_nil] at here
  cases here

omit [MessageStore S] in
theorem sends_before {front rest : List WriterMessage} (open_front : .Disconnect ∉ front) :
    before_disconnect (front ++ .Disconnect :: rest) = sends front := by
  rw [before_disconnect_append open_front]
  exact List.append_nil _

/-- The writer of a connection is handed the frames that the session sent over it, in order.
    It takes those in front of the first disconnect, all of them before it stops, and as
    long as no write fails the socket has taken what it took, in order and whole but for
    the rest of the frame that is being written. -/
theorem writer_exact {store : S} (reached : Reached (step arith env) (.initial store) sys) (here : sys.connections[k]? = some c) :
    sends c.mailbox.posted = frames_to k sys.world.journal ∧
    sends c.mailbox.handled <+: before_disconnect c.mailbox.posted ∧
    (c.torn = false → c.written ++ unwritten c.writer = (sends c.mailbox.handled).flatten) ∧
    (c.writer.stopped = true → sends c.mailbox.handled = before_disconnect c.mailbox.posted) := by
  obtain ⟨given,written,running,stopped⟩ := mailed_reached reached k c here
  have whole := c.mailbox.handled_waiting
  have off : c.writer.stopped = true → sends c.mailbox.handled = before_disconnect c.mailbox.posted := by
    intro gone
    rw [← whole]
    rcases stopped gone with ⟨front,handled,open_front⟩ | ⟨open_handled,empty,-⟩
    · rw [handled,List.append_assoc,List.singleton_append,sends_before open_front,sends_append]
      simp [sends,send]
    · rw [before_disconnect_append open_handled,before_disconnect_none empty,List.append_nil]
  refine ⟨given,?_,written,off⟩
  cases on : c.writer.stopped with
  | false =>
    rw [← whole,before_disconnect_append (running on)]
    exact List.prefix_append _ _
  | true => rw [off on]

/-- The logon of the session is written, and the writer stops at the disconnect. -/
theorem logon_written : ∃ sys c, Reached (step .wrapping peer) fresh sys ∧ sys.connections[0]? = some c ∧
    (c.writer = .Closing ∧ c.torn = false ∧ c.mailbox.posted.length = 2) ∧
    sends c.mailbox.posted = frames_to 0 sys.world.journal ∧
    sends c.mailbox.handled <+: before_disconnect c.mailbox.posted ∧
    (c.torn = false → c.written ++ unwritten c.writer = (sends c.mailbox.handled).flatten) ∧
    (c.writer.stopped = true → sends c.mailbox.handled = before_disconnect c.mailbox.posted) := by
  obtain ⟨sys,reached,writes⟩ := reached_any
    (p := fun sys => sys.connections[0]?.any (fun c => c.writer = .Closing ∧ c.torn = false ∧ c.mailbox.posted.length = 2))
    (answered_badly ++ [.Write 0,.Wrote 0 40,.Wrote 0 1000,.Write 0]) (show (steps (step .wrapping peer) _ fresh).any _ = true by decide +kernel)
  obtain ⟨c,here,stopped⟩ := (Option.any_eq_true _ _).mp writes
  exact ⟨sys,c,reached,here,of_decide_eq_true stopped,writer_exact reached here⟩

end HotFix.Streams
