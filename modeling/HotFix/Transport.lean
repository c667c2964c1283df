import HotFix.Framer
import HotFix.Session
import HotFix.Systems

/-!
The tasks around a session: the loop of the initiator that connects again and again, the
reader and the writer of each connection, and the loop of the session itself. They talk
over the event channel and the mailboxes of the writers. Mailboxes are unbounded here: a
task that would wait for room in one only steps later. A timeout may expire at any moment.
-/
namespace HotFix.Transport
open Program Systems
variable {S : Type} [MessageStore S]

/-! ### Actors -/

inductive WriterMessage where
  | SendMessage (raw : Bytes)
  | Disconnect

/-- What has become of the sender of the signal that kills the reader. -/
inductive KillSender where
  | Held
  | Sent
  | Dropped
  deriving DecidableEq

/-- Where `run_reader` is: in its loop with the messages it has yet to hand over, behind
    the loop, past its signal, or caught in its parser by a panic or for good. -/
inductive ReaderActor where
  | Reading (messages : List Bytes)
  | Leaving
  | Exited
  | Panicked
  | Spinning

/-- It does not get out of its parser. -/
def ReaderActor.caught : ReaderActor → Bool
  | .Panicked => true
  | .Spinning => true
  | _ => false

/-- Its signal has come, or can no longer come: either ends the wait for it. -/
def ReaderActor.gone : ReaderActor → Bool
  | .Exited => true
  | .Panicked => true
  | _ => false

/-- Where `run_writer` is: at its mailbox, inside `write_all` with what the socket has yet
    to take, behind the loop, or past its signal. -/
inductive WriterActor where
  | Running
  | Writing (rest : Bytes)
  | Closing
  | Exited
  deriving DecidableEq

/-- It takes nothing from its mailbox any more. -/
def WriterActor.stopped : WriterActor → Bool
  | .Closing => true
  | .Exited => true
  | _ => false

/-- One connection: the chunks that its reader has read and what is left of them, what the
    session sends to its writer, whether or not that still takes it, and what the socket
    has taken of it. It is `torn` once a write has failed. -/
structure FixConnection where
  received : List Bytes
  parser : FrameParser
  reader : ReaderActor
  kill : KillSender
  mailbox : Channel WriterMessage
  written : Bytes
  torn : Bool
  writer : WriterActor

def FixConnection.new : FixConnection := ⟨[],.default,.Reading [],.Held,.empty,[],false,.Running⟩

/-- The kill sender goes out of scope. -/
def FixConnection.release (c : FixConnection) : FixConnection :=
  if c.kill = .Held then { c with kill := .Dropped } else c

/-- Why the reader leaves its loop. -/
inductive Cause where
  | Eof
  | Failed (error : Bytes)
  | Killed

/-- The reason it gives; it is not killed while the sender is held. -/
def Cause.reason (kill : KillSender) : Cause → Option Bytes
  | .Eof => some (ascii "received EOF")
  | .Failed error => some error
  | .Killed =>
    match kill with
    | .Held => none
    | .Sent => some (ascii "forced close by watchdog")
    | .Dropped => some (ascii "reader handle dropped")

/-- Why `establish_connection` leaves its loop. -/
inductive Ending where
  | Shutdown
  | SessionGone
  | StayAway
  deriving DecidableEq

/-- Where `establish_connection` is. From `Registering` to `Killing` it holds a
    connection; `Running`, `Closing` and `Killing` are inside `run_until_disconnect`. -/
inductive Initiator where
  | Starting
  | AwaitingSchedule (responder : Responder)
  | Connecting
  | Registering (connection : Nat)
  | Running (connection : Nat)
  | Closing (connection : Nat)
  | Killing (connection : Nat)
  | Asking
  | AwaitingDecision (query : Nat)
  | Sleeping
  | Finished (ending : Ending)

def Initiator.holds : Initiator → Option Nat
  | .Registering k => some k
  | .Running k => some k
  | .Closing k => some k
  | .Killing k => some k
  | _ => none

/-- Who posts an event. -/
inductive Task where
  | Initiator
  | Reader (connection : Nat)
  deriving DecidableEq

/-! ### The system -/

/-- The session of the world is `running` until it panics or its channel is closed. -/
structure System (S : Type) where
  world : World S
  running : Bool
  events : Channel (Task × SessionEvent)
  connections : List FixConnection
  initiator : Initiator

def System.initial (store : S) : System S := ⟨World.initial store,true,.empty,[],.Starting⟩

namespace System
variable (sys : System S)

/-- An event that is sent to the session; a session that is gone does not get it. -/
def post (task : Task) (event : SessionEvent) : System S :=
  if sys.running then { sys with events := sys.events.post [(task,event)] } else sys

def update (k : Nat) (f : FixConnection → FixConnection) : System S :=
  { sys with connections := sys.connections.modify k f }

end System

/-- What the session puts into the mailbox of a writer. -/
def to_writer (k : Nat) : Effect → Option WriterMessage
  | .Sent writer _ raw => if writer.connection = k then some (.SendMessage raw) else none
  | .Disconnect writer => if writer.connection = k then some .Disconnect else none
  | _ => none

def mail (k : Nat) (entries : List Effect) : List WriterMessage := entries.filterMap (to_writer k)

def deliver (entries : List Effect) (connections : List FixConnection) : List FixConnection :=
  connections.mapIdx (fun k c => { c with mailbox := c.mailbox.post (mail k entries) })

/-- The session handles what woke it, and ends with a panic. -/
def System.handle (env : Env) (input : Input) (sys : System S) : System S :=
  let result := handle_input env input sys.world
  { sys with
    world := final result
    running := returned result
    connections := deliver ((final result).journal.drop sys.world.journal.length) sys.connections }

/-- What the session answered to an `AwaitSchedule`. -/
def schedule_answer (responder : Responder) (journal : List Effect) : Option ScheduleResponse :=
  journal.findSome? (fun entry =>
    match entry with
    | .ScheduleAnswer answered response => if answered = responder then some response else none
    | _ => none)

def reconnect_answer : Effect → Option Bool
  | .ReconnectAnswer answer => some answer
  | _ => none

/-- What it answered to each `ShouldReconnect`. -/
def reconnect_answers (journal : List Effect) : List Bool := journal.filterMap reconnect_answer

def is_query : Task × SessionEvent → Bool
  | (_,.ShouldReconnect) => true
  | _ => false

def awaits (responder : Responder) : Task × SessionEvent → Bool
  | (_,.AwaitSchedule r) => r = responder
  | _ => false

def registers (k : Nat) : Task × SessionEvent → Bool
  | (_,.Connected writer) => writer.connection = k
  | _ => false

namespace System
variable (sys : System S)

/-- The responder of a query still exists: in the channel or in the session. -/
def pending (responder : Responder) : Bool :=
  sys.running && (sys.events.waiting.any (awaits responder) || sys.world.state.awaiter = some responder)

/-- Somebody can still put messages into the mailbox. -/
def reaches_writer (k : Nat) : Bool :=
  sys.running && (sys.world.state.get_writer = some ⟨k⟩ || sys.events.waiting.any (registers k)) ||
    sys.initiator.holds = some k

/-- The task of the reader has ended, and with it the reader's sender of events. -/
def readers_gone : Bool := sys.connections.all (fun c => c.reader.gone)

/-- The initiator lets its connection go. -/
def leave (k : Nat) (next : Initiator) : System S := { sys.update k .release with initiator := next }

end System

/-! ### Steps -/

inductive Action where
  /-- The session takes the next event, or is woken by something else, or sees its channel closed. -/
  | HandleEvent
  | Handle (input : Input)
  | SessionEnds
  | RequestSchedule
  | ScheduleAnswered
  | Connect (connected : Bool)
  | Register
  | WriterExited
  | ReaderExited
  | ForceClose
  | RequestDecision
  | DecisionMade
  | Wake
  | Read (connection : Nat) (chunk : Bytes)
  | Deliver (connection : Nat)
  | Leave (connection : Nat) (cause : Cause)
  | Signal (connection : Nat)
  /-- The writer takes a message; the socket takes the next bytes of it, or never, or the
      write fails. -/
  | Write (connection : Nat)
  | Wrote (connection : Nat) (n : Nat)
  | Fail (connection : Nat)
  | Orphaned (connection : Nat)
  | CloseWriter (connection : Nat)

def is_event : Input → Bool
  | .Event _ => true
  | _ => false

/-! #### The session -/

def handle_event (env : Env) (sys : System S) : Option (System S) :=
  if sys.running then
    sys.events.next.map (fun entry => { sys with events := sys.events.take }.handle env (.Event entry.2))
  else none

def handle_other (env : Env) (input : Input) (sys : System S) : Option (System S) :=
  if sys.running ∧ enabled sys.world.state input ∧ is_event input = false then some (sys.handle env input) else none

/-- Every sender is gone. Events may still wait: the channel of the application is looked
    at first. -/
def session_ends (sys : System S) : Option (System S) :=
  match sys.initiator with
  | .Finished _ => if sys.running ∧ sys.readers_gone then some { sys with running := false } else none
  | _ => none

/-! #### The initiator -/

/-- Its responders are numbered by where their queries stand in the channel. -/
def request_schedule (sys : System S) : Option (System S) :=
  match sys.initiator with
  | .Starting =>
    let responder := sys.events.posted.length
    some (if sys.running then
      { sys.post .Initiator (.AwaitSchedule responder) with initiator := .AwaitingSchedule responder }
    else { sys with initiator := .Finished .SessionGone })
  | _ => none

def schedule_answered (sys : System S) : Option (System S) :=
  match sys.initiator with
  | .AwaitingSchedule responder =>
    match schedule_answer responder sys.world.journal with
    | some .InSchedule => some { sys with initiator := .Connecting }
    | some .Shutdown => some { sys with initiator := .Finished .Shutdown }
    | none => if sys.pending responder then none else some { sys with initiator := .Finished .SessionGone }
  | _ => none

/-- A new connection starts with its reader and its writer running. -/
def connect (connected : Bool) (sys : System S) : Option (System S) :=
  match sys.initiator with
  | .Connecting =>
    some (if connected then
      { sys with connections := sys.connections ++ [.new], initiator := .Registering sys.connections.length }
    else { sys with initiator := .Asking })
  | _ => none

def register (sys : System S) : Option (System S) :=
  match sys.initiator with
  | .Registering k =>
    some (if sys.running then { sys.post .Initiator (.Connected ⟨k⟩) with initiator := .Running k }
    else sys.leave k (.Finished .SessionGone))
  | _ => none

def writer_exited (sys : System S) : Option (System S) :=
  match sys.initiator with
  | .Running k =>
    if sys.connections[k]?.any (fun c => c.writer = .Exited) then some { sys with initiator := .Closing k } else none
  | _ => none

/-- The end of `run_until_disconnect`. -/
def reader_exited (sys : System S) : Option (System S) :=
  match sys.initiator with
  | .Running k => if sys.connections[k]?.any (fun c => c.reader.gone) then some (sys.leave k .Asking) else none
  | .Closing k => if sys.connections[k]?.any (fun c => c.reader.gone) then some (sys.leave k .Asking) else none
  | .Killing k => if sys.connections[k]?.any (fun c => c.reader.gone) then some (sys.leave k .Asking) else none
  | _ => none

/-- The reader did not see the end in time. -/
def force_close (sys : System S) : Option (System S) :=
  match sys.initiator with
  | .Closing k => some { sys.update k (fun c => { c with kill := .Sent }) with initiator := .Killing k }
  | _ => none

def request_decision (sys : System S) : Option (System S) :=
  match sys.initiator with
  | .Asking =>
    let query := (sys.events.posted.filter is_query).length
    some (if sys.running then { sys.post .Initiator .ShouldReconnect with initiator := .AwaitingDecision query }
    else { sys with initiator := .Finished .SessionGone })
  | _ => none

def decision_made (sys : System S) : Option (System S) :=
  match sys.initiator with
  | .AwaitingDecision query =>
    match (reconnect_answers sys.world.journal)[query]? with
    | some true => some { sys with initiator := .Sleeping }
    | some false => some { sys with initiator := .Finished .StayAway }
    | none => if sys.running then none else some { sys with initiator := .Finished .SessionGone }
  | _ => none

def wake (sys : System S) : Option (System S) :=
  match sys.initiator with
  | .Sleeping => some { sys with initiator := .Starting }
  | _ => none

/-! #### The reader -/

/-- A chunk of bytes that the parser cuts. With as many rounds as there are bytes and one
    more, a loop that has not ended never ends. -/
def FixConnection.read (arith : Arith) (chunk : Bytes) (c : FixConnection) : FixConnection :=
  match c.parser.parse arith (c.parser.buffer.length + chunk.length + 1) chunk with
  | .ok (some (messages,parser)) => { c with received := c.received ++ [chunk], parser := parser, reader := .Reading messages }
  | .ok none => { c with received := c.received ++ [chunk], reader := .Spinning }
  | .error _ => { c with received := c.received ++ [chunk], reader := .Panicked }

def read (arith : Arith) (k : Nat) (chunk : Bytes) (sys : System S) : Option (System S) :=
  match sys.connections[k]? with
  | some ⟨_,_,.Reading [],_,_,_,_,_⟩ => if chunk.isEmpty then none else some (sys.update k (.read arith chunk))
  | _ => none

def deliver_message (k : Nat) (sys : System S) : Option (System S) :=
  match sys.connections[k]? with
  | some ⟨_,_,.Reading (message :: rest),_,_,_,_,_⟩ =>
    some ((sys.post (.Reader k) (.FixMessageReceived message)).update k (fun c => { c with reader := .Reading rest }))
  | _ => none

def leave_loop (k : Nat) (cause : Cause) (sys : System S) : Option (System S) :=
  match sys.connections[k]? with
  | some ⟨_,_,.Reading [],kill,_,_,_,_⟩ =>
    (cause.reason kill).map (fun reason =>
      (sys.post (.Reader k) (.Disconnected reason)).update k (fun c => { c with reader := .Leaving }))
  | _ => none

def signal (k : Nat) (sys : System S) : Option (System S) :=
  match sys.connections[k]? with
  | some ⟨_,_,.Leaving,_,_,_,_,_⟩ => some (sys.update k (fun c => { c with reader := .Exited }))
  | _ => none

/-! #### The writer -/

/-- `WriterActor::handle`. -/
def FixConnection.handle (message : WriterMessage) (c : FixConnection) : FixConnection :=
  match message with
  | .SendMessage raw => { c with mailbox := c.mailbox.take, writer := .Writing raw }
  | .Disconnect => { c with mailbox := c.mailbox.take, writer := .Closing }

def write (k : Nat) (sys : System S) : Option (System S) :=
  match sys.connections[k]? with
  | some c => if c.writer = .Running then c.mailbox.next.map (fun message => sys.update k (.handle message)) else none
  | none => none

/-- `write_all` goes on until all is taken. -/
def FixConnection.wrote (rest : Bytes) (n : Nat) (c : FixConnection) : FixConnection :=
  { c with written := c.written ++ rest.take n, writer := if rest.length ≤ n then .Running else .Writing (rest.drop n) }

def wrote (k n : Nat) (sys : System S) : Option (System S) :=
  match sys.connections[k]? with
  | some ⟨_,_,_,_,_,_,_,.Writing rest⟩ => if n = 0 then none else some (sys.update k (.wrote rest n))
  | _ => none

/-- A failed write is only logged. -/
def fail (k : Nat) (sys : System S) : Option (System S) :=
  match sys.connections[k]? with
  | some ⟨_,_,_,_,_,_,_,.Writing _⟩ => some (sys.update k (fun c => { c with torn := true, writer := .Running }))
  | _ => none

/-- The mailbox is empty and nobody can reach it. -/
def orphaned (k : Nat) (sys : System S) : Option (System S) :=
  match sys.connections[k]? with
  | some c =>
    if c.writer = .Running ∧ c.mailbox.waiting.isEmpty ∧ sys.reaches_writer k = false then
      some (sys.update k (fun c => { c with writer := .Closing }))
    else none
  | none => none

/-- The socket is shut down, or that fails, or takes too long. -/
def close_writer (k : Nat) (sys : System S) : Option (System S) :=
  match sys.connections[k]? with
  | some c => if c.writer = .Closing then some (sys.update k (fun c => { c with writer := .Exited })) else none
  | none => none

def step (arith : Arith) (env : Env) : Action → System S → Option (System S)
  | .HandleEvent => handle_event env
  | .Handle input => handle_other env input
  | .SessionEnds => session_ends
  | .RequestSchedule => request_schedule
  | .ScheduleAnswered => schedule_answered
  | .Connect connected => connect connected
  | .Register => register
  | .WriterExited => writer_exited
  | .ReaderExited => reader_exited
  | .ForceClose => force_close
  | .RequestDecision => request_decision
  | .DecisionMade => decision_made
  | .Wake => wake
  | .Read k chunk => read arith k chunk
  | .Deliver k => deliver_message k
  | .Leave k cause => leave_loop k cause
  | .Signal k => signal k
  | .Write k => write k
  | .Wrote k n => wrote k n
  | .Fail k => fail k
  | .Orphaned k => orphaned k
  | .CloseWriter k => close_writer k

end HotFix.Transport
