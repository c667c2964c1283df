import HotFix.Writers

/-!
The end of a connection. Once the session has told a writer to disconnect, the writer works
through its mailbox and stops, and the initiator waits for the reader and then kills it. So
they get out of the connection by steps of their own, whether or not the session steps, as
long as the socket answers each write. A write that is not answered holds them for good.
-/
namespace HotFix.Watchdog
open HotFix.Program HotFix.Systems HotFix.Transport HotFix.Interleavings HotFix.Queries HotFix.Streams HotFix.Lifecycle MessageStore
variable {S : Type} [MessageStore S] {arith : Arith} {env : Env} {sys sys' : System S} {k : Nat} {c c' : FixConnection}

/-! ### Winding down -/

/-- What the tasks of the connection do by themselves: its writer, its reader once it is
    killed, and `run_until_disconnect`. -/
def own (k : Nat) : Action → Prop
  | .Write i => i = k
  | .CloseWriter i => i = k
  | .Deliver i => i = k
  | .Leave i cause => i = k ∧ cause = .Killed
  | .Signal i => i = k
  | .WriterExited => True
  | .ForceClose => True
  | .ReaderExited => True
  | _ => False

/-- What the reader, the writer and the initiator have left to do. -/
def reader_left : ReaderActor → Nat
  | .Reading messages => messages.length + 2
  | .Leaving => 1
  | _ => 0

def cost : WriterMessage → Nat
  | .SendMessage raw => raw.length + 2
  | .Disconnect => 1

def writer_left (c : FixConnection) : Nat :=
  match c.writer with
  | .Running => (c.mailbox.waiting.map cost).sum + 2
  | .Writing rest => rest.length + 1 + ((c.mailbox.waiting.map cost).sum + 2)
  | .Closing => 1
  | .Exited => 0

def initiator_left : Initiator → Nat
  | .Running _ => 3
  | .Closing _ => 2
  | .Killing _ => 1
  | _ => 0

def left (k : Nat) (sys : System S) : Nat :=
  initiator_left sys.initiator +
    match sys.connections[k]? with
    | some c => reader_left c.reader + writer_left c
    | none => 0

/-- A connection that has been told to disconnect. -/
structure Told (initiator : Initiator) (k : Nat) (c : FixConnection) : Prop where
  turning : c.reader ≠ .Spinning
  told : c.writer.stopped = false → .Disconnect ∈ c.mailbox.waiting
  killed : initiator = .Killing k → c.kill ≠ .Held

/-- The sender of the kill is held until the initiator has killed. -/
def Armed (sys : System S) : Prop :=
  ∀ (k : Nat) c, sys.initiator.holds = some k → sys.connections[k]? = some c → (c.kill = .Held ↔ sys.initiator ≠ .Killing k)

omit [MessageStore S] in
theorem Armed.initiator (armed : Armed sys) {initiator : Initiator} (connections : sys'.connections = sys.connections)
    (now : sys'.initiator = initiator) (holds : ∀ k, initiator.holds = some k → sys.initiator.holds = some k)
    (kills : ∀ k, initiator = .Killing k ↔ sys.initiator = .Killing k) : Armed sys' := by
  intro k c held here
  rw [now] at held ⊢
  rw [armed k c (holds k held) (connections ▸ here),Ne,Ne,kills]

/-- The initiator waits for a write, with the reader in its loop. -/
structure Waits (k : Nat) (sys : System S) : Prop where
  running : sys.initiator = .Running k
  there : ∃ c rest messages, sys.connections[k]? = some c ∧ c.writer = .Writing rest ∧ c.reader = .Reading messages ∧ c.kill = .Held

def runs (k : Nat) : Initiator → Bool
  | .Running i => i = k
  | _ => false

def turns : ReaderActor → Bool
  | .Spinning => false
  | _ => true

end HotFix.Watchdog
