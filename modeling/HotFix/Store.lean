import HotFix.Program
import HotFix.Decimal
import Mathlib.Data.List.Range

/-!
The message store: its operations, what they promise, and the store in memory.
An operation returns its result and the store it leaves.
-/
namespace HotFix

/-- An instant of the UTC clock, in nanoseconds. -/
abbrev DateTime := Int

inductive StoreError where
  | Initialization
  | PersistMessage (sequence_number : Nat)
  | RetrieveMessages (first last : Nat)
  | UpdateSequenceNumber
  | Reset
  | Cleanup
  deriving DecidableEq

class MessageStore (S : Type) where
  add : Nat → Bytes → S → Except StoreError Unit × S
  get_slice : Nat → Nat → S → Except (Abort StoreError) (List Bytes)
  next_sender_seq_number : S → Nat
  next_target_seq_number : S → Nat
  increment_sender_seq_number : S → Except StoreError Unit × S
  increment_target_seq_number : S → Except StoreError Unit × S
  set_target_seq_number : Nat → S → Except StoreError Unit × S
  /-- The second argument is the clock reading that becomes the creation time. -/
  reset : DateTime → S → Except StoreError Unit × S
  creation_time : S → DateTime

open MessageStore

/-- The sequence numbers of a store: the next to send and the next expected. -/
def numbers {S : Type} [MessageStore S] (s : S) : Nat × Nat := (next_sender_seq_number s,next_target_seq_number s)

/-- An operation either succeeds and leaves the numbers `after`, or fails and
    leaves those it found. -/
def Moves {S : Type} [MessageStore S] (result : Except StoreError Unit × S) (before after : Nat × Nat) : Prop :=
  result.1 = .ok () ∧ numbers result.2 = after ∨ (∃ e, result.1 = .error e) ∧ numbers result.2 = before

/-- What the operations document: the current numbers are one below the next. -/
class LawfulMessageStore (S : Type) [MessageStore S] : Prop where
  next_pos : ∀ s : S, 0 < next_sender_seq_number s ∧ 0 < next_target_seq_number s
  add_moves : ∀ n data (s : S), Moves (add n data s) (numbers s) (numbers s)
  increment_sender_moves : ∀ s : S, Moves (increment_sender_seq_number s) (numbers s)
    (next_sender_seq_number s + 1,next_target_seq_number s)
  increment_target_moves : ∀ s : S, Moves (increment_target_seq_number s) (numbers s)
    (next_sender_seq_number s,next_target_seq_number s + 1)
  set_target_moves : ∀ n (s : S), Moves (set_target_seq_number n s) (numbers s) (next_sender_seq_number s,n + 1)
  reset_moves : ∀ now (s : S), Moves (reset now s) (numbers s) (1,1)

/-- Addition on 64 bits: a build that checks for overflow stops before a result
    could differ from the exact one, the other wraps. -/
inductive Arith where
  | exact
  | wrapping
  deriving DecidableEq

def Arith.add : Arith → Nat → Nat → Nat
  | .exact,a,b => a + b
  | .wrapping,a,b => (a + b) % UInt64.size

theorem Arith.add_lt {arith : Arith} (wraps : arith = .wrapping) (a b : Nat) : arith.add a b < UInt64.size := by
  subst wraps
  exact Nat.mod_lt _ (by decide)

theorem Arith.add_eq (arith : Arith) {a b : Nat} (fits : a + b < UInt64.size) : arith.add a b = a + b := by
  cases arith with
  | exact => rfl
  | wrapping => exact Nat.mod_eq_of_lt fits

/-- An operation either succeeds and leaves the expected number `after`, or fails and
    leaves the one it found. -/
def MovesTarget {S : Type} [MessageStore S] (result : Except StoreError Unit × S) (before after : Nat) : Prop :=
  result.1 = .ok () ∧ next_target_seq_number result.2 = after ∨
    (∃ e, result.1 = .error e) ∧ next_target_seq_number result.2 = before

/-- A store whose expected number is counted with the given addition. Where that
    wraps, the number has 64 bits. -/
class CountingStore (S : Type) (arith : outParam Arith) [MessageStore S] : Prop where
  next_lt : arith = .wrapping → ∀ s : S, next_target_seq_number s < UInt64.size
  add_moves : ∀ n data (s : S), MovesTarget (add n data s) (next_target_seq_number s) (next_target_seq_number s)
  increment_sender_moves : ∀ s : S, MovesTarget (increment_sender_seq_number s) (next_target_seq_number s)
    (next_target_seq_number s)
  increment_target_moves : ∀ s : S, MovesTarget (increment_target_seq_number s) (next_target_seq_number s)
    (arith.add (next_target_seq_number s) 1)
  set_target_moves : ∀ n (s : S), MovesTarget (set_target_seq_number n s) (next_target_seq_number s) (arith.add n 1)

/-- A store that starts over with one, unless it fails and goes on. -/
class RestartingStore (S : Type) [MessageStore S] : Prop where
  reset_moves : ∀ now (s : S), MovesTarget (reset now s) (next_target_seq_number s) 1

theorem Moves.target {S : Type} [MessageStore S] {result : Except StoreError Unit × S} {before after : Nat × Nat}
    (moves : Moves result before after) : MovesTarget result before.2 after.2 :=
  moves.imp (And.imp_right (congrArg Prod.snd)) (And.imp_right (congrArg Prod.snd))

instance (S : Type) [MessageStore S] [LawfulMessageStore S] : CountingStore S .exact where
  next_lt wraps := by cases wraps
  add_moves n data s := (LawfulMessageStore.add_moves n data s).target
  increment_sender_moves s := (LawfulMessageStore.increment_sender_moves s).target
  increment_target_moves s := (LawfulMessageStore.increment_target_moves s).target
  set_target_moves n s := (LawfulMessageStore.set_target_moves n s).target

instance (S : Type) [MessageStore S] [LawfulMessageStore S] : RestartingStore S where
  reset_moves now s := (LawfulMessageStore.reset_moves now s).target

/-- No write to the store fails. -/
structure StoreSucceeds (S : Type) [MessageStore S] : Prop where
  add_ok : ∀ n data (s : S), (add n data s).1 = .ok ()
  increment_sender_ok : ∀ s : S, (increment_sender_seq_number s).1 = .ok ()
  increment_target_ok : ∀ s : S, (increment_target_seq_number s).1 = .ok ()
  set_target_ok : ∀ n (s : S), (set_target_seq_number n s).1 = .ok ()
  reset_ok : ∀ now (s : S), (reset now s).1 = .ok ()

/-! ### The store in memory -/

structure InMemoryMessageStore (arith : Arith) where
  sender_seq_number : Nat
  target_seq_number : Nat
  creation_time : DateTime
  messages : Nat → Option Bytes

/-- The size of a `Vec<u8>` header, and the largest allocation. -/
def VEC_SIZE : Nat := 24
def ISIZE_MAX : Nat := UInt64.size / 2 - 1

namespace InMemoryMessageStore
variable {arith : Arith}

def new (now : DateTime) : InMemoryMessageStore arith := ⟨0,0,now,fun _ => none⟩

/-- `Vec::with_capacity(end - begin + 1)`, then the messages that are there. -/
def get_slice (first last : Nat) (s : InMemoryMessageStore arith) : Except (Abort StoreError) (List Bytes) :=
  let msgs := (List.range' first (last + 1 - first)).filterMap s.messages
  match arith with
  | .exact => if last < first then .error (.Panic "attempt to subtract with overflow") else .ok msgs
  | .wrapping =>
    let capacity := (last + UInt64.size - first + 1) % UInt64.size
    if capacity * VEC_SIZE > ISIZE_MAX then .error (.Panic "capacity overflow") else .ok msgs

instance : MessageStore (InMemoryMessageStore arith) where
  add n data s := (.ok (),{ s with messages := fun k => if k = n then some data else s.messages k })
  get_slice := get_slice
  next_sender_seq_number s := arith.add s.sender_seq_number 1
  next_target_seq_number s := arith.add s.target_seq_number 1
  increment_sender_seq_number s := (.ok (),{ s with sender_seq_number := arith.add s.sender_seq_number 1 })
  increment_target_seq_number s := (.ok (),{ s with target_seq_number := arith.add s.target_seq_number 1 })
  set_target_seq_number n s := (.ok (),{ s with target_seq_number := n })
  reset now _ := (.ok (),new now)
  creation_time s := s.creation_time

theorem succeeds (arith : Arith) : StoreSucceeds (InMemoryMessageStore arith) :=
  ⟨fun _ _ _ => rfl,fun _ => rfl,fun _ => rfl,fun _ _ => rfl,fun _ _ => rfl⟩

instance : CountingStore (InMemoryMessageStore arith) arith where
  next_lt wraps _ := Arith.add_lt wraps _ _
  add_moves _ _ _ := .inl ⟨rfl,rfl⟩
  increment_sender_moves _ := .inl ⟨rfl,rfl⟩
  increment_target_moves _ := .inl ⟨rfl,rfl⟩
  set_target_moves _ _ := .inl ⟨rfl,rfl⟩

instance : RestartingStore (InMemoryMessageStore arith) where
  reset_moves _ _ := .inl ⟨rfl,Arith.add_eq arith (show 0 + 1 < UInt64.size by decide)⟩

instance : LawfulMessageStore (InMemoryMessageStore .exact) where
  next_pos s := ⟨Nat.succ_pos s.sender_seq_number,Nat.succ_pos s.target_seq_number⟩
  add_moves _ _ _ := .inl ⟨rfl,rfl⟩
  increment_sender_moves _ := .inl ⟨rfl,rfl⟩
  increment_target_moves _ := .inl ⟨rfl,rfl⟩
  set_target_moves _ _ := .inl ⟨rfl,rfl⟩
  reset_moves _ _ := .inl ⟨rfl,rfl⟩

end InMemoryMessageStore
end HotFix
