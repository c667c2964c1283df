import HotFix.Store

/-!
The store in files: its numbers and its index are kept in memory beside the files.
What the files do is a parameter, as a few operations that may fail: the number
file is rewritten, a message and its index line are appended, a message is read
back, all files are removed and created again. A number in memory changes only
once it has been written.
-/
namespace HotFix

/-- Where a message stands in the body file. -/
structure MessageDef where
  offset : Nat
  size : Nat
  deriving DecidableEq

/-- The files of a store. An operation says whether it succeeded, and what it left. -/
class Files (D : Type) where
  write_seqnums_with : Nat → Nat → D → Bool × D
  append_message : Nat → MessageDef → Bytes → D → Bool × D
  open_body : D → Bool
  read_exact : MessageDef → D → Option Bytes
  remove_files : D → Bool × D
  recreate_files : DateTime → D → Bool × D

structure FileStore (arith : Arith) (D : Type) where
  files : D
  sender_seq_number : Nat
  target_seq_number : Nat
  creation_time : DateTime
  message_index : Nat → Option MessageDef
  current_body_offset : Nat

namespace FileStore
open Files
variable {arith : Arith} {D : Type} [Files D]

def write_message (sequence_number : Nat) (message : Bytes) (s : FileStore arith D) : Bool × FileStore arith D :=
  let placed : MessageDef := ⟨s.current_body_offset,message.length⟩
  match append_message sequence_number placed message s.files with
  | (false,files) => (false,{ s with files := files })
  | (true,files) => (true,{ s with
      files := files
      message_index := fun n => if n = sequence_number then some placed else s.message_index n
      current_body_offset := arith.add s.current_body_offset message.length })

/-- The numbers in memory start over between the removal of the files and their
    creation. -/
def perform_reset (now : DateTime) (s : FileStore arith D) : Bool × FileStore arith D :=
  match remove_files s.files with
  | (false,files) => (false,{ s with files := files })
  | (true,files) =>
    match recreate_files now files with
    | (done,files) => (done,⟨files,0,0,now,fun _ => none,0⟩)

/-- `Vec::with_capacity(end - begin + 1)`. -/
def with_capacity (arith : Arith) (first last : Nat) : Except (Abort StoreError) Unit :=
  match arith with
  | .exact => if last < first then .error (.Panic "attempt to subtract with overflow") else .ok ()
  | .wrapping =>
    if (last + UInt64.size - first + 1) % UInt64.size * VEC_SIZE > ISIZE_MAX then .error (.Panic "capacity overflow")
    else .ok ()

def read_messages (first last : Nat) (s : FileStore arith D) : Except (Abort StoreError) (List Bytes) := do
  with_capacity arith first last
  if open_body s.files then
    match ((List.range' first (last + 1 - first)).filterMap s.message_index).mapM (fun placed => read_exact placed s.files) with
    | some messages => return messages
    | none => throw (.Error (.RetrieveMessages first last))
  else throw (.Error (.RetrieveMessages first last))

/-- A pair of numbers becomes the store's once it has been written. -/
def update_seqnums (sender target : Nat) (s : FileStore arith D) : Except StoreError Unit × FileStore arith D :=
  match write_seqnums_with sender target s.files with
  | (true,files) => (.ok (),{ s with files := files, sender_seq_number := sender, target_seq_number := target })
  | (false,files) => (.error .UpdateSequenceNumber,{ s with files := files })

instance : MessageStore (FileStore arith D) where
  add n data s :=
    match s.write_message n data with
    | (true,s) => (.ok (),s)
    | (false,s) => (.error (.PersistMessage n),s)
  get_slice := read_messages
  next_sender_seq_number s := arith.add s.sender_seq_number 1
  next_target_seq_number s := arith.add s.target_seq_number 1
  increment_sender_seq_number s := s.update_seqnums (arith.add s.sender_seq_number 1) s.target_seq_number
  increment_target_seq_number s := s.update_seqnums s.sender_seq_number (arith.add s.target_seq_number 1)
  set_target_seq_number n s := s.update_seqnums s.sender_seq_number n
  reset now s :=
    match s.perform_reset now with
    | (true,s) => (.ok (),s)
    | (false,s) => (.error .Reset,s)
  creation_time s := s.creation_time

/-- A message is listed once its file operations have succeeded. -/
theorem add_cases (n : Nat) (data : Bytes) (s : FileStore arith D) :
    (∃ files, append_message n ⟨s.current_body_offset,data.length⟩ data s.files = (true,files) ∧
      MessageStore.add n data s = (.ok (),{ s with
        files := files
        message_index := fun k => if k = n then some ⟨s.current_body_offset,data.length⟩ else s.message_index k
        current_body_offset := arith.add s.current_body_offset data.length })) ∨
    ∃ files, append_message n ⟨s.current_body_offset,data.length⟩ data s.files = (false,files) ∧
      MessageStore.add n data s = (.error (.PersistMessage n),{ s with files := files }) := by
  simp only [MessageStore.add,write_message]
  rcases append_message n ⟨s.current_body_offset,data.length⟩ data s.files with ⟨_ | _,files⟩
  · exact .inr ⟨files,rfl,rfl⟩
  · exact .inl ⟨files,rfl,rfl⟩

theorem update_seqnums_cases (sender target : Nat) (s : FileStore arith D) :
    (s.update_seqnums sender target).1 = .ok () ∧ (s.update_seqnums sender target).2.target_seq_number = target ∨
      (∃ e, (s.update_seqnums sender target).1 = .error e) ∧
        (s.update_seqnums sender target).2.target_seq_number = s.target_seq_number := by
  unfold update_seqnums
  rcases write_seqnums_with sender target s.files with ⟨_ | _,files⟩
  · exact .inr ⟨⟨_,rfl⟩,rfl⟩
  · exact .inl ⟨rfl,rfl⟩

/-- The number in memory moves once it has been written. -/
theorem update_seqnums_moves (sender target : Nat) (s : FileStore arith D) :
    MovesTarget (s.update_seqnums sender target) (MessageStore.next_target_seq_number s) (arith.add target 1) :=
  (s.update_seqnums_cases sender target).imp (And.imp_right (congrArg (arith.add · 1)))
    (And.imp_right (congrArg (arith.add · 1)))

instance : CountingStore (FileStore arith D) arith where
  next_lt wraps _ := Arith.add_lt wraps _ _
  add_moves n data s := by
    obtain ⟨files,-,added⟩ | ⟨files,-,failed⟩ := s.add_cases n data
    · rw [added]
      exact .inl ⟨rfl,rfl⟩
    · rw [failed]
      exact .inr ⟨⟨_,rfl⟩,rfl⟩
  increment_sender_moves s :=
    (s.update_seqnums_moves (arith.add s.sender_seq_number 1) s.target_seq_number).imp id id
  increment_target_moves s := s.update_seqnums_moves s.sender_seq_number (arith.add s.target_seq_number 1)
  set_target_moves n s := s.update_seqnums_moves s.sender_seq_number n

/-- Where no reset fails, the store starts over with one. -/
theorem restarts (succeeds : StoreSucceeds (FileStore arith D)) : RestartingStore (FileStore arith D) where
  reset_moves now s := by
    have done := succeeds.reset_ok now s
    refine .inl ⟨done,?_⟩
    simp only [MessageStore.reset,perform_reset] at done ⊢
    rcases removed : remove_files s.files with ⟨_ | _,files⟩
    · simp [removed] at done
    · rcases recreated : recreate_files now files with ⟨_ | _,files'⟩
      · simp [removed,recreated] at done
      · simp only [recreated]
        exact Arith.add_eq arith (show 0 + 1 < UInt64.size by decide)

end FileStore
end HotFix
