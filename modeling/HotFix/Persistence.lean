import HotFix.Directory

/-!
The store in files over whole runs in which no operation fails. It gives the same
answers as the store in memory, because the body has every message where the index
says. A store that is dropped and opened again has the same messages and the same
creation time; it has the same numbers if they have been written since it was opened,
for an opening leaves their file empty.
-/
namespace HotFix.Persistence
open MessageStore

inductive Operation where
  | add (sequence_number : Nat) (message : Bytes)
  | increment_sender_seq_number
  | increment_target_seq_number
  | set_target_seq_number (seq_number : Nat)
  | reset (now : DateTime)

namespace Operation
variable {S : Type} [MessageStore S]

def apply (s : S) : Operation → Except StoreError Unit × S
  | .add sequence_number message => MessageStore.add sequence_number message s
  | .increment_sender_seq_number => MessageStore.increment_sender_seq_number s
  | .increment_target_seq_number => MessageStore.increment_target_seq_number s
  | .set_target_seq_number seq_number => MessageStore.set_target_seq_number seq_number s
  | .reset now => MessageStore.reset now s

/-- The arguments have 64 bits, and so has a count; a build that checks for overflow
    panics where it has not. -/
def Fits (s : S) : Operation → Prop
  | .add sequence_number _ => sequence_number < U64
  | .increment_sender_seq_number => next_sender_seq_number s < U64
  | .increment_target_seq_number => next_target_seq_number s < U64
  | .set_target_seq_number seq_number => seq_number < U64
  | .reset _ => True

end Operation

/-- The operations one after the other, none of which fails. -/
def Succeed {S : Type} [MessageStore S] : S → List Operation → S → Prop
  | s,[],t => s = t
  | s,operation :: rest,t => operation.Fits s ∧ ∃ s', operation.apply s = (.ok (),s') ∧ Succeed s' rest t

/-! ### The body -/

/-- The message stands in the body where its definition says. -/
def Stands (body : Bytes) (placed : MessageDef) (message : Bytes) : Prop :=
  ∃ front back, body = front ++ message ++ back ∧ placed = ⟨front.length,message.length⟩

theorem Stands.append {body message : Bytes} {placed : MessageDef} (stands : Stands body placed message) (more : Bytes) :
    Stands (body ++ more) placed message := by
  obtain ⟨front,back,rfl,rfl⟩ := stands
  exact ⟨front,back ++ more,List.append_assoc _ _ _,rfl⟩

section
variable {rfc : Rfc3339} {arith : Arith} {s s' : FileStore arith (Disk rfc)}

theorem Stands.read {placed : MessageDef} {message : Bytes} {d : Disk rfc} (stands : Stands d.body.written placed message) :
    Files.read_exact placed d = some message := by
  obtain ⟨front,back,body,rfl⟩ := stands
  have buffer : (d.body.written.drop front.length).take message.length = message := by
    rw [body,List.append_assoc,List.drop_left,List.take_left]
  show (if ((d.body.written.drop front.length).take message.length).length = message.length then _ else _) = _
  rw [buffer,if_pos rfl]

theorem file_max_lt : FILE_MAX < UInt64.size := by decide

theorem add_small {a b : Nat} (small : a + b ≤ FILE_MAX) : arith.add a b = a + b := by
  cases arith with
  | exact => rfl
  | wrapping => exact Nat.mod_eq_of_lt (Nat.lt_of_le_of_lt small file_max_lt)

/-- The counter stands at the end of the body, and nothing waits to be written. -/
structure Level (s : FileStore arith (Disk rfc)) : Prop where
  linked : s.files.body_linked = true
  flushed : s.files.body.pending = []
  offset : s.current_body_offset = s.files.body.written.length
  bounded : s.files.body.written.length ≤ FILE_MAX

theorem Level.all (level : Level s) : s.files.body.all = s.files.body.written := by
  rw [Appender.all,level.flushed,List.append_nil]

/-! ### What an operation leaves -/

/-- The store after a message has been added. -/
structure Added (sequence_number : Nat) (message : Bytes) (s s' : FileStore arith (Disk rfc)) : Prop where
  files : Disk.Appended sequence_number ⟨s.current_body_offset,message.length⟩ message s.files true s'.files
  sender : s'.sender_seq_number = s.sender_seq_number
  target : s'.target_seq_number = s.target_seq_number
  creation_time : s'.creation_time = s.creation_time
  index : s'.message_index = insert_def s.message_index (sequence_number,⟨s.current_body_offset,message.length⟩)
  offset : s'.current_body_offset = arith.add s.current_body_offset message.length

theorem add_ok {sequence_number : Nat} {message : Bytes} (done : add sequence_number message s = (.ok (),s')) :
    Added sequence_number message s s' := by
  have appended := Disk.append_message_appended sequence_number ⟨s.current_body_offset,message.length⟩ message s.files
  rcases FileStore.add_cases sequence_number message s with ⟨files,through,result⟩ | ⟨_,_,result⟩
  · rw [show Disk.append_message sequence_number ⟨s.current_body_offset,message.length⟩ message s.files = _ from through] at appended
    obtain ⟨_,rfl⟩ := Prod.mk.inj (done.symm.trans result)
    exact ⟨appended,rfl,rfl,rfl,rfl,rfl⟩
  · cases (Prod.mk.inj (done.symm.trans result)).1

theorem update_ok {sender target : Nat} (done : s.update_seqnums sender target = (.ok (),s')) :
    s' = { s with
      files := { s.files.called with seqnums := seqnums_text sender target }
      sender_seq_number := sender
      target_seq_number := target } := by
  rw [FileStore.update_seqnums] at done
  rw [show Files.write_seqnums_with = @Disk.write_seqnums_with rfc from rfl] at done
  rcases result : Disk.write_seqnums_with sender target s.files with ⟨_ | _,d⟩
  · rw [result] at done
    cases (Prod.mk.inj done).1
  · rw [result] at done
    obtain ⟨_,rfl⟩ := Prod.mk.inj done
    rw [Disk.write_seqnums_ok result]

/-- The store after a reset. -/
structure Fresh (now : DateTime) (s : FileStore arith (Disk rfc)) : Prop where
  body : s.files.body = ⟨[],[]⟩
  body_linked : s.files.body_linked = true
  header : s.files.header = ⟨[],[]⟩
  header_linked : s.files.header_linked = true
  seqnums : s.files.seqnums = []
  seqnums_linked : s.files.seqnums_linked = true
  session : s.files.session = some (rfc.to_rfc3339 now)
  sender : s.sender_seq_number = 0
  target : s.target_seq_number = 0
  creation_time : s.creation_time = now
  index : s.message_index = fun _ => none
  offset : s.current_body_offset = 0

theorem reset_fresh {now : DateTime} (done : reset now s = (.ok (),s')) : Fresh now s' := by
  simp only [reset,FileStore.perform_reset] at done
  rw [show Files.remove_files = @Disk.remove_files rfc from rfl,
    show Files.recreate_files = @Disk.recreate_files rfc from rfl] at done
  rcases removed : Disk.remove_files s.files with ⟨_ | _,d₁⟩
  · rw [removed] at done
    cases (Prod.mk.inj done).1
  · rw [removed] at done
    dsimp only at done
    rcases recreated : Disk.recreate_files now d₁ with ⟨_ | _,d₂⟩
    · rw [recreated] at done
      cases (Prod.mk.inj done).1
    · rw [recreated] at done
      obtain ⟨_,rfl⟩ := Prod.mk.inj done
      obtain ⟨body,body_linked,header,header_linked,seqnums,seqnums_linked,session⟩ := Disk.reset_ok removed recreated
      exact ⟨body,body_linked,header,header_linked,seqnums,seqnums_linked,session,rfl,rfl,rfl,rfl,rfl⟩

theorem new_fresh {faults : Nat → FileFaults} {now : DateTime} (opened : FileStore.new rfc faults now Directory.empty = .ok s) :
    Fresh now s := by
  rw [FileStore.new] at opened
  cases opened
  exact ⟨rfl,rfl,rfl,rfl,rfl,rfl,rfl,rfl,rfl,rfl,rfl,rfl⟩

theorem Fresh.level {now : DateTime} (fresh : Fresh now s) : Level s :=
  ⟨fresh.body_linked,by rw [fresh.body],by rw [fresh.body,fresh.offset]; rfl,by rw [fresh.body]; exact Nat.zero_le _⟩

/-- Adding a message keeps the counter at the end of the body. -/
theorem Added.level {sequence_number : Nat} {message : Bytes} (added : Added sequence_number message s s') (level : Level s) :
    Level s' ∧ s'.files.body.written = s.files.body.written ++ message := by
  have body := added.files.body rfl
  have fits := added.files.fits rfl
  rw [level.all] at body fits
  rw [List.length_append,← level.offset] at fits
  refine ⟨⟨added.files.body_linked.trans level.linked,by rw [body],?_,?_⟩,by rw [body]⟩
  · rw [added.offset,add_small fits,body,List.length_append,level.offset]
  · rw [body,List.length_append,← level.offset]
    exact fits

/-- The numbers in a line fit if the body does. -/
theorem entry_fits {sequence_number : Nat} {body message : Bytes} (small : sequence_number < U64)
    (fits : (body ++ message).length ≤ FILE_MAX) : EntryFits (sequence_number,⟨body.length,message.length⟩) := by
  have below := file_max_lt
  rw [List.length_append] at fits
  exact ⟨small,show body.length < UInt64.size by omega,show message.length < UInt64.size by omega⟩

theorem Added.entry_fits {sequence_number : Nat} {message : Bytes} (added : Added sequence_number message s s') (level : Level s)
    (small : sequence_number < U64) : EntryFits (sequence_number,⟨s.current_body_offset,message.length⟩) := by
  have fits := added.files.fits rfl
  rw [level.all] at fits
  rw [level.offset]
  exact Persistence.entry_fits small fits

end
/-! ### A store in an empty directory -/

namespace Sample

def epoch_text : Bytes := ascii "1970-01-01T00:00:00+00:00"

/-- The epoch as it is written; other instants by their nanoseconds. -/
def to_text : DateTime → Bytes
  | .ofNat 0 => epoch_text
  | .ofNat (n + 1) => 43 :: Decimal.decimal (n + 1)
  | .negSucc n => 45 :: Decimal.decimal (n + 1)

def of_text : Bytes → Option DateTime
  | 43 :: digits => some (Decimal.value digits)
  | 45 :: digits => some (-(Decimal.value digits))
  | text => if text = epoch_text then some 0 else none

theorem signed_trim {sign : UInt8} (visible : Text.is_whitespace sign = false) (n : Nat) :
    Text.trim (sign :: Decimal.decimal n) = sign :: Decimal.decimal n := by
  refine Text.trim_eq (fun byte first => ?_) (fun byte last => ?_)
  · cases first
    exact visible
  · rw [← List.singleton_append,List.getLast?_append_of_ne_nil _ (Decimal.decimal_ne_nil n)] at last
    exact Text.digit_visible (List.all_eq_true.mp (Decimal.decimal_digits n) byte (List.mem_of_mem_getLast? last))

theorem signed_utf8 {sign : UInt8} (small : sign.toNat < 128) (n : Nat) : valid_utf8 (sign :: Decimal.decimal n) = true := by
  refine valid_utf8_ascii (fun byte member => ?_)
  rcases List.mem_cons.mp member with rfl | digit
  · exact small
  · exact digit_small (List.all_eq_true.mp (Decimal.decimal_digits n) byte digit)

def epoch : Rfc3339 where
  to_rfc3339 := to_text
  parse := of_text
  utf8
    | .ofNat 0 => by decide +kernel
    | .ofNat (n + 1) => signed_utf8 (by decide) (n + 1)
    | .negSucc n => signed_utf8 (by decide) (n + 1)
  reads
    | .ofNat 0 => by decide +kernel
    | .ofNat (n + 1) => by
      rw [to_text,signed_trim (by decide),of_text,Decimal.value_decimal]
      rfl
    | .negSucc n => by
      rw [to_text,signed_trim (by decide),of_text,Decimal.value_decimal]
      rfl

def fresh : FileStore .exact (Disk epoch) where
  files := ⟨⟨[],[]⟩,true,⟨[],[]⟩,true,[],true,some epoch_text,fun _ => .none,0⟩
  sender_seq_number := 0
  target_seq_number := 0
  creation_time := 0
  message_index := fun _ => none
  current_body_offset := 0

theorem fresh_opened : FileStore.new epoch (fun _ => .none) 0 Directory.empty = .ok fresh := rfl

end Sample

/-! ### The store in memory -/

section
variable {rfc : Rfc3339} {arith : Arith} {s s' : FileStore arith (Disk rfc)} {m : InMemoryMessageStore arith}

/-- The files hold what the memory does, each message where the index says. -/
structure Mirrors (s : FileStore arith (Disk rfc)) (m : InMemoryMessageStore arith) : Prop where
  level : Level s
  sender : s.sender_seq_number = m.sender_seq_number
  target : s.target_seq_number = m.target_seq_number
  messages : ∀ n, s.message_index n = none ∧ m.messages n = none ∨
    ∃ placed message, s.message_index n = some placed ∧ m.messages n = some message ∧
      Stands s.files.body.written placed message

theorem Fresh.mirrors {now now' : DateTime} (fresh : Fresh now s) : Mirrors s (InMemoryMessageStore.new now') := by
  refine ⟨fresh.level,fresh.sender,fresh.target,fun n => .inl ⟨?_,rfl⟩⟩
  rw [fresh.index]

theorem Mirrors.added {sequence_number : Nat} {message : Bytes} (mirrors : Mirrors s m)
    (added : Added sequence_number message s s') : Mirrors s' (add sequence_number message m).2 := by
  obtain ⟨level,body⟩ := added.level mirrors.level
  refine ⟨level,added.sender.trans mirrors.sender,added.target.trans mirrors.target,fun n => ?_⟩
  rw [added.index,body]
  by_cases here : n = sequence_number
  · refine .inr ⟨⟨s.current_body_offset,message.length⟩,message,if_pos here,if_pos here,s.files.body.written,[],?_,?_⟩
    · rw [List.append_nil]
    · rw [mirrors.level.offset]
  · have index : insert_def s.message_index (sequence_number,⟨s.current_body_offset,message.length⟩) n = s.message_index n :=
      if_neg here
    have kept : (add sequence_number message m).2.messages n = m.messages n := if_neg here
    rw [index,kept]
    rcases mirrors.messages n with absent | ⟨placed,held,listed,stored,stands⟩
    · exact .inl absent
    · exact .inr ⟨placed,held,listed,stored,stands.append message⟩

/-- An update of the numbers leaves the messages alone. -/
theorem Mirrors.updated {sender target : Nat} (mirrors : Mirrors s m) (done : s.update_seqnums sender target = (.ok (),s')) :
    Mirrors s' { m with sender_seq_number := sender, target_seq_number := target } := by
  obtain rfl := update_ok done
  obtain ⟨linked,flushed,offset,bounded⟩ := mirrors.level
  exact ⟨⟨linked,flushed,offset,bounded⟩,rfl,rfl,mirrors.messages⟩

theorem Mirrors.apply {operation : Operation} (mirrors : Mirrors s m) (done : operation.apply s = (.ok (),s')) :
    Mirrors s' (operation.apply m).2 := by
  cases operation with
  | add sequence_number message => exact mirrors.added (add_ok done)
  | increment_sender_seq_number =>
    have updated := mirrors.updated done
    rw [mirrors.sender,mirrors.target] at updated
    exact updated
  | increment_target_seq_number =>
    have updated := mirrors.updated done
    rw [mirrors.sender,mirrors.target] at updated
    exact updated
  | set_target_seq_number seq_number =>
    have updated := mirrors.updated done
    rw [mirrors.sender] at updated
    exact updated
  | reset now => exact (reset_fresh done).mirrors

theorem Mirrors.read (mirrors : Mirrors s m) (numbers : List Nat) :
    (numbers.filterMap s.message_index).mapM (fun placed => Files.read_exact placed s.files) =
      some (numbers.filterMap m.messages) := by
  induction numbers with
  | nil => rfl
  | cons n rest ih =>
    rcases mirrors.messages n with ⟨unlisted,absent⟩ | ⟨placed,message,listed,stored,stands⟩
    · rw [List.filterMap_cons_none unlisted,List.filterMap_cons_none absent,ih]
    · rw [List.filterMap_cons_some listed,List.filterMap_cons_some stored,List.mapM_cons,stands.read,ih]
      rfl

theorem Mirrors.get_slice {first last : Nat} (mirrors : Mirrors s m) (order : first ≤ last) :
    MessageStore.get_slice first last s = MessageStore.get_slice first last m := by
  have opened : Files.open_body s.files = true := mirrors.level.linked
  simp only [MessageStore.get_slice,FileStore.read_messages,opened,if_true,mirrors.read,InMemoryMessageStore.get_slice]
  cases arith with
  | exact =>
    rw [FileStore.with_capacity,if_neg (by omega),if_neg (by omega)]
    rfl
  | wrapping =>
    rw [FileStore.with_capacity]
    by_cases large : (last + UInt64.size - first + 1) % UInt64.size * VEC_SIZE > ISIZE_MAX
    · simp only [if_pos large]
      rfl
    · simp only [if_neg large]
      rfl

/-- What the operations have stored in memory. -/
def stored (m : InMemoryMessageStore arith) (operations : List Operation) : InMemoryMessageStore arith :=
  operations.foldl (fun m operation => (operation.apply m).2) m

theorem Mirrors.run {operations : List Operation} : ∀ {s s' : FileStore arith (Disk rfc)} {m : InMemoryMessageStore arith},
    Mirrors s m → Succeed s operations s' → Mirrors s' (stored m operations) := by
  induction operations with
  | nil =>
    rintro s _ m mirrors rfl
    exact mirrors
  | cons operation rest ih =>
    rintro s s' m mirrors ⟨_,s₁,done,later⟩
    exact ih (mirrors.apply done) later

/-- A new store in files answers every request as a new store in memory does, after
    any operations. -/
theorem file_store_refines {faults : Nat → FileFaults} {now now' : DateTime} {operations : List Operation} {first last : Nat}
    (opened : FileStore.new rfc faults now Directory.empty = .ok s) (succeed : Succeed s operations s')
    (order : first ≤ last) :
    get_slice first last s' = get_slice first last (stored (InMemoryMessageStore.new now' : InMemoryMessageStore arith) operations) ∧
      numbers s' = numbers (stored (InMemoryMessageStore.new now' : InMemoryMessageStore arith) operations) := by
  have mirrors : Mirrors s' (stored (InMemoryMessageStore.new now' : InMemoryMessageStore arith) operations) :=
    (new_fresh opened).mirrors.run succeed
  refine ⟨mirrors.get_slice order,Prod.ext ?_ ?_⟩
  · exact congrArg (arith.add · 1) mirrors.sender
  · exact congrArg (arith.add · 1) mirrors.target

end

/-- A message is replaced, another is empty. -/
def overwriting : List Operation :=
  [.add 1 (ascii "a"),.add 1 (ascii "bc"),.add 2 [],.increment_sender_seq_number,.set_target_seq_number 4]

theorem overwriting_succeeds : ∃ s, Succeed Sample.fresh overwriting s := by
  refine ⟨_,?_,_,rfl,?_,_,rfl,?_,_,rfl,?_,_,rfl,?_,_,rfl,rfl⟩
  · exact (show 1 < U64 by decide)
  · exact (show 1 < U64 by decide)
  · exact (show 2 < U64 by decide)
  · exact (show 1 < U64 by decide)
  · exact (show 4 < U64 by decide)

theorem overwriting_refined : ∃ s, Succeed Sample.fresh overwriting s ∧
    get_slice 1 2 s = get_slice 1 2 (stored (InMemoryMessageStore.new 0 : InMemoryMessageStore .exact) overwriting) ∧
    numbers s = numbers (stored (InMemoryMessageStore.new 0 : InMemoryMessageStore .exact) overwriting) := by
  obtain ⟨s,succeed⟩ := overwriting_succeeds
  exact ⟨s,succeed,file_store_refines Sample.fresh_opened succeed (by decide)⟩

/-! ### Reopening -/

section
variable {rfc : Rfc3339} {arith : Arith} {s s' : FileStore arith (Disk rfc)}

/-- The files determine the store, but for the numbers: their file holds them or is
    empty. The header has one line for each entry of the log. -/
structure Steady (log : List (Nat × MessageDef)) (s : FileStore arith (Disk rfc)) : Prop where
  level : Level s
  header_linked : s.files.header_linked = true
  header_flushed : s.files.header.pending = []
  header : s.files.header.written = log.flatMap (fun entry => index_line entry ++ [10])
  entries : ∀ entry ∈ log, EntryFits entry
  index : s.message_index = log.foldl insert_def (fun _ => none)
  session : s.files.session = some (rfc.to_rfc3339 s.creation_time)
  seqnums_linked : s.files.seqnums_linked = true
  seqnums : s.files.seqnums = [] ∨ s.files.seqnums = seqnums_text s.sender_seq_number s.target_seq_number
  sender_fits : s.sender_seq_number < U64
  target_fits : s.target_seq_number < U64

theorem Fresh.steady {now : DateTime} (fresh : Fresh now s) : Steady [] s where
  level := fresh.level
  header_linked := fresh.header_linked
  header_flushed := by rw [fresh.header]
  header := by rw [fresh.header]; rfl
  entries := nofun
  index := fresh.index
  session := by rw [fresh.session,fresh.creation_time]
  seqnums_linked := fresh.seqnums_linked
  seqnums := .inl fresh.seqnums
  sender_fits := by rw [fresh.sender]; decide
  target_fits := by rw [fresh.target]; decide

theorem Steady.added {log : List (Nat × MessageDef)} {sequence_number : Nat} {message : Bytes} (steady : Steady log s)
    (small : sequence_number < U64) (added : Added sequence_number message s s') :
    Steady (log ++ [(sequence_number,⟨s.current_body_offset,message.length⟩)]) s' := by
  have fits := added.entry_fits steady.level small
  have line := added.files.header rfl
  rw [Appender.all,steady.header_flushed,List.append_nil,steady.header] at line
  refine ⟨(added.level steady.level).1,added.files.header_linked.trans steady.header_linked,by rw [line],?_,?_,?_,?_,
    added.files.seqnums_linked.trans steady.seqnums_linked,?_,?_,?_⟩
  · rw [line,List.flatMap_append,List.flatMap_cons,List.flatMap_nil,List.append_nil]
  · intro entry member
    rcases List.mem_append.mp member with earlier | last
    · exact steady.entries entry earlier
    · rw [List.mem_singleton.mp last]
      exact fits
  · rw [added.index,steady.index,List.foldl_append]
    rfl
  · rw [added.files.session,added.creation_time]
    exact steady.session
  · rw [added.files.seqnums,added.sender,added.target]
    exact steady.seqnums
  · rw [added.sender]
    exact steady.sender_fits
  · rw [added.target]
    exact steady.target_fits

theorem Steady.updated {log : List (Nat × MessageDef)} {sender target : Nat} (steady : Steady log s) (sender_fits : sender < U64)
    (target_fits : target < U64) (done : s.update_seqnums sender target = (.ok (),s')) :
    Steady log s' ∧ s'.files.seqnums = seqnums_text s'.sender_seq_number s'.target_seq_number := by
  obtain rfl := update_ok done
  obtain ⟨⟨linked,flushed,offset,bounded⟩,header_linked,header_flushed,header,entries,index,session,seqnums_linked,_⟩ := steady
  exact ⟨⟨⟨linked,flushed,offset,bounded⟩,header_linked,header_flushed,header,entries,index,session,seqnums_linked,.inr rfl,
    sender_fits,target_fits⟩,rfl⟩

theorem Steady.apply {log : List (Nat × MessageDef)} {operation : Operation} (steady : Steady log s) (fits : operation.Fits s)
    (done : operation.apply s = (.ok (),s')) : ∃ log', Steady log' s' := by
  cases operation with
  | add sequence_number message => exact ⟨_,steady.added fits (add_ok done)⟩
  | increment_sender_seq_number => exact ⟨log,(steady.updated fits steady.target_fits done).1⟩
  | increment_target_seq_number => exact ⟨log,(steady.updated steady.sender_fits fits done).1⟩
  | set_target_seq_number seq_number => exact ⟨log,(steady.updated steady.sender_fits fits done).1⟩
  | reset now => exact ⟨[],(reset_fresh done).steady⟩

/-- The numbers that the file of a steady store stands for. -/
def recorded (s : FileStore arith (Disk rfc)) : Nat × Nat :=
  if s.files.seqnums = [] then (0,0) else (s.sender_seq_number,s.target_seq_number)

theorem seqnums_text_some (sender target : Nat) : seqnums_text sender target ≠ [] := by
  intro empty
  rw [seqnums_text,List.append_assoc] at empty
  exact padded_some sender (List.append_eq_nil_iff.mp empty).1

theorem Steady.read_numbers {log : List (Nat × MessageDef)} (steady : Steady log s) :
    read_initial_seqnums (some s.files.seqnums) = some (recorded s) := by
  rw [recorded]
  rcases steady.seqnums with empty | text
  · rw [empty,if_pos rfl]
    rfl
  · rw [text,if_neg (seqnums_text_some _ _),read_seqnums steady.sender_fits steady.target_fits]

/-- The store is opened on the files of another: everything but the numbers is as it
    was. -/
structure Reopened (numbers : Nat × Nat) (s s' : FileStore arith (Disk rfc)) : Prop where
  creation_time : s'.creation_time = s.creation_time
  numbers : (s'.sender_seq_number,s'.target_seq_number) = numbers
  index : s'.message_index = s.message_index
  offset : s'.current_body_offset = s.current_body_offset
  body : s'.files.body = s.files.body
  body_linked : s'.files.body_linked = true
  header : s'.files.header = s.files.header
  header_linked : s'.files.header_linked = true
  seqnums : s'.files.seqnums = []
  seqnums_linked : s'.files.seqnums_linked = true
  session : s'.files.session = s.files.session

theorem Steady.opens {log : List (Nat × MessageDef)} {dir : Directory} {pair : Nat × Nat} (steady : Steady log s)
    (body : dir.body = some s.files.body.written) (header : dir.header = some s.files.header.written)
    (session : dir.session = s.files.session) (numbers : read_initial_seqnums dir.seqnums = some pair) (faults : Nat → FileFaults)
    (now : DateTime) : ∃ s' : FileStore arith (Disk rfc), FileStore.new rfc faults now dir = .ok s' ∧ Reopened pair s s' := by
  have time : get_or_create_session_time rfc now dir.session = some (s.creation_time,rfc.to_rfc3339 s.creation_time) := by
    rw [session,steady.session]
    exact session_read s.creation_time now
  have index : load_message_index (dir.header.getD []) = some s.message_index := by
    rw [header,Option.getD_some,steady.header,load_log steady.entries,steady.index]
  obtain ⟨s',opened,opens,session',_⟩ := FileStore.new_opens faults time numbers index
  refine ⟨s',opened,opens.creation_time,opens.numbers,opens.index,?_,?_,opens.body_linked,?_,opens.header_linked,opens.seqnums,
    opens.seqnums_linked,session'.trans steady.session.symm⟩
  · rw [opens.offset,body,Option.getD_some,steady.level.offset]
  · rw [opens.body,body,Option.getD_some,← steady.level.flushed]
  · rw [opens.header,header,Option.getD_some,← steady.header_flushed]

theorem Steady.reopened {log : List (Nat × MessageDef)} (steady : Steady log s) (faults : Nat → FileFaults) (now : DateTime) :
    ∃ s' : FileStore arith (Disk rfc), FileStore.new rfc faults now s.files.dropped = .ok s' ∧ Reopened (recorded s) s s' := by
  refine steady.opens ?_ ?_ rfl ?_ faults now
  · rw [Disk.dropped]
    dsimp only
    rw [steady.level.linked,steady.level.all]
    rfl
  · rw [Disk.dropped]
    dsimp only
    rw [steady.header_linked,Appender.all,steady.header_flushed,List.append_nil]
    rfl
  · rw [Disk.dropped]
    dsimp only
    rw [steady.seqnums_linked]
    exact steady.read_numbers

theorem recorded_fits {log : List (Nat × MessageDef)} (steady : Steady log s) : (recorded s).1 < U64 ∧ (recorded s).2 < U64 := by
  rw [recorded]
  split_ifs
  · decide
  · exact ⟨steady.sender_fits,steady.target_fits⟩

theorem Reopened.steady {log : List (Nat × MessageDef)} (reopened : Reopened (recorded s) s s') (steady : Steady log s) : Steady log s' := by
  have fits := recorded_fits steady
  rw [← reopened.numbers] at fits
  refine ⟨⟨reopened.body_linked,?_,?_,?_⟩,reopened.header_linked,?_,?_,steady.entries,?_,?_,reopened.seqnums_linked,
    .inl reopened.seqnums,fits.1,fits.2⟩
  · rw [reopened.body]
    exact steady.level.flushed
  · rw [reopened.body,reopened.offset]
    exact steady.level.offset
  · rw [reopened.body]
    exact steady.level.bounded
  · rw [reopened.header]
    exact steady.header_flushed
  · rw [reopened.header]
    exact steady.header
  · rw [reopened.index]
    exact steady.index
  · rw [reopened.session,reopened.creation_time]
    exact steady.session

/-- Stores that a run of operations and reopenings leads to, without a failure. -/
inductive Reached (rfc : Rfc3339) (arith : Arith) : FileStore arith (Disk rfc) → Prop where
  | opened {faults : Nat → FileFaults} {now : DateTime} {s : FileStore arith (Disk rfc)}
      (fresh : FileStore.new rfc faults now Directory.empty = .ok s) : Reached rfc arith s
  | applied {s s' : FileStore arith (Disk rfc)} (operation : Operation) (before : Reached rfc arith s) (fits : operation.Fits s)
    (done : operation.apply s = (.ok (),s')) : Reached rfc arith s'
  | reopened {faults : Nat → FileFaults} {now : DateTime} {s s' : FileStore arith (Disk rfc)} (before : Reached rfc arith s)
    (again : FileStore.new rfc faults now s.files.dropped = .ok s') : Reached rfc arith s'

theorem Reached.steady (reached : Reached rfc arith s) : ∃ log, Steady log s := by
  induction reached with
  | opened fresh => exact ⟨[],(new_fresh fresh).steady⟩
  | applied operation _ fits done ih =>
    obtain ⟨log,steady⟩ := ih
    exact steady.apply fits done
  | @reopened faults now s s' _ again ih =>
    obtain ⟨log,steady⟩ := ih
    obtain ⟨t,opened,reopened⟩ := steady.reopened faults now
    obtain rfl : s' = t := Except.ok.inj (again.symm.trans opened)
    exact ⟨log,reopened.steady steady⟩

/-- The stores answer alike. -/
structure Alike (s s' : FileStore arith (Disk rfc)) : Prop where
  sender : next_sender_seq_number s' = next_sender_seq_number s
  target : next_target_seq_number s' = next_target_seq_number s
  creation_time : creation_time s' = creation_time s
  slices : ∀ first last, get_slice first last s' = get_slice first last s

theorem add_one_inj {a b : Nat} (a_fits : a < U64) (b_fits : b < U64) (same : arith.add a 1 = arith.add b 1) : a = b := by
  cases arith with
  | exact => exact Nat.succ.inj same
  | wrapping =>
    have bound : U64 = 18446744073709551616 := rfl
    have size : UInt64.size = 18446744073709551616 := rfl
    simp only [Arith.add,size] at same
    rw [bound] at a_fits b_fits
    omega

theorem Reopened.alike_iff {log : List (Nat × MessageDef)} (reopened : Reopened (recorded s) s s') (steady : Steady log s) :
    Alike s s' ↔ s.files.seqnums ≠ [] ∨ s.sender_seq_number = 0 ∧ s.target_seq_number = 0 := by
  have slices (first last : Nat) : get_slice first last s' = get_slice first last s := by
    have body_opened : Files.open_body s'.files = Files.open_body s.files := reopened.body_linked.trans steady.level.linked.symm
    have read : (fun placed => Files.read_exact placed s'.files) = (fun placed => Files.read_exact placed s.files) := by
      funext placed
      show (if ((s'.files.body.written.drop placed.offset).take placed.size).length = placed.size then _ else _) = _
      rw [reopened.body]
      rfl
    simp only [get_slice,FileStore.read_messages,reopened.index,body_opened,read]
  have same_numbers : Alike s s' ↔ recorded s = (s.sender_seq_number,s.target_seq_number) := by
    rw [← reopened.numbers,Prod.mk.injEq]
    constructor
    · intro alike
      have fits := recorded_fits steady
      rw [← reopened.numbers] at fits
      exact ⟨add_one_inj fits.1 steady.sender_fits alike.sender,add_one_inj fits.2 steady.target_fits alike.target⟩
    · rintro ⟨sender,target⟩
      exact ⟨congrArg (arith.add · 1) sender,congrArg (arith.add · 1) target,reopened.creation_time,slices⟩
  rw [same_numbers,recorded]
  split_ifs with empty
  · rw [Prod.mk.injEq]
    simp only [empty,ne_eq,not_true_eq_false,false_or]
    exact and_congr eq_comm eq_comm
  · simp [empty]

/-- Whatever a run of operations and reopenings has led to, the store that is opened
    on the files answers as the one that was dropped, if and only if its numbers have
    been written since it was opened or are both zero. -/
theorem reopening_transparent_iff (reached : Reached rfc arith s) (faults : Nat → FileFaults) (now : DateTime) :
    ∃ s' : FileStore arith (Disk rfc), FileStore.new rfc faults now s.files.dropped = .ok s' ∧
      (Alike s s' ↔ s.files.seqnums ≠ [] ∨ s.sender_seq_number = 0 ∧ s.target_seq_number = 0) := by
  obtain ⟨log,steady⟩ := reached.steady
  obtain ⟨s',opened,reopened⟩ := steady.reopened faults now
  exact ⟨s',opened,reopened.alike_iff steady⟩

end

/-- The store after it has counted a message. -/
def Sample.counted : FileStore .exact (Disk epoch) := (Operation.apply Sample.fresh .increment_sender_seq_number).2

theorem Sample.counted_reached : Reached Sample.epoch .exact Sample.counted :=
  .applied .increment_sender_seq_number (.opened Sample.fresh_opened)
    (show next_sender_seq_number Sample.fresh < U64 by decide) rfl

theorem counted_transparent : ∃ s', FileStore.new Sample.epoch (fun _ => .none) 0 Sample.counted.files.dropped = .ok s' ∧
    Alike Sample.counted s' := by
  obtain ⟨s',opened,alike⟩ := reopening_transparent_iff Sample.counted_reached (fun _ => .none) 0
  exact ⟨s',opened,alike.mpr (.inl (by decide +kernel))⟩

/-- A store that is opened twice without counting in between starts over. -/
theorem reopened_twice : ¬ ∀ s : FileStore .exact (Disk Sample.epoch), Reached Sample.epoch .exact s → ∀ faults now s',
    FileStore.new Sample.epoch faults now s.files.dropped = .ok s' → Alike s s' := by
  intro always
  obtain ⟨log,steady⟩ := Sample.counted_reached.steady
  obtain ⟨s₁,opened₁,reopened₁⟩ := steady.reopened (fun _ => .none) 0
  have steady₁ := reopened₁.steady steady
  obtain ⟨s₂,opened₂,reopened₂⟩ := steady₁.reopened (fun _ => .none) 0
  have alike := always s₁ (.reopened Sample.counted_reached opened₁) _ _ s₂ opened₂
  have numbers : (s₁.sender_seq_number,s₁.target_seq_number) = (1,0) := reopened₁.numbers.trans (by decide +kernel)
  rcases (reopened₂.alike_iff steady₁).mp alike with text | ⟨zero,_⟩
  · exact text reopened₁.seqnums
  · rw [(Prod.mk.inj numbers).1] at zero
    cases zero

end HotFix.Persistence
