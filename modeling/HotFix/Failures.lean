import HotFix.Persistence

/-!
The store in files when a call fails or the process stops. A message that was handed
to the body stays there, in the file or in its buffer, although its call fails: the
counter falls behind the body, and the next message is looked up where the lost one
stands. The numbers are rewritten in place: a stop in between leaves an empty file or
a part of the text.
-/
namespace HotFix.Failures
open MessageStore HotFix.Persistence

section
variable {rfc : Rfc3339} {arith : Arith} {s s' : FileStore arith (Disk rfc)}

/-! ### Calls that may fail -/

/-- The store after a call that has failed. -/
structure NotAdded (sequence_number : Nat) (message : Bytes) (s s' : FileStore arith (Disk rfc)) : Prop where
  files : Disk.Appended sequence_number ⟨s.current_body_offset,message.length⟩ message s.files false s'.files
  index : s'.message_index = s.message_index
  offset : s'.current_body_offset = s.current_body_offset

/-- The bytes that the body has from the counter on, in its file or in its buffer. -/
def behind (s : FileStore arith (Disk rfc)) : Bytes := s.files.body.all.drop s.current_body_offset

/-- The counter may have fallen behind the body. -/
structure Lagging (s : FileStore arith (Disk rfc)) : Prop where
  linked : s.files.body_linked = true
  offset : s.current_body_offset ≤ s.files.body.all.length

theorem Lagging.failed {sequence_number : Nat} {message : Bytes} (lagging : Lagging s)
    (failed : NotAdded sequence_number message s s') : Lagging s' := by
  obtain ⟨part,_,taken⟩ := failed.files.taken
  refine ⟨failed.files.body_linked.trans lagging.linked,?_⟩
  rw [failed.offset,taken,List.length_append]
  have offset := lagging.offset
  omega

theorem Lagging.added {sequence_number : Nat} {message : Bytes} (lagging : Lagging s)
    (added : Added sequence_number message s s') : Lagging s' := by
  have fits := added.files.fits rfl
  have offset := lagging.offset
  refine ⟨added.files.body_linked.trans lagging.linked,?_⟩
  rw [List.length_append] at fits
  rw [added.offset,add_small (by omega),added.files.body rfl,Appender.all,List.append_nil,List.length_append]
  omega

/-- The messages of one number: none or one. -/
theorem slice_one (linked : s.files.body_linked = true) (n : Nat) :
    get_slice n n s = ((s.message_index n).toList.mapM (fun placed => Files.read_exact placed s.files)).elim
      (.error (.Error (.RetrieveMessages n n))) .ok := by
  have opened : Files.open_body s.files = true := linked
  have room : FileStore.with_capacity arith n n = .ok () := by
    cases arith with
    | exact => rw [FileStore.with_capacity,if_neg (Nat.lt_irrefl n)]
    | wrapping =>
      have one : (n + UInt64.size - n + 1) % UInt64.size = 1 := by
        rw [Nat.add_sub_cancel_left,Nat.add_mod_left]
        rfl
      rw [FileStore.with_capacity,one,if_neg (by decide)]
  have range : List.range' n (n + 1 - n) = [n] := by
    rw [Nat.add_sub_cancel_left]
    rfl
  have listed : [n].filterMap s.message_index = (s.message_index n).toList := by
    cases found : s.message_index n with
    | none => rw [List.filterMap_cons_none found]; rfl
    | some placed => rw [List.filterMap_cons_some found]; rfl
  simp only [get_slice,FileStore.read_messages,room,opened,if_true,range,listed]
  cases (s.message_index n).toList.mapM (fun placed => Files.read_exact placed s.files) with
  | none => rfl
  | some messages => rfl

/-- What is read back of a number. -/
theorem read_number {n : Nat} {placed : MessageDef} {buffer : Bytes} (linked : s.files.body_linked = true)
    (listed : s.message_index n = some placed) (read : Files.read_exact placed s.files = some buffer) :
    get_slice n n s = .ok [buffer] := by
  rw [slice_one linked,listed,Option.toList_some,List.mapM_cons,read]
  rfl

theorem read_unlisted {n : Nat} (linked : s.files.body_linked = true) (unlisted : s.message_index n = none) :
    get_slice n n s = .ok [] := by
  rw [slice_one linked,unlisted]
  rfl

/-- A message that was added is looked up from the counter on. -/
theorem Added.read_back {sequence_number : Nat} {message : Bytes} (lagging : Lagging s)
    (added : Added sequence_number message s s') :
    get_slice sequence_number sequence_number s' = .ok [(behind s ++ message).take message.length] := by
  have body := added.files.body rfl
  have listed : s'.message_index sequence_number = some ⟨s.current_body_offset,message.length⟩ := by
    rw [added.index]
    exact if_pos rfl
  refine read_number (added.files.body_linked.trans lagging.linked) listed ?_
  have buffer : (s'.files.body.written.drop s.current_body_offset).take message.length =
      (behind s ++ message).take message.length := by
    rw [body,behind,List.drop_append_of_le_length lagging.offset]
  show (if ((s'.files.body.written.drop s.current_body_offset).take message.length).length = message.length then _ else _) = _
  rw [buffer,if_pos]
  rw [List.length_take,List.length_append]
  omega

/-! ### Sequences of calls -/

/-- A call of `add`, and the bytes of the last call that succeeded for each number. -/
def call (state : FileStore arith (Disk rfc) × (Nat → Option Bytes)) (argument : Nat × Bytes) :
    FileStore arith (Disk rfc) × (Nat → Option Bytes) :=
  match add argument.1 argument.2 state.1 with
  | (.ok (),s) => (s,fun n => if n = argument.1 then some argument.2 else state.2 n)
  | (.error _,s) => (s,state.2)

def calls (s : FileStore arith (Disk rfc)) (arguments : List (Nat × Bytes)) :
    FileStore arith (Disk rfc) × (Nat → Option Bytes) :=
  arguments.foldl call (s,fun _ => none)

/-- Every number is read back as the bytes of the last call that succeeded for it. -/
def ReadsBack (state : FileStore arith (Disk rfc) × (Nat → Option Bytes)) : Prop :=
  ∀ n message, state.2 n = some message → get_slice n n state.1 = .ok [message]

/-- The bytes of every number stand where the index says. -/
structure Kept (state : FileStore arith (Disk rfc) × (Nat → Option Bytes)) : Prop where
  lagging : Lagging state.1
  stands : ∀ n message, state.2 n = some message →
    ∃ placed, state.1.message_index n = some placed ∧ Stands state.1.files.body.written placed message

theorem Kept.readsBack {state : FileStore arith (Disk rfc) × (Nat → Option Bytes)} (kept : Kept state) : ReadsBack state := by
  intro n message latest
  obtain ⟨placed,listed,stands⟩ := kept.stands n message latest
  exact read_number kept.lagging.linked listed stands.read

theorem Stands.grows {body body' message : Bytes} {placed : MessageDef} (stands : Stands body placed message)
    (grows : body <+: body') : Stands body' placed message := by
  obtain ⟨more,rfl⟩ := grows
  exact stands.append more

/-- The message would be read back if it were added: what the body has from the
    counter on, followed by the message, starts with the message. -/
def Placeable (s : FileStore arith (Disk rfc)) (message : Bytes) : Prop := message <+: behind s ++ message

/-- The file operations of the call all succeed. -/
def goes_through (s : FileStore arith (Disk rfc)) (argument : Nat × Bytes) : Bool :=
  (Files.append_message argument.1 ⟨s.current_body_offset,argument.2.length⟩ argument.2 s.files).1

/-- A call is added if its file operations succeed. -/
theorem call_cases (state : FileStore arith (Disk rfc) × (Nat → Option Bytes)) (argument : Nat × Bytes) :
    goes_through state.1 argument = true ∧ Added argument.1 argument.2 state.1 (call state argument).1 ∧
      (call state argument).2 = (fun n => if n = argument.1 then some argument.2 else state.2 n) ∨
    goes_through state.1 argument = false ∧ NotAdded argument.1 argument.2 state.1 (call state argument).1 ∧
      (call state argument).2 = state.2 := by
  have appended := Disk.append_message_appended argument.1 ⟨state.1.current_body_offset,argument.2.length⟩ argument.2 state.1.files
  rcases FileStore.add_cases argument.1 argument.2 state.1 with ⟨files,through,result⟩ | ⟨files,refused,result⟩
  · rw [call,result]
    exact .inl ⟨congrArg Prod.fst through,add_ok result,rfl⟩
  · rw [show Disk.append_message argument.1 _ argument.2 state.1.files = _ from refused] at appended
    rw [call,result]
    exact .inr ⟨congrArg Prod.fst refused,⟨appended,rfl,rfl⟩,rfl⟩

theorem Lagging.call {state : FileStore arith (Disk rfc) × (Nat → Option Bytes)} (argument : Nat × Bytes)
    (lagging : Lagging state.1) : Lagging (call state argument).1 := by
  rcases call_cases state argument with ⟨_,added,_⟩ | ⟨_,failed,_⟩
  · exact lagging.added added
  · exact lagging.failed failed

theorem Kept.call {state : FileStore arith (Disk rfc) × (Nat → Option Bytes)} {argument : Nat × Bytes} (kept : Kept state)
    (placeable : goes_through state.1 argument = true → Placeable state.1 argument.2) : Kept (call state argument) := by
  refine ⟨kept.lagging.call argument,fun k held latest => ?_⟩
  rcases call_cases state argument with ⟨through,added,recent⟩ | ⟨_,failed,recent⟩
  · rw [recent] at latest
    dsimp only at latest
    rw [added.index]
    by_cases here : k = argument.1
    · -- the new message stands at the counter
      rw [if_pos here] at latest
      cases latest
      refine ⟨_,if_pos here,?_⟩
      obtain ⟨back,split⟩ := placeable through
      refine ⟨(state.1.files.body.all ++ argument.2).take state.1.current_body_offset,back,?_,?_⟩
      · rw [added.files.body rfl,List.append_assoc,split,behind,← List.drop_append_of_le_length kept.lagging.offset,
          List.take_append_drop]
      · rw [List.length_take,List.length_append,Nat.min_eq_left (Nat.le_add_right_of_le kept.lagging.offset)]
    · rw [if_neg here] at latest
      obtain ⟨placed,listed,stands⟩ := kept.stands k held latest
      exact ⟨placed,(if_neg here).trans listed,Stands.grows stands added.files.grows⟩
  · rw [recent] at latest
    rw [failed.index]
    obtain ⟨placed,listed,stands⟩ := kept.stands k held latest
    exact ⟨placed,listed,Stands.grows stands failed.files.grows⟩

theorem calls_last (s : FileStore arith (Disk rfc)) (before : List (Nat × Bytes)) (argument : Nat × Bytes) :
    calls s (before ++ [argument]) = call (calls s before) argument := by
  rw [calls,List.foldl_append]
  rfl

theorem Lagging.calls (lagging : Lagging s) (arguments : List (Nat × Bytes)) : Lagging (calls s arguments).1 := by
  induction arguments using List.reverseRecOn with
  | nil => exact lagging
  | append_singleton before argument ih =>
    rw [calls_last]
    exact ih.call argument

/-- Every message whose file operations succeed is placeable then. -/
def AllPlaceable (s : FileStore arith (Disk rfc)) (arguments : List (Nat × Bytes)) : Prop :=
  ∀ before argument after, arguments = before ++ argument :: after →
    goes_through (calls s before).1 argument = true → Placeable (calls s before).1 argument.2

theorem Kept.calls (lagging : Lagging s) {arguments : List (Nat × Bytes)} (placeable : AllPlaceable s arguments) :
    ∀ before after, arguments = before ++ after → Kept (calls s before) := by
  intro before
  induction before using List.reverseRecOn with
  | nil => exact fun _ _ => ⟨lagging,nofun⟩
  | append_singleton before argument ih =>
    intro after split
    rw [List.append_assoc,List.singleton_append] at split
    rw [calls_last]
    exact (ih (argument :: after) split).call (placeable before argument after split)

/-- Whichever file operations fail: after each call every number is read back as the
    bytes of the last call that succeeded for it, if and only if every message whose
    file operations succeed is placeable where the counter stands then. -/
theorem adds_read_back_iff (reached : Reached rfc arith s) (arguments : List (Nat × Bytes)) :
    (∀ before after, arguments = before ++ after → ReadsBack (calls s before)) ↔ AllPlaceable s arguments := by
  obtain ⟨log,steady⟩ := reached.steady
  have lagging : Lagging s := ⟨steady.level.linked,by rw [steady.level.all,steady.level.offset]⟩
  constructor
  · intro reads before argument after split through
    have back := reads (before ++ [argument]) after (by rw [split,List.append_assoc]; rfl)
    rw [calls_last] at back
    rcases call_cases (calls s before) argument with ⟨_,added,recent⟩ | ⟨refused,_,_⟩
    · have read := back argument.1 argument.2 (by rw [recent]; exact if_pos rfl)
      rw [Added.read_back (lagging.calls before) added] at read
      obtain ⟨same,_⟩ := List.cons.inj (Except.ok.inj read)
      exact List.prefix_iff_eq_take.mpr same.symm
    · rw [refused] at through
      cases through
  · intro placeable before after split
    exact (Kept.calls lagging placeable before after split).readsBack

end

/-- The line of the first message cannot be written. -/
def Sample.first_lost : Nat → FileFaults
  | 0 => { FileFaults.none with header_flush := some 0 }
  | _ + 1 => .none

def Sample.failing : FileStore .exact (Disk Sample.epoch) :=
  { Sample.fresh with files := { Sample.fresh.files with faults := Sample.first_lost } }

theorem Sample.failing_reached : Reached Sample.epoch .exact Sample.failing :=
  .opened (show FileStore.new Sample.epoch Sample.first_lost 0 Directory.empty = .ok Sample.failing from rfl)

/-- A message that is added again after the failure. -/
def Sample.again : List (Nat × Bytes) := [(1,ascii "ab"),(1,ascii "ab")]

theorem again_placeable : AllPlaceable Sample.failing Sample.again := by
  have refused : goes_through (calls Sample.failing []).1 (1,ascii "ab") = false := by decide +kernel
  have repeated : behind (calls Sample.failing [(1,ascii "ab")]).1 = ascii "ab" := by decide +kernel
  intro before argument after split through
  rcases before with _ | ⟨first,_ | ⟨second,before⟩⟩
  · obtain ⟨rfl,_⟩ := List.cons.inj split
    rw [refused] at through
    cases through
  · obtain ⟨rfl,rest⟩ := List.cons.inj split
    obtain ⟨rfl,_⟩ := List.cons.inj rest
    rw [Placeable,repeated]
    exact List.prefix_append _ _
  · have lengths := congrArg List.length split
    simp [Sample.again] at lengths

theorem again_read_back : goes_through Sample.failing (1,ascii "ab") = false ∧ AllPlaceable Sample.failing Sample.again ∧
    get_slice 1 1 (calls Sample.failing Sample.again).1 = .ok [ascii "ab"] := by
  refine ⟨by decide +kernel,again_placeable,?_⟩
  have reads := (adds_read_back_iff Sample.failing_reached Sample.again).mpr again_placeable
  exact reads Sample.again [] (List.append_nil _).symm 1 (ascii "ab") rfl

/-- The second message is read back as the first, which was not added. -/
theorem lost_message_read : ¬ ∀ s : FileStore .exact (Disk Sample.epoch), Reached Sample.epoch .exact s →
    ∀ arguments before after, arguments = before ++ after → ReadsBack (calls s before) := by
  intro always
  have reads := always Sample.failing Sample.failing_reached [(1,ascii "ab"),(2,ascii "cd")] _ [] (List.append_nil _).symm
  have second : get_slice 2 2 (calls Sample.failing [(1,ascii "ab"),(2,ascii "cd")]).1 = .ok [ascii "cd"] :=
    reads 2 (ascii "cd") rfl
  have first : get_slice 2 2 (calls Sample.failing [(1,ascii "ab"),(2,ascii "cd")]).1 = .ok [ascii "ab"] := rfl
  have same := Except.ok.inj (first.symm.trans second)
  exact absurd same (by decide)

/-! ### A part of the numbers -/

theorem read_refused {content : Bytes} (filled : Text.trim content ≠ []) (refused : parse_seqnums content = none) :
    read_initial_seqnums (some content) = none := by
  rw [read_initial_seqnums,if_neg filled,refused,ite_self]

section
open Decimal
variable {digits space : Bytes} (all : digits.all isDigit = true) (some_digit : digits ≠ [])
  (blank : ∀ byte ∈ space, Text.is_whitespace byte = true)
include all some_digit blank

/-- One number, before the colon has been written. -/
theorem read_digits : read_initial_seqnums (some (digits ++ space)) = none := by
  have first (byte : UInt8) (head : byte ∈ digits.head?) : Text.is_whitespace byte = false :=
    Text.digit_visible (List.all_eq_true.mp all byte (List.mem_of_mem_head? head))
  have trimmed : Text.trim (digits ++ space) = digits := by rw [Text.trim_append_right blank first,Text.trim_digits all]
  have uncut : (58 : UInt8) ∉ digits := fun member => absurd (List.all_eq_true.mp all _ member) (by decide)
  refine read_refused (by rw [trimmed]; exact some_digit) ?_
  rw [parse_seqnums,trimmed,List.splitOn_eq_singleton uncut]
  rfl

/-- One number and the colon, before the other has been started. -/
theorem read_colon : read_initial_seqnums (some (digits ++ [32,58] ++ space)) = none := by
  have first (byte : UInt8) (head : byte ∈ (digits ++ [32,58]).head?) : Text.is_whitespace byte = false := by
    rw [List.head?_append_of_ne_nil _ some_digit] at head
    exact Text.digit_visible (List.all_eq_true.mp all byte (List.mem_of_mem_head? head))
  have last (byte : UInt8) (back : byte ∈ (digits ++ [32,58]).getLast?) : Text.is_whitespace byte = false := by
    rw [List.getLast?_append_of_ne_nil _ (by decide)] at back
    cases back
    decide
  have trimmed : Text.trim (digits ++ [32,58] ++ space) = digits ++ [32] ++ 58 :: [] := by
    rw [Text.trim_append_right blank first,Text.trim_eq first last,List.append_assoc]
    rfl
  have uncut : (58 : UInt8) ∉ digits ++ [32] := by
    rw [List.mem_append]
    rintro (member | member)
    · exact absurd (List.all_eq_true.mp all _ member) (by decide)
    · exact absurd member (by decide)
  refine read_refused (by rw [trimmed]; exact List.append_ne_nil_of_right_ne_nil _ (List.cons_ne_nil _ _)) ?_
  rw [parse_seqnums,trimmed,List.splitOn_append_cons_self_of_not_mem uncut]
  simp only [List.splitOn_nil,List.map_cons,List.map_nil]
  rw [show parseBelow U64 (Text.trim []) = none from rfl]
  cases parseBelow U64 (Text.trim (digits ++ [32])) with
  | none => rfl
  | some sender => rfl

end

theorem length_number {n : Nat} (fits : n < U64) : (Decimal.padded 20 n).length = 20 := by
  have below : U64 < 10^20 := by decide
  exact Decimal.length_padded (by decide) (Nat.lt_trans fits below)

/-- The digits of the second number that have been written are read as a number. -/
theorem read_pair {sender target count : Nat} (sender_fits : sender < U64) (target_fits : target < U64) (positive : 0 < count) :
    read_initial_seqnums (some (Decimal.padded 20 sender ++ (ascii " : " ++ (Decimal.padded 20 target).take count))) =
      some (sender,target / 10^(20 - count)) := by
  have sender_digits := Decimal.padded_digits 20 sender
  have target_digits := Decimal.padded_digits 20 target
  have shown_digits := Decimal.take_digits target_digits count
  have shown_some : (Decimal.padded 20 target).take count ≠ [] := by
    rw [ne_eq,List.take_eq_nil_iff]
    exact not_or_intro (by omega) (padded_some target)
  rw [← List.append_assoc,parse_pair sender_digits shown_digits (padded_some sender) shown_some,
    Decimal.parseBelow_digits sender_digits (padded_some sender),Decimal.parseBelow_digits shown_digits shown_some,
    Decimal.value_padded,Decimal.value_take target_digits,Decimal.value_padded,length_number target_fits,if_pos sender_fits,
    if_pos (Nat.lt_of_le_of_lt (Nat.div_le_self _ _) target_fits)]
  rfl

/-- What the first bytes of the numbers are read as. The empty text stands for zeros,
    and a text is accepted from the first digit of the second number on. -/
theorem read_part {sender target : Nat} (sender_fits : sender < U64) (target_fits : target < U64) (count : Nat) :
    read_initial_seqnums (some ((seqnums_text sender target).take count)) =
      if count = 0 then some (0,0) else if count < 24 then none else some (sender,target / 10^(43 - count)) := by
  have length := length_number sender_fits
  have colon : (ascii " : ").length = 3 := rfl
  have digits := Decimal.padded_digits 20 sender
  by_cases empty : count = 0
  · rw [if_pos empty,empty]
    rfl
  rw [if_neg empty,seqnums_text,List.append_assoc]
  by_cases within : count ≤ 20
  · rw [if_pos (by omega),List.take_append_of_le_length (by omega),← List.append_nil (List.take _ _)]
    refine read_digits (Decimal.take_digits digits count) ?_ (List.forall_mem_nil _)
    rw [ne_eq,List.take_eq_nil_iff]
    exact not_or_intro empty (padded_some sender)
  obtain ⟨more,rfl⟩ : ∃ more, count = (Decimal.padded 20 sender).length + more := ⟨count - 20,by omega⟩
  rw [List.take_length_add_append]
  by_cases before : more ≤ 3
  · rw [if_pos (by omega),List.take_append_of_le_length (by omega)]
    obtain rfl | rfl | rfl : more = 1 ∨ more = 2 ∨ more = 3 := by omega
    · exact read_digits digits (padded_some sender) Text.blank_space
    · rw [← List.append_nil (_ ++ _)]
      exact read_colon digits (padded_some sender) (List.forall_mem_nil _)
    · rw [show (ascii " : ").take 3 = [32,58] ++ [32] from rfl,← List.append_assoc]
      exact read_colon digits (padded_some sender) Text.blank_space
  · obtain ⟨shown,rfl⟩ : ∃ shown, more = (ascii " : ").length + shown := ⟨more - 3,by omega⟩
    rw [if_neg (by omega),List.take_length_add_append,read_pair sender_fits target_fits (by omega),length,colon,
      show 43 - (20 + (3 + shown)) = 20 - shown by omega]

/-! ### A stop while the numbers are written -/

/-- What is left in the number file by the first steps of an update. -/
def left (sender target steps : Nat) (content : Bytes) : Bytes :=
  Steps.run ((Disk.seqnums_steps sender target).take steps) content

/-- Before the file is truncated it is as it was. -/
theorem left_early {sender target steps : Nat} (early : steps ≤ 1) (content : Bytes) : left sender target steps content = content := by
  obtain rfl | rfl : steps = 0 ∨ steps = 1 := by omega
  · rfl
  · rfl

theorem left_part (sender target count : Nat) (content : Bytes) :
    left sender target (count + 2) content = (seqnums_text sender target).take count := by
  have flushed (n : Nat) (content : Bytes) : Steps.run (([id] : List (Bytes → Bytes)).take n) content = content := by
    cases n with
    | zero => rfl
    | succ n =>
      rw [List.take_succ_cons,List.take_nil]
      rfl
  have steps : (Disk.seqnums_steps sender target).take (count + 2) = [id,fun _ => []] ++
      (((seqnums_text sender target).take count).map (fun byte content => content ++ [byte]) ++
        ([id] : List (Bytes → Bytes)).take (count - (seqnums_text sender target).length)) := by
    rw [Disk.seqnums_steps,List.append_assoc,Nat.add_comm,show 2 = ([id,fun _ => []] : List (Bytes → Bytes)).length from rfl,
      List.take_length_add_append,List.take_append,List.length_map,List.map_take]
  rw [left,steps,Steps.run,List.foldl_append,List.foldl_append]
  exact (flushed _ _).trans (Disk.run_seqnums_text _ [])

section
variable {rfc : Rfc3339} {arith : Arith}

/-- The other files can be read. -/
def Readable (rfc : Rfc3339) (now : DateTime) (dir : Directory) : Prop :=
  get_or_create_session_time rfc now dir.session ≠ none ∧ load_message_index (dir.header.getD []) ≠ none

/-- A store can be opened if all its files can be read. -/
theorem opens_iff {faults : Nat → FileFaults} {now : DateTime} {dir : Directory} (accepted : Nat × Nat → Prop) :
    (∃ s : FileStore arith (Disk rfc), FileStore.new rfc faults now dir = .ok s ∧
      accepted (s.sender_seq_number,s.target_seq_number)) ↔
    Readable rfc now dir ∧ ∃ pair, read_initial_seqnums dir.seqnums = some pair ∧ accepted pair := by
  rw [Readable]
  simp only [FileStore.new]
  cases get_or_create_session_time rfc now dir.session with
  | none => simp
  | some session =>
    cases load_message_index (dir.header.getD []) with
    | none => simp
    | some index =>
      cases read_initial_seqnums dir.seqnums with
      | none => simp
      | some pair => simp

/-- The files when the process stops after the first steps of an update. -/
def torn (sender target steps : Nat) (d : Disk rfc) : Directory :=
  { d.stopped with seqnums := d.stopped.seqnums.map (left sender target steps) }

/-- The old numbers or the new ones. -/
def Either (s : FileStore arith (Disk rfc)) (sender target : Nat) (pair : Nat × Nat) : Prop :=
  pair = (s.sender_seq_number,s.target_seq_number) ∨ pair = (sender,target)

/-- The process stops after the first steps of an update, and the store that is opened
    again has the old numbers or the new ones. -/
def Survives (faults : Nat → FileFaults) (now : DateTime) (s : FileStore arith (Disk rfc)) (sender target steps : Nat) : Prop :=
  ∃ s' : FileStore arith (Disk rfc), FileStore.new rfc faults now (torn sender target steps s.files) = .ok s' ∧
    Either s sender target (s'.sender_seq_number,s'.target_seq_number)

/-- When a stop does no harm: before the file is truncated it stands for one of the
    pairs; the zeros that an empty file stands for are one of them; of the second new
    number so much has been written that it is read as one. -/
def Harmless (s : FileStore arith (Disk rfc)) (sender target steps : Nat) : Prop :=
  if s.files.seqnums_linked = false then Either s sender target (0,0)
  else if steps ≤ 1 then ∃ pair, read_initial_seqnums (some s.files.seqnums) = some pair ∧ Either s sender target pair
  else if steps = 2 then Either s sender target (0,0)
  else if steps < 26 then False
  else Either s sender target (sender,target / 10^(45 - steps))

/-- Whatever has been written, the store is opened again with the old numbers or the
    new ones if and only if the stop was harmless. -/
theorem numbers_survive_iff (faults : Nat → FileFaults) (now : DateTime) (s : FileStore arith (Disk rfc)) {sender target : Nat}
    (sender_fits : sender < U64) (target_fits : target < U64) (steps : Nat) :
    Survives faults now s sender target steps ↔ Readable rfc now s.files.stopped ∧ Harmless s sender target steps := by
  rw [Survives,opens_iff (Either s sender target)]
  refine and_congr Iff.rfl ?_
  rw [Harmless]
  cases linked : s.files.seqnums_linked with
  | false =>
    have gone : (torn sender target steps s.files).seqnums = none := by
      rw [torn,Disk.stopped,linked]
      rfl
    rw [gone,if_pos rfl,read_initial_seqnums]
    simp only [Option.some.injEq,exists_eq_left']
  | true =>
    have content : (torn sender target steps s.files).seqnums = some (left sender target steps s.files.seqnums) := by
      rw [torn,Disk.stopped,linked]
      rfl
    rw [content,if_neg (by decide)]
    by_cases early : steps ≤ 1
    · rw [if_pos early,left_early early]
    · obtain ⟨count,rfl⟩ : ∃ count, steps = count + 2 := ⟨steps - 2,by omega⟩
      rw [if_neg early,left_part,read_part sender_fits target_fits]
      by_cases truncated : count = 0
      · rw [if_pos truncated,if_pos (by omega)]
        simp only [Option.some.injEq,exists_eq_left']
      · rw [if_neg truncated,if_neg (by omega : ¬ count + 2 = 2)]
        by_cases short : count < 24
        · rw [if_pos short,if_pos (by omega)]
          simp only [reduceCtorEq,false_and,exists_false]
        · rw [if_neg short,if_neg (by omega),show 45 - (count + 2) = 43 - count by omega]
          simp only [Option.some.injEq,exists_eq_left']

variable {s : FileStore arith (Disk rfc)}

/-- The other files of a store that no failure has led to can be read. -/
theorem Reached.readable (reached : Reached rfc arith s) (now : DateTime) : Readable rfc now s.files.stopped := by
  obtain ⟨log,steady⟩ := reached.steady
  have body : s.files.stopped.body = some s.files.body.written := by
    rw [Disk.stopped,steady.level.linked]
    rfl
  have header : s.files.stopped.header = some s.files.header.written := by
    rw [Disk.stopped,steady.header_linked]
    rfl
  have numbers : read_initial_seqnums s.files.stopped.seqnums = some (recorded s) := by
    rw [Disk.stopped,steady.seqnums_linked]
    exact steady.read_numbers
  obtain ⟨s',opened,_⟩ := steady.opens body header rfl numbers (fun _ => .none) now
  exact ((opens_iff (fun _ => True)).mp ⟨s',opened,trivial⟩).1

/-- Their number file stands for one of the pairs before it is truncated, unless it is
    still empty. -/
theorem Reached.early_iff (reached : Reached rfc arith s) {sender target steps : Nat} (early : steps ≤ 1) :
    Harmless s sender target steps ↔ s.files.seqnums ≠ [] ∨ Either s sender target (0,0) := by
  obtain ⟨log,steady⟩ := reached.steady
  rw [Harmless,steady.seqnums_linked,if_neg (by decide),if_pos early,steady.read_numbers,recorded]
  simp only [Option.some.injEq,exists_eq_left']
  by_cases empty : s.files.seqnums = []
  · rw [if_pos empty]
    exact (or_iff_right (fun filled => filled empty)).symm
  · rw [if_neg empty]
    exact iff_of_true (.inl rfl) (.inl empty)

end

theorem counting_survives : Survives (fun _ => .none) 0 Sample.counted 2 0 1 ∧ Survives (fun _ => .none) 0 Sample.counted 2 0 30 := by
  have readable := Reached.readable Sample.counted_reached 0
  constructor
  · refine (numbers_survive_iff (fun _ => .none) 0 Sample.counted (by decide) (by decide) 1).mpr ⟨readable,?_⟩
    exact (Reached.early_iff Sample.counted_reached (by decide)).mpr (.inl (by decide +kernel))
  · refine (numbers_survive_iff (fun _ => .none) 0 Sample.counted (by decide) (by decide) 30).mpr ⟨readable,?_⟩
    exact .inr (by decide)

/-- A stop behind the truncation: the next message would be counted as the first. -/
theorem truncated_numbers_lost : ¬ ∀ s : FileStore .exact (Disk Sample.epoch), Reached Sample.epoch .exact s →
    ∀ faults now sender target, sender < U64 → target < U64 → ∀ steps, Survives faults now s sender target steps := by
  intro always
  have survives := always Sample.counted Sample.counted_reached (fun _ => .none) 0 2 0 (by decide) (by decide) 2
  obtain ⟨_,pair,read,either⟩ := (opens_iff (Either Sample.counted 2 0)).mp survives
  have empty : (torn 2 0 2 Sample.counted.files).seqnums = some [] := rfl
  rw [empty] at read
  cases read
  rcases either with old | new
  · exact absurd old (by decide +kernel)
  · exact absurd new (by decide)

end HotFix.Failures
