import HotFix.FileStore
import HotFix.Buffered
import HotFix.Texts
import HotFix.Message

/-!
The files of a store: the body with the messages one after the other, the header
with a line for each, the sequence numbers and the creation time. The first two are
appended to through a buffer, the numbers are rewritten in place. How a store is
opened on the files that another has left, and how each operation may go wrong.
-/
namespace HotFix

/-! ### The texts in the files -/

/-- How an instant is written and read. The text is read as it was written. -/
structure Rfc3339 where
  to_rfc3339 : DateTime → Bytes
  parse : Bytes → Option DateTime
  utf8 : ∀ instant, valid_utf8 (to_rfc3339 instant) = true
  reads : ∀ instant, parse (Text.trim (to_rfc3339 instant)) = some instant

/-- `{:020} : {:020}`. -/
def seqnums_text (sender target : Nat) : Bytes := Decimal.padded 20 sender ++ ascii " : " ++ Decimal.padded 20 target

def parse_seqnums (content : Bytes) : Option (Nat × Nat) :=
  match ((Text.trim content).splitOn 58).map Text.trim with
  | [sender,target] => do return (← Decimal.parseBelow U64 sender,← Decimal.parseBelow U64 target)
  | _ => none

/-- No file and an empty one stand for zeros. -/
def read_initial_seqnums : Option Bytes → Option (Nat × Nat)
  | none => some (0,0)
  | some content =>
    if !valid_utf8 content then none
    else if Text.trim content = [] then some (0,0)
    else parse_seqnums content

/-- `{},{},{}` and the end of the line, piece by piece. -/
def index_pieces (sequence_number : Nat) (placed : MessageDef) : List Bytes :=
  [Decimal.decimal sequence_number,[44],Decimal.decimal placed.offset,[44],Decimal.decimal placed.size,[10]]

/-- What a line of the header says; other lines are skipped. -/
def index_entry (line : Bytes) : Option (Nat × MessageDef) :=
  match (Text.trim line).splitOn 44 with
  | [seq_num,offset,size] => do
    return (← Decimal.parseBelow U64 seq_num,⟨← Decimal.parseBelow U64 offset,← Decimal.parseBelow U64 size⟩)
  | _ => none

def insert_def (index : Nat → Option MessageDef) (entry : Nat × MessageDef) : Nat → Option MessageDef :=
  fun n => if n = entry.1 then some entry.2 else index n

def load_message_index (header : Bytes) : Option (Nat → Option MessageDef) :=
  if (Text.lines header).all valid_utf8 then
    some (((Text.lines header).filterMap index_entry).foldl insert_def (fun _ => none))
  else none

/-- The creation time, and what the session file holds afterwards. -/
def get_or_create_session_time (rfc : Rfc3339) (now : DateTime) : Option Bytes → Option (DateTime × Bytes)
  | none => some (now,rfc.to_rfc3339 now)
  | some content =>
    if valid_utf8 content then (rfc.parse (Text.trim content)).map (fun instant => (instant,content)) else none

theorem session_read {rfc : Rfc3339} (time now : DateTime) :
    get_or_create_session_time rfc now (some (rfc.to_rfc3339 time)) = some (time,rfc.to_rfc3339 time) := by
  rw [get_or_create_session_time,if_pos (rfc.utf8 _),rfc.reads]
  rfl

/-! ### What the texts are read as -/

theorem valid_utf8_ascii {text : Bytes} (small : ∀ byte ∈ text, byte.toNat < 128) : valid_utf8 text = true := by
  induction text with
  | nil => rfl
  | cons byte rest ih =>
    rw [valid_utf8.eq_def]
    dsimp only
    rw [if_pos (small byte List.mem_cons_self)]
    exact ih (fun byte member => small byte (List.mem_cons_of_mem _ member))

theorem digit_small {byte : UInt8} (digit : Decimal.isDigit byte = true) : byte.toNat < 128 := by
  simp only [Decimal.isDigit,Bool.and_eq_true,decide_eq_true_eq] at digit
  omega

section
open Decimal
variable {sender target : Bytes} (sender_digits : sender.all isDigit = true) (target_digits : target.all isDigit = true)
include sender_digits target_digits

theorem seqnums_small : ∀ byte ∈ sender ++ ascii " : " ++ target, byte.toNat < 128 := by
  intro byte member
  rcases List.mem_append.mp member with front | behind
  · rcases List.mem_append.mp front with first | middle
    · exact digit_small (List.all_eq_true.mp sender_digits byte first)
    · rw [show ascii " : " = [32,58,32] from rfl] at middle
      simp only [List.mem_cons,List.not_mem_nil,or_false] at middle
      rcases middle with rfl | rfl | rfl <;> decide
  · exact digit_small (List.all_eq_true.mp target_digits byte behind)

/-- Two numbers with a colon between them. -/
theorem parse_pair (sender_some : sender ≠ []) (target_some : target ≠ []) :
    read_initial_seqnums (some (sender ++ ascii " : " ++ target)) =
      (do return (← parseBelow U64 sender,← parseBelow U64 target)) := by
  have colon {digits : Bytes} (all : digits.all isDigit = true) : (58 : UInt8) ∉ digits := by
    intro member
    exact absurd (List.all_eq_true.mp all _ member) (by decide)
  have first : ∀ byte ∈ (sender ++ ascii " : " ++ target).head?, Text.is_whitespace byte = false := by
    intro byte head
    rw [List.append_assoc,List.head?_append_of_ne_nil _ sender_some] at head
    exact Text.digit_visible (List.all_eq_true.mp sender_digits byte (List.mem_of_mem_head? head))
  have last : ∀ byte ∈ (sender ++ ascii " : " ++ target).getLast?, Text.is_whitespace byte = false := by
    intro byte last
    rw [List.getLast?_append_of_ne_nil _ target_some] at last
    exact Text.digit_visible (List.all_eq_true.mp target_digits byte (List.mem_of_mem_getLast? last))
  have shaped : sender ++ ascii " : " ++ target = (sender ++ [32]) ++ 58 :: ([32] ++ target) := by
    rw [show ascii " : " = [32,58,32] from rfl]
    simp
  have parts : ((sender ++ ascii " : " ++ target).splitOn 58).map Text.trim = [sender,target] := by
    have left : (58 : UInt8) ∉ sender ++ [32] := by
      rw [List.mem_append]
      rintro (member | member)
      · exact colon sender_digits member
      · exact absurd member (by decide)
    have right : (58 : UInt8) ∉ [32] ++ target := by
      rw [List.mem_append]
      rintro (member | member)
      · exact absurd member (by decide)
      · exact colon target_digits member
    have head : ∀ byte ∈ sender.head?, Text.is_whitespace byte = false := by
      intro byte head
      exact Text.digit_visible (List.all_eq_true.mp sender_digits byte (List.mem_of_mem_head? head))
    rw [shaped,List.splitOn_append_cons_self_of_not_mem left,List.splitOn_eq_singleton right,List.map_cons,List.map_cons,
      List.map_nil,Text.trim_append_right Text.blank_space head,Text.trim_append_left Text.blank_space,Text.trim_digits sender_digits,
      Text.trim_digits target_digits]
  have filled : sender ++ ascii " : " ++ target ≠ [] := by simp [sender_some]
  rw [read_initial_seqnums,valid_utf8_ascii (seqnums_small sender_digits target_digits),Text.trim_eq first last,if_neg (by simp),
    if_neg filled,parse_seqnums,Text.trim_eq first last,parts]

end

theorem padded_some (n : Nat) : Decimal.padded 20 n ≠ [] := by
  intro empty
  exact Decimal.decimal_ne_nil n (List.append_eq_nil_iff.mp empty).2

/-- The numbers are read as they were written. -/
theorem read_seqnums {sender target : Nat} (sender_fits : sender < U64) (target_fits : target < U64) :
    read_initial_seqnums (some (seqnums_text sender target)) = some (sender,target) := by
  have read (n : Nat) (fits : n < U64) : Decimal.parseBelow U64 (Decimal.padded 20 n) = some n := by
    rw [Decimal.parseBelow_digits (Decimal.padded_digits 20 n) (padded_some n),Decimal.value_padded,if_pos fits]
  rw [seqnums_text,parse_pair (Decimal.padded_digits 20 sender) (Decimal.padded_digits 20 target) (padded_some sender)
    (padded_some target),read sender sender_fits,read target target_fits]
  rfl

/-- A line of the header without its end. -/
def index_line (entry : Nat × MessageDef) : Bytes :=
  Decimal.decimal entry.1 ++ 44 :: (Decimal.decimal entry.2.offset ++ 44 :: Decimal.decimal entry.2.size)

theorem index_pieces_flatten (entry : Nat × MessageDef) : (index_pieces entry.1 entry.2).flatten = index_line entry ++ [10] := by
  simp [index_pieces,index_line]

/-- The numbers of an entry fit into 64 bits. -/
def EntryFits (entry : Nat × MessageDef) : Prop := entry.1 < U64 ∧ entry.2.offset < U64 ∧ entry.2.size < U64

/-- Digits and commas. -/
def Plain (text : Bytes) : Prop := ∀ byte ∈ text, Decimal.isDigit byte = true ∨ byte = 44

namespace Plain
variable {text more : Bytes}

theorem digits (all : text.all Decimal.isDigit = true) : Plain text :=
  fun byte member => .inl (List.all_eq_true.mp all byte member)

theorem comma (plain : Plain text) : Plain (44 :: text) := by
  intro byte member
  rcases List.mem_cons.mp member with comma | later
  · exact .inr comma
  · exact plain byte later

theorem append (plain : Plain text) (plain_more : Plain more) : Plain (text ++ more) := by
  intro byte member
  rcases List.mem_append.mp member with first | second
  · exact plain byte first
  · exact plain_more byte second

theorem take (plain : Plain text) (count : Nat) : Plain (text.take count) :=
  fun byte member => plain byte (List.mem_of_mem_take member)

theorem trim (plain : Plain text) : Text.trim text = text := by
  have visible (byte : UInt8) (member : byte ∈ text) : Text.is_whitespace byte = false := by
    rcases plain byte member with digit | rfl
    · exact Text.digit_visible digit
    · decide
  exact Text.trim_eq (fun byte first => visible byte (List.mem_of_mem_head? first))
    (fun byte last => visible byte (List.mem_of_mem_getLast? last))

theorem unended (plain : Plain text) : (10 : UInt8) ∉ text := by
  intro ended
  rcases plain 10 ended with digit | comma
  · exact absurd digit (by decide)
  · exact absurd comma (by decide)

theorem unreturned (plain : Plain text) : text.getLast? ≠ some 13 := by
  intro returned
  rcases plain 13 (List.mem_of_mem_getLast? returned) with digit | comma
  · exact absurd digit (by decide)
  · exact absurd comma (by decide)

theorem utf8 (plain : Plain text) : valid_utf8 text = true := by
  refine valid_utf8_ascii (fun byte member => ?_)
  rcases plain byte member with digit | rfl
  · exact digit_small digit
  · decide

end Plain

theorem index_line_plain (entry : Nat × MessageDef) : Plain (index_line entry) :=
  (Plain.digits (Decimal.decimal_digits _)).append (Plain.comma ((Plain.digits (Decimal.decimal_digits _)).append
    (Plain.comma (Plain.digits (Decimal.decimal_digits _)))))

/-- Three digit strings with commas between them. -/
theorem index_entry_parts {first second third : Bytes} (first_digits : first.all Decimal.isDigit = true)
    (second_digits : second.all Decimal.isDigit = true) (third_digits : third.all Decimal.isDigit = true) :
    index_entry (first ++ 44 :: (second ++ 44 :: third)) = (do
      return (← Decimal.parseBelow U64 first,⟨← Decimal.parseBelow U64 second,← Decimal.parseBelow U64 third⟩)) := by
  have plain : Plain (first ++ 44 :: (second ++ 44 :: third)) :=
    (Plain.digits first_digits).append (Plain.comma ((Plain.digits second_digits).append (Plain.comma (Plain.digits third_digits))))
  have comma {digits : Bytes} (all : digits.all Decimal.isDigit = true) : (44 : UInt8) ∉ digits := by
    intro member
    exact absurd (List.all_eq_true.mp all _ member) (by decide)
  have parts : (first ++ 44 :: (second ++ 44 :: third)).splitOn 44 = [first,second,third] := by
    rw [List.splitOn_append_cons_self_of_not_mem (comma first_digits),
      List.splitOn_append_cons_self_of_not_mem (comma second_digits),List.splitOn_eq_singleton (comma third_digits)]
  rw [index_entry,plain.trim,parts]

theorem index_entry_line {entry : Nat × MessageDef} (fits : EntryFits entry) : index_entry (index_line entry) = some entry := by
  rw [index_line,index_entry_parts (Decimal.decimal_digits _) (Decimal.decimal_digits _) (Decimal.decimal_digits _)]
  simp only [Decimal.parseBelow_decimal fits.1,Decimal.parseBelow_decimal fits.2.1,Decimal.parseBelow_decimal fits.2.2]
  rfl

/-- A header of lines that were ended and a rest that was not. -/
theorem load_plain {ls : List Bytes} {rest : Bytes} (plain : ∀ l ∈ ls, Plain l) (plain_rest : Plain rest) :
    load_message_index (ls.flatMap (fun l => l ++ [10]) ++ rest) =
      some (((ls ++ [rest]).filterMap index_entry).foldl insert_def (fun _ => none)) := by
  have read : Text.lines (ls.flatMap (fun l => l ++ [10]) ++ rest) = ls ++ [rest].filter (· ≠ []) :=
    Text.lines_unended (fun l member => (plain l member).unended) plain_rest.unended (fun l member => (plain l member).unreturned)
  have utf8 : (ls ++ [rest].filter (· ≠ [])).all valid_utf8 = true := by
    rw [List.all_eq_true]
    intro l member
    rcases List.mem_append.mp member with ended | last
    · exact (plain l ended).utf8
    · rw [List.mem_singleton.mp (List.mem_filter.mp last).1]
      exact plain_rest.utf8
  have entries : (ls ++ [rest].filter (· ≠ [])).filterMap index_entry = (ls ++ [rest]).filterMap index_entry := by
    rw [List.filterMap_append,List.filterMap_append]
    by_cases empty : rest = []
    · rw [empty]
      rfl
    · rw [List.filter_cons_of_pos (by simpa using empty),List.filter_nil]
  rw [load_message_index,read,if_pos utf8,entries]

/-- A header that was written line by line is read entry by entry. -/
theorem load_log {log : List (Nat × MessageDef)} (fits : ∀ entry ∈ log, EntryFits entry) :
    load_message_index (log.flatMap (fun entry => index_line entry ++ [10])) = some (log.foldl insert_def (fun _ => none)) := by
  have written : log.flatMap (fun entry => index_line entry ++ [10]) = (log.map index_line).flatMap (fun l => l ++ [10]) ++ [] := by
    rw [List.flatMap_map,List.append_nil]
  have plain (l : Bytes) (member : l ∈ log.map index_line) : Plain l := by
    obtain ⟨entry,_,rfl⟩ := List.mem_map.mp member
    exact index_line_plain entry
  have entries : (log.map index_line ++ [[]]).filterMap index_entry = log := by
    rw [List.filterMap_append,List.filterMap_map,show [[]].filterMap index_entry = [] from rfl,List.append_nil]
    exact (List.filterMap_congr (fun entry member => index_entry_line (fits entry member))).trans List.filterMap_some
  rw [written,load_plain plain (List.forall_mem_nil _),entries]

/-! ### Open files -/

/-- The largest offset in a file, and the capacity of a `BufWriter`. -/
def FILE_MAX : Nat := ISIZE_MAX
def BUF_CAPACITY : Nat := 8192

/-- How the file operations of one call go. Those of the numbers, of the removal and
    of the creation of the files are steps of which one may fail. -/
structure FileFaults where
  body_write : Outcome × Outcome
  body_flush : Outcome
  header_write : Nat → Outcome × Outcome
  header_flush : Outcome
  step : Outcome

def FileFaults.none : FileFaults := ⟨(.none,.none),.none,fun _ => (.none,.none),.none,.none⟩

/-- The open files of a store. A file that is not linked has been removed: its handle
    still works, but its path is free. -/
structure Disk (rfc : Rfc3339) where
  body : Appender UInt8
  body_linked : Bool
  header : Appender UInt8
  header_linked : Bool
  seqnums : Bytes
  seqnums_linked : Bool
  session : Option Bytes
  faults : Nat → FileFaults
  calls : Nat

namespace Disk
variable {rfc : Rfc3339}

/-- The faults of this call, and the files for the next one. -/
def fault (d : Disk rfc) : FileFaults := d.faults d.calls
def called (d : Disk rfc) : Disk rfc := { d with calls := d.calls + 1 }

/-- The file operations of `write_seqnums_with` on the content: seek, truncate, write
    byte by byte, flush. -/
def seqnums_steps (sender target : Nat) : List (Bytes → Bytes) :=
  [id,fun _ => []] ++ (seqnums_text sender target).map (fun byte content => content ++ [byte]) ++ [id]

def write_seqnums_with (sender target : Nat) (d : Disk rfc) : Bool × Disk rfc :=
  match Steps.attempt d.fault.step (seqnums_steps sender target) d.seqnums with
  | (done,content) => (done,{ d.called with seqnums := content })

/-- The message, then its line. -/
def append_message (sequence_number : Nat) (placed : MessageDef) (message : Bytes) (d : Disk rfc) : Bool × Disk rfc :=
  let fault := d.fault
  let d := d.called
  match d.body.write_all FILE_MAX BUF_CAPACITY fault.body_write message with
  | (false,body) => (false,{ d with body := body })
  | (true,body) =>
    match body.flush FILE_MAX fault.body_flush with
    | (false,body) => (false,{ d with body := body })
    | (true,body) =>
      match d.header.write_fmt FILE_MAX BUF_CAPACITY fault.header_write (index_pieces sequence_number placed) with
      | (false,header) => (false,{ d with body := body, header := header })
      | (true,header) =>
        match header.flush FILE_MAX fault.header_flush with
        | (done,header) => (done,{ d with body := body, header := header })

def remove_files (d : Disk rfc) : Bool × Disk rfc :=
  let fault := d.fault
  let d := d.called
  match d.body.flush FILE_MAX fault.body_flush with
  | (false,body) => (false,{ d with body := body })
  | (true,body) =>
    match d.header.flush FILE_MAX fault.header_flush with
    | (false,header) => (false,{ d with body := body, header := header })
    | (true,header) =>
      Steps.attempt fault.step
        [fun d => { d with body_linked := false },fun d => { d with header_linked := false },
          fun d => { d with seqnums_linked := false },fun d => { d with session := none }]
        { d with body := body, header := header }

/-- A file that is opened for appending: the one at the path, else a new one. -/
def opened (linked : Bool) (a : Appender UInt8) : Appender UInt8 := ⟨if linked then a.written else [],[]⟩

def recreate_files (now : DateTime) (d : Disk rfc) : Bool × Disk rfc :=
  Steps.attempt d.fault.step
    [fun d => { d with session := some [] },fun d => { d with session := some (rfc.to_rfc3339 now) },
      fun d => { d with body := opened d.body_linked d.body, body_linked := true },
      fun d => { d with header := opened d.header_linked d.header, header_linked := true },
      fun d => { d with seqnums := [], seqnums_linked := true }]
    d.called

instance : Files (Disk rfc) where
  write_seqnums_with := write_seqnums_with
  append_message := append_message
  open_body d := d.body_linked
  read_exact placed d :=
    let buffer := (d.body.written.drop placed.offset).take placed.size
    if buffer.length = placed.size then some buffer else none
  remove_files := remove_files
  recreate_files := recreate_files

/-! ### What the operations leave -/

/-- A message is appended, or some of it if the call has failed. -/
structure Appended (sequence_number : Nat) (placed : MessageDef) (message : Bytes) (d : Disk rfc) (done : Bool)
    (d' : Disk rfc) : Prop where
  body_linked : d'.body_linked = d.body_linked
  header_linked : d'.header_linked = d.header_linked
  seqnums : d'.seqnums = d.seqnums
  seqnums_linked : d'.seqnums_linked = d.seqnums_linked
  session : d'.session = d.session
  grows : d.body.written <+: d'.body.written
  taken : ∃ part, part <+: message ∧ d'.body.all = d.body.all ++ part
  body : done = true → d'.body = ⟨d.body.all ++ message,[]⟩
  fits : done = true → (d.body.all ++ message).length ≤ FILE_MAX
  header : done = true → d'.header = ⟨d.header.all ++ (index_line (sequence_number,placed) ++ [10]),[]⟩

theorem append_message_appended (sequence_number : Nat) (placed : MessageDef) (message : Bytes) (d : Disk rfc) :
    Appended sequence_number placed message d (append_message sequence_number placed message d).1
      (append_message sequence_number placed message d).2 := by
  have positive : 0 < BUF_CAPACITY := by decide
  have body_written := @Appender.write_all_appends _ FILE_MAX BUF_CAPACITY d.body positive d.fault.body_write message
  have header_written := @Appender.write_fmt_appends _ FILE_MAX BUF_CAPACITY positive d.fault.header_write
    (index_pieces sequence_number placed) d.header
  rw [append_message]
  dsimp only [called]
  rcases wrote : d.body.write_all FILE_MAX BUF_CAPACITY d.fault.body_write message with ⟨_ | _,body₁⟩
  · rw [wrote] at body_written
    exact ⟨rfl,rfl,rfl,rfl,rfl,body_written.grows,body_written.taken,nofun,nofun,nofun⟩
  · rw [wrote] at body_written
    have body_flushed := @Appender.flush_appends _ FILE_MAX body₁ d.fault.body_flush
    have both := body_written.trans body_flushed
    rw [List.append_nil] at both
    dsimp only
    rcases flushed : body₁.flush FILE_MAX d.fault.body_flush with ⟨_ | _,body₂⟩
    · rw [flushed] at both
      exact ⟨rfl,rfl,rfl,rfl,rfl,both.grows,both.taken,nofun,nofun,nofun⟩
    · -- from here on the body is complete
      rw [flushed] at both
      obtain ⟨rfl,fits⟩ := Appender.flush_ok flushed
      have complete : body₁.all = d.body.all ++ message := body_written.whole rfl
      dsimp only
      rcases listed : d.header.write_fmt FILE_MAX BUF_CAPACITY d.fault.header_write (index_pieces sequence_number placed)
        with ⟨_ | _,header₁⟩
      · exact ⟨rfl,rfl,rfl,rfl,rfl,both.grows,both.taken,nofun,nofun,nofun⟩
      · rw [listed] at header_written
        dsimp only
        rcases ended : header₁.flush FILE_MAX d.fault.header_flush with ⟨_ | _,header₂⟩
        · exact ⟨rfl,rfl,rfl,rfl,rfl,both.grows,both.taken,nofun,nofun,nofun⟩
        · obtain ⟨rfl,_⟩ := Appender.flush_ok ended
          have line : header₁.all = d.header.all ++ (index_line (sequence_number,placed) ++ [10]) := by
            rw [header_written.whole rfl,index_pieces_flatten (sequence_number,placed)]
          refine ⟨rfl,rfl,rfl,rfl,rfl,both.grows,both.taken,fun _ => ?_,fun _ => complete ▸ fits,fun _ => ?_⟩
          · rw [← complete]
          · rw [← line]

theorem run_seqnums_text (text content : Bytes) :
    Steps.run (text.map (fun byte content => content ++ [byte])) content = content ++ text := by
  induction text generalizing content with
  | nil => exact (List.append_nil content).symm
  | cons byte rest ih =>
    rw [List.map_cons,Steps.run,List.foldl_cons]
    exact (ih (content ++ [byte])).trans (List.append_assoc _ _ _)

theorem write_seqnums_ok {sender target : Nat} {d d' : Disk rfc} (done : write_seqnums_with sender target d = (true,d')) :
    d' = { d.called with seqnums := seqnums_text sender target } := by
  rw [write_seqnums_with] at done
  rcases attempted : Steps.attempt d.fault.step (seqnums_steps sender target) d.seqnums with ⟨result,content⟩
  rw [attempted] at done
  obtain ⟨rfl,rfl⟩ := Prod.mk.inj done
  have content_eq := Steps.attempt_ok attempted
  rw [content_eq,seqnums_steps,Steps.run,List.foldl_append,List.foldl_append]
  exact congrArg (fun content => { d.called with seqnums := content }) (run_seqnums_text (seqnums_text sender target) [])

/-- Files that were removed and created again are new. -/
theorem reset_ok {now : DateTime} {d d₁ d₂ : Disk rfc} (removed : remove_files d = (true,d₁))
    (recreated : recreate_files now d₁ = (true,d₂)) :
    d₂.body = ⟨[],[]⟩ ∧ d₂.body_linked = true ∧ d₂.header = ⟨[],[]⟩ ∧ d₂.header_linked = true ∧ d₂.seqnums = [] ∧
      d₂.seqnums_linked = true ∧ d₂.session = some (rfc.to_rfc3339 now) := by
  have unlinked : d₁.body_linked = false ∧ d₁.header_linked = false := by
    rw [remove_files] at removed
    rcases body_flushed : d.called.body.flush FILE_MAX d.fault.body_flush with ⟨_ | _,body⟩
    · rw [body_flushed] at removed
      cases (Prod.mk.inj removed).1
    · rw [body_flushed] at removed
      dsimp only at removed
      rcases header_flushed : d.called.header.flush FILE_MAX d.fault.header_flush with ⟨_ | _,header⟩
      · rw [header_flushed] at removed
        cases (Prod.mk.inj removed).1
      · rw [header_flushed] at removed
        rw [Steps.attempt_ok removed]
        exact ⟨rfl,rfl⟩
  rw [Steps.attempt_ok recreated]
  refine ⟨?_,rfl,?_,rfl,rfl,rfl,rfl⟩
  · show opened d₁.body_linked d₁.body = _
    rw [unlinked.1]
    rfl
  · show opened d₁.header_linked d₁.header = _
    rw [unlinked.2]
    rfl

end Disk

/-! ### Opening a store -/

/-- The files at the paths of a store. -/
structure Directory where
  body : Option Bytes
  header : Option Bytes
  seqnums : Option Bytes
  session : Option Bytes

def Directory.empty : Directory := ⟨none,none,none,none⟩

/-- What is left when the store is dropped: the buffers are flushed. -/
def Disk.dropped {rfc : Rfc3339} (d : Disk rfc) : Directory where
  body := if d.body_linked then some d.body.all else none
  header := if d.header_linked then some d.header.all else none
  seqnums := if d.seqnums_linked then some d.seqnums else none
  session := d.session

/-- What is left when the process stops: the buffers are lost. -/
def Disk.stopped {rfc : Rfc3339} (d : Disk rfc) : Directory where
  body := if d.body_linked then some d.body.written else none
  header := if d.header_linked then some d.header.written else none
  seqnums := if d.seqnums_linked then some d.seqnums else none
  session := d.session

namespace FileStore
variable {arith : Arith}

/-- `FileStore::new`: the numbers are read before their file is truncated. -/
def new (rfc : Rfc3339) (faults : Nat → FileFaults) (now : DateTime) (dir : Directory) :
    Except StoreError (FileStore arith (Disk rfc)) :=
  match get_or_create_session_time rfc now dir.session,read_initial_seqnums dir.seqnums,
      load_message_index (dir.header.getD []) with
  | some (creation_time,session),some (sender,target),some message_index =>
    let body := dir.body.getD []
    .ok {
      files := {
        body := ⟨body,[]⟩
        body_linked := true
        header := ⟨dir.header.getD [],[]⟩
        header_linked := true
        seqnums := []
        seqnums_linked := true
        session := some session
        faults := faults
        calls := 0 }
      sender_seq_number := sender
      target_seq_number := target
      creation_time := creation_time
      message_index := message_index
      current_body_offset := body.length }
  | _,_,_ => .error .Initialization

/-- A store that is opened has what its files say. -/
structure Opens {rfc : Rfc3339} (dir : Directory) (time : DateTime) (pair : Nat × Nat) (index : Nat → Option MessageDef)
    (s : FileStore arith (Disk rfc)) : Prop where
  body : s.files.body = ⟨dir.body.getD [],[]⟩
  body_linked : s.files.body_linked = true
  header : s.files.header = ⟨dir.header.getD [],[]⟩
  header_linked : s.files.header_linked = true
  seqnums : s.files.seqnums = []
  seqnums_linked : s.files.seqnums_linked = true
  numbers : (s.sender_seq_number,s.target_seq_number) = pair
  creation_time : s.creation_time = time
  index : s.message_index = index
  offset : s.current_body_offset = (dir.body.getD []).length

theorem new_opens {rfc : Rfc3339} {dir : Directory} {time : DateTime} {session : Bytes} {pair : Nat × Nat}
    {index : Nat → Option MessageDef} {now : DateTime} (faults : Nat → FileFaults)
    (timed : get_or_create_session_time rfc now dir.session = some (time,session))
    (numbers : read_initial_seqnums dir.seqnums = some pair) (loaded : load_message_index (dir.header.getD []) = some index) :
    ∃ s : FileStore arith (Disk rfc), new rfc faults now dir = .ok s ∧ Opens dir time pair index s ∧
      s.files.session = some session ∧ s.files.faults = faults :=
  ⟨_,by rw [new,timed,numbers,loaded],⟨rfl,rfl,rfl,rfl,rfl,rfl,rfl,rfl,rfl,rfl⟩,rfl,rfl⟩

end FileStore
end HotFix
