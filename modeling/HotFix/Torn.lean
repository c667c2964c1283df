import HotFix.Failures

/-!
A stop while a message is added. The body has the message before the header has the
first byte of its line, so that the line is whole, missing or cut. The line of the next
message is appended to what is left of a cut one: both become one line, which is
skipped or names another number. Only a line that was not started or was ended does no
harm, and the digit of the number zero, since zeros in front of a number do not count.
-/
namespace HotFix.Torn
open MessageStore HotFix.Persistence

/-! ### Lines of the header -/

/-- The header that was written for a log. -/
def text (log : List (Nat × MessageDef)) : Bytes := log.flatMap (fun entry => index_line entry ++ [10])

theorem text_append (log more : List (Nat × MessageDef)) : text (log ++ more) = text log ++ text more :=
  List.flatMap_append

theorem text_last (log : List (Nat × MessageDef)) (entry : Nat × MessageDef) :
    text (log ++ [entry]) = text log ++ (index_line entry ++ [10]) := by
  rw [text_append]
  exact congrArg (text log ++ ·) (List.append_nil _)

theorem text_lines (log : List (Nat × MessageDef)) : text log = (log.map index_line).flatMap (fun l => l ++ [10]) := by
  rw [List.flatMap_map]
  rfl

theorem lines_plain {log : List (Nat × MessageDef)} : ∀ l ∈ log.map index_line, Plain l := by
  intro l member
  obtain ⟨entry,_,rfl⟩ := List.mem_map.mp member
  exact index_line_plain entry

theorem lines_entries {log : List (Nat × MessageDef)} (fits : ∀ entry ∈ log, EntryFits entry) :
    (log.map index_line).filterMap index_entry = log := by
  rw [List.filterMap_map]
  exact (List.filterMap_congr (fun entry member => index_entry_line (fits entry member))).trans List.filterMap_some

/-- Nothing or one zero stands before a line. -/
def Idle (gap : Bytes) : Prop := gap = [] ∨ gap = [48]

theorem Idle.plain {gap : Bytes} (idle : Idle gap) : Plain gap := by
  rcases idle with rfl | rfl
  · exact List.forall_mem_nil _
  · exact Plain.digits rfl

theorem Idle.entry {gap : Bytes} (idle : Idle gap) {entry : Nat × MessageDef} (fits : EntryFits entry) :
    index_entry (gap ++ index_line entry) = some entry := by
  rcases idle with rfl | rfl
  · exact index_entry_line fits
  · have digits : ([48] ++ Decimal.decimal entry.1).all Decimal.isDigit = true := by
      rw [List.all_append,Decimal.decimal_digits]
      rfl
    have value : Decimal.value ([48] ++ Decimal.decimal entry.1) = entry.1 := by
      rw [Decimal.value_append,Decimal.value_decimal]
      exact (congrArg (· + entry.1) (Nat.zero_mul _)).trans (Nat.zero_add _)
    rw [index_line,← List.append_assoc,index_entry_parts digits (Decimal.decimal_digits _) (Decimal.decimal_digits _),
      Decimal.parseBelow_digits digits (List.append_ne_nil_of_left_ne_nil (List.cons_ne_nil _ _) _),value,if_pos fits.1,
      Decimal.parseBelow_decimal fits.2.1,Decimal.parseBelow_decimal fits.2.2]
    rfl

/-- What stands idle between two lines is read over. -/
theorem load_text {front log : List (Nat × MessageDef)} {gap : Bytes} (idle : Idle gap)
    (fits : ∀ entry ∈ front ++ log, EntryFits entry) :
    load_message_index (text front ++ (gap ++ text log)) = some ((front ++ log).foldl insert_def (fun _ => none)) := by
  have front_fits (entry : Nat × MessageDef) (member : entry ∈ front) : EntryFits entry :=
    fits entry (List.mem_append_left _ member)
  cases log with
  | nil =>
    have skipped : index_entry gap = none := by
      rcases idle with rfl | rfl
      · rfl
      · decide +kernel
    rw [text_lines front,show text [] = [] from rfl,List.append_nil,load_plain lines_plain idle.plain,List.filterMap_append,
      lines_entries front_fits,List.filterMap_cons_none skipped]
    rfl
  | cons entry rest =>
    have rest_fits (later : Nat × MessageDef) (member : later ∈ rest) : EntryFits later :=
      fits later (List.mem_append_right _ (List.mem_cons_of_mem _ member))
    have written : text front ++ (gap ++ text (entry :: rest)) =
        (front.map index_line ++ (gap ++ index_line entry) :: rest.map index_line).flatMap (fun l => l ++ [10]) ++ [] := by
      rw [List.append_nil,List.flatMap_append,List.flatMap_cons,← text_lines,← text_lines]
      simp [text]
    have plain : ∀ l ∈ front.map index_line ++ (gap ++ index_line entry) :: rest.map index_line, Plain l := by
      intro l member
      rcases List.mem_append.mp member with early | later
      · exact lines_plain l early
      · rcases List.mem_cons.mp later with rfl | later
        · exact idle.plain.append (index_line_plain entry)
        · exact lines_plain l later
    have read : (front.map index_line ++ (gap ++ index_line entry) :: rest.map index_line ++ [[]]).filterMap index_entry =
        front ++ entry :: rest := by
      rw [List.filterMap_append,List.filterMap_append,lines_entries front_fits,
        List.filterMap_cons_some (idle.entry (fits entry (List.mem_append_right _ List.mem_cons_self))),lines_entries rest_fits]
      exact List.append_nil _
    rw [written,load_plain plain (List.forall_mem_nil _),read]

/-! ### What is read of the numbers -/

/-- The bytes that were added last for each number. -/
def latest (adds : List (Nat × Bytes)) : Nat → Option Bytes :=
  adds.foldl (fun held add n => if n = add.1 then some add.2 else held n) (fun _ => none)

theorem latest_last (adds : List (Nat × Bytes)) (add : Nat × Bytes) (n : Nat) :
    latest (adds ++ [add]) n = if n = add.1 then some add.2 else latest adds n := by
  rw [latest,List.foldl_append]
  rfl

theorem latest_added {adds : List (Nat × Bytes)} {n : Nat} {message : Bytes} (held : latest adds n = some message) :
    (n,message) ∈ adds := by
  induction adds using List.reverseRecOn with
  | nil => cases held
  | append_singleton adds add ih =>
    rw [latest_last] at held
    split_ifs at held with here
    · cases held
      rw [here]
      exact List.mem_append_right _ (List.mem_singleton.mpr rfl)
    · exact List.mem_append_left _ (ih held)

/-- Later messages take the place of earlier ones. -/
theorem latest_append {before later : List (Nat × Bytes)} {n : Nat} {message : Bytes} (held : latest later n = some message) :
    latest (before ++ later) n = some message := by
  induction later using List.reverseRecOn with
  | nil => cases held
  | append_singleton later add ih =>
    rw [← List.append_assoc,latest_last]
    rw [latest_last] at held
    split_ifs at held ⊢ with here
    · exact held
    · exact ih held

/-- Each message stands in the body where the entry of its number says. -/
def Placed (body : Bytes) (adds : List (Nat × Bytes)) (log : List (Nat × MessageDef)) : Prop :=
  List.Forall₂ (fun add entry => add.1 = entry.1 ∧ Stands body entry.2 add.2) adds log

theorem Placed.grows {body more : Bytes} {adds : List (Nat × Bytes)} {log : List (Nat × MessageDef)} (placed : Placed body adds log) :
    Placed (body ++ more) adds log :=
  placed.imp (fun _ _ entry => ⟨entry.1,entry.2.append more⟩)

theorem Placed.last {body message : Bytes} {n : Nat} {adds : List (Nat × Bytes)} {log : List (Nat × MessageDef)}
    (placed : Placed body adds log) :
    Placed (body ++ message) (adds ++ [(n,message)]) (log ++ [(n,⟨body.length,message.length⟩)]) := by
  refine List.rel_append placed.grows (.cons ⟨rfl,body,[],?_,rfl⟩ .nil)
  rw [List.append_nil]

/-- A number has the bytes that were added last, if any. -/
theorem Placed.listed {body : Bytes} {adds : List (Nat × Bytes)} {log : List (Nat × MessageDef)} (placed : Placed body adds log)
    (n : Nat) : latest adds n = none ∧ log.foldl insert_def (fun _ => none) n = none ∨
      ∃ message entry, latest adds n = some message ∧ log.foldl insert_def (fun _ => none) n = some entry ∧
        Stands body entry message := by
  have run : ∀ (held : Nat → Option Bytes) (index : Nat → Option MessageDef),
      (held n = none ∧ index n = none ∨ ∃ message entry, held n = some message ∧ index n = some entry ∧ Stands body entry message) →
      (adds.foldl (fun held add n => if n = add.1 then some add.2 else held n) held n = none ∧ log.foldl insert_def index n = none ∨
        ∃ message entry, adds.foldl (fun held add n => if n = add.1 then some add.2 else held n) held n = some message ∧
          log.foldl insert_def index n = some entry ∧ Stands body entry message) := by
    induction placed with
    | nil => exact fun _ _ start => start
    | @cons add entry _ _ head _ ih =>
      intro held index start
      refine ih _ _ ?_
      by_cases here : n = add.1
      · exact .inr ⟨add.2,entry.2,if_pos here,if_pos (here.trans head.1),head.2⟩
      · dsimp only [insert_def]
        rw [if_neg here,if_neg (head.1 ▸ here)]
        exact start
  exact run _ _ (.inl ⟨rfl,rfl⟩)

section
variable {rfc : Rfc3339} {arith : Arith} {s s' : FileStore arith (Disk rfc)}

/-- A number is mapped to bytes that were added under it, or not at all. -/
def Faithful (adds : List (Nat × Bytes)) (s : FileStore arith (Disk rfc)) : Prop :=
  ∀ n placed, s.message_index n = some placed → ∃ message, (n,message) ∈ adds ∧ get_slice n n s = .ok [message]

/-- Every message is there that was not added anew. -/
def Present (adds : List (Nat × Bytes)) (s : FileStore arith (Disk rfc)) : Prop :=
  ∀ n message, latest adds n = some message → get_slice n n s = .ok [message]

/-! ### Whole stores -/

/-- The files determine the store, and have each message where its line says. -/
structure Sound (front : List (Nat × MessageDef)) (gap : Bytes) (log : List (Nat × MessageDef)) (adds : List (Nat × Bytes))
    (s : FileStore arith (Disk rfc)) : Prop where
  level : Level s
  header : s.files.header = ⟨text front ++ (gap ++ text log),[]⟩
  header_linked : s.files.header_linked = true
  entries : ∀ entry ∈ front ++ log, EntryFits entry
  index : s.message_index = (front ++ log).foldl insert_def (fun _ => none)
  session : s.files.session = some (rfc.to_rfc3339 s.creation_time)
  seqnums_linked : s.files.seqnums_linked = true
  numbers : ∃ pair, read_initial_seqnums (some s.files.seqnums) = some pair
  placed : Placed s.files.body.written adds (front ++ log)

variable {front log : List (Nat × MessageDef)} {gap : Bytes} {adds : List (Nat × Bytes)}

theorem Sound.listed (sound : Sound front gap log adds s) (n : Nat) :
    latest adds n = none ∧ s.message_index n = none ∨
      ∃ message entry, latest adds n = some message ∧ s.message_index n = some entry ∧ get_slice n n s = .ok [message] := by
  rw [sound.index]
  rcases sound.placed.listed n with absent | ⟨message,entry,held,listed,stands⟩
  · exact .inl absent
  · rw [← sound.index] at listed ⊢
    exact .inr ⟨message,entry,held,listed,Failures.read_number sound.level.linked listed stands.read⟩

theorem Sound.faithful (sound : Sound front gap log adds s) : Faithful adds s := by
  intro n placed listed
  rcases sound.listed n with ⟨_,absent⟩ | ⟨message,_,held,_,read⟩
  · rw [absent] at listed
    cases listed
  · exact ⟨message,latest_added held,read⟩

theorem Sound.present {before later : List (Nat × Bytes)} (sound : Sound front gap log (before ++ later) s) : Present later s := by
  intro n message held
  rcases sound.listed n with ⟨none,_⟩ | ⟨found,_,held',_,read⟩
  · rw [latest_append held] at none
    cases none
  · rw [latest_append held] at held'
    cases held'
    exact read

theorem Sound.of_fresh {now : DateTime} (fresh : Fresh now s) : Sound [] [] [] [] s where
  level := fresh.level
  header := fresh.header
  header_linked := fresh.header_linked
  entries := List.forall_mem_nil _
  index := fresh.index
  session := by rw [fresh.session,fresh.creation_time]
  seqnums_linked := fresh.seqnums_linked
  numbers := ⟨(0,0),by rw [fresh.seqnums]; rfl⟩
  placed := .nil

theorem Sound.added {n : Nat} {message : Bytes} (sound : Sound front gap log adds s) (small : n < U64)
    (added : Added n message s s') :
    Sound front gap (log ++ [(n,⟨s.current_body_offset,message.length⟩)]) (adds ++ [(n,message)]) s' := by
  obtain ⟨level,body⟩ := added.level sound.level
  have line := added.files.header rfl
  rw [sound.header,Appender.all,List.append_nil] at line
  refine ⟨level,?_,added.files.header_linked.trans sound.header_linked,?_,?_,?_,
    added.files.seqnums_linked.trans sound.seqnums_linked,?_,?_⟩
  · rw [line,text_last,List.append_assoc,List.append_assoc]
  · rw [← List.append_assoc]
    intro entry member
    rcases List.mem_append.mp member with earlier | last
    · exact sound.entries entry earlier
    · rw [List.mem_singleton.mp last]
      exact added.entry_fits sound.level small
  · rw [added.index,sound.index,← List.append_assoc,List.foldl_append (l := front ++ log)]
    rfl
  · rw [added.files.session,added.creation_time]
    exact sound.session
  · rw [added.files.seqnums]
    exact sound.numbers
  · rw [body,← List.append_assoc,sound.level.offset]
    exact sound.placed.last

theorem Sound.updated {sender target : Nat} (sound : Sound front gap log adds s) (sender_fits : sender < U64)
    (target_fits : target < U64) (done : s.update_seqnums sender target = (.ok (),s')) : Sound front gap log adds s' := by
  obtain rfl := update_ok done
  obtain ⟨⟨linked,flushed,offset,bounded⟩,header,header_linked,entries,index,session,seqnums_linked,_,placed⟩ := sound
  exact ⟨⟨linked,flushed,offset,bounded⟩,header,header_linked,entries,index,session,seqnums_linked,
    ⟨_,read_seqnums sender_fits target_fits⟩,placed⟩

/-- Files that hold a log are opened as a store that holds it. -/
theorem opens_sound {dir : Directory} {body : Bytes} {time : DateTime} {pair : Nat × Nat} (idle : Idle gap)
    (dir_body : dir.body = some body) (bounded : body.length ≤ FILE_MAX)
    (header : dir.header = some (text front ++ (gap ++ text log))) (session : dir.session = some (rfc.to_rfc3339 time))
    (numbers : read_initial_seqnums dir.seqnums = some pair) (entries : ∀ entry ∈ front ++ log, EntryFits entry)
    (placed : Placed body adds (front ++ log)) (faults : Nat → FileFaults) (now : DateTime) :
    ∃ t : FileStore arith (Disk rfc), FileStore.new rfc faults now dir = .ok t ∧ Sound front gap log adds t := by
  have timed : get_or_create_session_time rfc now dir.session = some (time,rfc.to_rfc3339 time) := by
    rw [session]
    exact session_read time now
  have loaded : load_message_index (dir.header.getD []) = some ((front ++ log).foldl insert_def (fun _ => none)) := by
    rw [header,Option.getD_some,load_text idle entries]
  obtain ⟨t,opened,opens,session',_⟩ := @FileStore.new_opens arith rfc _ _ _ _ _ _ faults timed numbers loaded
  have files := opens.body
  have offset := opens.offset
  have listed := opens.header
  rw [dir_body,Option.getD_some] at files offset
  rw [header,Option.getD_some] at listed
  refine ⟨t,opened,⟨opens.body_linked,by rw [files],by rw [files,offset],by rw [files]; exact bounded⟩,listed,opens.header_linked,
    entries,opens.index,?_,opens.seqnums_linked,⟨(0,0),by rw [opens.seqnums]; rfl⟩,?_⟩
  · rw [session',opens.creation_time]
  · rw [files]
    exact placed

/-- A store is left by dropping it or by a stop between the calls. -/
def LeftBy (s : FileStore arith (Disk rfc)) (dir : Directory) : Prop := dir = s.files.dropped ∨ dir = s.files.stopped

theorem Sound.left {dir : Directory} (sound : Sound front gap log adds s) (left : LeftBy s dir) :
    dir.body = some s.files.body.written ∧ dir.header = some (text front ++ (gap ++ text log)) ∧
      dir.seqnums = some s.files.seqnums ∧ dir.session = s.files.session := by
  have all := sound.level.all
  have linked := sound.level.linked
  have header_linked := sound.header_linked
  have seqnums_linked := sound.seqnums_linked
  have header := sound.header
  rcases left with rfl | rfl
  · have header_all : s.files.header.all = text front ++ (gap ++ text log) := by rw [header,Appender.all,List.append_nil]
    simp only [Disk.dropped,linked,header_linked,seqnums_linked,all,if_true,header_all,and_self]
  · simp only [Disk.stopped,linked,header_linked,seqnums_linked,if_true,header,and_self]

theorem Sound.reopened {dir : Directory} (sound : Sound front gap log adds s) (idle : Idle gap) (left : LeftBy s dir)
    (faults : Nat → FileFaults) (now : DateTime) :
    ∃ t : FileStore arith (Disk rfc), FileStore.new rfc faults now dir = .ok t ∧ Sound front gap log adds t := by
  obtain ⟨body,header,seqnums,session⟩ := sound.left left
  obtain ⟨pair,numbers⟩ := sound.numbers
  exact opens_sound idle body sound.level.bounded header (session.trans sound.session) (seqnums ▸ numbers) sound.entries
    sound.placed faults now

/-! ### Runs -/

/-- Messages that are added, numbers that are updated and stores that are opened on the
    files, from a store on and without a failure. The messages are noted. -/
inductive History (first : FileStore arith (Disk rfc)) : List (Nat × Bytes) → FileStore arith (Disk rfc) → Prop where
  | start : History first [] first
  | added {adds : List (Nat × Bytes)} {s s' : FileStore arith (Disk rfc)} {n : Nat} {message : Bytes} (before : History first adds s)
    (small : n < U64) (done : add n message s = (.ok (),s')) : History first (adds ++ [(n,message)]) s'
  | updated {adds : List (Nat × Bytes)} {s s' : FileStore arith (Disk rfc)} {sender target : Nat} (before : History first adds s)
    (sender_fits : sender < U64) (target_fits : target < U64) (done : s.update_seqnums sender target = (.ok (),s')) :
    History first adds s'
  | reopened {adds : List (Nat × Bytes)} {s s' : FileStore arith (Disk rfc)} {dir : Directory} {faults : Nat → FileFaults}
    {now : DateTime} (before : History first adds s) (left : LeftBy s dir) (again : FileStore.new rfc faults now dir = .ok s') :
    History first adds s'

theorem History.sound {before later : List (Nat × Bytes)} {first : FileStore arith (Disk rfc)} (idle : Idle gap)
    (start : Sound front gap log before first) (history : History first later s) :
    ∃ log', Sound front gap log' (before ++ later) s := by
  induction history with
  | start => exact ⟨log,by rwa [List.append_nil]⟩
  | added _ small done ih =>
    obtain ⟨log',sound⟩ := ih
    rw [← List.append_assoc]
    exact ⟨_,sound.added small (add_ok done)⟩
  | updated _ sender_fits target_fits done ih =>
    obtain ⟨log',sound⟩ := ih
    exact ⟨log',sound.updated sender_fits target_fits done⟩
  | @reopened _ _ _ _ faults now _ left again ih =>
    obtain ⟨log',sound⟩ := ih
    obtain ⟨t,opened,sound'⟩ := sound.reopened idle left faults now
    obtain rfl := Except.ok.inj (again.symm.trans opened)
    exact ⟨log',sound'⟩

/-! ### A stop while a message is added -/

/-- The files when the process stops while a message is added: the header has the first
    bytes of its line, and before it has one the body may lack some of the message. -/
structure Cut (n : Nat) (message : Bytes) (count : Nat) (s : FileStore arith (Disk rfc)) (dir : Directory) : Prop where
  body : ∃ part, part <+: message ∧ (0 < count → part = message) ∧ dir.body = some (s.files.body.written ++ part) ∧
    (s.files.body.written ++ part).length ≤ FILE_MAX
  header : dir.header = some (s.files.header.written ++
    (index_line (n,⟨s.current_body_offset,message.length⟩) ++ [10]).take count)
  seqnums : dir.seqnums = some s.files.seqnums
  session : dir.session = s.files.session

/-- How far the files have come when the call returns, with or without success. -/
theorem append_message_written {n : Nat} {placed : MessageDef} {message : Bytes} {d : Disk rfc} (body_flushed : d.body.pending = [])
    (header_flushed : d.header.pending = []) (bounded : d.body.written.length ≤ FILE_MAX) :
    ∃ part count, part <+: message ∧ (0 < count → part = message) ∧
      (Disk.append_message n placed message d).2.body.written = d.body.written ++ part ∧
      (d.body.written ++ part).length ≤ FILE_MAX ∧
      (Disk.append_message n placed message d).2.header.written =
        d.header.written ++ (index_line (n,placed) ++ [10]).take count := by
  have positive : 0 < BUF_CAPACITY := by decide
  have body_written := @Appender.write_all_appends _ FILE_MAX BUF_CAPACITY d.body positive d.fault.body_write message
  have body_bounded := @Appender.write_all_bounded _ FILE_MAX BUF_CAPACITY d.body bounded d.fault.body_write message
  have header_written := @Appender.write_fmt_appends _ FILE_MAX BUF_CAPACITY positive d.fault.header_write
    (index_pieces n placed) d.header
  -- the header is as it was as long as the body is not complete
  have early {body : Appender UInt8} {done : Bool} (appends : Appender.Appends message d.body done body)
      (small : body.written.length ≤ FILE_MAX) : ∃ part count, part <+: message ∧ (0 < count → part = message) ∧
      body.written = d.body.written ++ part ∧ (d.body.written ++ part).length ≤ FILE_MAX ∧
      d.header.written = d.header.written ++ (index_line (n,placed) ++ [10]).take count := by
    obtain ⟨part,front,grown⟩ := appends.written_part body_flushed
    refine ⟨part,0,front,fun started => absurd started (Nat.lt_irrefl 0),grown,grown ▸ small,?_⟩
    rw [List.take_zero,List.append_nil]
  rw [Disk.append_message]
  dsimp only [Disk.called]
  rcases wrote : d.body.write_all FILE_MAX BUF_CAPACITY d.fault.body_write message with ⟨_ | _,body₁⟩
  · rw [wrote] at body_written body_bounded
    exact early body_written body_bounded
  · rw [wrote] at body_written body_bounded
    have body_through := @Appender.flush_appends _ FILE_MAX body₁ d.fault.body_flush
    have both := body_written.trans body_through
    have small := @Appender.flush_bounded _ FILE_MAX body₁ body_bounded d.fault.body_flush
    rw [List.append_nil] at both
    dsimp only
    rcases flushed : body₁.flush FILE_MAX d.fault.body_flush with ⟨_ | _,body₂⟩
    · rw [flushed] at both small
      exact early both small
    · obtain ⟨rfl,fits⟩ := Appender.flush_ok flushed
      have complete : body₁.all = d.body.written ++ message := by
        rw [body_written.whole rfl,Appender.all,body_flushed,List.append_nil]
      have late {header : Appender UInt8} {done : Bool}
          (appends : Appender.Appends (index_pieces n placed).flatten d.header done header) :
          ∃ part count, part <+: message ∧ (0 < count → part = message) ∧ body₁.all = d.body.written ++ part ∧
          (d.body.written ++ part).length ≤ FILE_MAX ∧
          header.written = d.header.written ++ (index_line (n,placed) ++ [10]).take count := by
        obtain ⟨part,front,grown⟩ := appends.written_part header_flushed
        refine ⟨message,part.length,List.prefix_rfl,fun _ => rfl,complete,complete ▸ fits,?_⟩
        rw [← index_pieces_flatten (n,placed),← List.prefix_iff_eq_take.mp front]
        exact grown
      dsimp only
      rcases listed : d.header.write_fmt FILE_MAX BUF_CAPACITY d.fault.header_write (index_pieces n placed) with ⟨_ | _,header₁⟩
      · rw [listed] at header_written
        exact late header_written
      · rw [listed] at header_written
        have header_through := header_written.trans (@Appender.flush_appends _ FILE_MAX header₁ d.fault.header_flush)
        rw [List.append_nil] at header_through
        exact late header_through

/-- A process that stops during or right after a call of `add` leaves the files cut. -/
theorem Sound.cut (sound : Sound front gap log adds s) (n : Nat) (message : Bytes) :
    ∃ count, Cut n message count s (add n message s).2.files.stopped := by
  have appended := Disk.append_message_appended n ⟨s.current_body_offset,message.length⟩ message s.files
  have files : (add n message s).2.files =
      (Disk.append_message n ⟨s.current_body_offset,message.length⟩ message s.files).2 := by
    rcases FileStore.add_cases n message s with ⟨files,through,result⟩ | ⟨files,refused,result⟩
    · rw [result]
      exact (congrArg Prod.snd through).symm
    · rw [result]
      exact (congrArg Prod.snd refused).symm
  obtain ⟨part,count,front,complete,body,bounded,header⟩ := @append_message_written rfc n ⟨s.current_body_offset,message.length⟩ message
    s.files sound.level.flushed (by rw [sound.header]) sound.level.bounded
  refine ⟨count,⟨part,front,complete,?_,bounded⟩,?_,?_,?_⟩
  · rw [files,Disk.stopped,appended.body_linked,sound.level.linked,body]
    rfl
  · rw [files,Disk.stopped,appended.header_linked,sound.header_linked,header]
    rfl
  · rw [files,Disk.stopped,appended.seqnums_linked,sound.seqnums_linked,appended.seqnums]
    rfl
  · rw [files,Disk.stopped,appended.session]

/-- The line was not started, or was ended, or is the digit of the number zero. -/
def Harmless (n count : Nat) (placed : MessageDef) : Prop :=
  count = 0 ∨ (index_line (n,placed) ++ [10]).length ≤ count ∨ n = 0 ∧ count = 1

/-- The files are opened, and whatever is done afterwards, they are opened as a store
    that maps numbers to what was added only and has all that was added since. -/
def Survives (rfc : Rfc3339) (arith : Arith) (before : List (Nat × Bytes)) (crashed : Nat × Bytes) (dir : Directory) : Prop :=
  ∀ faults now, ∃ t : FileStore arith (Disk rfc), FileStore.new rfc faults now dir = .ok t ∧
    ∀ later u, History t later u → ∀ left, LeftBy u left → ∀ faults now, ∃ v : FileStore arith (Disk rfc),
      FileStore.new rfc faults now left = .ok v ∧ Faithful (before ++ crashed :: later) v ∧ Present later v

theorem Faithful.mono {adds more : List (Nat × Bytes)} (faithful : Faithful adds s) (subset : adds ⊆ more) : Faithful more s := by
  intro n placed listed
  obtain ⟨message,member,read⟩ := faithful n placed listed
  exact ⟨message,subset member,read⟩

/-- A store that holds what was added before, with or without the last message. -/
theorem Sound.harmless {before : List (Nat × Bytes)} {n count : Nat} {message : Bytes} {dir : Directory}
    (sound : Sound [] [] log before s) (small : n < U64) (cut : Cut n message count s dir)
    (harmless : Harmless n count ⟨s.current_body_offset,message.length⟩) (faults : Nat → FileFaults) (now : DateTime) :
    ∃ (t : FileStore arith (Disk rfc)) (front : List (Nat × MessageDef)) (gap : Bytes) (adds : List (Nat × Bytes)),
      FileStore.new rfc faults now dir = .ok t ∧ Idle gap ∧ Sound front gap [] adds t ∧ adds ⊆ before ++ [(n,message)] := by
  obtain ⟨part,_,complete,body,bounded⟩ := cut.body
  obtain ⟨pair,numbers⟩ := sound.numbers
  have header := cut.header
  have session := cut.session.trans sound.session
  rw [← cut.seqnums] at numbers
  rw [sound.header] at header
  by_cases ended : (index_line (n,⟨s.current_body_offset,message.length⟩) ++ [10]).length ≤ count
  · -- the line is complete, and so is the message
    have positive : 0 < count := by
      rw [List.length_append,List.length_singleton] at ended
      omega
    rw [complete positive] at body bounded
    rw [List.take_of_length_le ended] at header
    have placed : Placed (s.files.body.written ++ message) (before ++ [(n,message)]) (log ++ [(n,⟨_,message.length⟩)]) :=
      sound.placed.last
    rw [← sound.level.offset] at placed
    obtain ⟨t,opened,sound'⟩ := @opens_sound rfc arith (log ++ [(n,⟨s.current_body_offset,message.length⟩)]) [] []
      (before ++ [(n,message)]) dir _ _ _ (.inl rfl) body bounded (by
        rw [header,text_last]
        exact congrArg some (List.append_nil _).symm) session numbers (by
        intro entry member
        rw [List.append_nil] at member
        rcases List.mem_append.mp member with earlier | last
        · exact sound.entries entry earlier
        · rw [List.mem_singleton.mp last,sound.level.offset]
          exact Persistence.entry_fits small bounded) (by rw [List.append_nil]; exact placed) faults now
    exact ⟨t,_,[],_,opened,.inl rfl,sound',List.Subset.refl _⟩
  · -- what the header has of the line is idle
    have idle : Idle ((index_line (n,⟨s.current_body_offset,message.length⟩) ++ [10]).take count) := by
      rcases harmless with rfl | whole | ⟨rfl,rfl⟩
      · exact .inl rfl
      · exact absurd whole ended
      · refine .inr ?_
        rw [index_line,show Decimal.decimal 0 = [48] from rfl]
        rfl
    obtain ⟨t,opened,sound'⟩ := @opens_sound rfc arith log [] _ before dir _ _ _ idle body bounded (by
        rw [header]
        exact congrArg some (congrArg (text log ++ ·) (List.append_nil _).symm)) session numbers (by
        rw [List.append_nil]
        exact sound.entries) (by
        rw [List.append_nil]
        exact sound.placed.grows) faults now
    exact ⟨t,_,_,_,opened,idle,sound',List.subset_append_left _ _⟩

theorem Sound.survives {before : List (Nat × Bytes)} {n count : Nat} {message : Bytes} {dir : Directory}
    (sound : Sound [] [] log before s) (small : n < U64) (cut : Cut n message count s dir)
    (harmless : Harmless n count ⟨s.current_body_offset,message.length⟩) : Survives rfc arith before (n,message) dir := by
  intro faults now
  obtain ⟨t,front,gap,adds,opened,idle,sound',subset⟩ := sound.harmless small cut harmless faults now
  refine ⟨t,opened,fun later u history left leaves faults now => ?_⟩
  obtain ⟨log',sound_later⟩ := History.sound idle sound' history
  obtain ⟨v,again,sound_again⟩ := sound_later.reopened idle leaves faults now
  refine ⟨v,again,sound_again.faithful.mono ?_,sound_again.present⟩
  intro add member
  rw [List.append_cons]
  rcases List.mem_append.mp member with early | late
  · exact List.mem_append_left _ (subset early)
  · exact List.mem_append_right _ late

/-! ### A line that was cut -/

theorem decimal_length {n : Nat} (fits : n < U64) : (Decimal.decimal n).length ≤ 20 := by
  have below : U64 < 10^20 := by decide
  rw [Decimal.decimal,List.length_map]
  exact (Nat.length_toDigits_le_iff (by decide) (by decide)).mpr (Nat.lt_trans fits below)

/-- The first digits of a number spell zero only if the number is zero. -/
theorem leading_digits {n count : Nat} (some_digit : 0 < count) (zero : Decimal.value ((Decimal.decimal n).take count) = 0) :
    n = 0 := by
  rw [Decimal.value_take (Decimal.decimal_digits n),Decimal.value_decimal,Nat.div_eq_zero_iff] at zero
  rcases zero with none | small
  · exact absurd none (Nat.pow_pos (by decide)).ne'
  · by_cases short : (Decimal.decimal n).length - count = 0
    · rw [short] at small
      omega
    · -- the number has more digits than it needs
      have length : (Decimal.decimal n).length ≤ (Decimal.decimal n).length - count := by
        rw [Decimal.decimal,List.length_map] at small short ⊢
        exact (Nat.length_toDigits_le_iff (by decide) (by omega)).mpr small
      omega

theorem index_line_length {entry : Nat × MessageDef} (fits : EntryFits entry) : (index_line entry).length ≤ 62 := by
  have first := decimal_length fits.1
  have second := decimal_length fits.2.1
  have third := decimal_length fits.2.2
  simp only [index_line,List.length_append,List.length_cons]
  omega

theorem splitOn_length (separator : UInt8) (text : Bytes) : (text.splitOn separator).length = text.count separator + 1 := by
  induction text with
  | nil => rfl
  | cons byte rest ih =>
    rw [List.splitOn_cons_eq_if_modifyHead]
    by_cases here : byte = separator
    · rw [if_pos (beq_iff_eq.mpr here),here,List.count_cons_self,List.length_cons,ih]
    · rw [if_neg (by simpa using here),List.count_cons_of_ne here,List.length_modifyHead,ih]

/-- A line with too many commas is skipped. -/
theorem index_entry_commas {line : Bytes} (plain : Plain line) (many : 2 < line.count 44) : index_entry line = none := by
  have parts := splitOn_length 44 line
  rw [index_entry,plain.trim]
  split
  · next three =>
    rw [three] at parts
    simp only [List.length_cons,List.length_nil] at parts
    omega
  · rfl

/-- What is left of a cut line and the line behind it are not an entry for the number
    of the latter. -/
theorem merged_entry {entry next : Nat × MessageDef} {count : Nat} (started : 0 < count)
    (cut : count < (index_line entry ++ [10]).length) (counts : ¬ (entry.1 = 0 ∧ count = 1)) :
    ∀ merged, index_entry ((index_line entry).take count ++ index_line next) = some merged → merged.1 ≠ next.1 := by
  intro merged read
  by_cases comma : (44 : UInt8) ∈ (index_line entry).take count
  · have commas : 2 < ((index_line entry).take count ++ index_line next).count 44 := by
      have front := List.count_pos_iff.mpr comma
      have back : 2 ≤ (index_line next).count 44 := by
        simp only [index_line,List.count_append,List.count_cons_self]
        omega
      rw [List.count_append]
      omega
    rw [index_entry_commas (((index_line_plain entry).take count).append (index_line_plain next)) commas] at read
    cases read
  · -- the cut is within the number
    have within : count ≤ (Decimal.decimal entry.1).length := by
      by_contra beyond
      refine comma ?_
      obtain ⟨more,rfl⟩ : ∃ more, count = (Decimal.decimal entry.1).length + (more + 1) :=
        ⟨count - (Decimal.decimal entry.1).length - 1,by omega⟩
      rw [index_line,List.take_length_add_append,List.take_succ_cons]
      exact List.mem_append_right _ List.mem_cons_self
    have digits : ((Decimal.decimal entry.1).take count ++ Decimal.decimal next.1).all Decimal.isDigit = true := by
      rw [List.all_append,Decimal.take_digits (Decimal.decimal_digits _),Decimal.decimal_digits]
      rfl
    have shaped : (index_line entry).take count ++ index_line next = ((Decimal.decimal entry.1).take count ++ Decimal.decimal next.1) ++
        44 :: (Decimal.decimal next.2.offset ++ 44 :: Decimal.decimal next.2.size) := by
      rw [index_line,List.take_append_of_le_length within,index_line,List.append_assoc]
    have filled : (Decimal.decimal entry.1).take count ++ Decimal.decimal next.1 ≠ [] :=
      List.append_ne_nil_of_right_ne_nil _ (Decimal.decimal_ne_nil _)
    rw [shaped,index_entry_parts digits (Decimal.decimal_digits _) (Decimal.decimal_digits _),
      Decimal.parseBelow_digits digits filled] at read
    split_ifs at read with fits
    · have number : merged.1 = Decimal.value ((Decimal.decimal entry.1).take count ++ Decimal.decimal next.1) := by
        cases offset : Decimal.parseBelow U64 (Decimal.decimal next.2.offset) with
        | none =>
          rw [offset] at read
          cases read
        | some _ =>
          cases size : Decimal.parseBelow U64 (Decimal.decimal next.2.size) with
          | none =>
            rw [offset,size] at read
            cases read
          | some _ =>
            rw [offset,size] at read
            cases read
            rfl
      rw [number,Decimal.value_append,Decimal.value_decimal]
      intro same
      have zero : Decimal.value ((Decimal.decimal entry.1).take count) * 10^(Decimal.decimal next.1).length = 0 := by omega
      rcases Nat.mul_eq_zero.mp zero with leading | power
      · have number := leading_digits started leading
        rw [number,show (Decimal.decimal 0).length = 1 from rfl] at within
        exact counts ⟨number,by omega⟩
      · exact absurd power (Nat.pow_pos (by decide)).ne'
    · cases read

/-! ### The next message is lost -/

/-- A short message is added if the files have room for it. -/
theorem add_through {n : Nat} {message : Bytes} (faultless : s.files.fault = .none) (body_flushed : s.files.body.pending = [])
    (header_flushed : s.files.header.pending = []) (short : message.length < BUF_CAPACITY)
    (body_room : s.files.body.written.length + message.length ≤ FILE_MAX)
    (fits : EntryFits (n,⟨s.current_body_offset,message.length⟩)) (header_room : s.files.header.written.length + 63 ≤ FILE_MAX) :
    ∃ s', add n message s = (.ok (),s') := by
  have line := index_line_length fits
  have pieces : (index_pieces n ⟨s.current_body_offset,message.length⟩).flatten.length ≤ 63 := by
    rw [index_pieces_flatten (n,⟨s.current_body_offset,message.length⟩),List.length_append,List.length_singleton]
    omega
  have capacity : 63 < BUF_CAPACITY := by decide
  have through : ∃ files, Disk.append_message n ⟨s.current_body_offset,message.length⟩ message s.files = (true,files) := by
    rw [Disk.append_message]
    dsimp only [Disk.called]
    rw [faultless]
    dsimp only [FileFaults.none]
    rw [Appender.write_all_buffered _ (by rw [body_flushed]; simpa using short)]
    dsimp only
    rw [Appender.flush_through (by rw [Appender.all,body_flushed]; simpa using body_room)]
    dsimp only
    rw [Appender.write_fmt_buffered _ _ _ (by rw [header_flushed,List.length_nil,Nat.zero_add]; omega)]
    dsimp only
    rw [Appender.flush_through (by
      rw [Appender.all,header_flushed,List.nil_append,List.length_append]
      exact Nat.le_trans (Nat.add_le_add_left pieces _) header_room)]
    exact ⟨_,rfl⟩
  rcases FileStore.add_cases n message s with ⟨files,_,result⟩ | ⟨files,refused,_⟩
  · exact ⟨_,result⟩
  · obtain ⟨through_files,through⟩ := through
    have both := (show Disk.append_message n ⟨s.current_body_offset,message.length⟩ message s.files = _ from refused).symm.trans through
    cases (Prod.mk.inj both).1

/-- A message other than the one that is held. -/
def other (held : Option Bytes) : Bytes := if held = some [] then [0] else []

theorem other_ne (held : Option Bytes) : held ≠ some (other held) := by
  rw [other]
  split_ifs with empty
  · rw [empty]
    decide
  · exact empty

theorem other_length (held : Option Bytes) : (other held).length ≤ 1 := by
  rw [other]
  split_ifs <;> decide

theorem load_cut (log : List (Nat × MessageDef)) (entry : Nat × MessageDef) (count : Nat) :
    ∃ index, load_message_index (text log ++ (index_line entry).take count) = some index :=
  ⟨_,by rw [text_lines,load_plain lines_plain ((index_line_plain entry).take count)]⟩

/-- The number of the line behind a cut one is mapped as before. -/
theorem load_merged {entry next : Nat × MessageDef} {count : Nat} (fits : ∀ entry ∈ log, EntryFits entry) (started : 0 < count)
    (cut : count < (index_line entry ++ [10]).length) (counts : ¬ (entry.1 = 0 ∧ count = 1)) :
    ∃ index, load_message_index (text log ++ ((index_line entry).take count ++ (index_line next ++ [10]))) = some index ∧
      index next.1 = log.foldl insert_def (fun _ => none) next.1 := by
  have written : text log ++ ((index_line entry).take count ++ (index_line next ++ [10])) =
      (log.map index_line ++ [(index_line entry).take count ++ index_line next]).flatMap (fun l => l ++ [10]) ++ [] := by
    rw [List.append_nil,List.flatMap_append,← text_lines]
    simp
  have plain : ∀ l ∈ log.map index_line ++ [(index_line entry).take count ++ index_line next], Plain l := by
    intro l member
    rcases List.mem_append.mp member with early | last
    · exact lines_plain l early
    · rw [List.mem_singleton.mp last]
      exact ((index_line_plain entry).take count).append (index_line_plain next)
  refine ⟨_,by rw [written,load_plain plain (List.forall_mem_nil _)],?_⟩
  rw [List.append_assoc,List.filterMap_append,lines_entries fits,List.foldl_append]
  cases read : index_entry ((index_line entry).take count ++ index_line next) with
  | none =>
    rw [List.singleton_append,List.filterMap_cons_none read]
    rfl
  | some merged =>
    rw [List.singleton_append,List.filterMap_cons_some read]
    exact if_neg (merged_entry started cut counts merged read).symm

/-- Both files have room for another line and a byte. -/
structure Room (s : FileStore arith (Disk rfc)) (message : Bytes) : Prop where
  body : s.files.body.written.length + message.length + 1 ≤ FILE_MAX
  header : s.files.header.written.length + 126 ≤ FILE_MAX

/-- A stop in the middle of a line leaves the message, and a part of the line. -/
theorem Sound.cut_files {before : List (Nat × Bytes)} {n count : Nat} {message : Bytes} {dir : Directory}
    (sound : Sound [] [] log before s) (small : n < U64) (cut : Cut n message count s dir) (started : 0 < count)
    (ended : count < (index_line (n,⟨s.current_body_offset,message.length⟩) ++ [10]).length) :
    dir.body = some (s.files.body.written ++ message) ∧
      dir.header = some (text log ++ (index_line (n,⟨s.current_body_offset,message.length⟩)).take count) ∧
      EntryFits (n,⟨s.current_body_offset,message.length⟩) := by
  obtain ⟨part,_,complete,body,bounded⟩ := cut.body
  rw [complete started] at body bounded
  have header := cut.header
  have header_text : s.files.header.written = text log := by
    rw [sound.header]
    rfl
  rw [List.take_append_of_le_length (by rw [List.length_append,List.length_singleton] at ended; omega),header_text] at header
  refine ⟨body,header,?_⟩
  rw [sound.level.offset]
  exact Persistence.entry_fits small bounded

/-- A short message is added to a store that was just opened, if the files have room for it. -/
theorem opens_adds {dir : Directory} {time : DateTime} {pair : Nat × Nat} {index : Nat → Option MessageDef}
    {t : FileStore arith (Disk rfc)} {message : Bytes} (opens : FileStore.Opens dir time pair index t)
    (faultless : t.files.faults = fun _ => .none) (short : message.length ≤ 1)
    (body_room : (dir.body.getD []).length + 1 ≤ FILE_MAX) (header_room : (dir.header.getD []).length + 63 ≤ FILE_MAX) :
    ∃ u, add 1 message t = (.ok (),u) := by
  have bounded : (dir.body.getD [] ++ message).length ≤ FILE_MAX := by
    rw [List.length_append]
    omega
  refine @add_through rfc arith t 1 message (by rw [Disk.fault,faultless]) (by rw [opens.body]) (by rw [opens.header])
    (Nat.lt_of_le_of_lt short (by decide)) ?_ ?_ ?_
  · rw [opens.body,← List.length_append]
    exact bounded
  · rw [opens.offset]
    exact Persistence.entry_fits (by decide) bounded
  · rw [opens.header]
    exact header_room

/-- A store opened again after one addition has the files it had, and the message behind them. -/
theorem opens_reopens {dir : Directory} {time now : DateTime} {pair : Nat × Nat} {index index' : Nat → Option MessageDef}
    {t u : FileStore arith (Disk rfc)} {n : Nat} {message : Bytes} (opens : FileStore.Opens dir time pair index t)
    (session : t.files.session = some (rfc.to_rfc3339 time)) (added : Added n message t u)
    (loaded : load_message_index (dir.header.getD [] ++ (index_line (n,⟨t.current_body_offset,message.length⟩) ++ [10])) = some index')
    (faults : Nat → FileFaults) :
    ∃ v : FileStore arith (Disk rfc), FileStore.new rfc faults now u.files.stopped = .ok v ∧
      v.files.body.written = dir.body.getD [] ++ message ∧ v.files.body_linked = true ∧ v.message_index = index' := by
  have u_body := added.files.body rfl
  have u_header := added.files.header rfl
  rw [opens.body,Appender.all,List.append_nil] at u_body
  rw [opens.header,Appender.all,List.append_nil] at u_header
  obtain ⟨v,opened,opens',_⟩ := @FileStore.new_opens arith rfc u.files.stopped time _ (0,0) index' now faults
    (by
      show get_or_create_session_time rfc now u.files.session = _
      rw [added.files.session,session]
      exact session_read time now) (by
      show read_initial_seqnums (if u.files.seqnums_linked then _ else _) = _
      rw [added.files.seqnums_linked,opens.seqnums_linked,added.files.seqnums,opens.seqnums]
      rfl) (by
      show load_message_index (Option.getD (if u.files.header_linked then _ else _) []) = _
      rw [added.files.header_linked,opens.header_linked,u_header]
      exact loaded)
  refine ⟨v,opened,?_,opens'.body_linked,opens'.index⟩
  rw [opens'.body]
  show Option.getD (if u.files.body_linked then _ else _) [] = _
  rw [added.files.body_linked,opens.body_linked,u_body]
  rfl

theorem Sound.lost {before : List (Nat × Bytes)} {n count : Nat} {message : Bytes} {dir : Directory}
    (sound : Sound [] [] log before s) (small : n < U64) (cut : Cut n message count s dir) (room : Room s message)
    (harmful : ¬ Harmless n count ⟨s.current_body_offset,message.length⟩) : ¬ Survives rfc arith before (n,message) dir := by
  intro survives
  obtain ⟨unstarted,unended,counts⟩ := not_or.mp harmful |>.imp_right not_or.mp
  have started : 0 < count := Nat.pos_of_ne_zero unstarted
  have ended : count < (index_line (n,⟨s.current_body_offset,message.length⟩) ++ [10]).length := Nat.lt_of_not_le unended
  obtain ⟨body,header,fits⟩ := sound.cut_files small cut started ended
  obtain ⟨pair,numbers⟩ := sound.numbers
  rw [← cut.seqnums] at numbers
  -- the store is opened, and a message is added that its number does not have
  obtain ⟨index,loaded⟩ := load_cut log (n,⟨s.current_body_offset,message.length⟩) count
  obtain ⟨t,opened,run⟩ := survives (fun _ => .none) 0
  obtain ⟨t',opened',opens,session,faultless⟩ := @FileStore.new_opens arith rfc dir _ _ _ _ 0 (fun _ => .none)
    (by rw [cut.session,sound.session]; exact session_read _ 0) numbers (by rw [header]; exact loaded)
  obtain rfl := Except.ok.inj (opened.symm.trans opened')
  obtain ⟨u,done⟩ := opens_adds opens faultless (other_length (latest before 1))
    (by rw [body,Option.getD_some,List.length_append]; exact room.body) (by
      have line := index_line_length fits
      have room_header := room.header
      rw [sound.header] at room_header
      have front : (text log).length + 126 ≤ FILE_MAX := room_header
      rw [header,Option.getD_some,List.length_append,List.length_take]
      omega)
  -- the store that is opened then maps the number as before
  obtain ⟨v,again,_,present⟩ := run [(1,other (latest before 1))] u (.added .start (by decide) done) u.files.stopped (.inr rfl)
    (fun _ => .none) 0
  obtain ⟨index',loaded',kept⟩ := @load_merged log (n,⟨s.current_body_offset,message.length⟩)
    (1,⟨t.current_body_offset,(other (latest before 1)).length⟩) count sound.entries started ended counts
  obtain ⟨v',again',v_body,linked,v_index⟩ := opens_reopens opens session (add_ok done) (by
    rw [header,Option.getD_some,List.append_assoc]
    exact loaded') (fun _ => .none)
  obtain rfl := Except.ok.inj (again.symm.trans again')
  rw [body,Option.getD_some] at v_body
  have read := present 1 _ rfl
  rcases sound.placed.listed 1 with ⟨_,unlisted⟩ | ⟨held,entry,latest_held,listed,stands⟩
  · rw [Failures.read_unlisted linked (by rw [v_index]; exact kept.trans unlisted)] at read
    cases read
  · have stands' := (stands.append message).append (other (latest before 1))
    rw [← v_body] at stands'
    rw [Failures.read_number linked (by rw [v_index]; exact kept.trans listed) stands'.read] at read
    cases read
    exact other_ne _ latest_held

/-- Whatever was added before to a store that was opened in an empty directory or reset:
    a stop while a message is added does no harm if the line of the message was not
    started, or was ended, or is the digit of the number zero; and only then, as long as
    the files have room for another message. -/
theorem torn_line_harmless_iff {first : FileStore arith (Disk rfc)} {now : DateTime} {before : List (Nat × Bytes)} {n count : Nat}
    {message : Bytes} {dir : Directory} (fresh : Fresh now first) (history : History first before s) (small : n < U64)
    (cut : Cut n message count s dir) :
    (Harmless n count ⟨s.current_body_offset,message.length⟩ → Survives rfc arith before (n,message) dir) ∧
      (Room s message → Survives rfc arith before (n,message) dir →
        Harmless n count ⟨s.current_body_offset,message.length⟩) := by
  obtain ⟨log,sound⟩ := History.sound (.inl rfl) (Sound.of_fresh fresh) history
  refine ⟨sound.survives small cut,fun room survives => ?_⟩
  by_contra harmful
  exact sound.lost small cut room harmful survives

end

namespace Sample
open HotFix.Persistence.Sample

theorem fresh_fresh : Fresh 0 fresh := new_fresh fresh_opened

/-- The store after its first message. -/
def one : FileStore .exact (Disk epoch) := (add 1 (ascii "ab") fresh).2

theorem one_history : History fresh [(1,ascii "ab")] one := .added .start (by decide) rfl

/-- The files after the digit of the number zero. -/
def digit : Directory := ⟨some (ascii "abcd"),some (ascii "1,0,2" ++ [10,48]),some [],some epoch_text⟩

theorem digit_cut : Cut 0 (ascii "cd") 1 one digit :=
  ⟨⟨ascii "cd",List.prefix_rfl,fun _ => rfl,by decide +kernel,by decide +kernel⟩,by decide +kernel,by decide +kernel,by decide +kernel⟩

/-- The files in the middle of the size of the first message. -/
def size : Directory := ⟨some (ascii "0123456789"),some (ascii "1,0,1"),some [],some epoch_text⟩

theorem size_cut : Cut 1 (ascii "0123456789") 5 fresh size :=
  ⟨⟨_,List.prefix_rfl,fun _ => rfl,rfl,by decide +kernel⟩,by decide +kernel,rfl,rfl⟩

end Sample

theorem zero_harmless : Survives Sample.epoch .exact [(1,ascii "ab")] (0,ascii "cd") Sample.digit :=
  (torn_line_harmless_iff Sample.fresh_fresh Sample.one_history (by decide) Sample.digit_cut).1 (.inr (.inr ⟨rfl,rfl⟩))

theorem torn_line_read : ¬ ∀ (first s : FileStore .exact (Disk Sample.epoch)) (now : DateTime) (before : List (Nat × Bytes))
    (n count : Nat) (message : Bytes) (dir : Directory), Fresh now first → History first before s → n < U64 →
      Cut n message count s dir → Survives Sample.epoch .exact before (n,message) dir := by
  intro always
  have survives := always Sample.fresh Sample.fresh 0 [] 1 5 (ascii "0123456789") Sample.size Sample.fresh_fresh .start (by decide)
    Sample.size_cut
  refine (Sound.of_fresh Sample.fresh_fresh).lost (by decide) Sample.size_cut ⟨by decide,by decide⟩ ?_ survives
  rintro (none | whole | ⟨zero,_⟩)
  · cases none
  · exact absurd whole (by decide +kernel)
  · cases zero

end HotFix.Torn
