import HotFix.Operations
import Mathlib.Data.List.Forall2

/-!
The answer to a ResendRequest, and how its receiver reads it. The loop over the
stored messages writes what `plan` says: copies of the application messages, and gap
fills for the runs of other messages between them. The gap fill for a run at the end
stops one number short, so the answer covers the range exactly when its last message
is an application message.
-/
namespace HotFix.Resend
open HotFix.Program HotFix.Protocol HotFix.Operations HotFix.Frames MessageStore
open HotFix.Sample (valid logon resend_request message_from config start connect receive after reachable_after Store)

/-! ### The plan of an answer -/

inductive Frame where
  | Fill (first next : Nat)
  | Copy (message : Message)

def fill (next : Nat) : Option Nat → List Frame
  | some first => [.Fill first next]
  | none => []

/-- The frames for the messages, with the start of the run that is to be filled and
    the last number seen. -/
def plan : List Message → Option Nat → Nat → List Frame
  | [],reset_start,sequence_number => fill sequence_number reset_start
  | m :: rest,reset_start,_ =>
    let n := m.msg_seq_num.getD 0
    if m.kind = some .Application then fill n reset_start ++ .Copy m :: plan rest none n
    else plan rest (some (reset_start.getD n)) n

/-- The rule of the receiver: each frame carries the expected number, and a gap fill
    moves forward. -/
def takes (expected : Nat) : Frame → Option Nat
  | .Fill first next => if first = expected ∧ expected < next then some next else none
  | .Copy m => if m.msg_seq_num = some expected then some (expected + 1) else none

/-- No run is left to be filled after the messages. -/
def Closed (messages : List Message) (reset_start : Option Nat) : Prop :=
  match messages.getLast? with
  | some m => m.kind = some .Application
  | none => reset_start = none

theorem closed_cons (m : Message) (rest : List Message) (reset_start : Option Nat) (n : Nat) :
    Closed (m :: rest) reset_start ↔
      Closed rest (if m.kind = some .Application then none else some (reset_start.getD n)) := by
  unfold Closed
  cases rest with
  | nil =>
    by_cases application : m.kind = some .Application
    · simp [application]
    · simp [application]
  | cons m' rest' =>
    have last := List.getLast?_eq_some_getLast (List.cons_ne_nil m' rest')
    simp [last,List.getLast?_cons_cons]

/-- Reading the plan from the start of the pending run ends after the last message,
    exactly when no run is left to be filled. -/
theorem plan_read (messages : List Message) : ∀ (first : Nat) (reset_start : Option Nat) (sequence_number : Nat),
    Numbered first messages → (∀ start, reset_start = some start → start < first ∧ sequence_number + 1 = first) →
    ((plan messages reset_start sequence_number).foldlM takes (reset_start.getD first) = some (first + messages.length) ↔
      Closed messages reset_start) := by
  induction messages with
  | nil =>
    intro first reset_start sequence_number _ pending
    cases reset_start with
    | none => simp [plan,fill,Closed]
    | some start =>
      obtain ⟨-,last⟩ := pending start rfl
      by_cases forwards : start < sequence_number
      · simp [plan,fill,takes,forwards,Closed]
        omega
      · simp [plan,fill,takes,forwards,Closed]
  | cons m rest ih =>
    intro first reset_start sequence_number numbered pending
    obtain ⟨number,later⟩ := numbered
    have total : first + (m :: rest).length = first + 1 + rest.length := by
      simp only [List.length_cons]
      omega
    rw [total,closed_cons m rest reset_start first]
    by_cases application : m.kind = some .Application
    · -- the copy is taken at its number, with or without a gap fill before it
      have copied : (plan (m :: rest) reset_start sequence_number).foldlM takes (reset_start.getD first) =
          (plan rest none first).foldlM takes (first + 1) := by
        cases reset_start with
        | none => simp [plan,fill,takes,number,application]
        | some start => simp [plan,fill,takes,number,application,(pending start rfl).1]
      rw [copied,if_pos application]
      exact ih (first + 1) none first later (by simp)
    · have skipped : plan (m :: rest) reset_start sequence_number = plan rest (some (reset_start.getD first)) first := by
        simp [plan,number,application]
      rw [skipped,if_neg application]
      refine ih (first + 1) (some (reset_start.getD first)) first later ?_
      intro start here
      cases here
      cases reset_start with
      | none => exact ⟨Nat.lt_succ_self first,rfl⟩
      | some start => exact ⟨Nat.lt_succ_of_lt (pending start rfl).1,rfl⟩

/-- The message that a frame copies. -/
def copied : Frame → Option Message
  | .Fill _ _ => none
  | .Copy m => some m

/-- The copies are the application messages in their order. -/
theorem plan_copies (messages : List Message) : ∀ reset_start sequence_number,
    (plan messages reset_start sequence_number).filterMap copied =
      messages.filter (fun m => m.kind = some .Application) := by
  have filled : ∀ next reset_start, (fill next reset_start).filterMap copied = [] := by
    intro next reset_start
    cases reset_start <;> rfl
  induction messages with
  | nil => exact fun reset_start sequence_number => filled sequence_number reset_start
  | cons m rest ih =>
    intro reset_start sequence_number
    by_cases application : m.kind = some .Application
    · simp [plan,application,filled,copied,ih]
    · simp [plan,application,ih]

/-! ### The frames of an answer -/

section
variable (env : Env)

/-- The copy of a stored message, made at some reading of the clock. -/
def Resent (m frame : Message) : Prop :=
  ∃ reading, frame = ((prepare_message_for_resend m (env.timestamp_now reading)).1.encode env.message_config).1

/-- The frame is what the plan says. -/
def Renders : Frame → Message → Prop
  | .Fill first next,frame => frame.kind = some .SequenceReset ∧ frame.body.get_bool GAP_FILL_FLAG = some true ∧
      frame.msg_seq_num = some first ∧ frame.body.get_u64 NEW_SEQ_NO = some next
  | .Copy m,frame => m.kind = some .Application ∧ Resent env m frame

end

/-- How a receiver of this repository reads a frame: the number it expects next, or
    none if the frame is not taken. -/
def take_frame (expected : Nat) (frame : Message) : Option Nat :=
  match frame.kind with
  | some .Application => if frame.msg_seq_num = some expected then some (expected + 1) else none
  | some .SequenceReset =>
    match frame.body.get_bool GAP_FILL_FLAG,frame.body.get_u64 NEW_SEQ_NO with
    | some true,some new_seq_no =>
      if frame.msg_seq_num = some expected ∧ expected < new_seq_no then some new_seq_no else none
    | _,_ => none
  | _ => none

section
variable {env : Env}

theorem resent_kind {m frame : Message} (resent : Resent env m frame) : frame.kind = m.kind := by
  obtain ⟨reading,rfl⟩ := resent
  unfold Message.kind
  rw [encode_msg_type,prepared_msg_type]

theorem resent_msg_seq_num {m frame : Message} (resent : Resent env m frame) : frame.msg_seq_num = m.msg_seq_num := by
  obtain ⟨reading,rfl⟩ := resent
  rw [encode_msg_seq_num,prepared_msg_seq_num]

theorem take_frame_renders {planned : Frame} {frame : Message} (renders : Renders env planned frame) (expected : Nat) :
    take_frame expected frame = takes expected planned := by
  cases planned with
  | Fill first next =>
    obtain ⟨kind,flag,number,target⟩ := renders
    simp [take_frame,takes,kind,flag,number,target]
  | Copy m =>
    obtain ⟨kind,resent⟩ := renders
    simp [take_frame,takes,resent_kind resent,kind,resent_msg_seq_num resent]

/-- The frames are read as the plan is. -/
theorem read_renders {planned : List Frame} {frames : List Message}
    (renders : List.Forall₂ (Renders env) planned frames) : ∀ expected,
    frames.foldlM take_frame expected = planned.foldlM takes expected := by
  induction renders with
  | nil => exact fun _ => rfl
  | cons first _ ih =>
    intro expected
    simp only [List.foldlM_cons,take_frame_renders first,ih]

/-- The application frames are the planned copies. -/
theorem copies_render {planned : List Frame} {frames : List Message}
    (renders : List.Forall₂ (Renders env) planned frames) :
    List.Forall₂ (Resent env) (planned.filterMap copied) (frames.filter (fun frame => frame.kind = some .Application)) := by
  induction renders with
  | nil => exact .nil
  | @cons first frame _ _ here _ ih =>
    cases first with
    | Fill start next =>
      obtain ⟨kind,-⟩ := here
      simpa [List.filterMap_cons,copied,kind] using ih
    | Copy m =>
      obtain ⟨kind,resent⟩ := here
      have application : frame.kind = some .Application := (resent_kind resent).trans kind
      simpa [copied,application] using ⟨resent,ih⟩

end

/-! ### The loop writes the plan -/

section
variable {S : Type} {env : Env} {writer : WriterRef}

/-- Between the worlds only the planned frames were written. -/
def Wrote (env : Env) (writer : WriterRef) (planned : List Frame) (w w' : World S) : Prop :=
  ∃ frames : List (Message × Bytes), List.Forall₂ (Renders env) planned (frames.map Prod.fst) ∧
    w'.journal = w.journal ++ frames.map (fun frame => .Sent writer frame.1 frame.2)

theorem wrote_refl (w : World S) : Wrote env writer [] w w := ⟨[],.nil,by simp⟩

theorem Wrote.append {planned planned' : List Frame} {w w' w'' : World S} (first : Wrote env writer planned w w')
    (second : Wrote env writer planned' w' w'') : Wrote env writer (planned ++ planned') w w'' := by
  obtain ⟨frames,renders,journal⟩ := first
  obtain ⟨frames',renders',journal'⟩ := second
  refine ⟨frames ++ frames',?_,by simp [journal',journal]⟩
  rw [List.map_append]
  exact List.rel_append renders renders'

theorem msg_seq_num_fits {m : Message} {n : Nat} (number : m.msg_seq_num = some n) : n < U64 := by
  unfold Message.msg_seq_num FieldMap.get_u64 at number
  obtain ⟨data,-,parsed⟩ := Option.bind_eq_some_iff.mp number
  exact Decimal.parseBelow_lt parsed

theorem flush_reset_writes {reset_start : Option Nat} {next : Nat} (w : World S)
    (fits : ∀ start, reset_start = some start → start < U64 ∧ next < U64) :
    Runs (flush_reset env writer next reset_start) w (fun _ w' => Wrote env writer (fill next reset_start) w w')
      (fun _ _ => False) := by
  cases reset_start with
  | none => exact wrote_refl w
  | some start =>
    obtain ⟨start_fits,next_fits⟩ := fits start rfl
    unfold flush_reset send_sequence_reset
    rw [runs_bind,runs_timestamp_now]
    obtain ⟨frame,generated,kind,number,target,flag⟩ := gapFill_generated env.config.begin_string
      env.config.sender_comp_id env.config.target_comp_id start next (env.timestamp_now w.clock_readings)
    rw [generated]
    exact ⟨[frame],.cons ⟨kind,flag,number start_fits,target next_fits⟩ .nil,rfl⟩

/-- The loop writes its plan and always returns. -/
theorem resend_loop_writes {messages : List Message} {raws : List Bytes}
    (parsed : List.Forall₂ (fun raw m => env.build raw = .Valid m) raws messages) :
    ∀ (first : Nat) (reset_start : Option Nat) (sequence_number : Nat) (w : World S), Numbered first messages →
      (∀ m ∈ messages, m.kind.isSome) →
      (∀ start, reset_start = some start → start < U64 ∧ sequence_number < U64) →
      Runs (resend_loop env writer raws reset_start sequence_number) w
        (fun _ w' => Wrote env writer (plan messages reset_start sequence_number) w w') (fun _ _ => False) := by
  induction parsed with
  | nil => exact fun first reset_start sequence_number w _ _ fits => flush_reset_writes w fits
  | @cons raw m raws rest built _ ih =>
    intro first reset_start sequence_number w numbered typed fits
    obtain ⟨number,later⟩ := numbered
    have fits_here := msg_seq_num_fits number
    have typed_rest : ∀ m ∈ rest, m.kind.isSome := fun m member => typed m (by simp [member])
    have typed_here := typed m (by simp)
    unfold resend_loop get_msg_seq_num
    simp only [built,ParsedMessage.into_message,number,pure_bind]
    cases message_type : m.msg_type with
    | none => simp [Message.kind,message_type] at typed_here
    | some t =>
      have kind : m.kind = some (msg_kind t) := by simp [Message.kind,message_type]
      by_cases admin : is_admin t = true
      · have other : m.kind ≠ some .Application := by
          rw [kind]
          simpa using (is_admin_iff t).mp admin
        simp only [admin,if_true]
        have skipped : plan (m :: rest) reset_start sequence_number = plan rest (some (reset_start.getD first)) first := by
          simp [plan,number,other]
        rw [skipped]
        refine ih (first + 1) _ first w later typed_rest ?_
        intro start here
        cases here
        cases reset_start with
        | none => exact ⟨fits_here,fits_here⟩
        | some start => exact ⟨(fits start rfl).1,fits_here⟩
      · have application : m.kind = some .Application := by
          rw [kind]
          simpa using mt (is_admin_iff t).mpr admin
        have copies : plan (m :: rest) reset_start sequence_number =
            fill first reset_start ++ ([.Copy m] ++ plan rest none first) := by
          simp [plan,number,application]
        simp only [admin,Bool.false_eq_true,if_false]
        rw [copies,runs_bind]
        refine runs_mono (flush_reset_writes w (fun start here => ⟨(fits start here).1,fits_here⟩)) ?_ (fun _ _ no => no)
        intro _ w₁ filled
        rw [runs_bind,runs_timestamp_now,runs_bind]
        refine runs_note.mpr (runs_mono (ih (first + 1) none first _ later typed_rest (by simp)) ?_ (fun _ _ no => no))
        intro _ w₂ rest_wrote
        have copied_one : Wrote env writer [.Copy m] w₁ { w₁ with
            clock_readings := w₁.clock_readings + 1
            journal := w₁.journal ++ [.Sent writer
              ((prepare_message_for_resend m (env.timestamp_now w₁.clock_readings)).1.encode env.message_config).1
              ((prepare_message_for_resend m (env.timestamp_now w₁.clock_readings)).1.encode env.message_config).2] } :=
          ⟨[_],.cons ⟨application,_,rfl⟩ .nil,rfl⟩
        exact filled.append (copied_one.append rest_wrote)

/-! ### The range of a request -/

variable [MessageStore S]

/-- The store holds exactly the messages sent, and each is read as valid. -/
structure Outbox (env : Env) (raw : Nat → Bytes) (message : Nat → Message) (s : S) : Prop where
  valid : ∀ n, 1 ≤ n → n < next_sender_seq_number s → env.build (raw n) = .Valid (message n)
  numbered : ∀ n, 1 ≤ n → n < next_sender_seq_number s → (message n).msg_seq_num = some n
  typed : ∀ n, 1 ≤ n → n < next_sender_seq_number s → (message n).kind.isSome
  stored : ∀ first last, 1 ≤ first → first ≤ last → last < next_sender_seq_number s →
    get_slice first last s = .ok ((List.range' first (last + 1 - first)).map raw)

/-- The messages with the numbers from `first` to `last`. -/
def slice (message : Nat → Message) (first last : Nat) : List Message :=
  (List.range' first (last + 1 - first)).map message

theorem numbered_range (message : Nat → Message) (count : Nat) : ∀ first,
    (∀ n ∈ List.range' first count, (message n).msg_seq_num = some n) →
    Numbered first ((List.range' first count).map message) := by
  induction count with
  | zero => exact fun _ _ => trivial
  | succ count ih =>
    intro first numbered
    rw [List.range'_succ] at numbered ⊢
    exact ⟨numbered first (by simp),ih (first + 1) (fun n member => numbered n (by simp [member]))⟩

theorem slice_length (message : Nat → Message) {first last : Nat} (order : first ≤ last) :
    first + (slice message first last).length = last + 1 := by
  simp only [slice,List.length_map,List.length_range']
  omega

/-- A range is closed exactly when its last message is an application message. -/
theorem slice_closed (message : Nat → Message) {first last : Nat} (order : first ≤ last) :
    Closed (slice message first last) none ↔ (message last).kind = some .Application := by
  have found : (slice message first last).getLast? = some (message last) := by
    rw [slice,show last + 1 - first = last - first + 1 by omega,List.range'_concat,List.map_append,
      List.getLast?_append,Nat.one_mul,Nat.add_sub_cancel' order]
    rfl
  unfold Closed
  rw [found]

section
variable {raw : Nat → Bytes} {message : Nat → Message} {first last : Nat}

theorem Outbox.slice_numbered {s : S} (held : Outbox env raw message s) (positive : 1 ≤ first)
    (within : last < next_sender_seq_number s) : Numbered first (slice message first last) := by
  refine numbered_range message _ first (fun n member => ?_)
  rw [List.mem_range'_1] at member
  exact held.numbered n (by omega) (by omega)

theorem resend_messages_writes {w : World S} (held : Outbox env raw message w.store) (positive : 1 ≤ first)
    (order : first ≤ last) (within : last < next_sender w) :
    Runs (resend_messages env writer first last) w
      (fun _ w' => Wrote env writer (plan (slice message first last) none 0) w w') (fun _ _ => False) := by
  have inside : ∀ n ∈ List.range' first (last + 1 - first), 1 ≤ n ∧ n < next_sender w := by
    intro n member
    rw [List.mem_range'_1] at member
    omega
  have parsed : List.Forall₂ (fun raw m => env.build raw = .Valid m) ((List.range' first (last + 1 - first)).map raw)
      (slice message first last) := by
    rw [slice,List.forall₂_map_left_iff,List.forall₂_map_right_iff,List.forall₂_same]
    exact fun n member => held.valid n (inside n member).1 (inside n member).2
  have typed : ∀ m ∈ slice message first last, m.kind.isSome := by
    intro m member
    obtain ⟨n,here,rfl⟩ := List.mem_map.mp member
    exact held.typed n (inside n here).1 (inside n here).2
  unfold resend_messages
  rw [runs_bind,runs_get,held.stored first last positive order within]
  exact resend_loop_writes parsed first none 0 w (held.slice_numbered positive within) typed (by simp)

/-! ### The answer covers the range -/

/-- The frames among the effects. -/
def sent_frames (journal : List Effect) : List Message :=
  journal.filterMap (fun entry =>
    match entry with
    | .Sent _ message _ => some message
    | _ => none)

/-- A receiver that expects the first number of the range takes every frame and then
    expects what follows the range; the application frames are the stored ones. -/
structure Covers (env : Env) (message : Nat → Message) (first last : Nat) (frames : List Message) : Prop where
  read : frames.foldlM take_frame first = some (last + 1)
  copies : List.Forall₂ (Resent env) ((slice message first last).filter (fun m => m.kind = some .Application))
    (frames.filter (fun frame => frame.kind = some .Application))

theorem covers_iff {frames : List Message} (order : first ≤ last) (numbered : Numbered first (slice message first last))
    (renders : List.Forall₂ (Renders env) (plan (slice message first last) none 0) frames) :
    Covers env message first last frames ↔ (message last).kind = some .Application := by
  have read := plan_read (slice message first last) first none 0 numbered (by simp)
  rw [slice_length message order,slice_closed message order] at read
  rw [← read]
  constructor
  · intro covers
    have taken := covers.read
    rwa [read_renders renders] at taken
  · intro taken
    refine ⟨(read_renders renders first).trans taken,?_⟩
    rw [← plan_copies (slice message first last) none 0]
    exact copies_render renders

/-- Counting an inbound message leaves the outbound messages alone. -/
def KeepsMessages (S : Type) [MessageStore S] : Prop :=
  ∀ (s : S) first last, get_slice first last (increment_target_seq_number s).2 = get_slice first last s

variable [LawfulMessageStore S]

theorem Outbox.counted {s : S} (held : Outbox env raw message s) (succeeds : StoreSucceeds S) (keeps : KeepsMessages S) :
    next_sender_seq_number (increment_target_seq_number s).2 = next_sender_seq_number s ∧
      Outbox env raw message (increment_target_seq_number s).2 := by
  have same : next_sender_seq_number (increment_target_seq_number s).2 = next_sender_seq_number s := by
    obtain ⟨-,moved⟩ | ⟨⟨e,failed⟩,-⟩ := LawfulMessageStore.increment_target_moves s
    · exact congrArg Prod.fst moved
    · rw [succeeds.increment_target_ok s] at failed
      cases failed
  refine ⟨same,?_,?_,?_,?_⟩
  · rw [same]
    exact held.valid
  · rw [same]
    exact held.numbered
  · rw [same]
    exact held.typed
  · intro first last positive order within
    rw [keeps]
    exact held.stored first last positive order (same ▸ within)

variable (writer) in
/-- The answer to a request returns, with the frames of the plan. -/
theorem answer_writes {m : Message} {n requested : Nat} {w : World S} (succeeds : StoreSucceeds S)
    (keeps : KeepsMessages S) (held : Outbox env raw message w.store) (number : m.msg_seq_num = some n)
    (begins : m.body.get_u64 BEGIN_SEQ_NO = some first) (ends : m.body.get_u64 END_SEQ_NO = some requested)
    (last_eq : last = if requested = 0 then next_sender w - 1 else min requested (next_sender w - 1))
    (positive : 1 ≤ first) (order : first ≤ last) :
    Runs (answer_resend_request env writer m) w
      (fun _ w' => List.Forall₂ (Renders env) (plan (slice message first last) none 0)
        (sent_frames (w'.journal.drop w.journal.length))) (fun _ _ => False) := by
  have within : last < next_sender w := by
    have some_sent := (LawfulMessageStore.next_pos w.store).1
    unfold next_sender at last_eq ⊢
    split_ifs at last_eq <;> omega
  have frames : ∀ {frames : List (Message × Bytes)},
      sent_frames (frames.map (fun frame => .Sent writer frame.1 frame.2)) = frames.map Prod.fst := by
    intro frames
    simp [sent_frames,List.filterMap_map]
  unfold answer_resend_request get_msg_seq_num
  rw [number]
  simp only [pure_bind]
  rw [runs_bind,runs_get,begins,ends]
  dsimp only
  rw [runs_bind,runs_get,← last_eq]
  by_cases expected : n = next_target w
  · obtain ⟨same,held'⟩ := held.counted succeeds keeps
    have counted := store_operation_ok [.TargetIncremented] (succeeds.increment_target_ok w.store)
    rw [if_pos expected]
    unfold increment_target
    rw [runs_congr (bind_ok counted)]
    refine runs_mono (resend_messages_writes held' positive order (Nat.lt_of_lt_of_eq within same.symm)) ?_
      (fun _ _ no => no)
    rintro _ w' ⟨written,renders,journal⟩
    rw [journal,List.append_assoc,List.drop_left]
    change List.Forall₂ _ _ (sent_frames (written.map _))
    rw [frames]
    exact renders
  · rw [if_neg expected]
    refine runs_mono (resend_messages_writes held positive order within) ?_ (fun _ _ no => no)
    rintro _ w' ⟨written,renders,journal⟩
    rw [journal,List.drop_left,frames]
    exact renders

/-- The answer to a request covers its range exactly when the last message of the
    range is an application message. -/
theorem answer_covers_iff {m : Message} {n requested : Nat} {w : World S} (succeeds : StoreSucceeds S)
    (keeps : KeepsMessages S) (held : Outbox env raw message w.store) (number : m.msg_seq_num = some n)
    (begins : m.body.get_u64 BEGIN_SEQ_NO = some first) (ends : m.body.get_u64 END_SEQ_NO = some requested)
    (last_eq : last = if requested = 0 then next_sender w - 1 else min requested (next_sender w - 1))
    (positive : 1 ≤ first) (order : first ≤ last) :
    (∃ w', answer_resend_request env writer m w = .ok () w' ∧
        Covers env message first last (sent_frames (w'.journal.drop w.journal.length))) ↔
      (message last).kind = some .Application := by
  have writes := answer_writes writer succeeds keeps held number begins ends last_eq positive order
  have within : last < next_sender_seq_number w.store := by
    have some_sent := (LawfulMessageStore.next_pos w.store).1
    unfold next_sender at last_eq
    split_ifs at last_eq <;> omega
  have numbered := held.slice_numbered positive within
  unfold Runs at writes
  split at writes
  · next w' executed =>
    rw [executed,← covers_iff order numbered writes]
    constructor
    · rintro ⟨_,⟨⟩,covers⟩
      exact covers
    · exact fun covers => ⟨w',rfl,covers⟩
  · exact writes.elim

end

end

/-! ### The store in memory -/

/-- The message that the store in memory holds under a number, if it is read as valid. -/
def read_stored (env : Env) (s : InMemoryMessageStore .exact) (n : Nat) : Option Message :=
  match s.messages n with
  | some raw =>
    match env.build raw with
    | .Valid m => some m
    | _ => none
  | none => none

/-- The store holds every message it has counted, under its number. -/
def Complete (env : Env) (s : InMemoryMessageStore .exact) : Prop :=
  ∀ n < s.sender_seq_number + 1, 1 ≤ n →
    (read_stored env s n).any (fun m => m.msg_seq_num = some n && m.kind.isSome) = true

instance (env : Env) (s : InMemoryMessageStore .exact) : Decidable (Complete env s) :=
  inferInstanceAs (Decidable (∀ n < _,_ → _))

theorem read_stored_some {env : Env} {s : InMemoryMessageStore .exact} {n : Nat} {m : Message}
    (read : read_stored env s n = some m) : ∃ raw, s.messages n = some raw ∧ env.build raw = .Valid m := by
  unfold read_stored at read
  split at read
  · next raw stored =>
    split at read
    · next built =>
      cases read
      exact ⟨raw,stored,built⟩
    · cases read
  · cases read

theorem outbox_inMemory {env : Env} {s : InMemoryMessageStore .exact} (complete : Complete env s) :
    Outbox env (fun n => (s.messages n).getD []) (fun n => (read_stored env s n).getD (Message.new [] [])) s := by
  have there : ∀ n, 1 ≤ n → n < s.sender_seq_number + 1 → ∃ raw m, s.messages n = some raw ∧ env.build raw = .Valid m ∧
      read_stored env s n = some m ∧ m.msg_seq_num = some n ∧ m.kind.isSome := by
    intro n low high
    obtain ⟨m,read,fine⟩ := (Option.any_eq_true _ _).mp (complete n high low)
    obtain ⟨raw,stored,built⟩ := read_stored_some read
    rw [Bool.and_eq_true,decide_eq_true_eq] at fine
    exact ⟨raw,m,stored,built,read,fine.1,fine.2⟩
  refine ⟨?_,?_,?_,?_⟩
  · intro n low high
    obtain ⟨raw,m,stored,built,read,-⟩ := there n low high
    simpa [stored,read] using built
  · intro n low high
    obtain ⟨raw,m,-,-,read,number,-⟩ := there n low high
    simpa [read] using number
  · intro n low high
    obtain ⟨raw,m,-,-,read,-,typed⟩ := there n low high
    simpa [read] using typed
  · intro first last positive order within
    have sliced : (List.range' first (last + 1 - first)).filterMap s.messages =
        (List.range' first (last + 1 - first)).map (fun n => (s.messages n).getD []) := by
      rw [← List.filterMap_eq_map]
      refine List.filterMap_congr (fun n member => ?_)
      rw [List.mem_range'_1] at member
      have high : last < s.sender_seq_number + 1 := within
      obtain ⟨raw,m,stored,-⟩ := there n (by omega) (by omega)
      simp [stored]
    change InMemoryMessageStore.get_slice first last s = _
    unfold InMemoryMessageStore.get_slice
    simp only
    rw [if_neg (Nat.not_lt_of_le order),sliced]

theorem keepsMessages_inMemory : KeepsMessages (InMemoryMessageStore .exact) := fun _ _ _ => rfl

/-- A report of the session itself. -/
def own_report : OutboundMessage := ⟨ascii "8",fun m => .ok m⟩

/-- The peer asks for everything from number 1 on. -/
def session : Env :=
  valid [logon,resend_request 2 1 0,message_from config.sender_comp_id config.target_comp_id (ascii "8") 2 []]

def logged_on : World Store := after session [connect,receive logon]

/-- The messages of the session are its Logon and a report. -/
def reported : World Store := after session [connect,receive logon,.Outbound own_report]

/-- The Logon of the session is the only message, and the gap fill that answers the
    request for it does not move forward. -/
theorem logon_not_covered :
    Reachable session (fun _ _ => True) start logged_on ∧ Complete session logged_on.store ∧ next_sender logged_on = 2 ∧
      (resend_request 2 1 0).body.get_u64 BEGIN_SEQ_NO = some 1 ∧ (resend_request 2 1 0).body.get_u64 END_SEQ_NO = some 0 ∧
      returned (answer_resend_request session ⟨0⟩ (resend_request 2 1 0) logged_on) = true ∧
      (sent_frames ((final (answer_resend_request session ⟨0⟩ (resend_request 2 1 0) logged_on)).journal.drop
        logged_on.journal.length)).map (fun frame => (frame.msg_seq_num,frame.body.get_u64 NEW_SEQ_NO)) =
        [(some 1,some 1)] ∧
      (sent_frames ((final (answer_resend_request session ⟨0⟩ (resend_request 2 1 0) logged_on)).journal.drop
        logged_on.journal.length)).foldlM take_frame 1 = none :=
  ⟨reachable_after (by decide +kernel),by decide +kernel⟩

/-- A report at the end of the range is covered, and the Logon before it. -/
theorem report_covered :
    ∃ w', answer_resend_request session ⟨0⟩ (resend_request 2 1 0) reported = .ok () w' ∧
      Covers session (fun n => (read_stored session reported.store n).getD (Message.new [] [])) 1 2
        (sent_frames (w'.journal.drop reported.journal.length)) :=
  (answer_covers_iff (InMemoryMessageStore.succeeds .exact) keepsMessages_inMemory
    (outbox_inMemory (by decide +kernel)) (show (resend_request 2 1 0).msg_seq_num = some 2 by decide +kernel)
    (by decide +kernel) (show _ = some 0 by decide +kernel) (by decide +kernel) (by decide) (by decide)).mpr (by decide +kernel)

end HotFix.Resend
