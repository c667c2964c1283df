import HotFix.Primitives
import Mathlib.Data.List.Nodup

/-!
The numbers of outbound messages. A run of the session is a sequence of acts: a
message is numbered, stored and written, or numbered and stored without leaving,
or its number is taken and its frame is lost, a copy of a stored message or a gap
fill is written, or the store starts over. The acts since the last restart say
what the store holds and how the frames on the wire are numbered.
-/
namespace HotFix.Numbering
open HotFix.Program HotFix.Frames HotFix.Sending HotFix.Primitives MessageStore
open HotFix.Sample (valid logon message start connect receive after reachable_after Store)
variable {S : Type} [MessageStore S]

/-! ### Acts -/

/-- The write leaves the number of the message as it finds it. -/
def KeepsNumber (o : OutboundMessage) : Prop := ∀ m m', o.write m = .ok m' → m'.msg_seq_num = m.msg_seq_num

/-- The write leaves the header as it finds it. -/
def KeepsHeader (o : OutboundMessage) : Prop := ∀ m m', o.write m = .ok m' → m'.header = m.header

def frame_bytes : Effect → Option Bytes
  | .Sent _ _ raw => some raw
  | _ => none

/-- The frames that were handed to a writer. -/
def frames (journal : List Effect) : List Bytes := journal.filterMap frame_bytes

/-- A frame of a resend: a gap fill, or a copy of a message that the store cut out. -/
inductive IsCopy (env : Env) (s : S) (raw : Bytes) : Prop where
  | gapFill {first last : Nat} {now : Timestamp} {m : Message}
      (written : generate_message env.config.begin_string env.config.sender_comp_id env.config.target_comp_id first
        (SequenceReset.outbound ⟨true,last⟩) now = .ok (m,raw)) : IsCopy env s raw
  | resent {first last : Nat} {now : Timestamp} {messages : List Bytes} {old : Bytes} {m : Message}
      (slice : get_slice first last s = .ok messages) (member : old ∈ messages)
      (read : (env.build old).into_message = some m)
      (encoded : ((prepare_message_for_resend m now).1.encode env.message_config).2 = raw) : IsCopy env s raw

inductive Act where
  | Aside
  | Sent (n : Nat) (raw : Bytes)
  | Kept (n : Nat) (raw : Bytes)
  | Lost (n : Nat)
  | Copied (raw : Bytes)
  | Restarted
  deriving DecidableEq

/-- What an act leaves of the sending side: the next number, the messages, and the
    frames it adds. -/
def Leaves (w w' : World S) (next : Nat) (messages : Nat → Option Bytes) (added : List Bytes) : Prop :=
  next_sender w' = next ∧ stored w'.store = messages ∧ frames w'.journal = frames w.journal ++ added

inductive Performs (env : Env) (w w' : World S) : Act → Prop where
  | aside (left : Leaves w w' (next_sender w) (stored w.store) []) : Performs env w w' .Aside
  | sent {o : OutboundMessage} {m : Message} {raw : Bytes} (keeps : KeepsNumber o) (frame : generated env o w = .ok (m,raw))
      (left : Leaves w w' (next_sender w + 1) (Function.update (stored w.store) (next_sender w) (some raw)) [raw]) :
      Performs env w w' (.Sent (next_sender w) raw)
  | kept {o : OutboundMessage} {m : Message} {raw : Bytes} (keeps : KeepsNumber o) (frame : generated env o w = .ok (m,raw))
      (left : Leaves w w' (next_sender w + 1) (Function.update (stored w.store) (next_sender w) (some raw)) []) :
      Performs env w w' (.Kept (next_sender w) raw)
  | lost {raw : Bytes} (taken : (increment_sender_seq_number w.store).1 = .ok ())
      (failed : (add (next_sender w) raw (increment_sender_seq_number w.store).2).1 ≠ .ok ())
      (left : Leaves w w' (next_sender w + 1) (stored w.store) []) : Performs env w w' (.Lost (next_sender w))
  | copied {raw : Bytes} (copy : IsCopy env w.store raw) (left : Leaves w w' (next_sender w) (stored w.store) [raw]) :
      Performs env w w' (.Copied raw)
  | restarted (left : Leaves w w' 1 (fun _ => none) []) : Performs env w w' .Restarted

/-- The acts that lead from one world to another. -/
inductive Acts (env : Env) (start : World S) : List Act → World S → Prop where
  | nil : Acts env start [] start
  | snoc {acts : List Act} {v w : World S} {act : Act} (before : Acts env start acts v) (performed : Performs env v w act) :
      Acts env start (acts ++ [act]) w

theorem Acts.trans {env : Env} {u v w : World S} {first second : List Act} (before : Acts env u first v)
    (next : Acts env v second w) : Acts env u (first ++ second) w := by
  induction next with
  | nil => simpa using before
  | snoc _ performed ih => simpa [List.append_assoc] using ih.snoc performed

theorem Acts.single {env : Env} {w w' : World S} {act : Act} (performed : Performs env w w' act) :
    Acts env w [act] w' :=
  Acts.nil.snoc performed

/-- Some acts lead from one world to the other. -/
def Acting (env : Env) (w w' : World S) : Prop := ∃ acts, Acts env w acts w'

theorem acting_of {env : Env} {w w' : World S} {act : Act} (performed : Performs env w w' act) : Acting env w w' :=
  ⟨_,.single performed⟩

theorem acting_trans {env : Env} (u v w : World S) : Acting env u v → Acting env v w → Acting env u w := by
  rintro ⟨first,before⟩ ⟨second,next⟩
  exact ⟨_,before.trans next⟩

theorem frames_aside {entries : List Effect} (silent : entries.any is_frame = false) : frames entries = [] := by
  rw [frames,List.filterMap_eq_nil_iff]
  intro entry member
  have other := List.any_eq_false.mp silent entry member
  cases entry <;> first | rfl | simp [is_frame] at other

theorem acting_aside {env : Env} {w w' : World S} (aside : Aside w w') : Acting env w w' := by
  obtain ⟨store,entries,journal,silent⟩ := aside
  refine acting_of (.aside ⟨by rw [next_sender,store,next_sender],by rw [store],?_⟩)
  rw [journal,frames,List.filterMap_append]
  exact congrArg (frames w.journal ++ ·) (frames_aside silent)

/-! ### The operations as acts -/

section
variable {env : Env} {w : World S} [LawfulMessageStore S] [LawfulOutbox S]

omit [LawfulMessageStore S] [LawfulOutbox S] in
/-- A store operation that keeps the sending side does nothing to it. -/
theorem store_operation_aside {operation : S → Except StoreError Unit × S} {effects : List Effect}
    (number : next_sender_seq_number (operation w.store).2 = next_sender w)
    (messages : stored (operation w.store).2 = stored w.store) (silent : effects.any is_frame = false) :
    Performs env w (final (store_operation operation effects w)) .Aside := by
  rw [Operations.store_operation_eq]
  rcases result : operation w.store with ⟨e | _,s⟩
  · rw [result] at number messages
    exact .aside ⟨number,messages,by simp⟩
  · rw [result] at number messages
    refine .aside ⟨number,messages,?_⟩
    simp only [final_ok,frames,List.filterMap_append]
    exact congrArg (frames w.journal ++ ·) (frames_aside silent)

theorem increment_target_performs (w : World S) : Performs env w (final (increment_target w)) .Aside := by
  refine store_operation_aside ?_ (LawfulOutbox.increment_target_keeps w.store) rfl
  obtain ⟨-,left⟩ | ⟨-,left⟩ := LawfulMessageStore.increment_target_moves w.store
  · exact congrArg Prod.fst left
  · exact congrArg Prod.fst left

theorem set_target_performs (n : Nat) (w : World S) : Performs env w (final (set_target n w)) .Aside := by
  refine store_operation_aside ?_ (LawfulOutbox.set_target_keeps n w.store) rfl
  obtain ⟨-,left⟩ | ⟨-,left⟩ := LawfulMessageStore.set_target_moves n w.store
  · exact congrArg Prod.fst left
  · exact congrArg Prod.fst left

/-- A reset starts over, or fails and changes nothing. -/
theorem reset_store_performs (env : Env) (w : World S) : ∃ act, Performs env w (final (reset_store env w)) act := by
  let now := env.utc_now w.clock_readings
  have executed : final (reset_store env w) = final (store_operation (MessageStore.reset now) [.StoreReset] (ticked w w.store)) := rfl
  rw [executed,Operations.store_operation_eq]
  rw [show (ticked w w.store).store = w.store from rfl]
  have moves := LawfulMessageStore.reset_moves now w.store
  rcases result : MessageStore.reset now w.store with ⟨e | _,s⟩
  · have failed := LawfulOutbox.reset_failed now w.store (by rw [result]; simp)
    rw [result] at failed moves
    obtain ⟨done,-⟩ | ⟨-,left⟩ := moves
    · cases done
    · exact ⟨.Aside,.aside ⟨congrArg Prod.fst left,failed,by simp [ticked]⟩⟩
  · have cleared := LawfulOutbox.reset_ok now w.store (by rw [result])
    rw [result] at cleared moves
    obtain ⟨-,left⟩ | ⟨⟨e,failed⟩,-⟩ := moves
    · exact ⟨.Restarted,.restarted ⟨congrArg Prod.fst left,cleared,by simp [frames,ticked,frame_bytes]⟩⟩
    · cases failed

/-- Preparing a message takes the number and stores the frame, or fails in one of
    the two writes. -/
theorem prepare_message_performs (env : Env) (o : OutboundMessage) (w : World S) :
    Runs (prepare_message env o) w
      (fun r w' => w'.journal = w.journal ∧
        ((∃ m raw, r = .ok ⟨next_sender w,m,raw⟩ ∧ generated env o w = .ok (m,raw) ∧
            next_sender w' = next_sender w + 1 ∧
            stored w'.store = Function.update (stored w.store) (next_sender w) (some raw)) ∨
          (∃ e, r = .error e) ∧ ∃ act, Performs env w w' act))
      (fun _ w' => Performs env w w' .Aside) := by
  rcases frame : generated env o w with text | ⟨m,raw⟩
  · unfold Runs
    rw [prepare_message_panics frame]
    exact .aside ⟨rfl,rfl,by simp [ticked]⟩
  · have taken := LawfulMessageStore.increment_sender_moves w.store
    have kept := LawfulOutbox.increment_sender_keeps w.store
    unfold Runs
    rw [prepare_message_eq frame]
    rcases first : increment_sender_seq_number w.store with ⟨e | _,s⟩
    · rw [first] at taken kept
      obtain ⟨done,-⟩ | ⟨-,left⟩ := taken
      · cases done
      · exact ⟨rfl,.inr ⟨⟨_,rfl⟩,.Aside,.aside ⟨congrArg Prod.fst left,kept,by simp [ticked]⟩⟩⟩
    · rw [first] at taken kept
      obtain ⟨-,left⟩ | ⟨⟨e,failed⟩,-⟩ := taken
      · have number : next_sender_seq_number s = next_sender w + 1 := congrArg Prod.fst left
        have same : next_sender_seq_number (add (next_sender w) raw s).2 = next_sender_seq_number s := by
          obtain ⟨-,left⟩ | ⟨-,left⟩ := LawfulMessageStore.add_moves (next_sender w) raw s
          · exact congrArg Prod.fst left
          · exact congrArg Prod.fst left
        dsimp only at kept ⊢
        rcases second : add (next_sender w) raw s with ⟨e | _,s'⟩
        · have missed := LawfulOutbox.add_failed (next_sender w) raw s (by rw [second]; simp)
          rw [second] at same missed
          have failed : (add (next_sender w) raw (increment_sender_seq_number w.store).2).1 ≠ .ok () := by
            rw [first,second]
            simp
          refine ⟨rfl,.inr ⟨⟨_,rfl⟩,.Lost (next_sender w),.lost (by rw [first]) failed ?_⟩⟩
          exact ⟨same.trans number,missed.trans kept,by simp [ticked]⟩
        · have put := LawfulOutbox.add_ok (next_sender w) raw s (by rw [second])
          rw [second] at same put
          refine ⟨rfl,.inl ⟨m,raw,rfl,rfl,same.trans number,?_⟩⟩
          exact put.trans (by rw [kept])
      · cases failed

theorem frames_sent (journal : List Effect) (writer : WriterRef) (m : Message) (raw : Bytes) :
    frames (journal ++ [.Sent writer m raw]) = frames journal ++ [raw] := by
  simp [frames,frame_bytes]

theorem send_message_to_acting {o : OutboundMessage} (writer : WriterRef) (keeps : KeepsNumber o) (w : World S) :
    Acting env w (final (send_message_to env writer o w)) := by
  refine (runs_final (Acting env w)).mp ?_
  unfold send_message_to
  rw [runs_bind]
  refine runs_mono (prepare_message_performs env o w) ?_ (fun _ _ performed => acting_of performed)
  rintro r w' ⟨journal,⟨m,raw,rfl,frame,number,messages⟩ | ⟨⟨e,rfl⟩,act,performed⟩⟩
  · exact acting_of (.sent keeps frame ⟨number,messages,(frames_sent w'.journal writer m raw).trans (by rw [journal])⟩)
  · exact acting_of performed

theorem send_message_acting {o : OutboundMessage} (keeps : KeepsNumber o) (w : World S) :
    Acting env w (final (send_message env o w)) := by
  refine (runs_final (Acting env w)).mp ?_
  unfold send_message
  rw [runs_bind]
  refine runs_mono (prepare_message_performs env o w) ?_ (fun _ _ performed => acting_of performed)
  rintro r w' ⟨journal,⟨m,raw,rfl,frame,number,messages⟩ | ⟨⟨e,rfl⟩,act,performed⟩⟩
  · simp only [runs_bind]
    refine runs_mono (write_prepared_journal o.message_type ⟨next_sender w,m,raw⟩ w') ?_ (fun _ _ no => no.elim)
    rintro _ v ⟨store,leaves,stays⟩
    have moved : next_sender v = next_sender w + 1 := by rw [next_sender,store]; exact number
    cases open_ : writable w'.state o.message_type with
    | true =>
      obtain ⟨writer,-,written⟩ := leaves open_
      refine acting_of (.sent keeps frame ⟨moved,by rw [store,messages],?_⟩)
      rw [written,frames_sent,journal]
    | false => exact acting_of (.kept keeps frame ⟨moved,by rw [store,messages],by rw [stays open_,journal,List.append_nil]⟩)
  · exact acting_of performed

/-! ### Resends -/

omit [LawfulMessageStore S] [LawfulOutbox S]

/-- Acts on a store that stays as it is. -/
def Resending (env : Env) (s : S) (w w' : World S) : Prop := w.store = s → Acting env w w' ∧ w'.store = s

theorem resending_refl (env : Env) (s : S) (w : World S) : Resending env s w w :=
  fun store => ⟨acting_aside ⟨rfl,[],by simp⟩,store⟩

theorem resending_trans (env : Env) (s : S) (u v w : World S) (first : Resending env s u v) (next : Resending env s v w) :
    Resending env s u w := by
  intro store
  obtain ⟨before,kept⟩ := first store
  obtain ⟨after,same⟩ := next kept
  exact ⟨acting_trans _ _ _ before after,same⟩

theorem timestamp_now_resending (s : S) : Follows (Resending env s) (timestamp_now env) :=
  fun _ store => ⟨acting_aside ⟨rfl,[],(List.append_nil _).symm,rfl⟩,store⟩

theorem send_raw_message_resending {s : S} {raw : Bytes} (writer : WriterRef) (m : Message) (copy : IsCopy env s raw) :
    Follows (Resending env s) (send_raw_message writer m raw) :=
  fun w store => ⟨acting_of (.copied (store ▸ copy) ⟨rfl,rfl,frames_sent w.journal writer m raw⟩),store⟩

theorem flush_reset_resending (s : S) (writer : WriterRef) (last : Nat) (pending : Option Nat) :
    Follows (Resending env s) (flush_reset env writer last pending) := by
  cases pending with
  | none => exact follows_pure (resending_refl env s) ()
  | some first =>
    refine follows_bind (resending_trans env s) (timestamp_now_resending s) (fun now => ?_)
    split
    · exact follows_throw (resending_refl env s) _
    · next m raw written => exact send_raw_message_resending writer m (.gapFill written)

theorem get_msg_seq_num_resending (s : S) (m : Message) : Follows (Resending env s) (get_msg_seq_num m) := by
  unfold get_msg_seq_num
  split
  · exact follows_pure (resending_refl env s) _
  · exact follows_throw (resending_refl env s) _

/-- The loop writes gap fills and copies of the messages of the slice. -/
theorem resend_loop_resending {s : S} {first last : Nat} {slice : List Bytes} (cut : get_slice first last s = .ok slice)
    (writer : WriterRef) (messages : List Bytes) :
    messages ⊆ slice → ∀ pending n, Follows (Resending env s) (resend_loop env writer messages pending n) := by
  induction messages with
  | nil => exact fun _ pending n => flush_reset_resending s writer n pending
  | cons old rest ih =>
    intro within pending n
    obtain ⟨member,later⟩ := List.cons_subset.mp within
    unfold resend_loop
    split
    · exact follows_throw (resending_refl env s) _
    · next m read =>
      refine follows_bind (resending_trans env s) (get_msg_seq_num_resending s m) (fun n => ?_)
      split
      · exact follows_throw (resending_refl env s) _
      · refine follows_ite (ih later _ _) ?_
        refine follows_bind (resending_trans env s) (flush_reset_resending s writer n pending) (fun _ => ?_)
        refine follows_bind (resending_trans env s) (timestamp_now_resending s) (fun now => ?_)
        refine follows_bind (resending_trans env s) ?_ (fun _ => ih later _ _)
        exact send_raw_message_resending writer _ (.resent cut member read rfl)

theorem resend_messages_acting (writer : WriterRef) (first last : Nat) (w : World S) :
    Acting env w (final (resend_messages env writer first last w)) := by
  unfold resend_messages
  rw [get_bind]
  rcases cut : get_slice first last w.store with (e | text) | messages
  · exact acting_aside ⟨rfl,[],(List.append_nil _).symm,rfl⟩
  · exact acting_aside ⟨rfl,[],(List.append_nil _).symm,rfl⟩
  · rw [bind_ok (show slice_result (.ok messages) w = .ok messages w from rfl)]
    exact (resend_loop_resending cut writer messages (List.Subset.refl _) none 0 w rfl).1

/-! ### Runs as acts -/

theorem keepsNumber_of_header {o : OutboundMessage} (keeps : KeepsHeader o) : KeepsNumber o := by
  intro m m' wrote
  unfold Message.msg_seq_num
  rw [keeps m m' wrote]

theorem bodyOnly_keepsHeader {o : OutboundMessage} (body : BodyOnly o) : KeepsHeader o := by
  obtain ⟨f,write⟩ := body
  intro m m' wrote
  rw [write] at wrote
  cases wrote
  rfl

variable [LawfulMessageStore S] [LawfulOutbox S]

theorem spans_acting (env : Env) : Spans env KeepsNumber (Acting (S := S) env) where
  trans := acting_trans
  aside _ _ := acting_aside
  counted w := acting_of (increment_target_performs w)
  jumped n w := acting_of (set_target_performs n w)
  restarted w := by
    obtain ⟨act,performed⟩ := reset_store_performs env w
    exact acting_of performed
  sent _ keeps := send_message_acting keeps
  sent_to writer _ keeps := send_message_to_acting writer keeps
  resent writer first last := resend_messages_acting writer first last
  own o own := keepsNumber_of_header (bodyOnly_keepsHeader own.bodyOnly)

/-- Every run is a sequence of acts. -/
theorem reachable_acts {start : World S} (reached : Reachable env (fun _ input => Sends KeepsNumber input) start w) :
    ∃ acts, Acts env start acts w :=
  reachable_follows (spans_acting env) reached

end

/-! ### What the acts since the last restart account for -/

namespace Act

/-- The number that the act takes. -/
def taken : Act → Option Nat
  | .Sent n _ => some n
  | .Kept n _ => some n
  | .Lost n => some n
  | _ => none

/-- The number and the frame that the act stores. -/
def filed : Act → Option (Nat × Bytes)
  | .Sent n raw => some (n,raw)
  | .Kept n raw => some (n,raw)
  | _ => none

/-- The number and the frame of a new message that the act writes. -/
def written : Act → Option (Nat × Bytes)
  | .Sent n raw => some (n,raw)
  | _ => none

/-- The frame that the act writes, new or a copy. -/
def frame : Act → Option Bytes
  | .Sent _ raw => some raw
  | .Copied raw => some raw
  | _ => none

end Act

/-- The acts since the last restart. -/
def epoch (acts : List Act) : List Act := acts.foldl (fun since act => if act = .Restarted then [] else since ++ [act]) []

theorem epoch_snoc (acts : List Act) (act : Act) :
    epoch (acts ++ [act]) = if act = .Restarted then [] else epoch acts ++ [act] := by
  simp [epoch]

/-- The bytes are the frame of a message with the number. -/
def Carries (n : Nat) (raw : Bytes) : Prop := ∃ m : Message, (m.encode Config.default).2 = raw ∧ m.msg_seq_num = some n

theorem generated_carries {env : Env} {o : OutboundMessage} {w : World S} {m : Message} {raw : Bytes}
    (keeps : KeepsNumber o) (frame : generated env o w = .ok (m,raw)) (fits : next_sender w < U64) :
    Carries (next_sender w) raw := by
  obtain ⟨written,wrote,encoded⟩ := generate_message_ok frame
  refine ⟨written,by rw [encoded],?_⟩
  rw [keeps _ _ wrote]
  exact blank_msg_seq_num _ _ _ _ _ _ fits

/-- The acts since the last restart took the numbers below the next one in order,
    and what they stored is what the store holds. -/
structure Accounts (acts : List Act) (w : World S) : Prop where
  positive : 1 ≤ next_sender w
  numbers : acts.filterMap Act.taken = List.range' 1 (next_sender w - 1)
  holds : ∀ n raw, stored w.store n = some raw ↔ (n,raw) ∈ acts.filterMap Act.filed
  carries : ∀ n raw, (n,raw) ∈ acts.filterMap Act.filed → n < U64 → Carries n raw

section
variable {env : Env} {w w' : World S} {acts : List Act} {act : Act}

theorem filed_taken {n : Nat} {raw : Bytes} (filed : (n,raw) ∈ acts.filterMap Act.filed) : n ∈ acts.filterMap Act.taken := by
  simp only [List.mem_filterMap] at filed ⊢
  obtain ⟨act,member,files⟩ := filed
  refine ⟨act,member,?_⟩
  cases act <;> simp_all [Act.filed,Act.taken]

theorem Accounts.filed_below (accounts : Accounts acts w) {n : Nat} {raw : Bytes} (filed : (n,raw) ∈ acts.filterMap Act.filed) :
    1 ≤ n ∧ n < next_sender w := by
  have member := filed_taken filed
  rw [accounts.numbers,List.mem_range'_1] at member
  have := accounts.positive
  omega

/-- An act that takes no number and stores nothing. -/
theorem Accounts.idle (accounts : Accounts acts w) (untaken : act.taken = none)
    (number : next_sender w' = next_sender w) (messages : stored w'.store = stored w.store) :
    Accounts (acts ++ [act]) w' := by
  have unfiled : act.filed = none := by cases act <;> simp_all [Act.taken,Act.filed]
  refine ⟨number ▸ accounts.positive,?_,?_,?_⟩
  · simpa [untaken,number] using accounts.numbers
  · intro n raw
    rw [messages,accounts.holds]
    simp [unfiled]
  · intro n raw filed fits
    exact accounts.carries n raw (by simpa [unfiled] using filed) fits

theorem Accounts.next_numbers (accounts : Accounts acts w) (taken : act.taken = some (next_sender w))
    (number : next_sender w' = next_sender w + 1) :
    (acts ++ [act]).filterMap Act.taken = List.range' 1 (next_sender w' - 1) := by
  have positive := accounts.positive
  have count : next_sender w' - 1 = (next_sender w - 1) + 1 := by omega
  have last : 1 + (next_sender w - 1) = next_sender w := by omega
  rw [List.filterMap_append,accounts.numbers,count,List.range'_concat]
  simp [taken,last]

/-- An act that takes the next number and stores a frame under it. -/
theorem Accounts.files {raw : Bytes} (accounts : Accounts acts w) (filed : act.filed = some (next_sender w,raw))
    (carries : next_sender w < U64 → Carries (next_sender w) raw) (number : next_sender w' = next_sender w + 1)
    (messages : stored w'.store = Function.update (stored w.store) (next_sender w) (some raw)) :
    Accounts (acts ++ [act]) w' := by
  have taken : act.taken = some (next_sender w) := by cases act <;> simp_all [Act.taken,Act.filed]
  have more : (acts ++ [act]).filterMap Act.filed = acts.filterMap Act.filed ++ [(next_sender w,raw)] := by
    simp [filed]
  refine ⟨by omega,accounts.next_numbers taken number,?_,?_⟩
  · intro n raw'
    rw [messages,more,List.mem_append,List.mem_singleton,Prod.mk.injEq]
    by_cases same : n = next_sender w
    · subst same
      rw [Function.update_self]
      constructor
      · rintro ⟨⟩
        exact .inr ⟨rfl,rfl⟩
      · rintro (old | ⟨-,rfl⟩)
        · exact absurd (accounts.filed_below old).2 (Nat.lt_irrefl _)
        · rfl
    · rw [Function.update_of_ne same,accounts.holds]
      exact ⟨.inl,fun either => either.resolve_right (fun both => same both.1)⟩
  · intro n raw' member fits
    rw [more,List.mem_append,List.mem_singleton,Prod.mk.injEq] at member
    obtain old | ⟨rfl,rfl⟩ := member
    · exact accounts.carries n raw' old fits
    · exact carries fits

/-- One act keeps the account. -/
theorem Accounts.step (accounts : Accounts (epoch acts) w) (performed : Performs env w w' act) :
    Accounts (epoch (acts ++ [act])) w' := by
  rw [epoch_snoc]
  cases performed with
  | aside left => exact accounts.idle rfl left.1 left.2.1
  | copied copy left => exact accounts.idle rfl left.1 left.2.1
  | sent keeps frame left => exact accounts.files rfl (generated_carries keeps frame) left.1 left.2.1
  | kept keeps frame left => exact accounts.files rfl (generated_carries keeps frame) left.1 left.2.1
  | lost taken failed left =>
    obtain ⟨number,messages,-⟩ := left
    refine ⟨by omega,accounts.next_numbers rfl number,?_,?_⟩
    · intro n raw
      rw [messages,accounts.holds]
      simp [Act.filed]
    · intro n raw filed fits
      exact accounts.carries n raw (by simpa [Act.filed] using filed) fits
  | restarted left =>
    obtain ⟨number,messages,-⟩ := left
    exact ⟨by omega,by simp [number],fun n raw => by simp [messages],fun n raw filed => by simp at filed⟩

/-- A store that nothing was sent from since it was created or reset. -/
def Fresh (s : S) : Prop := next_sender_seq_number s = 1 ∧ stored s = fun _ => none

theorem acts_account {start : World S} (fresh : Fresh start.store) (performed : Acts env start acts w) :
    Accounts (epoch acts) w := by
  induction performed with
  | nil =>
    obtain ⟨number,messages⟩ := fresh
    have one : next_sender start = 1 := number
    exact ⟨by omega,by simp [one,epoch],fun n raw => by simp [messages,epoch],fun n raw filed => by simp [epoch] at filed⟩
  | snoc before step ih => exact ih.step step

/-- The frames on the wire are those that the acts wrote. -/
theorem acts_frames {start : World S} (performed : Acts env start acts w) :
    frames w.journal = frames start.journal ++ acts.filterMap Act.frame := by
  induction performed with
  | nil => simp
  | snoc before step ih =>
    have added : ∀ {v w : World S} {act : Act}, Performs env v w act →
        frames w.journal = frames v.journal ++ [act].filterMap Act.frame := by
      intro v w act performed
      cases performed with
      | aside left => exact left.2.2
      | copied copy left => exact left.2.2
      | sent keeps frame left => exact left.2.2
      | kept keeps frame left => exact left.2.2
      | lost taken failed left => exact left.2.2
      | restarted left => exact left.2.2
    rw [added step,ih,List.filterMap_append,List.append_assoc]

/-! ### The numbers on the wire and in the store -/

/-- The store holds a message with its number for every number that was taken. -/
def NoHole (w : World S) : Prop := ∀ n, 1 ≤ n → n < next_sender w → ∃ raw, stored w.store n = some raw ∧ Carries n raw

/-- New frames are numbered upwards, each is the stored message of its number, and
    no number is missing in the store. -/
structure Numbered (acts : List Act) (w : World S) : Prop where
  increasing : ((acts.filterMap Act.written).map Prod.fst).Pairwise (· < ·)
  identical : ∀ n raw, (n,raw) ∈ acts.filterMap Act.written → stored w.store n = some raw ∧ Carries n raw
  held : NoHole w

theorem written_sublist (acts : List Act) :
    ((acts.filterMap Act.written).map Prod.fst).Sublist (acts.filterMap Act.taken) := by
  induction acts with
  | nil => exact List.Sublist.slnil
  | cons act rest ih =>
    cases act with
    | Sent n raw => exact ih.cons_cons n
    | Kept n raw => exact ih.cons n
    | Lost n => exact ih.cons n
    | Aside => exact ih
    | Copied raw => exact ih
    | Restarted => exact ih

theorem written_filed {n : Nat} {raw : Bytes} (written : (n,raw) ∈ acts.filterMap Act.written) :
    (n,raw) ∈ acts.filterMap Act.filed := by
  simp only [List.mem_filterMap] at written ⊢
  obtain ⟨act,member,writes⟩ := written
  refine ⟨act,member,?_⟩
  cases act <;> simp_all [Act.filed,Act.written]

/-- Where every number is taken once, a lost number is not stored. -/
theorem lost_unfiled {n : Nat} {raw : Bytes} (once : (acts.filterMap Act.taken).Nodup) (lost : .Lost n ∈ acts) :
    (n,raw) ∉ acts.filterMap Act.filed := by
  intro filed
  obtain ⟨before,after,rfl⟩ := List.append_of_mem lost
  rw [List.filterMap_append,List.filterMap_cons_some (show Act.taken (.Lost n) = some n from rfl),
    List.nodup_middle,List.nodup_cons,List.mem_append] at once
  rw [List.filterMap_append,List.filterMap_cons_none rfl,List.mem_append] at filed
  exact once.1 (filed.imp filed_taken filed_taken)

/-- A number is missing exactly when its act lost the frame. -/
theorem Accounts.noHole_iff (accounts : Accounts acts w) (fits : next_sender w ≤ U64) :
    NoHole w ↔ ∀ n, .Lost n ∉ acts := by
  constructor
  · intro full n lost
    have member : n ∈ acts.filterMap Act.taken := List.mem_filterMap.mpr ⟨.Lost n,lost,rfl⟩
    have bounds := member
    rw [accounts.numbers,List.mem_range'_1] at bounds
    have positive := accounts.positive
    obtain ⟨raw,held,-⟩ := full n (by omega) (by omega)
    refine lost_unfiled ?_ lost ((accounts.holds n raw).mp held)
    rw [accounts.numbers]
    exact List.nodup_range'
  · intro none_lost n low high
    have member : n ∈ acts.filterMap Act.taken := by
      rw [accounts.numbers,List.mem_range'_1]
      omega
    obtain ⟨act,performed,takes⟩ := List.mem_filterMap.mp member
    have filed : ∃ raw, (n,raw) ∈ acts.filterMap Act.filed := by
      cases act with
      | Sent k raw => exact ⟨raw,List.mem_filterMap.mpr ⟨_,performed,by simpa [Act.taken,Act.filed] using takes⟩⟩
      | Kept k raw => exact ⟨raw,List.mem_filterMap.mpr ⟨_,performed,by simpa [Act.taken,Act.filed] using takes⟩⟩
      | Lost k => exact absurd performed (none_lost k)
      | _ => cases takes
    obtain ⟨raw,filed⟩ := filed
    exact ⟨raw,(accounts.holds n raw).mpr filed,accounts.carries n raw filed (by omega)⟩

theorem Accounts.numbered (accounts : Accounts acts w) (few : next_sender w < U64) (unlost : ∀ n, .Lost n ∉ acts) :
    Numbered acts w := by
  refine ⟨?_,?_,(accounts.noHole_iff (Nat.le_of_lt few)).mpr unlost⟩
  · refine List.Pairwise.sublist (written_sublist acts) ?_
    rw [accounts.numbers]
    exact List.pairwise_lt_range'
  · intro n raw written
    have filed := written_filed written
    have below := accounts.filed_below filed
    exact ⟨(accounts.holds n raw).mpr filed,accounts.carries n raw filed (by omega)⟩

/-- Where no write to the store fails, no number is lost. -/
theorem acts_unlost (succeeds : StoreSucceeds S) {start : World S} (performed : Acts env start acts w) :
    ∀ n, .Lost n ∉ acts := by
  induction performed with
  | nil => simp
  | snoc before step ih =>
    intro n member
    rw [List.mem_append,List.mem_singleton] at member
    obtain earlier | rfl := member
    · exact ih n earlier
    · cases step with
      | lost taken failed left => exact failed (succeeds.add_ok _ _ _)

theorem epoch_subset (acts : List Act) : epoch acts ⊆ acts := by
  induction acts using List.reverseRecOn with
  | nil => simp [epoch]
  | append_singleton acts act ih =>
    rw [epoch_snoc]
    split
    · simp
    · exact List.append_subset.mpr ⟨fun _ member => List.mem_append_left _ (ih member),by simp⟩

/-- Without a restart the acts only grow. -/
theorem epoch_append (before : List Act) {since : List Act} (unbroken : .Restarted ∉ since) :
    epoch (before ++ since) = epoch before ++ since := by
  induction since using List.reverseRecOn with
  | nil => simp
  | append_singleton since act ih =>
    rw [List.mem_append,List.mem_singleton,not_or] at unbroken
    rw [← List.append_assoc,epoch_snoc,if_neg (Ne.symm unbroken.2),ih unbroken.1,List.append_assoc]

variable [LawfulMessageStore S] [LawfulOutbox S]

/-- Every run is a sequence of acts. Since the last restart of the store the new
    frames are numbered upwards and are the stored messages of their numbers, the
    store holds a message of each number, and none of them is replaced later. -/
theorem outbound_numbering (succeeds : StoreSucceeds S) {start u : World S} (fresh : Fresh start.store)
    (reached : Reachable env (fun _ input => Sends KeepsHeader input) start u)
    (later : Reachable env (fun _ input => Sends KeepsHeader input) u w) (few : next_sender w < U64) :
    (∃ before since, Acts env start before u ∧ Acts env u since w) ∧
    ∀ before since, Acts env start before u → Acts env u since w →
      frames w.journal = frames start.journal ++ (before ++ since).filterMap Act.frame ∧
      Numbered (epoch (before ++ since)) w ∧
      (.Restarted ∉ since → ∀ n raw, stored u.store n = some raw → stored w.store n = some raw) := by
  have numbers : ∀ {v v' : World S}, Reachable env (fun _ input => Sends KeepsHeader input) v v' → ∃ acts, Acts env v acts v' := by
    intro v v' run
    refine reachable_acts (reachable_mono (fun _ input sends => ?_) run)
    cases input with
    | Outbound o => exact keepsNumber_of_header sends
    | _ => trivial
  constructor
  · obtain ⟨before,first⟩ := numbers reached
    obtain ⟨since,next⟩ := numbers later
    exact ⟨before,since,first,next⟩
  · intro before since first next
    have whole := first.trans next
    have accounts := acts_account fresh whole
    refine ⟨acts_frames whole,?_,?_⟩
    · exact accounts.numbered few (fun n lost => acts_unlost succeeds whole n (epoch_subset _ lost))
    · intro unbroken n raw held
      rw [(acts_account fresh first).holds] at held
      rw [accounts.holds,epoch_append before unbroken,List.filterMap_append]
      exact List.mem_append_left _ held

/-- Every run is a sequence of acts, and the store has a hole exactly when an act
    since the last restart took a number whose frame the store did not take. -/
theorem no_hole_iff {start : World S} (fresh : Fresh start.store)
    (reached : Reachable env (fun _ input => Sends KeepsNumber input) start w) (fits : next_sender w ≤ U64) :
    (∃ acts, Acts env start acts w) ∧ ∀ acts, Acts env start acts w → (NoHole w ↔ ∀ n, .Lost n ∉ epoch acts) :=
  ⟨reachable_acts reached,fun _ performed => (acts_account fresh performed).noHole_iff fits⟩

end

/-! ### A session that sends, and one whose store fails -/

/-- Nothing comes from the application. -/
def unprompted : Input → Bool
  | .Outbound _ => false
  | _ => true

theorem unprompted_sends {allowed : OutboundMessage → Prop} {input : Input} (own : unprompted input = true) :
    Sends allowed input := by
  cases input with
  | Outbound o => cases own
  | _ => trivial

theorem fresh_start : Fresh start.store := ⟨rfl,by rw [stored_inMemory]; rfl⟩

def logged_on : World Store := after (valid [logon]) [connect,receive logon]

/-- Logged on, and after a heartbeat of our own. -/
def beaten : World Store := final (handle_input (valid [logon]) .HeartbeatTimeout logged_on)

theorem logged_on_reached (allowed : OutboundMessage → Prop) :
    Reachable (valid [logon]) (fun _ input => Sends allowed input) start logged_on :=
  reachable_mono (fun _ input (own : unprompted input = true) => unprompted_sends own) (reachable_after (by decide +kernel))

theorem beaten_reached (allowed : OutboundMessage → Prop) :
    Reachable (valid [logon]) (fun _ input => Sends allowed input) logged_on beaten := by
  obtain ⟨_,v,handled⟩ := returned_ok (show returned (handle_input (valid [logon]) .HeartbeatTimeout logged_on) = true by
    decide +kernel)
  have left : beaten = v := by rw [beaten,handled,final_ok]
  rw [left]
  exact Reachable.start.step (by decide +kernel) (show Sends allowed .HeartbeatTimeout from trivial) handled

/-- The Logon and the heartbeat are numbered 1 and 2. -/
theorem heartbeat_numbered :
    ∃ acts, Acts (valid [logon]) start acts beaten ∧ Numbered (epoch acts) beaten ∧ next_sender beaten = 3 := by
  have number : next_sender beaten = 3 := by decide +kernel
  obtain ⟨⟨before,since,first,next⟩,numbered⟩ := outbound_numbering (InMemoryMessageStore.succeeds .exact) fresh_start
    (logged_on_reached KeepsHeader) (beaten_reached KeepsHeader) (by rw [number]; decide)
  exact ⟨_,first.trans next,(numbered before since first next).2.1,number⟩

/-- No number is missing after the Logon. -/
theorem logon_no_hole : ∃ acts, Acts (valid [logon]) start acts logged_on ∧ NoHole logged_on ∧ next_sender logged_on = 2 := by
  have number : next_sender logged_on = 2 := by decide +kernel
  obtain ⟨⟨acts,performed⟩,hole⟩ := no_hole_iff fresh_start (logged_on_reached KeepsNumber) (by rw [number]; decide)
  have unlost := acts_unlost (InMemoryMessageStore.succeeds .exact) performed
  exact ⟨acts,performed,(hole acts performed).mpr (fun n lost => unlost n (epoch_subset acts lost)),number⟩

/-- A store in memory that fails to take the message of number 2. -/
structure FaultyStore where
  inner : Store

instance : MessageStore FaultyStore where
  add n data s := if n = 2 then (.error (.PersistMessage n),s) else ((add n data s.inner).1,⟨(add n data s.inner).2⟩)
  get_slice first last s := get_slice first last s.inner
  next_sender_seq_number s := next_sender_seq_number s.inner
  next_target_seq_number s := next_target_seq_number s.inner
  increment_sender_seq_number s := ((increment_sender_seq_number s.inner).1,⟨(increment_sender_seq_number s.inner).2⟩)
  increment_target_seq_number s := ((increment_target_seq_number s.inner).1,⟨(increment_target_seq_number s.inner).2⟩)
  set_target_seq_number n s := ((set_target_seq_number n s.inner).1,⟨(set_target_seq_number n s.inner).2⟩)
  reset now s := ((reset now s.inner).1,⟨(reset now s.inner).2⟩)
  creation_time s := creation_time s.inner

@[irreducible] def faulty : World FaultyStore :=
  final (run (valid [logon]) [connect,receive logon,.HeartbeatTimeout] (World.initial ⟨InMemoryMessageStore.new 0⟩))

/-- The heartbeat takes number 2, the store fails to keep it and stays as it is, and
    the number is missing. -/
theorem faulty_hole :
    Reachable (valid [logon]) (fun _ _ => True) (World.initial (⟨InMemoryMessageStore.new 0⟩ : FaultyStore)) faulty ∧
      (∀ data (s : FaultyStore), (add 2 data s).1 ≠ .ok () ∧ (add 2 data s).2 = s) ∧
      next_sender faulty = 3 ∧ stored faulty.store 2 = none ∧ ¬ NoHole faulty := by
  have number : next_sender faulty = 3 := by decide +kernel
  have missing : stored faulty.store 2 = none := by decide +kernel
  refine ⟨?_,fun data s => ⟨by simp [add],rfl⟩,number,missing,?_⟩
  · unfold faulty
    exact reachable_run (by decide +kernel)
  · intro full
    obtain ⟨raw,held,-⟩ := full 2 (by omega) (by omega)
    rw [missing] at held
    cases held

end HotFix.Numbering
