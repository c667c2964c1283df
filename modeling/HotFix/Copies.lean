import HotFix.Resend
import HotFix.Rewriting

/-!
What a resend writes for an application message that the session has sent. The stored
bytes are read by the builder of the session before they are written again, and what
the builder finds fault with is left with its header only. So the frame has, on the
wire, the fields of the stored bytes if these are valid and repeat no tag in a section,
or if they are refused and have nothing behind their header.
-/
namespace HotFix
namespace Resend
open HotFix.Program HotFix.Protocol HotFix.Operations HotFix.Frames MessageStore FieldMap MessageBuilder
open HotFix.Sample (Store)

/-! ### Copies of a message -/

/-- The frame and its bytes are made from a message, at some reading of the clock. -/
def ResentAs (env : Env) (m frame : Message) (raw : Bytes) : Prop :=
  ∃ reading, frame = ((prepare_message_for_resend m (env.timestamp_now reading)).1.encode env.message_config).1 ∧
    raw = ((prepare_message_for_resend m (env.timestamp_now reading)).1.encode env.message_config).2

/-- The frame is sent for the stored bytes: it has the type and the number of the
    message, and on the wire the fields of the stored bytes in their order, but for its
    times, its duplicate flag, its length and its checksum. -/
structure CopyOf (arith : Arith) (name : Bytes) (n : Nat) (stored : Bytes) (frame : Message) (raw : Bytes) : Prop where
  msg_type : frame.msg_type = some name
  msg_seq_num : frame.msg_seq_num = some n
  fields : lasting (wire arith SOH raw) = lasting (wire arith SOH stored)

/-- What is read of other bytes has the type, the number and the fields of a copy. -/
structure Carries (arith : Arith) (name : Bytes) (n : Nat) (stored : Bytes) (m : Message) : Prop where
  msg_type : m.msg_type = some name
  msg_seq_num : m.msg_seq_num = some n
  fields : ((all_fields m).filter stays).map Field.occurrence = lasting (wire arith SOH stored)

/-- The frame made from a message is a copy if the message carries one. -/
theorem copyOf_resent {arith : Arith} {env : Env} {name : Bytes} {n : Nat} {stored raw : Bytes} {m frame : Message}
    (separator : env.message_config.separator = SOH) (made : Made m) (resent : ResentAs env m frame raw) :
    CopyOf arith name n stored frame raw ↔ Carries arith name n stored m := by
  obtain ⟨reading,rfl,rfl⟩ := resent
  have written : lasting (wire arith SOH ((prepare_message_for_resend m (env.timestamp_now reading)).1.encode env.message_config).2) =
      ((all_fields m).filter stays).map Field.occurrence := by
    have rewritten := @Made.written arith _ _ _ made (prepared_alike m (env.timestamp_now reading)) separator
    obtain ⟨-,body,trailer⟩ := prepared_sections m (env.timestamp_now reading)
    rw [← rewritten,← body,← trailer]
  constructor
  · rintro ⟨msg_type,msg_seq_num,fields⟩
    rw [encode_msg_type,prepared_msg_type] at msg_type
    rw [encode_msg_seq_num,prepared_msg_seq_num] at msg_seq_num
    exact ⟨msg_type,msg_seq_num,written ▸ fields⟩
  · rintro ⟨msg_type,msg_seq_num,fields⟩
    refine ⟨?_,?_,written.trans fields⟩
    · rw [encode_msg_type,prepared_msg_type,msg_type]
    · rw [encode_msg_seq_num,prepared_msg_seq_num,msg_seq_num]

/-! ### What the loop writes -/

section
variable {S : Type} {env : Env} {writer : WriterRef}

/-- The effect is a gap fill. -/
def Fills (writer : WriterRef) : Effect → Prop
  | .Sent used frame _ => used = writer ∧ frame.kind = some .SequenceReset
  | _ => False

/-- The effect is the frame made from a message. -/
def Repeats (env : Env) (writer : WriterRef) (x : Message) : Effect → Prop
  | .Sent used frame raw => used = writer ∧ ResentAs env x frame raw
  | _ => False

/-- The stored bytes are read as a message with a type and a number. -/
def Taken (env : Env) (raw : Bytes) : Prop :=
  ∃ x, (env.build raw).into_message = some x ∧ x.msg_seq_num.isSome ∧ x.msg_type.isSome

/-- Between the worlds these effects were added. -/
def Added (w w' : World S) (effects : List Effect) : Prop := w'.journal = w.journal ++ effects

theorem Added.append {w w' w'' : World S} {effects effects' : List Effect} (first : Added w w' effects)
    (second : Added w' w'' effects') : Added w w'' (effects ++ effects') := by
  rw [Added,second,first,List.append_assoc]

theorem flush_reset_fills (next : Nat) (reset_start : Option Nat) (w : World S) :
    Runs (flush_reset env writer next reset_start) w
      (fun _ w' => ∃ effects, Added w w' effects ∧ ∀ effect ∈ effects, Fills writer effect) (fun _ _ => False) := by
  cases reset_start with
  | none => exact ⟨[],(List.append_nil _).symm,nofun⟩
  | some start =>
    unfold flush_reset send_sequence_reset
    rw [runs_bind,runs_timestamp_now]
    obtain ⟨frame,generated,kind,-⟩ := gapFill_generated env.config.begin_string
      env.config.sender_comp_id env.config.target_comp_id start next (env.timestamp_now w.clock_readings)
    rw [generated]
    exact ⟨[.Sent writer frame.1 frame.2],rfl,by simpa [Fills] using kind⟩

/-- One round of the loop: it stops at bytes that are not taken, skips a message of
    the session, and writes a message of the application behind a gap fill. -/
theorem resend_loop_round {raw : Bytes} {rest : List Bytes} {reset_start : Option Nat} {sequence_number : Nat}
    {w : World S} {ok : Unit → World S → Prop} {stop : Abort SessionOperationError → World S → Prop}
    (stopped : ¬ Taken env raw → ∀ e, stop e w)
    (skipped : ∀ x n, Taken env raw → (env.build raw).into_message = some x → x.msg_seq_num = some n →
      x.kind ≠ some .Application → Runs (resend_loop env writer rest (some (reset_start.getD n)) n) w ok stop)
    (written : ∀ x n w' fills effect, Taken env raw → (env.build raw).into_message = some x → x.msg_seq_num = some n →
      x.kind = some .Application → Added w w' (fills ++ [effect]) → (∀ fill ∈ fills, Fills writer fill) →
      Repeats env writer x effect → Runs (resend_loop env writer rest none n) w' ok stop) :
    Runs (resend_loop env writer (raw :: rest) reset_start sequence_number) w ok stop := by
  unfold resend_loop get_msg_seq_num
  cases read : (env.build raw).into_message with
  | none => exact stopped (by rintro ⟨x,found,_⟩; rw [read] at found; cases found) _
  | some x =>
    have untaken (missing : x.msg_seq_num = none ∨ x.msg_type = none) : ¬ Taken env raw := by
      rintro ⟨y,found,number,message_type⟩
      rw [read] at found
      cases found
      rcases missing with missing | missing
      · rw [missing] at number
        cases number
      · rw [missing] at message_type
        cases message_type
    dsimp only
    rw [runs_bind]
    cases number : x.msg_seq_num with
    | none => exact stopped (untaken (.inl number)) _
    | some n =>
      rw [runs_pure]
      cases message_type : x.msg_type with
      | none => exact stopped (untaken (.inr message_type)) _
      | some t =>
        have taken : Taken env raw := ⟨x,read,by rw [number]; rfl,by rw [message_type]; rfl⟩
        have kind : x.kind = some (msg_kind t) := by simp [Message.kind,message_type]
        dsimp only
        by_cases admin : is_admin t = true
        · have other : x.kind ≠ some .Application := by
            rw [kind]
            simpa using (is_admin_iff t).mp admin
          rw [if_pos admin]
          exact skipped x n taken read number other
        · have application : x.kind = some .Application := by
            rw [kind]
            simpa using mt (is_admin_iff t).mpr admin
          rw [if_neg admin,runs_bind]
          refine runs_mono (flush_reset_fills n reset_start w) ?_ (fun _ _ no => no.elim)
          rintro _ w₁ ⟨fills,added,all⟩
          rw [runs_bind,runs_timestamp_now,runs_bind]
          refine runs_note.mpr (written x n _ fills _ taken read number application (added.append rfl) all ⟨rfl,_,rfl,rfl⟩)

/-- The loop comes to the message: those in front of it are taken. -/
def Reached (env : Env) (raws : List Bytes) (raw : Bytes) : Prop :=
  ∃ before after, raws = before ++ raw :: after ∧ ∀ other ∈ before, Taken env other

theorem Reached.behind {raw other : Bytes} {rest : List Bytes} (taken : Taken env raw) (reached : Reached env rest other) :
    Reached env (raw :: rest) other := by
  obtain ⟨before,after,rfl,all⟩ := reached
  exact ⟨raw :: before,after,rfl,List.forall_mem_cons.mpr ⟨taken,all⟩⟩

/-- What the loop writes are gap fills and frames made from the messages it comes to. -/
def Answer (env : Env) (writer : WriterRef) (raws : List Bytes) (effect : Effect) : Prop :=
  Fills writer effect ∨ ∃ raw, Reached env raws raw ∧ ∃ x, (env.build raw).into_message = some x ∧ Repeats env writer x effect

theorem resend_loop_answers (raws : List Bytes) : ∀ (reset_start : Option Nat) (sequence_number : Nat) (w : World S),
    Runs (resend_loop env writer raws reset_start sequence_number) w
      (fun _ w' => ∃ effects, Added w w' effects ∧ ∀ effect ∈ effects, Answer env writer raws effect)
      (fun _ w' => ∃ effects, Added w w' effects ∧ ∀ effect ∈ effects, Answer env writer raws effect) := by
  induction raws with
  | nil =>
    intro reset_start sequence_number w
    refine runs_mono (flush_reset_fills sequence_number reset_start w) ?_ (fun _ _ no => no.elim)
    rintro _ w' ⟨fills,added,all⟩
    exact ⟨fills,added,fun effect member => .inl (all effect member)⟩
  | cons raw rest ih =>
    intro reset_start sequence_number w
    have later (taken : Taken env raw) (effect : Effect) (answer : Answer env writer rest effect) :
        Answer env writer (raw :: rest) effect := by
      rcases answer with fill | ⟨other,reached,found⟩
      · exact .inl fill
      · exact .inr ⟨other,reached.behind taken,found⟩
    have widen (taken : Taken env raw) (w₁ w' : World S) (front : List Effect) (added : Added w w₁ front)
        (all : ∀ effect ∈ front, Answer env writer (raw :: rest) effect)
        (rest_added : ∃ effects, Added w₁ w' effects ∧ ∀ effect ∈ effects, Answer env writer rest effect) :
        ∃ effects, Added w w' effects ∧ ∀ effect ∈ effects, Answer env writer (raw :: rest) effect := by
      obtain ⟨effects,more,answers⟩ := rest_added
      refine ⟨front ++ effects,added.append more,fun effect member => ?_⟩
      rcases List.mem_append.mp member with here | behind
      · exact all effect here
      · exact later taken effect (answers effect behind)
    refine resend_loop_round ?_ ?_ ?_
    · exact fun _ _ => ⟨[],(List.append_nil _).symm,nofun⟩
    · intro x n taken _ _ _
      have same : Added w w [] := (List.append_nil _).symm
      exact runs_mono (ih _ n w) (fun _ w' => widen taken w w' [] same nofun) (fun _ w' => widen taken w w' [] same nofun)
    · intro x n w₁ fills effect taken read _ _ added all repeats
      have front : ∀ e ∈ fills ++ [effect], Answer env writer (raw :: rest) e := by
        intro e member
        rcases List.mem_append.mp member with fill | last
        · exact .inl (all e fill)
        · rw [List.mem_singleton.mp last]
          exact .inr ⟨raw,⟨[],rest,rfl,nofun⟩,x,read,repeats⟩
      exact runs_mono (ih none n w₁) (fun _ w' => widen taken w₁ w' _ added front) (fun _ w' => widen taken w₁ w' _ added front)

/-- Between the worlds a frame made from the message was written. -/
def Repeated (env : Env) (writer : WriterRef) (x : Message) (w w' : World S) : Prop :=
  ∃ effects, Added w w' effects ∧ ∃ effect ∈ effects, Repeats env writer x effect

/-- An application message behind taken ones is written again, however the loop ends. -/
theorem resend_loop_repeats {before after : List Bytes} {raw : Bytes} {x : Message} {n : Nat}
    (read : (env.build raw).into_message = some x) (application : x.kind = some .Application)
    (number : x.msg_seq_num = some n) :
    ∀ (reset_start : Option Nat) (sequence_number : Nat) (w : World S), (∀ other ∈ before, Taken env other) →
      Runs (resend_loop env writer (before ++ raw :: after) reset_start sequence_number) w
        (fun _ w' => Repeated env writer x w w') (fun _ w' => Repeated env writer x w w') := by
  induction before with
  | nil =>
    intro reset_start sequence_number w _
    have here : Taken env raw := by
      refine ⟨x,read,by rw [number]; rfl,?_⟩
      rw [Message.kind,Option.map_eq_some_iff] at application
      obtain ⟨t,typed,_⟩ := application
      rw [typed]
      rfl
    refine resend_loop_round (fun untaken => absurd here untaken) ?_ ?_
    · intro y _ _ found _ other
      rw [read] at found
      cases found
      exact absurd application other
    · intro y n' w₁ fills effect _ found _ _ added _ repeats
      rw [read] at found
      cases found
      have behind (w' : World S) (more : ∃ effects, Added w₁ w' effects ∧ ∀ e ∈ effects, Answer env writer after e) :
          Repeated env writer x w w' := by
        obtain ⟨effects,more,_⟩ := more
        exact ⟨_,added.append more,effect,by simp,repeats⟩
      exact runs_mono (resend_loop_answers after none n' w₁) (fun _ => behind) (fun _ => behind)
  | cons other before ih =>
    intro reset_start sequence_number w taken
    have taken_rest : ∀ raw' ∈ before, Taken env raw' := fun raw' member => taken raw' (List.mem_cons_of_mem other member)
    refine resend_loop_round (fun untaken => absurd (taken other List.mem_cons_self) untaken) ?_ ?_
    · intro y n' _ _ _ _
      exact ih _ n' w taken_rest
    · intro y n' w₁ fills effect _ _ _ _ added _ _
      have behind (w' : World S) (repeated : Repeated env writer x w₁ w') : Repeated env writer x w w' := by
        obtain ⟨effects,more,found,member,repeats⟩ := repeated
        exact ⟨_,added.append more,found,List.mem_append_right _ member,repeats⟩
      exact runs_mono (ih none n' w₁ taken_rest) (fun _ => behind) (fun _ => behind)

end

/-! ### What is read of a stored message -/

section
variable {arith : Arith} {b : MessageBuilder} {name : Bytes} {n : Nat} {data : Bytes}

/-- The stored bytes lose no lasting field when they are read. They are valid, no such
    field is replaced by a later one of its tag in its section or entry, none is left
    behind the trailer section, and no group with a changing count is moved to the place
    of an earlier one; or they are refused, and have none behind the header section. -/
inductive Intact (arith : Arith) (b : MessageBuilder) (name : Bytes) (n : Nat) (data : Bytes) : Prop where
  | valid {r : Reading} (sectioned : Sectioned arith b data r) (msg_type : r.message.msg_type = some name)
    (msg_seq_num : r.message.msg_seq_num = some n) (replaced : ∀ f ∈ r.replaced, f.tag ∈ changing_tags)
    (in_place : (Item.flatten_items (Item.store_items FieldMap.empty r.items).tree).filter stays =
      (Item.flatten_items r.items).filter stays)
    (behind : lasting ((wire arith SOH data).drop r.fields.length) = [])
  | refused {m : Message} {reason : InvalidReason} {header : List Field} {rest : List (Option TagU32 × Bytes)}
    (built : build arith b data = .ok (.Invalid m reason)) (msg_type : m.msg_type = some name)
    (msg_seq_num : m.msg_seq_num = some n) (section_of : m.header = FieldMap.empty.insert_fields header)
    (split : wire arith SOH data = header.map Field.occurrence ++ rest)
    (replaced : ∀ f ∈ IndexMap.replaced Field.tag header, f.tag ∈ changing_tags) (behind : lasting rest = [])

/-- The bytes are read as a message that carries a copy of the stored ones. -/
def StandsIn (arith : Arith) (b : MessageBuilder) (name : Bytes) (n : Nat) (stored other : Bytes) : Prop :=
  ∃ m, (b.parsed arith other).into_message = some m ∧ Carries arith name n stored m

theorem not_stays {f : Field} : stays f = false ↔ f.tag ∈ changing_tags := by simp [stays]

/-- The lasting fields of a valid message, section by section. -/
theorem message_lasting (r : Reading) : (all_fields r.message).filter stays =
    (FieldMap.empty.insert_fields r.header_fields).fields.filter stays ++
      ((Item.flatten_items (Item.store_items FieldMap.empty r.items).tree).filter stays ++
        (FieldMap.empty.insert_fields (r.checksum :: r.trailer)).fields.filter stays) := by
  rw [all_fields,List.filter_append,List.filter_append]
  rfl

theorem checksum_changes {r : Reading} (sectioned : Sectioned arith b data r) : stays r.checksum = false := by
  obtain ⟨p₁,p₂,p₃,p₄,p₅,_,body_end,first_body,first_trailer,_,spec,stop,reads⟩ := sectioned
  rw [stays,reads.framing.last_tag]
  decide

theorem insert_fields_flat (fields : List Field) :
    (FieldMap.empty.insert_fields fields).all = (FieldMap.empty.insert_fields fields).fields := by
  rw [insert_fields_eq]
  exact List.append_nil _

/-- Of the lasting fields that were read, those that are not replaced are stored. -/
theorem lasting_length {r : Reading} (sectioned : Sectioned arith b data r) :
    ((all_fields r.message).filter stays).length + (r.replaced.filter stays).length = (r.fields.filter stays).length := by
  have same : (all_fields r.message).Perm (r.message.header.all ++ r.message.body.all ++ r.message.trailer.all) := by
    rw [all_fields,List.append_assoc,Reading.message]
    dsimp only
    rw [insert_fields_flat,insert_fields_flat]
    exact ((tree_perm _ (tidy_store r.items)).append_right _).append_left _
  have stored := message_stored sectioned
  rw [Message.stored,← List.map_append] at stored
  have kept : (lasting _).length = (lasting _).length := (stored.filter _).length_eq
  rw [lasting_fields,lasting_fields,List.length_map,List.length_map,List.filter_append,List.length_append,
    List.filter_cons_of_neg (by simp [checksum_changes sectioned])] at kept
  rw [(same.filter stays).length_eq,kept]

theorem occurrence_injective : Function.Injective Field.occurrence := by
  rintro ⟨tag,data⟩ ⟨tag',data'⟩ same
  cases same
  rfl

/-- Where no lasting field is replaced, header and trailer keep theirs. -/
theorem sections_kept {r : Reading} (sectioned : Sectioned arith b data r) (gone : ∀ f ∈ r.replaced, f.tag ∈ changing_tags) :
    (all_fields r.message).filter stays = r.header_fields.filter stays ++
      ((Item.flatten_items (Item.store_items FieldMap.empty r.items).tree).filter stays ++ r.trailer.filter stays) := by
  have header : ∀ f ∈ IndexMap.replaced Field.tag r.header_fields, stays f = false :=
    fun f member => not_stays.mpr (gone f (List.mem_append_left _ (List.mem_append_left _ member)))
  have trailer : ∀ f ∈ IndexMap.replaced Field.tag (r.checksum :: r.trailer), stays f = false :=
    fun f member => not_stays.mpr (gone f (List.mem_append_right _ member))
  rw [message_lasting,section_kept header,section_kept trailer,List.filter_cons_of_neg (by simp [checksum_changes sectioned])]

/-- What a valid message keeps of the wire. -/
theorem sectioned_carries_iff {r : Reading} (separator : b.config.separator = SOH) (sectioned : Sectioned arith b data r) :
    ((all_fields r.message).filter stays).map Field.occurrence = lasting (wire arith SOH data) ↔
      (∀ f ∈ r.replaced, f.tag ∈ changing_tags) ∧
      (Item.flatten_items (Item.store_items FieldMap.empty r.items).tree).filter stays =
        (Item.flatten_items r.items).filter stays ∧
      lasting ((wire arith SOH data).drop r.fields.length) = [] := by
  obtain ⟨rest,split⟩ := sections_wire sectioned
  rw [separator] at split
  have sections : r.fields.filter stays =
      r.header_fields.filter stays ++ ((Item.flatten_items r.items).filter stays ++ r.trailer.filter stays) := by
    rw [Reading.fields,List.filter_append,List.filter_append,List.append_assoc]
  rw [split,List.drop_left' (by simp),lasting_append,lasting_fields]
  constructor
  · intro same
    have counted := lasting_length sectioned
    have lengths := congrArg List.length same
    rw [List.length_map,List.length_append,List.length_map] at lengths
    have gone : r.replaced.filter stays = [] := List.eq_nil_of_length_eq_zero (by omega)
    have behind : lasting rest = [] := List.eq_nil_of_length_eq_zero (by omega)
    have replaced : ∀ f ∈ r.replaced, f.tag ∈ changing_tags := by
      intro f member
      exact not_stays.mp (by simpa using List.filter_eq_nil_iff.mp gone f member)
    rw [behind,List.append_nil] at same
    have fields := List.map_injective_iff.mpr occurrence_injective same
    rw [sections_kept sectioned replaced,sections] at fields
    exact ⟨replaced,List.append_cancel_right (List.append_cancel_left fields),behind⟩
  · rintro ⟨replaced,in_place,behind⟩
    rw [behind,List.append_nil,sections_kept sectioned replaced,in_place,sections]

/-- What a message that is refused keeps of the wire. -/
theorem header_carries_iff {header : List Field} {rest : List (Option TagU32 × Bytes)}
    (split : wire arith SOH data = header.map Field.occurrence ++ rest) :
    ((all_fields (with_header (FieldMap.empty.insert_fields header))).filter stays).map Field.occurrence =
        lasting (wire arith SOH data) ↔
      (∀ f ∈ IndexMap.replaced Field.tag header, f.tag ∈ changing_tags) ∧ lasting rest = [] := by
  have only : all_fields (with_header (FieldMap.empty.insert_fields header)) = (FieldMap.empty.insert_fields header).fields :=
    List.append_nil _
  rw [only,split,lasting_append,lasting_fields]
  constructor
  · intro same
    have counted := ((insert_fields_all header).filter stays).length_eq
    have flat : (FieldMap.empty.insert_fields header).all = (FieldMap.empty.insert_fields header).fields := insert_fields_flat header
    have lengths := congrArg List.length same
    rw [List.length_map,List.length_append,List.length_map] at lengths
    rw [flat,List.filter_append,List.length_append] at counted
    have gone : (IndexMap.replaced Field.tag header).filter stays = [] := List.eq_nil_of_length_eq_zero (by omega)
    refine ⟨fun f member => not_stays.mp (by simpa using List.filter_eq_nil_iff.mp gone f member),?_⟩
    exact List.eq_nil_of_length_eq_zero (by omega)
  · rintro ⟨replaced,behind⟩
    rw [behind,List.append_nil,section_kept (fun f member => not_stays.mpr (replaced f member))]

/-- The stored bytes lose no lasting field if and only if what is read of them carries a
    copy of them. -/
theorem intact_iff (separator : b.config.separator = SOH) : Intact arith b name n data ↔ StandsIn arith b name n data data := by
  constructor
  · rintro (⟨sectioned,msg_type,msg_seq_num,replaced,in_place,behind⟩ |
      ⟨built,msg_type,msg_seq_num,section_of,split,replaced,behind⟩)
    · refine ⟨_,?_,msg_type,msg_seq_num,(sectioned_carries_iff separator sectioned).mpr ⟨replaced,in_place,behind⟩⟩
      rw [MessageBuilder.parsed,build_valid.mpr ⟨_,sectioned,rfl⟩]
      rfl
    · obtain ⟨_,_,_,_,_,-,-,-,-,-,rfl⟩ := invalid_sections built
      refine ⟨_,by rw [MessageBuilder.parsed,built]; rfl,msg_type,msg_seq_num,?_⟩
      rw [show FieldMap.empty.insert_fields _ = FieldMap.empty.insert_fields _ from section_of]
      exact (header_carries_iff split).mpr ⟨replaced,behind⟩
  · rintro ⟨m,read,msg_type,msg_seq_num,fields⟩
    rw [MessageBuilder.parsed] at read
    cases built : build arith b data with
    | error text =>
      rw [built] at read
      cases read
    | ok parsed =>
      rw [built] at read
      cases parsed with
      | Garbled _ => cases read
      | UnexpectedError _ => cases read
      | Valid _ =>
        cases read
        obtain ⟨r,sectioned,rfl⟩ := build_valid.mp built
        obtain ⟨replaced,in_place,behind⟩ := (sectioned_carries_iff separator sectioned).mp fields
        exact .valid sectioned msg_type msg_seq_num replaced in_place behind
      | Invalid _ reason =>
        cases read
        obtain ⟨begin_string,body_length,message_type,header,rest,-,-,-,-,split,rfl⟩ := invalid_sections built
        rw [separator] at split
        obtain ⟨replaced,behind⟩ := (header_carries_iff split).mp fields
        exact .refused built msg_type msg_seq_num rfl split replaced behind

end
/-! ### The resend of a message -/

section
variable {S : Type} {arith : Arith} {b : MessageBuilder} {env : Env} {writer : WriterRef} {name : Bytes} {n : Nat}

/-- Between the worlds a copy of the stored bytes was written. -/
def Copied (arith : Arith) (writer : WriterRef) (name : Bytes) (n : Nat) (stored : Bytes) (w w' : World S) : Prop :=
  ∃ effects, Added w w' effects ∧ ∃ frame raw, .Sent writer frame raw ∈ effects ∧ CopyOf arith name n stored frame raw

theorem Repeated.copied {stored : Bytes} {m : Message} {w w' : World S} (separator : env.message_config.separator = SOH)
    (made : Made m) (repeated : Repeated env writer m w w') (carries : Carries arith name n stored m) :
    Copied arith writer name n stored w w' := by
  obtain ⟨effects,added,effect,member,repeats⟩ := repeated
  match effect with
  | .Sent used frame raw =>
    obtain ⟨rfl,resent⟩ := repeats
    exact ⟨effects,added,frame,raw,member,(copyOf_resent separator made resent).mpr carries⟩

variable [MessageStore S]

/-- A copy of a stored application message is written if and only if the resend comes to
    the message and its bytes are intact, or it comes to other bytes that stand in. -/
theorem resend_copies_iff {stored : Bytes} {raws : List Bytes} {first last : Nat} {w : World S}
    (separator : b.config.separator = SOH) (separator' : env.message_config.separator = SOH) (builds : env.build = b.parsed arith)
    (application : msg_kind name = .Application) (covered : get_slice first last w.store = .ok raws) :
    Copied arith writer name n stored w (final (resend_messages env writer first last w)) ↔
      Reached env raws stored ∧ Intact arith b name n stored ∨
      ∃ other, other ≠ stored ∧ Reached env raws other ∧ StandsIn arith b name n stored other := by
  have looped : resend_messages env writer first last w = resend_loop env writer raws none 0 w := by
    unfold resend_messages
    rw [get_bind,covered]
    rfl
  have made {raw : Bytes} {m : Message} (read : (env.build raw).into_message = some m) : Made m :=
    made_of_parsed separator (builds ▸ read)
  rw [looped]
  constructor
  · rintro ⟨effects,added,frame,raw,member,copy⟩
    obtain ⟨effects',added',answers⟩ := (runs_final _).mp (@resend_loop_answers S env writer raws none 0 w)
    obtain rfl : effects = effects' := List.append_cancel_left (added.symm.trans added')
    rcases answers _ member with ⟨-,fill⟩ | ⟨other,reached,m,read,-,resent⟩
    · rw [Message.kind,copy.msg_type,Option.map_some,application] at fill
      cases fill
    · have carries := (copyOf_resent separator' (made read) resent).mp copy
      rw [builds] at read
      by_cases same : other = stored
      · subst same
        exact .inl ⟨reached,(intact_iff separator).mpr ⟨m,read,carries⟩⟩
      · exact .inr ⟨other,same,reached,m,read,carries⟩
  · intro intact
    obtain ⟨other,⟨before,after,rfl,taken⟩,m,read,carries⟩ : ∃ other, Reached env raws other ∧ StandsIn arith b name n stored other := by
      rcases intact with ⟨reached,intact⟩ | ⟨other,-,reached,stands⟩
      · exact ⟨stored,reached,(intact_iff separator).mp intact⟩
      · exact ⟨other,reached,stands⟩
    rw [← builds] at read
    have kind : m.kind = some .Application := by rw [Message.kind,carries.msg_type,Option.map_some,application]
    have repeated := @resend_loop_repeats S env writer before after other m n read kind carries.msg_seq_num none 0 w taken
    exact ((runs_final _).mp repeated).copied separator' (made read) carries

end

/-! ### A session with a small dictionary -/

namespace News

/-- A field that the dictionary of the session does not declare. -/
def DESK : FieldDefinition := ⟨⟨5001,by decide,by decide⟩,.Body⟩

def header : ComponentData :=
  ⟨ascii "StandardHeader",[.Field true 8,.Field true 9,.Field true 35,.Field true 34,.Field true 49,.Field true 56,.Field true 52]⟩

def news : MessageData := ⟨ascii "B",[.Field false 58]⟩

/-- One message, with a text. -/
def dict : Dictionary where
  fields_by_tags := [BEGIN_STRING.tag,BODY_LENGTH.tag,MSG_TYPE.tag,MSG_SEQ_NUM.tag,SENDER_COMP_ID.tag,TARGET_COMP_ID.tag,
    SENDING_TIME.tag,CHECK_SUM.tag,TEXT.tag].map FieldData.of_tag
  components_by_name := [header,⟨ascii "StandardTrailer",[.Field true 10]⟩]
  messages_by_msgtype := [news]
  tags_distinct := by decide
  names_distinct := by decide
  msgtypes_distinct := by decide

def builder : MessageBuilder where
  dict := dict
  header_tags := [BEGIN_STRING.tag,BODY_LENGTH.tag,MSG_TYPE.tag,MSG_SEQ_NUM.tag,SENDER_COMP_ID.tag,TARGET_COMP_ID.tag,
    SENDING_TIME.tag]
  trailer_tags := [CHECK_SUM.tag]
  message_specification := [(ascii "B",⟨[⟨TEXT.tag,false⟩],[]⟩)]
  config := Config.default

theorem builder_made : MessageBuilder.new dict Config.default = .ok builder := rfl

def env : Env := { Sample.env [] with build := builder.parsed .exact }

/-- A text with one field. -/
def outbound (field : FieldDefinition) : OutboundMessage := ⟨ascii "B",fun m => .ok (m.set field (ascii "x"))⟩

def writer : WriterRef := ⟨0⟩

/-- The session after it has sent the message as its first. -/
def sent (o : OutboundMessage) : World Store := final (send_message_to env writer o Sample.start)

/-- The bytes that are stored of it. -/
def stored (o : OutboundMessage) : Bytes :=
  match generate_message env.config.begin_string env.config.sender_comp_id env.config.target_comp_id 1 o Sample.now with
  | .ok (_,raw) => raw
  | .error _ => []

end News

theorem text_intact : Intact .exact News.builder (ascii "B") 1 (News.stored (News.outbound TEXT)) := by
  obtain ⟨m,built,kept⟩ := Checked.valid_of_holds (show (build .exact News.builder (News.stored (News.outbound TEXT))).holds (fun m =>
    m.msg_type = some (ascii "B") && m.msg_seq_num = some 1 &&
      ((all_fields m).filter stays).map Field.occurrence = lasting (wire .exact SOH (News.stored (News.outbound TEXT)))) = true by
    decide +kernel)
  simp only [Bool.and_eq_true,decide_eq_true_eq] at kept
  exact (intact_iff rfl).mpr ⟨m,by rw [MessageBuilder.parsed,built]; rfl,kept.1.1,kept.1.2,kept.2⟩

theorem text_copied : Copied .exact News.writer (ascii "B") 1 (News.stored (News.outbound TEXT)) (News.sent (News.outbound TEXT))
    (final (resend_messages News.env News.writer 1 1 (News.sent (News.outbound TEXT)))) := by
  have covered : get_slice 1 1 (News.sent (News.outbound TEXT)).store = .ok [News.stored (News.outbound TEXT)] := rfl
  exact (resend_copies_iff rfl rfl rfl (by decide) covered).mpr (.inl ⟨⟨[],[],rfl,nofun⟩,text_intact⟩)

/-- The lasting fields on the wire of every frame that was written. -/
def wire_sizes (journal : List Effect) : List Nat :=
  journal.filterMap (fun effect => match effect with
    | .Sent _ _ raw => some (lasting (wire .exact SOH raw)).length
    | _ => none)

/-- A message with a field that the dictionary does not declare is sent again without
    its body. -/
theorem desk_lost : ¬ ∀ (dict : Dictionary) (config : Config) (b : MessageBuilder) (env : Env) (o : OutboundMessage)
    (now : Timestamp) (sent : Message) (raw : Bytes) (w : World Store),
    MessageBuilder.new dict config = .ok b → config.separator = SOH → env.build = b.parsed .exact →
    generate_message env.config.begin_string env.config.sender_comp_id env.config.target_comp_id 1 o now = .ok (sent,raw) →
    sent.kind = some .Application → get_slice 1 1 w.store = .ok [raw] →
    Copied .exact News.writer o.message_type 1 raw w (final (resend_messages env News.writer 1 1 w)) := by
  intro always
  obtain ⟨effects,added,frame,bytes,member,copy⟩ := always News.dict Config.default News.builder News.env
    (News.outbound News.DESK) Sample.now _ _ (News.sent (News.outbound News.DESK)) News.builder_made rfl rfl rfl (by decide) rfl
  have sizes : wire_sizes ((final (resend_messages News.env News.writer 1 1 (News.sent (News.outbound News.DESK)))).journal.drop
      (News.sent (News.outbound News.DESK)).journal.length) = [5] := by decide +kernel
  rw [added,List.drop_left] at sizes
  have short : (lasting (wire .exact SOH bytes)).length ∈ wire_sizes effects := List.mem_filterMap.mpr ⟨_,member,rfl⟩
  rw [sizes,copy.fields] at short
  revert short
  decide +kernel

end Resend
end HotFix
