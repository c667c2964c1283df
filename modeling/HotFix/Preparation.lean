import HotFix.Copies

/-!
The preparation for a resend, once and again: what a message is after any number of them.
A SendingTime that does not parse is popped before the preparation fails.
-/
namespace HotFix
open Frames

/-- The message after one preparation for each reading of the clock. -/
def prepared (m : Message) (clocks : List Timestamp) : Message :=
  clocks.foldl (fun m now => (prepare_message_for_resend m now).1) m

/-- What a preparation leaves alone. -/
structure OnlyTimes (m m' : Message) : Prop where
  header : ∀ tag, tag ≠ SENDING_TIME.tag → tag ≠ ORIG_SENDING_TIME.tag → tag ≠ POSS_DUP_FLAG.tag →
    m'.header.get_raw tag = m.header.get_raw tag
  header_groups : m'.header.groups = m.header.groups
  body : m'.body = m.body
  trailer : m'.trailer = m.trailer

/-- The message is a duplicate sent now of what was sent first. -/
structure Refreshed (first m' : Message) (now : Timestamp) : Prop where
  poss_dup : m'.header.get_raw POSS_DUP_FLAG.tag = some (ascii "Y")
  sending_time : m'.header.get_timestamp SENDING_TIME = some now
  original : first.poss_dup = false → ∃ t, first.header.get_timestamp SENDING_TIME = some t ∧
    m'.header.get_timestamp ORIG_SENDING_TIME = some t

/-- After any number of preparations the next one fails and changes nothing, or succeeds and
    gives a duplicate that is otherwise the same message. -/
def AllOrNothing (first : Message) : Prop :=
  ∀ clocks now, let m := prepared first clocks
    (∀ reason, (prepare_message_for_resend m now).2 = .error reason → (prepare_message_for_resend m now).1 = m) ∧
    ((prepare_message_for_resend m now).2 = .ok () →
      Refreshed first (prepare_message_for_resend m now).1 now ∧ OnlyTimes m (prepare_message_for_resend m now).1)

/-- SendingTime is absent or parses, or the message was resent before. -/
def Preparable (m : Message) : Prop :=
  ∀ data, m.header.get_raw SENDING_TIME.tag = some data → (Timestamp.parse data).isSome = true ∨
    m.poss_dup = true ∧ (m.header.get_raw ORIG_SENDING_TIME.tag).isSome = true

/-! ### One preparation -/

theorem prepared_only_times (m : Message) (now : Timestamp) : OnlyTimes m (prepare_message_for_resend m now).1 :=
  have ⟨header_groups,body,trailer⟩ := Resend.prepared_sections m now
  ⟨fun _ sending original duplicate => prepared_get_raw m now sending.symm original.symm duplicate.symm,header_groups,body,trailer⟩

/-- Where a message stands after some preparations of the first: it is as it was, or a
    duplicate with the time of the first. -/
structure Stands (first m : Message) : Prop where
  preparable : Preparable m
  original : first.poss_dup = false → m = first ∨ m.poss_dup = true ∧
    ∃ t, first.header.get_timestamp SENDING_TIME = some t ∧ m.header.get_timestamp ORIG_SENDING_TIME = some t

theorem Stands.start {first : Message} (preparable : Preparable first) : Stands first first :=
  ⟨preparable,fun _ => .inl rfl⟩

theorem poss_dup_of_flag {m : Message} (flag : m.header.get_raw POSS_DUP_FLAG.tag = some (ascii "Y")) : m.poss_dup = true := by
  unfold Message.poss_dup FieldMap.get_bool
  rw [flag]
  rfl

theorem flag_of_poss_dup {m : Message} (dup : m.poss_dup = true) : m.header.get_raw POSS_DUP_FLAG.tag = some (ascii "Y") := by
  unfold Message.poss_dup FieldMap.get_bool at dup
  cases flag : m.header.get_raw POSS_DUP_FLAG.tag with
  | none =>
    rw [flag] at dup
    cases dup
  | some data =>
    rw [flag,Option.bind_some] at dup
    split_ifs at dup with yes no
    · rw [yes]
      rfl
    · cases dup
    · cases dup

/-- A duplicate sent now can be prepared again. -/
theorem Refreshed.stands {first m' : Message} {now : Timestamp} (refreshed : Refreshed first m' now) : Stands first m' where
  preparable := by
    intro data sent
    have parsed := refreshed.sending_time
    rw [FieldMap.get_timestamp,sent,Option.bind_some] at parsed
    exact .inl (Option.isSome_iff_exists.mpr ⟨now,parsed⟩)
  original := fun new => .inr ⟨poss_dup_of_flag refreshed.poss_dup,refreshed.original new⟩

/-- A preparation that succeeds leaves a duplicate sent now. -/
theorem Stands.refreshed {first m : Message} (stands : Stands first m) {now : Timestamp}
    (fine : (prepare_message_for_resend m now).2 = .ok ()) : Refreshed first (prepare_message_for_resend m now).1 now := by
  rcases prepare_message_for_resend_cases m now with ⟨-,same⟩ | ⟨data,sent,⟨again,same⟩ | ⟨once,⟨t,parsed,same⟩ | ⟨-,same⟩⟩⟩
  · rw [same] at fine
    cases fine
  · obtain ⟨dup,kept⟩ := Bool.and_eq_true_iff.mp again
    have other {tag : TagU32} (other : SENDING_TIME.tag ≠ tag) :
        ((m.header.pop SENDING_TIME.tag).2.set SENDING_TIME now.to_bytes).get_raw tag = m.header.get_raw tag := by
      rw [FieldMap.get_raw_set,if_neg other,FieldMap.get_raw_pop m.header other]
    have original : ((m.header.pop SENDING_TIME.tag).2.set SENDING_TIME now.to_bytes).get_timestamp ORIG_SENDING_TIME =
        m.header.get_timestamp ORIG_SENDING_TIME := congrArg (Option.bind · Timestamp.parse) (other (by decide))
    rw [same]
    refine ⟨(other (by decide)).trans (flag_of_poss_dup dup),?_,?_⟩
    · rw [FieldMap.get_timestamp,FieldMap.get_raw_set,if_pos rfl,Option.bind_some,Timestamp.parse_to_bytes]
    · intro new
      dsimp only
      rw [original]
      rcases stands.original new with rfl | ⟨-,found⟩
      · rw [new] at dup
        cases dup
      · exact found
  · rw [same]
    refine ⟨?_,?_,?_⟩
    · rw [FieldMap.get_raw_set,if_pos rfl]
      rfl
    · rw [FieldMap.get_timestamp,FieldMap.get_raw_set,if_neg (by decide),FieldMap.get_raw_set,if_pos rfl,Option.bind_some,
        Timestamp.parse_to_bytes]
    · intro new
      refine ⟨t,?_,?_⟩
      rotate_left
      · rw [FieldMap.get_timestamp,FieldMap.get_raw_set,if_neg (by decide),FieldMap.get_raw_set,if_neg (by decide),
          FieldMap.get_raw_set,if_pos rfl,Option.bind_some,Timestamp.parse_to_bytes]
      rcases stands.original new with rfl | ⟨dup,t',_,kept⟩
      · rw [FieldMap.get_timestamp,sent,Option.bind_some,parsed]
      · -- A duplicate with its first time is not prepared as if it were new.
        have there : (m.header.get_raw ORIG_SENDING_TIME.tag).isSome = true := by
          obtain ⟨data,present,_⟩ := Option.bind_eq_some_iff.mp kept
          rw [present]
          rfl
        rw [dup,there] at once
        cases once
  · rw [same] at fine
    cases fine

/-- A preparation that fails changes nothing. -/
theorem Preparable.unchanged {m : Message} (preparable : Preparable m) {now : Timestamp} {reason : String}
    (fails : (prepare_message_for_resend m now).2 = .error reason) : (prepare_message_for_resend m now).1 = m := by
  rcases prepare_message_for_resend_cases m now with ⟨-,same⟩ | ⟨data,sent,⟨_,same⟩ | ⟨once,⟨_,_,same⟩ | ⟨parsed,same⟩⟩⟩
  · rw [same]
  · rw [same] at fails
    cases fails
  · rw [same] at fails
    cases fails
  · rcases preparable data sent with read | ⟨dup,there⟩
    · rw [parsed] at read
      cases read
    · rw [dup,there] at once
      cases once

/-! ### Any number of preparations -/

theorem Stands.step {first m : Message} (stands : Stands first m) (now : Timestamp) : Stands first (prepare_message_for_resend m now).1 := by
  cases outcome : (prepare_message_for_resend m now).2 with
  | ok value => exact (stands.refreshed outcome).stands
  | error reason => rwa [stands.preparable.unchanged outcome]

theorem Stands.prepared {first m : Message} (stands : Stands first m) (clocks : List Timestamp) : Stands first (prepared m clocks) := by
  induction clocks generalizing m with
  | nil => exact stands
  | cons now clocks ih => exact ih (stands.step now)

/-- A message that is prepared all or nothing keeps its SendingTime. -/
theorem AllOrNothing.preparable {m : Message} (whole : AllOrNothing m) : Preparable m := by
  intro data sent
  by_contra lost
  rw [not_or] at lost
  let now := Sample.now
  rcases prepare_message_for_resend_cases m now with ⟨missing,-⟩ | ⟨data',sent',⟨again,-⟩ | ⟨-,⟨t,parsed,-⟩ | ⟨-,same⟩⟩⟩
  · rw [sent] at missing
    cases missing
  · exact lost.2 (Bool.and_eq_true_iff.mp again)
  · cases sent.symm.trans sent'
    exact lost.1 (by rw [parsed]; rfl)
  · have unchanged : (prepare_message_for_resend m now).1 = m := (whole [] now).1 _ (congrArg Prod.snd same)
    rw [same] at unchanged
    obtain ⟨field,found,-⟩ := Option.map_eq_some_iff.mp sent
    have shorter : (m.header.pop SENDING_TIME.tag).2.fields.length = m.header.fields.length - 1 :=
      List.length_eraseP_of_mem (List.mem_of_find?_eq_some found) (by simpa using List.find?_some found)
    have some_field : 0 < m.header.fields.length := List.length_pos_of_mem (List.mem_of_find?_eq_some found)
    have lengths := congrArg (fun m : Message => m.header.fields.length) unchanged
    dsimp only at lengths
    omega

/-- A preparation is all or nothing, now and after any others, if and only if SendingTime is
    absent or parses, or the message was resent before. -/
theorem all_or_nothing_iff (m : Message) : AllOrNothing m ↔ Preparable m := by
  refine ⟨AllOrNothing.preparable,?_⟩
  intro preparable clocks now
  have stands := (Stands.start preparable).prepared clocks
  exact ⟨fun _ => stands.preparable.unchanged,fun fine => ⟨stands.refreshed fine,prepared_only_times _ now⟩⟩

namespace Sample

/-- A report whose SendingTime has no milliseconds and no colons. -/
def garbled_report : Message := message (ascii "8") 1 [(SENDING_TIME,ascii "20240101-120000")]

end Sample

/-- A SendingTime that does not parse is lost. -/
theorem sending_time_lost : ¬ ∀ m : Message, AllOrNothing m := by
  intro always
  have preparable := (always Sample.garbled_report).preparable
  exact absurd (preparable (ascii "20240101-120000") (by decide +kernel)) (by decide +kernel)

end HotFix
