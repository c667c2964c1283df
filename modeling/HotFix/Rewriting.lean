import HotFix.Frames
import HotFix.RoundTrip

/-!
The wire of a message that the builder has read, that was prepared for a resend and
is written again. Its times, its duplicate flag, its length and its checksum aside,
it has the fields that the sections of the message hold, in their order.
-/
namespace HotFix
open FieldMap

/-- The builder of a session. A panic leaves no message, as garbled bytes do. -/
def MessageBuilder.parsed (arith : Arith) (b : MessageBuilder) (data : Bytes) : ParsedMessage :=
  match build arith b data with
  | .ok parsed => parsed
  | .error text => .UnexpectedError (ascii text)

/-! ### The wire of what is written -/

theorem tag_of_decimal (arith : Arith) (tag : TagU32) : tag_of arith (Decimal.decimal tag.get) = some tag := by
  rw [tag_of,tag_from_bytes_spelled arith (spells_decimal tag)]

theorem wire_written (arith : Arith) {separator : UInt8} {fields : List Field} (free : ∀ f ∈ fields, separator ∉ f.data) :
    wire arith separator (wire_bytes separator fields) = fields.map Field.occurrence := by
  induction fields with
  | nil => rfl
  | cons f rest ih =>
    rw [wire_field (field_at_wire (free f List.mem_cons_self)),tag_of_decimal,
      ih (fun g member => free g (List.mem_cons_of_mem f member))]
    rfl

/-- No value on the wire holds a separator. -/
theorem wire_free {arith : Arith} {separator : UInt8} {bytes : Bytes} :
    ∀ o ∈ wire arith separator bytes, separator ∉ o.2 := by
  have split_free {bytes text data tail : Bytes} (split : split_field separator bytes = some (text,data,tail)) :
      separator ∉ data := by
    rw [split_field] at split
    dsimp only at split
    rcases found : bytes.drop (bytes.takeWhile (fun c => c ≠ 61)).length with _ | ⟨_,behind⟩
    · rw [found] at split
      cases split
    rw [found] at split
    dsimp only at split
    rcases ended : behind.drop (behind.takeWhile (fun c => c ≠ separator)).length with _ | ⟨_,rest⟩
    · rw [ended] at split
      cases split
    rw [ended] at split
    cases split
    exact fun there => by simpa using List.all_eq_true.mp List.all_takeWhile _ there
  have tokens_free (rounds : Nat) : ∀ bytes, ∀ t ∈ tokens separator rounds bytes, separator ∉ t.2 := by
    induction rounds with
    | zero => exact fun _ => List.forall_mem_nil _
    | succ rounds ih =>
      intro bytes t member
      rcases split : split_field separator bytes with _ | ⟨text,data,tail⟩
      · rw [tokens,split] at member
        cases member
      · rw [tokens,split] at member
        rcases List.mem_cons.mp member with rfl | later
        · exact split_free split
        · exact ih tail t later
  intro o member
  obtain ⟨t,there,rfl⟩ := List.mem_map.mp member
  exact tokens_free _ _ t there

/-! ### What may change -/

namespace Resend

/-- What a resend may change: the times, the duplicate flag, the length and the checksum. -/
def changing_tags : List TagU32 := [POSS_DUP_FLAG.tag,SENDING_TIME.tag,ORIG_SENDING_TIME.tag,BODY_LENGTH.tag,CHECK_SUM.tag]

def stays (f : Field) : Bool := decide (f.tag ∉ changing_tags)

/-- What stays of the occurrences on a wire. -/
def lasting (occurrences : List (Option TagU32 × Bytes)) : List (Option TagU32 × Bytes) :=
  occurrences.filter (fun o => o.1 ∉ changing_tags.map some)

theorem lasting_fields (fields : List Field) : lasting (fields.map Field.occurrence) = (fields.filter stays).map Field.occurrence := by
  rw [lasting,List.filter_map]
  refine congrArg (List.map Field.occurrence) (List.filter_congr (fun f _ => ?_))
  exact decide_eq_decide.mpr (not_congr (List.mem_map_of_injective (Option.some_injective _)))

theorem lasting_append (first second : List (Option TagU32 × Bytes)) : lasting (first ++ second) = lasting first ++ lasting second :=
  List.filter_append _ _

theorem stays_keyed (f g : Field) (same : g.tag = f.tag) : stays g = stays f := by rw [stays,stays,same]

/-- A header in which at most changing fields are others. -/
structure Alike (header header' : FieldMap) : Prop where
  groups : header'.groups = header.groups
  distinct : (header.fields.map Field.tag).Nodup → (header'.fields.map Field.tag).Nodup
  stay : header'.fields.filter stays = header.fields.filter stays
  free : ∀ f ∈ header'.fields, f ∈ header.fields ∨ SOH ∉ f.data

namespace Alike
variable {header header' header'' : FieldMap}

theorem refl : Alike header header := ⟨rfl,id,rfl,fun _ => .inl⟩

theorem trans (first : Alike header header') (second : Alike header' header'') : Alike header header'' where
  groups := second.groups.trans first.groups
  distinct := second.distinct ∘ first.distinct
  stay := second.stay.trans first.stay
  free := fun f member => (second.free f member).elim (first.free f) .inr

theorem pop {tag : TagU32} (changing : tag ∈ changing_tags) : Alike header (header.pop tag).2 where
  groups := rfl
  distinct := (List.eraseP_sublist.map _).nodup
  stay := by
    obtain ⟨fields,groups⟩ := header
    change (fields.eraseP (fun f => f.tag = tag)).filter stays = fields.filter stays
    induction fields with
    | nil => rfl
    | cons f rest ih =>
      by_cases same : f.tag = tag
      · rw [List.eraseP_cons_of_pos (by simpa using same),List.filter_cons_of_neg (by simp [stays,same,changing])]
      · rw [List.eraseP_cons_of_neg (by simpa using same),List.filter_cons,List.filter_cons,ih]
  free := fun _ member => .inl (List.mem_of_mem_eraseP member)

theorem set (field : FieldDefinition) {value : Bytes} (changing : field.tag ∈ changing_tags) (free : SOH ∉ value) :
    Alike header (header.set field value) where
  groups := by
    obtain ⟨_,_⟩ := header
    rfl
  distinct := by
    rw [set_fields]
    exact IndexMap.nodup_insert _
  stay := by
    rw [set_fields]
    refine IndexMap.filter_insert _ (fun f same => ?_)
    rw [stays,show f.tag = field.tag from same]
    simp [changing]
  free := by
    intro f member
    rw [set_fields] at member
    rcases IndexMap.mem_insert member with rfl | old
    · exact .inr free
    · exact .inl old

end Alike

theorem digit_free {n : Nat} (below : n < 10) : SOH ≠ digit_to_ascii n := by
  have all : ∀ n < 10, SOH ≠ digit_to_ascii n := by decide
  exact all n below

/-- A timestamp is written without separators. -/
theorem timestamp_free (t : Timestamp) : SOH ∉ t.to_bytes := by
  obtain ⟨⟨year,month,day,_,_,_⟩,⟨hour,minute,second,milli,_,_,_,_⟩⟩ := t
  simp only [Timestamp.to_bytes,Date.to_yyyymmdd,Time.to_bytes,List.mem_append,List.mem_cons,List.not_mem_nil,or_false,not_or]
  refine ⟨⟨⟨?_,?_,?_,?_,?_,?_,?_,?_⟩,by decide⟩,?_,?_,by decide,?_,?_,by decide,?_,?_,by decide,?_,?_,?_⟩
  all_goals exact digit_free (by omega)

/-- The preparation for a resend leaves everything but changing fields of the header. -/
theorem prepared_alike (m : Message) (now : Timestamp) :
    Alike m.header (prepare_message_for_resend m now).1.header := by
  have popped : Alike m.header (m.header.pop SENDING_TIME.tag).2 := .pop (by decide)
  rcases Frames.prepare_message_for_resend_cases m now with ⟨-,same⟩ | ⟨_,-,⟨-,same⟩ | ⟨-,⟨t,-,same⟩ | ⟨-,same⟩⟩⟩
  · rw [same]
    exact .refl
  · rw [same]
    exact popped.trans (.set SENDING_TIME (by decide) (timestamp_free now))
  · rw [same]
    have dated := (popped.trans (.set ORIG_SENDING_TIME (by decide) (timestamp_free t))).trans
      (.set SENDING_TIME (by decide) (timestamp_free now))
    exact dated.trans (.set POSS_DUP_FLAG (by decide) (by decide))
  · rw [same]
    exact popped

theorem prepared_sections (m : Message) (now : Timestamp) :
    (prepare_message_for_resend m now).1.header.groups = m.header.groups ∧
      (prepare_message_for_resend m now).1.body = m.body ∧ (prepare_message_for_resend m now).1.trailer = m.trailer := by
  rcases Frames.prepare_message_for_resend_cases m now with ⟨-,same⟩ | ⟨_,-,⟨-,same⟩ | ⟨-,⟨_,-,same⟩ | ⟨-,same⟩⟩⟩
  all_goals
    rw [same]
    exact ⟨rfl,rfl,rfl⟩

/-! ### What the builder makes -/

open Message MessageBuilder

/-- A message as the builder makes it: maps without repeated tags, the first fields of
    the header in front, and no value with a separator but perhaps that of CheckSum. -/
structure Made (m : Message) : Prop where
  header_flat : m.header.groups = []
  header_distinct : (m.header.fields.map Field.tag).Nodup
  leads : ∃ begin_string msg_type others, m.header.fields.filter stays = begin_string :: msg_type :: others ∧
    begin_string.tag = BEGIN_STRING.tag ∧ msg_type.tag = MSG_TYPE.tag
  tidy : m.body.Tidy
  trailer_flat : m.trailer.groups = []
  trailer_distinct : (m.trailer.fields.map Field.tag).Nodup
  header_free : ∀ f ∈ m.header.fields, SOH ∉ f.data
  body_free : ∀ f ∈ Item.flatten_items m.body.tree, SOH ∉ f.data
  trailer_free : ∀ f ∈ m.trailer.fields, f.tag ≠ CHECK_SUM.tag → SOH ∉ f.data

theorem digits_free {text : Bytes} (digits : text.all Decimal.isDigit = true) : SOH ∉ text :=
  fun there => absurd (List.all_eq_true.mp digits SOH there) (by decide)

/-- The lasting fields of a header behind those that start it. -/
theorem filter_starting {fields others : List Field} {begin_string msg_type : Field}
    (distinct : (fields.map Field.tag).Nodup) (leads : fields.filter stays = begin_string :: msg_type :: others)
    (first_tag : begin_string.tag = BEGIN_STRING.tag) (third_tag : msg_type.tag = MSG_TYPE.tag) :
    (fields.filter (fun f => !starting_fields.contains f.tag)).filter stays = others := by
  have keys : ((begin_string :: msg_type :: others).map Field.tag).Nodup := leads ▸ (List.filter_sublist.map _).nodup distinct
  rw [List.map_cons,List.map_cons,List.nodup_cons,List.nodup_cons,first_tag,third_tag] at keys
  rw [List.filter_comm,leads,List.filter_cons_of_neg (by rw [first_tag]; decide),
    List.filter_cons_of_neg (by rw [third_tag]; decide),List.filter_eq_self]
  intro f member
  have stayed : stays f = true := (List.mem_filter.mp (leads ▸ (by simp [member]) : f ∈ fields.filter stays)).2
  have tagged : f.tag ∈ others.map Field.tag := List.mem_map_of_mem member
  have first : f.tag ≠ BEGIN_STRING.tag := fun same => keys.1 (List.mem_cons_of_mem _ (same ▸ tagged))
  have second : f.tag ≠ BODY_LENGTH.tag := by
    intro same
    rw [stays,same] at stayed
    exact absurd stayed (by decide)
  have third : f.tag ≠ MSG_TYPE.tag := fun same => keys.2.1 (same ▸ tagged)
  simp [starting_fields,first,second,third]

/-- With another header that is alike, it is written with the same lasting fields. -/
theorem Made.written {arith : Arith} {m : Message} {header : FieldMap} {config : Config} (made : Made m)
    (alike : Alike m.header header) (separator : config.separator = SOH) :
    lasting (wire arith SOH (({ m with header := header } : Message).encode config).2) =
      ((all_fields m).filter stays).map Field.occurrence := by
  obtain ⟨begin_string,msg_type,others,leads,first_tag,third_tag⟩ := made.leads
  have leads' := alike.stay.trans leads
  have distinct := alike.distinct made.header_distinct
  have begins : begin_string ∈ header.fields := List.mem_of_mem_filter (p := stays) (by rw [leads']; simp)
  have typed : msg_type ∈ header.fields := List.mem_of_mem_filter (p := stays) (by rw [leads']; simp)
  obtain ⟨rest,behind⟩ : ∃ rest, header.fields.filter (fun f => !starting_fields.contains f.tag) = rest := ⟨_,rfl⟩
  obtain ⟨trailer,closes⟩ : ∃ trailer, m.trailer.fields.eraseP (fun f => f.tag = CHECK_SUM.tag) = trailer := ⟨_,rfl⟩
  have parts : ({ m with header := header } : Message).Parts begin_string msg_type rest trailer := by
    refine ⟨alike.groups.trans made.header_flat,distinct,?_,?_,behind,made.trailer_flat,closes,?_,?_,made.tidy⟩
    · rw [← first_tag]
      exact IndexMap.get_of_mem distinct begins
    · rw [← third_tag]
      exact IndexMap.get_of_mem distinct typed
    · rw [← closes]
      exact (List.eraseP_sublist.map _).nodup made.trailer_distinct
    · rw [← closes]
      exact IndexMap.erase_distinct made.trailer_distinct
  have in_header (f : Field) (member : f ∈ header.fields) : SOH ∉ f.data :=
    (alike.free f member).elim (made.header_free f) id
  have free : ∀ f ∈ frame_fields SOH begin_string msg_type (rest_fields { m with header := header } rest trailer),
      SOH ∉ f.data := by
    intro f member
    simp only [frame_fields,front_fields,rest_fields,List.mem_append,List.mem_cons,List.not_mem_nil,or_false] at member
    rcases member with ((rfl | rfl | rfl) | inside | inside | inside) | rfl
    · exact in_header _ begins
    · exact digits_free (Decimal.decimal_digits _)
    · exact in_header _ typed
    · rw [← behind] at inside
      exact in_header f (List.mem_of_mem_filter inside)
    · exact made.body_free f inside
    · rw [← closes] at inside
      exact made.trailer_free f (List.mem_of_mem_eraseP inside) (IndexMap.erase_distinct made.trailer_distinct f inside)
    · exact digits_free (CheckSum.three_digits_spells (Nat.lt_trans (UInt8.toNat_lt _) (by decide))).1
  have shortened : trailer.filter stays = m.trailer.fields.filter stays := by
    have popped : Alike m.trailer (m.trailer.pop CHECK_SUM.tag).2 := .pop (by decide)
    rw [← closes]
    exact popped.stay
  have starting (length : Bytes) : [begin_string,⟨BODY_LENGTH.tag,length⟩,msg_type].filter stays = [begin_string,msg_type] := by
    rw [List.filter_cons_of_pos (by rw [stays,first_tag]; decide),List.filter_cons_of_neg (by simp [stays,changing_tags]),
      List.filter_cons_of_pos (by rw [stays,third_tag]; decide),List.filter_nil]
  have closing (front : List Field) : [sum_field SOH front].filter stays = [] :=
    List.filter_cons_of_neg (by simp [stays,changing_tags,sum_field])
  have others_eq := filter_starting distinct leads' first_tag third_tag
  rw [behind] at others_eq
  rw [parts.encode_eq,separator,wire_written arith free,lasting_fields,frame_fields,front_fields,rest_fields,all_fields]
  simp only [List.filter_append,leads,starting,closing,shortened,others_eq,List.append_nil]
  rfl

/-! ### What the builder reads -/

/-- The lasting fields of a section, as its map holds them. -/
theorem lasting_section (fields : List Field) :
    (FieldMap.empty.insert_fields fields).fields.filter stays = IndexMap.insertAll Field.tag [] (fields.filter stays) := by
  rw [insert_fields_eq]
  exact IndexMap.filter_insertAll stays_keyed [] fields

theorem section_distinct (fields : List Field) : ((FieldMap.empty.insert_fields fields).fields.map Field.tag).Nodup := by
  rw [insert_fields_eq]
  exact IndexMap.nodup_insertAll fields List.nodup_nil

theorem section_fields {fields : List Field} {f : Field} (member : f ∈ (FieldMap.empty.insert_fields fields).fields) :
    f ∈ fields := by
  rw [insert_fields_eq] at member
  exact (IndexMap.mem_insertAll member).resolve_left List.not_mem_nil

/-- A section without repetitions among its lasting fields keeps them. -/
theorem section_kept {fields : List Field} (gone : ∀ f ∈ IndexMap.replaced Field.tag fields, stays f = false) :
    (FieldMap.empty.insert_fields fields).fields.filter stays = fields.filter stays := by
  rw [lasting_section]
  exact IndexMap.insertAll_fresh (IndexMap.nodup_of_replaced gone)

theorem section_leads {begin_string body_length msg_type : Field} (fields : List Field)
    (first_tag : begin_string.tag = BEGIN_STRING.tag) (second_tag : body_length.tag = BODY_LENGTH.tag)
    (third_tag : msg_type.tag = MSG_TYPE.tag) :
    ∃ first third others, (FieldMap.empty.insert_fields ([begin_string,body_length,msg_type] ++ fields)).fields.filter stays =
      first :: third :: others ∧ first.tag = BEGIN_STRING.tag ∧ third.tag = MSG_TYPE.tag := by
  have starting : ([begin_string,body_length,msg_type] ++ fields).filter stays = [begin_string,msg_type] ++ fields.filter stays := by
    rw [List.filter_append,List.filter_cons_of_pos (by rw [stays,first_tag]; decide),
      List.filter_cons_of_neg (by rw [stays,second_tag]; decide),List.filter_cons_of_pos (by rw [stays,third_tag]; decide),
      List.filter_nil]
  have inserted : IndexMap.insertAll Field.tag [] ([begin_string,msg_type] ++ fields.filter stays) =
      IndexMap.insertAll Field.tag [begin_string,msg_type] (fields.filter stays) := by
    have fresh : IndexMap.insertAll Field.tag [] [begin_string,msg_type] = [begin_string,msg_type] :=
      IndexMap.insertAll_fresh (by rw [List.nil_append,List.map_cons,List.map_cons,first_tag,third_tag]; decide)
    rw [IndexMap.insertAll,List.foldl_append]
    exact congrArg (fun m => IndexMap.insertAll Field.tag m (fields.filter stays)) fresh
  obtain ⟨keys,split⟩ := @IndexMap.keys_insertAll _ _ _ Field.tag [begin_string,msg_type] (fields.filter stays)
  rw [lasting_section,starting,inserted]
  generalize IndexMap.insertAll Field.tag [begin_string,msg_type] (fields.filter stays) = kept at split
  obtain ⟨two,others,rfl,two_keys,-⟩ := List.map_eq_append_iff.mp split.symm
  obtain ⟨first,more,rfl,first_key,more_keys⟩ := List.map_eq_cons_iff.mp two_keys
  obtain ⟨third,rest,rfl,third_key,no_keys⟩ := List.map_eq_cons_iff.mp more_keys
  obtain rfl := List.map_eq_nil_iff.mp no_keys
  exact ⟨first,third,others,rfl,first_key.trans first_tag,third_key.trans third_tag⟩

/-- Sections with values from the wire make such a message. -/
theorem made_of_sections {begin_string body_length msg_type : Field} {header trailer : List Field} {items : List Item}
    (first_tag : begin_string.tag = BEGIN_STRING.tag) (second_tag : body_length.tag = BODY_LENGTH.tag)
    (third_tag : msg_type.tag = MSG_TYPE.tag)
    (header_free : ∀ f ∈ [begin_string,body_length,msg_type] ++ header, SOH ∉ f.data)
    (body_free : ∀ f ∈ Item.flatten_items (Item.store_items FieldMap.empty items).tree, SOH ∉ f.data)
    (trailer_free : ∀ f ∈ trailer, f.tag ≠ CHECK_SUM.tag → SOH ∉ f.data) :
    Made ⟨FieldMap.empty.insert_fields ([begin_string,body_length,msg_type] ++ header),Item.store_items FieldMap.empty items,
      FieldMap.empty.insert_fields trailer⟩ where
  header_flat := congrArg FieldMap.groups (insert_fields_eq FieldMap.empty _)
  header_distinct := section_distinct _
  leads := section_leads header first_tag second_tag third_tag
  tidy := tidy_store items
  trailer_flat := congrArg FieldMap.groups (insert_fields_eq FieldMap.empty _)
  trailer_distinct := section_distinct _
  header_free := fun f member => header_free f (section_fields member)
  body_free := body_free
  trailer_free := fun f member => trailer_free f (section_fields member)

/-- What is stored of a body was read. -/
theorem stored_fields {items : List Item} (uniform : Item.UniformItems items) {f : Field}
    (member : f ∈ Item.flatten_items (Item.store_items FieldMap.empty items).tree) : f ∈ Item.flatten_items items := by
  have stored := (tree_perm _ (tidy_store items)).mem_iff.mp member
  exact (Item.store_perm uniform).mem_iff.mp (List.mem_append_left _ stored)

theorem occurrence_free {arith : Arith} {data : Bytes} {fields : List Field} {rest : List (Option TagU32 × Bytes)}
    (split : wire arith SOH data = fields.map Field.occurrence ++ rest) : ∀ f ∈ fields, SOH ∉ f.data :=
  fun f member => @wire_free arith SOH data f.occurrence (split ▸ List.mem_append_left _ (List.mem_map_of_mem member))

/-- A valid message is such a message. -/
theorem made_of_sectioned {arith : Arith} {b : MessageBuilder} {data : Bytes} {r : Reading} (separator : b.config.separator = SOH)
    (sectioned : Sectioned arith b data r) : Made r.message := by
  obtain ⟨rest,split⟩ := sections_wire sectioned
  rw [separator] at split
  have free := occurrence_free split
  obtain ⟨p₁,p₂,p₃,p₄,p₅,n,body_end,first_body,first_trailer,name,spec,stop,reads⟩ := sectioned
  refine made_of_sections reads.framing.first_tag reads.framing.second_tag reads.framing.third_tag ?_ ?_ ?_
  · exact fun f member => free f (List.mem_append_left _ (List.mem_append_left _ member))
  · exact fun f member => free f (List.mem_append_left _ (List.mem_append_right _
      (stored_fields (body_uniform reads.body.items_ok) member)))
  · intro f member other
    rcases List.mem_cons.mp member with rfl | inside
    · exact absurd reads.framing.last_tag other
    · exact free f (List.mem_append_right _ inside)

/-- What is refused is left with its header. -/
theorem refused_header {α : Type} {header : FieldMap} {result : ParserResult α} {valid : α → Checked ParsedMessage} {m : Message}
    {reason : InvalidReason} (accepts : ∀ a, valid a ≠ .ok (.Invalid m reason))
    (built : or_invalid header result valid = .ok (.Invalid m reason)) : m = with_header header := by
  rcases result with (e | text) | a
  · cases e
    all_goals first | cases built; rfl | cases built
  · cases built
  · exact absurd built (accepts a)

/-- A message that is refused is left with its header section. -/
theorem invalid_sections {arith : Arith} {b : MessageBuilder} {data : Bytes} {m : Message} {reason : InvalidReason}
    (built : build arith b data = .ok (.Invalid m reason)) : ∃ begin_string body_length msg_type header rest,
      begin_string.tag = BEGIN_STRING.tag ∧ body_length.tag = BODY_LENGTH.tag ∧ msg_type.tag = MSG_TYPE.tag ∧
      (∀ f ∈ header, b.is_header_tag f.tag = true) ∧
      wire arith b.config.separator data = ([begin_string,body_length,msg_type] ++ header).map Field.occurrence ++ rest ∧
      m = with_header (FieldMap.empty.insert_fields ([begin_string,body_length,msg_type] ++ header)) := by
  rcases verified : verify_integrity arith ⟨0,data,b.config⟩ with stop | ⟨leading,sums,p₃⟩
  · rw [build] at built
    dsimp only at built
    rw [verified] at built
    cases stop with
    | Error e => cases e <;> cases built
    | Panic text => cases built
  · obtain ⟨begin_string,body_length,msg_type,checksum,p₁,p₂,n,body_end,framing,agrees,-,-⟩ := verify_integrity_ok.mp verified
    obtain ⟨_,_,inside₃⟩ := framing.third_cursor
    obtain ⟨header,stop,scan,all,off⟩ := Scan.munch arith (fun tag => b.is_header_tag tag = true) msg_type p₃ inside₃
    obtain ⟨rest,split,_⟩ := scan.wire inside₃
    refine ⟨begin_string,body_length,msg_type,header,rest,framing.first_tag,framing.second_tag,framing.third_tag,all,?_,?_⟩
    · rw [framing_wire framing,split]
      simp
    · rw [build_intact framing agrees scan all off] at built
      generalize FieldMap.empty.insert_fields ([begin_string,body_length,msg_type] ++ header) = front at built ⊢
      cases stop with
      | ended => cases built
      | stuck message => cases built
      | ahead next parser =>
        rw [build_headed] at built
        cases named : front.get_str MSG_TYPE with
        | none =>
          rw [named] at built
          cases built
        | some name =>
          rw [named] at built
          dsimp only at built
          split_ifs at built
          · refine refused_header (fun read invalid => ?_) built
            obtain ⟨trailer,_,finished⟩ := bind_eq_ok.mp invalid
            cases finished
          · cases built
            rfl

/-- A message that is read, valid or not, is such a message. -/
theorem made_of_parsed {arith : Arith} {b : MessageBuilder} {data : Bytes} {m : Message} (separator : b.config.separator = SOH)
    (read : (b.parsed arith data).into_message = some m) : Made m := by
  rw [MessageBuilder.parsed] at read
  cases built : build arith b data with
  | error text =>
    rw [built] at read
    cases read
  | ok parsed =>
    rw [built] at read
    cases parsed with
    | Garbled _ => cases read
    | UnexpectedError _ => cases read
    | Valid _ =>
      cases read
      obtain ⟨r,sectioned,rfl⟩ := build_valid.mp built
      exact made_of_sectioned separator sectioned
    | Invalid _ reason =>
      cases read
      obtain ⟨begin_string,body_length,msg_type,header,rest,first_tag,second_tag,third_tag,-,split,rfl⟩ := invalid_sections built
      rw [separator] at split
      have made : Made ⟨_,Item.store_items FieldMap.empty [],FieldMap.empty.insert_fields []⟩ :=
        made_of_sections first_tag second_tag third_tag (occurrence_free split) nofun nofun
      exact made

end Resend
end HotFix
