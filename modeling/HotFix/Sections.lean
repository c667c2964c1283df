import HotFix.Grammar

/-!
The sections of a message. The header takes the header fields behind MsgType, the
body a tree of its specification, the trailer every field up to a CheckSum. What
the builder accepts is exactly a message that falls into such sections.
-/
namespace HotFix

/-! ### The longest stretch -/

namespace Scan

/-- Behind any field stands a longest stretch of fields with a property. -/
theorem munch (arith : Arith) (P : TagU32 → Prop) (field : Field) (parser : Parser) (inside : parser.position ≤ parser.raw_data.length) :
    ∃ fields stop, Scan arith field parser (field :: fields) stop ∧ (∀ f ∈ fields, P f.tag) ∧
      ∀ tag ∈ stop.tag, ¬ P tag := by
  induction left : parser.remaining using Nat.strongRecOn generalizing field parser with
  | ind left ih =>
    rcases read : parser.next_field arith with message | _ | ⟨following,parser'⟩
    · exact ⟨[],.stuck message,.stuck read,nofun,nofun⟩
    · exact ⟨[],.ended,.ended read,nofun,nofun⟩
    · by_cases holds : P following.tag
      · have inside' := (Parser.next_field_moves inside read).2.2.2
        have less := Parser.next_field_remaining inside read
        obtain ⟨fields,stop,scan,all,off⟩ := ih parser'.remaining (by omega) following parser' inside' rfl
        refine ⟨following :: fields,stop,.next read scan,?_,off⟩
        rintro f member
        rcases List.mem_cons.mp member with rfl | later
        · exact holds
        · exact all f later
      · refine ⟨[],.ahead following parser',.next read (.here following parser'),nofun,?_⟩
        rintro tag ahead
        cases ahead
        exact holds

end Scan

namespace FieldMap

/-- The fields one after the other. -/
def insert_fields (m : FieldMap) (fields : List Field) : FieldMap := fields.foldl FieldMap.insert m

theorem insertField_eq (f : Field) (fields : List Field) : insertField f fields = IndexMap.insert Field.tag f fields := by
  induction fields with
  | nil => rfl
  | cons g rest ih => simp only [insertField,IndexMap.insert,ih]

theorem insert_fields_eq (m : FieldMap) (fields : List Field) :
    m.insert_fields fields = .mk (IndexMap.insertAll Field.tag m.fields fields) m.groups := by
  induction fields generalizing m with
  | nil => obtain ⟨_,_⟩ := m; rfl
  | cons f rest ih =>
    rw [insert_fields,List.foldl_cons,← insert_fields,ih]
    simp [IndexMap.insertAll,insert,FieldMap.fields,FieldMap.groups,insertField_eq]

end FieldMap

namespace MessageBuilder
variable {arith : Arith} {b : MessageBuilder}

/-! ### The header -/

/-- What the header section ends with: the check of the message type, or the reason
    reading stopped. -/
def header_result (b : MessageBuilder) (header : FieldMap) : Stop → ParserResult (Field × Parser)
  | .ahead field parser => do
    let msg_type ← expect "this never fails as we've verified the integrity of the header" (header.get_str MSG_TYPE)
    if (b.dict.message_by_msgtype msg_type).isNone then throw (.Error (.InvalidMsgType msg_type))
    return (field,parser)
  | .ended => .error (.Error (.Malformed "message ended within header"))
  | .stuck message => .error (.Panic message)

theorem build_header_eq {rounds : Nat} {header : FieldMap} {field : Field} {parser : Parser} {fields : List Field}
    {stop : Stop} (inside : parser.position ≤ parser.raw_data.length) (enough : parser.remaining < rounds)
    (scan : Scan arith field parser (field :: fields) stop) (all : ∀ f ∈ fields, b.is_header_tag f.tag = true)
    (off : ∀ tag ∈ stop.tag, ¬ b.is_header_tag tag = true) :
    build_header arith b rounds header parser =
      (header.insert_fields fields,b.header_result (header.insert_fields fields) stop) := by
  induction rounds generalizing header field parser fields with
  | zero => omega
  | succ rounds ih =>
    rw [build_header,required_field_eq]
    generalize whole : field :: fields = read_fields at scan
    cases scan with
    | here => cases whole
    | ended none_left =>
      cases whole
      rw [none_left]
      rfl
    | stuck panics =>
      cases whole
      rw [panics]
      rfl
    | @next _ following _ parser' rest _ read scan =>
      cases whole
      rw [read]
      dsimp only
      have inside' := (Parser.next_field_moves inside read).2.2.2
      have less := Parser.next_field_remaining inside read
      rcases scan.head with ⟨more,rfl⟩ | ⟨rfl,rfl⟩
      · have taken : b.is_header_tag following.tag = true := all following (by simp)
        rw [if_pos taken,ih inside' (by omega) scan (fun f member => all f (by simp [member]))]
        rfl
      · rw [if_neg (off following.tag rfl)]
        rfl

/-! ### The body -/

/-- An item of a body in front of a tag. A group that has ended has the fields its
    entries require. -/
def BodyItem (b : MessageBuilder) (spec : MessageSpecification) (after : Option TagU32) : Item → Prop
  | .plain f =>
    spec.contains_tag f.tag = true ∧ (b.dict.field_by_tag f.tag.get).isSome = true ∧ spec.get_group f.tag = none ∨
    spec.contains_tag f.tag = false ∧ b.should_accept_unknown_user_defined f.tag = true
  | .group f delimiter entries =>
    spec.contains_tag f.tag = true ∧ (b.dict.field_by_tag f.tag.get).isSome = true ∧
    ∃ group_def, spec.get_group f.tag = some group_def ∧ group_def.delimiter_tag = .ok delimiter ∧
      b.Entries group_def delimiter after entries ∧ b.Closes group_def entries after ∧
      (after ≠ none → check_required_fields_in_groups (Item.store_entries f.tag delimiter entries) group_def = .ok ())

def BodyItems (b : MessageBuilder) (spec : MessageSpecification) (after : Option TagU32) : List Item → Prop
  | [] => True
  | item :: items => b.BodyItem spec (following items after) item ∧ BodyItems b spec after items

/-- A tag that the body does not take. -/
def EndsBody (b : MessageBuilder) (spec : MessageSpecification) (tag : TagU32) : Prop :=
  spec.contains_tag tag = false ∧ b.should_accept_unknown_user_defined tag = false

/-- A tree that the body has followed from the field in hand to where reading stands. -/
structure BodyParse (arith : Arith) (b : MessageBuilder) (spec : MessageSpecification) (field : Field) (parser : Parser)
    (items : List Item) (stop : Stop) : Prop where
  scan : Scan arith field parser (Item.flatten_items items) stop
  items_ok : b.BodyItems spec stop.tag items
  ends : ∀ tag ∈ stop.tag, b.EndsBody spec tag

/-- All groups of the message have a first field. -/
def GroupsNonEmpty (spec : MessageSpecification) : Prop :=
  ∀ tag group_def, spec.get_group tag = some group_def → group_def.NonEmpty

/-- What the body may do: report an error, follow a tree, or meet a group without fields. -/
def BodyFollowed (arith : Arith) (b : MessageBuilder) (spec : MessageSpecification) (body : FieldMap) (field : Field)
    (parser : Parser) (result : ParserResult (FieldMap × Field × Parser)) : Prop :=
  (∃ e, result = .error (.Error e)) ∨
  (∃ items stop, BodyParse arith b spec field parser items stop ∧ Delivers (Item.store_items body items) stop result) ∨
  ¬ GroupsNonEmpty spec ∧ ∃ message, result = .error (.Panic message)

/-- The tag in hand is the one the tree goes on with. -/
theorem following_of_body {field : Field} {parser : Parser} {stop : Stop} {items : List Item}
    (scan : Scan arith field parser (Item.flatten_items items) stop) : following items stop.tag = some field.tag := by
  match items with
  | [] =>
    rcases scan.head with ⟨_,same⟩ | ⟨_,rfl⟩
    · cases same
    · rfl
  | item :: items =>
    obtain ⟨more,flat⟩ := item.flatten_head
    rw [Item.flatten_items,flat] at scan
    rcases scan.head with ⟨_,same⟩ | ⟨empty,_⟩
    · simp only [List.cons_append,List.cons.injEq] at same
      exact congrArg some (congrArg Field.tag same.1)
    · cases empty

theorem tag_u32_of_field {dict : Dictionary} {tag : TagU32} {field_def : FieldData}
    (found : dict.field_by_tag tag.get = some field_def) : field_def.tag_u32 = .ok tag := by
  obtain ⟨_,same⟩ := IndexMap.mem_of_get found
  simp [FieldData.tag_u32,TagU32.new,same,tag.pos,tag.fits,unwrap]

section Rounds
variable {spec : MessageSpecification} {rounds : Nat} {body : FieldMap} {field : Field} {parser : Parser}

theorem body_plain (declared : spec.contains_tag field.tag = true)
    (defined : (b.dict.field_by_tag field.tag.get).isSome = true) (flat : spec.get_group field.tag = none) :
    body_loop arith b spec (rounds + 1) body field parser =
      onward arith "message ended within the body" parser (body_loop arith b spec rounds (body.insert field)) := by
  obtain ⟨field_def,found⟩ := Option.isSome_iff_exists.mp defined
  rw [body_loop,if_pos declared,get_dict_field_by_tag,found,flat,← onward_eq]
  rfl

theorem body_undefined (declared : spec.contains_tag field.tag = true)
    (missing : (b.dict.field_by_tag field.tag.get).isSome = false) :
    body_loop arith b spec (rounds + 1) body field parser = .error (.Error (.InvalidField field.tag.get)) := by
  have missing : b.dict.field_by_tag field.tag.get = none := by simpa using missing
  rw [body_loop,if_pos declared,get_dict_field_by_tag,missing]
  rfl

theorem body_unknown (undeclared : spec.contains_tag field.tag = false)
    (accepted : b.should_accept_unknown_user_defined field.tag = true) :
    body_loop arith b spec (rounds + 1) body field parser =
      onward arith "message ended within the body" parser (body_loop arith b spec rounds (body.insert field)) := by
  rw [body_loop,if_neg (by simp [undeclared]),if_pos accepted,← onward_eq]

theorem body_end (ends : b.EndsBody spec field.tag) :
    body_loop arith b spec (rounds + 1) body field parser = .ok (body,field,parser) := by
  rw [body_loop,if_neg (by simp [ends.1]),if_neg (by simp [ends.2])]
  rfl

/-- A group of the body: its entries are parsed, checked and set. -/
theorem body_group {group_def : GroupSpecification} (declared : spec.contains_tag field.tag = true)
    (defined : (b.dict.field_by_tag field.tag.get).isSome = true) (found : spec.get_group field.tag = some group_def) :
    body_loop arith b spec (rounds + 1) body field parser =
      match parse_groups arith b rounds parser group_def field.tag with
      | .error stop => .error stop
      | .ok (groups,next,parser) =>
        match check_required_fields_in_groups groups group_def with
        | .error stop => .error stop
        | .ok () =>
          match (body.insert field).set_groups groups with
          | .ok body => body_loop arith b spec rounds body next parser
          | .error err =>
            .error (.Error (.Malformed
              ("failed to set groups for tag " ++ toString field.tag.get ++ ": " ++ err.to_string))) := by
  obtain ⟨field_def,looked_up⟩ := Option.isSome_iff_exists.mp defined
  rw [body_loop,if_pos declared,get_dict_field_by_tag,looked_up,found]
  simp only [ok_or,bind,Except.bind,tag_u32_of_field looked_up]
  rcases parse_groups arith b rounds parser group_def field.tag with stop | ⟨groups,next,parser'⟩
  · rfl
  · dsimp only
    rcases check_required_fields_in_groups groups group_def with stop | _
    · rfl
    · rfl

end Rounds

/-- A computation that does not panic. -/
def Reports {α : Type} (x : ParserResult α) : Prop := ∀ message, x ≠ .error (.Panic message)

theorem Reports.bind {α β : Type} {x : ParserResult α} {f : α → ParserResult β} (first : Reports x)
    (second : ∀ a, Reports (f a)) : Reports (x >>= f) := by
  rcases x with stop | a
  · intro message failed
    have same : stop = .Panic message := by simpa [Bind.bind,Except.bind] using failed
    exact first message (congrArg _ same)
  · exact second a

theorem Reports.forM {α : Type} {f : α → ParserResult Unit} (each : ∀ a, Reports (f a)) (as : List α) :
    Reports (as.forM f) := by
  induction as with
  | nil => intro message failed; cases failed
  | cons a rest ih => exact (each a).bind (fun _ => ih)

theorem check_required_fields_reports (group_tag : TagU32) (fields : List FieldSpecification) (field_map : FieldMap) :
    Reports (check_required_fields group_tag fields field_map) := by
  intro message failed
  rw [check_required_fields] at failed
  split at failed <;> cases failed

mutual
/-- Missing fields are reported as errors. -/
theorem check_required_reports (groups : List RepeatingGroup) : ∀ spec : GroupSpecification,
    Reports (check_required_fields_in_groups groups spec)
  | .mk group_tag fields nested_groups => by
    rw [check_required_fields_in_groups]
    refine Reports.forM (fun entry => ?_) groups
    exact (check_required_fields_reports group_tag fields entry.get_fields).bind
      (fun _ => check_nested_reports entry.get_fields nested_groups)
theorem check_nested_reports (field_map : FieldMap) : ∀ specs : List (TagU32 × GroupSpecification),
    Reports (check_nested_groups field_map specs)
  | [] => by
    intro message failed
    cases failed
  | (nested_tag,nested_spec) :: rest => by
    rw [check_nested_groups]
    cases field_map.get_groups nested_tag with
    | none => exact check_nested_reports field_map rest
    | some nested_entries =>
      exact (check_required_reports nested_entries nested_spec).bind (fun _ => check_nested_reports field_map rest)
end

/-- One more field of the body, then the loop. -/
theorem stuck_ends {message : String} {ends : TagU32 → Prop} : ∀ tag ∈ (Stop.stuck message).tag, ends tag := by
  intro tag ahead
  cases ahead

theorem body_onward_sound {spec : MessageSpecification} {rounds : Nat} {body : FieldMap} {field : Field} {parser : Parser}
    (sound : ∀ next parser', parser.next_field arith = .ok (some (next,parser')) →
      BodyFollowed arith b spec (body.insert field) next parser' (body_loop arith b spec rounds (body.insert field) next parser'))
    (item_ok : ∀ after, b.BodyItem spec after (.plain field)) :
    BodyFollowed arith b spec body field parser
      (onward arith "message ended within the body" parser (body_loop arith b spec rounds (body.insert field))) := by
  rw [onward]
  rcases read : parser.next_field arith with message | _ | ⟨next,parser'⟩
  · refine .inr (.inl ⟨[.plain field],.stuck message,⟨?_,⟨item_ok _,trivial⟩,stuck_ends⟩,rfl⟩)
    simpa [Item.flatten_items,Item.flatten] using Scan.stuck read
  · exact .inl ⟨_,rfl⟩
  · rcases sound next parser' read with failed | ⟨items,stop,⟨scan,items_ok,ends⟩,delivered⟩ | empty
    · exact .inl failed
    · refine .inr (.inl ⟨.plain field :: items,stop,⟨?_,⟨item_ok _,items_ok⟩,ends⟩,delivered⟩)
      simpa [Item.flatten_items,Item.flatten] using Scan.next read scan
    · exact .inr (.inr empty)

/-- A group of the body, then the loop. -/
theorem body_group_sound {spec : MessageSpecification} {rounds : Nat} {body : FieldMap} {field : Field} {parser : Parser}
    {group_def : GroupSpecification}
    (sound : ∀ {body : FieldMap} {field : Field} {parser : Parser}, parser.position ≤ parser.raw_data.length →
      parser.remaining < rounds →
      BodyFollowed arith b spec body field parser (body_loop arith b spec rounds body field parser))
    (inside : parser.position ≤ parser.raw_data.length) (enough : parser.remaining ≤ rounds)
    (declared : spec.contains_tag field.tag = true) (defined : (b.dict.field_by_tag field.tag.get).isSome = true)
    (found : spec.get_group field.tag = some group_def) :
    BodyFollowed arith b spec body field parser
      (match parse_groups arith b rounds parser group_def field.tag with
      | .error stop => .error stop
      | .ok (groups,next,parser) =>
        match check_required_fields_in_groups groups group_def with
        | .error stop => .error stop
        | .ok () =>
          match (body.insert field).set_groups groups with
          | .ok body => body_loop arith b spec rounds body next parser
          | .error err =>
            .error (.Error (.Malformed
              ("failed to set groups for tag " ++ toString field.tag.get ++ ": " ++ err.to_string)))) := by
  rw [parse_groups]
  rcases enter_groups_sound (group_loop_sound rounds) group_def field parser inside enough with
    ⟨e,failed⟩ | ⟨delimiter,entries,stop,first,scan,run,closed,delivered⟩ | ⟨empty,message,failed⟩
  · rw [failed]
    exact .inl ⟨e,rfl⟩
  · have item_ok (checked : stop.tag ≠ none →
        check_required_fields_in_groups (Item.store_entries field.tag delimiter entries) group_def = .ok ()) :
        b.BodyItem spec stop.tag (.group field delimiter entries) :=
      ⟨declared,defined,group_def,found,first,run,closed,checked⟩
    cases stop with
    | stuck message =>
      rw [show enter_groups arith (group_loop arith b rounds) group_def field.tag parser = _ from delivered]
      refine .inr (.inl ⟨[.group field delimiter entries],.stuck message,⟨?_,⟨item_ok (absurd rfl),trivial⟩,stuck_ends⟩,rfl⟩)
      simpa [Item.flatten_items,Item.flatten] using scan
    | ended =>
      obtain ⟨text,delivered⟩ := delivered
      rw [delivered]
      exact .inl ⟨_,rfl⟩
    | ahead next parser' =>
      rw [show enter_groups arith (group_loop arith b rounds) group_def field.tag parser = _ from delivered]
      dsimp only
      rcases checked : check_required_fields_in_groups (Item.store_entries field.tag delimiter entries) group_def with
        stop | _
      · cases stop with
        | Error e => exact .inl ⟨e,rfl⟩
        | Panic message => exact absurd checked (check_required_reports _ _ message)
      · dsimp only
        rw [Item.set_groups_store _ field.tag delimiter (closed next.tag rfl).1]
        have less := Scan.tail_remaining inside scan
        rcases sound (scan.onward inside).inside (by omega) with
          failed | ⟨items,stop,⟨rest,items_ok,ends⟩,delivered⟩ | empty
        · exact .inl failed
        · refine .inr (.inl ⟨.group field delimiter entries :: items,stop,⟨?_,⟨?_,items_ok⟩,ends⟩,delivered⟩)
          · simpa [Item.flatten_items,Item.flatten] using scan.trans rest
          · rw [following_of_body rest]
            exact item_ok (fun _ => checked)
        · exact .inr (.inr empty)
  · rw [failed]
    exact .inr (.inr ⟨fun nonempty => empty (nonempty field.tag group_def found),message,rfl⟩)

/-- With rounds for the bytes that are left, the body follows a tree or reports an error. -/
theorem body_loop_sound {spec : MessageSpecification} {rounds : Nat} {body : FieldMap} {field : Field} {parser : Parser}
    (inside : parser.position ≤ parser.raw_data.length) (enough : parser.remaining < rounds) :
    BodyFollowed arith b spec body field parser (body_loop arith b spec rounds body field parser) := by
  induction rounds generalizing body field parser with
  | zero => omega
  | succ rounds ih =>
    have goes_on (next : Field) (parser' : Parser) (read : parser.next_field arith = .ok (some (next,parser'))) :
        BodyFollowed arith b spec (body.insert field) next parser'
          (body_loop arith b spec rounds (body.insert field) next parser') := by
      have less := Parser.next_field_remaining inside read
      exact ih (Parser.next_field_moves inside read).2.2.2 (by omega)
    by_cases declared : spec.contains_tag field.tag = true
    · cases defined : (b.dict.field_by_tag field.tag.get).isSome with
      | false =>
        rw [body_undefined declared defined]
        exact .inl ⟨_,rfl⟩
      | true =>
        cases found : spec.get_group field.tag with
        | none =>
          rw [body_plain declared defined found]
          exact body_onward_sound goes_on (fun _ => .inl ⟨declared,defined,found⟩)
        | some group_def =>
          rw [body_group declared defined found]
          exact body_group_sound (fun inside enough => ih inside enough) inside (by omega) declared defined found
    · have undeclared : spec.contains_tag field.tag = false := by simpa using declared
      by_cases accepted : b.should_accept_unknown_user_defined field.tag = true
      · rw [body_unknown undeclared accepted]
        exact body_onward_sound goes_on (fun _ => .inr ⟨undeclared,accepted⟩)
      · have ends : b.EndsBody spec field.tag := ⟨undeclared,by simpa using accepted⟩
        rw [body_end ends]
        refine .inr (.inl ⟨[],.ahead field parser,⟨.here field parser,trivial,?_⟩,rfl⟩)
        rintro tag ahead
        cases ahead
        exact ends

/-- With rounds for the bytes that are left, the body reads every tree. -/
theorem body_loop_complete {spec : MessageSpecification} {rounds : Nat} {body : FieldMap} {field : Field} {parser : Parser}
    {items : List Item} {stop : Stop} (inside : parser.position ≤ parser.raw_data.length)
    (enough : parser.remaining < rounds) (parse : BodyParse arith b spec field parser items stop) :
    Delivers (Item.store_items body items) stop (body_loop arith b spec rounds body field parser) := by
  induction rounds generalizing body field parser items with
  | zero => omega
  | succ rounds ih =>
    obtain ⟨scan,items_ok,ends⟩ := parse
    rcases items with _ | ⟨f | ⟨f,delimiter,entries⟩,items⟩
    · rcases scan.head with ⟨_,same⟩ | ⟨_,rfl⟩
      · cases same
      · rw [body_end (ends field.tag rfl)]
        rfl
    · -- a plain field
      rw [Item.flatten_items,Item.flatten] at scan
      obtain rfl : f = field := by
        rcases scan.head with ⟨_,same⟩ | ⟨empty,_⟩
        · simp only [List.cons_append,List.cons.injEq] at same
          exact same.1
        · cases empty
      have looped : body_loop arith b spec (rounds + 1) body f parser =
          onward arith "message ended within the body" parser (body_loop arith b spec rounds (body.insert f)) := by
        rcases items_ok.1 with ⟨declared,defined,flat⟩ | ⟨undeclared,accepted⟩
        · exact body_plain declared defined flat
        · exact body_unknown undeclared accepted
      rw [looped]
      refine onward_delivers scan (fun next parser' read rest => ?_)
      have less := Parser.next_field_remaining inside read
      exact ih (Parser.next_field_moves inside read).2.2.2 (by omega) ⟨rest,items_ok.2,ends⟩
    · -- a group
      rw [Item.flatten_items,Item.flatten] at scan
      obtain rfl : f = field := by
        rcases scan.head with ⟨_,same⟩ | ⟨empty,_⟩
        · simp only [List.cons_append,List.cons.injEq] at same
          exact same.1
        · cases empty
      obtain ⟨⟨declared,defined,group_def,found,first,run,closed,checked⟩,items_ok⟩ := items_ok
      rw [body_group declared defined found,parse_groups]
      rcases scan.split_or with ⟨next,parser',front,back⟩ | ⟨flat,off⟩
      · rw [following_of_body back] at run closed checked
        have entered := enter_groups_complete (group_loop_complete rounds) inside (by omega) first front run closed
        rw [show enter_groups arith (group_loop arith b rounds) group_def f.tag parser = _ from entered]
        dsimp only
        rw [checked (by simp)]
        dsimp only
        rw [Item.set_groups_store _ f.tag delimiter (closed next.tag rfl).1]
        have less := Scan.tail_remaining inside front
        exact ih (front.onward inside).inside (by omega) ⟨back,items_ok,ends⟩
      · -- reading stops inside the group
        obtain rfl : items = [] := by
          cases items with
          | nil => rfl
          | cons item rest =>
            obtain ⟨more,head⟩ := item.flatten_head
            rw [Item.flatten_items,head] at flat
            cases flat
        rw [flat,List.append_nil] at scan
        have entered := enter_groups_complete (group_loop_complete rounds) inside (by omega) first scan run closed
        cases stop with
        | stuck message =>
          rw [show enter_groups arith (group_loop arith b rounds) group_def f.tag parser = _ from entered]
          rfl
        | ended =>
          obtain ⟨text,entered⟩ := entered
          rw [entered]
          exact ⟨text,rfl⟩
        | ahead next parser' => cases off

/-! ### The trailer -/

def trailer_result (trailer : FieldMap) : Stop → Checked FieldMap
  | .stuck message => .error message
  | _ => .ok trailer

theorem build_trailer_eq {rounds : Nat} {trailer : FieldMap} {field : Field} {parser : Parser} {fields : List Field}
    {stop : Stop} (inside : parser.position ≤ parser.raw_data.length) (enough : parser.remaining < rounds)
    (scan : Scan arith field parser fields stop) (all : ∀ f ∈ fields, f.tag ≠ CHECK_SUM.tag)
    (off : ∀ tag ∈ stop.tag, tag = CHECK_SUM.tag) :
    build_trailer arith rounds trailer parser field = trailer_result (trailer.insert_fields fields) stop := by
  induction rounds generalizing trailer field parser fields with
  | zero => omega
  | succ rounds ih =>
    rw [build_trailer]
    cases scan with
    | here =>
      rw [if_pos (off field.tag rfl)]
      rfl
    | ended none_left =>
      rw [if_neg (all field (by simp)),none_left]
      rfl
    | stuck panics =>
      rw [if_neg (all field (by simp)),panics]
      rfl
    | @next _ following _ parser' rest _ read scan =>
      have inside' := (Parser.next_field_moves inside read).2.2.2
      have less := Parser.next_field_remaining inside read
      rw [if_neg (all field (by simp)),read]
      dsimp only [bind,Except.bind]
      rw [ih inside' (by omega) scan (fun f member => all f (by simp [member]))]
      rfl

/-- The trailer section from its first field on. -/
theorem trailer_section (arith : Arith) (field : Field) (parser : Parser)
    (inside : parser.position ≤ parser.raw_data.length) :
    ∃ fields stop, Scan arith field parser fields stop ∧ (∀ f ∈ fields, f.tag ≠ CHECK_SUM.tag) ∧
      ∀ tag ∈ stop.tag, tag = CHECK_SUM.tag := by
  by_cases ends : field.tag = CHECK_SUM.tag
  · refine ⟨[],.ahead field parser,.here field parser,nofun,?_⟩
    rintro tag ahead
    cases ahead
    exact ends
  · obtain ⟨fields,stop,scan,all,off⟩ := Scan.munch arith (fun tag => tag ≠ CHECK_SUM.tag) field parser inside
    refine ⟨field :: fields,stop,scan,?_,fun tag ahead => not_not.mp (off tag ahead)⟩
    rintro f member
    rcases List.mem_cons.mp member with rfl | later
    · exact ends
    · exact all f later

/-! ### The integrity check -/

/-- A computation that returns has returned at each step. -/
theorem bind_eq_ok {ε α β : Type} {x : Except ε α} {f : α → Except ε β} {result : β} :
    (x >>= f) = .ok result ↔ ∃ a, x = .ok a ∧ f a = .ok result := by
  rcases x with e | a
  · simp [bind,Except.bind]
  · simp [bind,Except.bind]

theorem lift_eq_ok {ε α : Type} {x : Checked α} {a : α} : (x.lift : Except (Abort ε) α) = .ok a ↔ x = .ok a := by
  rcases x with message | b <;> simp [Checked.lift]

theorem parse_leading_ok {p q : Parser} {tag : TagU32} {error : MessageIntegrityError} {field : Field} :
    p.parse_leading arith tag error = .ok (field,q) ↔ p.next_field arith = .ok (some (field,q)) ∧ field.tag = tag := by
  rw [Parser.parse_leading,bind_eq_ok]
  constructor
  · rintro ⟨found,read,checked⟩
    rw [lift_eq_ok] at read
    match found with
    | none => cases checked
    | some (f,p') =>
      dsimp only at checked
      split_ifs at checked with same
      · cases checked
        exact ⟨read,same⟩
  · rintro ⟨read,rfl⟩
    exact ⟨_,lift_eq_ok.mpr read,if_pos rfl⟩

theorem parse_checksum_ok {p : Parser} {position : Nat} {field : Field} :
    p.parse_checksum arith position = .ok field ↔
      ∃ end_position, p.parse_field_at arith position = .ok (some (field,end_position)) ∧ field.tag = CHECK_SUM.tag := by
  rw [Parser.parse_checksum,bind_eq_ok]
  constructor
  · rintro ⟨found,read,checked⟩
    rw [lift_eq_ok] at read
    match found with
    | none => cases checked
    | some (f,end_position) =>
      dsimp only at checked
      split_ifs at checked with same
      · cases checked
        exact ⟨end_position,read,same⟩
  · rintro ⟨end_position,read,same⟩
    exact ⟨_,lift_eq_ok.mpr read,if_pos same⟩

/-- The frame of a message as the integrity check reads it: the first three fields
    with the cursor behind each, the end of the body, and the field that stands there. -/
structure Framing (arith : Arith) (config : Config) (data : Bytes) (begin_string body_length msg_type checksum : Field)
    (p₁ p₂ p₃ : Parser) (n body_end : Nat) : Prop where
  first : (⟨0,data,config⟩ : Parser).next_field arith = .ok (some (begin_string,p₁))
  first_tag : begin_string.tag = BEGIN_STRING.tag
  second : p₁.next_field arith = .ok (some (body_length,p₂))
  second_tag : body_length.tag = BODY_LENGTH.tag
  length : Decimal.parseBelow U64 body_length.data = some n
  body_ends : usize_add arith p₂.position n = .ok body_end
  total : usize_add arith body_end CHECKSUM_LENGTH = .ok data.length
  last : ∃ end_position, p₂.parse_field_at arith body_end = .ok (some (checksum,end_position))
  last_tag : checksum.tag = CHECK_SUM.tag
  third : p₂.next_field arith = .ok (some (msg_type,p₃))
  third_tag : msg_type.tag = MSG_TYPE.tag

/-- A checksum that reads as one is the sum of the bytes before it. -/
def SumAgrees (data : Bytes) (body_end : Nat) (checksum : Field) : Prop :=
  ∀ value, CheckSum.deserialize checksum.data = some value → CheckSum.compute (data.take body_end) = value

theorem get_body_length {begin_string body_length : Field} (second_tag : body_length.tag = BODY_LENGTH.tag) :
    ((FieldMap.empty.insert begin_string).insert body_length).get_u64 BODY_LENGTH =
      Decimal.parseBelow U64 body_length.data := by
  rw [FieldMap.get_u64,FieldMap.get_raw_insert,if_pos second_tag]
  rfl

theorem get_checksum {checksum : Field} (last_tag : checksum.tag = CHECK_SUM.tag) :
    ((FieldMap.empty.insert checksum).get_raw CHECK_SUM.tag).bind CheckSum.deserialize =
      CheckSum.deserialize checksum.data := by
  rw [FieldMap.get_raw_insert,if_pos last_tag]
  rfl

/-- The cursor keeps to the data. -/
theorem Framing.cursors {config : Config} {data : Bytes} {begin_string body_length : Field} {p₁ p₂ : Parser}
    (first : (⟨0,data,config⟩ : Parser).next_field arith = .ok (some (begin_string,p₁)))
    (second : p₁.next_field arith = .ok (some (body_length,p₂))) :
    p₂.raw_data = data ∧ p₂.config = config ∧ p₂.position ≤ p₂.raw_data.length := by
  obtain ⟨data₁,config₁,_,inside₁⟩ := Parser.next_field_moves (Nat.zero_le _) first
  obtain ⟨data₂,config₂,_,inside₂⟩ := Parser.next_field_moves inside₁ second
  exact ⟨data₂.trans data₁,config₂.trans config₁,inside₂⟩

/-- What the integrity check accepts. -/
theorem verify_integrity_ok {config : Config} {data : Bytes} {header trailer : FieldMap} {parser : Parser} :
    verify_integrity arith ⟨0,data,config⟩ = .ok (header,trailer,parser) ↔
      ∃ begin_string body_length msg_type checksum p₁ p₂ n body_end,
        Framing arith config data begin_string body_length msg_type checksum p₁ p₂ parser n body_end ∧
        SumAgrees data body_end checksum ∧
        header = FieldMap.empty.insert_fields [begin_string,body_length,msg_type] ∧
        trailer = FieldMap.empty.insert_fields [checksum] := by
  constructor
  · intro accepted
    rw [verify_integrity] at accepted
    obtain ⟨⟨begin_string,p₁⟩,first,accepted⟩ := bind_eq_ok.mp accepted
    obtain ⟨first,first_tag⟩ := parse_leading_ok.mp first
    obtain ⟨⟨body_length,p₂⟩,second,accepted⟩ := bind_eq_ok.mp accepted
    obtain ⟨second,second_tag⟩ := parse_leading_ok.mp second
    dsimp only at accepted
    rw [get_body_length second_tag] at accepted
    rcases length : Decimal.parseBelow U64 body_length.data with _ | n
    · rw [length] at accepted
      cases accepted
    rw [length] at accepted
    obtain ⟨body_end,body_ends,accepted⟩ := bind_eq_ok.mp accepted
    obtain ⟨expected,total,accepted⟩ := bind_eq_ok.mp accepted
    rw [lift_eq_ok] at body_ends total
    split_ifs at accepted with differs
    · cases accepted
    rw [not_not,(Framing.cursors first second).1] at differs
    obtain ⟨checksum,last,accepted⟩ := bind_eq_ok.mp accepted
    obtain ⟨end_position,last,last_tag⟩ := parse_checksum_ok.mp last
    rw [get_checksum last_tag,(Framing.cursors first second).1] at accepted
    have compared : SumAgrees data body_end checksum ∧ ∃ msg_type, p₂.parse_message_type arith = .ok (msg_type,parser) ∧
        header = FieldMap.empty.insert_fields [begin_string,body_length,msg_type] ∧
        trailer = FieldMap.empty.insert_fields [checksum] := by
      rcases reads : CheckSum.deserialize checksum.data with _ | value
      · rw [reads] at accepted
        obtain ⟨⟨msg_type,p₃⟩,third,accepted⟩ := bind_eq_ok.mp accepted
        cases accepted
        exact ⟨by simp [SumAgrees,reads],msg_type,third,rfl,rfl⟩
      · rw [reads] at accepted
        dsimp only at accepted
        split_ifs at accepted with unequal
        · cases accepted
        · obtain ⟨⟨msg_type,p₃⟩,third,accepted⟩ := bind_eq_ok.mp accepted
          cases accepted
          exact ⟨by simpa [SumAgrees,reads] using unequal,msg_type,third,rfl,rfl⟩
    obtain ⟨agrees,msg_type,third,rfl,rfl⟩ := compared
    obtain ⟨third,third_tag⟩ := parse_leading_ok.mp third
    exact ⟨begin_string,body_length,msg_type,checksum,p₁,p₂,n,body_end,
      ⟨first,first_tag,second,second_tag,length,body_ends,differs ▸ total,⟨end_position,last⟩,last_tag,third,third_tag⟩,
      agrees,rfl,rfl⟩
  · rintro ⟨begin_string,body_length,msg_type,checksum,p₁,p₂,n,body_end,framing,agrees,rfl,rfl⟩
    obtain ⟨end_position,last⟩ := framing.last
    rw [verify_integrity,bind_eq_ok]
    refine ⟨(begin_string,p₁),parse_leading_ok.mpr ⟨framing.first,framing.first_tag⟩,?_⟩
    rw [bind_eq_ok]
    refine ⟨(body_length,p₂),parse_leading_ok.mpr ⟨framing.second,framing.second_tag⟩,?_⟩
    dsimp only
    rw [get_body_length framing.second_tag,framing.length]
    dsimp only
    rw [framing.body_ends]
    dsimp only [Checked.lift,bind,Except.bind]
    rw [framing.total]
    dsimp only [Checked.lift,bind,Except.bind]
    rw [if_neg (by simp [(Framing.cursors framing.first framing.second).1]),
      parse_checksum_ok.mpr ⟨end_position,last,framing.last_tag⟩]
    dsimp only [bind,Except.bind]
    rw [get_checksum framing.last_tag,(Framing.cursors framing.first framing.second).1,
      show p₂.parse_message_type arith = _ from parse_leading_ok.mpr ⟨framing.third,framing.third_tag⟩]
    rcases reads : CheckSum.deserialize checksum.data with _ | value
    · rfl
    · dsimp only
      rw [if_neg (not_not.mpr (agrees value reads))]
      rfl

/-! ### The whole message -/

/-- What the fields of a message are read as. -/
structure Reading where
  begin_string : Field
  body_length : Field
  msg_type : Field
  checksum : Field
  header : List Field
  items : List Item
  trailer : List Field

namespace Reading

def header_fields (r : Reading) : List Field := [r.begin_string,r.body_length,r.msg_type] ++ r.header

/-- What is stored of the sections. -/
def message (r : Reading) : Message :=
  ⟨FieldMap.empty.insert_fields r.header_fields,Item.store_items FieldMap.empty r.items,
    FieldMap.empty.insert_fields (r.checksum :: r.trailer)⟩

end Reading

/-- The sections of a message, with the cursors between them. The trailer ends in
    front of a CheckSum or at the end of what reads as fields. -/
structure ReadsAs (arith : Arith) (b : MessageBuilder) (data : Bytes) (r : Reading) (p₁ p₂ p₃ p₄ p₅ : Parser)
    (n body_end : Nat) (first_body first_trailer : Field) (name : Bytes) (spec : MessageSpecification) (stop : Stop) :
    Prop where
  framing : Framing arith b.config data r.begin_string r.body_length r.msg_type r.checksum p₁ p₂ p₃ n body_end
  agrees : SumAgrees data body_end r.checksum
  header_scan : Scan arith r.msg_type p₃ (r.msg_type :: r.header) (.ahead first_body p₄)
  header_tags : ∀ f ∈ r.header, b.is_header_tag f.tag = true
  header_ends : ¬ b.is_header_tag first_body.tag = true
  named : r.message.header.get_str MSG_TYPE = some name
  known : (b.dict.message_by_msgtype name).isSome = true
  specified : b.get_message_def name = .ok spec
  body : BodyParse arith b spec first_body p₄ r.items (.ahead first_trailer p₅)
  trailer_starts : b.is_trailer_tag first_trailer.tag = true
  trailer_scan : Scan arith first_trailer p₅ r.trailer stop
  trailer_tags : ∀ f ∈ r.trailer, f.tag ≠ CHECK_SUM.tag
  trailer_ends : ∀ tag ∈ stop.tag, tag = CHECK_SUM.tag
  trailer_reads : ∀ message, stop ≠ .stuck message

/-- The fields of the data fall into these sections. -/
def Sectioned (arith : Arith) (b : MessageBuilder) (data : Bytes) (r : Reading) : Prop :=
  ∃ p₁ p₂ p₃ p₄ p₅ n body_end first_body first_trailer name spec stop,
    ReadsAs arith b data r p₁ p₂ p₃ p₄ p₅ n body_end first_body first_trailer name spec stop

theorem Framing.third_cursor {config : Config} {data : Bytes} {begin_string body_length msg_type checksum : Field}
    {p₁ p₂ p₃ : Parser} {n body_end : Nat}
    (framing : Framing arith config data begin_string body_length msg_type checksum p₁ p₂ p₃ n body_end) :
    p₃.raw_data = data ∧ p₃.config = config ∧ p₃.position ≤ p₃.raw_data.length := by
  obtain ⟨data₂,config₂,inside₂⟩ := Framing.cursors framing.first framing.second
  obtain ⟨data₃,config₃,_,inside₃⟩ := Parser.next_field_moves inside₂ framing.third
  exact ⟨data₃.trans data₂,config₃.trans config₂,inside₃⟩

/-- The header of the message, with the fields behind MsgType. -/
theorem insert_leading (begin_string body_length msg_type : Field) (header : List Field) :
    (FieldMap.empty.insert_fields [begin_string,body_length,msg_type]).insert_fields header =
      FieldMap.empty.insert_fields ([begin_string,body_length,msg_type] ++ header) := by
  simp [FieldMap.insert_fields]

private theorem remaining_lt {data : Bytes} {p : Parser} (same : p.raw_data = data) : p.remaining < data.length + 1 := by
  rw [Parser.remaining,same]
  omega

/-- The builder behind the header: the body, then the trailer. -/
def build_rest (arith : Arith) (b : MessageBuilder) (rounds : Nat) (header trailer : FieldMap) (name : Bytes)
    (next : Field) (parser : Parser) : Checked ParsedMessage :=
  or_invalid header (build_body arith b rounds name parser next) (fun (body,next,parser) => do
    let trailer ← build_trailer arith rounds trailer parser next
    return .Valid ⟨header,body,trailer⟩)

/-- What the builder makes of an intact message whose header section has ended. -/
def build_headed (arith : Arith) (b : MessageBuilder) (rounds : Nat) (header trailer : FieldMap) : Stop → Checked ParsedMessage
  | .ended => .ok (.Garbled .Malformed)
  | .stuck message => .error message
  | .ahead next parser =>
    match header.get_str MSG_TYPE with
    | none => .error "this never fails as we've verified the integrity of the header"
    | some name =>
      if (b.dict.message_by_msgtype name).isSome then build_rest arith b rounds header trailer name next parser
      else .ok (.Invalid (with_header header) (.InvalidMsgType name))

/-- The builder on an intact message, up to the end of its header section. -/
theorem build_intact {data : Bytes} {begin_string body_length msg_type checksum : Field} {p₁ p₂ p₃ : Parser}
    {n body_end : Nat} {fields : List Field} {stop : Stop}
    (framing : Framing arith b.config data begin_string body_length msg_type checksum p₁ p₂ p₃ n body_end)
    (agrees : SumAgrees data body_end checksum) (scan : Scan arith msg_type p₃ (msg_type :: fields) stop)
    (all : ∀ f ∈ fields, b.is_header_tag f.tag = true) (off : ∀ tag ∈ stop.tag, ¬ b.is_header_tag tag = true) :
    build arith b data = build_headed arith b (data.length + 1)
      (FieldMap.empty.insert_fields ([begin_string,body_length,msg_type] ++ fields))
      (FieldMap.empty.insert_fields [checksum]) stop := by
  have verified := verify_integrity_ok.mpr ⟨begin_string,body_length,msg_type,checksum,p₁,p₂,n,body_end,framing,agrees,rfl,rfl⟩
  obtain ⟨data₃,_,inside₃⟩ := framing.third_cursor
  rw [build]
  dsimp only
  rw [verified]
  dsimp only
  rw [build_header_eq inside₃ (remaining_lt data₃) scan all off,insert_leading]
  dsimp only
  generalize FieldMap.empty.insert_fields ([begin_string,body_length,msg_type] ++ fields) = header
  match stop with
  | .ended => rfl
  | .stuck message => rfl
  | .ahead next parser =>
    rw [header_result,build_headed]
    cases named : header.get_str MSG_TYPE with
    | none => rfl
    | some name =>
      cases known : b.dict.message_by_msgtype name with
      | none => simp [expect,bind,Except.bind,known,or_invalid,parser_error_to_parsed_message,throw,throwThe,MonadExceptOf.throw,pure,Except.pure]
      | some definition => 
        simp [expect,bind,Except.bind,known,or_invalid,build_rest]
        rfl

/-- The builder behind the header, on a body that follows its specification. -/
theorem build_rest_body {rounds : Nat} {header trailer : FieldMap} {name : Bytes} {spec : MessageSpecification}
    {next first_trailer : Field} {parser p₅ : Parser} {items : List Item} {fields : List Field} {stop : Stop}
    (inside : parser.position ≤ parser.raw_data.length) (enough : parser.remaining < rounds)
    (specified : b.get_message_def name = .ok spec) (body : BodyParse arith b spec next parser items (.ahead first_trailer p₅))
    (starts : b.is_trailer_tag first_trailer.tag = true) (scan : Scan arith first_trailer p₅ fields stop)
    (all : ∀ f ∈ fields, f.tag ≠ CHECK_SUM.tag) (off : ∀ tag ∈ stop.tag, tag = CHECK_SUM.tag) :
    build_rest arith b rounds header trailer name next parser =
      (trailer_result (trailer.insert_fields fields) stop).map
        (fun trailer => .Valid ⟨header,Item.store_items FieldMap.empty items,trailer⟩) := by
  have looped : Delivers (Item.store_items FieldMap.empty items) (.ahead first_trailer p₅)
    (body_loop arith b spec rounds FieldMap.empty next parser) := body_loop_complete inside enough body
  have onward := body.scan.onward inside
  rw [build_rest,build_body,specified]
  simp only [bind,Except.bind]
  rw [show body_loop arith b spec rounds FieldMap.empty next parser = _ from looped]
  simp only [starts,Bool.not_true,Bool.false_eq_true,if_false,or_invalid,pure,Except.pure]
  rw [build_trailer_eq onward.inside (by have := onward.remaining; omega) scan all off]
  rcases trailer_result (trailer.insert_fields fields) stop with message | trailer <;> rfl

/-- Errors are not valid messages. -/
theorem or_invalid_valid {α : Type} {header : FieldMap} {result : ParserResult α} {valid : α → Checked ParsedMessage}
    {message : Message} (built : or_invalid header result valid = .ok (.Valid message)) :
    ∃ a, result = .ok a ∧ valid a = .ok (.Valid message) := by
  match result with
  | .ok a => exact ⟨a,rfl,built⟩
  | .error (.Error e) => cases e <;> cases built
  | .error (.Panic text) => cases built

/-- The body that the builder has accepted. -/
theorem build_body_ok {rounds : Nat} {name : Bytes} {next first_trailer : Field} {parser p₅ : Parser} {stored : FieldMap}
    (inside : parser.position ≤ parser.raw_data.length) (enough : parser.remaining < rounds)
    (built : build_body arith b rounds name parser next = .ok (stored,first_trailer,p₅)) :
    ∃ spec items, b.get_message_def name = .ok spec ∧
      BodyParse arith b spec next parser items (.ahead first_trailer p₅) ∧
      b.is_trailer_tag first_trailer.tag = true ∧ stored = Item.store_items FieldMap.empty items := by
  obtain ⟨spec,specified,built⟩ := bind_eq_ok.mp built
  obtain ⟨⟨body,field,p⟩,looped,built⟩ := bind_eq_ok.mp built
  dsimp only at built
  split_ifs at built with starts
  · cases built
  cases built
  have followed : BodyFollowed arith b spec FieldMap.empty next parser
    (body_loop arith b spec rounds FieldMap.empty next parser) := body_loop_sound inside enough
  rcases followed with ⟨e,failed⟩ | ⟨items,stop,parse,delivered⟩ | ⟨_,message,failed⟩
  · rw [failed] at looped
    cases looped
  · rw [looped] at delivered
    match stop with
    | .ahead field' p' =>
      cases delivered
      exact ⟨spec,items,specified,parse,by simpa using starts,rfl⟩
    | .ended =>
      obtain ⟨text,delivered⟩ := delivered
      cases delivered
    | .stuck message => cases delivered
  · rw [failed] at looped
    cases looped

/-- What is accepted as valid is a message in its sections. -/
theorem build_valid {data : Bytes} {message : Message} :
    build arith b data = .ok (.Valid message) ↔ ∃ r, Sectioned arith b data r ∧ message = r.message := by
  constructor
  · intro built
    obtain ⟨header,trailer,p₃,verified⟩ : ∃ header trailer p₃,
        verify_integrity arith ⟨0,data,b.config⟩ = .ok (header,trailer,p₃) := by
      rw [build] at built
      dsimp only at built
      rcases verified : verify_integrity arith ⟨0,data,b.config⟩ with stop | ⟨header,trailer,p₃⟩
      · rw [verified] at built
        match stop with
        | .Error e => cases e <;> cases built
        | .Panic text => cases built
      · exact ⟨header,trailer,p₃,rfl⟩
    obtain ⟨begin_string,body_length,msg_type,checksum,p₁,p₂,n,body_end,framing,agrees,rfl,rfl⟩ :=
      verify_integrity_ok.mp verified
    obtain ⟨data₃,_,inside₃⟩ := framing.third_cursor
    obtain ⟨fields,stop,scan,all,off⟩ := Scan.munch arith (fun tag => b.is_header_tag tag = true) msg_type p₃ inside₃
    rw [build_intact framing agrees scan all off] at built
    match stop with
    | .ended => cases built
    | .stuck message => cases built
    | .ahead first_body p₄ =>
      have onward₄ := scan.onward inside₃
      rw [build_headed] at built
      cases named : (FieldMap.empty.insert_fields ([begin_string,body_length,msg_type] ++ fields)).get_str MSG_TYPE with
      | none =>
        rw [named] at built
        cases built
      | some name =>
        rw [named] at built
        dsimp only at built
        split_ifs at built with known
        · obtain ⟨⟨stored,first_trailer,p₅⟩,bodied,built⟩ := or_invalid_valid built
          obtain ⟨spec,items,specified,body,starts,rfl⟩ := build_body_ok onward₄.inside
            (remaining_lt (onward₄.data.trans data₃)) bodied
          have onward₅ := body.scan.onward onward₄.inside
          obtain ⟨trailer,stop,trailer_scan,others,ends⟩ := trailer_section arith first_trailer p₅ onward₅.inside
          dsimp only at built
          rw [build_trailer_eq onward₅.inside (remaining_lt (onward₅.data.trans (onward₄.data.trans data₃))) trailer_scan
            others ends] at built
          have reads (readable : ∀ text, stop ≠ .stuck text) : ReadsAs arith b data
              ⟨begin_string,body_length,msg_type,checksum,fields,items,trailer⟩ p₁ p₂ p₃ p₄ p₅ n body_end first_body
              first_trailer name spec stop :=
            ⟨framing,agrees,scan,all,off first_body.tag rfl,named,known,specified,body,starts,trailer_scan,others,ends,
              readable⟩
          match stop with
          | .stuck text => cases built
          | .ended =>
            cases built
            exact ⟨_,⟨p₁,p₂,p₃,p₄,p₅,n,body_end,first_body,first_trailer,name,spec,.ended,reads nofun⟩,rfl⟩
          | .ahead last p₆ =>
            cases built
            exact ⟨_,⟨p₁,p₂,p₃,p₄,p₅,n,body_end,first_body,first_trailer,name,spec,.ahead last p₆,reads nofun⟩,rfl⟩
        · cases built
  · rintro ⟨r,⟨p₁,p₂,p₃,p₄,p₅,n,body_end,first_body,first_trailer,name,spec,stop,reads⟩,rfl⟩
    obtain ⟨data₃,_,inside₃⟩ := reads.framing.third_cursor
    have onward₄ := reads.header_scan.onward inside₃
    have off : ∀ tag ∈ (Stop.ahead first_body p₄).tag, ¬ b.is_header_tag tag = true := by
      rintro tag ahead
      cases ahead
      exact reads.header_ends
    have named : (FieldMap.empty.insert_fields ([r.begin_string,r.body_length,r.msg_type] ++ r.header)).get_str MSG_TYPE =
      some name := reads.named
    rw [build_intact reads.framing reads.agrees reads.header_scan reads.header_tags off,build_headed,named]
    dsimp only
    rw [if_pos reads.known,build_rest_body onward₄.inside (remaining_lt (onward₄.data.trans data₃)) reads.specified
      reads.body reads.trailer_starts reads.trailer_scan reads.trailer_tags reads.trailer_ends]
    match stop with
    | .ended => rfl
    | .ahead field parser => rfl
    | .stuck message => exact absurd rfl (reads.trailer_reads message)

end MessageBuilder

/-- Whether the result is a valid message with the property. -/
def Checked.holds (property : Message → Bool) : Checked ParsedMessage → Bool
  | .ok (.Valid m) => property m
  | _ => false

theorem Checked.valid_of_holds {property : Message → Bool} {result : Checked ParsedMessage}
    (holds : result.holds property = true) : ∃ m, result = .ok (.Valid m) ∧ property m = true := by
  match result with
  | .ok (.Valid m) => exact ⟨m,rfl,holds⟩
  | .ok (.Invalid _ _) => cases holds
  | .ok (.Garbled _) => cases holds
  | .ok (.UnexpectedError _) => cases holds
  | .error _ => cases holds

/-! ### A small dictionary -/

namespace SmallDictionary

def SIGNATURE : TagU32 := ⟨89,by decide,by decide⟩
def NO_PARTY_IDS : TagU32 := ⟨453,by decide,by decide⟩
def PARTY_ID : TagU32 := ⟨448,by decide,by decide⟩
def PARTY_ID_SOURCE : TagU32 := ⟨447,by decide,by decide⟩

def header : ComponentData := ⟨ascii "StandardHeader",[.Field true 8,.Field true 9,.Field true 35,.Field true 34]⟩
def trailer : ComponentData := ⟨ascii "StandardTrailer",[.Field false 89,.Field true 10]⟩
def news : MessageData := ⟨ascii "B",[.Field false 58,.Group false 453 [.Field true 448,.Field false 447]]⟩

/-- One message, with a text and a group of parties. -/
def dict : Dictionary where
  fields_by_tags := [BEGIN_STRING.tag,BODY_LENGTH.tag,MSG_TYPE.tag,MSG_SEQ_NUM.tag,SIGNATURE,CHECK_SUM.tag,TEXT.tag,
    NO_PARTY_IDS,PARTY_ID,PARTY_ID_SOURCE].map FieldData.of_tag
  components_by_name := [header,trailer]
  messages_by_msgtype := [news]
  tags_distinct := by decide
  names_distinct := by decide
  msgtypes_distinct := by decide

def config : Config := ⟨124,true⟩

def parties : GroupSpecification := .mk NO_PARTY_IDS [⟨PARTY_ID,true⟩,⟨PARTY_ID_SOURCE,false⟩] []

def builder : MessageBuilder where
  dict := dict
  header_tags := [BEGIN_STRING.tag,BODY_LENGTH.tag,MSG_TYPE.tag,MSG_SEQ_NUM.tag]
  trailer_tags := [SIGNATURE,CHECK_SUM.tag]
  message_specification := [(ascii "B",⟨[⟨TEXT.tag,false⟩,⟨NO_PARTY_IDS,false⟩],[(NO_PARTY_IDS,parties)]⟩)]
  config := config

theorem builder_made : MessageBuilder.new dict config = .ok builder := rfl

end SmallDictionary
end HotFix
