import HotFix.References
import HotFix.Delimiters

/-!
Headers as the dictionary declares them. The header section is told from the body by the
fields that its layout lists itself; what the layout nests in a component or a group ends
the header.
-/
namespace HotFix.MessageBuilder
open References
variable {arith : Arith} {b : MessageBuilder} {dict : Dictionary} {config : Config}

/-- The fields that open a message, and a header behind them with what follows it. -/
structure HeaderReading where
  begin_string : Field
  body_length : Field
  msg_type : Field
  checksum : Field
  items : List Item
  first_body : Field
  parser : Parser
  name : Bytes

namespace HeaderReading

def leading (r : HeaderReading) : List Field := [r.begin_string,r.body_length,r.msg_type]

/-- The header with all of its fields and groups. -/
def header (r : HeaderReading) : FieldMap := Item.store_items (FieldMap.empty.insert_fields r.leading) r.items

/-- The opening fields stand once. -/
def Opening (tag : TagU32) : Prop := tag = BEGIN_STRING.tag ∨ tag = BODY_LENGTH.tag ∨ tag = MSG_TYPE.tag

end HeaderReading

open HeaderReading in
/-- An intact message of a known type, whose header holds fields and groups that the
    layout of the header declares, up to a field that it does not declare. -/
structure HeaderRead (arith : Arith) (b : MessageBuilder) (data : Bytes) (header : ComponentData) (spec : MessageSpecification)
    (r : HeaderReading) : Prop where
  intact : ∃ p₁ p₂ p₃ n body_end, Framing arith b.config data r.begin_string r.body_length r.msg_type r.checksum p₁ p₂ p₃ n body_end ∧
    SumAgrees data body_end r.checksum ∧
    Scan arith r.msg_type p₃ (r.msg_type :: Item.flatten_items r.items) (.ahead r.first_body r.parser)
  layout : b.dict.component_by_name (ascii "StandardHeader") = some header
  specified : build_message_specification b.dict ⟨header.name,header.layout_items⟩ = .ok spec
  well_formed : b.BodyItems spec (some r.first_body.tag) r.items
  declared : ∀ item ∈ r.items, spec.contains_tag item.tag = true ∧ ¬ Opening item.tag
  ends : spec.contains_tag r.first_body.tag = false
  named : r.header.get_str MSG_TYPE = some r.name
  known : (b.dict.message_by_msgtype r.name).isSome = true

/-- The layout lists the field itself. -/
def InLayout (header : ComponentData) (item : Item) : Prop :=
  ∃ f required, item = .plain f ∧ .Field required f.tag.get ∈ header.layout_items

/-- The header of the result has all of the header, and the verdict is on what follows. -/
def Taken (arith : Arith) (b : MessageBuilder) (data : Bytes) (r : HeaderReading) (m : Message) : Prop :=
  m.header = r.header ∧ build arith b data = build_rest arith b (data.length + 1) r.header
    (FieldMap.empty.insert_fields [r.checksum]) r.name r.first_body r.parser

/-! ### The tags of the header -/

theorem tag_get_inj {a b : TagU32} (same : a.get = b.get) : a = b := by
  cases a
  cases b
  cases same
  rfl

/-- The header tags of a builder are the fields that the layout lists itself. -/
theorem header_tag_iff (made : new dict config = .ok b) : ∃ header, b.dict.component_by_name (ascii "StandardHeader") = some header ∧
    ∀ tag, b.is_header_tag tag = true ↔ ∃ required, .Field required tag.get ∈ header.layout_items := by
  rw [new] at made
  obtain ⟨header_tags,collected,made⟩ := bind_eq_ok.mp made
  obtain ⟨trailer_tags,_,made⟩ := bind_eq_ok.mp made
  obtain ⟨specifications,_,made⟩ := bind_eq_ok.mp made
  cases made
  rw [get_tags_for_component] at collected
  obtain ⟨header,found,collected⟩ := bind_eq_ok.mp collected
  obtain ⟨lists,mapped,collected⟩ := bind_eq_ok.mp collected
  cases collected
  refine ⟨header,ok_or_ok.mp found,fun tag => ?_⟩
  have member : (is_header_tag ⟨dict,lists.flatten,trailer_tags,specifications,config⟩ tag = true) ↔ tag ∈ lists.flatten := by
    simp [is_header_tag]
  rw [member,List.mem_flatten]
  constructor
  · rintro ⟨direct,inside,here⟩
    obtain ⟨item,listed,result⟩ := mapM_mem mapped direct inside
    cases item with
    | Field required n =>
      rw [direct_tag] at result
      obtain ⟨field,resolved,result⟩ := bind_eq_ok.mp result
      obtain ⟨tag',converted,result⟩ := bind_eq_ok.mp result
      cases result
      obtain rfl := tag_u32_ok (unwrap_ok.mp resolved) converted
      rw [List.mem_singleton] at here
      exact ⟨required,here ▸ listed⟩
    | Group required n inner =>
      obtain ⟨_,_,result⟩ := bind_eq_ok.mp result
      cases result
      cases here
    | Component required component =>
      obtain ⟨_,_,result⟩ := bind_eq_ok.mp result
      cases result
      cases here
  · rintro ⟨required,listed⟩
    obtain ⟨direct,inside,result⟩ := mapM_result mapped _ listed
    refine ⟨direct,inside,?_⟩
    rw [direct_tag] at result
    obtain ⟨field,resolved,result⟩ := bind_eq_ok.mp result
    obtain ⟨tag',converted,result⟩ := bind_eq_ok.mp result
    cases result
    rw [List.mem_singleton]
    exact tag_get_inj (tag_u32_ok (unwrap_ok.mp resolved) converted)

/-- A specification contains what the layout lists. -/
theorem listed_contained {layout : MessageData} {spec : MessageSpecification} {required : Bool} {tag : TagU32}
    (specified : build_message_specification dict layout = .ok spec) (listed : .Field required tag.get ∈ layout.layout_items) :
    spec.contains_tag tag = true := by
  obtain ⟨flat,_⟩ := message_specification_derived specified
  obtain ⟨xs,extracted,part⟩ := flat_results_part flat (unreported_extract dict.depth) _ listed
  obtain ⟨tag',number,_,rfl⟩ := field_extracted extracted
  have same : tag = tag' := tag_get_inj number
  rw [MessageSpecification.contains_tag,List.any_eq_true]
  exact ⟨_,part List.mem_cons_self,by simp [same]⟩

/-! ### What the builder makes of a header -/

theorem rest_header {rounds : Nat} {header trailer : FieldMap} {name : Bytes} {next : Field} {parser : Parser}
    {result : ParsedMessage} {m : Message} (built : build_rest arith b rounds header trailer name next parser = .ok result)
    (message : result.into_message = some m) : m.header = header := by
  rw [build_rest] at built
  rcases bodied : build_body arith b rounds name parser next with (err | text) | ⟨body,next,parser'⟩
  · rw [bodied] at built
    cases built
    cases err <;> cases message <;> rfl
  · rw [bodied] at built
    cases built
  · rw [bodied] at built
    obtain ⟨trailer',_,built⟩ := bind_eq_ok.mp built
    cases built
    cases message
    rfl

/-- The header of a result has the opening fields and fields that the layout lists, and no
    groups. -/
theorem built_header {data : Bytes} {begin_string body_length msg_type checksum : Field} {p₁ p₂ p₃ : Parser} {n body_end : Nat}
    {result : ParsedMessage} {m : Message}
    (framing : Framing arith b.config data begin_string body_length msg_type checksum p₁ p₂ p₃ n body_end)
    (agrees : SumAgrees data body_end checksum) (built : build arith b data = .ok result) (message : result.into_message = some m) :
    ∃ fields, (∀ f ∈ fields, b.is_header_tag f.tag = true) ∧
      m.header = FieldMap.empty.insert_fields ([begin_string,body_length,msg_type] ++ fields) := by
  obtain ⟨_,_,inside₃⟩ := framing.third_cursor
  obtain ⟨fields,stop,scan,all,off⟩ := Scan.munch arith (fun tag => b.is_header_tag tag = true) msg_type p₃ inside₃
  refine ⟨fields,all,?_⟩
  rw [build_intact framing agrees scan all off] at built
  cases stop with
  | ended =>
    cases built
    cases message
  | stuck text => cases built
  | ahead next parser =>
    rw [build_headed] at built
    split at built
    · cases built
    · split_ifs at built
      · exact rest_header built message
      · cases built
        cases message
        rfl

theorem store_plain {items : List Item} (plain : ∀ item ∈ items, ∃ f, item = .plain f) (m : FieldMap) :
    Item.store_items m items = m.insert_fields (items.map Item.field) ∧ Item.flatten_items items = items.map Item.field := by
  induction items generalizing m with
  | nil => exact ⟨rfl,rfl⟩
  | cons item rest ih =>
    obtain ⟨f,rfl⟩ := plain item List.mem_cons_self
    obtain ⟨stored,flat⟩ := ih (fun other later => plain other (List.mem_cons_of_mem _ later)) (m.insert f)
    refine ⟨?_,?_⟩
    · rw [Item.store_items,Item.store,stored]
      rfl
    · rw [Item.flatten_items,Item.flatten,flat]
      rfl

section
variable {data : Bytes} {header : ComponentData} {spec : MessageSpecification} {r : HeaderReading}

/-- A header of listed fields is taken. -/
theorem listed_taken (made : new dict config = .ok b) (headed : HeaderRead arith b data header spec r)
    (listed : ∀ item ∈ r.items, InLayout header item) {result : ParsedMessage} {m : Message}
    (built : build arith b data = .ok result) (message : result.into_message = some m) : Taken arith b data r m := by
  obtain ⟨header',found,header_tags⟩ := header_tag_iff made
  obtain rfl : header' = header := Option.some.inj (found.symm.trans headed.layout)
  obtain ⟨p₁,p₂,p₃,n,body_end,framing,agrees,scan⟩ := headed.intact
  have plain : ∀ item ∈ r.items, ∃ f, item = .plain f := by
    intro item member
    obtain ⟨f,_,same,_⟩ := listed item member
    exact ⟨f,same⟩
  obtain ⟨stored,flat⟩ := store_plain plain (FieldMap.empty.insert_fields r.leading)
  have all : ∀ f ∈ r.items.map Item.field, b.is_header_tag f.tag = true := by
    intro f member
    obtain ⟨item,inside,rfl⟩ := List.mem_map.mp member
    obtain ⟨f,required,rfl,direct⟩ := listed item inside
    exact (header_tags _).mpr ⟨required,direct⟩
  have off : ∀ tag ∈ (Stop.ahead r.first_body r.parser).tag, ¬ b.is_header_tag tag = true := by
    rintro tag ⟨⟩ direct
    obtain ⟨required,direct⟩ := (header_tags _).mp direct
    have contained := listed_contained headed.specified direct
    rw [headed.ends] at contained
    cases contained
  rw [flat] at scan
  have same : FieldMap.empty.insert_fields ([r.begin_string,r.body_length,r.msg_type] ++ r.items.map Item.field) = r.header := by
    rw [← insert_leading]
    exact stored.symm
  have whole := build_intact framing agrees scan all off
  rw [same,build_headed,headed.named] at whole
  dsimp only at whole
  rw [if_pos headed.known] at whole
  exact ⟨rest_header (whole ▸ built) message,whole⟩

/-- A header that is taken whole has listed fields only. -/
theorem taken_listed (made : new dict config = .ok b) (headed : HeaderRead arith b data header spec r) {result : ParsedMessage}
    {m : Message} (built : build arith b data = .ok result) (message : result.into_message = some m)
    (taken : m.header = r.header) : ∀ item ∈ r.items, InLayout header item := by
  obtain ⟨header',found,header_tags⟩ := header_tag_iff made
  obtain rfl : header' = header := Option.some.inj (found.symm.trans headed.layout)
  obtain ⟨p₁,p₂,p₃,n,body_end,framing,agrees,_⟩ := headed.intact
  obtain ⟨fields,all,stored⟩ := built_header framing agrees built message
  rw [stored,FieldMap.insert_fields_eq,HeaderReading.header,Item.store_items_eq] at taken
  obtain ⟨same_fields,same_groups⟩ := FieldMap.mk.inj taken
  intro item member
  cases item with
  | group f delimiter runs =>
    -- a group would be stored, and the builder stores none in the header
    have stored_group : f.tag ∈ (IndexMap.insertAll Prod.fst (FieldMap.empty.insert_fields r.leading).groups
        (r.items.filterMap Item.pair)).map Prod.fst :=
      IndexMap.key_mem_insertAll (.inr (List.mem_map.mpr ⟨_,List.mem_filterMap.mpr ⟨_,member,rfl⟩,rfl⟩))
    rw [← same_groups] at stored_group
    cases stored_group
  | plain f =>
    have stored_field : f.tag ∈ (IndexMap.insertAll Field.tag (FieldMap.empty.insert_fields r.leading).fields
        (r.items.map Item.field)).map Field.tag :=
      IndexMap.key_mem_insertAll (.inr (List.mem_map.mpr ⟨f,List.mem_map.mpr ⟨_,member,rfl⟩,rfl⟩))
    rw [← same_fields] at stored_field
    obtain ⟨f',kept,same⟩ := List.mem_map.mp stored_field
    rcases List.mem_append.mp ((IndexMap.mem_insertAll kept).resolve_left List.not_mem_nil) with opening | taken
    · refine absurd ?_ (headed.declared _ member).2
      rw [show Item.tag (.plain f) = f'.tag from same.symm]
      simp only [List.mem_cons,List.not_mem_nil,or_false] at opening
      rcases opening with rfl | rfl | rfl
      · exact .inl framing.first_tag
      · exact .inr (.inl framing.second_tag)
      · exact .inr (.inr framing.third_tag)
    · obtain ⟨required,direct⟩ := (header_tags _).mp (all f' taken)
      exact ⟨f,required,rfl,same ▸ direct⟩

/-- The header of a message is taken if and only if it holds only fields that the layout
    of the header lists itself. -/
theorem header_taken_iff (made : new dict config = .ok b) (headed : HeaderRead arith b data header spec r) {result : ParsedMessage}
    {m : Message} (built : build arith b data = .ok result) (message : result.into_message = some m) :
    Taken arith b data r m ↔ ∀ item ∈ r.items, InLayout header item :=
  ⟨fun taken => taken_listed made headed built message taken.1,fun listed => listed_taken made headed listed built message⟩

end

end HotFix.MessageBuilder

/-! ### A header with hops -/

namespace HotFix.Hops
open MessageBuilder

def NO_HOPS : TagU32 := ⟨627,by decide,by decide⟩
def HOP_COMP_ID : TagU32 := ⟨628,by decide,by decide⟩

def header : ComponentData :=
  ⟨ascii "StandardHeader",[.Field true 8,.Field true 9,.Field true 35,.Group false 627 [.Field false 628]]⟩

/-- One message with a text, and a group in the header. -/
def dict : Dictionary where
  fields_by_tags := [BEGIN_STRING.tag,BODY_LENGTH.tag,MSG_TYPE.tag,CHECK_SUM.tag,TEXT.tag,NO_HOPS,HOP_COMP_ID].map FieldData.of_tag
  components_by_name := [header,⟨ascii "StandardTrailer",[.Field true 10]⟩]
  messages_by_msgtype := [⟨ascii "B",[.Field false 58]⟩]
  tags_distinct := by decide
  names_distinct := by decide
  msgtypes_distinct := by decide

def builder : MessageBuilder where
  dict := dict
  header_tags := [BEGIN_STRING.tag,BODY_LENGTH.tag,MSG_TYPE.tag]
  trailer_tags := [CHECK_SUM.tag]
  message_specification := [(ascii "B",⟨[⟨TEXT.tag,false⟩],[]⟩)]
  config := ⟨124,true⟩

theorem builder_made : MessageBuilder.new dict ⟨124,true⟩ = .ok builder := rfl

def spec : MessageSpecification :=
  ⟨[⟨BEGIN_STRING.tag,true⟩,⟨BODY_LENGTH.tag,true⟩,⟨MSG_TYPE.tag,true⟩,⟨NO_HOPS,false⟩],
    [(NO_HOPS,.mk NO_HOPS [⟨HOP_COMP_ID,false⟩] [])]⟩

/-- One hop, and a text. -/
def hopped : Bytes := ascii "8=F|9=22|35=B|627=1|628=H|58=x|10=184|"

def reading : HeaderReading where
  begin_string := ⟨BEGIN_STRING.tag,ascii "F"⟩
  body_length := ⟨BODY_LENGTH.tag,ascii "22"⟩
  msg_type := ⟨MSG_TYPE.tag,ascii "B"⟩
  checksum := ⟨CHECK_SUM.tag,ascii "184"⟩
  items := [.group ⟨NO_HOPS,ascii "1"⟩ HOP_COMP_ID [[.plain ⟨HOP_COMP_ID,ascii "H"⟩]]]
  first_body := ⟨TEXT.tag,ascii "x"⟩
  parser := ⟨31,hopped,⟨124,true⟩⟩
  name := ascii "B"

theorem headed : HeaderRead .exact builder hopped header spec reading where
  intact := by
    refine ⟨⟨4,hopped,⟨124,true⟩⟩,⟨9,hopped,⟨124,true⟩⟩,⟨14,hopped,⟨124,true⟩⟩,22,31,
      ⟨rfl,rfl,rfl,rfl,by decide,by decide,by decide,⟨37,rfl⟩,rfl,rfl,rfl⟩,?_,?_⟩
    · intro value reads
      have read : CheckSum.deserialize (ascii "184") = some (CheckSum.compute (hopped.take 31)) := by decide +kernel
      exact Option.some.inj (read.symm.trans reads)
    · have hops : (⟨14,hopped,⟨124,true⟩⟩ : Parser).next_field .exact =
        .ok (some (⟨NO_HOPS,ascii "1"⟩,⟨20,hopped,⟨124,true⟩⟩)) := rfl
      have hop : (⟨20,hopped,⟨124,true⟩⟩ : Parser).next_field .exact =
        .ok (some (⟨HOP_COMP_ID,ascii "H"⟩,⟨26,hopped,⟨124,true⟩⟩)) := rfl
      have text : (⟨26,hopped,⟨124,true⟩⟩ : Parser).next_field .exact =
        .ok (some (⟨TEXT.tag,ascii "x"⟩,⟨31,hopped,⟨124,true⟩⟩)) := rfl
      exact .next hops (.next hop (.next text (.here _ _)))
  layout := rfl
  specified := rfl
  well_formed := by
    refine ⟨⟨rfl,rfl,_,rfl,rfl,⟨rfl,⟨1,.inl ⟨rfl,rfl,rfl⟩,trivial⟩,trivial⟩,?_,fun _ => rfl⟩,trivial⟩
    rintro tag ⟨⟩
    exact ⟨List.cons_ne_nil _ _,by unfold MessageBuilder.Absorbs; decide⟩
  declared := by
    intro item member
    rw [List.mem_singleton.mp member]
    refine ⟨rfl,?_⟩
    unfold HeaderReading.Opening
    decide
  ends := rfl
  named := rfl
  known := rfl

def refuses (tag : Nat) : Checked ParsedMessage → Bool
  | .ok (.Invalid _ (.InvalidField found)) => found = tag
  | _ => false

theorem refuses_iff {tag : Nat} {result : Checked ParsedMessage} (refused : refuses tag result = true) :
    ∃ m, result = .ok (.Invalid m (.InvalidField tag)) := by
  unfold refuses at refused
  split at refused
  · exact ⟨_,by rw [of_decide_eq_true refused]⟩
  · cases refused

theorem hopped_refused : ∃ m, build .exact builder hopped = .ok (.Invalid m (.InvalidField 627)) := refuses_iff (by decide +kernel)

/-- The hops are taken for a field of the body. -/
theorem hopped_invalid : ∃ m, build .exact builder hopped = .ok (.Invalid m (.InvalidField 627)) ∧
    (Taken .exact builder hopped reading m ↔ ∀ item ∈ reading.items, InLayout header item) := by
  obtain ⟨m,built⟩ := hopped_refused
  exact ⟨m,built,header_taken_iff builder_made headed built rfl⟩

/-- A header group that the dictionary declares makes a message invalid. -/
theorem header_group_refused : ¬ ∀ (arith : Arith) (dict : Dictionary) (config : Config) (b : MessageBuilder) (data : Bytes)
    (header : ComponentData) (spec : MessageSpecification) (r : HeaderReading) (result : ParsedMessage) (m : Message),
    MessageBuilder.new dict config = .ok b → HeaderRead arith b data header spec r → build arith b data = .ok result →
    result.into_message = some m → Taken arith b data r m := by
  intro always
  obtain ⟨m,built⟩ := hopped_refused
  have taken := always .exact dict _ builder hopped header spec reading _ m builder_made headed built rfl
  obtain ⟨f,required,same,_⟩ := taken_listed builder_made headed built rfl taken.1 _ List.mem_cons_self
  cases same

end HotFix.Hops
