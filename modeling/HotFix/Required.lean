import HotFix.Headers
import HotFix.Language

/-!
Required fields of groups. A layout is a group specification that has kept, of every field,
the components through which it enters the group, which the specification forgets. An entry
owes a field that it lacks and that is required, if each of those components is required or
has a field in the entry. The builder looks for the fields that are required and lacking,
and reports the first one.
-/
namespace HotFix

/-! ### Layouts -/

/-- A component on the way into a group, and its fields. -/
structure Passage where
  required : Bool
  tags : List TagU32

/-- A field of a group, and the components through which it enters. -/
structure Entrance where
  field : FieldSpecification
  through : List Passage

inductive GroupLayout where
  | mk (number_of_entries_tag : TagU32) (entrances : List Entrance) (nested_groups : List (TagU32 × GroupLayout))

abbrev Layouts := List (TagU32 × GroupLayout)

mutual
/-- The specification of a layout. -/
def GroupLayout.erase : GroupLayout → GroupSpecification
  | .mk group_tag entrances nested_groups => .mk group_tag (entrances.map Entrance.field) (GroupLayout.erase_all nested_groups)
def GroupLayout.erase_all : Layouts → Groups
  | [] => []
  | (tag,layout) :: rest => (tag,layout.erase) :: GroupLayout.erase_all rest
end

mutual
/-- The layout whose maps iterate as those of the specification do. -/
def GroupLayout.hashed (rank : List TagU32 → TagU32 → Nat) (path : List TagU32) : GroupLayout → GroupLayout
  | .mk group_tag entrances nested_groups =>
    .mk group_tag entrances (iterated (rank path) (GroupLayout.hashed_all rank path nested_groups))
def GroupLayout.hashed_all (rank : List TagU32 → TagU32 → Nat) (path : List TagU32) : Layouts → Layouts
  | [] => []
  | (tag,layout) :: rest => (tag,layout.hashed rank (tag :: path)) :: GroupLayout.hashed_all rank path rest
end

/-- The fields of an item, with the components that it leads through. -/
def extract_entrances (dict : Dictionary) : Nat → LayoutItemData → ParserResult (List Entrance)
  | _,.Field required tag => do
    let field ← unwrap (dict.field_by_tag tag)
    return [⟨⟨← field.tag_u32,required⟩,[]⟩]
  | _,.Group required len_field_tag _ => do
    let len_field ← unwrap (dict.field_by_tag len_field_tag)
    return [⟨⟨← len_field.tag_u32,required⟩,[]⟩]
  | 0,.Component _ _ => .error (.Panic "stack overflow")
  | depth+1,.Component required name => do
    let c ← unwrap (dict.component_by_name name)
    let component ← ok_or (.InvalidComponent c.name) (dict.component_by_name c.name)
    let entrances ← flat_results (extract_entrances dict depth) component.layout_items
    return entrances.map (fun e => ⟨e.field,⟨required,entrances.map (fun e => e.field.tag)⟩ :: e.through⟩)

mutual
/-- The layouts of the groups of an item. -/
def item_layouts (dict : Dictionary) (component : Bytes → ParserResult Layouts) : LayoutItemData → ParserResult Layouts
  | .Component _ name => do
    let c ← unwrap (dict.component_by_name name)
    component c.name
  | .Group _ len_field_tag items => do
    let len_field ← unwrap (dict.field_by_tag len_field_tag)
    let nested_groups ← layout_layouts dict component [] items
    let tag ← len_field.tag_u32
    let entrances ← flat_results (extract_entrances dict dict.depth) items
    return [(tag,.mk tag entrances nested_groups)]
  | .Field _ tag => do
    let _ ← unwrap (dict.field_by_tag tag)
    return []
def layout_layouts (dict : Dictionary) (component : Bytes → ParserResult Layouts) (layouts : Layouts) :
    List LayoutItemData → ParserResult Layouts
  | [] => .ok layouts
  | item :: rest => do
    let more ← item_layouts dict component item
    layout_layouts dict component (IndexMap.insertAll Prod.fst layouts more) rest
end

def component_layouts (dict : Dictionary) : Nat → Bytes → ParserResult Layouts
  | 0,_ => .error (.Panic "stack overflow")
  | depth+1,name => do
    let component ← ok_or (.InvalidComponent name) (dict.component_by_name name)
    layout_layouts dict (component_layouts dict depth) [] component.layout_items

def message_layouts (dict : Dictionary) (message : MessageData) : ParserResult Layouts :=
  layout_layouts dict (component_layouts dict dict.depth) [] message.layout_items

/-! ### Layouts are specifications -/

theorem flat_results_map {α β γ : Type} (f : α → ParserResult (List β)) (g : β → γ) (as : List α) :
    flat_results (fun a => (f a).map (List.map g)) as = (flat_results f as).map (List.map g) := by
  induction as with
  | nil => rfl
  | cons a rest ih =>
    rw [flat_results,flat_results,ih]
    rcases f a with (_ | _) | bs
    · rfl
    · rfl
    · cases flat_results f rest with
      | error stop => rfl
      | ok more => simp [Except.map]

theorem map_bind {ε α β γ : Type} (x : Except ε α) (f : α → Except ε β) (g : β → γ) :
    (x >>= f).map g = x >>= fun a => (f a).map g := by
  cases x <;> rfl

theorem extract_entrances_direct (dict : Dictionary) (depth : Nat) {item : LayoutItemData}
    (direct : ∀ required name, item ≠ .Component required name) :
    extract_fields dict depth item = (extract_entrances dict depth item).map (List.map Entrance.field) := by
  cases item with
  | Component required name => exact absurd rfl (direct required name)
  | Group required tag items =>
    rw [extract_fields,extract_entrances]
    simp only [map_bind]
    rfl
  | Field required tag =>
    rw [extract_fields,extract_entrances]
    simp only [map_bind]
    rfl

theorem extract_entrances_field (dict : Dictionary) (depth : Nat) (item : LayoutItemData) :
    extract_fields dict depth item = (extract_entrances dict depth item).map (List.map Entrance.field) := by
  induction depth generalizing item with
  | zero =>
    cases item with
    | Component required name => rfl
    | _ => exact extract_entrances_direct dict 0 (by intro _ _ same; cases same)
  | succ depth ih =>
    cases item with
    | Component required name =>
      rw [extract_fields,extract_entrances,funext ih]
      simp only [map_bind]
      refine bind_congr fun c => bind_congr fun component => ?_
      rw [flat_results_map]
      rcases flat_results (extract_entrances dict depth) component.layout_items with stop | entrances
      · rfl
      · simp [Except.map,bind,Except.bind,pure,Except.pure]
    | _ => exact extract_entrances_direct dict (depth + 1) (by intro _ _ same; cases same)

theorem erase_all_eq (layouts : Layouts) : GroupLayout.erase_all layouts = layouts.map (fun p => (p.1,p.2.erase)) := by
  induction layouts with
  | nil => rfl
  | cons p rest ih =>
    obtain ⟨tag,layout⟩ := p
    rw [GroupLayout.erase_all,ih,List.map_cons]

theorem erase_insert (p : TagU32 × GroupLayout) (layouts : Layouts) :
    IndexMap.insert Prod.fst (p.1,p.2.erase) (layouts.map (fun p => (p.1,p.2.erase))) =
      (IndexMap.insert Prod.fst p layouts).map (fun p => (p.1,p.2.erase)) := by
  induction layouts with
  | nil => rfl
  | cons q rest ih =>
    rw [List.map_cons,IndexMap.insert,IndexMap.insert,ih]
    split_ifs <;> rfl

theorem erase_extend (layouts more : Layouts) :
    extend (GroupLayout.erase_all layouts) (GroupLayout.erase_all more) = GroupLayout.erase_all (IndexMap.insertAll Prod.fst layouts more) := by
  simp only [erase_all_eq,extend,IndexMap.insertAll]
  induction more generalizing layouts with
  | nil => rfl
  | cons p rest ih =>
    rw [List.map_cons,List.foldl_cons,List.foldl_cons,erase_insert,ih]

section
variable (dict : Dictionary) {groups_of : Bytes → ParserResult Groups} {layouts_of : Bytes → ParserResult Layouts}

mutual
theorem item_layouts_erase (same : ∀ name, groups_of name = (layouts_of name).map GroupLayout.erase_all) : ∀ item : LayoutItemData,
    item_groups dict groups_of item = (item_layouts dict layouts_of item).map GroupLayout.erase_all
  | .Component required name => by
    rw [item_groups,item_layouts,map_bind,funext same]
  | .Group required tag items => by
    have inner := layout_layouts_erase same [] items
    rw [item_groups,item_layouts]
    simp only [map_bind]
    refine bind_congr fun len_field => ?_
    rw [show layout_groups dict groups_of [] items = _ from inner,funext (extract_entrances_field dict dict.depth),flat_results_map]
    rcases layout_layouts dict layouts_of [] items with stop | nested_groups
    · rfl
    · rcases len_field.tag_u32 with stop | count
      · rfl
      · rcases flat_results (extract_entrances dict dict.depth) items with stop | entrances
        · rfl
        · rfl
  | .Field required tag => by
    rw [item_groups,item_layouts]
    simp only [map_bind]
    rfl
theorem layout_layouts_erase (same : ∀ name, groups_of name = (layouts_of name).map GroupLayout.erase_all) :
    ∀ (layouts : Layouts) (items : List LayoutItemData),
    layout_groups dict groups_of (GroupLayout.erase_all layouts) items =
      (layout_layouts dict layouts_of layouts items).map GroupLayout.erase_all
  | layouts,[] => rfl
  | layouts,item :: rest => by
    rw [layout_groups,layout_layouts,item_layouts_erase same item]
    rcases item_layouts dict layouts_of item with stop | more
    · rfl
    · have behind := layout_layouts_erase same (IndexMap.insertAll Prod.fst layouts more) rest
      rw [← erase_extend] at behind
      exact behind
end

end

theorem component_layouts_erase (dict : Dictionary) (depth : Nat) (name : Bytes) :
    component_groups dict depth name = (component_layouts dict depth name).map GroupLayout.erase_all := by
  induction depth generalizing name with
  | zero => rfl
  | succ depth ih =>
    rw [component_groups,component_layouts,map_bind]
    exact bind_congr fun component => layout_layouts_erase dict ih [] component.layout_items

/-- The groups of a message are its layouts, without the components. -/
theorem message_layouts_erase {dict : Dictionary} {message : MessageData} {spec : MessageSpecification}
    (specified : build_message_specification dict message = .ok spec) :
    ∃ layouts, message_layouts dict message = .ok layouts ∧ spec.groups = GroupLayout.erase_all layouts := by
  rw [build_message_specification] at specified
  obtain ⟨fields,_,specified⟩ := MessageBuilder.bind_eq_ok.mp specified
  obtain ⟨groups,extracted,specified⟩ := MessageBuilder.bind_eq_ok.mp specified
  cases specified
  have erased := layout_layouts_erase dict (component_layouts_erase dict dict.depth) [] message.layout_items
  rw [show layout_groups dict (component_groups dict dict.depth) (GroupLayout.erase_all []) message.layout_items = _ from extracted] at erased
  rw [message_layouts]
  rcases found : layout_layouts dict (component_layouts dict dict.depth) [] message.layout_items with stop | layouts
  · rw [found] at erased
    cases erased
  · rw [found] at erased
    exact ⟨layouts,rfl,Except.ok.inj erased⟩

/-! ### The order of the maps -/

theorem erase_iterated (rank : TagU32 → Nat) (layouts : Layouts) :
    GroupLayout.erase_all (iterated rank layouts) = iterated rank (GroupLayout.erase_all layouts) := by
  rw [erase_all_eq,erase_all_eq]
  exact List.map_insertionSort _ _ _ layouts (fun _ _ _ _ => Iff.rfl)

mutual
theorem erase_hashed (rank : List TagU32 → TagU32 → Nat) (path : List TagU32) : ∀ layout : GroupLayout,
    (layout.hashed rank path).erase = layout.erase.hashed rank path
  | .mk group_tag entrances nested_groups => by
    rw [GroupLayout.hashed,GroupLayout.erase,GroupLayout.erase,GroupSpecification.hashed,erase_iterated,
      erase_hashed_all rank path nested_groups]
theorem erase_hashed_all (rank : List TagU32 → TagU32 → Nat) (path : List TagU32) : ∀ layouts : Layouts,
    GroupLayout.erase_all (GroupLayout.hashed_all rank path layouts) =
      GroupSpecification.hashed_all rank path (GroupLayout.erase_all layouts)
  | [] => rfl
  | (tag,layout) :: rest => by
    rw [GroupLayout.hashed_all,GroupLayout.erase_all,GroupLayout.erase_all,GroupSpecification.hashed_all,
      erase_hashed rank (tag :: path) layout,erase_hashed_all rank path rest]
end

/-- A hashed builder has the specifications of the builder, hashed. -/
theorem MessageBuilder.hashed_specified {b : MessageBuilder} {rank : Bytes → List TagU32 → TagU32 → Nat} {name : Bytes}
    {spec : MessageSpecification} (specified : (b.hashed rank).get_message_def name = .ok spec) :
    ∃ declared, b.get_message_def name = .ok declared ∧
      spec = ⟨declared.fields,GroupSpecification.hashed_all (rank name) [] declared.groups⟩ := by
  rw [get_message_def,ok_or_ok,hashed,IndexMap.get,List.find?_map,Option.map_map,Option.map_eq_some_iff] at specified
  obtain ⟨⟨key,declared⟩,found,rfl⟩ := specified
  obtain rfl : key = name := by simpa using List.find?_some found
  refine ⟨declared,?_,rfl⟩
  rw [get_message_def,ok_or_ok,IndexMap.get,Option.map_eq_some_iff]
  exact ⟨_,found,rfl⟩

/-! ### Required fields -/

/-- The entry has one of the fields of the component. -/
def Passage.present (c : Passage) (m : FieldMap) : Bool := c.tags.any (fun tag => (m.get_raw tag).isSome)

/-- A required field that the entry lacks. -/
def Entrance.lacking (e : Entrance) (m : FieldMap) : Bool := e.field.is_required && (m.get_raw e.field.tag).isNone

/-- Every component on the way of the field is required, or present in the entry. -/
def Entrance.due (e : Entrance) (m : FieldMap) : Bool := e.through.all (fun c => c.required || c.present m)

/-- Some entry, at any depth, owes the field of a tag to a group: the field is required and lacking,
    and every component on its way is required or present. -/
inductive Owes : GroupLayout → List RepeatingGroup → TagU32 → TagU32 → Prop where
  | here {group_tag : TagU32} {entrances : List Entrance} {nested_groups : Layouts} {groups : List RepeatingGroup} {entry : RepeatingGroup}
    {e : Entrance} (member : entry ∈ groups) (enters : e ∈ entrances) (lacking : e.lacking entry.get_fields = true)
    (due : e.due entry.get_fields = true) : Owes (.mk group_tag entrances nested_groups) groups group_tag e.field.tag
  | nested {group_tag nested_tag inner_tag tag : TagU32} {entrances : List Entrance} {nested_groups : Layouts}
    {groups nested_entries : List RepeatingGroup} {entry : RepeatingGroup} {layout : GroupLayout} (member : entry ∈ groups)
    (listed : (nested_tag,layout) ∈ nested_groups) (stored : entry.get_fields.get_groups nested_tag = some nested_entries)
    (inside : Owes layout nested_entries inner_tag tag) :
    Owes (.mk group_tag entrances nested_groups) groups inner_tag tag

mutual
/-- The fields that are wanted of entries, in the order of the check, each behind the tag of its group. -/
def collect (wanted : Entrance → FieldMap → Bool) (groups : List RepeatingGroup) : GroupLayout → List (TagU32 × TagU32)
  | .mk group_tag entrances nested_groups => groups.flatMap (fun entry =>
      (entrances.filter (fun e => wanted e entry.get_fields)).map (fun e => (group_tag,e.field.tag)) ++
        collect_nested wanted entry.get_fields nested_groups)
def collect_nested (wanted : Entrance → FieldMap → Bool) (m : FieldMap) : Layouts → List (TagU32 × TagU32)
  | [] => []
  | (nested_tag,layout) :: rest => (match m.get_groups nested_tag with
      | some nested_entries => collect wanted nested_entries layout
      | none => []) ++ collect_nested wanted m rest
end

/-- The required fields that entries lack. -/
def missing : List RepeatingGroup → GroupLayout → List (TagU32 × TagU32) := collect Entrance.lacking

section
variable {wanted : Entrance → FieldMap → Bool}

theorem collect_nested_mem {m : FieldMap} {layouts : Layouts} {nested_tag : TagU32} {layout : GroupLayout} {nested_entries : List RepeatingGroup}
    {x : TagU32 × TagU32} (listed : (nested_tag,layout) ∈ layouts) (stored : m.get_groups nested_tag = some nested_entries)
    (inside : x ∈ collect wanted nested_entries layout) : x ∈ collect_nested wanted m layouts := by
  induction layouts with
  | nil => cases listed
  | cons first rest ih =>
    obtain ⟨tag,first⟩ := first
    rw [collect_nested,List.mem_append]
    rcases List.mem_cons.mp listed with same | later
    · cases same
      rw [stored]
      exact .inl inside
    · exact .inr (ih later)

/-- What is owed is collected where it is wanted. -/
theorem Owes.collect {layout : GroupLayout} {groups : List RepeatingGroup} {group_tag tag : TagU32} (owes : Owes layout groups group_tag tag)
    (weaker : ∀ e m, e.lacking m = true → e.due m = true → wanted e m = true) :
    (group_tag,tag) ∈ collect wanted groups layout := by
  induction owes with
  | here member enters lacking due =>
    rw [HotFix.collect,List.mem_flatMap]
    exact ⟨_,member,List.mem_append.mpr (.inl (List.mem_map.mpr ⟨_,List.mem_filter.mpr ⟨enters,weaker _ _ lacking due⟩,rfl⟩))⟩
  | nested member listed stored inside ih =>
    rw [HotFix.collect,List.mem_flatMap]
    exact ⟨_,member,List.mem_append.mpr (.inr (collect_nested_mem listed stored ih))⟩

theorem Owes.missing {layout : GroupLayout} {groups : List RepeatingGroup} {group_tag tag : TagU32} (owes : Owes layout groups group_tag tag) :
    (group_tag,tag) ∈ missing groups layout := owes.collect fun _ _ lacking _ => lacking

end

namespace MessageBuilder

/-- The error for the first missing field. -/
def report : Option (TagU32 × TagU32) → ParserResult Unit
  | none => .ok ()
  | some (group_tag,tag) => .error (.Error (.RequiredFieldMissing tag.get (some group_tag.get)))

theorem report_append (xs ys : List (TagU32 × TagU32)) : report (xs ++ ys).head? = report xs.head? >>= fun _ => report ys.head? := by
  cases xs with
  | nil => rfl
  | cons x rest => rfl

theorem report_flatMap {α : Type} {f : α → ParserResult Unit} {g : α → List (TagU32 × TagU32)} (as : List α)
    (each : ∀ a, f a = report (g a).head?) : as.forM f = report (as.flatMap g).head? := by
  induction as with
  | nil => rfl
  | cons a rest ih =>
    rw [List.flatMap_cons,report_append,← each,← ih]
    rfl

theorem check_fields_eq (group_tag : TagU32) (entrances : List Entrance) (m : FieldMap) :
    check_required_fields group_tag (entrances.map Entrance.field) m =
      report ((entrances.filter (fun e => e.lacking m)).map (fun e => (group_tag,e.field.tag))).head? := by
  have found : (entrances.map Entrance.field).find? (fun f => f.is_required && (m.get_raw f.tag).isNone) =
      (entrances.find? (fun e => e.lacking m)).map Entrance.field := List.find?_map
  rw [check_required_fields,found,List.head?_map,List.head?_filter]
  cases entrances.find? (fun e => e.lacking m) with
  | none => rfl
  | some e => rfl

mutual
/-- The check reports the first missing field. -/
theorem check_eq (groups : List RepeatingGroup) : ∀ layout : GroupLayout,
    check_required_fields_in_groups groups layout.erase = report (missing groups layout).head?
  | .mk group_tag entrances nested_groups => by
    rw [GroupLayout.erase,check_required_fields_in_groups,missing,collect]
    refine report_flatMap groups (fun entry => ?_)
    rw [report_append,← check_fields_eq,← nested_check_eq]
theorem nested_check_eq (m : FieldMap) : ∀ layouts : Layouts,
    check_nested_groups m (GroupLayout.erase_all layouts) = report (collect_nested Entrance.lacking m layouts).head?
  | [] => rfl
  | (nested_tag,layout) :: rest => by
    have others := nested_check_eq m rest
    rw [GroupLayout.erase_all,check_nested_groups,collect_nested,report_append]
    cases m.get_groups nested_tag with
    | none =>
      dsimp only
      rw [others]
      rfl
    | some nested_entries =>
      have first := check_eq nested_entries layout
      dsimp only
      rw [first,others]
      rfl
end

/-! ### Other errors -/

/-- A result that reports no missing field. -/
def Other {α : Type} (x : ParserResult α) : Prop := ∀ tag group_tag, x ≠ .error (.Error (.RequiredFieldMissing tag group_tag))

theorem Other.bind {α β : Type} {x : ParserResult α} {f : α → ParserResult β} (first : Other x) (second : ∀ a, Other (f a)) :
    Other (x >>= f) := by
  rcases x with stop | a
  · intro tag group_tag failed
    have same : stop = .Error (.RequiredFieldMissing tag group_tag) := by simpa [Bind.bind,Except.bind] using failed
    exact first tag group_tag (congrArg _ same)
  · exact second a

theorem Other.expect {α : Type} (message : String) (x : Option α) : Other (HotFix.expect message x) := by
  cases x <;> nofun

section
variable {arith : Arith} {b : MessageBuilder}

theorem required_field_other (parser : Parser) (text : String) : Other (required_field arith parser text) := by
  rw [required_field_eq]
  rcases parser.next_field arith with message | _ | read
  · nofun
  · nofun
  · nofun

theorem enter_groups_other {loop : GroupLoop} (other : ∀ spec start_tag delimiter groups current_group idx field parser,
    Other (loop spec start_tag delimiter groups current_group idx field parser)) (spec : GroupSpecification) (start_tag : TagU32) (parser : Parser) :
    Other (enter_groups arith loop spec start_tag parser) := by
  rcases first : spec.delimiter_tag with stop | delimiter
  · obtain ⟨count,fields,nested⟩ := spec
    cases fields with
    | nil => nofun
    | cons f rest => cases first
  · rw [enter_groups_eq first]
    rcases parser.next_field arith with message | _ | ⟨field,parser'⟩
    · nofun
    · nofun
    · dsimp only
      split_ifs
      · exact other _ _ _ _ _ _ _ _
      · nofun

theorem group_round_other {enter : GroupSpecification → TagU32 → Parser → ParserResult (List RepeatingGroup × Field × Parser)}
    {again : List RepeatingGroup → Option RepeatingGroup → Nat → Field → Parser → ParserResult (List RepeatingGroup × Field × Parser)}
    (entered : ∀ spec tag parser, Other (enter spec tag parser))
    (other : ∀ groups current_group idx field parser, Other (again groups current_group idx field parser))
    (spec : GroupSpecification) (start_tag delimiter : TagU32) (groups : List RepeatingGroup) (current_group : Option RepeatingGroup) (idx : Nat)
    (field : Field) (parser : Parser) : Other (group_round arith b enter again spec start_tag delimiter groups current_group idx field parser) := by
  unfold group_round
  split_ifs
  · exact (required_field_other _ _).bind fun _ => other _ _ _ _ _
  · refine (Other.expect _ _).bind fun position => ?_
    split_ifs
    · nofun
    · refine (Other.expect _ _).bind fun group => ?_
      dsimp only
      split
      · refine (entered _ _ _).bind fun parsed => ?_
        split
        · exact other _ _ _ _ _
        · nofun
      · exact (required_field_other _ _).bind fun _ => other _ _ _ _ _
  · exact (Other.expect _ _).bind fun group => (required_field_other _ _).bind fun _ => other _ _ _ _ _
  · nofun

/-- Group parsing reports no missing field. -/
theorem parse_groups_other (rounds : Nat) (parser : Parser) (spec : GroupSpecification) (start_tag : TagU32) :
    Other (parse_groups arith b rounds parser spec start_tag) := by
  refine enter_groups_other ?_ spec start_tag parser
  induction rounds with
  | zero => nofun
  | succ rounds ih =>
    intro spec start_tag delimiter groups current_group idx field parser
    rw [group_loop]
    exact group_round_other (enter_groups_other ih) (ih spec start_tag delimiter) _ _ _ _ _ _ _ _

end

/-! ### The groups of a message -/

section
variable (arith : Arith) (b : MessageBuilder)

/-- What comes of the next field, if there is one. -/
def onward_runs {α : Type} (again : Field → Parser → List α) (parser : Parser) : List α :=
  match parser.next_field arith with
  | .ok (some (next,parser)) => again next parser
  | _ => []

/-- The well-ordered groups of a body, up to the first that lacks a required field. -/
def body_runs (spec : MessageSpecification) (layouts : Layouts) : Nat → Field → Parser → List (GroupLayout × List RepeatingGroup)
  | 0,_,_ => []
  | rounds+1,field,parser =>
    if spec.contains_tag field.tag then
      if (b.dict.field_by_tag field.tag.get).isSome then
        match (IndexMap.get Prod.fst field.tag layouts).map Prod.snd with
        | some layout =>
          match parse_groups arith b rounds parser layout.erase field.tag with
          | .ok (groups,next,parser) => (layout,groups) :: if (missing groups layout).isEmpty then body_runs spec layouts rounds next parser else []
          | .error _ => []
        | none => onward_runs arith (body_runs spec layouts rounds) parser
      else []
    else if b.should_accept_unknown_user_defined field.tag then onward_runs arith (body_runs spec layouts rounds) parser
    else []

/-- The well-ordered groups of a message whose header is right, read by the builder whose
    maps iterate as ranked. -/
def runs (rank : Bytes → List TagU32 → TagU32 → Nat) (data : Bytes) : List (GroupLayout × List RepeatingGroup) :=
  (do
    let (header,_,parser) ← (verify_integrity arith ⟨0,data,(b.hashed rank).config⟩).toOption
    let (header,next) := build_header arith (b.hashed rank) (data.length + 1) header parser
    let (field,parser) ← next.toOption
    let name ← header.get_str MSG_TYPE
    let spec ← ((b.hashed rank).get_message_def name).toOption
    let message ← (b.hashed rank).dict.message_by_msgtype name
    let layouts ← (message_layouts (b.hashed rank).dict message).toOption
    return body_runs arith (b.hashed rank) spec (GroupLayout.hashed_all (rank name) [] layouts) (data.length + 1)
      field parser).getD []

end

section
variable {arith : Arith} {b : MessageBuilder} {spec : MessageSpecification} {layouts : Layouts} {rounds : Nat} {body : FieldMap} {field : Field}
  {parser : Parser} {tag : Nat} {group_tag : Option Nat}

theorem get_erased (same : spec.groups = GroupLayout.erase_all layouts) (tag : TagU32) :
    spec.get_group tag = ((IndexMap.get Prod.fst tag layouts).map Prod.snd).map GroupLayout.erase := by
  rw [MessageSpecification.get_group,same,erase_all_eq,IndexMap.get,IndexMap.get,List.find?_map,Option.map_map,Option.map_map]
  rfl

/-- The group is reported as lacking the field. -/
def Lacks (run : GroupLayout × List RepeatingGroup) (tag : Nat) (group_tag : Option Nat) : Prop :=
  report (missing run.2 run.1).head? = .error (.Error (.RequiredFieldMissing tag group_tag))

theorem not_lacks {run : GroupLayout × List RepeatingGroup} (none_missing : missing run.2 run.1 = []) : ¬ Lacks run tag group_tag := by
  rw [Lacks,none_missing]
  nofun

theorem onward_missing {α : Type} {text : String} {again : Field → Parser → ParserResult (α × Field × Parser)} :
    onward arith text parser again = .error (.Error (.RequiredFieldMissing tag group_tag)) ↔
      ∃ next parser', parser.next_field arith = .ok (some (next,parser')) ∧
        again next parser' = .error (.Error (.RequiredFieldMissing tag group_tag)) := by
  rw [onward]
  rcases parser.next_field arith with message | _ | ⟨next,parser'⟩
  · simp
  · simp
  · simp

/-- A field of the body that starts no group. -/
theorem behind_missing (looped : body_loop arith b spec (rounds + 1) body field parser =
      onward arith "message ended within the body" parser (body_loop arith b spec rounds (body.insert field)))
    (listed : body_runs arith b spec layouts (rounds + 1) field parser = onward_runs arith (body_runs arith b spec layouts rounds) parser)
    (later : ∀ next parser', parser.next_field arith = .ok (some (next,parser')) →
      (body_loop arith b spec rounds (body.insert field) next parser' = .error (.Error (.RequiredFieldMissing tag group_tag)) ↔
        ∃ run ∈ body_runs arith b spec layouts rounds next parser', Lacks run tag group_tag)) :
    body_loop arith b spec (rounds + 1) body field parser = .error (.Error (.RequiredFieldMissing tag group_tag)) ↔
      ∃ run ∈ body_runs arith b spec layouts (rounds + 1) field parser, Lacks run tag group_tag := by
  rw [looped,onward_missing,listed,onward_runs]
  rcases read : parser.next_field arith with message | _ | ⟨next,parser'⟩
  · simp
  · simp
  · rw [← later next parser' read]
    constructor
    · rintro ⟨_,_,same,failed⟩
      cases same
      exact failed
    · intro failed
      exact ⟨next,parser',rfl,failed⟩

/-- A parsed group can be stored, and the cursor has moved. -/
theorem parsed_groups {spec : GroupSpecification} {start_tag : TagU32} {groups : List RepeatingGroup} {next : Field} {parser' : Parser}
    (inside : parser.position ≤ parser.raw_data.length) (enough : parser.remaining ≤ rounds)
    (parsed : parse_groups arith b rounds parser spec start_tag = .ok (groups,next,parser')) :
    (∀ m : FieldMap, ∃ m', m.set_groups groups = .ok m') ∧ parser'.position ≤ parser'.raw_data.length ∧
      parser'.remaining < parser.remaining := by
  obtain ⟨delimiter,entries,run⟩ := parsed_run inside enough parsed
  have scan : Scan arith ⟨start_tag,[]⟩ parser (⟨start_tag,[]⟩ :: Item.flatten_entries entries) (.ahead next parser') :=
    scan_reads.mpr run.reads
  rw [run_parsed inside enough run] at parsed
  cases parsed
  exact ⟨fun m => ⟨_,Item.set_groups_store m start_tag delimiter run.nonempty⟩,(scan.onward inside).inside,scan.tail_remaining inside⟩

/-- The body reports a missing field if one of its groups lacks it. -/
theorem body_missing_iff (same : spec.groups = GroupLayout.erase_all layouts) (inside : parser.position ≤ parser.raw_data.length)
    (enough : parser.remaining < rounds) :
    body_loop arith b spec rounds body field parser = .error (.Error (.RequiredFieldMissing tag group_tag)) ↔
      ∃ run ∈ body_runs arith b spec layouts rounds field parser, Lacks run tag group_tag := by
  induction rounds generalizing body field parser with
  | zero => omega
  | succ rounds ih =>
    have later (next : Field) (parser' : Parser) (read : parser.next_field arith = .ok (some (next,parser'))) :
        body_loop arith b spec rounds (body.insert field) next parser' = .error (.Error (.RequiredFieldMissing tag group_tag)) ↔
          ∃ run ∈ body_runs arith b spec layouts rounds next parser', Lacks run tag group_tag := by
      have less := Parser.next_field_remaining inside read
      exact ih (Parser.next_field_moves inside read).2.2.2 (by omega)
    have group := get_erased same field.tag
    by_cases declared : spec.contains_tag field.tag = true
    · cases defined : (b.dict.field_by_tag field.tag.get).isSome with
      | false =>
        rw [body_undefined declared defined,body_runs]
        simp [declared,defined]
      | true =>
        cases found : (IndexMap.get Prod.fst field.tag layouts).map Prod.snd with
        | none =>
          rw [found] at group
          refine behind_missing (body_plain declared defined group) ?_ later
          rw [body_runs]
          simp [declared,defined,found]
        | some layout =>
          rw [found] at group
          rw [body_group declared defined group,body_runs]
          simp only [declared,defined,found,if_true]
          rcases parsed : parse_groups arith b rounds parser layout.erase field.tag with stop | ⟨groups,next,parser'⟩
          · have other : Other (parse_groups arith b rounds parser layout.erase field.tag) := parse_groups_other _ _ _ _
            rw [parsed] at other
            simpa using other tag group_tag
          · obtain ⟨settable,inside',less⟩ := parsed_groups inside (by omega) parsed
            obtain ⟨stored,set⟩ := settable (body.insert field)
            dsimp only
            rw [check_eq,set,List.exists_mem_cons_iff]
            by_cases lacks : missing groups layout = []
            · rw [or_iff_right (not_lacks lacks),lacks]
              exact ih inside' (by omega)
            · obtain ⟨x,rest,first⟩ := List.exists_cons_of_ne_nil lacks
              rw [Lacks,first]
              simp [report]
    · have undeclared : spec.contains_tag field.tag = false := by simpa using declared
      by_cases accepted : b.should_accept_unknown_user_defined field.tag = true
      · refine behind_missing (body_unknown undeclared accepted) ?_ later
        rw [body_runs]
        simp [undeclared,accepted]
      · rw [body_end ⟨undeclared,by simpa using accepted⟩,body_runs]
        simp [undeclared,accepted]

/-- Only the last group lacks a field. -/
theorem lacking_unique {run run' : GroupLayout × List RepeatingGroup} (member : run ∈ body_runs arith b spec layouts rounds field parser)
    (member' : run' ∈ body_runs arith b spec layouts rounds field parser) (lacks : missing run.2 run.1 ≠ [])
    (lacks' : missing run'.2 run'.1 ≠ []) : run = run' := by
  induction rounds generalizing field parser with
  | zero => cases member
  | succ rounds ih =>
    have behind (there : run ∈ onward_runs arith (body_runs arith b spec layouts rounds) parser)
        (there' : run' ∈ onward_runs arith (body_runs arith b spec layouts rounds) parser) : run = run' := by
      unfold onward_runs at there there'
      rcases read : parser.next_field arith with message | _ | ⟨next,parser'⟩ <;> rw [read] at there there'
      · cases there
      · cases there
      · exact ih there there'
    rw [body_runs] at member member'
    split_ifs at member member'
    · cases found : (IndexMap.get Prod.fst field.tag layouts).map Prod.snd with
      | none =>
        rw [found] at member member'
        exact behind member member'
      | some layout =>
        rw [found] at member member'
        dsimp only at member member'
        rcases parsed : parse_groups arith b rounds parser layout.erase field.tag with stop | ⟨groups,next,parser'⟩
        · rw [parsed] at member
          cases member
        · rw [parsed] at member member'
          dsimp only at member member'
          split_ifs at member member' with fine
          · have passes : missing groups layout = [] := List.isEmpty_iff.mp fine
            rcases List.mem_cons.mp member with rfl | later
            · exact absurd passes lacks
            · rcases List.mem_cons.mp member' with rfl | later'
              · exact absurd passes lacks'
              · exact ih later later'
          · rw [List.mem_singleton.mp member,List.mem_singleton.mp member']
    · cases member
    · exact behind member member'
    · cases member

/-! ### The verdict -/

theorem bind_eq_error {ε α β : Type} {x : Except ε α} {f : α → Except ε β} {stop : ε} :
    x >>= f = .error stop ↔ x = .error stop ∨ ∃ a, x = .ok a ∧ f a = .error stop := by
  cases x <;> simp [bind,Except.bind]

theorem or_invalid_missing {α : Type} {header : FieldMap} {result : ParserResult α} {valid : α → Checked ParsedMessage}
    (accepts : ∀ a m reason, valid a ≠ .ok (.Invalid m reason)) :
    (∃ m, or_invalid header result valid = .ok (.Invalid m (.RequiredFieldMissing tag group_tag))) ↔
      result = .error (.Error (.RequiredFieldMissing tag group_tag)) := by
  match result with
  | .ok a =>
    constructor
    · rintro ⟨m,built⟩
      exact absurd built (accepts a m _)
    · nofun
  | .error (.Panic message) =>
    constructor
    · rintro ⟨m,built⟩
      cases built
    · nofun
  | .error (.Error err) =>
    constructor
    · rintro ⟨m,built⟩
      cases err <;> cases built
      rfl
    · intro failed
      cases failed
      exact ⟨_,rfl⟩

theorem rest_missing_iff {header trailer : FieldMap} {name : Bytes} :
    (∃ m, build_rest arith b rounds header trailer name field parser = .ok (.Invalid m (.RequiredFieldMissing tag group_tag))) ↔
      ∃ spec, b.get_message_def name = .ok spec ∧
        body_loop arith b spec rounds FieldMap.empty field parser = .error (.Error (.RequiredFieldMissing tag group_tag)) := by
  have accepts : ∀ (read : FieldMap × Field × Parser) (m : Message) (reason : InvalidReason), (do
      let trailer ← build_trailer arith rounds trailer read.2.2 read.2.1
      return ParsedMessage.Valid ⟨header,read.1,trailer⟩ : Checked ParsedMessage) ≠ .ok (.Invalid m reason) := by
    intro read m reason built
    obtain ⟨trailer,_,built⟩ := bind_eq_ok.mp built
    cases built
  have named : Other (b.get_message_def name) := by
    intro tag group_tag failed
    rw [get_message_def] at failed
    cases known : (IndexMap.get Prod.fst name b.message_specification).map Prod.snd with
    | none =>
      rw [known] at failed
      cases failed
    | some spec =>
      rw [known] at failed
      cases failed
  rw [build_rest,or_invalid_missing accepts,build_body,bind_eq_error,or_iff_right (named tag group_tag)]
  refine exists_congr fun spec => and_congr_right fun _ => ?_
  rw [bind_eq_error,or_iff_left]
  rintro ⟨⟨body,field,parser⟩,_,failed⟩
  dsimp only at failed
  split_ifs at failed
  · cases failed
  · cases failed

/-- The builder reports a missing field if a group of the message lacks it. -/
theorem missing_field_iff {dict : Dictionary} {config : Config} (made : new dict config = .ok b)
    (rank : Bytes → List TagU32 → TagU32 → Nat) {data : Bytes} :
    (∃ m, build arith (b.hashed rank) data = .ok (.Invalid m (.RequiredFieldMissing tag group_tag))) ↔
      ∃ run ∈ runs arith b rank data, Lacks run tag group_tag := by
  rcases verified : verify_integrity arith ⟨0,data,(b.hashed rank).config⟩ with stop | ⟨header,trailer,p₃⟩
  · have nothing : runs arith b rank data = [] := by
      rw [runs,verified]
      rfl
    rw [nothing,build]
    dsimp only
    rw [verified]
    rcases stop with err | message
    · cases err <;> simp [MessageIntegrityError.parsed,pure,Except.pure]
    · simp [throw,throwThe,MonadExceptOf.throw]
  · obtain ⟨begin_string,body_length,msg_type,checksum,p₁,p₂,n,body_end,framing,agrees,rfl,rfl⟩ := verify_integrity_ok.mp verified
    obtain ⟨data₃,_,inside₃⟩ := framing.third_cursor
    obtain ⟨fields,stop,scan,all,off⟩ := Scan.munch arith (fun tag => (b.hashed rank).is_header_tag tag = true) msg_type p₃ inside₃
    have left₃ : p₃.remaining < data.length + 1 := by
      rw [Parser.remaining,data₃]
      omega
    rw [build_intact framing agrees scan all off,runs,verified]
    simp only [Except.toOption,Option.bind_eq_bind,Option.bind_some]
    rw [build_header_eq inside₃ left₃ scan all off,insert_leading]
    dsimp only
    generalize FieldMap.empty.insert_fields ([begin_string,body_length,msg_type] ++ fields) = header
    cases stop with
    | ended => simp [build_headed,header_result]
    | stuck message => simp [build_headed,header_result]
    | ahead next parser =>
      have onward := scan.onward inside₃
      have left : parser.remaining < data.length + 1 := by
        rw [Parser.remaining,onward.data,data₃]
        omega
      rw [build_headed,header_result]
      cases named : header.get_str MSG_TYPE with
      | none => simp [expect,bind,Except.bind]
      | some name =>
        cases known : (b.hashed rank).dict.message_by_msgtype name with
        | none => simp [expect,bind,Except.bind,known,throw,throwThe,MonadExceptOf.throw]
        | some message =>
          simp only [expect,bind,Except.bind,known,Option.isNone_some,Option.isSome_some,if_true,pure,Except.pure,Option.bind_some]
          rw [rest_missing_iff]
          rcases specified : (b.hashed rank).get_message_def name with stop | spec
          · simp
          · obtain ⟨_,_,found⟩ := made_of_new made
            obtain ⟨declared,declares,rfl⟩ := hashed_specified specified
            obtain ⟨message',looked_up,derived⟩ := found.specified name declared declares
            obtain ⟨layouts,laid,same⟩ := message_layouts_erase derived
            rw [same,← erase_hashed_all]
            rw [show (b.hashed rank).dict = dict from found.dict_eq,looked_up] at known
            cases known
            rw [show (b.hashed rank).dict = dict from found.dict_eq,laid]
            simp only [Option.bind_some,Except.ok.injEq,exists_eq_left']
            exact body_missing_iff rfl onward.inside left

theorem lacks_iff {run : GroupLayout × List RepeatingGroup} :
    Lacks run tag group_tag ↔ ∃ x, (missing run.2 run.1).head? = some x ∧ x.2.get = tag ∧ some x.1.get = group_tag := by
  rw [Lacks]
  rcases (missing run.2 run.1).head? with _ | ⟨count,lacking⟩
  · simp [report]
  · simp [report]

theorem runs_cases (arith : Arith) (b : MessageBuilder) (rank : Bytes → List TagU32 → TagU32 → Nat) (data : Bytes) :
    runs arith b rank data = [] ∨
      ∃ b' spec layouts rounds field parser, runs arith b rank data = body_runs arith b' spec layouts rounds field parser := by
  unfold runs
  rcases verify_integrity arith ⟨0,data,(b.hashed rank).config⟩ with stop | ⟨header,trailer,parser⟩
  · exact .inl rfl
  · simp only [Except.toOption,Option.bind_eq_bind,Option.bind_some]
    rcases build_header arith (b.hashed rank) (data.length + 1) header parser with ⟨header,stop | ⟨field,parser⟩⟩
    · exact .inl rfl
    · simp only [Option.bind_some]
      cases header.get_str MSG_TYPE with
      | none => exact .inl rfl
      | some name =>
        rw [Option.bind_some]
        rcases (b.hashed rank).get_message_def name with stop | spec
        · exact .inl rfl
        · cases (b.hashed rank).dict.message_by_msgtype name with
          | none => exact .inl rfl
          | some message =>
            simp only [Option.bind_some]
            rcases message_layouts (b.hashed rank).dict message with stop | layouts
            · exact .inl rfl
            · exact .inr ⟨_,_,_,_,_,_,rfl⟩

end

/-! ### What is enforced -/

/-- Required fields are enforced exactly: a message is rejected for a field that some entry owes,
    and it is rejected if there is one. -/
structure EnforcesRequired (arith : Arith) (b : MessageBuilder) (rank : Bytes → List TagU32 → TagU32 → Nat) (data : Bytes) :
    Prop where
  owed : ∀ m tag group_tag, build arith (b.hashed rank) data = .ok (.Invalid m (.RequiredFieldMissing tag group_tag)) →
    ∃ run ∈ runs arith b rank data, ∃ count lacking, Owes run.1 run.2 count lacking ∧ lacking.get = tag ∧ some count.get = group_tag
  rejected : ∀ run ∈ runs arith b rank data, ∀ count lacking, Owes run.1 run.2 count lacking →
    ∃ m tag group_tag, build arith (b.hashed rank) data = .ok (.Invalid m (.RequiredFieldMissing tag group_tag))

/-- In every group the first required field that is missing is owed. -/
def FirstOwed (arith : Arith) (b : MessageBuilder) (rank : Bytes → List TagU32 → TagU32 → Nat) (data : Bytes) : Prop :=
  ∀ run ∈ runs arith b rank data, ∀ x ∈ (missing run.2 run.1).head?, Owes run.1 run.2 x.1 x.2

section
variable {arith : Arith} {dict : Dictionary} {config : Config} {b : MessageBuilder} {rank : Bytes → List TagU32 → TagU32 → Nat} {data : Bytes}

theorem first_owed_of_enforced (made : new dict config = .ok b) (enforces : EnforcesRequired arith b rank data) : FirstOwed arith b rank data := by
  intro run member x first
  have lacks : Lacks run x.2.get (some x.1.get) := lacks_iff.mpr ⟨x,first,rfl,rfl⟩
  obtain ⟨m,built⟩ := (missing_field_iff made rank).mpr ⟨run,member,lacks⟩
  obtain ⟨run',member',count,lacking,owes,same,same'⟩ := enforces.owed m _ _ built
  have some_missing : missing run.2 run.1 ≠ [] := List.ne_nil_of_mem (List.mem_of_head? first)
  have some_missing' : missing run'.2 run'.1 ≠ [] := List.ne_nil_of_mem owes.missing
  obtain rfl : run = run' := by
    rcases runs_cases arith b rank data with none | ⟨b',spec,layouts,rounds,field,parser,listed⟩
    · rw [none] at member
      cases member
    · rw [listed] at member member'
      exact lacking_unique member member' some_missing some_missing'
  obtain rfl : count = x.1 := tag_get_inj (Option.some.inj same')
  obtain rfl : lacking = x.2 := tag_get_inj same
  exact owes

theorem enforced_of_first_owed (made : new dict config = .ok b) (first_owed : FirstOwed arith b rank data) : EnforcesRequired arith b rank data where
  owed := by
    intro m tag group_tag built
    obtain ⟨run,member,lacks⟩ := (missing_field_iff made rank).mp ⟨m,built⟩
    obtain ⟨x,first,same,same'⟩ := lacks_iff.mp lacks
    exact ⟨run,member,x.1,x.2,first_owed run member x first,same,same'⟩
  rejected := by
    intro run member count lacking owes
    obtain ⟨x,rest,listed⟩ := List.exists_cons_of_ne_nil (List.ne_nil_of_mem owes.missing)
    have lacks : Lacks run x.2.get (some x.1.get) := lacks_iff.mpr ⟨x,by rw [listed]; rfl,rfl,rfl⟩
    obtain ⟨m,built⟩ := (missing_field_iff made rank).mpr ⟨run,member,lacks⟩
    exact ⟨m,_,_,built⟩

end

/-- The builder enforces required fields where the first one that is missing is owed,
    whatever the order in which its maps iterate. -/
theorem required_in_groups_iff (arith : Arith) {dict : Dictionary} {config : Config} {b : MessageBuilder}
    (made : new dict config = .ok b) (rank : Bytes → List TagU32 → TagU32 → Nat) (data : Bytes) : EnforcesRequired arith b rank data ↔ FirstOwed arith b rank data :=
  ⟨first_owed_of_enforced made,enforced_of_first_owed made⟩

end MessageBuilder

/-! ### A group with an optional component -/

namespace OptionalComponent
open MessageBuilder

def PARTY_ROLE : TagU32 := ⟨452,by decide,by decide⟩

def source : ComponentData := ⟨ascii "PartySource",[.Field true 447,.Field false 452]⟩

/-- A group of parties, each with an optional source. -/
def dict : Dictionary where
  fields_by_tags := [BEGIN_STRING.tag,BODY_LENGTH.tag,MSG_TYPE.tag,CHECK_SUM.tag,SmallDictionary.NO_PARTY_IDS,SmallDictionary.PARTY_ID,
    SmallDictionary.PARTY_ID_SOURCE,PARTY_ROLE].map FieldData.of_tag
  components_by_name := [⟨ascii "StandardHeader",[.Field true 8,.Field true 9,.Field true 35]⟩,⟨ascii "StandardTrailer",[.Field true 10]⟩,source]
  messages_by_msgtype := [⟨ascii "B",[.Group false 453 [.Field true 448,.Component false (ascii "PartySource")]]⟩]
  tags_distinct := by decide
  names_distinct := by decide
  msgtypes_distinct := by decide

def builder : MessageBuilder where
  dict := dict
  header_tags := [BEGIN_STRING.tag,BODY_LENGTH.tag,MSG_TYPE.tag]
  trailer_tags := [CHECK_SUM.tag]
  message_specification := [(ascii "B",⟨[⟨SmallDictionary.NO_PARTY_IDS,false⟩],[(SmallDictionary.NO_PARTY_IDS,
    .mk SmallDictionary.NO_PARTY_IDS [⟨SmallDictionary.PARTY_ID,true⟩,⟨SmallDictionary.PARTY_ID_SOURCE,true⟩,⟨PARTY_ROLE,false⟩] [])]⟩)]
  config := ⟨124,true⟩

theorem builder_made : MessageBuilder.new dict ⟨124,true⟩ = .ok builder := rfl

/-- A party with a role. -/
def with_role : Bytes := ascii "8=F|9=23|35=B|453=1|448=A|452=7|10=156|"

/-- The order in which the groups are declared. -/
def declared : Bytes → List TagU32 → TagU32 → Nat := fun _ _ _ => 0

theorem role_enforced : EnforcesRequired .exact builder declared with_role ↔ FirstOwed .exact builder declared with_role :=
  required_in_groups_iff .exact builder_made declared with_role

/-- A party without a source. -/
def bare : Bytes := ascii "8=F|9=17|35=B|453=1|448=A|10=020|"

def lacking (tag group_tag : Nat) : Checked ParsedMessage → Bool
  | .ok (.Invalid _ (.RequiredFieldMissing found count)) => found = tag ∧ count = some group_tag
  | _ => false

theorem lacking_iff {tag group_tag : Nat} {result : Checked ParsedMessage} (found : lacking tag group_tag result = true) :
    ∃ m, result = .ok (.Invalid m (.RequiredFieldMissing tag (some group_tag))) := by
  unfold lacking at found
  split at found
  · obtain ⟨rfl,rfl⟩ := of_decide_eq_true found
    exact ⟨_,rfl⟩
  · cases found

/-- A field of an optional component that is absent is required. -/
theorem absent_component_required : ¬ ∀ (arith : Arith) (dict : Dictionary) (config : Config) (b : MessageBuilder)
    (rank : Bytes → List TagU32 → TagU32 → Nat) (data : Bytes), MessageBuilder.new dict config = .ok b → EnforcesRequired arith b rank data := by
  intro always
  obtain ⟨m,built⟩ : ∃ m, build .exact (builder.hashed declared) bare = .ok (.Invalid m (.RequiredFieldMissing 447 (some 453))) :=
    lacking_iff (by decide +kernel)
  obtain ⟨run,member,count,tag,owes,_⟩ := (always .exact dict _ builder declared bare builder_made).owed m _ _ built
  have nothing : ∀ run ∈ runs .exact builder declared bare, collect (fun e m => e.lacking m && e.due m) run.2 run.1 = [] := by decide +kernel
  have there : (count,tag) ∈ collect (fun e m => e.lacking m && e.due m) run.2 run.1 :=
    owes.collect fun e m lacks due => by rw [lacks,due]; rfl
  rw [nothing run member] at there
  cases there

end OptionalComponent
end HotFix
