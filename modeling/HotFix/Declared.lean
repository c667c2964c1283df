import HotFix.Sections

/-!
Declared fields. A layout declares its own fields, the count fields of its groups,
and what its components declare. The specifications of the builder contain declared
tags only, and so does the body of a valid message; header and trailer take some
fields on trust.
-/
namespace HotFix

/-- The layout declares the tag, itself or through a component. -/
inductive Declared (dict : Dictionary) : List LayoutItemData → TagU32 → Prop where
  | field {items : List LayoutItemData} {required : Bool} {tag : TagU32} (listed : .Field required tag.get ∈ items) :
    Declared dict items tag
  | group {items inner : List LayoutItemData} {required : Bool} {tag : TagU32}
    (listed : .Group required tag.get inner ∈ items) : Declared dict items tag
  | component {items : List LayoutItemData} {required : Bool} {name : Bytes} {c : ComponentData} {tag : TagU32}
    (listed : .Component required name ∈ items) (found : dict.component_by_name name = some c)
    (inside : Declared dict c.layout_items tag) : Declared dict items tag

/-- The layout declares a group of `inner` with this count field. -/
inductive DeclaredGroup (dict : Dictionary) (inner : List LayoutItemData) : List LayoutItemData → TagU32 → Prop where
  | group {items : List LayoutItemData} {required : Bool} {tag : TagU32}
    (listed : .Group required tag.get inner ∈ items) : DeclaredGroup dict inner items tag
  | component {items : List LayoutItemData} {required : Bool} {name : Bytes} {c : ComponentData} {tag : TagU32}
    (listed : .Component required name ∈ items) (found : dict.component_by_name name = some c)
    (inside : DeclaredGroup dict inner c.layout_items tag) : DeclaredGroup dict inner items tag

mutual
/-- The fields of a group specification are those of `items`, and its nested groups
    are declared there with theirs. -/
def Derived (dict : Dictionary) (items : List LayoutItemData) : GroupSpecification → Prop
  | .mk _ fields nested_groups =>
    flat_results (extract_fields dict dict.depth) items = .ok fields ∧ AllDerived dict items nested_groups
def AllDerived (dict : Dictionary) (items : List LayoutItemData) : List (TagU32 × GroupSpecification) → Prop
  | [] => True
  | (tag,spec) :: rest => (∃ inner, DeclaredGroup dict inner items tag ∧ Derived dict inner spec) ∧
      AllDerived dict items rest
end

theorem allDerived_iff {dict : Dictionary} {items : List LayoutItemData} {groups : Groups} :
    AllDerived dict items groups ↔ ∀ g ∈ groups, ∃ inner, DeclaredGroup dict inner items g.1 ∧ Derived dict inner g.2 := by
  induction groups with
  | nil => simp [AllDerived]
  | cons g rest ih =>
    obtain ⟨tag,spec⟩ := g
    simp [AllDerived,ih]

/-! ### What the specifications contain -/

theorem unwrap_ok {α : Type} {x : Option α} {a : α} : unwrap x = .ok a ↔ x = some a := by
  cases x <;> simp [unwrap]

theorem ok_or_ok {α : Type} {x : Option α} {error : ParserError} {a : α} : ok_or error x = .ok a ↔ x = some a := by
  cases x <;> simp [ok_or]

/-- The tag of a field that the dictionary finds. -/
theorem tag_u32_ok {dict : Dictionary} {n : Nat} {field : FieldData} {tag : TagU32}
    (found : dict.field_by_tag n = some field) (converted : field.tag_u32 = .ok tag) : n = tag.get := by
  obtain ⟨_,rfl⟩ := IndexMap.mem_of_get found
  rw [FieldData.tag_u32,unwrap_ok,TagU32.new] at converted
  split_ifs at converted with valid
  cases converted
  rfl

theorem component_name {dict : Dictionary} {name : Bytes} {c : ComponentData}
    (found : dict.component_by_name name = some c) : c.name = name :=
  (IndexMap.mem_of_get found).2

theorem flat_results_mem {α β : Type} {f : α → ParserResult (List β)} {as : List α} {bs : List β}
    (flat : flat_results f as = .ok bs) : ∀ x ∈ bs, ∃ a ∈ as, ∃ xs, f a = .ok xs ∧ x ∈ xs := by
  induction as generalizing bs with
  | nil =>
    cases flat
    simp
  | cons a rest ih =>
    rw [flat_results] at flat
    match result : f a with
    | .error (.Error e) =>
      rw [result] at flat
      intro x member
      obtain ⟨a',inside,found⟩ := ih flat x member
      exact ⟨a',List.mem_cons_of_mem a inside,found⟩
    | .error (.Panic message) =>
      rw [result] at flat
      cases flat
    | .ok xs =>
      rw [result] at flat
      rcases more : flat_results f rest with stop | ys
      · rw [more] at flat
        cases flat
      · rw [more] at flat
        cases flat
        intro x member
        rcases List.mem_append.mp member with here | later
        · exact ⟨a,by simp,xs,result,here⟩
        · obtain ⟨a',inside,found⟩ := ih more x later
          exact ⟨a',List.mem_cons_of_mem a inside,found⟩

/-! ### What a layout item gives -/

theorem field_extracted {dict : Dictionary} {depth tag : Nat} {required : Bool} {fields : List FieldSpecification}
    (extracted : extract_fields dict depth (.Field required tag) = .ok fields) :
    ∃ tag' : TagU32, tag = tag'.get ∧ (dict.field_by_tag tag).isSome = true ∧ fields = [⟨tag',required⟩] := by
  rw [extract_fields] at extracted
  obtain ⟨field,found,extracted⟩ := MessageBuilder.bind_eq_ok.mp extracted
  obtain ⟨tag',converted,extracted⟩ := MessageBuilder.bind_eq_ok.mp extracted
  cases extracted
  rw [unwrap_ok] at found
  exact ⟨tag',tag_u32_ok found converted,by rw [found]; rfl,rfl⟩

theorem count_extracted {dict : Dictionary} {depth tag : Nat} {required : Bool} {inner : List LayoutItemData}
    {fields : List FieldSpecification} (extracted : extract_fields dict depth (.Group required tag inner) = .ok fields) :
    ∃ tag' : TagU32, tag = tag'.get ∧ (dict.field_by_tag tag).isSome = true ∧ fields = [⟨tag',required⟩] := by
  have same : extract_fields dict depth (.Field required tag) = extract_fields dict depth (.Group required tag inner) := by
    rw [extract_fields,extract_fields]
  exact field_extracted (same.trans extracted)

theorem component_extracted {dict : Dictionary} {depth : Nat} {required : Bool} {name : Bytes} {fields : List FieldSpecification}
    (extracted : extract_fields dict depth (.Component required name) = .ok fields) :
    ∃ below component, depth = below + 1 ∧ dict.component_by_name name = some component ∧
      flat_results (extract_fields dict below) component.layout_items = .ok fields := by
  cases depth with
  | zero =>
    rw [extract_fields] at extracted
    cases extracted
  | succ depth =>
    rw [extract_fields] at extracted
    obtain ⟨c,found,extracted⟩ := MessageBuilder.bind_eq_ok.mp extracted
    obtain ⟨component,same,extracted⟩ := MessageBuilder.bind_eq_ok.mp extracted
    rw [unwrap_ok] at found
    rw [ok_or_ok,component_name found,found] at same
    cases same
    exact ⟨depth,c,rfl,found,extracted⟩

theorem extract_fields_declared {dict : Dictionary} {depth : Nat} {items : List LayoutItemData} {item : LayoutItemData}
    {fields : List FieldSpecification} (listed : item ∈ items) (extracted : extract_fields dict depth item = .ok fields) :
    ∀ f ∈ fields, Declared dict items f.tag := by
  induction depth using Nat.strongRecOn generalizing items item fields with
  | ind depth ih =>
    cases item with
    | Field required tag =>
      obtain ⟨tag',rfl,_,rfl⟩ := field_extracted extracted
      simpa using Declared.field listed
    | Group required tag inner =>
      obtain ⟨tag',rfl,_,rfl⟩ := count_extracted extracted
      simpa using Declared.group listed
    | Component required name =>
      obtain ⟨below,component,rfl,found,flat⟩ := component_extracted extracted
      intro f member
      obtain ⟨item,inside,xs,result,member⟩ := flat_results_mem flat f member
      exact .component listed found (ih below (Nat.lt_succ_self below) inside result f member)

theorem layout_fields_declared {dict : Dictionary} {items : List LayoutItemData} {fields : List FieldSpecification}
    (extracted : flat_results (extract_fields dict dict.depth) items = .ok fields) :
    ∀ f ∈ fields, Declared dict items f.tag := by
  intro f member
  obtain ⟨item,listed,xs,result,inside⟩ := flat_results_mem extracted f member
  exact extract_fields_declared listed result f inside

/-- `component` gives derived groups. -/
def ComponentDerived (dict : Dictionary) (component : Bytes → ParserResult Groups) : Prop :=
  ∀ name groups, component name = .ok groups →
    ∃ c, dict.component_by_name name = some c ∧ AllDerived dict c.layout_items groups

theorem AllDerived.nil {dict : Dictionary} {items : List LayoutItemData} : AllDerived dict items [] := trivial

theorem AllDerived.component {dict : Dictionary} {items : List LayoutItemData} {required : Bool} {name : Bytes}
    {c : ComponentData} {groups : Groups} (listed : .Component required name ∈ items)
    (found : dict.component_by_name name = some c) (derived : AllDerived dict c.layout_items groups) :
    AllDerived dict items groups := by
  rw [allDerived_iff] at derived ⊢
  intro g member
  obtain ⟨inner,declared,inside⟩ := derived g member
  exact ⟨inner,.component listed found declared,inside⟩

theorem AllDerived.extend {dict : Dictionary} {items : List LayoutItemData} {groups more : Groups}
    (derived : AllDerived dict items groups) (others : AllDerived dict items more) :
    AllDerived dict items (extend groups more) := by
  rw [allDerived_iff] at derived others ⊢
  intro g member
  rcases IndexMap.mem_insertAll member with inside | inside
  · exact derived g inside
  · exact others g inside

mutual
theorem item_groups_derived {dict : Dictionary} {component : Bytes → ParserResult Groups}
    (sound : ComponentDerived dict component) {items : List LayoutItemData} :
    ∀ {item : LayoutItemData} {groups : Groups}, item ∈ items → item_groups dict component item = .ok groups →
      AllDerived dict items groups
  | .Field required tag,groups,listed,extracted => by
    rw [item_groups] at extracted
    obtain ⟨_,_,extracted⟩ := MessageBuilder.bind_eq_ok.mp extracted
    cases extracted
    trivial
  | .Component required name,groups,listed,extracted => by
    rw [item_groups] at extracted
    obtain ⟨c,found,extracted⟩ := MessageBuilder.bind_eq_ok.mp extracted
    rw [unwrap_ok] at found
    rw [component_name found] at extracted
    obtain ⟨c',found',derived⟩ := sound name groups extracted
    exact derived.component listed found'
  | .Group required tag inner,groups,listed,extracted => by
    rw [item_groups] at extracted
    obtain ⟨len_field,found,extracted⟩ := MessageBuilder.bind_eq_ok.mp extracted
    obtain ⟨nested,recursive,extracted⟩ := MessageBuilder.bind_eq_ok.mp extracted
    obtain ⟨tag',converted,extracted⟩ := MessageBuilder.bind_eq_ok.mp extracted
    obtain ⟨fields,flat,extracted⟩ := MessageBuilder.bind_eq_ok.mp extracted
    cases extracted
    obtain rfl := tag_u32_ok (unwrap_ok.mp found) converted
    exact ⟨⟨inner,.group listed,flat,
      layout_groups_derived sound (fun _ inside => inside) .nil recursive⟩,trivial⟩
theorem layout_groups_derived {dict : Dictionary} {component : Bytes → ParserResult Groups}
    (sound : ComponentDerived dict component) {items : List LayoutItemData} :
    ∀ {layout : List LayoutItemData} {groups result : Groups}, (∀ item ∈ layout, item ∈ items) →
      AllDerived dict items groups → layout_groups dict component groups layout = .ok result →
      AllDerived dict items result
  | [],groups,result,listed,derived,extracted => by
    cases extracted
    exact derived
  | item :: rest,groups,result,listed,derived,extracted => by
    rw [layout_groups] at extracted
    obtain ⟨more,first,extracted⟩ := MessageBuilder.bind_eq_ok.mp extracted
    exact layout_groups_derived sound (fun i inside => listed i (by simp [inside]))
      (derived.extend (item_groups_derived sound (listed item (by simp)) first)) extracted
end

theorem component_groups_derived (dict : Dictionary) (depth : Nat) : ComponentDerived dict (component_groups dict depth) := by
  induction depth with
  | zero =>
    intro name groups extracted
    cases extracted
  | succ depth ih =>
    intro name groups extracted
    rw [component_groups] at extracted
    obtain ⟨c,found,extracted⟩ := MessageBuilder.bind_eq_ok.mp extracted
    exact ⟨c,ok_or_ok.mp found,layout_groups_derived ih (fun _ inside => inside) .nil extracted⟩

/-- A specification of a message is derived from its layout. -/
theorem message_specification_derived {dict : Dictionary} {message : MessageData} {spec : MessageSpecification}
    (specified : build_message_specification dict message = .ok spec) :
    flat_results (extract_fields dict dict.depth) message.layout_items = .ok spec.fields ∧
      AllDerived dict message.layout_items spec.groups := by
  rw [build_message_specification] at specified
  obtain ⟨fields,flat,specified⟩ := MessageBuilder.bind_eq_ok.mp specified
  obtain ⟨groups,extracted,specified⟩ := MessageBuilder.bind_eq_ok.mp specified
  cases specified
  exact ⟨flat,layout_groups_derived (component_groups_derived dict dict.depth) (fun _ inside => inside) .nil extracted⟩

/-! ### The builder of a dictionary -/

theorem mapM_mem {α β : Type} {f : α → ParserResult β} {as : List α} {bs : List β} (mapped : as.mapM f = .ok bs) :
    ∀ b ∈ bs, ∃ a ∈ as, f a = .ok b := by
  induction as generalizing bs with
  | nil =>
    cases mapped
    simp
  | cons a rest ih =>
    rw [List.mapM_cons] at mapped
    obtain ⟨b,first,mapped⟩ := MessageBuilder.bind_eq_ok.mp mapped
    obtain ⟨more,later,mapped⟩ := MessageBuilder.bind_eq_ok.mp mapped
    cases mapped
    intro x member
    rcases List.mem_cons.mp member with rfl | inside
    · exact ⟨a,by simp,first⟩
    · obtain ⟨a',listed,result⟩ := ih later x inside
      exact ⟨a',by simp [listed],result⟩

theorem tags_for_component_declared {dict : Dictionary} {name : Bytes} {tags : List TagU32}
    (collected : get_tags_for_component dict name = .ok tags) :
    ∃ c, dict.component_by_name name = some c ∧ ∀ tag ∈ tags, Declared dict c.layout_items tag := by
  rw [get_tags_for_component] at collected
  obtain ⟨c,found,collected⟩ := MessageBuilder.bind_eq_ok.mp collected
  obtain ⟨lists,mapped,collected⟩ := MessageBuilder.bind_eq_ok.mp collected
  cases collected
  refine ⟨c,ok_or_ok.mp found,?_⟩
  intro tag member
  obtain ⟨direct,inside,here⟩ := List.mem_flatten.mp member
  obtain ⟨item,listed,result⟩ := mapM_mem mapped direct inside
  match item with
  | .Field required n =>
    rw [direct_tag] at result
    obtain ⟨field,resolved,result⟩ := MessageBuilder.bind_eq_ok.mp result
    obtain ⟨tag',converted,result⟩ := MessageBuilder.bind_eq_ok.mp result
    cases result
    obtain rfl := tag_u32_ok (unwrap_ok.mp resolved) converted
    rw [List.mem_singleton] at here
    exact here ▸ .field listed
  | .Group required n inner =>
    obtain ⟨_,_,result⟩ := MessageBuilder.bind_eq_ok.mp result
    cases result
    cases here
  | .Component required component =>
    obtain ⟨_,_,result⟩ := MessageBuilder.bind_eq_ok.mp result
    cases result
    cases here

namespace MessageBuilder

/-- What the builder of a dictionary knows. -/
structure Made (dict : Dictionary) (config : Config) (b : MessageBuilder) (header trailer : ComponentData) : Prop where
  dict_eq : b.dict = dict
  config_eq : b.config = config
  header_found : dict.component_by_name (ascii "StandardHeader") = some header
  trailer_found : dict.component_by_name (ascii "StandardTrailer") = some trailer
  header_tags : ∀ tag, b.is_header_tag tag = true → Declared dict header.layout_items tag
  trailer_tags : ∀ tag, b.is_trailer_tag tag = true → Declared dict trailer.layout_items tag
  specified : ∀ name spec, b.get_message_def name = .ok spec →
    ∃ message, dict.message_by_msgtype name = some message ∧ build_message_specification dict message = .ok spec

theorem made_of_new {dict : Dictionary} {config : Config} {b : MessageBuilder} (made : new dict config = .ok b) :
    ∃ header trailer, Made dict config b header trailer := by
  rw [new] at made
  obtain ⟨header_tags,header_collected,made⟩ := bind_eq_ok.mp made
  obtain ⟨trailer_tags,trailer_collected,made⟩ := bind_eq_ok.mp made
  obtain ⟨specifications,built,made⟩ := bind_eq_ok.mp made
  cases made
  obtain ⟨header,header_found,header_declared⟩ := tags_for_component_declared header_collected
  obtain ⟨trailer,trailer_found,trailer_declared⟩ := tags_for_component_declared trailer_collected
  refine ⟨header,trailer,rfl,rfl,header_found,trailer_found,?_,?_,?_⟩
  · intro tag listed
    exact header_declared tag (by simpa [is_header_tag] using listed)
  · intro tag listed
    exact trailer_declared tag (by simpa [is_trailer_tag] using listed)
  · intro name spec specified
    rw [get_message_def,ok_or_ok,Option.map_eq_some_iff] at specified
    obtain ⟨⟨key,_⟩,found,rfl⟩ := specified
    obtain ⟨member,rfl⟩ := IndexMap.mem_of_get found
    obtain ⟨message,listed,result⟩ := mapM_mem built _ member
    obtain ⟨spec',derived,result⟩ := bind_eq_ok.mp result
    cases result
    exact ⟨message,IndexMap.get_of_mem dict.msgtypes_distinct listed,derived⟩

end MessageBuilder

/-! ### Declared maps -/

mutual
/-- Every field of the map is declared in the layout or exempt, and every entry of a
    group holds what the group declares. -/
def MapDeclared (dict : Dictionary) (exempt : TagU32 → Prop) (items : List LayoutItemData) : FieldMap → Prop
  | .mk fields groups => (∀ f ∈ fields, Declared dict items f.tag ∨ exempt f.tag) ∧ GroupsDeclared dict exempt items groups
def GroupsDeclared (dict : Dictionary) (exempt : TagU32 → Prop) (items : List LayoutItemData) :
    List (TagU32 × List RepeatingGroup) → Prop
  | [] => True
  | (tag,entries) :: rest => (∃ inner, DeclaredGroup dict inner items tag ∧ EntriesDeclared dict exempt inner entries) ∧
      GroupsDeclared dict exempt items rest
def EntriesDeclared (dict : Dictionary) (exempt : TagU32 → Prop) (items : List LayoutItemData) : List RepeatingGroup → Prop
  | [] => True
  | .mk _ _ fields :: rest => MapDeclared dict exempt items fields ∧ EntriesDeclared dict exempt items rest
end

/-- A user-defined tag that the dictionary does not know, while such are not validated. -/
def Exempt (dict : Dictionary) (config : Config) (tag : TagU32) : Prop :=
  config.validate_user_defined_fields = false ∧ USER_DEFINED_TAG_MIN ≤ tag.get ∧ dict.field_by_tag tag.get = none

/-- The message holds declared fields only, each in its section. -/
def OnlyDeclared (dict : Dictionary) (config : Config) (m : Message) : Prop :=
  ∃ header trailer name message,
    dict.component_by_name (ascii "StandardHeader") = some header ∧
    dict.component_by_name (ascii "StandardTrailer") = some trailer ∧
    m.header.get_str MSG_TYPE = some name ∧ dict.message_by_msgtype name = some message ∧
    MapDeclared dict (fun _ => False) header.layout_items m.header ∧
    MapDeclared dict (fun _ => False) trailer.layout_items m.trailer ∧
    MapDeclared dict (Exempt dict config) message.layout_items m.body

theorem groupsDeclared_iff {dict : Dictionary} {exempt : TagU32 → Prop} {items : List LayoutItemData}
    {groups : List (TagU32 × List RepeatingGroup)} : GroupsDeclared dict exempt items groups ↔
      ∀ g ∈ groups, ∃ inner, DeclaredGroup dict inner items g.1 ∧ EntriesDeclared dict exempt inner g.2 := by
  induction groups with
  | nil => simp [GroupsDeclared]
  | cons g rest ih =>
    obtain ⟨tag,entries⟩ := g
    simp [GroupsDeclared,ih]

namespace MapDeclared
variable {dict : Dictionary} {exempt : TagU32 → Prop} {items : List LayoutItemData} {m : FieldMap}

theorem empty : MapDeclared dict exempt items FieldMap.empty := ⟨nofun,trivial⟩

theorem fields (declared : MapDeclared dict exempt items m) : ∀ f ∈ m.fields, Declared dict items f.tag ∨ exempt f.tag := by
  obtain ⟨_,_⟩ := m
  exact declared.1

theorem insert (declared : MapDeclared dict exempt items m) {f : Field} (one : Declared dict items f.tag ∨ exempt f.tag) :
    MapDeclared dict exempt items (m.insert f) := by
  obtain ⟨fields,groups⟩ := m
  refine ⟨?_,declared.2⟩
  intro g member
  rw [FieldMap.insertField_eq] at member
  rcases IndexMap.mem_insert member with rfl | old
  · exact one
  · exact declared.1 g old

theorem insert_groups (declared : MapDeclared dict exempt items m) {tag : TagU32} {entries : List RepeatingGroup}
    {inner : List LayoutItemData} (group : DeclaredGroup dict inner items tag)
    (one : EntriesDeclared dict exempt inner entries) : MapDeclared dict exempt items (m.insert_groups tag entries) := by
  obtain ⟨fields,groups⟩ := m
  refine ⟨declared.1,groupsDeclared_iff.mpr ?_⟩
  intro g member
  rcases IndexMap.mem_insert member with rfl | old
  · exact ⟨inner,group,one⟩
  · exact groupsDeclared_iff.mp declared.2 g old

end MapDeclared

theorem Derived.contains {dict : Dictionary} {items : List LayoutItemData} {spec : GroupSpecification} {tag : TagU32}
    (derived : Derived dict items spec) (listed : spec.contains_tag tag = true) : Declared dict items tag := by
  obtain ⟨_,fields,_⟩ := spec
  obtain ⟨f,member,same⟩ := List.any_eq_true.mp listed
  rw [← of_decide_eq_true same]
  exact layout_fields_declared derived.1 f member

theorem Derived.nested {dict : Dictionary} {items : List LayoutItemData} {spec inner : GroupSpecification} {tag : TagU32}
    (derived : Derived dict items spec) (found : spec.get_nested_group tag = some inner) :
    ∃ inner_items, DeclaredGroup dict inner_items items tag ∧ Derived dict inner_items inner := by
  obtain ⟨_,_,nested_groups⟩ := spec
  obtain ⟨⟨key,_⟩,looked_up,rfl⟩ := Option.map_eq_some_iff.mp found
  obtain ⟨member,rfl⟩ := IndexMap.mem_of_get looked_up
  exact allDerived_iff.mp derived.2 _ member

namespace MessageBuilder
variable {b : MessageBuilder} {dict : Dictionary} {exempt : TagU32 → Prop}

mutual
/-- What the grammar allows in an entry is declared in the group. -/
theorem item_declared (accepts : ∀ tag, b.should_accept_unknown_user_defined tag = true → exempt tag) :
    ∀ {item : Item} {items : List LayoutItemData} {spec : GroupSpecification} {delimiter : TagU32} {idx idx' : Nat}
      {after : Option TagU32} {m : FieldMap}, spec.delimiter_tag = .ok delimiter → Derived dict items spec →
      MapDeclared dict exempt items m → b.ItemStep spec delimiter idx idx' after item →
      MapDeclared dict exempt items (Item.store m item)
  | .plain f,items,spec,delimiter,idx,idx',after,m,first,derived,declared,step => by
    rcases step with ⟨opens,_⟩ | ⟨unknown,_⟩ | ⟨position,listed,_⟩
    · exact declared.insert (.inl (derived.contains (opens ▸ contains_delimiter first)))
    · exact declared.insert (.inr (accepts f.tag unknown.2))
    · exact declared.insert (.inl (derived.contains (declared_of_position listed.2)))
  | .group f inner_delimiter entries,items,spec,delimiter,idx,idx',after,m,first,derived,declared,step => by
    obtain ⟨position,inner,listed,_,nested,inner_first,run,_⟩ := step
    obtain ⟨inner_items,group,inner_derived⟩ := derived.nested nested
    exact (declared.insert (.inl (derived.contains (declared_of_position listed.2)))).insert_groups group
      (entries_declared accepts inner_first inner_derived run)
theorem entry_declared (accepts : ∀ tag, b.should_accept_unknown_user_defined tag = true → exempt tag) :
    ∀ {entry : List Item} {items : List LayoutItemData} {spec : GroupSpecification} {delimiter : TagU32} {idx : Nat}
      {after : Option TagU32} {m : FieldMap}, spec.delimiter_tag = .ok delimiter → Derived dict items spec →
      MapDeclared dict exempt items m → b.EntryItems spec delimiter idx after entry →
      MapDeclared dict exempt items (Item.store_items m entry)
  | [],items,spec,delimiter,idx,after,m,first,derived,declared,steps => declared
  | item :: rest,items,spec,delimiter,idx,after,m,first,derived,declared,steps => by
    obtain ⟨idx',step,steps⟩ := steps
    rw [Item.store_items]
    exact entry_declared accepts first derived (item_declared accepts first derived declared step) steps
theorem entries_declared (accepts : ∀ tag, b.should_accept_unknown_user_defined tag = true → exempt tag) :
    ∀ {entries : List (List Item)} {items : List LayoutItemData} {spec : GroupSpecification} {start_tag delimiter : TagU32}
      {after : Option TagU32}, spec.delimiter_tag = .ok delimiter → Derived dict items spec →
      b.Entries spec delimiter after entries →
      EntriesDeclared dict exempt items (Item.store_entries start_tag delimiter entries)
  | [],items,spec,start_tag,delimiter,after,first,derived,run => trivial
  | entry :: rest,items,spec,start_tag,delimiter,after,first,derived,run => by
    obtain ⟨_,steps,run⟩ := run
    exact ⟨entry_declared accepts first derived .empty steps,entries_declared accepts first derived run⟩
end

/-- What the body of a message takes is declared for the message. -/
theorem body_declared (accepts : ∀ tag, b.should_accept_unknown_user_defined tag = true → exempt tag)
    {layout : List LayoutItemData} {spec : MessageSpecification} {after : Option TagU32} {items : List Item} {m : FieldMap}
    (fields_declared : ∀ f ∈ spec.fields, Declared dict layout f.tag) (derived : AllDerived dict layout spec.groups)
    (declared : MapDeclared dict exempt layout m) (allowed : b.BodyItems spec after items) :
    MapDeclared dict exempt layout (Item.store_items m items) := by
  have contained {tag : TagU32} (listed : spec.contains_tag tag = true) : Declared dict layout tag := by
    obtain ⟨f,member,same⟩ := List.any_eq_true.mp listed
    rw [← of_decide_eq_true same]
    exact fields_declared f member
  induction items generalizing m with
  | nil => exact declared
  | cons item rest ih =>
    obtain ⟨one,allowed⟩ := allowed
    refine ih ?_ allowed
    match item with
    | .plain f =>
      rcases one with ⟨listed,_⟩ | ⟨_,accepted⟩
      · exact declared.insert (.inl (contained listed))
      · exact declared.insert (.inr (accepts f.tag accepted))
    | .group f delimiter entries =>
      obtain ⟨listed,_,group_def,found,first,run,_⟩ := one
      obtain ⟨⟨key,_⟩,looked_up,rfl⟩ := Option.map_eq_some_iff.mp found
      obtain ⟨member,rfl⟩ := IndexMap.mem_of_get looked_up
      obtain ⟨inner,group,inner_derived⟩ := allDerived_iff.mp derived _ member
      exact (declared.insert (.inl (contained listed))).insert_groups group (entries_declared accepts first inner_derived run)

theorem exempt_of_accepted {config : Config} (same_dict : b.dict = dict) (same_config : b.config = config) (tag : TagU32)
    (accepted : b.should_accept_unknown_user_defined tag = true) : Exempt dict config tag := by
  subst same_dict same_config
  simp only [should_accept_unknown_user_defined,is_user_defined,Bool.and_eq_true,Bool.not_eq_true',decide_eq_true_eq,
    Option.isNone_iff_eq_none] at accepted
  exact ⟨accepted.1.1,accepted.1.2,accepted.2⟩

theorem insert_fields_declared {layout : List LayoutItemData} {fields : List Field} :
    MapDeclared dict (fun _ => False) layout (FieldMap.empty.insert_fields fields) ↔
      ∀ f ∈ fields, Declared dict layout f.tag := by
  rw [FieldMap.insert_fields_eq]
  constructor
  · intro declared f member
    -- the tag of every inserted field is still there
    have tags : f.tag ∈ (IndexMap.insertAll Field.tag [] fields).map Field.tag :=
      IndexMap.key_mem_insertAll (.inr (List.mem_map_of_mem member))
    obtain ⟨g,inside,same⟩ := List.mem_map.mp tags
    rw [← same]
    exact (declared.1 g inside).resolve_right id
  · intro all
    refine ⟨fun f member => .inl (all f ?_),trivial⟩
    exact (IndexMap.mem_insertAll member).resolve_left (by simp [FieldMap.empty,FieldMap.fields])

/-- What the builder takes on trust is declared: the fields the integrity check
    reads, and the fields of the trailer section behind its first one. -/
def TrustJustified (arith : Arith) (b : MessageBuilder) (data : Bytes) : Prop :=
  ∃ header trailer,
    b.dict.component_by_name (ascii "StandardHeader") = some header ∧
    b.dict.component_by_name (ascii "StandardTrailer") = some trailer ∧
    Declared b.dict header.layout_items BEGIN_STRING.tag ∧ Declared b.dict header.layout_items BODY_LENGTH.tag ∧
    Declared b.dict header.layout_items MSG_TYPE.tag ∧ Declared b.dict trailer.layout_items CHECK_SUM.tag ∧
    ∀ r, Sectioned arith b data r → ∀ f ∈ r.trailer, Declared b.dict trailer.layout_items f.tag

/-- A valid message holds declared fields only if and only if those the builder
    takes on trust are declared. -/
theorem only_declared_iff {arith : Arith} {config : Config} {data : Bytes} {m : Message} (made : new dict config = .ok b)
    (built : build arith b data = .ok (.Valid m)) : OnlyDeclared dict config m ↔ TrustJustified arith b data := by
  obtain ⟨header,trailer,made⟩ := made_of_new made
  obtain ⟨same_dict,same_config,header_found,trailer_found,header_tags,trailer_tags,specified⟩ := made
  subst same_dict same_config
  constructor
  · rintro ⟨header',trailer',name,message,header_found',trailer_found',_,_,header_declared,trailer_declared,_⟩
    rw [header_found] at header_found'
    rw [trailer_found] at trailer_found'
    cases header_found'
    cases trailer_found'
    obtain ⟨r,⟨p₁,p₂,p₃,p₄,p₅,n,body_end,first_body,first_trailer,name,spec,stop,reads⟩,rfl⟩ := build_valid.mp built
    have header_all := insert_fields_declared.mp header_declared
    have trailer_all := insert_fields_declared.mp trailer_declared
    refine ⟨header,trailer,header_found,trailer_found,?_,?_,?_,?_,?_⟩
    · exact reads.framing.first_tag ▸ header_all r.begin_string (by simp [Reading.header_fields])
    · exact reads.framing.second_tag ▸ header_all r.body_length (by simp [Reading.header_fields])
    · exact reads.framing.third_tag ▸ header_all r.msg_type (by simp [Reading.header_fields])
    · exact reads.framing.last_tag ▸ trailer_all r.checksum (by simp)
    · -- another reading of the same data stores the same message
      intro r' sectioned f member
      have built' := build_valid.mpr ⟨r',sectioned,rfl⟩
      rw [built] at built'
      have same : r.message.trailer = r'.message.trailer := by
        injection built' with built'
        injection built' with built'
        rw [built']
      rw [same] at trailer_declared
      exact insert_fields_declared.mp trailer_declared f (by simp [member])
  · rintro ⟨header',trailer',header_found',trailer_found',first,second,third,last,behind⟩
    rw [header_found] at header_found'
    rw [trailer_found] at trailer_found'
    cases header_found'
    cases trailer_found'
    obtain ⟨r,sectioned,rfl⟩ := build_valid.mp built
    have trailer_all := behind r sectioned
    obtain ⟨p₁,p₂,p₃,p₄,p₅,n,body_end,first_body,first_trailer,name,spec,stop,reads⟩ := sectioned
    obtain ⟨message,known,derived⟩ := specified name spec reads.specified
    obtain ⟨flat,groups_derived⟩ := message_specification_derived derived
    refine ⟨header,trailer,name,message,header_found,trailer_found,reads.named,known,?_,?_,?_⟩
    · refine insert_fields_declared.mpr (fun f member => ?_)
      rcases List.mem_append.mp member with leading | behind
      · simp only [List.mem_cons,List.not_mem_nil,or_false] at leading
        rcases leading with rfl | rfl | rfl
        · exact reads.framing.first_tag ▸ first
        · exact reads.framing.second_tag ▸ second
        · exact reads.framing.third_tag ▸ third
      · exact header_tags f.tag (reads.header_tags f behind)
    · refine insert_fields_declared.mpr (fun f member => ?_)
      rcases List.mem_cons.mp member with rfl | behind
      · exact reads.framing.last_tag ▸ last
      · exact trailer_all f behind
    · exact body_declared (exempt_of_accepted rfl rfl) (layout_fields_declared flat) groups_derived .empty reads.body.items_ok

theorem plain_news_declared : ∃ m, build .exact SmallDictionary.builder (ascii "8=F|9=10|35=B|58=x|10=139|") = .ok (.Valid m) ∧
    (OnlyDeclared SmallDictionary.dict SmallDictionary.config m ↔
      TrustJustified .exact SmallDictionary.builder (ascii "8=F|9=10|35=B|58=x|10=139|")) := by
  obtain ⟨m,built,-⟩ := Checked.valid_of_holds (show (build .exact SmallDictionary.builder
    (ascii "8=F|9=10|35=B|58=x|10=139|")).holds (fun _ => true) = true by decide +kernel)
  exact ⟨m,built,only_declared_iff SmallDictionary.builder_made built⟩

/-- A field that the dictionary does not know is taken into the trailer behind a Signature. -/
theorem undeclared_trailer_field : ¬ ∀ (dict : Dictionary) (config : Config) (b : MessageBuilder) (data : Bytes)
    (m : Message), new dict config = .ok b → build .exact b data = .ok (.Valid m) → OnlyDeclared dict config m := by
  intro declared
  obtain ⟨m,built,known⟩ := Checked.valid_of_holds (show (build .exact SmallDictionary.builder
    (ascii "8=F|9=15|35=B|89=x|17=y|10=046|")).holds (fun m => m.trailer.fields.any (fun f => f.tag.get = 17)) = true by
      decide +kernel)
  obtain ⟨header,trailer,name,message,_,found,_,_,_,trailer_declared,_⟩ :=
    declared SmallDictionary.dict SmallDictionary.config SmallDictionary.builder _ m SmallDictionary.builder_made built
  obtain rfl : SmallDictionary.trailer = trailer := Option.some.inj found
  obtain ⟨f,member,tag⟩ := List.any_eq_true.mp known
  have tag : f.tag.get = 17 := of_decide_eq_true tag
  rcases trailer_declared.fields f member with known | never
  · cases known with
    | field listed => simp [SmallDictionary.trailer,tag] at listed
    | group listed => simp [SmallDictionary.trailer] at listed
    | component listed _ _ => simp [SmallDictionary.trailer] at listed
  · exact never

end MessageBuilder

end HotFix
