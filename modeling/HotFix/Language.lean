import HotFix.Accounting

/-!
The language of repeating groups. A parser whose next fields are a run of entries and a
field that ends it, and no other, has its groups parsed, and what is returned is the run:
every entry with its fields in the order of the wire and the runs of its groups.
-/
namespace HotFix.MessageBuilder
variable {arith : Arith} {b : MessageBuilder}

/-- The fields that a parser reads, up to another parser. -/
inductive Reads (arith : Arith) : Parser → List Field → Parser → Prop where
  | nil (parser : Parser) : Reads arith parser [] parser
  | cons {parser parser' rest : Parser} {field : Field} {fields : List Field}
    (read : parser.next_field arith = .ok (some (field,parser'))) (later : Reads arith parser' fields rest) :
    Reads arith parser (field :: fields) rest

/-- The fields of the parser begin with a run of entries of the group, and then a field
    that is neither declared in the group nor an accepted unknown tag. -/
structure Run (arith : Arith) (b : MessageBuilder) (spec : GroupSpecification) (delimiter : TagU32) (parser : Parser)
    (entries : List (List Item)) (field : Field) (parser' : Parser) : Prop where
  delimited : spec.delimiter_tag = .ok delimiter
  reads : Reads arith parser (Item.flatten_entries entries ++ [field]) parser'
  nonempty : entries ≠ []
  allowed : b.Entries spec delimiter (some field.tag) entries
  ends : ¬ b.Absorbs spec field.tag

/-! ### Trees that are stored as they are -/

mutual
/-- The entries of a run, with nothing replaced. -/
def whole_entries (start_tag delimiter_tag : TagU32) : List (List Item) → List RepeatingGroup
  | [] => []
  | items :: rest => .mk start_tag delimiter_tag (.mk (items.map Item.field) (whole_groups items)) ::
      whole_entries start_tag delimiter_tag rest
/-- The runs of the groups of an entry, by their count fields. -/
def whole_groups : List Item → List (TagU32 × List RepeatingGroup)
  | [] => []
  | .plain _ :: rest => whole_groups rest
  | .group f delimiter entries :: rest => (f.tag,whole_entries f.tag delimiter entries) :: whole_groups rest
end

mutual
/-- The accepted unknown tags of every entry are distinct. -/
def FreshEntries (b : MessageBuilder) : List (List Item) → Prop
  | [] => True
  | items :: rest => ((items.map Item.tag).filter b.should_accept_unknown_user_defined).Nodup ∧ FreshGroups b items ∧
      FreshEntries b rest
def FreshGroups (b : MessageBuilder) : List Item → Prop
  | [] => True
  | .plain _ :: rest => FreshGroups b rest
  | .group _ _ entries :: rest => FreshEntries b entries ∧ FreshGroups b rest
end

/-- The tag of an item of an entry, from a declaration index on. -/
def Placed (b : MessageBuilder) (spec : GroupSpecification) (delimiter : TagU32) (idx : Nat) (tag : TagU32) : Prop :=
  b.Unknown spec tag ∨ ∃ position, DeclaredAt spec delimiter tag position ∧ idx ≤ position

theorem placed_mono {spec : GroupSpecification} {delimiter tag : TagU32} {idx idx' : Nat} (placed : Placed b spec delimiter idx' tag)
    (below : idx ≤ idx') : Placed b spec delimiter idx tag := by
  rcases placed with unknown | ⟨position,declared,ordered⟩
  · exact .inl unknown
  · exact .inr ⟨position,declared,below.trans ordered⟩

/-- An item behind the delimiter has a tag of its own, and those behind it others. -/
theorem item_placed {spec : GroupSpecification} {delimiter : TagU32} {idx idx' : Nat} {after : Option TagU32} {item : Item}
    (opened : 1 ≤ idx) (step : b.ItemStep spec delimiter idx idx' after item) :
    Placed b spec delimiter idx item.tag ∧ idx ≤ idx' ∧
      ∀ tag, Placed b spec delimiter idx' tag → tag = item.tag → b.Unknown spec item.tag := by
  have later {tag : TagU32} {position : Nat} (declared : DeclaredAt spec delimiter tag position)
      (placed : Placed b spec delimiter (position + 1) tag) : b.Unknown spec tag := by
    rcases placed with unknown | ⟨position',declared',ordered⟩
    · exact unknown
    · have same : position = position' := Option.some.inj (declared.2.symm.trans declared'.2)
      omega
  cases item with
  | plain f =>
    rcases step with ⟨_,zero,_⟩ | ⟨unknown,rfl⟩ | ⟨position,declared,ordered,flat,rfl⟩
    · omega
    · exact ⟨.inl unknown,Nat.le_refl _,fun _ _ _ => unknown⟩
    · refine ⟨.inr ⟨position,declared,ordered⟩,by omega,fun tag placed same => later declared (same ▸ placed)⟩
  | group f inner_delimiter entries =>
    obtain ⟨position,inner,declared,ordered,nested,first,run,closed,rfl⟩ := step
    exact ⟨.inr ⟨position,declared,ordered⟩,by omega,fun tag placed same => later declared (same ▸ placed)⟩

/-- Behind the delimiter, every item of an entry has a tag of its own. -/
theorem items_placed {spec : GroupSpecification} {delimiter : TagU32} {idx : Nat} {after : Option TagU32} {items : List Item}
    (opened : 1 ≤ idx) (allowed : b.EntryItems spec delimiter idx after items) :
    ∀ tag ∈ items.map Item.tag, Placed b spec delimiter idx tag := by
  induction items generalizing idx with
  | nil => exact List.forall_mem_nil _
  | cons item rest ih =>
    obtain ⟨idx',step,allowed⟩ := allowed
    obtain ⟨placed,below,_⟩ := item_placed opened step
    rw [List.map_cons]
    exact List.forall_mem_cons.mpr ⟨placed,fun tag member => placed_mono (ih (opened.trans below) allowed tag member) below⟩

theorem placed_other {spec : GroupSpecification} {delimiter tag : TagU32} {idx : Nat} (first : spec.delimiter_tag = .ok delimiter)
    (placed : Placed b spec delimiter idx tag) : tag ≠ delimiter := by
  rintro rfl
  rcases placed with unknown | ⟨position,declared,_⟩
  · rw [Unknown,contains_delimiter first] at unknown
    cases unknown.1
  · exact declared.1 rfl

theorem fresh_tail {item : Item} {rest : List Item}
    (fresh : (((item :: rest).map Item.tag).filter b.should_accept_unknown_user_defined).Nodup) :
    ((rest.map Item.tag).filter b.should_accept_unknown_user_defined).Nodup := by
  rw [List.map_cons,List.filter_cons] at fresh
  split_ifs at fresh
  · exact (List.nodup_cons.mp fresh).2
  · exact fresh

/-- Behind the delimiter, the tags of an entry are distinct. -/
theorem items_distinct {spec : GroupSpecification} {delimiter : TagU32} {idx : Nat} {after : Option TagU32} {items : List Item}
    (opened : 1 ≤ idx) (allowed : b.EntryItems spec delimiter idx after items)
    (fresh : ((items.map Item.tag).filter b.should_accept_unknown_user_defined).Nodup) : (items.map Item.tag).Nodup := by
  induction items generalizing idx with
  | nil => exact List.nodup_nil
  | cons item rest ih =>
    obtain ⟨idx',step,allowed⟩ := allowed
    obtain ⟨_,below,others⟩ := item_placed opened step
    have opened' := opened.trans below
    refine List.nodup_cons.mpr ⟨fun again => ?_,ih opened' allowed (fresh_tail fresh)⟩
    -- only an accepted unknown tag comes back, and those are distinct
    have unknown := others _ (items_placed opened' allowed _ again) rfl
    rw [List.map_cons,List.filter_cons,if_pos unknown.2] at fresh
    exact (List.nodup_cons.mp fresh).1 (List.mem_filter.mpr ⟨again,unknown.2⟩)

/-- The tags of an entry are distinct. -/
theorem entry_distinct {spec : GroupSpecification} {delimiter : TagU32} {after : Option TagU32} {items : List Item}
    {entries : List (List Item)} (first : spec.delimiter_tag = .ok delimiter)
    (allowed : b.Entries spec delimiter after (items :: entries))
    (fresh : ((items.map Item.tag).filter b.should_accept_unknown_user_defined).Nodup) : (items.map Item.tag).Nodup := by
  obtain ⟨f,rest,rfl,tagged,rest_allowed⟩ := entry_opens first allowed
  refine List.nodup_cons.mpr ⟨fun again => ?_,items_distinct (Nat.le_refl 1) rest_allowed (fresh_tail fresh)⟩
  exact placed_other first (items_placed (Nat.le_refl 1) rest_allowed _ again) tagged

theorem pairs_distinct {items : List Item} (distinct : (items.map Item.tag).Nodup) :
    ((items.filterMap Item.pair).map Prod.fst).Nodup := by
  have part : ∀ items : List Item, ((items.filterMap Item.pair).map Prod.fst).Sublist (items.map Item.tag) := by
    intro items
    induction items with
    | nil => exact .slnil
    | cons item rest ih =>
      cases item with
      | plain f => exact .cons _ ih
      | group f delimiter entries => exact .cons_cons _ ih
  exact distinct.sublist (part items)

/-- Of items with distinct tags nothing is replaced. -/
theorem store_distinct {items : List Item} (distinct : (items.map Item.tag).Nodup) :
    Item.store_items FieldMap.empty items = .mk (items.map Item.field) (items.filterMap Item.pair) := by
  have fields : IndexMap.insertAll Field.tag [] (items.map Item.field) = items.map Item.field := by
    refine IndexMap.insertAll_fresh ?_
    rw [List.nil_append,List.map_map]
    exact distinct
  have groups : IndexMap.insertAll Prod.fst [] (items.filterMap Item.pair) = items.filterMap Item.pair := by
    refine IndexMap.insertAll_fresh ?_
    rw [List.nil_append]
    exact pairs_distinct distinct
  rw [Item.store_items_eq]
  exact congrArg₂ FieldMap.mk fields groups

mutual
/-- A run whose unknown tags are distinct in each entry is stored whole. -/
theorem store_entries_whole : ∀ {entries : List (List Item)} {spec : GroupSpecification} {start_tag delimiter : TagU32}
    {after : Option TagU32}, spec.delimiter_tag = .ok delimiter → b.Entries spec delimiter after entries → FreshEntries b entries →
      Item.store_entries start_tag delimiter entries = whole_entries start_tag delimiter entries
  | [],spec,start_tag,delimiter,after,first,allowed,fresh => by rw [Item.store_entries,whole_entries]
  | items :: rest,spec,start_tag,delimiter,after,first,allowed,fresh => by
    rw [FreshEntries] at fresh
    have inside : items.filterMap Item.pair = whole_groups items := groups_whole allowed.2.1 fresh.2.1
    rw [Item.store_entries,whole_entries,store_distinct (entry_distinct first allowed fresh.1),inside,
      store_entries_whole first allowed.2.2 fresh.2.2]
theorem groups_whole : ∀ {items : List Item} {spec : GroupSpecification} {delimiter : TagU32} {idx : Nat} {after : Option TagU32},
    b.EntryItems spec delimiter idx after items → FreshGroups b items → items.filterMap Item.pair = whole_groups items
  | [],spec,delimiter,idx,after,allowed,fresh => by rw [whole_groups]; rfl
  | .plain f :: rest,spec,delimiter,idx,after,allowed,fresh => by
    obtain ⟨idx',_,rest_allowed⟩ := allowed
    rw [FreshGroups] at fresh
    rw [whole_groups,List.filterMap_cons_none rfl]
    exact groups_whole rest_allowed fresh
  | .group f inner_delimiter entries :: rest,spec,delimiter,idx,after,allowed,fresh => by
    obtain ⟨idx',⟨position,inner,_,_,_,first,run,_,_⟩,rest_allowed⟩ := allowed
    rw [FreshGroups] at fresh
    rw [whole_groups,List.filterMap_cons_some (show Item.pair (.group f inner_delimiter entries) = some _ from rfl),
      store_entries_whole first run fresh.1,groups_whole rest_allowed fresh.2]
end

/-! ### What is parsed -/

/-- With a field in hand, a stretch up to the next field is what the parser reads. -/
theorem scan_reads {fields : List Field} {field next : Field} {parser parser' : Parser} :
    Scan arith field parser (field :: fields) (.ahead next parser') ↔ Reads arith parser (fields ++ [next]) parser' := by
  induction fields generalizing field parser with
  | nil =>
    constructor
    · intro scan
      obtain ⟨following,parser₁,read,rest⟩ := scan.tail
      rcases rest.head with ⟨_,same⟩ | ⟨_,same⟩
      · cases same
      · cases same
        exact .cons read (.nil _)
    · intro reads
      cases reads with
      | cons read later =>
        cases later
        exact .next read (.here _ _)
  | cons f rest ih =>
    constructor
    · intro scan
      obtain ⟨following,parser₁,read,behind⟩ := scan.tail
      obtain rfl : f = following := by
        rcases behind.head with ⟨_,same⟩ | ⟨empty,_⟩
        · exact (List.cons.injEq .. ▸ same).1
        · cases empty
      exact .cons read (ih.mp behind)
    · intro reads
      cases reads with
      | cons read later => exact .next read (ih.mpr later)

section Groups
variable {rounds : Nat} {spec : GroupSpecification} {delimiter start_tag : TagU32} {parser parser' : Parser}
  {entries : List (List Item)} {field : Field}

/-- A run is parsed, and what is stored of it returned. -/
theorem run_parsed (inside : parser.position ≤ parser.raw_data.length) (enough : parser.remaining ≤ rounds)
    (run : Run arith b spec delimiter parser entries field parser') :
    parse_groups arith b rounds parser spec start_tag = .ok (Item.store_entries start_tag delimiter entries,field,parser') := by
  have scan : Scan arith ⟨start_tag,[]⟩ parser (⟨start_tag,[]⟩ :: Item.flatten_entries entries) (.ahead field parser') :=
    scan_reads.mpr run.reads
  have closed : b.Closes spec entries (some field.tag) := by
    intro tag ahead
    cases ahead
    exact ⟨run.nonempty,run.ends⟩
  exact enter_groups_complete (group_loop_complete rounds) inside enough run.delimited scan run.allowed closed

/-- What is parsed is a run. -/
theorem parsed_run (inside : parser.position ≤ parser.raw_data.length) (enough : parser.remaining ≤ rounds)
    {groups : List RepeatingGroup} (parsed : parse_groups arith b rounds parser spec start_tag = .ok (groups,field,parser')) :
    ∃ delimiter entries, Run arith b spec delimiter parser entries field parser' := by
  have entered := enter_groups_sound (group_loop_sound rounds : Sound arith b rounds _) spec ⟨start_tag,[]⟩ parser inside enough
  rw [show enter_groups arith (group_loop arith b rounds) spec start_tag parser = _ from parsed] at entered
  rcases entered with ⟨e,failed⟩ | ⟨delimiter,entries,stop,first,scan,allowed,closed,delivered⟩ | ⟨_,message,failed⟩
  · cases failed
  · cases stop with
    | stuck message => cases delivered
    | ended =>
      obtain ⟨text,delivered⟩ := delivered
      cases delivered
    | ahead next parser₁ =>
      cases delivered
      obtain ⟨nonempty,ends⟩ := closed _ rfl
      exact ⟨delimiter,entries,first,scan_reads.mp scan,nonempty,allowed,ends⟩
  · cases failed

/-- Group parsing succeeds on the runs of the group and on nothing else, and returns
    the run with the field that ended it. -/
theorem parse_groups_language (arith : Arith) (b : MessageBuilder) (rounds : Nat) (parser : Parser) (spec : GroupSpecification)
    (start_tag : TagU32) (inside : parser.position ≤ parser.raw_data.length) (enough : parser.remaining ≤ rounds) :
    ((∃ parsed, parse_groups arith b rounds parser spec start_tag = .ok parsed) ↔
      ∃ delimiter entries field parser', Run arith b spec delimiter parser entries field parser') ∧
    ∀ delimiter entries field parser', Run arith b spec delimiter parser entries field parser' → FreshEntries b entries →
      parse_groups arith b rounds parser spec start_tag = .ok (whole_entries start_tag delimiter entries,field,parser') := by
  refine ⟨⟨?_,?_⟩,?_⟩
  · rintro ⟨⟨groups,field,parser'⟩,parsed⟩
    obtain ⟨delimiter,entries,run⟩ := parsed_run inside enough parsed
    exact ⟨delimiter,entries,field,parser',run⟩
  · rintro ⟨delimiter,entries,field,parser',run⟩
    exact ⟨_,run_parsed inside enough run⟩
  · intro delimiter entries field parser' run fresh
    rw [← store_entries_whole run.delimited run.allowed fresh]
    exact run_parsed inside enough run

/-- Behind a count of parties: two entries, the first with a tag that the dictionary does
    not know, and a text. -/
def parties_cursor : Parser := ⟨0,ascii "448=A|5001=y|447=D|448=B|58=x|",⟨124,false⟩⟩

def lenient : MessageBuilder := { SmallDictionary.builder with config := ⟨124,false⟩ }

theorem parties_run : ∃ delimiter entries field parser',
    Run .exact lenient SmallDictionary.parties delimiter parties_cursor entries field parser' :=
  (parse_groups_language .exact lenient 30 parties_cursor SmallDictionary.parties SmallDictionary.NO_PARTY_IDS
    (Nat.zero_le _) (by decide)).1.mp ⟨_,rfl⟩

end Groups

end HotFix.MessageBuilder
