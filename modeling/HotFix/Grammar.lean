import HotFix.Tokens

/-!
The grammar of bodies and repeating groups. A parse is a tree: fields, and count
fields with the entries that follow them. The tree says which fields were read and
what is stored of them; the grammar says which trees a specification allows in
front of a given tag. In front of no tag it allows the trees of a parse that could
not go on.
-/
namespace HotFix

/-- A field of a body or an entry, with its entries when it counts a group. -/
inductive Item where
  | plain (field : Field)
  | group (field : Field) (delimiter : TagU32) (entries : List (List Item))

namespace Item

def field : Item → Field
  | .plain f => f
  | .group f _ _ => f

def tag (item : Item) : TagU32 := item.field.tag

mutual
/-- The fields of a tree, in the order of the wire. -/
def flatten : Item → List Field
  | .plain f => [f]
  | .group f _ entries => f :: flatten_entries entries
def flatten_items : List Item → List Field
  | [] => []
  | item :: rest => flatten item ++ flatten_items rest
def flatten_entries : List (List Item) → List Field
  | [] => []
  | items :: rest => flatten_items items ++ flatten_entries rest
end

mutual
/-- What is stored of a tree. -/
def store (m : FieldMap) : Item → FieldMap
  | .plain f => m.insert f
  | .group f delimiter entries => (m.insert f).insert_groups f.tag (store_entries f.tag delimiter entries)
def store_items (m : FieldMap) : List Item → FieldMap
  | [] => m
  | item :: rest => store_items (store m item) rest
def store_entries (start_tag delimiter_tag : TagU32) : List (List Item) → List RepeatingGroup
  | [] => []
  | items :: rest => .mk start_tag delimiter_tag (store_items FieldMap.empty items) :: store_entries start_tag delimiter_tag rest
end

theorem flatten_head (item : Item) : ∃ rest, item.flatten = item.field :: rest := by
  cases item with
  | plain f => exact ⟨[],by rw [flatten]; rfl⟩
  | group f delimiter entries => exact ⟨flatten_entries entries,by rw [flatten]; rfl⟩

theorem store_entries_tags (start_tag delimiter_tag : TagU32) (entries : List (List Item)) :
    ∀ g ∈ store_entries start_tag delimiter_tag entries, g.start_tag = start_tag ∧ g.delimiter_tag = delimiter_tag := by
  induction entries with
  | nil => simp [store_entries]
  | cons items rest ih =>
    intro g member
    rw [store_entries,List.mem_cons] at member
    rcases member with rfl | member
    · exact ⟨rfl,rfl⟩
    · exact ih g member

/-- The stored entries of a run are accepted as one group. -/
theorem set_groups_store (m : FieldMap) (start_tag delimiter_tag : TagU32) {entries : List (List Item)}
    (nonempty : entries ≠ []) :
    m.set_groups (store_entries start_tag delimiter_tag entries) =
      .ok (m.insert_groups start_tag (store_entries start_tag delimiter_tag entries)) := by
  cases entries with
  | nil => exact absurd rfl nonempty
  | cons items rest =>
    have agree := store_entries_tags start_tag delimiter_tag rest
    simp only [store_entries,FieldMap.set_groups]
    rw [if_pos]
    · rfl
    · rw [List.all_eq_true]
      exact fun g member => decide_eq_true (agree g member)

end Item

/-! ### Trees that a specification allows -/

/-- The tag that comes next: of the first item, else `after`. -/
def following (items : List Item) (after : Option TagU32) : Option TagU32 :=
  match items with
  | [] => after
  | item :: _ => some item.tag

/-- The tag behind the current entry. -/
def next_entry (delimiter : TagU32) (entries : List (List Item)) (after : Option TagU32) : Option TagU32 :=
  match entries with
  | [] => after
  | _ :: _ => some delimiter

mutual
/-- The group and the groups inside it have a first field. -/
def GroupSpecification.NonEmpty : GroupSpecification → Prop
  | .mk _ fields nested_groups => fields ≠ [] ∧ GroupSpecification.NestedNonEmpty nested_groups
def GroupSpecification.NestedNonEmpty : List (TagU32 × GroupSpecification) → Prop
  | [] => True
  | (_,spec) :: rest => spec.NonEmpty ∧ GroupSpecification.NestedNonEmpty rest
end

theorem GroupSpecification.NonEmpty.nested {spec inner : GroupSpecification} {tag : TagU32} (nonempty : spec.NonEmpty)
    (found : spec.get_nested_group tag = some inner) : inner.NonEmpty := by
  obtain ⟨count,fields,nested_groups⟩ := spec
  obtain ⟨⟨key,_⟩,looked_up,rfl⟩ := Option.map_eq_some_iff.mp found
  obtain ⟨member,-⟩ := IndexMap.mem_of_get looked_up
  have all := nonempty.2
  clear found looked_up nonempty
  simp only [GroupSpecification.nested_groups] at member
  induction nested_groups with
  | nil => cases member
  | cons first rest ih =>
    rcases List.mem_cons.mp member with rfl | later
    · exact all.1
    · exact ih later all.2

namespace MessageBuilder
variable (b : MessageBuilder)

/-- A tag that does not end a run of entries. -/
def Absorbs (spec : GroupSpecification) (tag : TagU32) : Prop :=
  spec.contains_tag tag = true ∨ b.should_accept_unknown_user_defined tag = true

/-- A run of entries may end before the tag: there is an entry, and the tag is not
    of the group. -/
def Closes (spec : GroupSpecification) (entries : List (List Item)) (after : Option TagU32) : Prop :=
  ∀ tag ∈ after, entries ≠ [] ∧ ¬ b.Absorbs spec tag

/-- An undeclared tag of an entry. -/
def Unknown (spec : GroupSpecification) (tag : TagU32) : Prop :=
  spec.contains_tag tag = false ∧ b.should_accept_unknown_user_defined tag = true

/-- The tag is declared at `position` of the group, and is not its delimiter. -/
def DeclaredAt (spec : GroupSpecification) (delimiter tag : TagU32) (position : Nat) : Prop :=
  tag ≠ delimiter ∧ spec.fields.findIdx? (fun f => f.tag = tag) = some position

mutual
/-- An item of an entry, from the declaration index `idx` to `idx'`. The delimiter
    stands at index 0 only, so it opens the entry. -/
def ItemStep (spec : GroupSpecification) (delimiter : TagU32) (idx idx' : Nat) (after : Option TagU32) : Item → Prop
  | .plain f =>
    f.tag = delimiter ∧ idx = 0 ∧ idx' = 1 ∨
    b.Unknown spec f.tag ∧ idx' = idx ∨
    ∃ position, DeclaredAt spec delimiter f.tag position ∧ idx ≤ position ∧ spec.get_nested_group f.tag = none ∧
      idx' = position + 1
  | .group f inner_delimiter entries =>
    ∃ position inner, DeclaredAt spec delimiter f.tag position ∧ idx ≤ position ∧
      spec.get_nested_group f.tag = some inner ∧ inner.delimiter_tag = .ok inner_delimiter ∧
      Entries inner inner_delimiter after entries ∧ b.Closes inner entries after ∧ idx' = position + 1
/-- The items of an entry from the declaration index `idx` on. -/
def EntryItems (spec : GroupSpecification) (delimiter : TagU32) (idx : Nat) (after : Option TagU32) : List Item → Prop
  | [] => True
  | item :: items => ∃ idx', ItemStep spec delimiter idx idx' (following items after) item ∧
      EntryItems spec delimiter idx' after items
/-- A run of entries, each from its delimiter on. -/
def Entries (spec : GroupSpecification) (delimiter : TagU32) (after : Option TagU32) : List (List Item) → Prop
  | [] => True
  | items :: entries => following items none = some delimiter ∧
      EntryItems spec delimiter 0 (next_entry delimiter entries after) items ∧ Entries spec delimiter after entries
end

/-! ### The loop reads the trees -/

variable {b} {arith : Arith}

/-- How a parse that stops with these entries or fields is reported. -/
def Delivers {α : Type} (value : α) : Stop → ParserResult (α × Field × Parser) → Prop
  | .ahead field parser,result => result = .ok (value,field,parser)
  | .ended,result => ∃ text, result = .error (.Error (.Malformed text))
  | .stuck message,result => result = .error (.Panic message)

theorem required_field_eq (parser : Parser) (text : String) :
    required_field arith parser text = match parser.next_field arith with
      | .ok (some read) => .ok read
      | .ok none => .error (.Error (.Malformed text))
      | .error message => .error (.Panic message) := by
  rcases read : parser.next_field arith with message | found
  · simp [required_field,read,Checked.lift,bind,Except.bind]
  · cases found <;> simp [required_field,read,Checked.lift,bind,Except.bind,ok_or]

theorem contains_delimiter {spec : GroupSpecification} {delimiter : TagU32} (first : spec.delimiter_tag = .ok delimiter) :
    spec.contains_tag delimiter = true := by
  obtain ⟨count,fields,nested⟩ := spec
  cases fields with
  | nil => cases first
  | cons f rest =>
    cases first
    simp [GroupSpecification.contains_tag,GroupSpecification.fields]

/-- The position of a declared tag. -/
theorem declared_position {spec : GroupSpecification} {tag : TagU32} (declared : spec.contains_tag tag = true) :
    ∃ position, spec.fields.findIdx? (fun f => f.tag = tag) = some position := by
  rw [← Option.isSome_iff_exists,List.findIdx?_isSome]
  exact declared

theorem declared_of_position {spec : GroupSpecification} {tag : TagU32} {position : Nat}
    (found : spec.fields.findIdx? (fun f => f.tag = tag) = some position) : spec.contains_tag tag = true := by
  have there : (spec.fields.findIdx? (fun f => f.tag = tag)).isSome := by
    rw [found]
    rfl
  rwa [List.findIdx?_isSome] at there

abbrev GroupLoop := GroupSpecification → TagU32 → TagU32 → List RepeatingGroup → Option RepeatingGroup → Nat → Field →
  Parser → ParserResult (List RepeatingGroup × Field × Parser)

/-- A delimiter, then the loop. -/
theorem enter_groups_eq {loop : GroupLoop} {spec : GroupSpecification} {delimiter : TagU32}
    (first : spec.delimiter_tag = .ok delimiter) (start_tag : TagU32) (parser : Parser) :
    enter_groups arith loop spec start_tag parser = match parser.next_field arith with
      | .ok (some (field,parser)) =>
        if field.tag = delimiter then loop spec start_tag delimiter [] none 0 field parser
        else .error (.Error (.InvalidGroupFieldOrder field.tag.get spec.number_of_entries_tag.get))
      | .ok none => .error (.Error (.Malformed "missing delimiter field"))
      | .error message => .error (.Panic message) := by
  rw [enter_groups,first,required_field_eq]
  rcases parser.next_field arith with message | _ | ⟨field,parser'⟩
  · rfl
  · rfl
  · by_cases opens : field.tag = delimiter
    · simp [bind,Except.bind,opens]
    · simp [bind,Except.bind,opens]
      rfl

/-- The next field goes on with `again`. -/
def onward {α : Type} (arith : Arith) (text : String) (parser : Parser)
    (again : Field → Parser → ParserResult (α × Field × Parser)) : ParserResult (α × Field × Parser) :=
  match parser.next_field arith with
  | .ok (some (next,parser)) => again next parser
  | .ok none => .error (.Error (.Malformed text))
  | .error message => .error (.Panic message)

theorem onward_eq {α : Type} {text : String} {parser : Parser} {f : Field → Parser → ParserResult (α × Field × Parser)} :
    (do
      let (next,parser) ← required_field arith parser text
      f next parser) = onward arith text parser f := by
  rw [required_field_eq,onward]
  rcases parser.next_field arith with message | _ | ⟨field,parser'⟩ <;> rfl

section Rounds
variable {enter : GroupSpecification → TagU32 → Parser → ParserResult (List RepeatingGroup × Field × Parser)}
  {again : List RepeatingGroup → Option RepeatingGroup → Nat → Field → Parser →
    ParserResult (List RepeatingGroup × Field × Parser)}
  {spec : GroupSpecification} {start_tag delimiter : TagU32} {groups : List RepeatingGroup}
  {current_group : Option RepeatingGroup} {g : RepeatingGroup} {idx position : Nat} {field : Field} {parser : Parser}

theorem round_delimiter (opens : field.tag = delimiter) :
    group_round arith b enter again spec start_tag delimiter groups current_group idx field parser =
      onward arith "incomplete group" parser (again (groups ++ current_group.toList)
        (some ((RepeatingGroup.new_with_tags start_tag delimiter).store_field field)) 1) := by
  rw [group_round,if_pos opens,← onward_eq]

/-- A tag that is declared too early in the group is an error. -/
theorem round_disordered (declared : DeclaredAt spec delimiter field.tag position) (early : position < idx) :
    group_round arith b enter again spec start_tag delimiter groups current_group idx field parser =
      .error (.Error (.InvalidGroupFieldOrder field.tag.get spec.number_of_entries_tag.get)) := by
  rw [group_round,if_neg declared.1,if_pos (declared_of_position declared.2),declared.2]
  simp [bind,Except.bind,expect,early]
  rfl

theorem round_plain (declared : DeclaredAt spec delimiter field.tag position) (ordered : idx ≤ position)
    (flat : spec.get_nested_group field.tag = none) :
    group_round arith b enter again spec start_tag delimiter groups (some g) idx field parser =
      onward arith "incomplete group" parser (again groups (some (g.store_field field)) (position + 1)) := by
  rw [group_round,if_neg declared.1,if_pos (declared_of_position declared.2),declared.2,flat,← onward_eq]
  simp [bind,Except.bind,expect,Nat.not_lt.mpr ordered]

/-- A nested group, whose entries are set when they have been read. -/
theorem round_group {inner : GroupSpecification} (declared : DeclaredAt spec delimiter field.tag position)
    (ordered : idx ≤ position) (nested : spec.get_nested_group field.tag = some inner) :
    group_round arith b enter again spec start_tag delimiter groups (some g) idx field parser =
      match enter inner field.tag parser with
      | .ok (nested_groups,next,parser) =>
        match (g.store_field field).get_fields.set_groups nested_groups with
        | .ok fields => again groups (some (.mk g.start_tag g.delimiter_tag fields)) (position + 1) next parser
        | .error _ =>
          .error (.Panic "parse_groups yields a non-empty run of entries sharing one start and delimiter tag")
      | .error stop => .error stop := by
  rw [group_round,if_neg declared.1,if_pos (declared_of_position declared.2),declared.2,nested]
  simp only [bind,Except.bind,expect,Nat.not_lt.mpr ordered,if_false]
  rcases enter inner field.tag parser with stop | ⟨nested_groups,next,parser'⟩
  · rfl
  · rfl

theorem round_unknown (unknown : b.Unknown spec field.tag) (other : field.tag ≠ delimiter) :
    group_round arith b enter again spec start_tag delimiter groups (some g) idx field parser =
      onward arith "incomplete group" parser (again groups (some (g.store_field field)) idx) := by
  rw [group_round,if_neg other,if_neg (by simp [unknown.1]),if_pos unknown.2,← onward_eq]
  rfl

theorem round_end (other : field.tag ≠ delimiter) (outside : ¬ b.Absorbs spec field.tag) :
    group_round arith b enter again spec start_tag delimiter groups current_group idx field parser =
      .ok (groups ++ current_group.toList,field,parser) := by
  rw [Absorbs,not_or] at outside
  rw [group_round,if_neg other,if_neg outside.1,if_neg outside.2]
  rfl

end Rounds

/-- The tag in hand is the one the tree goes on with. -/
theorem following_of_scan {spec : GroupSpecification} {delimiter : TagU32} {field : Field} {parser : Parser} {stop : Stop}
    {items : List Item} {entries : List (List Item)}
    (scan : Scan arith field parser (Item.flatten_items items ++ Item.flatten_entries entries) stop)
    (run : b.Entries spec delimiter stop.tag entries) :
    following items (next_entry delimiter entries stop.tag) = some field.tag := by
  have first (item : Item) (items : List Item) (rest : List Field)
      (scan : Scan arith field parser (Item.flatten_items (item :: items) ++ rest) stop) : item.tag = field.tag := by
    obtain ⟨more,flat⟩ := item.flatten_head
    rw [Item.flatten_items,flat] at scan
    rcases scan.head with ⟨tail,same⟩ | ⟨empty,_⟩
    · simp only [List.cons_append,List.cons.injEq] at same
      rw [Item.tag,same.1]
    · cases empty
  match items,entries with
  | item :: items,entries => exact congrArg some (first item items _ scan)
  | [],[] =>
    rcases scan.head with ⟨tail,same⟩ | ⟨_,rfl⟩
    · cases same
    · rfl
  | [],[] :: entries => cases run.1
  | [],(item :: items) :: entries =>
    have opened : item.tag = delimiter := Option.some.inj run.1
    rw [Item.flatten_items,List.nil_append,Item.flatten_entries] at scan
    exact congrArg some (opened.symm.trans (first item items _ scan))

/-- The entry in hand, with further items. -/
def closing (current_group : Option RepeatingGroup) (items : List Item) : List RepeatingGroup :=
  current_group.toList.map (fun g => .mk g.start_tag g.delimiter_tag (Item.store_items g.get_fields items))

theorem closing_nil (current_group : Option RepeatingGroup) : closing current_group [] = current_group.toList := by
  cases current_group with
  | none => rfl
  | some g => obtain ⟨_,_,_⟩ := g; rfl

/-- A tree that a parse has followed from the field in hand to where it stands. The
    items complete the entry in hand, the entries are those behind it. -/
structure Parse (arith : Arith) (b : MessageBuilder) (spec : GroupSpecification) (delimiter : TagU32) (idx : Nat)
    (field : Field) (parser : Parser) (items : List Item) (entries : List (List Item)) (stop : Stop) : Prop where
  scan : Scan arith field parser (Item.flatten_items items ++ Item.flatten_entries entries) stop
  items_ok : b.EntryItems spec delimiter idx (next_entry delimiter entries stop.tag) items
  entries_ok : b.Entries spec delimiter stop.tag entries
  closes : ∀ tag ∈ stop.tag, ¬ b.Absorbs spec tag

namespace Parse
variable {spec : GroupSpecification} {delimiter : TagU32} {idx idx' : Nat} {field next : Field} {parser parser' : Parser}
  {items : List Item} {entries : List (List Item)} {stop : Stop}

/-- The delimiter ends the entry in hand and opens another one. -/
theorem delimiter_first (opens : field.tag = delimiter) (read : parser.next_field arith = .ok (some (next,parser')))
    (rest : Parse arith b spec delimiter 1 next parser' items entries stop) :
    Parse arith b spec delimiter idx field parser [] ((.plain field :: items) :: entries) stop where
  scan := by
    simpa [Item.flatten_items,Item.flatten_entries,Item.flatten] using Scan.next read rest.scan
  items_ok := trivial
  entries_ok := ⟨congrArg some opens,⟨1,.inl ⟨opens,rfl,rfl⟩,rest.items_ok⟩,rest.entries_ok⟩
  closes := rest.closes

/-- One more field of the entry in hand. -/
theorem plain_first (read : parser.next_field arith = .ok (some (next,parser')))
    (rest : Parse arith b spec delimiter idx' next parser' items entries stop)
    (step : ∀ after, b.ItemStep spec delimiter idx idx' after (.plain field)) :
    Parse arith b spec delimiter idx field parser (.plain field :: items) entries stop where
  scan := by
    simpa [Item.flatten_items,Item.flatten] using Scan.next read rest.scan
  items_ok := ⟨idx',step _,rest.items_ok⟩
  entries_ok := rest.entries_ok
  closes := rest.closes

/-- One more group of the entry in hand; `inside` are the fields of its entries. -/
theorem group_first {inner_delimiter : TagU32} {inside : List (List Item)} {opening : Field}
    {parser₁ : Parser} (read : parser.next_field arith = .ok (some (opening,parser₁)))
    (nested : Scan arith opening parser₁ (Item.flatten_entries inside) (.ahead next parser'))
    (rest : Parse arith b spec delimiter idx' next parser' items entries stop)
    (step : b.ItemStep spec delimiter idx idx' (some next.tag) (.group field inner_delimiter inside)) :
    Parse arith b spec delimiter idx field parser (.group field inner_delimiter inside :: items) entries stop where
  scan := by
    simpa [Item.flatten_items,Item.flatten] using Scan.next read (nested.trans rest.scan)
  items_ok := by
    refine ⟨idx',?_,rest.items_ok⟩
    rw [following_of_scan rest.scan rest.entries_ok]
    exact step
  entries_ok := rest.entries_ok
  closes := rest.closes

/-- Reading stops behind a field of the entry in hand. -/
theorem plain_last (scan : Scan arith field parser [field] stop) (off : stop.tag = none)
    (step : ∀ after, b.ItemStep spec delimiter idx idx' after (.plain field)) :
    Parse arith b spec delimiter idx field parser [.plain field] [] stop where
  scan := by simpa [Item.flatten_items,Item.flatten_entries,Item.flatten] using scan
  items_ok := ⟨idx',step _,trivial⟩
  entries_ok := trivial
  closes := by simp [off]

/-- Reading stops inside a group of the entry in hand. -/
theorem group_last {inner_delimiter : TagU32} {inside : List (List Item)}
    (scan : Scan arith field parser (field :: Item.flatten_entries inside) stop) (off : stop.tag = none)
    (step : b.ItemStep spec delimiter idx idx' none (.group field inner_delimiter inside)) :
    Parse arith b spec delimiter idx field parser [.group field inner_delimiter inside] [] stop where
  scan := by simpa [Item.flatten_items,Item.flatten_entries,Item.flatten] using scan
  items_ok := ⟨idx',by simpa [following,next_entry,off] using step,trivial⟩
  entries_ok := trivial
  closes := by simp [off]

end Parse

/-- What the loop may do from a state: report an error, follow a tree, or meet a
    group without fields. -/
def Followed (arith : Arith) (b : MessageBuilder) (spec : GroupSpecification) (start_tag delimiter : TagU32)
    (groups : List RepeatingGroup) (current_group : Option RepeatingGroup) (idx : Nat) (field : Field) (parser : Parser)
    (result : ParserResult (List RepeatingGroup × Field × Parser)) : Prop :=
  (∃ e, result = .error (.Error e)) ∨
  (∃ items entries stop, Parse arith b spec delimiter idx field parser items entries stop ∧
    (current_group = none → items = []) ∧
    Delivers (groups ++ closing current_group items ++ Item.store_entries start_tag delimiter entries) stop result) ∨
  ¬ spec.NonEmpty ∧ ∃ message, result = .error (.Panic message)

namespace Followed
variable {spec : GroupSpecification} {start_tag delimiter : TagU32} {groups : List RepeatingGroup} {idx idx' : Nat}
  {field next : Field} {parser parser' : Parser} {result : ParserResult (List RepeatingGroup × Field × Parser)}

theorem delimiter_first {current_group : Option RepeatingGroup} (opens : field.tag = delimiter)
    (read : parser.next_field arith = .ok (some (next,parser')))
    (rest : Followed arith b spec start_tag delimiter (groups ++ current_group.toList)
      (some ((RepeatingGroup.new_with_tags start_tag delimiter).store_field field)) 1 next parser' result) :
    Followed arith b spec start_tag delimiter groups current_group idx field parser result := by
  rcases rest with failed | ⟨items,entries,stop,parse,_,delivered⟩ | empty
  · exact .inl failed
  · refine .inr (.inl ⟨[],(.plain field :: items) :: entries,stop,parse.delimiter_first opens read,fun _ => rfl,?_⟩)
    rw [closing_nil]
    simpa [closing,Item.store_entries,Item.store_items,Item.store,RepeatingGroup.new_with_tags,RepeatingGroup.store_field,
      RepeatingGroup.start_tag,RepeatingGroup.delimiter_tag,RepeatingGroup.get_fields] using delivered
  · exact .inr (.inr empty)

theorem plain_first {g : RepeatingGroup} (read : parser.next_field arith = .ok (some (next,parser')))
    (rest : Followed arith b spec start_tag delimiter groups (some (g.store_field field)) idx' next parser' result)
    (step : ∀ after, b.ItemStep spec delimiter idx idx' after (.plain field)) :
    Followed arith b spec start_tag delimiter groups (some g) idx field parser result := by
  rcases rest with failed | ⟨items,entries,stop,parse,_,delivered⟩ | empty
  · exact .inl failed
  · exact .inr (.inl ⟨.plain field :: items,entries,stop,parse.plain_first read step,nofun,delivered⟩)
  · exact .inr (.inr empty)

theorem group_first {g : RepeatingGroup} {inner_delimiter : TagU32} {inside : List (List Item)} {opening : Field}
    {parser₁ : Parser} (read : parser.next_field arith = .ok (some (opening,parser₁)))
    (nested : Scan arith opening parser₁ (Item.flatten_entries inside) (.ahead next parser'))
    (rest : Followed arith b spec start_tag delimiter groups
      (some (.mk g.start_tag g.delimiter_tag (Item.store g.get_fields (.group field inner_delimiter inside))))
      idx' next parser' result)
    (step : b.ItemStep spec delimiter idx idx' (some next.tag) (.group field inner_delimiter inside)) :
    Followed arith b spec start_tag delimiter groups (some g) idx field parser result := by
  rcases rest with failed | ⟨items,entries,stop,parse,_,delivered⟩ | empty
  · exact .inl failed
  · exact .inr (.inl ⟨.group field inner_delimiter inside :: items,entries,stop,parse.group_first read nested step,nofun,
      delivered⟩)
  · exact .inr (.inr empty)

/-- A panic behind a field of the entry in hand. -/
theorem plain_stuck {g : RepeatingGroup} {message : String} (panics : parser.next_field arith = .error message)
    (step : ∀ after, b.ItemStep spec delimiter idx idx' after (.plain field)) :
    Followed arith b spec start_tag delimiter groups (some g) idx field parser (.error (.Panic message)) :=
  .inr (.inl ⟨[.plain field],[],.stuck message,.plain_last (.stuck panics) rfl step,nofun,rfl⟩)

end Followed

/-- An entry is open, or the delimiter is about to open the first one. -/
def Opened (delimiter : TagU32) (current_group : Option RepeatingGroup) (field : Field) : Prop :=
  current_group = none → field.tag = delimiter

/-- A loop that follows trees while less than `rounds` bytes are left. -/
def Sound (arith : Arith) (b : MessageBuilder) (rounds : Nat) (loop : GroupLoop) : Prop :=
  ∀ spec start_tag delimiter groups current_group idx field parser,
    spec.delimiter_tag = .ok delimiter → Opened delimiter current_group field →
    parser.position ≤ parser.raw_data.length → parser.remaining < rounds →
    Followed arith b spec start_tag delimiter groups current_group idx field parser
      (loop spec start_tag delimiter groups current_group idx field parser)

/-- What `parse_groups` may do behind a count field: report an error, follow the
    entries of a tree, or meet a group without fields. -/
def Entered (arith : Arith) (b : MessageBuilder) (spec : GroupSpecification) (field : Field) (parser : Parser)
    (result : ParserResult (List RepeatingGroup × Field × Parser)) : Prop :=
  (∃ e, result = .error (.Error e)) ∨
  (∃ delimiter entries stop, spec.delimiter_tag = .ok delimiter ∧
    Scan arith field parser (field :: Item.flatten_entries entries) stop ∧
    b.Entries spec delimiter stop.tag entries ∧ b.Closes spec entries stop.tag ∧
    Delivers (Item.store_entries field.tag delimiter entries) stop result) ∨
  ¬ spec.NonEmpty ∧ ∃ message, result = .error (.Panic message)

theorem enter_groups_sound {loop : GroupLoop} {rounds : Nat} (sound : Sound arith b rounds loop)
    (spec : GroupSpecification) (field : Field) (parser : Parser) (inside : parser.position ≤ parser.raw_data.length)
    (enough : parser.remaining ≤ rounds) :
    Entered arith b spec field parser (enter_groups arith loop spec field.tag parser) := by
  rcases first : spec.delimiter_tag with stop | delimiter
  · -- no first field
    obtain ⟨count,fields,nested⟩ := spec
    cases fields with
    | nil => exact .inr (.inr ⟨fun nonempty => nonempty.1 rfl,"groups always have at least one field",rfl⟩)
    | cons f rest => cases first
  · rw [enter_groups_eq first]
    rcases read : parser.next_field arith with message | _ | ⟨opening,parser'⟩
    · exact .inr (.inl ⟨delimiter,[],.stuck message,first,.stuck read,trivial,nofun,rfl⟩)
    · exact .inl ⟨_,rfl⟩
    · by_cases opens : opening.tag = delimiter
      · have inside' := (Parser.next_field_moves inside read).2.2.2
        have less := Parser.next_field_remaining inside read
        simp only [opens,if_true]
        rcases sound spec field.tag delimiter [] none 0 opening parser' first (fun _ => opens) inside' (by omega) with
          failed | ⟨items,entries,stop,parse,nothing,delivered⟩ | empty
        · exact .inl failed
        · obtain rfl := nothing rfl
          refine .inr (.inl ⟨delimiter,entries,stop,first,.next read parse.scan,parse.entries_ok,?_,delivered⟩)
          -- the delimiter that was read belongs to the run, so there is an entry
          rintro tag ahead
          refine ⟨?_,parse.closes tag ahead⟩
          rintro rfl
          rcases parse.scan.head with ⟨_,same⟩ | ⟨_,rfl⟩
          · cases same
          · exact parse.closes _ rfl (.inl (opens ▸ contains_delimiter first))
        · exact .inr (.inr empty)
      · exact .inl ⟨_,if_neg opens⟩

/-- One more field of the entry in hand, then the loop. -/
theorem onward_sound {loop : GroupLoop} {rounds : Nat} (sound : Sound arith b rounds loop) {spec : GroupSpecification}
    {start_tag delimiter : TagU32} {groups : List RepeatingGroup} {g : RepeatingGroup} {idx idx' : Nat} {field : Field}
    {parser : Parser} (first : spec.delimiter_tag = .ok delimiter) (inside : parser.position ≤ parser.raw_data.length)
    (enough : parser.remaining ≤ rounds) (step : ∀ after, b.ItemStep spec delimiter idx idx' after (.plain field)) :
    Followed arith b spec start_tag delimiter groups (some g) idx field parser
      (onward arith "incomplete group" parser (loop spec start_tag delimiter groups (some (g.store_field field)) idx')) := by
  rw [onward]
  rcases read : parser.next_field arith with message | _ | ⟨next,parser'⟩
  · exact .plain_stuck read step
  · exact .inl ⟨_,rfl⟩
  · have inside' := (Parser.next_field_moves inside read).2.2.2
    have less := Parser.next_field_remaining inside read
    exact .plain_first read (sound spec start_tag delimiter _ _ idx' next parser' first nofun inside' (by omega)) step

/-- A nested group of the entry in hand, then the loop. -/
theorem nested_sound {loop : GroupLoop} {rounds : Nat} (sound : Sound arith b rounds loop)
    {spec inner : GroupSpecification} {start_tag delimiter : TagU32} {groups : List RepeatingGroup} {g : RepeatingGroup}
    {idx position : Nat} {field : Field} {parser : Parser} (first : spec.delimiter_tag = .ok delimiter)
    (inside : parser.position ≤ parser.raw_data.length) (enough : parser.remaining ≤ rounds)
    (declared : DeclaredAt spec delimiter field.tag position) (ordered : idx ≤ position)
    (nested : spec.get_nested_group field.tag = some inner) :
    Followed arith b spec start_tag delimiter groups (some g) idx field parser
      (match enter_groups arith loop inner field.tag parser with
      | .ok (nested_groups,next,parser) =>
        match (g.store_field field).get_fields.set_groups nested_groups with
        | .ok fields => loop spec start_tag delimiter groups (some (.mk g.start_tag g.delimiter_tag fields)) (position + 1)
            next parser
        | .error _ =>
          .error (.Panic "parse_groups yields a non-empty run of entries sharing one start and delimiter tag")
      | .error stop => .error stop) := by
  rcases enter_groups_sound sound inner field parser inside enough with
    ⟨e,failed⟩ | ⟨inner_delimiter,entries,stop,inner_first,scan,run,closed,delivered⟩ | ⟨empty,message,failed⟩
  · rw [failed]
    exact .inl ⟨e,rfl⟩
  · have step : b.ItemStep spec delimiter idx (position + 1) stop.tag (.group field inner_delimiter entries) :=
      ⟨position,inner,declared,ordered,nested,inner_first,run,closed,rfl⟩
    match stop with
    | .stuck message =>
      rw [show enter_groups arith loop inner field.tag parser = .error (.Panic message) from delivered]
      exact .inr (.inl ⟨[.group field inner_delimiter entries],[],.stuck message,.group_last scan rfl step,nofun,rfl⟩)
    | .ended =>
      obtain ⟨text,delivered⟩ := delivered
      rw [delivered]
      exact .inl ⟨_,rfl⟩
    | .ahead next parser' =>
      rw [show enter_groups arith loop inner field.tag parser = _ from delivered]
      have onward := scan.onward inside
      have less := Scan.tail_remaining inside scan
      obtain ⟨opening,parser₁,read,inner_scan⟩ := scan.tail
      dsimp only
      rw [Item.set_groups_store _ field.tag inner_delimiter (closed next.tag rfl).1]
      refine .group_first read inner_scan ?_ step
      exact sound spec start_tag delimiter _ _ (position + 1) next parser' first nofun onward.inside (by omega)
  · rw [failed]
    exact .inr (.inr ⟨fun nonempty => empty (nonempty.nested nested),message,rfl⟩)

/-- With rounds for the bytes that are left, the loop follows a tree or reports an error. -/
theorem group_loop_sound (rounds : Nat) : Sound arith b rounds (group_loop arith b rounds) := by
  induction rounds with
  | zero => intro _ _ _ _ _ _ _ _ _ _ _ enough; omega
  | succ rounds ih =>
    intro spec start_tag delimiter groups current_group idx field parser first opened inside enough
    rw [group_loop]
    by_cases opens : field.tag = delimiter
    · rw [round_delimiter opens,onward]
      rcases read : parser.next_field arith with message | _ | ⟨next,parser'⟩
      · refine .inr (.inl ⟨[],[[.plain field]],.stuck message,⟨?_,trivial,?_,by simp [Stop.tag]⟩,fun _ => rfl,?_⟩)
        · simpa [Item.flatten_items,Item.flatten_entries,Item.flatten] using Scan.stuck read
        · exact ⟨congrArg some opens,⟨1,.inl ⟨opens,rfl,rfl⟩,trivial⟩,trivial⟩
        · rfl
      · exact .inl ⟨_,rfl⟩
      · have inside' := (Parser.next_field_moves inside read).2.2.2
        have less := Parser.next_field_remaining inside read
        refine .delimiter_first opens read ?_
        exact ih spec start_tag delimiter _ _ 1 next parser' first nofun inside' (by omega)
    · obtain ⟨g,rfl⟩ : ∃ g, current_group = some g := by
        cases current_group with
        | none => exact absurd (opened rfl) opens
        | some g => exact ⟨g,rfl⟩
      by_cases declared : spec.contains_tag field.tag = true
      · obtain ⟨position,found⟩ := declared_position declared
        by_cases ordered : idx ≤ position
        · cases nested : spec.get_nested_group field.tag with
          | none =>
            rw [round_plain ⟨opens,found⟩ ordered nested]
            exact onward_sound ih first inside (by omega)
              (fun _ => .inr (.inr ⟨position,⟨opens,found⟩,ordered,nested,rfl⟩))
          | some inner =>
            rw [round_group ⟨opens,found⟩ ordered nested]
            exact nested_sound ih first inside (by omega) ⟨opens,found⟩ ordered nested
        · rw [round_disordered ⟨opens,found⟩ (by omega)]
          exact .inl ⟨_,rfl⟩
      · by_cases accepted : b.should_accept_unknown_user_defined field.tag = true
        · have unknown : b.Unknown spec field.tag := ⟨by simpa using declared,accepted⟩
          rw [round_unknown unknown opens]
          exact onward_sound ih first inside (by omega) (fun _ => .inr (.inl ⟨unknown,rfl⟩))
        · have outside : ¬ b.Absorbs spec field.tag := by simp [Absorbs,declared,accepted]
          rw [round_end opens outside]
          refine .inr (.inl ⟨[],[],.ahead field parser,⟨.here field parser,trivial,trivial,?_⟩,nofun,?_⟩)
          · rintro tag ahead
            cases ahead
            exact outside
          · rw [closing_nil]
            simp [Delivers,Item.store_entries]

/-! ### Every tree is read -/

/-- A loop that reads every tree with less than `rounds` bytes left to it. -/
def Complete (arith : Arith) (b : MessageBuilder) (rounds : Nat) (loop : GroupLoop) : Prop :=
  ∀ spec start_tag delimiter groups current_group idx field parser items entries stop,
    spec.delimiter_tag = .ok delimiter → (current_group = none → items = [] ∧ field.tag = delimiter) →
    (current_group ≠ none → 1 ≤ idx) → parser.position ≤ parser.raw_data.length → parser.remaining < rounds →
    Parse arith b spec delimiter idx field parser items entries stop →
    Delivers (groups ++ closing current_group items ++ Item.store_entries start_tag delimiter entries) stop
      (loop spec start_tag delimiter groups current_group idx field parser)

/-- The result of going on is delivered when the rest of the tree is. -/
theorem onward_delivers {α : Type} {value : α} {text : String} {field : Field} {parser : Parser} {rest : List Field}
    {stop : Stop} {again : Field → Parser → ParserResult (α × Field × Parser)}
    (scan : Scan arith field parser (field :: rest) stop)
    (delivered : ∀ next parser', parser.next_field arith = .ok (some (next,parser')) →
      Scan arith next parser' rest stop → Delivers value stop (again next parser')) :
    Delivers value stop (onward arith text parser again) := by
  generalize whole : field :: rest = all at scan
  cases scan with
  | here => cases whole
  | ended none_left =>
    rw [onward,none_left]
    exact ⟨_,rfl⟩
  | stuck panics =>
    rw [onward,panics]
    rfl
  | next read scan =>
    rw [List.cons.injEq] at whole
    rw [onward,read]
    exact delivered _ _ read (whole.2 ▸ scan)

/-- An entry opens with its delimiter, as a field of its own. -/
theorem entry_opens {spec : GroupSpecification} {delimiter : TagU32} {after : Option TagU32} {items : List Item}
    {entries : List (List Item)} (first : spec.delimiter_tag = .ok delimiter)
    (run : b.Entries spec delimiter after (items :: entries)) :
    ∃ f rest, items = .plain f :: rest ∧ f.tag = delimiter ∧
      b.EntryItems spec delimiter 1 (next_entry delimiter entries after) rest := by
  obtain ⟨opens,items_ok,-⟩ := run
  match items with
  | [] => cases opens
  | .plain f :: rest =>
    have tag : f.tag = delimiter := Option.some.inj opens
    obtain ⟨idx',⟨_,_,rfl⟩ | ⟨unknown,_⟩ | ⟨position,declared,_⟩,rest_ok⟩ := items_ok
    · exact ⟨f,rest,rfl,tag,rest_ok⟩
    · rw [tag,Unknown,contains_delimiter first] at unknown
      cases unknown.1
    · exact absurd tag declared.1
  | .group f inner_delimiter inside :: rest =>
    obtain ⟨idx',⟨position,inner,declared,_⟩,_⟩ := items_ok
    exact absurd (Option.some.inj opens) declared.1

/-- A tree without fields is empty. -/
theorem empty_of_flatten {spec : GroupSpecification} {delimiter : TagU32} {after : Option TagU32} {items : List Item}
    {entries : List (List Item)} (run : b.Entries spec delimiter after entries)
    (flat : Item.flatten_items items ++ Item.flatten_entries entries = []) : items = [] ∧ entries = [] := by
  rw [List.append_eq_nil_iff] at flat
  constructor
  · cases items with
    | nil => rfl
    | cons item rest =>
      obtain ⟨more,head⟩ := item.flatten_head
      rw [Item.flatten_items,head] at flat
      cases flat.1
  · match entries with
    | [] => rfl
    | [] :: _ => cases run.1
    | (item :: items) :: rest =>
      obtain ⟨more,head⟩ := item.flatten_head
      rw [Item.flatten_entries,Item.flatten_items,head] at flat
      cases flat.2

theorem enter_groups_complete {loop : GroupLoop} {rounds : Nat} (complete : Complete arith b rounds loop)
    {spec : GroupSpecification} {delimiter : TagU32} {field : Field} {parser : Parser} {entries : List (List Item)}
    {stop : Stop} (inside : parser.position ≤ parser.raw_data.length) (enough : parser.remaining ≤ rounds)
    (first : spec.delimiter_tag = .ok delimiter)
    (scan : Scan arith field parser (field :: Item.flatten_entries entries) stop)
    (run : b.Entries spec delimiter stop.tag entries) (closed : b.Closes spec entries stop.tag) :
    Delivers (Item.store_entries field.tag delimiter entries) stop (enter_groups arith loop spec field.tag parser) := by
  rw [enter_groups_eq first]
  generalize whole : field :: Item.flatten_entries entries = all at scan
  cases scan with
  | here => cases whole
  | ended none_left =>
    rw [none_left]
    exact ⟨_,rfl⟩
  | stuck panics =>
    rw [panics]
    rfl
  | @next _ opening _ parser' _ _ read rest =>
    rw [List.cons.injEq] at whole
    rw [← whole.2] at rest
    rw [read]
    have inside' := (Parser.next_field_moves inside read).2.2.2
    have less := Parser.next_field_remaining inside read
    have opens : opening.tag = delimiter := by
      match entries with
      | [] =>
        rcases rest.head with ⟨_,same⟩ | ⟨_,rfl⟩
        · cases same
        · exact absurd rfl (closed opening.tag rfl).1
      | items :: entries =>
        obtain ⟨f,more,rfl,tag,_⟩ := entry_opens first run
        rcases rest.head with ⟨_,same⟩ | ⟨empty,_⟩
        · rw [Item.flatten_entries,Item.flatten_items,Item.flatten] at same
          simp only [List.cons_append,List.cons.injEq] at same
          rw [← same.1,tag]
        · rw [Item.flatten_entries,Item.flatten_items,Item.flatten] at empty
          cases empty
    simp only [opens,if_true]
    have parse : Parse arith b spec delimiter 0 opening parser' [] entries stop :=
      ⟨rest,trivial,run,fun tag ahead => (closed tag ahead).2⟩
    exact complete spec field.tag delimiter [] none 0 opening parser' [] entries stop first (fun _ => ⟨rfl,opens⟩)
      (fun open_entry => absurd rfl open_entry) inside' (by omega) parse

/-- A field of the entry in hand, and the tree behind it. -/
theorem plain_complete {loop : GroupLoop} {rounds : Nat} (complete : Complete arith b rounds loop)
    {spec : GroupSpecification} {start_tag delimiter : TagU32} {groups : List RepeatingGroup} {g : RepeatingGroup}
    {idx' : Nat} {field : Field} {parser : Parser} {items : List Item} {entries : List (List Item)} {stop : Stop}
    (first : spec.delimiter_tag = .ok delimiter) (inside : parser.position ≤ parser.raw_data.length)
    (enough : parser.remaining ≤ rounds) (positive : 1 ≤ idx')
    (scan : Scan arith field parser (field :: (Item.flatten_items items ++ Item.flatten_entries entries)) stop)
    (items_ok : b.EntryItems spec delimiter idx' (next_entry delimiter entries stop.tag) items)
    (entries_ok : b.Entries spec delimiter stop.tag entries) (closes : ∀ tag ∈ stop.tag, ¬ b.Absorbs spec tag) :
    Delivers (groups ++ closing (some g) (.plain field :: items) ++ Item.store_entries start_tag delimiter entries) stop
      (onward arith "incomplete group" parser (loop spec start_tag delimiter groups (some (g.store_field field)) idx')) := by
  refine onward_delivers scan (fun next parser' read rest => ?_)
  have inside' := (Parser.next_field_moves inside read).2.2.2
  have less := Parser.next_field_remaining inside read
  exact complete spec start_tag delimiter groups (some (g.store_field field)) idx' next parser' items entries stop first
    nofun (fun _ => positive) inside' (by omega) ⟨rest,items_ok,entries_ok,closes⟩

/-- A group of the entry in hand, and the tree behind it. -/
theorem nested_complete {loop : GroupLoop} {rounds : Nat} (complete : Complete arith b rounds loop)
    {spec inner : GroupSpecification} {start_tag delimiter inner_delimiter : TagU32} {groups : List RepeatingGroup}
    {g : RepeatingGroup} {position : Nat} {field : Field} {parser : Parser} {inner_entries : List (List Item)}
    {items : List Item} {entries : List (List Item)} {stop : Stop} (first : spec.delimiter_tag = .ok delimiter)
    (inside : parser.position ≤ parser.raw_data.length) (enough : parser.remaining ≤ rounds)
    (inner_first : inner.delimiter_tag = .ok inner_delimiter)
    (scan : Scan arith field parser (field :: Item.flatten_entries inner_entries ++
      (Item.flatten_items items ++ Item.flatten_entries entries)) stop)
    (run : b.Entries inner inner_delimiter (following items (next_entry delimiter entries stop.tag)) inner_entries)
    (closed : b.Closes inner inner_entries (following items (next_entry delimiter entries stop.tag)))
    (items_ok : b.EntryItems spec delimiter (position + 1) (next_entry delimiter entries stop.tag) items)
    (entries_ok : b.Entries spec delimiter stop.tag entries) (closes : ∀ tag ∈ stop.tag, ¬ b.Absorbs spec tag) :
    Delivers (groups ++ closing (some g) (.group field inner_delimiter inner_entries :: items) ++
        Item.store_entries start_tag delimiter entries) stop
      (match enter_groups arith loop inner field.tag parser with
      | .ok (nested_groups,next,parser) =>
        match (g.store_field field).get_fields.set_groups nested_groups with
        | .ok fields => loop spec start_tag delimiter groups (some (.mk g.start_tag g.delimiter_tag fields)) (position + 1)
            next parser
        | .error _ =>
          .error (.Panic "parse_groups yields a non-empty run of entries sharing one start and delimiter tag")
      | .error stop => .error stop) := by
  rcases scan.split_or with ⟨next,parser',front,back⟩ | ⟨flat,off⟩
  · -- the run ends before the field in hand
    rw [following_of_scan back entries_ok] at run closed
    have entered := enter_groups_complete complete inside enough inner_first front run closed
    have onward := front.onward inside
    have less := Scan.tail_remaining inside front
    rw [show enter_groups arith loop inner field.tag parser = _ from entered]
    dsimp only
    rw [Item.set_groups_store _ field.tag inner_delimiter (closed next.tag rfl).1]
    exact complete spec start_tag delimiter groups _ (position + 1) next parser' items entries stop first nofun
      (fun _ => Nat.succ_pos position) onward.inside (by omega) ⟨back,items_ok,entries_ok,closes⟩
  · -- reading stops inside the run
    obtain ⟨rfl,rfl⟩ := empty_of_flatten entries_ok flat
    rw [flat,List.append_nil] at scan
    have entered := enter_groups_complete complete inside enough inner_first scan run closed
    match stop with
    | .stuck message =>
      rw [show enter_groups arith loop inner field.tag parser = _ from entered]
      rfl
    | .ended =>
      obtain ⟨text,entered⟩ := entered
      rw [entered]
      exact ⟨text,rfl⟩

/-- With rounds for the bytes that are left, the loop reads every tree. -/
theorem group_loop_complete (rounds : Nat) : Complete arith b rounds (group_loop arith b rounds) := by
  induction rounds with
  | zero => intro _ _ _ _ _ _ _ _ _ _ _ _ _ _ _ enough; omega
  | succ rounds ih =>
    intro spec start_tag delimiter groups current_group idx field parser items entries stop first opened positive inside
      enough parse
    obtain ⟨scan,items_ok,entries_ok,closes⟩ := parse
    rw [group_loop]
    match items with
    | .plain f :: items =>
      obtain ⟨g,rfl⟩ : ∃ g, current_group = some g := by
        cases current_group with
        | none => cases (opened rfl).1
        | some g => exact ⟨g,rfl⟩
      have positive := positive nofun
      rw [Item.flatten_items,Item.flatten] at scan
      obtain rfl : f = field := by
        rcases scan.head with ⟨_,same⟩ | ⟨empty,_⟩
        · simp only [List.cons_append,List.cons.injEq] at same
          exact same.1
        · cases empty
      obtain ⟨idx',step,items_ok⟩ := items_ok
      rcases step with ⟨_,zero,_⟩ | ⟨unknown,rfl⟩ | ⟨position,declared,ordered,flat,rfl⟩
      · omega
      · have other : f.tag ≠ delimiter := by
          intro same
          rw [same,Unknown,contains_delimiter first] at unknown
          cases unknown.1
        rw [round_unknown unknown other]
        exact plain_complete ih first inside (by omega) positive scan items_ok entries_ok closes
      · rw [round_plain declared ordered flat]
        exact plain_complete ih first inside (by omega) (Nat.succ_pos position) scan items_ok entries_ok closes
    | .group f inner_delimiter inner_entries :: items =>
      obtain ⟨g,rfl⟩ : ∃ g, current_group = some g := by
        cases current_group with
        | none => cases (opened rfl).1
        | some g => exact ⟨g,rfl⟩
      rw [Item.flatten_items,Item.flatten,List.append_assoc] at scan
      obtain rfl : f = field := by
        rcases scan.head with ⟨_,same⟩ | ⟨empty,_⟩
        · simp only [List.cons_append,List.cons.injEq] at same
          exact same.1
        · cases empty
      obtain ⟨idx',⟨position,inner,declared,ordered,nested,inner_first,run,closed,rfl⟩,items_ok⟩ := items_ok
      rw [round_group declared ordered nested]
      exact nested_complete ih first inside (by omega) inner_first scan run closed items_ok entries_ok closes
    | [] =>
      match entries with
      | items :: entries =>
        obtain ⟨f,rest,rfl,tag,rest_ok⟩ := entry_opens first entries_ok
        have scan' : Scan arith field parser (f :: (Item.flatten_items rest ++ Item.flatten_entries entries)) stop := by
          simpa [Item.flatten_items,Item.flatten_entries,Item.flatten] using scan
        obtain rfl : f = field := by
          rcases scan'.head with ⟨_,same⟩ | ⟨empty,_⟩
          · rw [List.cons.injEq] at same
            exact same.1
          · cases empty
        rw [round_delimiter tag]
        refine onward_delivers scan' (fun next parser' read behind => ?_)
        have inside' := (Parser.next_field_moves inside read).2.2.2
        have less := Parser.next_field_remaining inside read
        have delivered := ih spec start_tag delimiter (groups ++ current_group.toList) (some
          ((RepeatingGroup.new_with_tags start_tag delimiter).store_field f)) 1 next parser' rest entries stop first nofun
          (fun _ => le_rfl) inside' (by omega) ⟨behind,rest_ok,entries_ok.2.2,closes⟩
        rw [closing_nil]
        simpa [closing,Item.store_entries,Item.store_items,Item.store,RepeatingGroup.new_with_tags,
          RepeatingGroup.store_field,RepeatingGroup.start_tag,RepeatingGroup.delimiter_tag,
          RepeatingGroup.get_fields] using delivered
      | [] =>
        rcases scan.head with ⟨_,same⟩ | ⟨_,rfl⟩
        · cases same
        · have outside := closes field.tag rfl
          have other : field.tag ≠ delimiter := fun same => outside (.inl (same ▸ contains_delimiter first))
          rw [round_end other outside,closing_nil]
          simp [Delivers,Item.store_entries]

end MessageBuilder
end HotFix
