import HotFix.Sections

/-!
What becomes of the fields on the wire. Each is stored in a section or an entry,
replaced there by a later field of its tag, or left behind the trailer section. The
CheckSum that the integrity check has read is stored besides.
-/
namespace HotFix

namespace FieldMap

mutual
/-- The fields of a map with those of its groups. -/
def all : FieldMap → List Field
  | .mk fields groups => fields ++ all_groups groups
def all_groups : List (TagU32 × List RepeatingGroup) → List Field
  | [] => []
  | (_,entries) :: rest => all_entries entries ++ all_groups rest
def all_entries : List RepeatingGroup → List Field
  | [] => []
  | .mk _ _ fields :: rest => all fields ++ all_entries rest
end

theorem all_groups_eq (groups : List (TagU32 × List RepeatingGroup)) :
    all_groups groups = groups.flatMap (fun g => all_entries g.2) := by
  induction groups with
  | nil => rfl
  | cons g rest ih =>
    obtain ⟨tag,entries⟩ := g
    rw [all_groups,ih,List.flatMap_cons]

end FieldMap

namespace Item

def is_group : Item → Bool
  | .plain _ => false
  | .group _ _ _ => true

mutual
/-- The fields of a tree that are replaced when it is stored. -/
def replaced : Item → List Field
  | .plain _ => []
  | .group _ _ entries => replaced_entries entries
def replaced_items : List Item → List Field
  | [] => []
  | item :: rest => (if item.tag ∈ rest.map Item.tag then flatten item else replaced item) ++ replaced_items rest
def replaced_entries : List (List Item) → List Field
  | [] => []
  | items :: rest => replaced_items items ++ replaced_entries rest
end

mutual
/-- A tag is that of a group or not, throughout a body or an entry. -/
def Uniform : Item → Prop
  | .plain _ => True
  | .group _ _ entries => UniformEntries entries
def UniformItems : List Item → Prop
  | [] => True
  | item :: rest => Uniform item ∧ (∀ other ∈ rest, other.tag = item.tag → other.is_group = item.is_group) ∧
      UniformItems rest
def UniformEntries : List (List Item) → Prop
  | [] => True
  | items :: rest => UniformItems items ∧ UniformEntries rest
end

/-! ### What is stored -/

/-- The entries that an item sets. -/
def pair : Item → Option (TagU32 × List RepeatingGroup)
  | .plain _ => none
  | .group f delimiter entries => some (f.tag,store_entries f.tag delimiter entries)

/-- The fields that are stored of an item. -/
def kept (item : Item) : List Field := item.field :: (item.pair.toList.flatMap (fun g => FieldMap.all_entries g.2))

theorem store_eq (m : FieldMap) (item : Item) :
    store m item = .mk (IndexMap.insert Field.tag item.field m.fields)
      (IndexMap.insertAll Prod.fst m.groups item.pair.toList) := by
  obtain ⟨fields,groups⟩ := m
  cases item with
  | plain f =>
    rw [store,FieldMap.insert,FieldMap.insertField_eq]
    rfl
  | group f delimiter entries =>
    rw [store,FieldMap.insert,FieldMap.insertField_eq]
    rfl

/-- Storing items fills two maps: of their fields, and of the entries of the groups. -/
theorem store_items_eq (m : FieldMap) (items : List Item) :
    store_items m items = .mk (IndexMap.insertAll Field.tag m.fields (items.map Item.field))
      (IndexMap.insertAll Prod.fst m.groups (items.filterMap Item.pair)) := by
  induction items generalizing m with
  | nil => obtain ⟨_,_⟩ := m; rfl
  | cons item rest ih =>
    rw [store_items,ih,store_eq]
    cases item with
    | plain f => rfl
    | group f delimiter entries => rfl

theorem UniformItems.pairwise {items : List Item} (uniform : UniformItems items) :
    items.Pairwise (fun a b => b.tag = a.tag → b.pair.isSome = a.pair.isSome) := by
  induction items with
  | nil => exact .nil
  | cons item rest ih =>
    refine List.pairwise_cons.mpr ⟨?_,ih uniform.2.2⟩
    intro other later same
    have kinds := uniform.2.1 other later same
    cases item <;> cases other <;> simp_all [pair,is_group]

private theorem kept_of_maps (items : List Item) :
    (items.map Item.field ++ (items.filterMap Item.pair).flatMap (fun g => FieldMap.all_entries g.2)).Perm
      (items.flatMap kept) := by
  induction items with
  | nil => exact List.Perm.refl _
  | cons item rest ih =>
    cases item with
    | plain f => exact ih.cons f
    | group f delimiter entries =>
      have moved := (List.perm_append_comm_assoc (rest.map Item.field)
        (FieldMap.all_entries (store_entries f.tag delimiter entries)) _).trans (ih.append_left _)
      simpa [kept,pair,Item.field] using moved.cons f

/-- What is stored of uniform items is what the last item of each tag keeps. -/
theorem store_items_all {items : List Item} (uniform : UniformItems items) :
    (store_items FieldMap.empty items).all.Perm ((IndexMap.lasts Item.tag items).flatMap kept) := by
  have fields : (IndexMap.insertAll Field.tag [] (items.map Item.field)).Perm
      ((IndexMap.lasts Item.tag items).map Item.field) := by
    have last : (IndexMap.insertAll Field.tag [] (items.map Item.field)).Perm
      (IndexMap.lasts Field.tag (items.map Item.field)) := IndexMap.insertAll_perm _
    rwa [IndexMap.lasts_map] at last
  have groups : (IndexMap.insertAll Prod.fst [] (items.filterMap Item.pair)).Perm
      ((IndexMap.lasts Item.tag items).filterMap Item.pair) := by
    have last : (IndexMap.insertAll Prod.fst [] (items.filterMap Item.pair)).Perm
      (IndexMap.lasts Prod.fst (items.filterMap Item.pair)) := IndexMap.insertAll_perm _
    have keyed (item : Item) (g : TagU32 × List RepeatingGroup) (made : item.pair = some g) : g.1 = item.tag := by
      cases item with
      | plain f => cases made
      | group f delimiter entries => cases made; rfl
    rwa [IndexMap.lasts_filterMap keyed uniform.pairwise] at last
  rw [store_items_eq,FieldMap.all,FieldMap.all_groups_eq]
  exact (fields.append (groups.flatMap_right _)).trans (kept_of_maps _)

theorem lasts_kept (items : List Item) (each : ∀ item ∈ items, (item.kept ++ item.replaced).Perm item.flatten) :
    ((IndexMap.lasts Item.tag items).flatMap kept ++ replaced_items items).Perm (flatten_items items) := by
  induction items with
  | nil => exact List.Perm.refl _
  | cons item rest ih =>
    have ih := ih (fun other later => each other (by simp [later]))
    rw [IndexMap.lasts,replaced_items,flatten_items]
    by_cases later : item.tag ∈ rest.map Item.tag
    · rw [if_pos later,if_pos later]
      exact (List.perm_append_comm_assoc _ _ _).trans (ih.append_left _)
    · rw [if_neg later,if_neg later,List.flatMap_cons,List.append_assoc]
      have moved := (List.perm_append_comm_assoc ((IndexMap.lasts Item.tag rest).flatMap kept) item.replaced
        (replaced_items rest)).trans (ih.append_left _)
      refine (moved.append_left _).trans ?_
      rw [← List.append_assoc]
      exact (each item (by simp)).append_right _

mutual
/-- Nothing is lost: what is stored and what is replaced are the fields of the tree. -/
theorem kept_perm : ∀ {item : Item}, Uniform item → (item.kept ++ item.replaced).Perm item.flatten
  | .plain f,_ => List.Perm.refl _
  | .group f delimiter entries,uniform => by
    have inside := entries_perm f.tag delimiter uniform
    simpa [kept,pair,Item.field,replaced,flatten] using inside.cons f
theorem items_perm : ∀ {items : List Item}, UniformItems items →
    ∀ item ∈ items, (item.kept ++ item.replaced).Perm item.flatten
  | [],_ => nofun
  | item :: rest,uniform => by
    intro other member
    rcases List.mem_cons.mp member with same | later
    · rw [same]
      exact kept_perm uniform.1
    · exact items_perm uniform.2.2 other later
theorem entries_perm (start_tag delimiter : TagU32) : ∀ {entries : List (List Item)}, UniformEntries entries →
    (FieldMap.all_entries (store_entries start_tag delimiter entries) ++ replaced_entries entries).Perm
      (flatten_entries entries)
  | [],_ => List.Perm.refl _
  | items :: rest,uniform => by
    have first := ((store_items_all uniform.1).append_right (replaced_items items)).trans
      (lasts_kept items (items_perm uniform.1))
    have later := entries_perm start_tag delimiter uniform.2
    rw [store_entries,FieldMap.all_entries,replaced_entries,flatten_entries,List.append_assoc]
    refine ((List.perm_append_comm_assoc _ _ _).append_left _).trans ?_
    rw [← List.append_assoc]
    exact first.append later
end

/-- The fields of a body are stored or replaced. -/
theorem store_perm {items : List Item} (uniform : UniformItems items) :
    ((store_items FieldMap.empty items).all ++ replaced_items items).Perm (flatten_items items) :=
  ((store_items_all uniform).append_right _).trans (lasts_kept items (items_perm uniform))

end Item

/-! ### Trees of the grammar are uniform -/

namespace MessageBuilder
variable {b : MessageBuilder}

theorem uniform_of_kind (kind : TagU32 → Bool) {items : List Item}
    (each : ∀ item ∈ items, item.Uniform ∧ item.is_group = kind item.tag) : Item.UniformItems items := by
  induction items with
  | nil => trivial
  | cons item rest ih =>
    refine ⟨(each item (by simp)).1,?_,ih (fun other later => each other (by simp [later]))⟩
    intro other later same
    rw [(each other (by simp [later])).2,(each item (by simp)).2,same]

/-- Whether a tag of an entry counts a nested group. -/
def entry_kind (spec : GroupSpecification) (delimiter tag : TagU32) : Bool :=
  decide (tag ≠ delimiter) && spec.contains_tag tag && (spec.get_nested_group tag).isSome

mutual
theorem item_uniform : ∀ {item : Item} {spec : GroupSpecification} {delimiter : TagU32} {idx idx' : Nat}
    {after : Option TagU32}, b.ItemStep spec delimiter idx idx' after item →
    item.Uniform ∧ item.is_group = entry_kind spec delimiter item.tag
  | .plain f,spec,delimiter,idx,idx',after,step => by
    refine ⟨trivial,?_⟩
    rcases step with ⟨opens,_⟩ | ⟨unknown,_⟩ | ⟨position,_,_,flat,_⟩
    · simp [Item.is_group,entry_kind,Item.tag,Item.field,opens]
    · simp [Item.is_group,entry_kind,Item.tag,Item.field,unknown.1]
    · simp [Item.is_group,entry_kind,Item.tag,Item.field,flat]
  | .group f inner_delimiter entries,spec,delimiter,idx,idx',after,step => by
    obtain ⟨position,inner,listed,_,nested,_,run,_⟩ := step
    refine ⟨entries_uniform run,?_⟩
    simp [Item.is_group,entry_kind,Item.tag,Item.field,listed.1,declared_of_position listed.2,nested]
theorem entry_uniform : ∀ {entry : List Item} {spec : GroupSpecification} {delimiter : TagU32} {idx : Nat}
    {after : Option TagU32}, b.EntryItems spec delimiter idx after entry →
    ∀ item ∈ entry, item.Uniform ∧ item.is_group = entry_kind spec delimiter item.tag
  | [],_,_,_,_,_ => nofun
  | item :: rest,spec,delimiter,idx,after,steps => by
    obtain ⟨idx',step,steps⟩ := steps
    intro other member
    rcases List.mem_cons.mp member with same | later
    · rw [same]
      exact item_uniform step
    · exact entry_uniform steps other later
theorem entries_uniform : ∀ {entries : List (List Item)} {spec : GroupSpecification} {delimiter : TagU32}
    {after : Option TagU32}, b.Entries spec delimiter after entries → Item.UniformEntries entries
  | [],_,_,_,_ => trivial
  | entry :: rest,spec,delimiter,after,run => by
    obtain ⟨_,steps,run⟩ := run
    exact ⟨uniform_of_kind (entry_kind spec delimiter) (entry_uniform steps),entries_uniform run⟩
end

theorem body_uniform {spec : MessageSpecification} {after : Option TagU32} {items : List Item}
    (allowed : b.BodyItems spec after items) : Item.UniformItems items := by
  have kinds : ∀ item ∈ items, item.Uniform ∧
      item.is_group = (spec.contains_tag item.tag && (spec.get_group item.tag).isSome) := by
    induction items with
    | nil => nofun
    | cons item rest ih =>
      intro other member
      rcases List.mem_cons.mp member with same | later
      · rw [same]
        match item with
        | .plain f =>
          rcases allowed.1 with ⟨listed,_,flat⟩ | ⟨unlisted,_⟩
          · exact ⟨trivial,by simp [Item.is_group,Item.tag,Item.field,flat]⟩
          · exact ⟨trivial,by simp [Item.is_group,Item.tag,Item.field,unlisted]⟩
        | .group f delimiter entries =>
          obtain ⟨listed,_,group_def,found,_,run,_⟩ := allowed.1
          exact ⟨entries_uniform run,by simp [Item.is_group,Item.tag,Item.field,listed,found]⟩
      · exact ih allowed.2 other later
  exact uniform_of_kind (fun tag => spec.contains_tag tag && (spec.get_group tag).isSome) kinds

end MessageBuilder

/-! ### The occurrences on the wire -/

/-- The tag texts and values, field after field. -/
def tokens (separator : UInt8) : Nat → Bytes → List (Bytes × Bytes)
  | 0,_ => []
  | rounds+1,bytes =>
    match split_field separator bytes with
    | none => []
    | some (text,data,tail) => (text,data) :: tokens separator rounds tail

/-- The tag of a tag text, if it reads as one. -/
def tag_of (arith : Arith) (text : Bytes) : Option TagU32 :=
  match tag_from_bytes arith text with
  | .ok tag => tag
  | .error _ => none

/-- The occurrences of tags and values on the wire. -/
def wire (arith : Arith) (separator : UInt8) (bytes : Bytes) : List (Option TagU32 × Bytes) :=
  (tokens separator bytes.length bytes).map (fun (text,data) => (tag_of arith text,data))

def Field.occurrence (f : Field) : Option TagU32 × Bytes := (some f.tag,f.data)

/-- The fields found in a message, with those of the entries of its groups. -/
def Message.stored (m : Message) : List (Option TagU32 × Bytes) :=
  (m.header.all ++ m.body.all ++ m.trailer.all).map Field.occurrence

theorem tokens_none {separator : UInt8} {bytes : Bytes} {rounds : Nat} (nothing : split_field separator bytes = none) :
    tokens separator rounds bytes = [] := by
  cases rounds with
  | zero => rfl
  | succ rounds => rw [tokens,nothing]

theorem tokens_enough {separator : UInt8} {bytes : Bytes} {rounds : Nat} (enough : bytes.length ≤ rounds) :
    tokens separator rounds bytes = tokens separator bytes.length bytes := by
  induction rounds using Nat.strongRecOn generalizing bytes with
  | ind rounds ih =>
    rcases split : split_field separator bytes with _ | ⟨text,data,tail⟩
    · rw [tokens_none split,tokens_none split]
    · have shorter := split_field_shorter split
      obtain ⟨rounds,rfl⟩ : ∃ n, rounds = n + 1 := ⟨rounds - 1,by omega⟩
      obtain ⟨length,same⟩ : ∃ n, bytes.length = n + 1 := ⟨bytes.length - 1,by omega⟩
      rw [same,tokens,tokens,split]
      dsimp only
      rw [ih rounds (by omega) (by omega),ih length (by omega) (by omega)]

/-- The occurrences of a field and of what follows it. -/
theorem wire_field {arith : Arith} {separator : UInt8} {bytes text data tail : Bytes}
    (at_field : FieldAt separator bytes text data tail) :
    wire arith separator bytes = (tag_of arith text,data) :: wire arith separator tail := by
  have split := split_field_at at_field
  have shorter := split_field_shorter split
  obtain ⟨length,same⟩ : ∃ n, bytes.length = n + 1 := ⟨bytes.length - 1,by omega⟩
  rw [wire,same,tokens,split]
  dsimp only
  rw [tokens_enough (by omega : tail.length ≤ length)]
  rfl

namespace Parser

/-- The occurrences from the cursor on. -/
def wire (arith : Arith) (p : Parser) : List (Option TagU32 × Bytes) :=
  HotFix.wire arith p.config.separator (p.raw_data.drop p.position)

theorem wire_next {arith : Arith} {p q : Parser} {field : Field} (inside : p.position ≤ p.raw_data.length)
    (read : p.next_field arith = .ok (some (field,q))) : p.wire arith = field.occurrence :: q.wire arith := by
  obtain ⟨text,tail,at_field,spelled,rfl⟩ := next_field_some inside read
  rw [wire,wire_field at_field,wire,at_field.behind,tag_of,spelled]
  rfl

end Parser

/-- A stretch accounts for the occurrences from the field in hand on. -/
theorem Scan.wire {arith : Arith} {field : Field} {parser : Parser} {fields : List Field} {stop : Stop}
    (inside : parser.position ≤ parser.raw_data.length) (scan : Scan arith field parser fields stop) :
    ∃ rest, field.occurrence :: parser.wire arith = fields.map Field.occurrence ++ rest ∧
      ∀ next parser', stop = .ahead next parser' → rest = next.occurrence :: parser'.wire arith := by
  induction scan with
  | here field parser =>
    refine ⟨_,rfl,?_⟩
    rintro next parser' same
    cases same
    rfl
  | ended => exact ⟨_,rfl,nofun⟩
  | stuck => exact ⟨_,rfl,nofun⟩
  | next read rest ih =>
    obtain ⟨rest,split,ahead⟩ := ih (Parser.next_field_moves inside read).2.2.2
    refine ⟨rest,?_,ahead⟩
    rw [Parser.wire_next inside read,split]
    rfl

/-! ### The account of a message -/

namespace MessageBuilder.Reading

/-- The fields that the sections take, in the order of the wire. -/
def fields (r : Reading) : List Field := r.header_fields ++ Item.flatten_items r.items ++ r.trailer

/-- The fields that a later one of the same tag replaces, in a section or an entry. -/
def replaced (r : Reading) : List Field :=
  IndexMap.replaced Field.tag r.header_fields ++ Item.replaced_items r.items ++
    IndexMap.replaced Field.tag (r.checksum :: r.trailer)

end MessageBuilder.Reading

theorem FieldMap.insert_fields_all (fields : List Field) :
    ((FieldMap.empty.insert_fields fields).all ++ IndexMap.replaced Field.tag fields).Perm fields := by
  rw [FieldMap.insert_fields_eq,FieldMap.all]
  have kept : (IndexMap.insertAll Field.tag [] fields).Perm (IndexMap.lasts Field.tag fields) := IndexMap.insertAll_perm fields
  have empty : FieldMap.all_groups FieldMap.empty.groups = [] := rfl
  rw [empty,List.append_nil]
  exact (kept.append_right _).trans (IndexMap.lasts_append_replaced fields)

namespace MessageBuilder
variable {arith : Arith} {b : MessageBuilder} {data : Bytes} {r : Reading}

/-- The first fields start the occurrences on the wire. -/
theorem framing_wire {config : Config} {begin_string body_length msg_type checksum : Field} {p₁ p₂ p₃ : Parser} {n body_end : Nat}
    (framing : Framing arith config data begin_string body_length msg_type checksum p₁ p₂ p₃ n body_end) :
    HotFix.wire arith config.separator data =
      [begin_string,body_length].map Field.occurrence ++ msg_type.occurrence :: p₃.wire arith := by
  obtain ⟨_,_,_,inside₁⟩ := Parser.next_field_moves (Nat.zero_le _) framing.first
  obtain ⟨_,_,_,inside₂⟩ := Parser.next_field_moves inside₁ framing.second
  have first := Parser.wire_next (Nat.zero_le _) framing.first
  rw [Parser.wire_next inside₁ framing.second,Parser.wire_next inside₂ framing.third] at first
  exact first

/-- The sections start the occurrences on the wire. -/
theorem sections_wire (sectioned : Sectioned arith b data r) :
    ∃ rest, HotFix.wire arith b.config.separator data = r.fields.map Field.occurrence ++ rest := by
  obtain ⟨p₁,p₂,p₃,p₄,p₅,n,body_end,first_body,first_trailer,name,spec,stop,reads⟩ := sectioned
  obtain ⟨_,_,inside₃⟩ := reads.framing.third_cursor
  have inside₄ := (reads.header_scan.onward inside₃).inside
  have inside₅ := (reads.body.scan.onward inside₄).inside
  obtain ⟨_,headed,ahead₄⟩ := reads.header_scan.wire inside₃
  obtain ⟨_,bodied,ahead₅⟩ := reads.body.scan.wire inside₄
  obtain ⟨rest,trailed,_⟩ := reads.trailer_scan.wire inside₅
  refine ⟨rest,?_⟩
  rw [framing_wire reads.framing,headed,ahead₄ _ _ rfl,bodied,ahead₅ _ _ rfl,trailed]
  simp [Reading.fields,Reading.header_fields]

/-- Of the fields that the sections take and the checksum, each is stored or replaced. -/
theorem message_stored (sectioned : Sectioned arith b data r) :
    (r.message.stored ++ r.replaced.map Field.occurrence).Perm ((r.checksum :: r.fields).map Field.occurrence) := by
  obtain ⟨p₁,p₂,p₃,p₄,p₅,n,body_end,first_body,first_trailer,name,spec,stop,reads⟩ := sectioned
  have header := FieldMap.insert_fields_all r.header_fields
  have body := Item.store_perm (body_uniform reads.body.items_ok)
  have trailer := FieldMap.insert_fields_all (r.checksum :: r.trailer)
  rw [Message.stored,← List.map_append]
  refine List.Perm.map _ ?_
  rw [Reading.message,Reading.replaced,Reading.fields]
  classical
  rw [List.perm_iff_count] at header body trailer ⊢
  intro f
  have header := header f
  have body := body f
  have trailer := trailer f
  simp only [List.count_append,List.count_cons] at header body trailer ⊢
  omega

/-- What is lost of the wire is what is stored of it twice: the fields that are
    replaced and those behind the trailer section are together the one CheckSum
    that the integrity check has read. -/
def Accounted (arith : Arith) (b : MessageBuilder) (data : Bytes) : Prop :=
  ∀ r, Sectioned arith b data r →
    (r.replaced.map Field.occurrence ++ (HotFix.wire arith b.config.separator data).drop r.fields.length).Perm
      [r.checksum.occurrence]

theorem wire_stored_iff (sectioned : Sectioned arith b data r) :
    (HotFix.wire arith b.config.separator data).Perm r.message.stored ↔
      (r.replaced.map Field.occurrence ++ (HotFix.wire arith b.config.separator data).drop r.fields.length).Perm
        [r.checksum.occurrence] := by
  obtain ⟨rest,split⟩ := sections_wire sectioned
  have stored := message_stored sectioned
  have behind : (HotFix.wire arith b.config.separator data).drop r.fields.length = rest := by
    rw [split,List.drop_left' (by simp)]
  rw [behind,split]
  have balance : (r.message.stored ++ (r.replaced.map Field.occurrence ++ rest)).Perm
      (r.checksum.occurrence :: (r.fields.map Field.occurrence ++ rest)) := by
    rw [← List.append_assoc]
    exact stored.append_right rest
  constructor
  · intro same
    have both := balance.trans (same.cons _)
    exact (List.perm_append_left_iff _).mp (both.trans (List.perm_append_singleton _ _).symm)
  · intro lost
    have both := (lost.append_left r.message.stored).symm.trans balance
    exact ((List.perm_append_singleton _ _).symm.trans both).cons_inv.symm

/-- A valid message has the fields of the wire if and only if nothing but the
    CheckSum is lost. -/
theorem nothing_lost_iff {m : Message} (built : build arith b data = .ok (.Valid m)) :
    (HotFix.wire arith b.config.separator data).Perm m.stored ↔ Accounted arith b data := by
  obtain ⟨r,sectioned,rfl⟩ := build_valid.mp built
  constructor
  · intro same r' sectioned'
    have built' := build_valid.mpr ⟨r',sectioned',rfl⟩
    rw [built] at built'
    injection built' with built'
    injection built' with built'
    exact (wire_stored_iff sectioned').mp (built' ▸ same)
  · intro accounted
    exact (wire_stored_iff sectioned).mpr (accounted r sectioned)

theorem plain_news_accounted :
    ∃ m, build .exact SmallDictionary.builder (ascii "8=F|9=10|35=B|58=x|10=139|") = .ok (.Valid m) ∧
      ((HotFix.wire .exact 124 (ascii "8=F|9=10|35=B|58=x|10=139|")).Perm m.stored ↔
        Accounted .exact SmallDictionary.builder (ascii "8=F|9=10|35=B|58=x|10=139|")) := by
  obtain ⟨m,built,-⟩ := Checked.valid_of_holds (show (build .exact SmallDictionary.builder
    (ascii "8=F|9=10|35=B|58=x|10=139|")).holds (fun _ => true) = true by decide +kernel)
  exact ⟨m,built,nothing_lost_iff built⟩

/-- A Text that comes twice is stored once. -/
theorem repeated_text_lost : ¬ ∀ (dict : Dictionary) (config : Config) (b : MessageBuilder) (data : Bytes) (m : Message),
    new dict config = .ok b → build .exact b data = .ok (.Valid m) →
      (HotFix.wire .exact config.separator data).Perm m.stored := by
  intro nothing_lost
  obtain ⟨m,built,five⟩ := Checked.valid_of_holds (show (build .exact SmallDictionary.builder
    (ascii "8=F|9=15|35=B|58=x|58=y|10=047|")).holds (fun m => m.stored.length = 5) = true by decide +kernel)
  have same := nothing_lost SmallDictionary.dict SmallDictionary.config SmallDictionary.builder _ m
    SmallDictionary.builder_made built
  have length := same.length_eq
  rw [of_decide_eq_true five] at length
  exact absurd length (by decide +kernel)

end MessageBuilder
end HotFix
