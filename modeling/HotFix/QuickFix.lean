import HotFix.Declared

/-!
The reader of QuickFIX specifications. It walks the elements of an XML document and
fills a dictionary: first the fields, then the components, the messages, and the header
and the trailer, which are components too. Fields are looked up by name while a layout is
read; a component is only noted by its name.
-/
namespace HotFix

/-- A node of a parsed XML document, which is an element or something that is passed
    over. The names of the attributes of an element are distinct. -/
inductive Node where
  | Element (tag_name : Bytes) (attributes : List (Bytes × Bytes)) (children : List Node)
  | Text (text : Bytes)

namespace Node

def is_element : Node → Bool
  | .Element _ _ _ => true
  | .Text _ => false

def tag_name : Node → Bytes
  | .Element tag_name _ _ => tag_name
  | .Text _ => []

def attributes : Node → List (Bytes × Bytes)
  | .Element _ attributes _ => attributes
  | .Text _ => []

def children : Node → List Node
  | .Element _ _ children => children
  | .Text _ => []

def get_attribute (node : Node) (name : Bytes) : Option Bytes := (IndexMap.get Prod.fst name node.attributes).map Prod.snd

def has_attribute (node : Node) (name : Bytes) : Bool := (node.get_attribute name).isSome

def has_tag_name (node : Node) (name : Bytes) : Bool := node.is_element && node.tag_name = name

end Node

inductive ParseError where
  | InvalidFormat
  | InvalidData (text : String)
  deriving DecidableEq

/-- What the reader returns, an error it reports, or a panic. -/
abbrev ParseResult := Except (Abort ParseError)

namespace QuickFix

def or_error {α : Type} (error : ParseError) : Option α → ParseResult α
  | some a => .ok a
  | none => .error (.Error error)

def or_panic {α : Type} (message : String) : Option α → ParseResult α
  | some a => .ok a
  | none => .error (.Panic message)

/-- A name as it is shown in a message. -/
def shown (name : Bytes) : String := String.ofList (name.map (fun byte => Char.ofNat byte.toNat))

/-- `to_ascii_uppercase`. -/
def to_ascii_uppercase (name : Bytes) : Bytes := name.map (fun byte => if 97 ≤ byte ∧ byte ≤ 122 then byte - 32 else byte)

/-- The names of the datatypes. -/
def quickfix_names : List String :=
  ["AMT","BOOLEAN","CHAR","COUNTRY","CURRENCY","DATA","DATE","DAYOFMONTH","EXCHANGE","FLOAT","INT","LANGUAGE",
    "LENGTH","LOCALMKTDATE","MONTHYEAR","MULTIPLECHARVALUE","MULTIPLEVALUESTRING","MULTIPLESTRINGVALUE","NUMINGROUP",
    "PERCENTAGE","PRICE","PRICEOFFSET","QTY","STRING","TZTIMEONLY","TZTIMESTAMP","UTCDATE","UTCDATEONLY",
    "UTCTIMEONLY","UTCTIMESTAMP","SEQNUM","TIME","XMLDATA"]

/-- The datatype of a name, which stands for it here. -/
def from_quickfix_name (name : Bytes) : Option String := quickfix_names.find? (fun known => ascii known = to_ascii_uppercase name)

/-! ### The dictionary in the making -/

/-- The dictionary so far, with the tags of its fields by name. -/
structure DictionaryBuilder where
  dict : Dictionary
  field_tags_by_name : List (Bytes × Nat)

namespace DictionaryBuilder

def new : DictionaryBuilder where
  dict := {
    fields_by_tags := []
    components_by_name := []
    messages_by_msgtype := []
    tags_distinct := List.nodup_nil
    names_distinct := List.nodup_nil
    msgtypes_distinct := List.nodup_nil }
  field_tags_by_name := []

def add_field (builder : DictionaryBuilder) (name : Bytes) (field : FieldData) : DictionaryBuilder where
  dict := { builder.dict with
    fields_by_tags := IndexMap.insert FieldData.tag field builder.dict.fields_by_tags
    tags_distinct := IndexMap.nodup_insert field builder.dict.tags_distinct }
  field_tags_by_name := IndexMap.insert Prod.fst (name,field.tag) builder.field_tags_by_name

def add_message (builder : DictionaryBuilder) (message : MessageData) : DictionaryBuilder where
  dict := { builder.dict with
    messages_by_msgtype := IndexMap.insert MessageData.msg_type message builder.dict.messages_by_msgtype
    msgtypes_distinct := IndexMap.nodup_insert message builder.dict.msgtypes_distinct }
  field_tags_by_name := builder.field_tags_by_name

def add_component (builder : DictionaryBuilder) (component : ComponentData) : DictionaryBuilder where
  dict := { builder.dict with
    components_by_name := IndexMap.insert ComponentData.name component builder.dict.components_by_name
    names_distinct := IndexMap.nodup_insert component builder.dict.names_distinct }
  field_tags_by_name := builder.field_tags_by_name

def field_by_name (builder : DictionaryBuilder) (name : Bytes) : Option FieldData :=
  match IndexMap.get Prod.fst name builder.field_tags_by_name with
  | some (_,tag) => builder.dict.field_by_tag tag
  | none => none

end DictionaryBuilder

/-! ### Layouts -/

def missing_tag (tag : String) : String := "expected `" ++ tag ++ "` tag in element, but it's missing"

/-- The tag of the field of a name, or a panic. -/
def named_tag (builder : DictionaryBuilder) (kind : String) (name : Bytes) : ParseResult Nat := do
  let field ← or_panic ("failed to find a " ++ kind ++ " named \"" ++ shown name ++
    "\" in the XML file, check exact spelling and casing") (builder.field_by_name name)
  let tag ← or_panic "called `Option::unwrap()` on a `None` value" (TagU32.new field.tag)
  return tag.get

mutual
/-- An item of a layout. A component is not looked up; its element has the attribute by
    which it is told from a definition, so none is imported either. -/
def import_layout_item (builder : DictionaryBuilder) : Node → ParseResult (DictionaryBuilder × LayoutItemData)
  | .Text _ => .error (.Panic (missing_tag "name"))
  | .Element tag_name attributes children => do
    let node := Node.Element tag_name attributes []
    let name ← or_panic (missing_tag "name") (node.get_attribute (ascii "name"))
    let required ← or_panic (missing_tag "required") (node.get_attribute (ascii "required"))
    if tag_name = ascii "field" then
      let tag ← named_tag builder "field" name
      return (builder,.Field (required = ascii "Y") tag)
    else if tag_name = ascii "component" then
      if node.has_attribute (ascii "required") then
        return (builder,.Component (required = ascii "Y") name)
      else
        let (builder,layout_items) ← import_layout_items builder children
        return (builder.add_component ⟨name,layout_items⟩,.Component (required = ascii "Y") name)
    else if tag_name = ascii "group" then
      let len_field_tag ← named_tag builder "group" name
      let (builder,items) ← import_layout_items builder children
      return (builder,.Group (required = ascii "Y") len_field_tag items)
    else .error (.Error .InvalidFormat)
/-- The items of the elements among the nodes. -/
def import_layout_items (builder : DictionaryBuilder) : List Node → ParseResult (DictionaryBuilder × List LayoutItemData)
  | [] => .ok (builder,[])
  | .Text _ :: rest => import_layout_items builder rest
  | .Element tag_name attributes children :: rest => do
    let (builder,item) ← import_layout_item builder (.Element tag_name attributes children)
    let (builder,items) ← import_layout_items builder rest
    return (builder,item :: items)
end

/-! ### The sections of a specification -/

def import_component (builder : DictionaryBuilder) (node : Node) (name : Bytes) : ParseResult DictionaryBuilder := do
  if node.has_attribute (ascii "required") then return builder
  let (builder,layout_items) ← import_layout_items builder node.children
  return builder.add_component ⟨name,layout_items⟩

def import_datatype (node : Node) : ParseResult String := do
  let quickfix_name ← or_panic "called `Option::unwrap()` on a `None` value" (node.get_attribute (ascii "type"))
  or_panic "called `Option::unwrap()` on a `None` value" (from_quickfix_name quickfix_name)

/-- The values that a field is restricted to, each with its description. -/
def value_restrictions_from_node (node : Node) : ParseResult (List (Bytes × Bytes)) :=
  (node.children.filter Node.is_element).mapM (fun child => do
    let variant ← or_panic (missing_tag "enum") (child.get_attribute (ascii "enum"))
    let description ← or_panic (missing_tag "description") (child.get_attribute (ascii "description"))
    return (variant,description))

/-- A number of 32 bits as the bytes spell it. -/
def parse_tag (text : Bytes) : Option FieldData :=
  match Decimal.parseBelow U32 text with
  | some n => if fits : n < U32 then some ⟨n,fits⟩ else none
  | none => none

def import_field (builder : DictionaryBuilder) (node : Node) : ParseResult DictionaryBuilder := do
  if node.tag_name ≠ ascii "field" then throw (.Error .InvalidFormat)
  let _ ← import_datatype node
  let _ ← value_restrictions_from_node node
  let name ← or_error .InvalidFormat (node.get_attribute (ascii "name"))
  let number ← or_error .InvalidFormat (node.get_attribute (ascii "number"))
  let field ← or_error .InvalidFormat (parse_tag number)
  return builder.add_field name field

def import_message (builder : DictionaryBuilder) (node : Node) : ParseResult DictionaryBuilder := do
  let (builder,layout_items) ← import_layout_items builder node.children
  let _ ← or_error .InvalidFormat (node.get_attribute (ascii "name"))
  let msg_type ← or_error .InvalidFormat (node.get_attribute (ascii "msgtype"))
  return builder.add_message ⟨msg_type,layout_items⟩

def import_named_component (builder : DictionaryBuilder) (node : Node) : ParseResult DictionaryBuilder := do
  let name ← or_error .InvalidFormat (node.get_attribute (ascii "name"))
  import_component builder node name

/-- The elements among the nodes, one after the other. -/
def import_elements (step : DictionaryBuilder → Node → ParseResult DictionaryBuilder) (builder : DictionaryBuilder) (nodes : List Node) :
    ParseResult DictionaryBuilder :=
  (nodes.filter Node.is_element).foldlM step builder

/-- The sections of a specification, by the reader's names for them. -/
structure QuickFixReader where
  node_with_header : Node
  node_with_trailer : Node
  node_with_components : Node
  node_with_messages : Node
  node_with_fields : Node

def find_tagged_child (root : Node) (tag : String) : ParseResult Node :=
  or_error (.InvalidData ("<" ++ tag ++ "> tag not found")) (root.children.find? (fun n => n.has_tag_name (ascii tag)))

namespace QuickFixReader

/-- The version is read from the attributes of the root; what is modelled of it is that
    it has to be there. -/
def empty (root : Node) : ParseResult QuickFixReader := do
  let _ ← or_error (.InvalidData "No version attribute.") (root.get_attribute (ascii "type"))
  let _ ← or_error (.InvalidData "No major version attribute.") (root.get_attribute (ascii "major"))
  let _ ← or_error (.InvalidData "No minor version attribute.") (root.get_attribute (ascii "minor"))
  let node_with_header ← find_tagged_child root "header"
  let node_with_trailer ← find_tagged_child root "trailer"
  let node_with_messages ← find_tagged_child root "messages"
  let node_with_components ← find_tagged_child root "components"
  let node_with_fields ← find_tagged_child root "fields"
  return { node_with_header,node_with_trailer,node_with_components,node_with_messages,node_with_fields }

/-- The dictionary of the document with this root element. -/
def new (root : Node) : ParseResult Dictionary := do
  let reader ← empty root
  let builder ← import_elements import_field .new reader.node_with_fields.children
  let builder ← import_elements import_named_component builder reader.node_with_components.children
  let builder ← import_elements import_message builder reader.node_with_messages.children
  let builder ← import_component builder reader.node_with_header (ascii "StandardHeader")
  let builder ← import_component builder reader.node_with_trailer (ascii "StandardTrailer")
  return builder.dict

end QuickFixReader

/-! ### What the reader leaves -/

/-- The layout refers to the tag, itself or in one of its groups. -/
inductive Uses : List LayoutItemData → Nat → Prop where
  | field {items : List LayoutItemData} {required : Bool} {tag : Nat} (listed : .Field required tag ∈ items) : Uses items tag
  | group {items inner : List LayoutItemData} {required : Bool} {tag : Nat} (listed : .Group required tag inner ∈ items) :
    Uses items tag
  | inside {items inner : List LayoutItemData} {required : Bool} {len_field_tag tag : Nat}
    (listed : .Group required len_field_tag inner ∈ items) (deeper : Uses inner tag) : Uses items tag

/-- Every field that the layout refers to is known, and has a tag. -/
def Wired (dict : Dictionary) (items : List LayoutItemData) : Prop :=
  ∀ tag, Uses items tag → 0 < tag ∧ (dict.field_by_tag tag).isSome = true

structure AllWired (dict : Dictionary) : Prop where
  components : ∀ c ∈ dict.components_by_name, Wired dict c.layout_items
  messages : ∀ message ∈ dict.messages_by_msgtype, Wired dict message.layout_items

theorem or_panic_ok {α : Type} {message : String} {value : Option α} {a : α} : or_panic message value = .ok a ↔ value = some a := by
  cases value <;> simp [or_panic]

theorem named_tag_known {builder : DictionaryBuilder} {kind : String} {name : Bytes} {tag : Nat}
    (found : named_tag builder kind name = .ok tag) : 0 < tag ∧ (builder.dict.field_by_tag tag).isSome = true := by
  unfold named_tag at found
  obtain ⟨field,named,found⟩ := MessageBuilder.bind_eq_ok.mp found
  obtain ⟨tag',converted,found⟩ := MessageBuilder.bind_eq_ok.mp found
  cases found
  rw [or_panic_ok] at named converted
  have same : tag'.get = field.tag := by
    unfold TagU32.new at converted
    split_ifs at converted
    cases converted
    rfl
  refine ⟨tag'.pos,?_⟩
  unfold DictionaryBuilder.field_by_name at named
  split at named
  · rename_i n t listed
    have keyed : field.tag = t := (IndexMap.mem_of_get named).2
    rw [same,keyed,named]
    rfl
  · cases named

theorem Wired.cons {dict : Dictionary} {item : LayoutItemData} {items : List LayoutItemData} (first : Wired dict [item])
    (rest : Wired dict items) : Wired dict (item :: items) := by
  intro tag used
  cases used with
  | field listed =>
    rcases List.mem_cons.mp listed with rfl | later
    · exact first tag (.field List.mem_cons_self)
    · exact rest tag (.field later)
  | group listed =>
    rcases List.mem_cons.mp listed with rfl | later
    · exact first tag (.group List.mem_cons_self)
    · exact rest tag (.group later)
  | inside listed deeper =>
    rcases List.mem_cons.mp listed with rfl | later
    · exact first tag (.inside List.mem_cons_self deeper)
    · exact rest tag (.inside later deeper)

theorem Wired.nil (dict : Dictionary) : Wired dict [] := by
  intro tag used
  cases used <;> contradiction

mutual
theorem import_layout_item_wired : ∀ {node : Node} {builder builder' : DictionaryBuilder} {item : LayoutItemData},
    import_layout_item builder node = .ok (builder',item) → builder' = builder ∧ Wired builder.dict [item]
  | .Text text,builder,builder',item,imported => by
    rw [import_layout_item] at imported
    cases imported
  | .Element tag_name attributes children,builder,builder',item,imported => by
    rw [import_layout_item] at imported
    obtain ⟨name,named,imported⟩ := MessageBuilder.bind_eq_ok.mp imported
    obtain ⟨required,flagged,imported⟩ := MessageBuilder.bind_eq_ok.mp imported
    rw [or_panic_ok] at flagged
    have reference : (Node.Element tag_name attributes []).has_attribute (ascii "required") = true := by
      rw [Node.has_attribute,flagged]
      rfl
    split_ifs at imported with is_field is_component is_group
    · obtain ⟨tag,found,imported⟩ := MessageBuilder.bind_eq_ok.mp imported
      cases imported
      refine ⟨rfl,fun used member => ?_⟩
      cases member with
      | field listed =>
        cases List.mem_singleton.mp listed
        exact named_tag_known found
      | group listed => cases List.mem_singleton.mp listed
      | inside listed deeper => cases List.mem_singleton.mp listed
    · cases imported
      refine ⟨rfl,fun used member => ?_⟩
      cases member with
      | field listed => cases List.mem_singleton.mp listed
      | group listed => cases List.mem_singleton.mp listed
      | inside listed deeper => cases List.mem_singleton.mp listed
    · obtain ⟨tag,found,imported⟩ := MessageBuilder.bind_eq_ok.mp imported
      obtain ⟨⟨builder₁,items⟩,inner,imported⟩ := MessageBuilder.bind_eq_ok.mp imported
      cases imported
      obtain ⟨rfl,wired⟩ := import_layout_items_wired inner
      refine ⟨rfl,fun used member => ?_⟩
      cases member with
      | field listed => cases List.mem_singleton.mp listed
      | group listed =>
        cases List.mem_singleton.mp listed
        exact named_tag_known found
      | inside listed deeper =>
        cases List.mem_singleton.mp listed
        exact wired used deeper
theorem import_layout_items_wired : ∀ {nodes : List Node} {builder builder' : DictionaryBuilder} {items : List LayoutItemData},
    import_layout_items builder nodes = .ok (builder',items) → builder' = builder ∧ Wired builder.dict items
  | [],builder,builder',items,imported => by
    rw [import_layout_items] at imported
    cases imported
    exact ⟨rfl,Wired.nil _⟩
  | .Text text :: rest,builder,builder',items,imported => by
    rw [import_layout_items] at imported
    exact import_layout_items_wired imported
  | .Element tag_name attributes children :: rest,builder,builder',items,imported => by
    rw [import_layout_items] at imported
    obtain ⟨⟨builder₁,item⟩,first,imported⟩ := MessageBuilder.bind_eq_ok.mp imported
    obtain ⟨⟨builder₂,more⟩,later,imported⟩ := MessageBuilder.bind_eq_ok.mp imported
    cases imported
    obtain ⟨rfl,here⟩ := import_layout_item_wired first
    obtain ⟨rfl,there⟩ := import_layout_items_wired later
    exact ⟨rfl,here.cons there⟩
end

theorem import_elements_keeps {step : DictionaryBuilder → Node → ParseResult DictionaryBuilder} {P : DictionaryBuilder → Prop}
    (keeps : ∀ builder node builder', P builder → step builder node = .ok builder' → P builder') {nodes : List Node}
    {builder builder' : DictionaryBuilder} (holds : P builder) (imported : import_elements step builder nodes = .ok builder') :
    P builder' := by
  unfold import_elements at imported
  generalize nodes.filter Node.is_element = elements at imported
  induction elements generalizing builder with
  | nil =>
    cases imported
    exact holds
  | cons node rest ih =>
    rw [List.foldlM_cons] at imported
    obtain ⟨builder₁,first,imported⟩ := MessageBuilder.bind_eq_ok.mp imported
    exact ih (keeps builder node builder₁ holds first) imported

theorem AllWired.add_component {builder : DictionaryBuilder} {component : ComponentData} (wired : AllWired builder.dict)
    (fresh : Wired builder.dict component.layout_items) : AllWired (builder.add_component component).dict := by
  refine ⟨fun c member => ?_,wired.messages⟩
  rcases IndexMap.mem_insert member with rfl | old
  · exact fresh
  · exact wired.components c old

theorem AllWired.add_message {builder : DictionaryBuilder} {message : MessageData} (wired : AllWired builder.dict)
    (fresh : Wired builder.dict message.layout_items) : AllWired (builder.add_message message).dict := by
  refine ⟨wired.components,fun m member => ?_⟩
  rcases IndexMap.mem_insert member with rfl | old
  · exact fresh
  · exact wired.messages m old

theorem import_component_wired {builder builder' : DictionaryBuilder} {node : Node} {name : Bytes} (wired : AllWired builder.dict)
    (imported : import_component builder node name = .ok builder') : AllWired builder'.dict := by
  unfold import_component at imported
  split_ifs at imported
  · cases imported
    exact wired
  · obtain ⟨⟨builder₁,items⟩,inner,imported⟩ := MessageBuilder.bind_eq_ok.mp imported
    cases imported
    obtain ⟨rfl,fresh⟩ := import_layout_items_wired inner
    exact wired.add_component fresh

theorem import_message_wired {builder builder' : DictionaryBuilder} {node : Node} (wired : AllWired builder.dict)
    (imported : import_message builder node = .ok builder') : AllWired builder'.dict := by
  unfold import_message at imported
  obtain ⟨⟨builder₁,items⟩,inner,imported⟩ := MessageBuilder.bind_eq_ok.mp imported
  obtain ⟨name,named,imported⟩ := MessageBuilder.bind_eq_ok.mp imported
  obtain ⟨msg_type,typed,imported⟩ := MessageBuilder.bind_eq_ok.mp imported
  cases imported
  obtain ⟨rfl,fresh⟩ := import_layout_items_wired inner
  exact wired.add_message fresh

theorem import_field_empty {builder builder' : DictionaryBuilder} {node : Node}
    (empty : builder.dict.components_by_name = [] ∧ builder.dict.messages_by_msgtype = [])
    (imported : import_field builder node = .ok builder') :
    builder'.dict.components_by_name = [] ∧ builder'.dict.messages_by_msgtype = [] := by
  unfold import_field at imported
  split_ifs at imported
  · cases imported
  · obtain ⟨_,_,imported⟩ := MessageBuilder.bind_eq_ok.mp imported
    obtain ⟨_,_,imported⟩ := MessageBuilder.bind_eq_ok.mp imported
    obtain ⟨_,_,imported⟩ := MessageBuilder.bind_eq_ok.mp imported
    obtain ⟨_,_,imported⟩ := MessageBuilder.bind_eq_ok.mp imported
    obtain ⟨_,_,imported⟩ := MessageBuilder.bind_eq_ok.mp imported
    cases imported
    exact empty

/-- In a dictionary that was read, every reference to a field leads to one. -/
theorem read_wired {root : Node} {dict : Dictionary} (read : QuickFixReader.new root = .ok dict) : AllWired dict := by
  unfold QuickFixReader.new at read
  obtain ⟨reader,-,read⟩ := MessageBuilder.bind_eq_ok.mp read
  obtain ⟨fields,imported,read⟩ := MessageBuilder.bind_eq_ok.mp read
  have empty : fields.dict.components_by_name = [] ∧ fields.dict.messages_by_msgtype = [] :=
    import_elements_keeps (P := fun b => b.dict.components_by_name = [] ∧ b.dict.messages_by_msgtype = [])
      (fun _ _ _ empty step => import_field_empty empty step) ⟨rfl,rfl⟩ imported
  have start : AllWired fields.dict := by
    refine ⟨?_,?_⟩
    · rw [empty.1]
      simp
    · rw [empty.2]
      simp
  obtain ⟨components,imported,read⟩ := MessageBuilder.bind_eq_ok.mp read
  have blocks : AllWired components.dict := by
    refine import_elements_keeps (P := fun b => AllWired b.dict) (fun b node b' wired step => ?_) start imported
    obtain ⟨name,-,step⟩ := MessageBuilder.bind_eq_ok.mp step
    exact import_component_wired wired step
  obtain ⟨messages,imported,read⟩ := MessageBuilder.bind_eq_ok.mp read
  have layouts : AllWired messages.dict :=
    import_elements_keeps (P := fun b => AllWired b.dict) (fun _ _ _ wired step => import_message_wired wired step) blocks imported
  obtain ⟨headed,imported,read⟩ := MessageBuilder.bind_eq_ok.mp read
  have header := import_component_wired layouts imported
  obtain ⟨trailed,imported,read⟩ := MessageBuilder.bind_eq_ok.mp read
  cases read
  exact import_component_wired header imported

end QuickFix
end HotFix
