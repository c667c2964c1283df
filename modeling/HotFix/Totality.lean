import HotFix.Declared

/-!
Where the builder panics. With overflow checks it stops at a tag text that the
arithmetic of `tag_from_bytes` cannot take, at a BodyLength near the end of the
range, and at a MsgType that is not text. With groups that have a field it stops
nowhere else.
-/
namespace HotFix

/-! ### Groups that have a field -/

/-- The layout has a group of `inner`, at any depth. -/
inductive GroupWithin (dict : Dictionary) (inner : List LayoutItemData) : List LayoutItemData → Prop where
  | here {items : List LayoutItemData} {required : Bool} {tag : Nat} (listed : .Group required tag inner ∈ items) :
    GroupWithin dict inner items
  | group {items outer : List LayoutItemData} {required : Bool} {tag : Nat} (listed : .Group required tag outer ∈ items)
    (inside : GroupWithin dict inner outer) : GroupWithin dict inner items
  | component {items : List LayoutItemData} {required : Bool} {name : Bytes} {c : ComponentData}
    (listed : .Component required name ∈ items) (found : dict.component_by_name name = some c)
    (inside : GroupWithin dict inner c.layout_items) : GroupWithin dict inner items

/-- Every group of the layout declares a field. -/
def LayoutNonEmpty (dict : Dictionary) (items : List LayoutItemData) : Prop :=
  ∀ inner, GroupWithin dict inner items → ∃ tag, Declared dict inner tag

/-- Every group of a message declares a field. -/
def Dictionary.GroupsNonEmpty (dict : Dictionary) : Prop :=
  ∀ message ∈ dict.messages_by_msgtype, LayoutNonEmpty dict message.layout_items

theorem flat_results_reports {α β : Type} (f : α → ParserResult (List β)) (as : List α) (e : ParserError) :
    flat_results f as ≠ .error (.Error e) := by
  induction as with
  | nil =>
    intro failed
    cases failed
  | cons a rest ih =>
    rw [flat_results]
    rcases f a with (_ | _) | xs
    · exact ih
    · intro failed
      cases failed
    · dsimp only
      rcases more : flat_results f rest with (e' | _) | ys
      · intro failed
        cases failed
        exact ih more
      · intro failed
        cases failed
      · intro failed
        cases failed

theorem flat_results_nonempty {α β : Type} {f : α → ParserResult (List β)} {as : List α} {bs : List β} {a : α}
    (flat : flat_results f as = .ok bs) (member : a ∈ as) (reports : ∀ e, f a ≠ .error (.Error e))
    (nonempty : ∀ xs, f a = .ok xs → xs ≠ []) : bs ≠ [] := by
  induction as generalizing bs with
  | nil => cases member
  | cons first rest ih =>
    rw [flat_results] at flat
    rcases result : f first with (e | message) | xs
    · rw [result] at flat
      rcases List.mem_cons.mp member with rfl | later
      · exact absurd result (reports e)
      · exact ih flat later
    · rw [result] at flat
      cases flat
    · rw [result] at flat
      rcases more : flat_results f rest with stop | ys
      · rw [more] at flat
        cases flat
      · rw [more] at flat
        cases flat
        rcases List.mem_cons.mp member with rfl | later
        · exact List.append_ne_nil_of_left_ne_nil (nonempty xs result) ys
        · exact List.append_ne_nil_of_right_ne_nil xs (ih more later)

/-- The one field of an item that is a field or counts a group. -/
theorem panic_extracts {message : String} :
    (∀ e, (.error (.Panic message) : ParserResult (List FieldSpecification)) ≠ .error (.Error e)) ∧
      ∀ xs, (.error (.Panic message) : ParserResult (List FieldSpecification)) = .ok xs → xs ≠ [] := by
  constructor
  · intro e failed
    cases failed
  · intro xs same
    cases same

theorem extract_one {dict : Dictionary} {n : Nat} {required : Bool} {result : ParserResult (List FieldSpecification)}
    (extracts : result = do
      let field ← unwrap (dict.field_by_tag n)
      return [⟨← field.tag_u32,required⟩]) :
    (∀ e, result ≠ .error (.Error e)) ∧ ∀ xs, result = .ok xs → xs ≠ [] := by
  subst extracts
  cases dict.field_by_tag n with
  | none => exact panic_extracts
  | some field =>
    simp only [unwrap,bind,Except.bind,FieldData.tag_u32]
    cases TagU32.new field.tag with
    | none => exact panic_extracts
    | some tag =>
      constructor
      · intro e failed
        cases failed
      · rintro xs same rfl
        cases same

/-- What a layout with a declared field yields is not empty. -/
theorem extract_nonempty {dict : Dictionary} {items : List LayoutItemData} {tag : TagU32} (declared : Declared dict items tag) :
    ∀ depth fields, flat_results (extract_fields dict depth) items = .ok fields → fields ≠ [] := by
  induction declared with
  | @field items required tag listed =>
    intro depth fields flat
    have one := @extract_one dict tag.get required (extract_fields dict depth (.Field required tag.get)) (by rw [extract_fields])
    exact flat_results_nonempty flat listed one.1 one.2
  | @group items inner required tag listed =>
    intro depth fields flat
    have one := @extract_one dict tag.get required (extract_fields dict depth (.Group required tag.get inner)) (by rw [extract_fields])
    exact flat_results_nonempty flat listed one.1 one.2
  | @component items required name c tag listed found inside ih =>
    intro depth fields flat
    have inner : ∀ result, extract_fields dict depth (.Component required name) = result →
        (∀ e, result ≠ .error (.Error e)) ∧ ∀ xs, result = .ok xs → xs ≠ [] := by
      cases depth with
      | zero =>
        rintro result rfl
        rw [extract_fields]
        exact panic_extracts
      | succ depth =>
        rintro result rfl
        rw [extract_fields,found]
        simp only [unwrap,bind,Except.bind,component_name found,found,ok_or]
        exact ⟨flat_results_reports _ _,ih depth⟩
    exact flat_results_nonempty flat listed (inner _ rfl).1 (inner _ rfl).2

theorem nestedNonEmpty_iff {groups : Groups} : GroupSpecification.NestedNonEmpty groups ↔ ∀ g ∈ groups, g.2.NonEmpty := by
  induction groups with
  | nil => simp [GroupSpecification.NestedNonEmpty]
  | cons g rest ih =>
    obtain ⟨tag,spec⟩ := g
    simp [GroupSpecification.NestedNonEmpty,ih]

theorem DeclaredGroup.within {dict : Dictionary} {inner items : List LayoutItemData} {tag : TagU32}
    (group : DeclaredGroup dict inner items tag) : GroupWithin dict inner items := by
  induction group with
  | group listed => exact .here listed
  | component listed found _ ih => exact .component listed found ih

theorem DeclaredGroup.deeper {dict : Dictionary} {inner innermost items : List LayoutItemData} {tag : TagU32}
    (group : DeclaredGroup dict inner items tag) (within : GroupWithin dict innermost inner) :
    GroupWithin dict innermost items := by
  induction group with
  | group listed => exact .group listed within
  | component listed found _ ih => exact .component listed found ih

mutual
/-- Groups that are derived from a layout whose groups declare a field have one. -/
theorem Derived.nonempty {dict : Dictionary} : ∀ {spec : GroupSpecification} {items : List LayoutItemData},
    Derived dict items spec → (∃ tag, Declared dict items tag) → LayoutNonEmpty dict items → spec.NonEmpty
  | .mk _ _ _,_,derived,⟨_,declared⟩,nonempty =>
    ⟨extract_nonempty declared _ _ derived.1,AllDerived.nonempty derived.2 nonempty⟩
theorem AllDerived.nonempty {dict : Dictionary} : ∀ {groups : List (TagU32 × GroupSpecification)} {items : List LayoutItemData},
    AllDerived dict items groups → LayoutNonEmpty dict items → GroupSpecification.NestedNonEmpty groups
  | [],_,_,_ => trivial
  | (_,_) :: _,_,derived,nonempty => by
    obtain ⟨⟨inner,group,inside⟩,others⟩ := derived
    refine ⟨inside.nonempty (nonempty inner group.within) ?_,AllDerived.nonempty others nonempty⟩
    exact fun innermost within => nonempty innermost (group.deeper within)
end

namespace MessageBuilder

/-- The specifications of a dictionary whose groups have fields have a delimiter in
    every group. -/
theorem specified_nonempty {dict : Dictionary} {config : Config} {b : MessageBuilder} (made : new dict config = .ok b)
    (nonempty : dict.GroupsNonEmpty) {name : Bytes} {spec : MessageSpecification} (specified : b.get_message_def name = .ok spec) :
    GroupsNonEmpty spec := by
  obtain ⟨_,_,made⟩ := made_of_new made
  obtain ⟨message,found,derived⟩ := made.specified name spec specified
  have all := (message_specification_derived derived).2.nonempty (nonempty message (IndexMap.mem_of_get found).1)
  intro tag group_def looked_up
  obtain ⟨⟨key,_⟩,member,rfl⟩ := Option.map_eq_some_iff.mp looked_up
  exact nestedNonEmpty_iff.mp all _ (IndexMap.mem_of_get member).1

/-! ### Where the builder panics -/

/-- The bytes start with a field whose tag text cannot be taken: it has a byte below
    the digits, or a number of 32 bits overflows on it. -/
def Unreadable (separator : UInt8) (bytes : Bytes) : Prop :=
  ∃ text data tail, FieldAt separator bytes text data tail ∧ ∃ message, tag_from_bytes .exact text = .error message

/-- The first two fields of a message, as the integrity check reads them. -/
structure Leads (config : Config) (data : Bytes) (begin_string body_length : Field) (p₁ p₂ : Parser) (n : Nat) : Prop where
  first : (⟨0,data,config⟩ : Parser).next_field .exact = .ok (some (begin_string,p₁))
  first_tag : begin_string.tag = BEGIN_STRING.tag
  second : p₁.next_field .exact = .ok (some (body_length,p₂))
  second_tag : body_length.tag = BODY_LENGTH.tag
  length : Decimal.parseBelow U64 body_length.data = some n

/-- The integrity check comes to something that it cannot take. -/
inductive IntegrityStumbles (config : Config) (data : Bytes) : Prop where
  | first (unreadable : Unreadable config.separator data)
  | second {begin_string : Field} {p₁ : Parser}
    (first : (⟨0,data,config⟩ : Parser).next_field .exact = .ok (some (begin_string,p₁)))
    (first_tag : begin_string.tag = BEGIN_STRING.tag)
    (unreadable : Unreadable config.separator (data.drop p₁.position))
  | length {begin_string body_length : Field} {p₁ p₂ : Parser} {n : Nat}
    (leads : Leads config data begin_string body_length p₁ p₂ n) (overflows : U64 ≤ p₂.position + n + CHECKSUM_LENGTH)
  | checksum {begin_string body_length : Field} {p₁ p₂ : Parser} {n : Nat}
    (leads : Leads config data begin_string body_length p₁ p₂ n) (total : p₂.position + n + CHECKSUM_LENGTH = data.length)
    (fits : data.length < U64) (unreadable : Unreadable config.separator (data.drop (p₂.position + n)))
  | third {begin_string body_length checksum : Field} {p₁ p₂ : Parser} {n end_position : Nat}
    (leads : Leads config data begin_string body_length p₁ p₂ n) (total : p₂.position + n + CHECKSUM_LENGTH = data.length)
    (fits : data.length < U64)
    (last : p₂.parse_field_at .exact (p₂.position + n) = .ok (some (checksum,end_position)))
    (last_tag : checksum.tag = CHECK_SUM.tag) (agrees : SumAgrees data (p₂.position + n) checksum)
    (unreadable : Unreadable config.separator (data.drop p₂.position))

/-- The message is intact and its header section has been read up to where it stops. -/
def Headed (b : MessageBuilder) (data : Bytes) (header trailer : FieldMap) (stop : Stop) : Prop :=
  ∃ begin_string body_length msg_type checksum p₁ p₂ p₃ n body_end fields,
    Framing .exact b.config data begin_string body_length msg_type checksum p₁ p₂ p₃ n body_end ∧
    SumAgrees data body_end checksum ∧ Scan .exact msg_type p₃ (msg_type :: fields) stop ∧
    (∀ f ∈ fields, b.is_header_tag f.tag = true) ∧ (∀ tag ∈ stop.tag, ¬ b.is_header_tag tag = true) ∧
    header = FieldMap.empty.insert_fields ([begin_string,body_length,msg_type] ++ fields) ∧
    trailer = FieldMap.empty.insert_fields [checksum]

/-- The header of a known message type has been read, up to the field in hand. -/
structure Named (b : MessageBuilder) (data : Bytes) (header trailer : FieldMap) (next : Field) (parser : Parser)
    (spec : MessageSpecification) : Prop where
  headed : b.Headed data header trailer (.ahead next parser)
  named : ∃ name, header.get_str MSG_TYPE = some name ∧ (b.dict.message_by_msgtype name).isSome = true ∧
    b.get_message_def name = .ok spec

/-- The builder comes to something that it cannot take. -/
inductive Stumbles (b : MessageBuilder) (data : Bytes) : Prop where
  | integrity (stumbles : IntegrityStumbles b.config data)
  | header {header trailer : FieldMap} {message : String} (headed : b.Headed data header trailer (.stuck message))
  | msg_type {header trailer : FieldMap} {next : Field} {parser : Parser}
    (headed : b.Headed data header trailer (.ahead next parser)) (unnamed : header.get_str MSG_TYPE = none)
  | body {header trailer : FieldMap} {next : Field} {parser : Parser} {spec : MessageSpecification} {items : List Item}
    {message : String} (named : b.Named data header trailer next parser spec)
    (body : BodyParse .exact b spec next parser items (.stuck message))
  | trailer {header trailer : FieldMap} {next first_trailer : Field} {parser p₅ : Parser} {spec : MessageSpecification}
    {items : List Item} {fields : List Field} {message : String} (named : b.Named data header trailer next parser spec)
    (body : BodyParse .exact b spec next parser items (.ahead first_trailer p₅))
    (starts : b.is_trailer_tag first_trailer.tag = true)
    (scan : Scan .exact first_trailer p₅ fields (.stuck message)) (others : ∀ f ∈ fields, f.tag ≠ CHECK_SUM.tag)

/-! ### Panics of the integrity check -/

def Panics {ε α : Type} (x : Except (Abort ε) α) : Prop := ∃ message, x = .error (.Panic message)

/-- A computation panics at its first step or behind it. -/
theorem panics_bind {ε α β : Type} {x : Except (Abort ε) α} {f : α → Except (Abort ε) β} :
    Panics (x >>= f) ↔ Panics x ∨ ∃ a, x = .ok a ∧ Panics (f a) := by
  rcases x with e | a
  · simp [Panics,bind,Except.bind]
  · simp [Panics,bind,Except.bind]

theorem panics_lift {ε α : Type} {x : Checked α} :
    Panics (x.lift : Except (Abort ε) α) ↔ ∃ message, x = .error message := by
  rcases x with e | b <;> simp [Panics,Checked.lift]

theorem usize_add_panics {a b : Nat} : (∃ message, usize_add .exact a b = .error message) ↔ U64 ≤ a + b := by
  rw [usize_add]
  split_ifs with small
  · simp [small]
  · simpa using small

theorem usize_add_exact {a b total : Nat} : usize_add .exact a b = .ok total ↔ a + b = total ∧ total < U64 := checked_eq_ok

/-- Reading at a position panics on an unreadable tag text. -/
theorem parse_field_at_panics {p : Parser} {position : Nat} (inside : position ≤ p.raw_data.length) :
    (∃ message, p.parse_field_at .exact position = .error message) ↔
      Unreadable p.config.separator (p.raw_data.drop position) := by
  constructor
  · rintro ⟨message,panics⟩
    rcases field_at_or_none p.config.separator (p.raw_data.drop position) with ⟨text,data,tail,at_field⟩ | nothing
    · rw [Parser.parse_field_at_field at_field] at panics
      rcases spelled : tag_from_bytes .exact text with message' | tag
      · exact ⟨text,data,tail,at_field,message',spelled⟩
      · rw [spelled] at panics
        cases panics
    · rw [Parser.parse_field_at_none inside nothing] at panics
      cases panics
  · rintro ⟨text,data,tail,at_field,message,spelled⟩
    refine ⟨message,?_⟩
    rw [Parser.parse_field_at_field at_field,spelled]
    rfl

theorem next_field_panics {p : Parser} (inside : p.position ≤ p.raw_data.length) :
    (∃ message, p.next_field .exact = .error message) ↔ Unreadable p.config.separator (p.raw_data.drop p.position) := by
  constructor
  · rintro ⟨message,panics⟩
    obtain ⟨text,data,tail,at_field,spelled⟩ := (Parser.next_field_error inside).mp panics
    exact ⟨text,data,tail,at_field,message,spelled⟩
  · rintro ⟨text,data,tail,at_field,message,spelled⟩
    exact ⟨message,(Parser.next_field_error inside).mpr ⟨text,data,tail,at_field,spelled⟩⟩

theorem Leads.cursor {config : Config} {data : Bytes} {begin_string body_length : Field} {p₁ p₂ : Parser} {n : Nat}
    (leads : Leads config data begin_string body_length p₁ p₂ n) :
    p₂.raw_data = data ∧ p₂.config = config ∧ p₂.position ≤ p₂.raw_data.length :=
  Framing.cursors leads.first leads.second

theorem parse_leading_panics {p : Parser} {tag : TagU32} {error : MessageIntegrityError}
    (inside : p.position ≤ p.raw_data.length) :
    Panics (p.parse_leading .exact tag error) ↔ Unreadable p.config.separator (p.raw_data.drop p.position) := by
  rw [Parser.parse_leading,panics_bind,panics_lift,next_field_panics inside]
  refine or_iff_left ?_
  rintro ⟨found,_,message,failed⟩
  rcases found with _ | ⟨f,p'⟩
  · cases failed
  · dsimp only at failed
    split_ifs at failed
    · cases failed
    · cases failed

theorem parse_checksum_panics {p : Parser} {position : Nat} (inside : position ≤ p.raw_data.length) :
    Panics (p.parse_checksum .exact position) ↔ Unreadable p.config.separator (p.raw_data.drop position) := by
  rw [Parser.parse_checksum,panics_bind,panics_lift,parse_field_at_panics inside]
  refine or_iff_left ?_
  rintro ⟨found,_,message,failed⟩
  rcases found with _ | ⟨f,end_position⟩
  · cases failed
  · dsimp only at failed
    split_ifs at failed
    · cases failed
    · cases failed

/-- A panic of the integrity check is at an unreadable tag text or at the sum of
    its lengths. -/
theorem integrity_stumbles {config : Config} {data : Bytes} (panics : Panics (verify_integrity .exact ⟨0,data,config⟩)) :
    IntegrityStumbles config data := by
  rw [verify_integrity] at panics
  rcases panics_bind.mp panics with panics | ⟨⟨begin_string,p₁⟩,first,panics⟩
  · exact .first ((parse_leading_panics (Nat.zero_le _)).mp panics)
  obtain ⟨first,first_tag⟩ := parse_leading_ok.mp first
  obtain ⟨data₁,config₁,_,inside₁⟩ := Parser.next_field_moves (Nat.zero_le _) first
  rcases panics_bind.mp panics with panics | ⟨⟨body_length,p₂⟩,second,panics⟩
  · have unreadable := (parse_leading_panics inside₁).mp panics
    rw [data₁,config₁] at unreadable
    exact .second first first_tag unreadable
  obtain ⟨second,second_tag⟩ := parse_leading_ok.mp second
  dsimp only at panics
  rw [get_body_length second_tag] at panics
  rcases length : Decimal.parseBelow U64 body_length.data with _ | n
  · rw [length] at panics
    obtain ⟨_,panics⟩ := panics
    cases panics
  rw [length] at panics
  have leads : Leads config data begin_string body_length p₁ p₂ n := ⟨first,first_tag,second,second_tag,length⟩
  obtain ⟨data₂,config₂,inside₂⟩ := leads.cursor
  rcases panics_bind.mp panics with panics | ⟨body_end,body_ends,panics⟩
  · have overflows := usize_add_panics.mp (panics_lift.mp panics)
    exact .length leads (by omega)
  rw [lift_eq_ok,usize_add_exact] at body_ends
  obtain ⟨rfl,_⟩ := body_ends
  rcases panics_bind.mp panics with panics | ⟨expected,total,panics⟩
  · exact .length leads (usize_add_panics.mp (panics_lift.mp panics))
  rw [lift_eq_ok,usize_add_exact] at total
  split_ifs at panics with differs
  · obtain ⟨_,panics⟩ := panics
    cases panics
  rw [not_not,data₂] at differs
  have total : p₂.position + n + CHECKSUM_LENGTH = data.length ∧ data.length < U64 := differs ▸ total
  rcases panics_bind.mp panics with panics | ⟨checksum,last,panics⟩
  · have unreadable := (parse_checksum_panics (by rw [data₂]; omega)).mp panics
    rw [data₂,config₂] at unreadable
    exact .checksum leads total.1 total.2 unreadable
  obtain ⟨end_position,last,last_tag⟩ := parse_checksum_ok.mp last
  rw [get_checksum last_tag,data₂] at panics
  -- behind the comparison only MsgType is left
  have only_third {next : Field × Parser → IntegrityResult (FieldMap × FieldMap × Parser)}
      (returns : ∀ found message, next found ≠ .error (.Panic message)) (rest : Panics (p₂.parse_message_type .exact >>= next)) :
      Unreadable config.separator (data.drop p₂.position) := by
    have third := (panics_bind.mp rest).resolve_right (by rintro ⟨found,_,message,failed⟩; exact returns found message failed)
    have unreadable := (parse_leading_panics inside₂).mp third
    rwa [data₂,config₂] at unreadable
  rcases reads : CheckSum.deserialize checksum.data with _ | value
  · rw [reads] at panics
    refine .third leads total.1 total.2 last last_tag (by simp [SumAgrees,reads]) (only_third ?_ panics)
    intro found message failed
    cases failed
  · rw [reads] at panics
    dsimp only at panics
    split_ifs at panics with unequal
    · obtain ⟨_,panics⟩ := panics
      cases panics
    · refine .third leads total.1 total.2 last last_tag (by simpa [SumAgrees,reads] using unequal) (only_third ?_ panics)
      intro found message failed
      cases failed

/-- What the integrity check cannot take behind BodyLength makes it panic. -/
theorem leads_panics {config : Config} {data : Bytes} {begin_string body_length : Field} {p₁ p₂ : Parser} {n : Nat}
    (leads : Leads config data begin_string body_length p₁ p₂ n)
    (stumbles : U64 ≤ p₂.position + n + CHECKSUM_LENGTH ∨
      p₂.position + n + CHECKSUM_LENGTH = data.length ∧ data.length < U64 ∧
        (Unreadable config.separator (data.drop (p₂.position + n)) ∨
          ∃ checksum end_position, p₂.parse_field_at .exact (p₂.position + n) = .ok (some (checksum,end_position)) ∧
            checksum.tag = CHECK_SUM.tag ∧ SumAgrees data (p₂.position + n) checksum ∧
            Unreadable config.separator (data.drop p₂.position))) :
    Panics (verify_integrity .exact ⟨0,data,config⟩) := by
  obtain ⟨data₂,config₂,inside₂⟩ := leads.cursor
  refine panics_bind.mpr (.inr ⟨(begin_string,p₁),parse_leading_ok.mpr ⟨leads.first,leads.first_tag⟩,?_⟩)
  refine panics_bind.mpr (.inr ⟨(body_length,p₂),parse_leading_ok.mpr ⟨leads.second,leads.second_tag⟩,?_⟩)
  dsimp only
  rw [get_body_length leads.second_tag,leads.length]
  dsimp only
  rw [panics_bind,panics_lift,usize_add_panics]
  refine or_iff_not_imp_left.mpr (fun small => ⟨p₂.position + n,lift_eq_ok.mpr (usize_add_exact.mpr ⟨rfl,by omega⟩),?_⟩)
  rw [panics_bind,panics_lift,usize_add_panics]
  refine stumbles.imp id ?_
  rintro ⟨total,fits,stumbles⟩
  refine ⟨data.length,lift_eq_ok.mpr (usize_add_exact.mpr ⟨total,fits⟩),?_⟩
  rw [if_neg (by rw [data₂]; simp),panics_bind,parse_checksum_panics (by rw [data₂]; omega),data₂,config₂]
  refine stumbles.imp id ?_
  rintro ⟨checksum,end_position,last,last_tag,agrees,unreadable⟩
  refine ⟨checksum,parse_checksum_ok.mpr ⟨end_position,last,last_tag⟩,?_⟩
  have third : Panics (p₂.parse_leading .exact MSG_TYPE.tag .InvalidMsgType) := by
    rw [parse_leading_panics inside₂,data₂,config₂]
    exact unreadable
  rw [get_checksum last_tag]
  rcases reads : CheckSum.deserialize checksum.data with _ | value
  · exact panics_bind.mpr (.inl third)
  · dsimp only
    rw [if_neg (not_not.mpr (agrees value reads))]
    exact panics_bind.mpr (.inl third)

theorem integrity_panics {config : Config} {data : Bytes} (stumbles : IntegrityStumbles config data) :
    Panics (verify_integrity .exact ⟨0,data,config⟩) := by
  cases stumbles with
  | first unreadable => exact panics_bind.mpr (.inl ((parse_leading_panics (Nat.zero_le _)).mpr unreadable))
  | @second begin_string p₁ first first_tag unreadable =>
    obtain ⟨data₁,config₁,_,inside₁⟩ := Parser.next_field_moves (Nat.zero_le _) first
    refine panics_bind.mpr (.inr ⟨(begin_string,p₁),parse_leading_ok.mpr ⟨first,first_tag⟩,?_⟩)
    refine panics_bind.mpr (.inl ((parse_leading_panics inside₁).mpr ?_))
    rw [data₁,config₁]
    exact unreadable
  | length leads overflows => exact leads_panics leads (.inl overflows)
  | checksum leads total fits unreadable => exact leads_panics leads (.inr ⟨total,fits,.inl unreadable⟩)
  | third leads total fits last last_tag agrees unreadable =>
    exact leads_panics leads (.inr ⟨total,fits,.inr ⟨_,_,last,last_tag,agrees,unreadable⟩⟩)

/-! ### Panics of the builder -/

variable {b : MessageBuilder} {data : Bytes} {header trailer : FieldMap} {stop : Stop}

theorem Headed.build_eq (headed : b.Headed data header trailer stop) :
    build .exact b data = build_headed .exact b (data.length + 1) header trailer stop := by
  obtain ⟨_,_,_,_,_,_,_,_,_,_,framing,agrees,scan,all,off,rfl,rfl⟩ := headed
  exact build_intact framing agrees scan all off

theorem Headed.cursor {next : Field} {parser : Parser} (headed : b.Headed data header trailer (.ahead next parser)) :
    parser.position ≤ parser.raw_data.length ∧ parser.raw_data = data := by
  obtain ⟨_,_,_,_,_,_,_,_,_,_,framing,_,scan,_⟩ := headed
  obtain ⟨data₃,_,inside₃⟩ := framing.third_cursor
  have onward := scan.onward inside₃
  exact ⟨onward.inside,onward.data.trans data₃⟩

private theorem enough_rounds {p : Parser} (same : p.raw_data = data) : p.remaining < data.length + 1 := by
  rw [Parser.remaining,same]
  omega

theorem Named.build_eq {next : Field} {parser : Parser} {spec : MessageSpecification}
    (named : b.Named data header trailer next parser spec) :
    ∃ name, b.get_message_def name = .ok spec ∧
      build .exact b data = build_rest .exact b (data.length + 1) header trailer name next parser := by
  obtain ⟨headed,name,found,known,specified⟩ := named
  refine ⟨name,specified,?_⟩
  rw [headed.build_eq,build_headed,found]
  exact if_pos known

/-- The builder panics on what it cannot take. -/
theorem stumbles_panics (stumbles : b.Stumbles data) : ∃ message, build .exact b data = .error message := by
  cases stumbles with
  | integrity stumbles =>
    obtain ⟨message,panics⟩ := integrity_panics stumbles
    refine ⟨message,?_⟩
    rw [build]
    dsimp only
    rw [panics]
    rfl
  | @header header trailer message headed => exact ⟨message,headed.build_eq⟩
  | msg_type headed unnamed =>
    rw [headed.build_eq,build_headed,unnamed]
    exact ⟨_,rfl⟩
  | @body header trailer next parser spec items message named body =>
    obtain ⟨name,specified,built⟩ := named.build_eq
    obtain ⟨inside,same⟩ := named.headed.cursor
    have looped : Delivers (Item.store_items FieldMap.empty items) (.stuck message)
      (body_loop .exact b spec (data.length + 1) FieldMap.empty next parser) :=
      body_loop_complete inside (enough_rounds same) body
    refine ⟨message,?_⟩
    rw [built,build_rest,build_body,specified]
    simp only [bind,Except.bind]
    rw [show body_loop .exact b spec (data.length + 1) FieldMap.empty next parser = _ from looped]
    rfl
  | @trailer header trailer next first_trailer parser p₅ spec items fields message named body starts scan others =>
    obtain ⟨name,specified,built⟩ := named.build_eq
    obtain ⟨inside,same⟩ := named.headed.cursor
    refine ⟨message,?_⟩
    rw [built,build_rest_body inside (enough_rounds same) specified body starts scan others stuck_ends]
    rfl

theorem or_invalid_panics {α : Type} {result : ParserResult α} {valid : α → Checked ParsedMessage} {message : String}
    (panics : or_invalid header result valid = .error message) :
    result = .error (.Panic message) ∨ ∃ a, result = .ok a ∧ valid a = .error message := by
  match result with
  | .ok a => exact .inr ⟨a,rfl,panics⟩
  | .error (.Error e) => cases panics
  | .error (.Panic text) =>
    cases panics
    exact .inl rfl

/-- A panic of the body is at an unreadable tag text, if the groups have a field. -/
theorem build_body_panics {rounds : Nat} {name : Bytes} {next : Field} {parser : Parser} {message : String}
    (inside : parser.position ≤ parser.raw_data.length) (enough : parser.remaining < rounds)
    (nonempty : ∀ spec, b.get_message_def name = .ok spec → GroupsNonEmpty spec)
    (panics : build_body .exact b rounds name parser next = .error (.Panic message)) :
    ∃ spec items, b.get_message_def name = .ok spec ∧ BodyParse .exact b spec next parser items (.stuck message) := by
  rw [build_body] at panics
  rcases specified : b.get_message_def name with stop | spec
  · rw [specified] at panics
    rw [get_message_def] at specified
    cases found : (IndexMap.get Prod.fst name b.message_specification).map Prod.snd <;> rw [found] at specified <;>
      cases specified
    cases panics
  rw [specified] at panics
  have followed : BodyFollowed .exact b spec FieldMap.empty next parser
    (body_loop .exact b spec rounds FieldMap.empty next parser) := body_loop_sound inside enough
  rcases followed with ⟨e,failed⟩ | ⟨items,stop,parse,delivered⟩ | ⟨empty,_⟩
  · simp only [bind,Except.bind,failed] at panics
    cases panics
  · cases stop with
    | ahead field p =>
      have looped : body_loop .exact b spec rounds FieldMap.empty next parser = _ := delivered
      simp only [bind,Except.bind,looped] at panics
      split_ifs at panics
      · cases panics
      · cases panics
    | ended =>
      obtain ⟨text,looped⟩ := delivered
      simp only [bind,Except.bind,looped] at panics
      cases panics
    | stuck text =>
      have looped : body_loop .exact b spec rounds FieldMap.empty next parser = _ := delivered
      simp only [bind,Except.bind,looped] at panics
      cases panics
      exact ⟨spec,items,rfl,parse⟩
  · exact absurd (nonempty spec specified) empty

/-- The builder panics on nothing else, if the groups have a field. -/
theorem panics_stumble {message : String} (nonempty : ∀ name spec, b.get_message_def name = .ok spec → GroupsNonEmpty spec)
    (panics : build .exact b data = .error message) : b.Stumbles data := by
  rcases verified : verify_integrity .exact ⟨0,data,b.config⟩ with stop | ⟨header,trailer,p₃⟩
  · rw [build] at panics
    dsimp only at panics
    rw [verified] at panics
    cases stop with
    | Error e => cases panics
    | Panic text => exact .integrity (integrity_stumbles ⟨text,verified⟩)
  obtain ⟨begin_string,body_length,msg_type,checksum,p₁,p₂,n,body_end,framing,agrees,rfl,rfl⟩ :=
    verify_integrity_ok.mp verified
  obtain ⟨_,_,inside₃⟩ := framing.third_cursor
  obtain ⟨fields,stop,scan,all,off⟩ := Scan.munch .exact (fun tag => b.is_header_tag tag = true) msg_type p₃ inside₃
  have headed : b.Headed data _ _ stop :=
    ⟨begin_string,body_length,msg_type,checksum,p₁,p₂,p₃,n,body_end,fields,framing,agrees,scan,all,off,rfl,rfl⟩
  rw [headed.build_eq] at panics
  cases stop with
  | ended => cases panics
  | stuck text => exact .header headed
  | ahead next parser =>
    obtain ⟨inside,same⟩ := headed.cursor
    rw [build_headed] at panics
    cases found : (FieldMap.empty.insert_fields ([begin_string,body_length,msg_type] ++ fields)).get_str MSG_TYPE with
    | none => exact .msg_type headed found
    | some name =>
      rw [found] at panics
      dsimp only at panics
      split_ifs at panics with known
      · rcases or_invalid_panics panics with panics | ⟨⟨stored,first_trailer,p₅⟩,bodied,panics⟩
        · obtain ⟨spec,items,specified,body⟩ := build_body_panics inside (enough_rounds same) (nonempty name) panics
          exact .body ⟨headed,name,found,known,specified⟩ body
        · obtain ⟨spec,items,specified,body,starts,rfl⟩ := build_body_ok inside (enough_rounds same) bodied
          have onward := body.scan.onward inside
          obtain ⟨fields,stop,scan,others,ends⟩ := trailer_section .exact first_trailer p₅ onward.inside
          dsimp only at panics
          rw [build_trailer_eq onward.inside (enough_rounds (onward.data.trans same)) scan others ends] at panics
          cases stop with
          | stuck text => exact .trailer ⟨headed,name,found,known,specified⟩ body starts scan others
          | ended => cases panics
          | ahead next parser => cases panics

/-- With overflow checks, the builder returns a result if and only if it comes to
    nothing that it cannot take. -/
theorem build_total_iff {dict : Dictionary} {config : Config} (made : new dict config = .ok b) (nonempty : dict.GroupsNonEmpty)
    (data : Bytes) : (∃ parsed, build .exact b data = .ok parsed) ↔ ¬ b.Stumbles data := by
  constructor
  · rintro ⟨parsed,built⟩ stumbles
    obtain ⟨message,panics⟩ := stumbles_panics stumbles
    rw [built] at panics
    cases panics
  · intro steady
    rcases built : build .exact b data with message | parsed
    · exact absurd (panics_stumble (fun _ _ specified => specified_nonempty made nonempty specified) built) steady
    · exact ⟨parsed,rfl⟩

theorem small_dictionary_nonempty : SmallDictionary.dict.GroupsNonEmpty := by
  intro message member inner within
  obtain rfl : message = SmallDictionary.news := by simpa [SmallDictionary.dict] using member
  cases within with
  | here listed =>
    simp only [SmallDictionary.news,List.mem_cons,LayoutItemData.Group.injEq,List.not_mem_nil,or_false,reduceCtorEq,
      false_or] at listed
    obtain ⟨_,_,rfl⟩ := listed
    exact ⟨SmallDictionary.PARTY_ID,.field (show LayoutItemData.Field true SmallDictionary.PARTY_ID.get ∈ _ from List.mem_cons_self)⟩
  | group listed inside =>
    simp only [SmallDictionary.news,List.mem_cons,LayoutItemData.Group.injEq,List.not_mem_nil,or_false,reduceCtorEq,
      false_or] at listed
    obtain ⟨_,_,rfl⟩ := listed
    cases inside with
    | here listed => simp at listed
    | group listed _ => simp at listed
    | component listed _ _ => simp at listed
  | component listed _ _ => simp [SmallDictionary.news] at listed

theorem plain_news_total_iff : SmallDictionary.dict.GroupsNonEmpty ∧
    ((∃ parsed, build .exact SmallDictionary.builder (ascii "8=F|9=10|35=B|58=x|10=139|") = .ok parsed) ↔
      ¬ SmallDictionary.builder.Stumbles (ascii "8=F|9=10|35=B|58=x|10=139|")) :=
  ⟨small_dictionary_nonempty,build_total_iff SmallDictionary.builder_made small_dictionary_nonempty _⟩

/-- A tag text with a byte below the digits makes the builder panic. -/
theorem minus_sign_panics : ¬ ∀ (dict : Dictionary) (config : Config) (b : MessageBuilder) (data : Bytes),
    new dict config = .ok b → dict.GroupsNonEmpty → ∃ parsed, build .exact b data = .ok parsed := by
  intro total
  obtain ⟨parsed,built⟩ := total SmallDictionary.dict SmallDictionary.config SmallDictionary.builder (ascii "-8=F|")
    SmallDictionary.builder_made small_dictionary_nonempty
  have panics : build .exact SmallDictionary.builder (ascii "-8=F|") = .error "attempt to subtract with overflow" := rfl
  rw [panics] at built
  cases built

end MessageBuilder
end HotFix
