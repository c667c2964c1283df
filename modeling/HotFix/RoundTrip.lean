import HotFix.Conformity
import HotFix.Integrity

/-!
Encoding and building. What `encode` writes of a message is read back field by
field, and a message that conforms to the dictionary falls into the sections it was
written in.
-/
namespace HotFix

/-! ### Reading what was written -/

namespace FieldMap

theorem field_at_wire {separator : UInt8} {f : Field} {rest : List Field} (free : separator ∉ f.data) :
    FieldAt separator (wire_bytes separator (f :: rest)) (Decimal.decimal f.tag.get) f.data (wire_bytes separator rest) := by
  refine ⟨?_,(spells_decimal f.tag).no_equal_sign,free⟩
  simp [wire_bytes,write_field]

end FieldMap

namespace Parser
open FieldMap
variable {arith : Arith} {p : Parser} {f : Field} {rest : List Field}

/-- These fields are written from the cursor to the end. -/
def Ahead (p : Parser) (fields : List Field) : Prop := p.raw_data.drop p.position = wire_bytes p.config.separator fields

/-- The cursor behind a field. -/
def advance (p : Parser) (f : Field) : Parser := { p with position := p.position + f.calculate_length }

theorem next_field_wire (ahead : p.Ahead (f :: rest)) (free : p.config.separator ∉ f.data) :
    p.next_field arith = .ok (some (f,p.advance f)) ∧ (p.advance f).Ahead rest := by
  have at_field := @field_at_wire p.config.separator f rest free
  rw [← ahead] at at_field
  have length : p.position + (Decimal.decimal f.tag.get).length + f.data.length + 2 = p.position + f.calculate_length := by
    rw [Field.calculate_length]
    omega
  constructor
  · rw [next_field_spelled at_field (spells_decimal f.tag),length]
    rfl
  · rw [Ahead,advance]
    dsimp only
    rw [← length,at_field.behind]

/-- From the field in hand to another one of those that were written. -/
theorem scan_wire {first next : Field} {more fields : List Field} (split : first :: more = fields ++ next :: rest)
    (ahead : p.Ahead more) (free : ∀ g ∈ more, p.config.separator ∉ g.data) :
    ∃ q, Scan arith first p fields (.ahead next q) ∧ q.Ahead rest ∧ q.config = p.config := by
  induction fields generalizing first more p with
  | nil =>
    cases split
    exact ⟨p,.here next p,ahead,rfl⟩
  | cons g fields ih =>
    rw [List.cons_append,List.cons.injEq] at split
    obtain ⟨rfl,rfl⟩ := split
    cases listed : fields ++ next :: rest with
    | nil => simp at listed
    | cons h others =>
      rw [listed] at ahead free
      obtain ⟨read,behind⟩ := @next_field_wire arith p h others ahead (free h (by simp))
      obtain ⟨q,scan,left,config⟩ := ih listed.symm behind (fun g member => free g (by simp [member]))
      exact ⟨q,.next read scan,left,config⟩

end Parser

/-! ### The fields of a frame -/

open FieldMap

/-- The fields of a frame in front of the checksum, with the length of those behind
    BodyLength. -/
def front_fields (begin_string msg_type : Field) (rest : List Field) : List Field :=
  [begin_string,⟨BODY_LENGTH.tag,Decimal.decimal (fields_length (msg_type :: rest))⟩,msg_type] ++ rest

def sum_field (separator : UInt8) (front : List Field) : Field :=
  ⟨CHECK_SUM.tag,Message.three_digits (CheckSum.compute (wire_bytes separator front)).toNat⟩

def frame_fields (separator : UInt8) (begin_string msg_type : Field) (rest : List Field) : List Field :=
  front_fields begin_string msg_type rest ++ [sum_field separator (front_fields begin_string msg_type rest)]

theorem sum_field_length (separator : UInt8) (front : List Field) : (sum_field separator front).calculate_length = 7 := by
  have digits : (Decimal.decimal CHECK_SUM.tag.get).length = 2 := by decide
  rw [Field.calculate_length,sum_field,digits]
  rfl

/-! ### What is encoded -/

/-- The fields that `encode` writes behind MsgType, without the checksum. -/
def Message.rest_fields (m : Message) (header trailer : List Field) : List Field :=
  header ++ (Item.flatten_items m.body.tree ++ trailer)

open Message

/-- What `encode` finds of a message: its first fields, the other fields of the
    header, and the trailer without a checksum. -/
structure Message.Parts (m : Message) (begin_string msg_type : Field) (header trailer : List Field) : Prop where
  header_flat : m.header.groups = []
  header_distinct : (m.header.fields.map Field.tag).Nodup
  first : IndexMap.get Field.tag BEGIN_STRING.tag m.header.fields = some begin_string
  third : IndexMap.get Field.tag MSG_TYPE.tag m.header.fields = some msg_type
  others : m.header.fields.filter (fun f => !starting_fields.contains f.tag) = header
  trailer_flat : m.trailer.groups = []
  rest : m.trailer.fields.eraseP (fun f => f.tag = CHECK_SUM.tag) = trailer
  trailer_distinct : (trailer.map Field.tag).Nodup
  no_checksum : ∀ f ∈ trailer, f.tag ≠ CHECK_SUM.tag
  tidy : m.body.Tidy

namespace Message.Parts
variable {m : Message} {begin_string msg_type : Field} {header trailer : List Field}
  (parts : m.Parts begin_string msg_type header trailer)
include parts

/-- The fields of a header behind BodyLength. -/
theorem header_length :
    FieldMap.calculate_length [BEGIN_STRING.tag,BODY_LENGTH.tag] m.header = fields_length (msg_type :: header) := by
  rw [length_flat parts.header_flat]
  obtain ⟨behind,filtered⟩ : ∃ behind, m.header.fields.filter (fun f => !(([BEGIN_STRING.tag,BODY_LENGTH.tag] : List TagU32).contains f.tag)) = behind :=
    ⟨_,rfl⟩
  have keys : (behind.map Field.tag).Nodup := by
    rw [← filtered]
    exact (List.filter_sublist.map _).nodup parts.header_distinct
  have found : IndexMap.get Field.tag MSG_TYPE.tag behind = some msg_type := by
    obtain ⟨member,tag⟩ := IndexMap.mem_of_get parts.third
    rw [← tag]
    refine IndexMap.get_of_mem keys ?_
    rw [← filtered,List.mem_filter,tag]
    exact ⟨member,by decide⟩
  have others : behind.filter (fun f => !(([MSG_TYPE.tag] : List TagU32).contains f.tag)) = header := by
    rw [← filtered,List.filter_filter,← parts.others]
    refine List.filter_congr (fun f _ => ?_)
    simp only [starting_fields,List.contains_cons,List.contains_nil,Bool.or_false,Bool.not_or]
    rw [Bool.and_comm,Bool.and_assoc]
  have chosen : [MSG_TYPE.tag].filterMap (fun tag => IndexMap.get Field.tag tag behind) = [msg_type] := by simp [found]
  have ordered := IndexMap.ordered_perm (List.nodup_singleton MSG_TYPE.tag) keys
  rw [chosen,others] at ordered
  rw [filtered,fields_length,fields_length]
  exact ((ordered.map Field.calculate_length).sum_nat).symm

/-- The first fields of the header, and the others. -/
theorem header_sorted (n : Nat) :
    starting_fields.filterMap (fun tag => IndexMap.get Field.tag tag (m.header.set BODY_LENGTH (Decimal.decimal n)).fields) =
        [begin_string,⟨BODY_LENGTH.tag,Decimal.decimal n⟩,msg_type] ∧
      (m.header.set BODY_LENGTH (Decimal.decimal n)).fields.filter (fun f => !starting_fields.contains f.tag) = header := by
  rw [set_fields]
  constructor
  · have first := @IndexMap.get_insert _ _ _ Field.tag ⟨BODY_LENGTH.tag,Decimal.decimal n⟩ BEGIN_STRING.tag m.header.fields
    have second := @IndexMap.get_insert _ _ _ Field.tag ⟨BODY_LENGTH.tag,Decimal.decimal n⟩ BODY_LENGTH.tag m.header.fields
    have third := @IndexMap.get_insert _ _ _ Field.tag ⟨BODY_LENGTH.tag,Decimal.decimal n⟩ MSG_TYPE.tag m.header.fields
    rw [if_neg (show BODY_LENGTH.tag ≠ BEGIN_STRING.tag by decide),parts.first] at first
    rw [if_pos rfl] at second
    rw [if_neg (show BODY_LENGTH.tag ≠ MSG_TYPE.tag by decide),parts.third] at third
    simp only [starting_fields,List.filterMap_cons,List.filterMap_nil,first,second,third]
  · rw [IndexMap.filter_insert _ ?_,parts.others]
    intro f same
    rw [show f.tag = BODY_LENGTH.tag from same]
    decide

/-- The header is written with its first fields in front. -/
theorem header_write (separator : UInt8) (n : Nat) :
    (m.header.set BODY_LENGTH (Decimal.decimal n)).write separator starting_fields =
      wire_bytes separator ([begin_string,⟨BODY_LENGTH.tag,Decimal.decimal n⟩,msg_type] ++ header) := by
  obtain ⟨chosen,others⟩ := parts.header_sorted n
  rw [write_flat (show (m.header.set BODY_LENGTH (Decimal.decimal n)).groups = [] from parts.header_flat),chosen,others]

theorem trailer_write (separator : UInt8) : ((m.trailer.pop CHECK_SUM.tag).2).write separator [] = wire_bytes separator trailer := by
  rw [write_flat (show ((m.trailer.pop CHECK_SUM.tag).2).groups = [] from parts.trailer_flat),
    show ((m.trailer.pop CHECK_SUM.tag).2).fields = trailer from parts.rest]
  simp

theorem announced_eq : m.announced = fields_length (msg_type :: rest_fields m header trailer) := by
  rw [announced,parts.header_length,length_eq _ parts.tidy,
    length_flat (show ((m.trailer.pop CHECK_SUM.tag).2).groups = [] from parts.trailer_flat),
    show ((m.trailer.pop CHECK_SUM.tag).2).fields = trailer from parts.rest,
    List.filter_eq_self.mpr (fun f member => by simpa using parts.no_checksum f member)]
  simp only [rest_fields,fields_length,List.map_cons,List.map_append,List.sum_cons,List.sum_append]
  omega

theorem front_eq (separator : UInt8) :
    m.front separator m.announced = wire_bytes separator (front_fields begin_string msg_type (rest_fields m header trailer)) := by
  rw [front,parts.header_write,parts.trailer_write,write_eq,front_fields,← parts.announced_eq,
    ← wire_bytes_append,← wire_bytes_append,rest_fields]
  simp only [List.cons_append,List.nil_append,List.append_assoc]

/-- What `encode` writes of a message. -/
theorem encode_eq (config : Config) : (m.encode config).2 =
    wire_bytes config.separator (frame_fields config.separator begin_string msg_type (rest_fields m header trailer)) := by
  rw [encode_front,parts.front_eq,frame_fields,wire_bytes_append,sum_field]
  simp only [wire_bytes,List.flatMap_cons,List.flatMap_nil,List.append_nil]

theorem encoded_distinct (config : Config) : ((m.encode config).1.header.fields.map Field.tag).Nodup := by
  have encoded : (m.encode config).1.header = m.header.set BODY_LENGTH (Decimal.decimal m.announced) := rfl
  rw [encoded,set_fields]
  exact IndexMap.nodup_insert _ parts.header_distinct

/-- The header of the encoded message. -/
theorem header_perm (config : Config) :
    ([begin_string,⟨BODY_LENGTH.tag,Decimal.decimal m.announced⟩,msg_type] ++ header).Perm (m.encode config).1.header.fields := by
  have encoded : (m.encode config).1.header = m.header.set BODY_LENGTH (Decimal.decimal m.announced) := rfl
  obtain ⟨chosen,others⟩ := parts.header_sorted m.announced
  have ordered := IndexMap.ordered_perm (show starting_fields.Nodup by decide) (parts.encoded_distinct config)
  rwa [encoded,chosen,others] at ordered

/-- The trailer of the encoded message. -/
theorem trailer_eq (config : Config) : (m.encode config).1.trailer.fields =
    trailer ++ [sum_field config.separator (front_fields begin_string msg_type (rest_fields m header trailer))] := by
  have encoded : (m.encode config).1.trailer = ((m.trailer.pop CHECK_SUM.tag).2).set CHECK_SUM
      (three_digits (CheckSum.compute (m.front config.separator m.announced)).toNat) := rfl
  rw [encoded,set_fields,parts.front_eq,show ((m.trailer.pop CHECK_SUM.tag).2).fields = trailer from parts.rest]
  refine IndexMap.insert_fresh ?_
  rw [List.mem_map]
  rintro ⟨f,member,same⟩
  exact parts.no_checksum f member same

end Message.Parts

namespace MessageBuilder
variable {arith : Arith}

/-- The frame of fields that were written with their length and checksum. -/
theorem frame_intact {config : Config} {begin_string body_length msg_type sum : Field} {rest : List Field} {data : Bytes}
    (first_tag : begin_string.tag = BEGIN_STRING.tag) (third_tag : msg_type.tag = MSG_TYPE.tag)
    (measured : body_length = ⟨BODY_LENGTH.tag,Decimal.decimal (fields_length (msg_type :: rest))⟩)
    (summed : sum = sum_field config.separator (begin_string :: body_length :: msg_type :: rest))
    (splits : data = wire_bytes config.separator (begin_string :: body_length :: msg_type :: rest) ++
      wire_bytes config.separator [sum])
    (free : ∀ f ∈ begin_string :: body_length :: msg_type :: (rest ++ [sum]), config.separator ∉ f.data)
    (fits : data.length < U64) :
    ∃ p₁ p₂ p₃ n body_end, Framing arith config data begin_string body_length msg_type sum p₁ p₂ p₃ n body_end ∧
      SumAgrees data body_end sum ∧ p₃.Ahead (rest ++ [sum]) ∧ p₃.config = config := by
  obtain ⟨n,number⟩ : ∃ n, fields_length (msg_type :: rest) = n := ⟨_,rfl⟩
  rw [number] at measured
  obtain ⟨front,fronted⟩ : ∃ front, begin_string :: body_length :: msg_type :: rest = front := ⟨_,rfl⟩
  rw [fronted] at summed splits
  have front_length : (wire_bytes config.separator front).length =
      0 + begin_string.calculate_length + body_length.calculate_length + n := by
    rw [wire_bytes_length,← fronted]
    simp only [fields_length,List.map_cons,List.sum_cons] at number ⊢
    omega
  have sum_length : (wire_bytes config.separator [sum]).length = 7 := by
    rw [wire_bytes_length,summed]
    exact sum_field_length _ _
  have length := congrArg List.length splits
  rw [List.length_append,front_length,sum_length] at length
  -- the first three fields
  have ahead : (⟨0,data,config⟩ : Parser).Ahead (begin_string :: body_length :: msg_type :: (rest ++ [sum])) := by
    rw [Parser.Ahead,List.drop_zero,splits,← fronted,← wire_bytes_append]
    rfl
  obtain ⟨first,ahead₁⟩ := @Parser.next_field_wire arith _ _ _ ahead (free _ (by simp))
  obtain ⟨second,ahead₂⟩ := @Parser.next_field_wire arith _ _ _ ahead₁ (free _ (by simp))
  obtain ⟨third,ahead₃⟩ := @Parser.next_field_wire arith _ _ _ ahead₂ (free _ (by simp))
  -- the checksum behind them
  have drop_front : data.drop (wire_bytes config.separator front).length = wire_bytes config.separator [sum] := by
    rw [splits,List.drop_left]
  have take_front : data.take (wire_bytes config.separator front).length = wire_bytes config.separator front := by
    rw [splits,List.take_left]
  have at_sum := @field_at_wire config.separator sum [] (free sum (by simp))
  rw [← drop_front] at at_sum
  have last := @Parser.parse_field_at_field arith
    (((⟨0,data,config⟩ : Parser).advance begin_string).advance body_length) _ _ _ _ at_sum
  rw [tag_from_bytes_spelled arith (spells_decimal sum.tag)] at last
  refine ⟨_,_,_,n,(wire_bytes config.separator front).length,
    ⟨first,first_tag,second,?_,?_,?_,?_,⟨_,last⟩,?_,third,third_tag⟩,?_,ahead₃,rfl⟩
  · rw [measured]
  · rw [measured]
    exact Decimal.parseBelow_decimal (by omega)
  · rw [front_length]
    exact usize_add_small (by rw [Parser.advance,Parser.advance]; dsimp only; omega)
  · rw [length,← front_length]
    exact usize_add_small (by rw [CHECKSUM_LENGTH]; omega)
  · rw [summed]
    rfl
  · intro value reads
    rw [summed,sum_field] at reads
    have below := (CheckSum.compute (wire_bytes config.separator front)).toNat_lt
    have spelled := CheckSum.three_digits_spells (show (CheckSum.compute (wire_bytes config.separator front)).toNat < 1000 by omega)
    obtain ⟨value',reads',same⟩ := CheckSum.deserialize_digits (CheckSum.deserialize_length reads) spelled.1
    rw [show CheckSum.deserialize _ = some value' from reads',Option.some.injEq] at reads
    rw [take_front,← reads,← UInt8.toNat_inj,same,spelled.2]
    exact (Nat.mod_eq_of_lt below).symm

/-- Sections that were written are read as these sections. -/
theorem written_sectioned {b : MessageBuilder} {begin_string body_length msg_type sum first_trailer : Field}
    {header trailer behind : List Field} {items : List Item} {data name : Bytes} {spec : MessageSpecification}
    {p₁ p₂ p₃ : Parser} {n body_end : Nat}
    (framing : Framing arith b.config data begin_string body_length msg_type sum p₁ p₂ p₃ n body_end)
    (agrees : SumAgrees data body_end sum) (same : p₃.config = b.config)
    (ahead : p₃.Ahead (header ++ (Item.flatten_items items ++ first_trailer :: behind)))
    (split : first_trailer :: behind = trailer ++ [sum])
    (free : ∀ f ∈ header ++ (Item.flatten_items items ++ first_trailer :: behind), b.config.separator ∉ f.data)
    (header_tags : ∀ f ∈ header, b.is_header_tag f.tag = true)
    (header_ends : ∀ f ∈ (Item.flatten_items items ++ first_trailer :: behind).head?, ¬ b.is_header_tag f.tag = true)
    (named : (FieldMap.empty.insert_fields ([begin_string,body_length,msg_type] ++ header)).get_str MSG_TYPE = some name)
    (known : (b.dict.message_by_msgtype name).isSome = true) (specified : b.get_message_def name = .ok spec)
    (items_ok : b.BodyItems spec (some first_trailer.tag) items) (ends : b.EndsBody spec first_trailer.tag)
    (starts : b.is_trailer_tag first_trailer.tag = true) (others : ∀ f ∈ trailer, f.tag ≠ CHECK_SUM.tag) :
    Sectioned arith b data ⟨begin_string,body_length,msg_type,sum,header,items,trailer⟩ := by
  cases listed : Item.flatten_items items ++ first_trailer :: behind with
  | nil => simp at listed
  | cons first_body more =>
    rw [listed] at ahead free header_ends
    rw [← same] at free
    obtain ⟨p₄,header_scan,ahead₄,config₄⟩ := @Parser.scan_wire arith p₃ more msg_type first_body _ (msg_type :: header) rfl ahead free
    have free₄ : ∀ f ∈ more, p₄.config.separator ∉ f.data := by
      intro f member
      rw [config₄]
      exact free f (by simp [member])
    obtain ⟨p₅,body_scan,ahead₅,config₅⟩ := @Parser.scan_wire arith p₄ behind first_body first_trailer _ _ listed.symm ahead₄ free₄
    have inside : ∀ f ∈ behind, f ∈ first_body :: more := by
      intro f member
      rw [← listed]
      simp [member]
    have free₅ : ∀ f ∈ behind, p₅.config.separator ∉ f.data := by
      intro f member
      rw [config₅,config₄]
      exact free f (List.mem_append_right _ (inside f member))
    obtain ⟨p₆,trailer_scan,_⟩ := @Parser.scan_wire arith p₅ [] first_trailer sum _ _ split ahead₅ free₅
    refine ⟨p₁,p₂,p₃,p₄,p₅,n,body_end,first_body,first_trailer,name,spec,.ahead sum p₆,
      framing,agrees,header_scan,header_tags,header_ends first_body rfl,named,known,specified,
      ⟨body_scan,items_ok,?_⟩,starts,trailer_scan,others,?_,nofun⟩
    · intro tag last
      cases last
      exact ends
    · intro tag last
      cases last
      exact framing.last_tag

/-! ### Conforming messages -/

/-- Header, message and trailer have no tag in common, and the levels of the message
    are orderly. -/
structure Apart (b : MessageBuilder) (spec : MessageSpecification) : Prop where
  orderly : spec.Orderly
  outside : spec.AllTags (fun tag => b.is_header_tag tag = false ∧ b.is_trailer_tag tag = false)
  apart : ∀ tag, b.is_header_tag tag = true → b.is_trailer_tag tag = false

/-- A message with the fields of header and trailer, and a body as its type declares. -/
structure Conforming (b : MessageBuilder) (m : Message) (name : Bytes) (spec : MessageSpecification) : Prop where
  header_flat : m.header.groups = []
  header_distinct : (m.header.fields.map Field.tag).Nodup
  header_tags : ∀ f ∈ m.header.fields, b.is_header_tag f.tag = true
  begins : BEGIN_STRING.tag ∈ m.header.fields.map Field.tag
  named : m.header.get_str MSG_TYPE = some name
  specified : b.get_message_def name = .ok spec
  tidy : m.body.Tidy
  conforms : Conforms spec none m.body
  trailer_flat : m.trailer.groups = []
  trailer_distinct : (m.trailer.fields.map Field.tag).Nodup
  trailer_tags : ∀ f ∈ m.trailer.fields, b.is_trailer_tag f.tag = true

/-- The tag behind a body: of the first trailer field, else CheckSum. -/
def behind_body (m : Message) : TagU32 :=
  ((m.trailer.fields.eraseP (fun f => f.tag = CHECK_SUM.tag)).head?.map Field.tag).getD CHECK_SUM.tag

/-- A message whose header is written as one: its fields are of the header, what
    comes behind them is not, and no key occurs twice. -/
structure Arranged (b : MessageBuilder) (m : Message) (name : Bytes) : Prop where
  header_flat : m.header.groups = []
  header_distinct : (m.header.fields.map Field.tag).Nodup
  header_tags : ∀ f ∈ m.header.fields, b.is_header_tag f.tag = true
  begins : BEGIN_STRING.tag ∈ m.header.fields.map Field.tag
  named : m.header.get_str MSG_TYPE = some name
  header_ends : ∀ tag ∈ following m.body.tree (some (behind_body m)), b.is_header_tag tag = false
  tidy : m.body.Tidy
  trailer_flat : m.trailer.groups = []
  trailer_distinct : (m.trailer.fields.map Field.tag).Nodup

/-- A body that the grammar of the type takes, up to the trailer. -/
structure Bodied (b : MessageBuilder) (m : Message) (spec : MessageSpecification) : Prop where
  items_ok : b.BodyItems spec (some (behind_body m)) m.body.tree
  ends : b.EndsBody spec (behind_body m)
  starts : b.is_trailer_tag (behind_body m) = true

/-- All fields of a message, those of its groups behind their count fields. -/
def all_fields (m : Message) : List Field := m.header.fields ++ (Item.flatten_items m.body.tree ++ m.trailer.fields)

theorem get_data {m : FieldMap} {field : FieldDefinition} {name : Bytes} (named : m.get_str field = some name) :
    ∃ f, IndexMap.get Field.tag field.tag m.fields = some f ∧ f.data = name ∧ valid_utf8 name = true := by
  rw [FieldMap.get_str,Option.bind_eq_some_iff] at named
  obtain ⟨data,value,valid⟩ := named
  obtain ⟨f,found,rfl⟩ := Option.map_eq_some_iff.mp value
  split_ifs at valid with utf8
  cases valid
  exact ⟨f,found,rfl,utf8⟩

theorem get_str_of_get {m : FieldMap} {field : FieldDefinition} {f : Field}
    (found : IndexMap.get Field.tag field.tag m.fields = some f) (utf8 : valid_utf8 f.data = true) :
    m.get_str field = some f.data := by
  have raw : m.get_raw field.tag = some f.data := by
    rw [FieldMap.get_raw,show m.fields.find? (fun g => g.tag = field.tag) = some f from found]
    rfl
  rw [FieldMap.get_str,raw,Option.bind_some,if_pos utf8]

/-- What `encode` finds of a message. -/
theorem Arranged.parts {b : MessageBuilder} {m : Message} {name : Bytes} (arranged : b.Arranged m name) :
    ∃ begin_string msg_type header trailer, m.Parts begin_string msg_type header trailer ∧ msg_type.data = name ∧
      valid_utf8 name = true ∧ (∀ f ∈ header, b.is_header_tag f.tag = true) := by
  obtain ⟨begin_string,member,tag⟩ := List.mem_map.mp arranged.begins
  obtain ⟨msg_type,third,data,utf8⟩ := get_data arranged.named
  have first := IndexMap.get_of_mem arranged.header_distinct member
  rw [tag] at first
  refine ⟨begin_string,msg_type,_,_,⟨arranged.header_flat,arranged.header_distinct,first,third,rfl,
    arranged.trailer_flat,rfl,(List.eraseP_sublist.map _).nodup arranged.trailer_distinct,
    IndexMap.erase_distinct arranged.trailer_distinct,arranged.tidy⟩,data,utf8,?_⟩
  intro f member
  exact arranged.header_tags f (List.mem_filter.mp member).1

/-- The same fields and groups in every section. -/
structure SameSections (m m' : Message) : Prop where
  header_fields : m.header.fields.Perm m'.header.fields
  header_groups : m.header.groups = m'.header.groups
  body : FieldMap.Same m.body m'.body
  trailer_fields : m.trailer.fields.Perm m'.trailer.fields
  trailer_groups : m.trailer.groups = m'.trailer.groups

/-- The sections that a written message is read as. -/
def reading (separator : UInt8) (m : Message) (begin_string msg_type : Field) (header trailer : List Field) : Reading :=
  ⟨begin_string,⟨BODY_LENGTH.tag,Decimal.decimal m.announced⟩,msg_type,
    sum_field separator (front_fields begin_string msg_type (rest_fields m header trailer)),header,m.body.tree,trailer⟩

section
variable {m : Message} {begin_string msg_type : Field} {header trailer : List Field}
  (parts : m.Parts begin_string msg_type header trailer)
include parts

theorem leading_distinct :
    (([begin_string,⟨BODY_LENGTH.tag,Decimal.decimal m.announced⟩,msg_type] ++ header).map Field.tag).Nodup :=
  ((parts.header_perm Config.default).map Field.tag).nodup_iff.mpr (parts.encoded_distinct Config.default)

theorem trailer_sum_distinct (separator : UInt8) :
    ((sum_field separator (front_fields begin_string msg_type (rest_fields m header trailer)) :: trailer).map Field.tag).Nodup := by
  refine List.nodup_cons.mpr ⟨?_,parts.trailer_distinct⟩
  rw [List.mem_map]
  rintro ⟨f,member,same⟩
  exact parts.no_checksum f member same

/-- What is stored of the sections of an encoded message. -/
theorem reading_fields (separator : UInt8) :
    (reading separator m begin_string msg_type header trailer).message.header =
        .mk ([begin_string,⟨BODY_LENGTH.tag,Decimal.decimal m.announced⟩,msg_type] ++ header) [] ∧
      (reading separator m begin_string msg_type header trailer).message.trailer =
        .mk (sum_field separator (front_fields begin_string msg_type (rest_fields m header trailer)) :: trailer) [] := by
  constructor
  · refine (FieldMap.insert_fields_eq FieldMap.empty _).trans ?_
    exact congrArg (FieldMap.mk · []) (@IndexMap.insertAll_fresh _ _ _ Field.tag [] _ (leading_distinct parts))
  · refine (FieldMap.insert_fields_eq FieldMap.empty _).trans ?_
    exact congrArg (FieldMap.mk · []) (@IndexMap.insertAll_fresh _ _ _ Field.tag [] _ (trailer_sum_distinct parts separator))

/-- What is read has the sections that were encoded. -/
theorem reading_same (config : Config) :
    SameSections (reading config.separator m begin_string msg_type header trailer).message (m.encode config).1 := by
  obtain ⟨header_read,trailer_read⟩ := reading_fields parts config.separator
  refine ⟨?_,?_,FieldMap.same_store m.body parts.tidy,?_,?_⟩
  · rw [header_read]
    exact parts.header_perm config
  · rw [header_read]
    exact parts.header_flat.symm
  · rw [trailer_read,parts.trailer_eq]
    exact List.perm_append_singleton _ _ |>.symm
  · rw [trailer_read]
    exact parts.trailer_flat.symm

/-- What is read is encoded as the message was. -/
theorem reading_parts (separator : UInt8) :
    (reading separator m begin_string msg_type header trailer).message.Parts begin_string msg_type header trailer := by
  obtain ⟨header_read,trailer_read⟩ := reading_fields parts separator
  have distinct := leading_distinct parts
  have first_tag := (IndexMap.mem_of_get parts.first).2
  have third_tag := (IndexMap.mem_of_get parts.third).2
  have others : ∀ f ∈ header, (!starting_fields.contains f.tag) = true := by
    intro f member
    rw [← parts.others] at member
    exact (List.mem_filter.mp member).2
  refine ⟨?_,?_,?_,?_,?_,?_,?_,parts.trailer_distinct,parts.no_checksum,FieldMap.tidy_store m.body.tree⟩
  · rw [header_read]
    rfl
  · rw [header_read]
    exact distinct
  · rw [header_read,← first_tag,FieldMap.fields]
    exact IndexMap.get_of_mem distinct (by simp)
  · rw [header_read,← third_tag,FieldMap.fields]
    exact IndexMap.get_of_mem distinct (by simp)
  · rw [header_read,FieldMap.fields,List.filter_append,List.filter_eq_self.mpr others]
    simp [starting_fields,first_tag,third_tag]
  · rw [trailer_read]
    rfl
  · rw [trailer_read,FieldMap.fields,List.eraseP_cons_of_pos]
    rfl

/-- The fields of an encoded message are those that are written. -/
theorem written_fields (config : Config) {f : Field}
    (written : f ∈ begin_string :: ⟨BODY_LENGTH.tag,Decimal.decimal m.announced⟩ :: msg_type ::
      (rest_fields m header trailer ++ [sum_field config.separator (front_fields begin_string msg_type (rest_fields m header trailer))])) :
    f ∈ all_fields (m.encode config).1 := by
  have regrouped : f ∈ ([begin_string,⟨BODY_LENGTH.tag,Decimal.decimal m.announced⟩,msg_type] ++ header) ++
      (Item.flatten_items m.body.tree ++ (m.encode config).1.trailer.fields) := by
    rw [parts.trailer_eq]
    simpa [rest_fields,List.append_assoc] using written
  rw [all_fields]
  rcases List.mem_append.mp regrouped with front | behind
  · exact List.mem_append_left _ ((parts.header_perm config).mem_iff.mp front)
  · exact List.mem_append_right _ behind

end

/-- A body starts with a declared field. -/
theorem first_of_body {spec : MessageSpecification} {m : FieldMap} {f : Field} (conforms : Conforms spec none m)
    (first : f ∈ (Item.flatten_items m.tree).head?) : spec.contains_tag f.tag = true := by
  obtain ⟨fields,groups⟩ := m
  refine conforms.1 f ?_
  have listed := FieldMap.tree_fields (.mk fields groups)
  rw [FieldMap.fields] at listed
  rw [← listed]
  generalize (FieldMap.mk fields groups).tree = items at first listed ⊢
  cases items with
  | nil => cases first
  | cons item rest =>
    have same : (Item.flatten_items (item :: rest)).head? = some item.field := by
      cases item <;> rfl
    rw [same] at first
    cases first
    simp

/-- The trailer of a message that is apart ends its body. -/
theorem Apart.ends {dict : Dictionary} {config : Config} {b : MessageBuilder} {name : Bytes} {spec : MessageSpecification}
    {last : TagU32} (apart : b.Apart spec) (made : new dict config = .ok b) (specified : b.get_message_def name = .ok spec)
    (listed : b.is_trailer_tag last = true) :
    b.EndsBody spec last ∧ spec.AllTags (Fenced b last) ∧
      ∀ f ∈ spec.fields, (b.dict.field_by_tag f.tag.get).isSome = true := by
  obtain ⟨trailer_known,message_known⟩ := known_of_new made
  have known := message_known name spec specified
  refine ⟨⟨?_,not_accepted (trailer_known last listed)⟩,?_,known.1⟩
  · by_contra contains
    have outside := (apart.outside.contains (eq_true_of_ne_false contains)).2
    rw [listed] at outside
    cases outside
  · refine apart.outside.combine ?_ known
    rintro tag ⟨_,outside⟩ tag_known
    refine ⟨?_,not_accepted tag_known⟩
    rintro rfl
    rw [listed] at outside
    cases outside

/-- The first field of a section, by the tag that comes next. -/
theorem following_head {items : List Item} {f g : Field} {rest : List Field}
    (first : g ∈ (Item.flatten_items items ++ f :: rest).head?) : following items (some f.tag) = some g.tag := by
  cases items with
  | nil =>
    cases first
    rfl
  | cons item items =>
    obtain ⟨more,flat⟩ := item.flatten_head
    rw [Item.flatten_items,flat] at first
    cases first
    rfl

/-- A conforming message is written with its header in front, and its body is taken. -/
theorem Conforming.readable {dict : Dictionary} {config : Config} {b : MessageBuilder} {m : Message} {name : Bytes}
    {spec : MessageSpecification} (made : new dict config = .ok b) (apart : b.Apart spec)
    (conforming : b.Conforming m name spec) (starts : b.is_trailer_tag (behind_body m) = true) :
    b.Arranged m name ∧ b.Bodied m spec := by
  obtain ⟨ends,fenced,defined⟩ := apart.ends made conforming.specified starts
  refine ⟨⟨conforming.header_flat,conforming.header_distinct,conforming.header_tags,conforming.begins,conforming.named,?_,
    conforming.tidy,conforming.trailer_flat,conforming.trailer_distinct⟩,
    body_items ends.2 apart.orderly fenced defined conforming.tidy conforming.conforms,ends,starts⟩
  intro tag next
  cases body : m.body.tree with
  | nil =>
    rw [body] at next
    cases next
    by_contra header_tag
    rw [apart.apart _ (eq_true_of_ne_false header_tag)] at starts
    cases starts
  | cons item rest =>
    have first : item.field ∈ (Item.flatten_items m.body.tree).head? := by
      obtain ⟨more,flat⟩ := item.flatten_head
      rw [body,Item.flatten_items,flat]
      rfl
    rw [body] at next
    cases next
    exact (apart.outside.contains (first_of_body conforming.conforms first)).1

section
variable {encoding : Config} {b : MessageBuilder} {m : Message} {name : Bytes} {spec : MessageSpecification}
  {begin_string msg_type : Field} {header trailer : List Field}
  (separators : encoding.separator = b.config.separator) (parts : m.Parts begin_string msg_type header trailer)
  (free : ∀ f ∈ all_fields (m.encode encoding).1, encoding.separator ∉ f.data) (fits : (m.encode encoding).2.length < U64)
include separators parts free fits

/-- The frame of an encoded message, with its other fields ahead. -/
theorem encoded_frame : ∃ p₁ p₂ p₃ n body_end,
    Framing arith b.config (m.encode encoding).2 begin_string ⟨BODY_LENGTH.tag,Decimal.decimal m.announced⟩ msg_type
      (sum_field encoding.separator (front_fields begin_string msg_type (rest_fields m header trailer))) p₁ p₂ p₃ n body_end ∧
    SumAgrees (m.encode encoding).2 body_end
      (sum_field encoding.separator (front_fields begin_string msg_type (rest_fields m header trailer))) ∧
    p₃.Ahead (rest_fields m header trailer ++
      [sum_field encoding.separator (front_fields begin_string msg_type (rest_fields m header trailer))]) ∧
    p₃.config = b.config := by
  have written_free := fun f written => free f (written_fields parts encoding written)
  obtain ⟨sum,summed⟩ :
      ∃ sum, sum_field encoding.separator (front_fields begin_string msg_type (rest_fields m header trailer)) = sum := ⟨_,rfl⟩
  rw [summed] at written_free ⊢
  exact @frame_intact arith b.config begin_string ⟨BODY_LENGTH.tag,Decimal.decimal m.announced⟩ msg_type sum
    (rest_fields m header trailer) (m.encode encoding).2 (IndexMap.mem_of_get parts.first).2
    (IndexMap.mem_of_get parts.third).2 (by rw [parts.announced_eq])
    (by rw [← summed,separators,front_fields,parts.announced_eq]; rfl)
    (by rw [parts.encode_eq,frame_fields,wire_bytes_append,summed,separators,front_fields,parts.announced_eq]; rfl)
    (by rw [← separators]; exact written_free) fits

/-- The sections of an encoded message are those it was encoded from. -/
theorem encoded_sectioned (arranged : b.Arranged m name) (bodied : b.Bodied m spec) (named : msg_type.data = name)
    (utf8 : valid_utf8 name = true) (header_tags : ∀ f ∈ header, b.is_header_tag f.tag = true)
    (known : (b.dict.message_by_msgtype name).isSome = true) (specified : b.get_message_def name = .ok spec) :
    Sectioned arith b (m.encode encoding).2 (reading encoding.separator m begin_string msg_type header trailer) := by
  obtain ⟨p₁,p₂,p₃,n,body_end,framing,agrees,ahead,config₃⟩ := @encoded_frame arith _ _ _ _ _ _ _ separators parts free fits
  have written_free := fun f written => free f (written_fields parts encoding written)
  obtain ⟨sum,summed⟩ :
      ∃ sum, sum_field encoding.separator (front_fields begin_string msg_type (rest_fields m header trailer)) = sum := ⟨_,rfl⟩
  rw [summed] at written_free framing agrees ahead
  -- the field behind the body
  obtain ⟨first_trailer,behind,split,behind_tag⟩ :
      ∃ first_trailer behind, first_trailer :: behind = trailer ++ [sum] ∧ behind_body m = first_trailer.tag := by
    rw [behind_body,parts.rest]
    cases trailer with
    | nil => exact ⟨_,_,rfl,congrArg Field.tag summed⟩
    | cons f rest => exact ⟨_,_,rfl,rfl⟩
  obtain ⟨items_ok,ends,starts⟩ := bodied
  have header_ends := arranged.header_ends
  rw [behind_tag] at items_ok ends starts header_ends
  have behind_header : rest_fields m header trailer ++ [sum] =
      header ++ (Item.flatten_items m.body.tree ++ first_trailer :: behind) := by
    rw [split,rest_fields,List.append_assoc,List.append_assoc]
  rw [behind_header] at ahead written_free
  rw [reading,summed]
  refine written_sectioned framing agrees config₃ ahead split ?_ header_tags ?_ ?_ known specified items_ok ends starts
    parts.no_checksum
  · intro f member
    rw [← separators]
    exact written_free f (by simp [member])
  · intro f first
    rw [header_ends f.tag (following_head first)]
    exact Bool.false_ne_true
  · have stored := get_str_of_get (reading_parts parts encoding.separator).third (by rw [named]; exact utf8)
    rw [named] at stored
    exact stored

end

/-- A conforming message with a field of the trailer behind its body is read back as it
    was encoded, and encoding what was read gives the same bytes. -/
theorem build_encoded {dict : Dictionary} {config encoding : Config} {b : MessageBuilder} {m : Message} {name : Bytes}
    {spec : MessageSpecification} (made : new dict config = .ok b) (separators : encoding.separator = config.separator)
    (apart : b.Apart spec) (conforming : b.Conforming m name spec) (starts : b.is_trailer_tag (behind_body m) = true)
    (free : ∀ f ∈ all_fields (m.encode encoding).1, encoding.separator ∉ f.data) (fits : (m.encode encoding).2.length < U64) :
    ∃ parsed, build arith b (m.encode encoding).2 = .ok (.Valid parsed) ∧ SameSections parsed (m.encode encoding).1 ∧
      (parsed.encode encoding).2 = (m.encode encoding).2 := by
  obtain ⟨arranged,bodied⟩ := conforming.readable made apart starts
  obtain ⟨begin_string,msg_type,header,trailer,parts,data,utf8,header_tags⟩ := arranged.parts
  refine ⟨(reading encoding.separator m begin_string msg_type header trailer).message,?_,reading_same parts encoding,?_⟩
  · obtain ⟨_,_,built⟩ := made_of_new made
    rw [← built.config_eq] at separators
    obtain ⟨message,declared,_⟩ := built.specified name spec conforming.specified
    exact build_valid.mpr ⟨_,encoded_sectioned separators parts free fits arranged bodied data utf8 header_tags
      (by rw [built.dict_eq,declared]; rfl) conforming.specified,rfl⟩
  · have body : (reading encoding.separator m begin_string msg_type header trailer).message.body.tree = m.body.tree :=
      (FieldMap.same_store m.body conforming.tidy).tree_eq
    rw [(reading_parts parts encoding.separator).encode_eq,parts.encode_eq,rest_fields,body,rest_fields]

/-- A text with two parties, the second without a source. -/
def two_parties : Message where
  header := .mk [⟨BEGIN_STRING.tag,ascii "F"⟩,⟨MSG_TYPE.tag,ascii "B"⟩,⟨MSG_SEQ_NUM.tag,ascii "2"⟩] []
  body := .mk [⟨TEXT.tag,ascii "x"⟩,⟨SmallDictionary.NO_PARTY_IDS,ascii "2"⟩]
    [(SmallDictionary.NO_PARTY_IDS,
      [.mk SmallDictionary.NO_PARTY_IDS SmallDictionary.PARTY_ID
        (.mk [⟨SmallDictionary.PARTY_ID,ascii "a"⟩,⟨SmallDictionary.PARTY_ID_SOURCE,ascii "D"⟩] []),
      .mk SmallDictionary.NO_PARTY_IDS SmallDictionary.PARTY_ID (.mk [⟨SmallDictionary.PARTY_ID,ascii "b"⟩] [])])]
  trailer := .mk [⟨SmallDictionary.SIGNATURE,ascii "s"⟩] []

def news_specification : MessageSpecification :=
  ⟨[⟨TEXT.tag,false⟩,⟨SmallDictionary.NO_PARTY_IDS,false⟩],[(SmallDictionary.NO_PARTY_IDS,SmallDictionary.parties)]⟩

theorem news_apart : SmallDictionary.builder.Apart news_specification := by
  refine ⟨⟨by decide,by decide,⟨by decide,by decide,⟨_,rfl,by decide⟩,trivial⟩,trivial⟩,
    ⟨by decide,⟨by decide,trivial⟩,trivial⟩,?_⟩
  have all : ∀ tag ∈ SmallDictionary.builder.header_tags, SmallDictionary.builder.is_trailer_tag tag = false := by decide
  intro tag listed
  exact all tag (by simpa [is_header_tag] using listed)

theorem two_parties_conforming : SmallDictionary.builder.Conforming two_parties (ascii "B") news_specification where
  header_flat := rfl
  header_distinct := by decide
  header_tags := by decide
  begins := by decide
  named := by decide
  specified := rfl
  tidy := ⟨by decide,by decide,by decide,⟨⟨⟨by decide,by decide,nofun,trivial⟩,⟨by decide,by decide,nofun,trivial⟩,trivial⟩,trivial⟩⟩
  conforms := ⟨by decide,by decide,⟨SmallDictionary.parties,rfl,by decide,nofun,⟨rfl,by decide,by decide⟩,
    ⟨by decide,nofun,trivial⟩,⟨rfl,by decide,by decide⟩,⟨by decide,nofun,trivial⟩,trivial⟩,trivial⟩
  trailer_flat := rfl
  trailer_distinct := by decide
  trailer_tags := by decide

theorem two_parties_encoded : ∃ parsed,
    build .exact SmallDictionary.builder (two_parties.encode SmallDictionary.config).2 = .ok (.Valid parsed) ∧
      SameSections parsed (two_parties.encode SmallDictionary.config).1 ∧
      (parsed.encode SmallDictionary.config).2 = (two_parties.encode SmallDictionary.config).2 :=
  build_encoded SmallDictionary.builder_made rfl news_apart two_parties_conforming (by decide) (by decide +kernel) (by decide +kernel)

end MessageBuilder

/-! ### A trailer without a checksum -/

namespace Unsummed
open MessageBuilder

/-- The small dictionary, with CheckSum left out of its trailer. -/
def dict : Dictionary :=
  { SmallDictionary.dict with
    components_by_name := [SmallDictionary.header,⟨ascii "StandardTrailer",[.Field false 89]⟩]
    names_distinct := by decide }

def builder : MessageBuilder :=
  { SmallDictionary.builder with
    dict := dict
    trailer_tags := [SmallDictionary.SIGNATURE] }

theorem builder_made : MessageBuilder.new dict SmallDictionary.config = .ok builder := rfl

def text : Message where
  header := .mk [⟨BEGIN_STRING.tag,ascii "F"⟩,⟨MSG_TYPE.tag,ascii "B"⟩,⟨MSG_SEQ_NUM.tag,ascii "2"⟩] []
  body := .mk [⟨TEXT.tag,ascii "x"⟩] []
  trailer := FieldMap.empty

theorem text_apart : builder.Apart news_specification := by
  refine ⟨news_apart.orderly,⟨by decide,⟨by decide,trivial⟩,trivial⟩,?_⟩
  have all : ∀ tag ∈ builder.header_tags, builder.is_trailer_tag tag = false := by decide
  intro tag listed
  exact all tag (by simpa [is_header_tag] using listed)

theorem text_conforming : builder.Conforming text (ascii "B") news_specification where
  header_flat := rfl
  header_distinct := by decide
  header_tags := by decide
  begins := by decide
  named := by decide
  specified := rfl
  tidy := ⟨by decide,by decide,by decide,trivial⟩
  conforms := ⟨by decide,by decide,trivial⟩
  trailer_flat := rfl
  trailer_distinct := by decide
  trailer_tags := by decide

/-- The CheckSum that closes a message is then read as a field of the body. -/
theorem read_back_without_checksum : ¬ ∀ (arith : Arith) (dict : Dictionary) (config encoding : Config) (b : MessageBuilder)
    (m : Message) (name : Bytes) (spec : MessageSpecification), MessageBuilder.new dict config = .ok b →
    encoding.separator = config.separator → b.Apart spec → b.Conforming m name spec →
    (∀ f ∈ all_fields (m.encode encoding).1, encoding.separator ∉ f.data) → (m.encode encoding).2.length < U64 →
    ∃ parsed, build arith b (m.encode encoding).2 = .ok (.Valid parsed) := by
  intro always
  obtain ⟨parsed,built⟩ := always .exact dict _ SmallDictionary.config builder text _ _ builder_made rfl text_apart text_conforming
    (by decide +kernel) (by decide +kernel)
  have refused : (build .exact builder (text.encode SmallDictionary.config).2).holds (fun _ => true) = false := by decide +kernel
  rw [built] at refused
  cases refused

end Unsummed
end HotFix
