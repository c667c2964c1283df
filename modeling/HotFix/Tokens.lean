import HotFix.Builder

/-!
The fields on the wire. A field is a tag text up to the first equal sign and a
value up to the first separator behind it; the cursor moves from field to field.
`Scan` is a stretch of fields read one after the other, and where it ends: in front
of a field that is in hand, at the end of what can be read as fields, or at a tag
text on which reading panics.
-/
namespace HotFix

/-- The bytes start with a field of this tag text and value. -/
structure FieldAt (separator : UInt8) (bytes text data tail : Bytes) : Prop where
  splits : bytes = text ++ 61 :: (data ++ separator :: tail)
  text_ends : 61 ∉ text
  data_ends : separator ∉ data

theorem findIdx?_first {c : UInt8} {bytes front back : Bytes} (free : c ∉ front) (splits : bytes = front ++ c :: back) :
    bytes.findIdx? (fun x => x = c) = some front.length := by
  subst splits
  induction front with
  | nil => simp [List.findIdx?_cons]
  | cons x rest ih =>
    rw [List.mem_cons,not_or] at free
    simp [List.findIdx?_cons,Ne.symm free.1,ih free.2]

theorem findIdx?_none {c : UInt8} {bytes : Bytes} (free : c ∉ bytes) :
    bytes.findIdx? (fun x => x = c) = none := by
  simp only [List.findIdx?_eq_none_iff,decide_eq_false_iff_not]
  exact fun x member same => free (same ▸ member)

/-- The bytes start with a field, or they hold no equal sign with a separator behind it. -/
theorem field_at_or_none (separator : UInt8) (bytes : Bytes) :
    (∃ text data tail, FieldAt separator bytes text data tail) ∨
      ∀ text data tail, bytes = text ++ 61 :: (data ++ separator :: tail) → 61 ∈ text := by
  by_cases equals : 61 ∈ bytes
  · obtain ⟨text,behind,splits,free⟩ := List.eq_append_cons_of_mem equals
    by_cases separated : separator ∈ behind
    · obtain ⟨data,tail,rest,clean⟩ := List.eq_append_cons_of_mem separated
      exact .inl ⟨text,data,tail,by rw [splits,rest],free,clean⟩
    · refine .inr (fun text' data tail splits' => ?_)
      by_contra free'
      have same : text = text' := by
        have found := findIdx?_first free splits
        rw [findIdx?_first free' splits'] at found
        have lengths : text'.length = text.length := by simpa using found
        exact (List.append_inj (splits.symm.trans splits') lengths.symm).1
      subst same
      have tails := List.append_cancel_left (splits.symm.trans splits')
      rw [List.cons.injEq] at tails
      exact separated (by rw [tails.2]; simp)
  · refine .inr (fun text data tail splits => ?_)
    exact absurd (by rw [splits]; simp) equals

/-- The first field of the bytes: up to the first equal sign and up to the first
    separator behind it. -/
def split_field (separator : UInt8) (bytes : Bytes) : Option (Bytes × Bytes × Bytes) :=
  let text := bytes.takeWhile (fun c => c ≠ 61)
  match bytes.drop text.length with
  | [] => none
  | _ :: behind =>
    let data := behind.takeWhile (fun c => c ≠ separator)
    match behind.drop data.length with
    | [] => none
    | _ :: tail => some (text,data,tail)

theorem takeWhile_first {c : UInt8} {front back : Bytes} (free : c ∉ front) :
    (front ++ c :: back).takeWhile (fun x => x ≠ c) = front := by
  rw [List.takeWhile_append_of_pos]
  · simp
  · intro x member
    simpa using fun same : x = c => free (same ▸ member)

theorem split_field_at {separator : UInt8} {bytes text data tail : Bytes}
    (at_field : FieldAt separator bytes text data tail) : split_field separator bytes = some (text,data,tail) := by
  simp only [split_field,at_field.splits,takeWhile_first at_field.text_ends,List.drop_left,
    takeWhile_first at_field.data_ends]

/-- What is left behind the first field is shorter. -/
theorem split_field_shorter {separator : UInt8} {bytes text data tail : Bytes}
    (split : split_field separator bytes = some (text,data,tail)) : tail.length < bytes.length := by
  rw [split_field] at split
  dsimp only at split
  rcases found : bytes.drop (bytes.takeWhile (fun c => c ≠ 61)).length with _ | ⟨c,behind⟩
  · rw [found] at split
    cases split
  rw [found] at split
  dsimp only at split
  rcases ended : behind.drop (behind.takeWhile (fun c => c ≠ separator)).length with _ | ⟨d,rest⟩
  · rw [ended] at split
    cases split
  rw [ended] at split
  cases split
  have outer := congrArg List.length found
  have inner := congrArg List.length ended
  simp only [List.length_drop,List.length_cons] at outer inner
  omega

/-- The bytes start with one field only. -/
theorem FieldAt.unique {separator : UInt8} {bytes text data tail text' data' tail' : Bytes}
    (at_field : FieldAt separator bytes text data tail) (other : FieldAt separator bytes text' data' tail') :
    text = text' ∧ data = data' ∧ tail = tail' := by
  have split := split_field_at at_field
  rw [split_field_at other] at split
  cases split
  exact ⟨rfl,rfl,rfl⟩

/-- What is behind the first field. -/
theorem FieldAt.behind {separator : UInt8} {bytes text data tail : Bytes} {position : Nat}
    (at_field : FieldAt separator (bytes.drop position) text data tail) :
    bytes.drop (position + text.length + data.length + 2) = tail := by
  have moved := congrArg (List.drop (text.length + (data.length + 1 + 1))) at_field.splits
  rw [List.drop_drop] at moved
  rw [show position + text.length + data.length + 2 = position + (text.length + (data.length + 1 + 1)) by omega,moved]
  simp

theorem FieldAt.shorter {separator : UInt8} {bytes text data tail : Bytes} {position : Nat}
    (at_field : FieldAt separator (bytes.drop position) text data tail) :
    position + text.length + data.length + 2 + tail.length = bytes.length := by
  have length := congrArg List.length at_field.splits
  simp only [List.length_drop,List.length_append,List.length_cons] at length
  omega

/-! ### Tag texts -/

/-- A tag text is decimal digits, and the tag is their number. -/
def Spells (text : Bytes) (tag : TagU32) : Prop := text.all Decimal.isDigit = true ∧ Decimal.value text = tag.get

private theorem tag_digit_spelled (arith : Arith) {tag : Nat} {byte : UInt8} (digit : Decimal.isDigit byte = true)
    (below : 10*tag+(byte.toNat-48) < U32) : tag_digit arith tag byte = .ok (10*tag+(byte.toNat-48)) := by
  simp only [Decimal.isDigit,Bool.and_eq_true,decide_eq_true_eq] at digit
  cases arith with
  | exact =>
    rw [tag_digit,if_neg (by omega),if_neg (by omega),if_neg (by omega),Nat.mul_comm]
  | wrapping =>
    have wraps : tag * 10 + (byte.toNat + U32 - 48) = 10*tag+(byte.toNat-48) + U32 := by omega
    rw [tag_digit,wraps,Nat.add_mod_right,Nat.mod_eq_of_lt below]

private theorem tag_digits_spelled (arith : Arith) {text : Bytes} (digits : text.all Decimal.isDigit = true) {start : Nat}
    (below : text.foldl (fun sofar byte => 10*sofar+(byte.toNat-48)) start < U32) :
    text.foldlM (tag_digit arith) start = .ok (text.foldl (fun sofar byte => 10*sofar+(byte.toNat-48)) start) := by
  induction text generalizing start with
  | nil => rfl
  | cons byte rest ih =>
    rw [List.all_cons,Bool.and_eq_true] at digits
    have bound := Decimal.value_grows (10*start+(byte.toNat-48)) rest
    rw [List.foldlM_cons,tag_digit_spelled arith digits.1 (lt_of_le_of_lt bound below)]
    exact ih digits.2 below

/-- A tag reads back from a text that spells it. -/
theorem tag_from_bytes_spelled (arith : Arith) {text : Bytes} {tag : TagU32} (spells : Spells text tag) :
    tag_from_bytes arith text = .ok (some tag) := by
  obtain ⟨digits,same⟩ := spells
  have read := tag_digits_spelled arith digits (show Decimal.value text < U32 from same ▸ tag.fits)
  rw [tag_from_bytes,read]
  show Except.ok (TagU32.new (Decimal.value text)) = _
  rw [same]
  simp [TagU32.new,tag.pos,tag.fits]

theorem spells_decimal (tag : TagU32) : Spells (Decimal.decimal tag.get) tag :=
  ⟨Decimal.decimal_digits _,Decimal.value_decimal _⟩

theorem Spells.no_equal_sign {text : Bytes} {tag : TagU32} (spells : Spells text tag) : 61 ∉ text := by
  intro member
  have digit := List.all_eq_true.mp spells.1 61 member
  exact absurd digit (by decide)

namespace Parser
variable {arith : Arith}

/-- Reading a field: only the tag text can fail. -/
theorem parse_field_at_field {p : Parser} {position : Nat} {text data tail : Bytes}
    (at_field : FieldAt p.config.separator (p.raw_data.drop position) text data tail) :
    p.parse_field_at arith position = (tag_from_bytes arith text).map
      (Option.map (fun tag => (⟨tag,data⟩,position + text.length + data.length + 1))) := by
  have inside : ¬ p.raw_data.length < position := by
    intro outside
    have nothing := at_field.splits
    rw [List.drop_of_length_le (by omega)] at nothing
    cases text <;> cases nothing
  have equal_sign := findIdx?_first at_field.text_ends at_field.splits
  have behind : (p.raw_data.drop position).drop (text.length + 1) = data ++ p.config.separator :: tail := by
    simp [at_field.splits]
  have front : (p.raw_data.drop position).take text.length = text := by
    simp [at_field.splits]
  have separator := findIdx?_first at_field.data_ends behind
  simp only [parse_field_at,inside,if_false,equal_sign,separator,front]
  rcases tag_from_bytes arith text with message | tag
  · rfl
  · cases tag with
    | none => rfl
    | some tag => simp [bind,Except.bind,pure,Except.pure,Except.map,behind]

theorem parse_field_at_none {p : Parser} {position : Nat} (inside : position ≤ p.raw_data.length)
    (nothing : ∀ text data tail, p.raw_data.drop position = text ++ 61 :: (data ++ p.config.separator :: tail) →
      61 ∈ text) : p.parse_field_at arith position = .ok none := by
  by_cases equals : 61 ∈ p.raw_data.drop position
  · obtain ⟨text,behind,splits,free⟩ := List.eq_append_cons_of_mem equals
    by_cases separated : p.config.separator ∈ behind
    · obtain ⟨data,tail,rest,_⟩ := List.eq_append_cons_of_mem separated
      exact absurd (nothing text data tail (by rw [splits,rest])) free
    · have rest : (p.raw_data.drop position).drop (text.length + 1) = behind := by
        simp [splits]
      simp only [parse_field_at,Nat.not_lt.mpr inside,if_false,findIdx?_first free splits,rest,findIdx?_none separated]
  · simp only [parse_field_at,Nat.not_lt.mpr inside,if_false,findIdx?_none equals]

theorem next_field_field {p : Parser} {text data tail : Bytes}
    (at_field : FieldAt p.config.separator (p.raw_data.drop p.position) text data tail) :
    p.next_field arith = (tag_from_bytes arith text).map
      (Option.map (fun tag => (⟨tag,data⟩,{ p with position := p.position + text.length + data.length + 2 }))) := by
  rw [next_field,parse_field_at_field at_field]
  rcases tag_from_bytes arith text with message | tag
  · rfl
  · cases tag <;> rfl

/-- A field whose tag is spelled out is read. -/
theorem next_field_spelled {p : Parser} {text data tail : Bytes} {tag : TagU32}
    (at_field : FieldAt p.config.separator (p.raw_data.drop p.position) text data tail) (spells : Spells text tag) :
    p.next_field arith =
      .ok (some (⟨tag,data⟩,{ p with position := p.position + text.length + data.length + 2 })) := by
  rw [next_field_field at_field,tag_from_bytes_spelled arith spells]
  rfl

theorem next_field_none {p : Parser} (inside : p.position ≤ p.raw_data.length)
    (nothing : ∀ text data tail, p.raw_data.drop p.position = text ++ 61 :: (data ++ p.config.separator :: tail) →
      61 ∈ text) : p.next_field arith = .ok none := by
  rw [next_field,parse_field_at_none inside nothing]
  rfl

/-- What a field that is read says about the bytes. -/
theorem next_field_some {p q : Parser} {field : Field} (inside : p.position ≤ p.raw_data.length)
    (read : p.next_field arith = .ok (some (field,q))) :
    ∃ text tail, FieldAt p.config.separator (p.raw_data.drop p.position) text field.data tail ∧
      tag_from_bytes arith text = .ok (some field.tag) ∧
      q = { p with position := p.position + text.length + field.data.length + 2 } := by
  rcases field_at_or_none p.config.separator (p.raw_data.drop p.position) with ⟨text,data,tail,at_field⟩ | nothing
  · rw [next_field_field at_field] at read
    rcases spelled : tag_from_bytes arith text with message | tag
    · rw [spelled] at read
      cases read
    · rw [spelled] at read
      cases tag with
      | none => cases read
      | some tag =>
        cases read
        exact ⟨text,tail,at_field,spelled,rfl⟩
  · rw [next_field_none inside nothing] at read
    cases read

/-- Reading panics on a tag text only. -/
theorem next_field_error {p : Parser} {message : String} (inside : p.position ≤ p.raw_data.length) :
    p.next_field arith = .error message ↔
      ∃ text data tail, FieldAt p.config.separator (p.raw_data.drop p.position) text data tail ∧
        tag_from_bytes arith text = .error message := by
  constructor
  · intro read
    rcases field_at_or_none p.config.separator (p.raw_data.drop p.position) with ⟨text,data,tail,at_field⟩ | nothing
    · rw [next_field_field at_field] at read
      rcases spelled : tag_from_bytes arith text with text_message | tag
      · rw [spelled] at read
        cases read
        exact ⟨text,data,tail,at_field,spelled⟩
      · rw [spelled] at read
        cases read
    · rw [next_field_none inside nothing] at read
      cases read
  · rintro ⟨text,data,tail,at_field,spelled⟩
    rw [next_field_field at_field,spelled]
    rfl

/-- The bytes in front of the cursor. -/
def remaining (p : Parser) : Nat := p.raw_data.length - p.position

/-- Reading a field moves the cursor on, inside the data. -/
theorem next_field_moves {p q : Parser} {field : Field} (inside : p.position ≤ p.raw_data.length)
    (read : p.next_field arith = .ok (some (field,q))) :
    q.raw_data = p.raw_data ∧ q.config = p.config ∧ p.position < q.position ∧ q.position ≤ q.raw_data.length := by
  obtain ⟨text,tail,at_field,_,rfl⟩ := next_field_some inside read
  have length := congrArg List.length at_field.splits
  simp only [List.length_drop,List.length_append,List.length_cons] at length
  refine ⟨rfl,rfl,?_,?_⟩
  · dsimp only
    omega
  · dsimp only
    omega

theorem next_field_remaining {p q : Parser} {field : Field} (inside : p.position ≤ p.raw_data.length)
    (read : p.next_field arith = .ok (some (field,q))) : q.remaining < p.remaining := by
  obtain ⟨data,_,moved,inside'⟩ := next_field_moves inside read
  simp only [remaining]
  rw [data] at inside' ⊢
  omega

end Parser

/-! ### Stretches of fields -/

/-- Where reading stands: a field in hand and the cursor behind it, the end of what
    reads as fields, or a panic. -/
inductive Stop where
  | ahead (field : Field) (parser : Parser)
  | ended
  | stuck (message : String)

/-- The tag in hand, if reading has not stopped. -/
def Stop.tag : Stop → Option TagU32
  | .ahead field _ => some field.tag
  | _ => none

/-- The fields from the one in hand up to where reading stands. -/
inductive Scan (arith : Arith) : Field → Parser → List Field → Stop → Prop where
  | here (field : Field) (parser : Parser) : Scan arith field parser [] (.ahead field parser)
  | ended {field : Field} {parser : Parser} (none_left : parser.next_field arith = .ok none) :
    Scan arith field parser [field] .ended
  | stuck {field : Field} {parser : Parser} {message : String} (panics : parser.next_field arith = .error message) :
    Scan arith field parser [field] (.stuck message)
  | next {field next : Field} {parser parser' : Parser} {fields : List Field} {stop : Stop}
    (read : parser.next_field arith = .ok (some (next,parser'))) (rest : Scan arith next parser' fields stop) :
    Scan arith field parser (field :: fields) stop

namespace Scan
variable {arith : Arith} {field : Field} {parser : Parser} {fields : List Field} {stop : Stop}

/-- The cursor of a stretch that is not at its end. -/
structure Onward (p q : Parser) : Prop where
  data : q.raw_data = p.raw_data
  config : q.config = p.config
  inside : q.position ≤ q.raw_data.length
  moved : p.position ≤ q.position

theorem onward {next : Field} {parser' : Parser} (inside : parser.position ≤ parser.raw_data.length)
    (scan : Scan arith field parser fields (.ahead next parser')) : Onward parser parser' := by
  generalize target : Stop.ahead next parser' = stop at scan
  induction scan with
  | here => cases target; exact ⟨rfl,rfl,inside,le_rfl⟩
  | ended => cases target
  | stuck => cases target
  | next read rest ih =>
    obtain ⟨data,config,moved,inside'⟩ := Parser.next_field_moves inside read
    have further := ih inside' target
    exact ⟨further.data.trans data,further.config.trans config,further.inside,moved.le.trans further.moved⟩

theorem Onward.remaining {p q : Parser} (onward : Onward p q) : q.remaining ≤ p.remaining := by
  have moved := onward.moved
  simp only [Parser.remaining,onward.data]
  omega

/-- Two stretches, one after the other. -/
theorem trans {next : Field} {parser' : Parser} {more : List Field}
    (first : Scan arith field parser fields (.ahead next parser')) (second : Scan arith next parser' more stop) :
    Scan arith field parser (fields ++ more) stop := by
  generalize target : Stop.ahead next parser' = middle at first
  induction first with
  | here => cases target; exact second
  | ended => cases target
  | stuck => cases target
  | next read rest ih => exact .next read (ih target)

/-- A stretch splits where its fields do. -/
theorem split {more : List Field} (scan : Scan arith field parser (fields ++ more) stop) (nonempty : more ≠ []) :
    ∃ next parser', Scan arith field parser fields (.ahead next parser') ∧ Scan arith next parser' more stop := by
  induction fields generalizing field parser with
  | nil => exact ⟨field,parser,.here field parser,scan⟩
  | cons first rest ih =>
    generalize whole : first :: rest ++ more = all at scan
    cases scan with
    | here => cases whole
    | ended none_left =>
      rw [List.cons_append,List.cons.injEq] at whole
      exact absurd (List.append_eq_nil_iff.mp whole.2).2 nonempty
    | stuck panics =>
      rw [List.cons_append,List.cons.injEq] at whole
      exact absurd (List.append_eq_nil_iff.mp whole.2).2 nonempty
    | next read tail =>
      rw [List.cons_append,List.cons.injEq] at whole
      obtain ⟨rfl,rfl⟩ := whole
      obtain ⟨next,parser',front,back⟩ := ih tail
      exact ⟨next,parser',.next read front,back⟩

/-- A stretch splits, or it stops inside its first part. -/
theorem split_or {more : List Field} (scan : Scan arith field parser (fields ++ more) stop) :
    (∃ next parser', Scan arith field parser fields (.ahead next parser') ∧ Scan arith next parser' more stop) ∨
      more = [] ∧ stop.tag = none := by
  by_cases nonempty : more = []
  · match stop with
    | .ahead following parser' =>
      subst nonempty
      rw [List.append_nil] at scan
      exact .inl ⟨following,parser',scan,.here following parser'⟩
    | .ended => exact .inr ⟨nonempty,rfl⟩
    | .stuck _ => exact .inr ⟨nonempty,rfl⟩
  · exact .inl (scan.split nonempty)

/-- A stretch that goes on past its first field. -/
theorem tail {next : Field} {parser' : Parser} (scan : Scan arith field parser (field :: fields) (.ahead next parser')) :
    ∃ following parser₁, parser.next_field arith = .ok (some (following,parser₁)) ∧
      Scan arith following parser₁ fields (.ahead next parser') := by
  generalize whole : field :: fields = all at scan
  cases scan with
  | here => cases whole
  | next read rest =>
    rw [List.cons.injEq] at whole
    exact ⟨_,_,read,whole.2 ▸ rest⟩

theorem tail_remaining {next : Field} {parser' : Parser} (inside : parser.position ≤ parser.raw_data.length)
    (scan : Scan arith field parser (field :: fields) (.ahead next parser')) : parser'.remaining < parser.remaining := by
  obtain ⟨following,parser₁,read,rest⟩ := scan.tail
  have less := Parser.next_field_remaining inside read
  have later := (rest.onward (Parser.next_field_moves inside read).2.2.2).remaining
  omega

/-- What a stretch reads, or what it stands at, begins with the field in hand. -/
theorem head (scan : Scan arith field parser fields stop) :
    (∃ rest, fields = field :: rest) ∨ fields = [] ∧ stop = .ahead field parser := by
  cases scan with
  | here => exact .inr ⟨rfl,rfl⟩
  | ended => exact .inl ⟨[],rfl⟩
  | stuck => exact .inl ⟨[],rfl⟩
  | next read rest => exact .inl ⟨_,rfl⟩

end Scan
end HotFix
