import HotFix.Builder
import HotFix.BothEnds

/-!
Values of a single character. The iterator steps by two bytes from the front, and by two bytes
from the back: there it starts at the last byte, which is a value only where the length is odd,
and it subtracts two from a length that may be one.
-/
namespace HotFix
open BothEnds

def usize_sub (arith : Arith) (a b : Nat) : Checked Nat :=
  match arith with
  | .exact => if b ≤ a then .ok (a - b) else .error "attempt to subtract with overflow"
  | .wrapping => .ok (if b ≤ a then a - b else a + U64 - b)

structure MultipleChars where
  data : Bytes

namespace MultipleChars

def new (data : Bytes) : MultipleChars := ⟨data⟩

/-- `get(start..)`. -/
def get_from (data : Bytes) (start : Nat) : Option Bytes := if start ≤ data.length then some (data.drop start) else none

/-- `get(..stop)`. -/
def get_to (data : Bytes) (stop : Nat) : Option Bytes := if stop ≤ data.length then some (data.take stop) else none

def next (s : MultipleChars) : Option UInt8 × MultipleChars :=
  match s.data.head? with
  | some byte => (some byte,⟨(get_from s.data 2).getD []⟩)
  | none => (none,s)

def next_back (arith : Arith) (s : MultipleChars) : Checked (Option UInt8 × MultipleChars) :=
  match s.data.getLast? with
  | some byte => do
    let stop ← usize_sub arith s.data.length 2
    return (some byte,⟨(get_to s.data stop).getD []⟩)
  | none => return (none,s)

/-- `div_ceil(2)`. -/
def len (s : MultipleChars) : Nat := (s.data.length + 1) / 2

def ends (arith : Arith) : DoubleEnded String MultipleChars UInt8 := ⟨fun s => .ok s.next,next_back arith⟩

end MultipleChars

/-! ### Every other byte -/

/-- The bytes at even positions. -/
def evens : Bytes → Bytes
  | [] => []
  | [byte] => [byte]
  | byte :: _ :: rest => byte :: evens rest

theorem evens_head (data : Bytes) : (evens data).head? = data.head? := by
  cases data using evens.fun_cases <;> rfl

theorem evens_length (data : Bytes) : (evens data).length = (data.length + 1) / 2 := by
  induction data using evens.induct with
  | case1 => rfl
  | case2 byte => simp [evens]
  | case3 byte skipped rest ih =>
    rw [evens,List.length_cons,ih,List.length_cons,List.length_cons]
    omega

theorem evens_get (data : Bytes) (i : Nat) : (evens data)[i]? = data[2*i]? := by
  induction data using evens.induct generalizing i with
  | case1 => rfl
  | case2 byte =>
    cases i with
    | zero => rfl
    | succ i => rfl
  | case3 byte skipped rest ih =>
    cases i with
    | zero => rfl
    | succ i => exact ih i

theorem evens_drop (data : Bytes) : evens (data.drop 2) = (evens data).tail := by
  cases data using evens.fun_cases <;> rfl

/-- Without the last two bytes there is one value less. -/
theorem evens_take (data : Bytes) : evens (data.take (data.length - 2)) = (evens data).dropLast := by
  induction data using evens.induct with
  | case1 => rfl
  | case2 byte => rfl
  | case3 byte skipped rest ih =>
    match rest with
    | [] => rfl
    | [last] => rfl
    | next :: after :: rest =>
      have length : (byte :: skipped :: next :: after :: rest).length - 2 = (next :: after :: rest).length - 2 + 2 := rfl
      rw [length,List.take_succ_cons,List.take_succ_cons,evens,ih]
      rfl

/-! ### Cells -/

namespace MultipleChars

/-- What the front end gives beside what the back end gives in its place. -/
def cells (s : MultipleChars) : List (UInt8 × UInt8) := (evens s.data).zip (evens s.data.reverse).reverse

theorem sides_length (data : Bytes) : (evens data).length = (evens data.reverse).reverse.length := by
  rw [List.length_reverse,evens_length,evens_length,List.length_reverse]

theorem cells_length (s : MultipleChars) : (cells s).length = s.len := by
  rw [cells,List.length_zip,← sides_length,Nat.min_self,evens_length,len]

theorem cells_front (s : MultipleChars) : (cells s).map Prod.fst = evens s.data :=
  List.map_fst_zip (sides_length s.data).le

theorem cells_back (s : MultipleChars) : (cells s).map Prod.snd = (evens s.data.reverse).reverse :=
  List.map_snd_zip (sides_length s.data).ge

theorem next_eq (s : MultipleChars) : s.next = (s.data.head?,⟨s.data.drop 2⟩) := by
  obtain ⟨data⟩ := s
  cases data using evens.fun_cases with
  | case1 => rfl
  | case2 byte => rfl
  | case3 byte skipped rest => simp [next,get_from]

/-- The subtraction fails at a single byte, where overflow is checked; where it wraps, the slice is empty. -/
theorem next_back_eq (arith : Arith) (s : MultipleChars) :
    next_back arith s = if arith = .exact ∧ s.data.length = 1 then .error "attempt to subtract with overflow"
      else .ok (s.data.getLast?,⟨s.data.take (s.data.length - 2)⟩) := by
  obtain ⟨data⟩ := s
  cases data using evens.fun_cases with
  | case1 => cases arith <;> rfl
  | case2 byte => cases arith <;> rfl
  | case3 byte skipped rest =>
    have two : 2 ≤ (byte :: skipped :: rest).length := by simp
    have many : ¬ (arith = .exact ∧ (byte :: skipped :: rest).length = 1) := by
      rintro ⟨_,single⟩
      omega
    have stop : usize_sub arith (byte :: skipped :: rest).length 2 = .ok ((byte :: skipped :: rest).length - 2) := by
      cases arith <;> rw [usize_sub,if_pos two]
    rw [if_neg many,next_back,List.getLast?_eq_some_getLast (List.cons_ne_nil byte (skipped :: rest))]
    dsimp only [bind,Except.bind]
    rw [stop]
    dsimp only
    rw [get_to,if_pos (Nat.sub_le _ _)]
    rfl

theorem cells_drop (data : Bytes) : cells ⟨data.drop 2⟩ = (cells ⟨data⟩).tail := by
  have behind : evens (data.drop 2).reverse = (evens data.reverse).dropLast := by
    rw [List.reverse_drop,← List.length_reverse,evens_take]
  dsimp only [cells]
  rw [evens_drop,behind,← List.tail_reverse,List.zip_eq_zipWith,List.zip_eq_zipWith,List.tail_zipWith]

theorem cells_take (data : Bytes) : cells ⟨data.take (data.length - 2)⟩ = (cells ⟨data⟩).dropLast := by
  have before : evens (data.take (data.length - 2)).reverse = (evens data.reverse).tail := by
    rw [List.reverse_take,← evens_drop]
    rcases Nat.lt_or_ge data.length 2 with short | long
    · rw [List.drop_of_length_le (by rw [List.length_reverse]; omega),List.drop_of_length_le (by rw [List.length_reverse]; omega)]
    · rw [Nat.sub_sub_self long]
  dsimp only [cells]
  rw [evens_take,before,← List.dropLast_reverse,List.dropLast_eq_take,List.dropLast_eq_take,List.dropLast_eq_take,
    List.length_zip,← sides_length,Nat.min_self,List.zip_eq_zipWith,List.zip_eq_zipWith,List.take_zipWith]

theorem shows_cells (arith : Arith) : Shows (ends arith) cells Prod.fst Prod.snd where
  next := by
    intro s s' item called
    rw [ends] at called
    dsimp only at called
    rw [next_eq] at called
    cases called
    exact ⟨by rw [← List.head?_map,cells_front,evens_head],cells_drop s.data⟩
  next_back := by
    intro s s' item called
    rw [ends] at called
    dsimp only at called
    rw [next_back_eq] at called
    split_ifs at called with fails
    cases called
    exact ⟨by rw [← List.getLast?_map,cells_back,List.getLast?_reverse,evens_head,List.head?_reverse],cells_take s.data⟩

/-! ### Runs -/

theorem map_ok_iff {α β : Type} {x : Checked α} (f : α → β) : (∃ b, x.map f = .ok b) ↔ ∃ a, x = .ok a := by
  cases x <;> simp [Except.map]

/-- A call before the single byte brings it one call nearer. -/
theorem nearer (call : End) (calls : List End) {n : Nat} (two : 2 ≤ n) :
    ((n - 2) % 2 = 1 → calls[(n - 2) / 2]? ≠ some .back) ↔ (n % 2 = 1 → (call :: calls)[n / 2]? ≠ some .back) := by
  obtain ⟨n,rfl⟩ := Nat.exists_eq_add_of_le' two
  rw [Nat.add_sub_cancel,Nat.add_mod_right,Nat.add_div_right n Nat.two_pos,List.getElem?_cons_succ]

/-- Overflow is found where the call at a single byte is one from the back. -/
theorem exact_run (calls : List End) (s : MultipleChars) :
    (∃ ran, (ends .exact).run calls s = .ok ran) ↔ (s.data.length % 2 = 1 → calls[s.data.length / 2]? ≠ some .back) := by
  induction calls generalizing s with
  | nil => simp [DoubleEnded.run]
  | cons call calls ih =>
    cases call with
    | front =>
      rw [DoubleEnded.run_front (congrArg Except.ok (next_eq s)),map_ok_iff,ih,List.length_drop]
      rcases Nat.lt_or_ge s.data.length 2 with short | two
      · have none_left : s.data.length - 2 = 0 := by omega
        have first : s.data.length / 2 = 0 := by omega
        rw [none_left,first]
        simp
      · exact nearer .front calls two
    | back =>
      by_cases single : s.data.length = 1
      · have fails : (ends .exact).next_back s = .error "attempt to subtract with overflow" :=
          (next_back_eq .exact s).trans (if_pos ⟨rfl,single⟩)
        rw [DoubleEnded.run,fails,single]
        simp [bind,Except.bind]
      · have called := (next_back_eq .exact s).trans (if_neg (fun fails => single fails.2))
        rw [DoubleEnded.run_back called,map_ok_iff,ih,List.length_take,Nat.min_eq_left (Nat.sub_le _ _)]
        rcases Nat.lt_or_ge s.data.length 2 with short | two
        · have none_left : s.data.length = 0 := by omega
          rw [none_left]
          simp
        · exact nearer .back calls two

/-- Where overflow is not found both builds agree. -/
theorem run_agrees {calls : List End} {s : MultipleChars} {ran : List UInt8 × List UInt8 × MultipleChars} (arith : Arith)
    (exact : (ends .exact).run calls s = .ok ran) : (ends arith).run calls s = .ok ran := by
  induction calls generalizing s ran with
  | nil => exact exact
  | cons call calls ih =>
    cases call with
    | front =>
      have called (arith : Arith) : (ends arith).next s = .ok (s.data.head?,⟨s.data.drop 2⟩) := congrArg Except.ok (next_eq s)
      rw [DoubleEnded.run_front (called .exact)] at exact
      obtain ⟨later,ran_later⟩ := (map_ok_iff _).mp ⟨ran,exact⟩
      rw [DoubleEnded.run_front (called arith),ih ran_later,← exact,ran_later]
    | back =>
      by_cases single : s.data.length = 1
      · have fails : (ends .exact).next_back s = .error "attempt to subtract with overflow" :=
          (next_back_eq .exact s).trans (if_pos ⟨rfl,single⟩)
        rw [DoubleEnded.run,fails] at exact
        cases exact
      · have called (arith : Arith) := (next_back_eq arith s).trans (if_neg (fun fails => single fails.2))
        rw [DoubleEnded.run_back (called .exact)] at exact
        obtain ⟨later,ran_later⟩ := (map_ok_iff _).mp ⟨ran,exact⟩
        rw [DoubleEnded.run_back (called arith),ih ran_later,← exact,ran_later]

/-- The back end reads a value of its cell where the length is odd, and the byte behind it otherwise. -/
theorem cells_get {data : Bytes} {i : Nat} {cell : UInt8 × UInt8} (read : (cells (new data))[i]? = some cell) :
    data[2*i]? = some cell.1 ∧ data[2*i + (1 - data.length % 2)]? = some cell.2 := by
  have before : i < (data.length + 1) / 2 :=
    lt_of_lt_of_eq (List.getElem?_eq_some_iff.mp read).1 (cells_length (new data))
  constructor
  · have side : (evens data)[i]? = some cell.1 := by
      have values : (cells (new data)).map Prod.fst = evens data := cells_front (new data)
      rw [← values,List.getElem?_map,read]
      rfl
    rw [← evens_get,side]
  · have half : i < (evens data.reverse).length := by rw [evens_length,List.length_reverse]; exact before
    have side : (evens data.reverse).reverse[i]? = some cell.2 := by
      have values : (cells (new data)).map Prod.snd = (evens data.reverse).reverse := cells_back (new data)
      rw [← values,List.getElem?_map,read]
      rfl
    rw [List.getElem?_reverse half,evens_get,evens_length,List.length_reverse,List.getElem?_reverse (by omega)] at side
    rw [← side]
    congr 1
    omega

/-- Both ends read the same in the cells taken from the back. -/
theorem same_cells_iff (data : Bytes) (calls : List End) :
    (∀ cell ∈ (takes calls (cells (new data))).back, cell.1 = cell.2) ↔
      (data.length % 2 = 0 → ∀ i, data.length / 2 - (calls.take (data.length / 2)).count .back ≤ i → i < data.length / 2 →
        data[2*i]? = data[2*i + 1]?) := by
  have count : (cells (new data)).length = (data.length + 1) / 2 := cells_length (new data)
  constructor
  · intro same even i behind before
    have half : (cells (new data)).length = data.length / 2 := by omega
    have inside : i < (cells (new data)).length := half ▸ before
    have read := List.getElem?_eq_getElem inside
    obtain ⟨value,other⟩ := cells_get read
    rw [even] at other
    rw [value,other,same _ (mem_takes_back.mpr ⟨i,by rw [half]; exact behind,read⟩)]
  · intro same cell taken
    obtain ⟨i,behind,read⟩ := mem_takes_back.mp taken
    obtain ⟨value,other⟩ := cells_get read
    have before := (List.getElem?_eq_some_iff.mp read).1
    rw [count] at behind before
    rcases Nat.mod_two_eq_zero_or_one data.length with even | odd
    · have half : (data.length + 1) / 2 = data.length / 2 := by omega
      rw [half] at behind before
      have agree := same even i behind before
      rw [even] at other
      exact Option.some.inj (value.symm.trans (agree.trans other))
    · rw [odd] at other
      exact Option.some.inj (value.symm.trans other)

/-- The calls run with and without overflow checks, both ends give the bytes at even positions, and
    `len` is the number of items to come. -/
def SameValues (data : Bytes) (calls : List End) : Prop :=
  ∃ front back s, (∀ arith, (ends arith).run calls (new data) = .ok (front,back,s)) ∧
    (∃ rest, front ++ rest ++ back.reverse = evens data ∧ s.len = rest.length) ∧
    ∀ arith more front' back' s', (ends arith).run more s = .ok (front',back',s') → s.len ≤ more.length →
      front'.length + back'.length = s.len

/-- The ends give the same values exactly where a single byte is not taken from the back, and, for an even
    length, where the back takes only pairs of equal bytes. -/
theorem same_values_iff (data : Bytes) (calls : List End) :
    SameValues data calls ↔ (data.length % 2 = 1 → calls[data.length / 2]? ≠ some .back) ∧
      (data.length % 2 = 0 → ∀ i, data.length / 2 - (calls.take (data.length / 2)).count .back ≤ i → i < data.length / 2 →
        data[2*i]? = data[2*i + 1]?) := by
  rw [← same_cells_iff]
  constructor
  · rintro ⟨front,back,s,ran,same,_⟩
    refine ⟨(exact_run calls (new data)).mp ⟨_,ran .exact⟩,((shows_cells .exact).same_iff (ran .exact)).mp ?_⟩
    rw [cells_front,cells_length]
    exact same
  · rintro ⟨safe,same⟩
    obtain ⟨⟨front,back,s⟩,ran⟩ := (exact_run calls (new data)).mpr safe
    have values := ((shows_cells .exact).same_iff ran).mpr same
    rw [cells_front,cells_length] at values
    refine ⟨front,back,s,fun arith => run_agrees arith ran,values,?_⟩
    intro arith more front' back' s' later enough
    have items := (shows_cells arith).items later
    rw [cells_length,Nat.min_eq_right enough] at items
    exact items

/-- The last byte of ": " is no value. -/
theorem space_from_back : ¬ ∀ data calls, SameValues data calls := by
  intro always
  obtain ⟨front,back,s,ran,⟨rest,same,_⟩,_⟩ := always [58,32] [.back]
  have given : (ends .exact).run [.back] (new [58,32]) = .ok ([],[32],⟨[]⟩) := rfl
  rw [ran .exact] at given
  cases given
  have last := congrArg List.getLast? same
  rw [List.getLast?_append] at last
  cases last

end MultipleChars
end HotFix
