import HotFix.Decimal
import Mathlib.Data.Nat.Digits.Defs
import Mathlib.Tactic.Ring

/-!
Text as bytes: numbers of a fixed width and the numbers that their first digits
spell, trimming, and lines. Text that is trimmed here is ASCII, so white space is
that of ASCII.
-/
namespace HotFix

namespace Decimal

theorem foldl_value (digits : Bytes) (start : Nat) :
    digits.foldl (fun sofar byte => 10*sofar+(byte.toNat-48)) start = start * 10^digits.length + value digits := by
  induction digits generalizing start with
  | nil => simp [value]
  | cons byte rest ih =>
    rw [value,List.foldl_cons,List.foldl_cons,ih,ih,List.length_cons,Nat.pow_succ]
    ring

theorem value_append (digits more : Bytes) : value (digits ++ more) = value digits * 10^more.length + value more := by
  rw [value,List.foldl_append,foldl_value]
  rfl

theorem value_lt {digits : Bytes} (all : digits.all isDigit = true) : value digits < 10^digits.length := by
  induction digits with
  | nil => exact Nat.one_pos
  | cons byte rest ih =>
    rw [List.all_cons,Bool.and_eq_true] at all
    have below := ih all.2
    have digit : byte.toNat - 48 ≤ 9 := by
      have range := all.1
      simp only [isDigit,Bool.and_eq_true,decide_eq_true_eq] at range
      omega
    have split := foldl_value rest (byte.toNat - 48)
    have whole : value (byte :: rest) = (byte.toNat - 48) * 10^rest.length + value rest := by
      rw [← split,value,List.foldl_cons,Nat.mul_zero,Nat.zero_add]
    have most : (byte.toNat - 48) * 10^rest.length ≤ 9 * 10^rest.length := Nat.mul_le_mul_right _ digit
    rw [whole,List.length_cons,Nat.pow_succ]
    omega

theorem take_digits {digits : Bytes} (all : digits.all isDigit = true) (count : Nat) : (digits.take count).all isDigit = true :=
  List.all_eq_true.mpr (fun byte member => List.all_eq_true.mp all byte (List.mem_of_mem_take member))

/-- The number that the first digits spell. -/
theorem value_take {digits : Bytes} (all : digits.all isDigit = true) (count : Nat) :
    value (digits.take count) = value digits / 10^(digits.length - count) := by
  have rest : (digits.drop count).all isDigit = true :=
    List.all_eq_true.mpr (fun byte member => List.all_eq_true.mp all byte (List.mem_of_mem_drop member))
  have below := value_lt rest
  have split := value_append (digits.take count) (digits.drop count)
  rw [List.take_append_drop,List.length_drop] at split
  rw [List.length_drop] at below
  rw [split,Nat.add_comm,Nat.add_mul_div_right _ _ (Nat.pow_pos (by decide)),Nat.div_eq_of_lt below,Nat.zero_add]

/-- A number in at least `width` digits, with zeros in front. -/
def padded (width n : Nat) : Bytes := List.replicate (width - (decimal n).length) 48 ++ decimal n

theorem padded_digits (width n : Nat) : (padded width n).all isDigit = true := by
  rw [padded,List.all_append,decimal_digits,Bool.and_true]
  simp [isDigit]

theorem value_zeros (count : Nat) : value (List.replicate count 48) = 0 := by
  induction count with
  | zero => rfl
  | succ count ih => rwa [List.replicate_succ,value,List.foldl_cons]

theorem value_padded (width n : Nat) : value (padded width n) = n := by
  rw [padded,value_append,value_zeros,value_decimal,Nat.zero_mul,Nat.zero_add]

theorem length_padded {width n : Nat} (positive : 0 < width) (fits : n < 10^width) : (padded width n).length = width := by
  have short : (decimal n).length ≤ width := by
    rw [decimal,List.length_map]
    exact Nat.toDigits_length 10 n width positive fits
  rw [padded,List.length_append,List.length_replicate]
  omega

end Decimal

namespace Text
open Decimal

def is_whitespace (byte : UInt8) : Bool := byte = 32 || (9 ≤ byte.toNat && byte.toNat ≤ 13)

def trim (text : Bytes) : Bytes := ((text.dropWhile is_whitespace).reverse.dropWhile is_whitespace).reverse

/-- Text without white space at its ends is left alone. -/
theorem trim_eq {text : Bytes} (first : ∀ byte ∈ text.head?, is_whitespace byte = false)
    (last : ∀ byte ∈ text.getLast?, is_whitespace byte = false) : trim text = text := by
  have bare {text : Bytes} (first : ∀ byte ∈ text.head?, is_whitespace byte = false) : text.dropWhile is_whitespace = text := by
    cases text with
    | nil => rfl
    | cons byte rest => exact List.dropWhile_cons_of_neg (by rw [first byte rfl]; exact Bool.false_ne_true)
  rw [trim,bare first,bare,List.reverse_reverse]
  rw [List.head?_reverse]
  exact last

theorem digit_visible {byte : UInt8} (digit : isDigit byte = true) : is_whitespace byte = false := by
  simp only [isDigit,Bool.and_eq_true,decide_eq_true_eq] at digit
  simp only [is_whitespace,Bool.or_eq_false_iff,Bool.and_eq_false_iff,decide_eq_false_iff_not]
  refine ⟨?_,.inr (by omega)⟩
  rintro rfl
  exact absurd digit.1 (by decide)

theorem blank_space : ∀ byte ∈ ([32] : Bytes), is_whitespace byte = true := by
  intro byte member
  rw [List.mem_singleton.mp member]
  rfl

/-- White space in front of a text is cut off. -/
theorem trim_append_left {space text : Bytes} (blank : ∀ byte ∈ space, is_whitespace byte = true) :
    trim (space ++ text) = trim text := by
  rw [trim,trim,List.dropWhile_append_of_pos blank]

theorem trim_append_right {space text : Bytes} (blank : ∀ byte ∈ space, is_whitespace byte = true)
    (first : ∀ byte ∈ text.head?, is_whitespace byte = false) : trim (text ++ space) = trim text := by
  cases text with
  | nil =>
    rw [List.nil_append,← List.append_nil space,trim_append_left blank]
  | cons byte rest =>
    have visible : ¬ is_whitespace byte = true := by
      rw [first byte rfl]
      exact Bool.false_ne_true
    rw [trim,trim,List.cons_append,List.dropWhile_cons_of_neg visible,List.dropWhile_cons_of_neg visible,← List.cons_append,
      List.reverse_append,List.dropWhile_append_of_pos (fun b member => blank b (List.mem_reverse.mp member))]

theorem trim_digits {digits : Bytes} (all : digits.all isDigit = true) : trim digits = digits := by
  have visible (byte : UInt8) (member : byte ∈ digits) : is_whitespace byte = false :=
    digit_visible (List.all_eq_true.mp all byte member)
  exact trim_eq (fun byte first => visible byte (List.mem_of_mem_head? first))
    (fun byte last => visible byte (List.mem_of_mem_getLast? last))

/-! ### Lines -/

/-- A line that was ended, without a carriage return at its end. -/
def without_return (line : Bytes) : Bytes := if line.getLast? = some 13 then line.dropLast else line

/-- The lines of a text. The last one may not have been ended. -/
def lines (text : Bytes) : List Bytes :=
  let pieces := text.splitOn 10
  pieces.dropLast.map without_return ++ (pieces.getLast?.toList.filter (· ≠ []))

theorem splitOn_lines {ls : List Bytes} {rest : Bytes} (whole : ∀ l ∈ ls, (10 : UInt8) ∉ l) (open_rest : (10 : UInt8) ∉ rest) :
    (ls.flatMap (fun l => l ++ [10]) ++ rest).splitOn 10 = ls ++ [rest] := by
  induction ls with
  | nil => exact List.splitOn_eq_singleton open_rest
  | cons l more ih =>
    rw [List.flatMap_cons,List.append_assoc,List.append_assoc,List.cons_append,List.nil_append,
      List.splitOn_append_cons_self_of_not_mem (whole l List.mem_cons_self),
      ih (fun l member => whole l (List.mem_cons_of_mem _ member))]
    rfl

/-- Lines that were written are read as they were, and so is a rest that was not
    ended. -/
theorem lines_unended {ls : List Bytes} {rest : Bytes} (whole : ∀ l ∈ ls, (10 : UInt8) ∉ l) (open_rest : (10 : UInt8) ∉ rest)
    (unreturned : ∀ l ∈ ls, l.getLast? ≠ some 13) :
    lines (ls.flatMap (fun l => l ++ [10]) ++ rest) = ls ++ [rest].filter (· ≠ []) := by
  have kept : ls.map without_return = ls := by
    refine List.map_congr_left (fun l member => ?_) |>.trans (List.map_id ls)
    exact if_neg (unreturned l member)
  rw [lines,splitOn_lines whole open_rest]
  simp only [List.dropLast_concat,List.getLast?_concat,Option.toList_some,kept]

end Text
end HotFix
