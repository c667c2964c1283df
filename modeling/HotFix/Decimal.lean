import Mathlib.Data.List.Basic

/-!
Byte strings, ASCII text and decimal numbers. `decimal` writes a number the way
`{}` formats it and `parseBelow` reads one the way an unsigned `str::parse` does:
an optional plus sign, at least one digit, leading zeros allowed, and a value
below the bound of the type.
-/
namespace HotFix

abbrev Bytes := List UInt8

/-- The bytes of an ASCII text. -/
def ascii (text : String) : Bytes := text.toList.map (fun c => c.toNat.toUInt8)

namespace Decimal

def isDigit (byte : UInt8) : Bool := 48 ≤ byte.toNat && byte.toNat ≤ 57

/-- The byte of a character below 128. -/
def ofChar (c : Char) : UInt8 := c.toNat.toUInt8

/-- The decimal digits of a number, most significant first. -/
def decimal (n : Nat) : Bytes := (Nat.toDigits 10 n).map ofChar

/-- The positional value of a digit string. -/
def value (digits : Bytes) : Nat := digits.foldl (fun sofar byte => 10*sofar+(byte.toNat-48)) 0

/-- A number in front only grows. -/
theorem value_grows (start : Nat) (text : Bytes) : start ≤ text.foldl (fun sofar byte => 10*sofar+(byte.toNat-48)) start := by
  induction text generalizing start with
  | nil => exact Nat.le_refl _
  | cons byte rest ih => exact Nat.le_trans (by omega : start ≤ 10*start+(byte.toNat-48)) (ih _)

/-- The digits of an unsigned number, without the plus sign it may start with. -/
def unsigned : Bytes → Bytes
  | 43 :: digit :: rest => digit :: rest
  | data => data

/-- The number below `bound` that the bytes spell, if they spell one. -/
def parseBelow (bound : Nat) (data : Bytes) : Option Nat :=
  let digits := unsigned data
  if digits ≠ [] ∧ digits.all isDigit = true ∧ value digits < bound then some (value digits) else none

private theorem digit_code {c : Char} (digit : c.isDigit) : 48 ≤ c.toNat ∧ c.toNat ≤ 57 := by
  simp only [Char.isDigit,Bool.and_eq_true,decide_eq_true_eq] at digit
  exact ⟨digit.1,digit.2⟩

private theorem ofChar_toNat {c : Char} (digit : c.isDigit) : (ofChar c).toNat = c.toNat := by
  have code := digit_code digit
  simp only [ofChar,Nat.toUInt8,UInt8.toNat_ofNat']
  omega

private theorem value_ofChar (cs : List Char) (digits : ∀ c ∈ cs, c.isDigit) (initial : Nat) :
    (cs.map ofChar).foldl (fun sofar byte => 10*sofar+(byte.toNat-48)) initial =
      Nat.ofDigitChars 10 cs initial := by
  induction cs generalizing initial with
  | nil => rfl
  | cons c rest ih =>
    rw [List.map_cons,List.foldl_cons,Nat.ofDigitChars_cons,ofChar_toNat (digits c (by simp))]
    exact ih (fun d member => digits d (by simp [member])) _

theorem decimal_digits (n : Nat) : (decimal n).all isDigit = true := by
  simp only [decimal,List.all_map,List.all_eq_true,Function.comp_apply]
  intro c member
  have digit : c.isDigit := Nat.isDigit_of_mem_toDigits (by decide) (by decide) member
  have code := digit_code digit
  simp [isDigit,ofChar_toNat digit,code]

theorem value_decimal (n : Nat) : value (decimal n) = n := by
  rw [value,decimal,value_ofChar _ (fun c member => Nat.isDigit_of_mem_toDigits (by decide) (by decide) member)]
  exact Nat.ofDigitChars_ten_toDigits

theorem decimal_ne_nil (n : Nat) : decimal n ≠ [] := by
  simp [decimal,Nat.toDigits_ne_nil]

private theorem unsigned_of_digits {data : Bytes} (digits : data.all isDigit = true) : unsigned data = data := by
  match data with
  | [] => rfl
  | [_] => simp [unsigned]
  | first :: second :: rest =>
    have notPlus : first ≠ 43 := by
      rintro rfl
      simp [isDigit] at digits
    simp [unsigned,notPlus]

/-- Digits without a sign are read as their value. -/
theorem parseBelow_digits {bound : Nat} {data : Bytes} (digits : data.all isDigit = true) (nonempty : data ≠ []) :
    parseBelow bound data = if value data < bound then some (value data) else none := by
  simp only [parseBelow,unsigned_of_digits digits]
  simp [digits,nonempty]

/-- A number reads back from its decimal digits, below the bound of the type. -/
theorem parseBelow_decimal {bound n : Nat} (below : n < bound) : parseBelow bound (decimal n) = some n := by
  rw [parseBelow_digits (decimal_digits n) (decimal_ne_nil n),value_decimal,if_pos below]

theorem parseBelow_ne_nil {bound n : Nat} {data : Bytes} (parsed : parseBelow bound data = some n) : data ≠ [] := by
  rintro rfl
  simp [parseBelow,unsigned] at parsed

theorem parseBelow_lt {bound n : Nat} {data : Bytes} (parsed : parseBelow bound data = some n) : n < bound := by
  simp only [parseBelow] at parsed
  split at parsed
  · next accepted =>
    cases parsed
    exact accepted.2.2
  · cases parsed

end Decimal
end HotFix
