import Mathlib.Order.Interval.Set.Basic
import Mathlib.Data.Int.ModEq

/-!
Intervals that partition the active part of a line, and windows that recur on the line of
whole numbers. A point knows the interval it lies in; if all points of the interval know the
same one, lying in one interval is an equivalence.
-/
namespace Recurring

section
variable {α ε : Type} [Preorder α]

/-- An active point lies in its interval, and the points of the interval are active and have
    the same one. -/
structure Partitions (active : α → Prop) (bounds : α → Except ε (α × α)) : Prop where
  inside : ∀ {a : α} {p : α × α}, active a → bounds a = .ok p → a ∈ Set.Ico p.1 p.2
  shared : ∀ {a b : α} {p : α × α}, active a → bounds a = .ok p → b ∈ Set.Ico p.1 p.2 → active b ∧ bounds b = .ok p

variable {active : α → Prop} {bounds : α → Except ε (α × α)}

/-- The active points that have an interval. -/
abbrev Points (active : α → Prop) (bounds : α → Except ε (α × α)) := { a : α // active a ∧ ∃ p, bounds a = .ok p }

/-- The second point lies in the interval of the first. -/
def Together (bounds : α → Except ε (α × α)) (a b : α) : Prop := ∃ p, bounds a = .ok p ∧ b ∈ Set.Ico p.1 p.2

theorem Partitions.together_iff (partitions : Partitions active bounds) {a b : α} (here : active a) (there : active b) :
    Together bounds a b ↔ ∃ p, bounds a = .ok p ∧ bounds b = .ok p := by
  constructor
  · rintro ⟨p,found,member⟩
    exact ⟨p,found,(partitions.shared here found member).2⟩
  · rintro ⟨p,found,found'⟩
    exact ⟨p,found,partitions.inside there found'⟩

theorem Partitions.equivalence (partitions : Partitions active bounds) :
    Equivalence (fun a b : Points active bounds => Together bounds a.1 b.1) where
  refl := by
    rintro ⟨a,here,p,found⟩
    exact ⟨p,found,partitions.inside here found⟩
  symm := by
    rintro ⟨a,here,_⟩ ⟨b,there,_⟩ together
    obtain ⟨p,found,found'⟩ := (partitions.together_iff here there).mp together
    exact (partitions.together_iff there here).mpr ⟨p,found',found⟩
  trans := by
    rintro ⟨a,here,_⟩ ⟨b,there,_⟩ ⟨c,last,_⟩ first second
    obtain ⟨p,found,found'⟩ := (partitions.together_iff here there).mp first
    obtain ⟨q,same,found''⟩ := (partitions.together_iff there last).mp second
    obtain rfl : p = q := Except.ok.inj (found'.symm.trans same)
    exact (partitions.together_iff here last).mpr ⟨p,found,found''⟩

/-- The class of a point is its interval. -/
theorem Partitions.class_eq (partitions : Partitions active bounds) {a : α} {p : α × α} (here : active a) (found : bounds a = .ok p) :
    { b | active b ∧ Together bounds a b } = Set.Ico p.1 p.2 := by
  ext b
  constructor
  · rintro ⟨_,q,same,member⟩
    obtain rfl : p = q := Except.ok.inj (found.symm.trans same)
    exact member
  · intro member
    exact ⟨(partitions.shared here found member).1,p,found,member⟩

end

/-! ### Windows -/

section
variable {period anchor length x y : Int}

/-- A window of some length opens at the anchor and again after every period. -/
def Open (period anchor length x : Int) : Prop := (x-anchor) % period < length

/-- The phase of a point, from where it is in its period. -/
theorem phase_cases (low : 0 ≤ anchor) (high : anchor < period) (x : Int) :
    (x-anchor) % period = x % period-anchor+if anchor ≤ x % period then 0 else period := by
  have within := Int.emod_nonneg x (by omega : period ≠ 0)
  have below := Int.emod_lt_of_pos x (by omega : 0 < period)
  have parts := Int.emod_add_mul_ediv x period
  split_ifs with after
  · rw [show x-anchor = x % period-anchor+period*(x/period) by omega,Int.add_mul_emod_self_left,add_zero]
    exact Int.emod_eq_of_lt (by omega) (by omega)
  · rw [show x-anchor = x % period-anchor+period+period*(x/period-1) by rw [Int.mul_sub,Int.mul_one]; omega,Int.add_mul_emod_self_left]
    exact Int.emod_eq_of_lt (by omega) (by omega)

/-- Where the window last opened. -/
def opening (period anchor x : Int) : Int := x-(x-anchor) % period

theorem opening_le (positive : 0 < period) (anchor x : Int) : opening period anchor x ≤ x := by
  have := Int.emod_nonneg (x-anchor) positive.ne'
  unfold opening
  omega

theorem Open.lt (opened : Open period anchor length x) : x < opening period anchor x + length := by
  unfold Open at opened
  unfold opening
  omega

/-- The phase of a point behind an opening is its distance. -/
theorem phase_eq (fits : length ≤ period) (after : opening period anchor x ≤ y) (before : y < opening period anchor x + length) :
    (y-anchor) % period = y-opening period anchor x := by
  have divides : y-anchor = y-opening period anchor x+period*((x-anchor)/period) := by
    have parts := Int.emod_add_mul_ediv (x-anchor) period
    unfold opening
    omega
  rw [divides,Int.add_mul_emod_self_left]
  exact Int.emod_eq_of_lt (by omega) (by omega)

/-- All points of a window see it open, where it opened. -/
theorem window_shared (fits : length ≤ period) (after : opening period anchor x ≤ y) (before : y < opening period anchor x + length) :
    Open period anchor length y ∧ opening period anchor y = opening period anchor x := by
  have phase := phase_eq fits after before
  constructor
  · unfold Open
    omega
  · rw [opening,phase]
    omega

end
end Recurring
