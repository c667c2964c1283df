import Mathlib.Data.List.MinMax
import Mathlib.Data.List.Range
import Mathlib.Data.List.Sort
import Mathlib.Data.List.Nodup

/-!
Lists of keyed entries: changing the first that passes a test, and reading a range of
numbers out of entries that share no number.
-/
namespace HotFix.Documents
variable {α β κ : Type}

/-- The first entry that passes is changed. -/
def update_first (passes : α → Bool) (change : α → α) : List α → List α
  | [] => []
  | entry :: rest => if passes entry then change entry :: rest else entry :: update_first passes change rest

section
variable {passes : α → Bool} {change : α → α}

theorem map_update_first {g : α → β} {l : List α} (same : ∀ e ∈ l, passes e = true → g (change e) = g e) :
    (update_first passes change l).map g = l.map g := by
  induction l with
  | nil => rfl
  | cons e rest ih =>
    unfold update_first
    split_ifs with here
    · simp [same e List.mem_cons_self here]
    · simp [ih (fun d later => same d (List.mem_cons_of_mem _ later))]

theorem filterMap_update_first {g : α → Option β} {l : List α} (same : ∀ e ∈ l, passes e = true → g (change e) = g e) :
    (update_first passes change l).filterMap g = l.filterMap g := by
  induction l with
  | nil => rfl
  | cons e rest ih =>
    unfold update_first
    split_ifs with here
    · simp [List.filterMap_cons,same e List.mem_cons_self here]
    · simp [List.filterMap_cons,ih (fun d later => same d (List.mem_cons_of_mem _ later))]

/-- Where no two entries share a key, the entry with a key is the first. -/
theorem find_unique [DecidableEq κ] {key : α → κ} {l : List α} (unique : (l.map key).Nodup) {e : α} (member : e ∈ l) :
    l.find? (fun d => key d = key e) = some e := by
  induction l with
  | nil => cases member
  | cons d rest ih =>
    rw [List.map_cons,List.nodup_cons] at unique
    by_cases same : key d = key e
    · rcases List.mem_cons.mp member with rfl | later
      · simp
      · exact absurd (same ▸ List.mem_map_of_mem later) unique.1
    · rcases List.mem_cons.mp member with rfl | later
      · exact absurd rfl same
      · simp [same,ih unique.2 later]

/-- Where no two entries share a key, only the entry with the key is changed. -/
theorem mem_update_keyed [DecidableEq κ] {key : α → Option κ} {l : List α} (unique : (l.filterMap key).Nodup) (k : κ) (e : α) :
    e ∈ update_first (fun d => key d = some k) change l ↔ e ∈ l ∧ key e ≠ some k ∨ ∃ d ∈ l, key d = some k ∧ e = change d := by
  induction l with
  | nil => simp [update_first]
  | cons f rest ih =>
    unfold update_first
    by_cases here : key f = some k
    · rw [List.filterMap_cons_some here,List.nodup_cons] at unique
      have apart : ∀ d ∈ rest, key d ≠ some k := fun d later same => unique.1 (List.mem_filterMap.mpr ⟨d,later,same⟩)
      simp only [here,decide_true,if_true,List.mem_cons]
      constructor
      · rintro (rfl | later)
        · exact .inr ⟨f,.inl rfl,here,rfl⟩
        · exact .inl ⟨.inr later,apart e later⟩
      · rintro (⟨rfl | later,other⟩ | ⟨d,rfl | later,same,rfl⟩)
        · exact absurd here other
        · exact .inr later
        · exact .inl rfl
        · exact absurd same (apart d later)
    · have tail : (rest.filterMap key).Nodup := by
        cases found : key f with
        | none => rwa [List.filterMap_cons_none found] at unique
        | some other =>
          rw [List.filterMap_cons_some found,List.nodup_cons] at unique
          exact unique.2
      simp only [here,decide_false,Bool.false_eq_true,if_false,List.mem_cons,ih tail]
      constructor
      · rintro (rfl | ⟨inside,other⟩ | ⟨d,inside,same,rfl⟩)
        · exact .inl ⟨.inl rfl,here⟩
        · exact .inl ⟨.inr inside,other⟩
        · exact .inr ⟨d,.inr inside,same,rfl⟩
      · rintro (⟨rfl | inside,other⟩ | ⟨d,rfl | inside,same,rfl⟩)
        · exact .inl rfl
        · exact .inr (.inl ⟨inside,other⟩)
        · exact absurd same here
        · exact .inr (.inr ⟨d,inside,same,rfl⟩)

end

/-! ### Ranges -/

/-- The numbered entries of a range, read from a table, one number after the other. -/
def tabulated (table : Nat → Option β) (first last : Nat) : List (Nat × β) :=
  (List.range' first (last + 1 - first)).filterMap (fun n => (table n).map (fun value => (n,value)))

theorem mem_tabulated {table : Nat → Option β} {first last : Nat} {entry : Nat × β} :
    entry ∈ tabulated table first last ↔ table entry.1 = some entry.2 ∧ first ≤ entry.1 ∧ entry.1 ≤ last := by
  obtain ⟨n,value⟩ := entry
  simp only [tabulated,List.mem_filterMap,List.mem_range'_1,Option.map_eq_some_iff,Prod.mk.injEq]
  constructor
  · rintro ⟨m,inside,v,held,rfl,rfl⟩
    exact ⟨held,by omega,by omega⟩
  · rintro ⟨held,low,high⟩
    exact ⟨n,by omega,value,held,rfl,rfl⟩

theorem tabulated_sorted (table : Nat → Option β) (first last : Nat) :
    (tabulated table first last).Pairwise (fun e d => e.1 < d.1) := by
  unfold tabulated
  refine List.pairwise_filterMap.mpr ((List.pairwise_lt_range' ..).imp (fun {n m} less => ?_))
  simp only [Option.map_eq_some_iff]
  rintro _ ⟨_,_,rfl⟩ _ ⟨_,_,rfl⟩
  exact less

theorem tabulated_values (table : Nat → Option β) (first last : Nat) :
    (tabulated table first last).map (·.2) = (List.range' first (last + 1 - first)).filterMap table := by
  unfold tabulated
  rw [List.map_filterMap]
  refine List.filterMap_congr (fun n _ => ?_)
  cases table n <;> rfl

/-- Entries that share no number are those of the range in some order. -/
theorem perm_tabulated {table : Nat → Option β} {first last : Nat} {entries : List (Nat × β)}
    (apart : (entries.map (·.1)).Nodup)
    (all : ∀ entry, entry ∈ entries ↔ table entry.1 = some entry.2 ∧ first ≤ entry.1 ∧ entry.1 ≤ last) :
    entries.Perm (tabulated table first last) := by
  refine (List.perm_ext_iff_of_nodup apart.of_map ?_).mpr (fun entry => (all entry).trans mem_tabulated.symm)
  exact (tabulated_sorted table first last).imp (fun {e d} less same => by rw [same] at less; exact lt_irrefl _ less)

/-- Entries that come in the order of their numbers are those of the range. -/
theorem eq_tabulated {table : Nat → Option β} {first last : Nat} {entries : List (Nat × β)}
    (apart : (entries.map (·.1)).Nodup)
    (all : ∀ entry, entry ∈ entries ↔ table entry.1 = some entry.2 ∧ first ≤ entry.1 ∧ entry.1 ≤ last)
    (sorted : entries.Pairwise (fun e d => e.1 ≤ d.1)) : entries = tabulated table first last := by
  have strict : entries.Pairwise (fun e d => e.1 < d.1) := by
    refine (sorted.and (List.pairwise_map.mp apart)).imp (fun {e d} both => ?_)
    exact lt_of_le_of_ne both.1 both.2
  refine List.Perm.eq_of_pairwise (fun e d _ _ less more => ?_) strict (tabulated_sorted table first last)
    (perm_tabulated apart all)
  exact absurd less (lt_asymm more)

end HotFix.Documents
