import Mathlib.Data.List.Nodup
import Mathlib.Data.List.Induction

/-!
Maps in insertion order, as the list of what they hold. Each value carries its own
key; inserting a key that is there replaces its value where it stands, a new key
goes to the end.
-/
namespace HotFix.IndexMap

variable {κ ν : Type} [DecidableEq κ] (key : ν → κ)

def get (k : κ) (m : List ν) : Option ν := m.find? (fun v => key v = k)

def insert (v : ν) : List ν → List ν
  | [] => [v]
  | w :: rest => if key w = key v then v :: rest else w :: insert v rest

/-- Insertion of all values of a list, one after the other. -/
def insertAll (m vs : List ν) : List ν := vs.foldl (fun m v => insert key v m) m

/-- The values of a list that no later one of the same key replaces. -/
def lasts : List ν → List ν
  | [] => []
  | v :: rest => if key v ∈ rest.map key then lasts rest else v :: lasts rest

/-- The values of a list that a later one of the same key replaces. -/
def replaced : List ν → List ν
  | [] => []
  | v :: rest => if key v ∈ rest.map key then v :: replaced rest else replaced rest

variable {key}

theorem get_insert (v : ν) (k : κ) (m : List ν) :
    get key k (insert key v m) = if key v = k then some v else get key k m := by
  induction m with
  | nil => by_cases same : key v = k <;> simp [insert,get,same]
  | cons w rest ih =>
    simp only [get] at ih
    by_cases replaced : key w = key v
    · by_cases same : key v = k
      · simp [insert,get,replaced,same]
      · simp [insert,get,replaced,same]
    · by_cases same : key w = k
      · subst same
        simp [insert,get,replaced,Ne.symm replaced]
      · simpa [insert,get,replaced,same] using ih

theorem mem_of_get {k : κ} {v : ν} {m : List ν} (found : get key k m = some v) : v ∈ m ∧ key v = k := by
  have named := List.find?_some found
  exact ⟨List.mem_of_find?_eq_some found,by simpa using named⟩

theorem get_eq_none {k : κ} {m : List ν} : get key k m = none ↔ k ∉ m.map key := by
  simp [get]

/-- With distinct keys, what the map holds is found. -/
theorem get_of_mem {v : ν} {m : List ν} (distinct : (m.map key).Nodup) (member : v ∈ m) :
    get key (key v) m = some v := by
  induction m with
  | nil => cases member
  | cons w rest ih =>
    rw [List.map_cons,List.nodup_cons] at distinct
    rcases List.mem_cons.mp member with rfl | inside
    · simp [get]
    · have other : key w ≠ key v := by
        intro same
        exact distinct.1 (same ▸ List.mem_map_of_mem inside)
      simpa [get,other] using ih distinct.2 inside

/-- What distinct keys find in a map are the values of these keys. -/
theorem chosen_perm {ks : List κ} {m : List ν} (distinct : ks.Nodup) (keys : (m.map key).Nodup) :
    (ks.filterMap (fun k => get key k m)).Perm (m.filter (fun v => ks.contains (key v))) := by
  refine (List.perm_ext_iff_of_nodup ?_ ((List.Nodup.of_map key keys).filter _)).mpr ?_
  · refine List.Nodup.filterMap ?_ distinct
    intro k k' v first second
    exact (mem_of_get first).2.symm.trans (mem_of_get second).2
  · intro v
    rw [List.mem_filterMap,List.mem_filter]
    constructor
    · rintro ⟨k,listed,found⟩
      obtain ⟨member,rfl⟩ := mem_of_get found
      exact ⟨member,by simpa using listed⟩
    · rintro ⟨member,listed⟩
      exact ⟨key v,by simpa using listed,get_of_mem keys member⟩

/-- The values of given keys, and the others, are all values of the map. -/
theorem ordered_perm {ks : List κ} {m : List ν} (distinct : ks.Nodup) (keys : (m.map key).Nodup) :
    (ks.filterMap (fun k => get key k m) ++ m.filter (fun v => !ks.contains (key v))).Perm m :=
  ((chosen_perm distinct keys).append_right _).trans (List.filter_append_perm _ m)

/-- Values that are left out may be inserted. -/
theorem filter_insert {v : ν} {keep : ν → Bool} (m : List ν) (left_out : ∀ w, key w = key v → keep w = false) :
    (insert key v m).filter keep = m.filter keep := by
  have gone := left_out v rfl
  induction m with
  | nil => simp [insert,gone]
  | cons w rest ih =>
    rw [insert]
    split_ifs with same
    · rw [List.filter_cons_of_neg (by simp [gone]),List.filter_cons_of_neg (by simp [left_out w same])]
    · rw [List.filter_cons,List.filter_cons,ih]

/-- Without its value, no value of the key is left. -/
theorem erase_distinct {m : List ν} {k : κ} (distinct : (m.map key).Nodup) : ∀ v ∈ m.eraseP (fun v => key v = k), key v ≠ k := by
  induction m with
  | nil => simp
  | cons w rest ih =>
    rw [List.map_cons,List.nodup_cons] at distinct
    by_cases same : key w = k
    · rw [List.eraseP_cons_of_pos (by simpa using same)]
      intro v member there
      exact distinct.1 (by rw [same,← there]; exact List.mem_map_of_mem member)
    · rw [List.eraseP_cons_of_neg (by simpa using same)]
      intro v member
      rcases List.mem_cons.mp member with rfl | later
      · exact same
      · exact ih distinct.2 v later

theorem insert_fresh {v : ν} {m : List ν} (fresh : key v ∉ m.map key) : insert key v m = m ++ [v] := by
  induction m with
  | nil => rfl
  | cons w rest ih =>
    rw [List.map_cons,List.mem_cons,not_or] at fresh
    simp [insert,Ne.symm fresh.1,ih fresh.2]

theorem mem_insert {v w : ν} {m : List ν} (member : w ∈ insert key v m) : w = v ∨ w ∈ m := by
  induction m with
  | nil => exact .inl (by simpa [insert] using member)
  | cons u rest ih =>
    rw [insert] at member
    split_ifs at member
    · rcases List.mem_cons.mp member with same | inside
      · exact .inl same
      · exact .inr (List.mem_cons_of_mem u inside)
    · rcases List.mem_cons.mp member with rfl | inside
      · exact .inr (by simp)
      · rcases ih inside with same | later
        · exact .inl same
        · exact .inr (List.mem_cons_of_mem u later)

/-- A key that is there keeps its place, so the keys and their order stay. -/
theorem keys_insert (v : ν) (m : List ν) :
    (insert key v m).map key = if key v ∈ m.map key then m.map key else m.map key ++ [key v] := by
  induction m with
  | nil => rfl
  | cons w rest ih =>
    by_cases replaced : key w = key v
    · simp [insert,replaced]
    · simp only [insert,replaced,if_false,List.map_cons,ih,List.mem_cons,Ne.symm replaced,false_or]
      split_ifs <;> rfl

theorem nodup_insert (v : ν) {m : List ν} (distinct : (m.map key).Nodup) : ((insert key v m).map key).Nodup := by
  rw [keys_insert]
  split_ifs with there
  · exact distinct
  · refine List.nodup_append.mpr ⟨distinct,by simp,?_⟩
    intro k member k' new same
    rw [List.mem_singleton] at new
    exact there (new ▸ same ▸ member)

theorem insert_perm (v : ν) {m : List ν} (distinct : (m.map key).Nodup) :
    (insert key v m).Perm (v :: m.filter (fun w => key w ≠ key v)) := by
  induction m with
  | nil => exact List.Perm.refl _
  | cons w rest ih =>
    rw [List.map_cons,List.nodup_cons] at distinct
    by_cases replaced : key w = key v
    · have kept : rest.filter (fun w => key w ≠ key v) = rest := by
        rw [List.filter_eq_self]
        intro u member
        simpa using fun same : key u = key v => distinct.1 (replaced.trans same.symm ▸ List.mem_map_of_mem member)
      simp only [insert,replaced,if_true]
      rw [List.filter_cons_of_neg (by simp [replaced]),kept]
    · simp only [insert,replaced,if_false]
      rw [List.filter_cons_of_pos (by simp [replaced])]
      exact (List.Perm.cons w (ih distinct.2)).trans (List.Perm.swap v w _)

/-! ### Insertion of a list -/

theorem mem_insertAll {m vs : List ν} {w : ν} (member : w ∈ insertAll key m vs) : w ∈ m ∨ w ∈ vs := by
  induction vs generalizing m with
  | nil => exact .inl member
  | cons v rest ih =>
    rcases ih member with inside | later
    · rcases mem_insert inside with rfl | old
      · exact .inr (by simp)
      · exact .inl old
    · exact .inr (List.mem_cons_of_mem v later)

theorem nodup_insertAll (vs : List ν) {m : List ν} (distinct : (m.map key).Nodup) :
    ((insertAll key m vs).map key).Nodup := by
  induction vs generalizing m with
  | nil => exact distinct
  | cons v rest ih => exact ih (nodup_insert v distinct)

/-- The keys of what was inserted stay. -/
theorem key_mem_insertAll {m vs : List ν} {k : κ} (there : k ∈ m.map key ∨ k ∈ vs.map key) :
    k ∈ (insertAll key m vs).map key := by
  induction vs generalizing m with
  | nil => exact there.resolve_right (by simp)
  | cons v rest ih =>
    refine ih ?_
    rw [keys_insert]
    rcases there with old | new
    · left
      split_ifs
      · exact old
      · exact List.mem_append_left _ old
    · rcases List.mem_cons.mp (List.map_cons ▸ new) with rfl | later
      · left
        split_ifs with present
        · exact present
        · simp
      · exact .inr later

/-- Distinct new keys are appended as they come. -/
theorem insertAll_fresh {m vs : List ν} (distinct : ((m ++ vs).map key).Nodup) : insertAll key m vs = m ++ vs := by
  induction vs generalizing m with
  | nil => simp [insertAll]
  | cons v rest ih =>
    have fresh : key v ∉ m.map key := by
      rw [List.map_append,List.nodup_append] at distinct
      intro there
      exact distinct.2.2 _ there _ (by simp) rfl
    have appended : insertAll key m (v :: rest) = insertAll key (m ++ [v]) rest := by
      simp [insertAll,insert_fresh fresh]
    rw [appended,ih (by simpa using distinct)]
    simp

/-- A value that replaces another takes its place at once. -/
theorem insert_again {v w : ν} (same : key w = key v) (m : List ν) : insert key v (insert key w m) = insert key v m := by
  induction m with
  | nil => simp [insert,same]
  | cons u rest ih =>
    by_cases replaced : key u = key v
    · simp [insert,replaced,same]
    · simp [insert,replaced,same,ih]

/-- A value whose key is there is inserted before or after one of another key. -/
theorem insert_comm {u v : ν} {m : List ν} (other : key u ≠ key v) (there : key v ∈ m.map key) :
    insert key v (insert key u m) = insert key u (insert key v m) := by
  induction m with
  | nil => cases there
  | cons w rest ih =>
    by_cases here : key w = key v
    · simp [insert,here,Ne.symm other]
    · have later : key v ∈ rest.map key := by simpa [Ne.symm here] using there
      by_cases replaced : key w = key u
      · simp [insert,replaced,other]
      · simp [insert,here,replaced,ih later]

theorem insert_insertAll {v : ν} {m us : List ν} (there : key v ∈ m.map key) (apart : key v ∉ us.map key) :
    insert key v (insertAll key m us) = insertAll key (insert key v m) us := by
  induction us generalizing m with
  | nil => rfl
  | cons u rest ih =>
    rw [List.map_cons,List.mem_cons,not_or] at apart
    have inserted : key v ∈ (insert key u m).map key := by
      rw [keys_insert]
      split_ifs
      · exact there
      · exact List.mem_append_left _ there
    calc insert key v (insertAll key (insert key u m) rest)
      _ = insertAll key (insert key v (insert key u m)) rest := ih inserted apart.2
      _ = insertAll key (insert key u (insert key v m)) rest := by rw [insert_comm (Ne.symm apart.1) there]

theorem insertAll_insert {v : ν} {m us : List ν} (distinct : (us.map key).Nodup) :
    insertAll key m (insert key v us) = insert key v (insertAll key m us) := by
  induction us generalizing m with
  | nil => rfl
  | cons w rest ih =>
    rw [List.map_cons,List.nodup_cons] at distinct
    by_cases same : key w = key v
    · have there : key v ∈ (insert key w m).map key := by
        rw [keys_insert,← same]
        split_ifs with present
        · exact present
        · simp
      rw [insert,if_pos same]
      calc insertAll key (insert key v m) rest
        _ = insertAll key (insert key v (insert key w m)) rest := by rw [insert_again same]
        _ = insert key v (insertAll key (insert key w m) rest) := (insert_insertAll there (same ▸ distinct.1)).symm
    · rw [insert,if_neg same]
      exact ih distinct.2

/-- Values that were inserted into a map of their own first are inserted alike. -/
theorem insertAll_insertAll (m vs : List ν) : insertAll key m (insertAll key [] vs) = insertAll key m vs := by
  induction vs using List.reverseRec with
  | nil => rfl
  | append_singleton rest v ih =>
    have last (m : List ν) : insertAll key m (rest ++ [v]) = insert key v (insertAll key m rest) := by simp [insertAll]
    have distinct : ((insertAll key [] rest).map key).Nodup := nodup_insertAll rest List.nodup_nil
    rw [last,last,insertAll_insert distinct,ih]

/-- The keys that are there stay in front. -/
theorem keys_insertAll (m vs : List ν) : (m.map key).IsPrefix ((insertAll key m vs).map key) := by
  induction vs generalizing m with
  | nil => exact List.prefix_rfl
  | cons v rest ih =>
    have kept : (m.map key).IsPrefix ((insert key v m).map key) := by
      rw [keys_insert]
      split_ifs
      · exact List.prefix_rfl
      · exact List.prefix_append _ _
    exact kept.trans (ih _)

/-- A choice that looks at the keys only may be made before or after the insertion. -/
theorem filter_insertAll {keep : ν → Bool} (keyed : ∀ v w, key w = key v → keep w = keep v) (m vs : List ν) :
    (insertAll key m vs).filter keep = insertAll key (m.filter keep) (vs.filter keep) := by
  have inserted (v : ν) (kept : keep v = true) (m : List ν) : (insert key v m).filter keep = insert key v (m.filter keep) := by
    induction m with
    | nil => simp [insert,kept]
    | cons w rest ih =>
      by_cases same : key w = key v
      · simp [insert,same,kept,keyed v w same]
      · by_cases stays : keep w = true
        · simp [insert,same,stays,ih]
        · simp [insert,same,stays,ih]
  induction vs generalizing m with
  | nil => rfl
  | cons v rest ih =>
    have next : insertAll key m (v :: rest) = insertAll key (insert key v m) rest := rfl
    rw [next,ih]
    by_cases kept : keep v = true
    · rw [inserted v kept,List.filter_cons_of_pos kept]
      rfl
    · rw [filter_insert m (fun w same => by rw [keyed v w same]; simpa using kept),List.filter_cons_of_neg kept]

/-- The values of a choice are distinct if none of them is replaced. -/
theorem nodup_of_replaced {keep : ν → Bool} {vs : List ν} (gone : ∀ v ∈ replaced key vs, keep v = false) : ((vs.filter keep).map key).Nodup := by
  induction vs with
  | nil => exact List.nodup_nil
  | cons v rest ih =>
    by_cases later : key v ∈ rest.map key
    · rw [replaced,if_pos later] at gone
      rw [List.filter_cons_of_neg (by simp [gone v (by simp)])]
      exact ih (fun w member => gone w (List.mem_cons_of_mem v member))
    · rw [replaced,if_neg later] at gone
      by_cases kept : keep v = true
      · rw [List.filter_cons_of_pos kept,List.map_cons,List.nodup_cons]
        exact ⟨fun there => later ((List.filter_sublist.map key).subset there),ih gone⟩
      · rw [List.filter_cons_of_neg kept]
        exact ih gone

theorem lasts_concat (vs : List ν) (v : ν) :
    lasts key (vs ++ [v]) = (lasts key vs).filter (fun w => key w ≠ key v) ++ [v] := by
  induction vs with
  | nil => simp [lasts]
  | cons w rest ih =>
    have keys : key w ∈ (rest ++ [v]).map key ↔ key w ∈ rest.map key ∨ key w = key v := by simp
    simp only [List.cons_append,lasts,ih,keys]
    by_cases later : key w ∈ rest.map key
    · rw [if_pos (.inl later),if_pos later]
    · by_cases same : key w = key v
      · rw [if_pos (.inr same),if_neg later,List.filter_cons_of_neg (by simp [same])]
      · rw [if_neg (by simp [later,same]),if_neg later,List.filter_cons_of_pos (by simp [same])]
        rfl

/-- What remains of the inserted values is the last of each key. -/
theorem insertAll_perm (vs : List ν) : (insertAll key [] vs).Perm (lasts key vs) := by
  induction vs using List.reverseRec with
  | nil => exact List.Perm.refl _
  | append_singleton rest v ih =>
    have distinct : ((insertAll key [] rest).map key).Nodup := nodup_insertAll rest List.nodup_nil
    have inserted : insertAll key [] (rest ++ [v]) = insert key v (insertAll key [] rest) := by
      simp [insertAll]
    rw [inserted,lasts_concat]
    calc insert key v (insertAll key [] rest)
      _ |>.Perm (v :: (insertAll key [] rest).filter (fun w => key w ≠ key v)) := insert_perm v distinct
      _ |>.Perm (v :: (lasts key rest).filter (fun w => key w ≠ key v)) := (ih.filter _).cons v
      _ |>.Perm ((lasts key rest).filter (fun w => key w ≠ key v) ++ [v]) := List.perm_append_singleton v _ |>.symm

/-- Every value stays or is replaced. -/
theorem lasts_append_replaced (vs : List ν) : (lasts key vs ++ replaced key vs).Perm vs := by
  induction vs with
  | nil => exact List.Perm.refl _
  | cons v rest ih =>
    by_cases later : key v ∈ rest.map key
    · rw [lasts,replaced,if_pos later,if_pos later]
      exact List.perm_middle.trans (ih.cons v)
    · rw [lasts,replaced,if_neg later,if_neg later]
      exact ih.cons v

theorem lasts_map {α : Type} (g : α → ν) (as : List α) :
    lasts key (as.map g) = (lasts (fun a => key (g a)) as).map g := by
  induction as with
  | nil => rfl
  | cons a rest ih =>
    have keys : (rest.map g).map key = rest.map (fun a => key (g a)) := List.map_map
    simp only [List.map_cons,lasts,ih,keys]
    split_ifs <;> rfl

/-- Of lists whose values and keys correspond, the last of each key correspond. -/
theorem lasts_forall₂ {α κ' : Type} [DecidableEq κ'] {key' : α → κ'} {name : κ → κ'} {R : α → ν → Prop}
    (injective : Function.Injective name) (keyed : ∀ a v, R a v → key' a = name (key v)) {as : List α} {vs : List ν}
    (related : List.Forall₂ R as vs) : List.Forall₂ R (lasts key' as) (lasts key vs) := by
  have keys : ∀ {as : List α} {vs : List ν}, List.Forall₂ R as vs → as.map key' = (vs.map key).map name := by
    intro as vs related
    induction related with
    | nil => rfl
    | cons first _ ih => simp [keyed _ _ first,ih]
  induction related with
  | nil => exact .nil
  | @cons a v as vs first rest ih =>
    have same : key' a ∈ as.map key' ↔ key v ∈ vs.map key := by
      rw [keys rest,keyed a v first,List.mem_map_of_injective injective]
    rw [lasts,lasts]
    by_cases later : key v ∈ vs.map key
    · rw [if_pos (same.mpr later),if_pos later]
      exact ih
    · rw [if_neg (fun there => later (same.mp there)),if_neg later]
      exact .cons first ih

/-- Under a partial map that agrees on equal keys whether there is a value. -/
theorem lasts_filterMap {α : Type} {g : α → Option ν} {key' : α → κ} (keyed : ∀ a v, g a = some v → key v = key' a)
    {as : List α} (agree : as.Pairwise (fun a b => key' b = key' a → (g b).isSome = (g a).isSome)) :
    lasts key (as.filterMap g) = (lasts key' as).filterMap g := by
  induction as with
  | nil => rfl
  | cons a rest ih =>
    rw [List.pairwise_cons] at agree
    have ih := ih agree.2
    cases value : g a with
    | none =>
      rw [List.filterMap_cons_none value,ih,lasts]
      split_ifs
      · rfl
      · rw [List.filterMap_cons_none value]
    | some v =>
      rw [List.filterMap_cons_some value,lasts,lasts,ih,keyed a v value]
      have same : key' a ∈ (rest.filterMap g).map key ↔ key' a ∈ rest.map key' := by
        constructor
        · intro member
          obtain ⟨w,inside,equal⟩ := List.mem_map.mp member
          obtain ⟨b,later,made⟩ := List.mem_filterMap.mp inside
          exact List.mem_map.mpr ⟨b,later,(keyed b w made).symm.trans equal⟩
        · intro member
          obtain ⟨b,later,equal⟩ := List.mem_map.mp member
          obtain ⟨w,made⟩ := Option.isSome_iff_exists.mp ((agree.1 b later equal).trans (by rw [value]; rfl))
          exact List.mem_map.mpr ⟨w,List.mem_filterMap.mpr ⟨b,later,made⟩,(keyed b w made).trans equal⟩
      by_cases member : key' a ∈ rest.map key'
      · rw [if_pos (same.mpr member),if_pos member]
      · rw [if_neg (fun there => member (same.mp there)),if_neg member,List.filterMap_cons_some value]

end HotFix.IndexMap
