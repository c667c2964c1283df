import Mathlib.Data.List.Basic

/-!
Iterators that are advanced from both ends. A state shows a list of cells; the front end takes
the first cell and the back end the last one, and each reads its own side of it. Both ends give
the same values where the two sides of the cells taken from the back agree.
-/
namespace BothEnds

inductive End where
  | front
  | back
  deriving DecidableEq

/-- What is taken from the front, what from the back, and what is left. -/
structure Taken (γ : Type) where
  front : List γ
  back : List γ
  rest : List γ

section
variable {γ : Type}

/-- Cells taken from the ends of a list, those from the back with the last one first. -/
def takes : List End → List γ → Taken γ
  | [],cells => ⟨[],[],cells⟩
  | .front :: ends,cells =>
    let taken := takes ends cells.tail
    ⟨cells.head?.toList ++ taken.front,taken.back,taken.rest⟩
  | .back :: ends,cells =>
    let taken := takes ends cells.dropLast
    ⟨taken.front,cells.getLast?.toList ++ taken.back,taken.rest⟩

theorem head_tail (cells : List γ) : cells.head?.toList ++ cells.tail = cells := by
  cases cells <;> rfl

theorem dropLast_last (cells : List γ) : cells.dropLast ++ cells.getLast?.toList = cells := by
  rcases List.eq_nil_or_concat' cells with rfl | ⟨front,last,rfl⟩
  · rfl
  · simp

theorem head_length (cells : List γ) : cells.head?.toList.length = min 1 cells.length := by
  cases cells with
  | nil => rfl
  | cons first rest => simp

theorem last_length (cells : List γ) : cells.getLast?.toList.length = min 1 cells.length := by
  have whole := congrArg List.length (dropLast_last cells)
  rw [List.length_append,List.length_dropLast] at whole
  omega

/-- No cell is lost, and none is taken twice. -/
theorem takes_append (ends : List End) (cells : List γ) :
    (takes ends cells).front ++ (takes ends cells).rest ++ (takes ends cells).back.reverse = cells := by
  induction ends generalizing cells with
  | nil => simp [takes]
  | cons first ends ih =>
    cases first with
    | front =>
      rw [takes,List.append_assoc,List.append_assoc,← List.append_assoc (takes ends cells.tail).front,ih]
      exact head_tail cells
    | back =>
      rw [takes,List.reverse_append,← List.append_assoc,ih]
      have single : cells.getLast?.toList.reverse = cells.getLast?.toList := by cases cells.getLast? <;> rfl
      rw [single]
      exact dropLast_last cells

/-- As many cells are taken as there are calls, while there are any. -/
theorem takes_length (ends : List End) (cells : List γ) :
    (takes ends cells).front.length + (takes ends cells).back.length = min ends.length cells.length := by
  induction ends generalizing cells with
  | nil => simp [takes]
  | cons first ends ih =>
    cases first with
    | front =>
      have tail := ih cells.tail
      have one := head_length cells
      rw [List.length_tail] at tail
      rw [takes,List.length_append,List.length_cons]
      dsimp only
      omega
    | back =>
      have front := ih cells.dropLast
      have one := last_length cells
      rw [List.length_dropLast] at front
      rw [takes,List.length_append,List.length_cons]
      dsimp only
      omega

/-- The calls from the back that find a cell. -/
theorem takes_back (ends : List End) (cells : List γ) :
    (takes ends cells).back.length = (ends.take cells.length).count .back := by
  induction ends generalizing cells with
  | nil => simp [takes]
  | cons first ends ih =>
    cases first with
    | front =>
      rw [takes,ih,List.length_tail]
      cases cells with
      | nil => simp
      | cons cell cells => simp
    | back =>
      have one := last_length cells
      rw [takes,List.length_append,ih,List.length_dropLast,one]
      cases cells with
      | nil => simp
      | cons cell cells => simp [Nat.add_comm]

/-- The cells taken from the back are the last ones. -/
theorem mem_takes_back {ends : List End} {cells : List γ} {cell : γ} :
    cell ∈ (takes ends cells).back ↔ ∃ i, cells.length - (ends.take cells.length).count .back ≤ i ∧ cells[i]? = some cell := by
  have last : (takes ends cells).back.reverse = cells.drop (cells.length - (ends.take cells.length).count .back) := by
    have whole := takes_append ends cells
    have length := congrArg List.length whole
    rw [List.length_append,List.length_reverse,takes_back] at length
    have before : cells.length - (ends.take cells.length).count .back = ((takes ends cells).front ++ (takes ends cells).rest).length := by
      omega
    rw [before]
    exact List.drop_left.symm.trans (congrArg (List.drop _) whole)
  rw [← List.mem_reverse,last,List.mem_iff_getElem?]
  constructor
  · rintro ⟨i,read⟩
    rw [List.getElem?_drop] at read
    exact ⟨_,Nat.le_add_right _ i,read⟩
  · rintro ⟨i,behind,read⟩
    exact ⟨_,by rw [List.getElem?_drop,Nat.add_sub_cancel' behind]; exact read⟩

end

/-! ### Iterators -/

section
variable {ε σ α γ : Type}

/-- The calls of an iterator; they may fail. -/
structure DoubleEnded (ε σ α : Type) where
  next : σ → Except ε (Option α × σ)
  next_back : σ → Except ε (Option α × σ)

/-- The items from the front, those from the back in the order in which they come, and the state
    behind the calls. -/
def DoubleEnded.run (it : DoubleEnded ε σ α) : List End → σ → Except ε (List α × List α × σ)
  | [],s => .ok ([],[],s)
  | .front :: ends,s => do
    let (item,s) ← it.next s
    let (front,back,s) ← it.run ends s
    return (item.toList ++ front,back,s)
  | .back :: ends,s => do
    let (item,s) ← it.next_back s
    let (front,back,s) ← it.run ends s
    return (front,item.toList ++ back,s)

/-- The calls read the cells that a state shows, each end its own side. -/
structure Shows (it : DoubleEnded ε σ α) (cells : σ → List γ) (first last : γ → α) : Prop where
  next : ∀ {s s' : σ} {item : Option α}, it.next s = .ok (item,s') → item = (cells s).head?.map first ∧ cells s' = (cells s).tail
  next_back : ∀ {s s' : σ} {item : Option α}, it.next_back s = .ok (item,s') →
    item = (cells s).getLast?.map last ∧ cells s' = (cells s).dropLast

variable {it : DoubleEnded ε σ α} {cells : σ → List γ} {first last : γ → α} {ends : List End} {s s' : σ} {front back : List α}

theorem bind_eq_ok {ε α β : Type} {x : Except ε α} {f : α → Except ε β} {b : β} :
    x >>= f = .ok b ↔ ∃ a, x = .ok a ∧ f a = .ok b := by
  cases x <;> simp [bind,Except.bind]

theorem DoubleEnded.run_front {item : Option α} (called : it.next s = .ok (item,s')) :
    it.run (.front :: ends) s = (it.run ends s').map (fun ran => (item.toList ++ ran.1,ran.2.1,ran.2.2)) := by
  rw [run,called]
  dsimp only [bind,Except.bind]
  cases it.run ends s' <;> rfl

theorem DoubleEnded.run_back {item : Option α} (called : it.next_back s = .ok (item,s')) :
    it.run (.back :: ends) s = (it.run ends s').map (fun ran => (ran.1,item.toList ++ ran.2.1,ran.2.2)) := by
  rw [run,called]
  dsimp only [bind,Except.bind]
  cases it.run ends s' <;> rfl

/-- Any interleaving of the calls takes cells from the ends. -/
theorem Shows.run (shows_cells : Shows it cells first last) (ran : it.run ends s = .ok (front,back,s')) :
    front = (takes ends (cells s)).front.map first ∧ back = (takes ends (cells s)).back.map last ∧
      cells s' = (takes ends (cells s)).rest := by
  induction ends generalizing s front back with
  | nil =>
    cases ran
    exact ⟨rfl,rfl,rfl⟩
  | cons call ends ih =>
    have single (x : Option γ) (side : γ → α) : (x.map side).toList = x.toList.map side := by cases x <;> rfl
    cases call with
    | front =>
      rw [DoubleEnded.run] at ran
      obtain ⟨⟨item,s₁⟩,called,ran⟩ := bind_eq_ok.mp ran
      obtain ⟨⟨front',back',s₂⟩,later,ran⟩ := bind_eq_ok.mp ran
      cases ran
      obtain ⟨rfl,tail⟩ := shows_cells.next called
      obtain ⟨rfl,rfl,rest⟩ := ih later
      rw [tail] at rest ⊢
      exact ⟨by rw [takes,List.map_append,single],rfl,rest⟩
    | back =>
      rw [DoubleEnded.run] at ran
      obtain ⟨⟨item,s₁⟩,called,ran⟩ := bind_eq_ok.mp ran
      obtain ⟨⟨front',back',s₂⟩,later,ran⟩ := bind_eq_ok.mp ran
      cases ran
      obtain ⟨rfl,init⟩ := shows_cells.next_back called
      obtain ⟨rfl,rfl,rest⟩ := ih later
      rw [init] at rest ⊢
      exact ⟨rfl,by rw [takes,List.map_append,single],rest⟩

/-- As many items come as there are cells. -/
theorem Shows.items (shows_cells : Shows it cells first last) (ran : it.run ends s = .ok (front,back,s')) :
    front.length + back.length = min ends.length (cells s).length := by
  obtain ⟨rfl,rfl,_⟩ := shows_cells.run ran
  rw [List.length_map,List.length_map]
  exact takes_length ends (cells s)

/-- Both ends give the first sides of the cells in their order if and only if the sides agree in the
    cells that were taken from the back. -/
theorem Shows.same_iff (shows_cells : Shows it cells first last) (ran : it.run ends s = .ok (front,back,s')) :
    (∃ rest, front ++ rest ++ back.reverse = (cells s).map first ∧ (cells s').length = rest.length) ↔
      ∀ cell ∈ (takes ends (cells s)).back, first cell = last cell := by
  obtain ⟨rfl,rfl,left⟩ := shows_cells.run ran
  have whole := congrArg (List.map first) (takes_append ends (cells s))
  rw [List.map_append,List.map_append,List.map_reverse] at whole
  rw [left,← whole,← List.map_inj_left]
  constructor
  · rintro ⟨rest,same,_⟩
    rw [List.append_assoc,List.append_assoc,List.append_cancel_left_eq] at same
    have behind := (List.append_inj' same (by simp)).2
    exact (List.reverse_injective behind).symm
  · intro same
    exact ⟨_,by rw [same],(List.length_map _).symm⟩

end
end BothEnds
