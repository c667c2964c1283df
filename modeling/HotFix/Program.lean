import Mathlib.Logic.Basic

/-!
Pre- and postconditions for computations that carry a state and may stop early.
`Runs x s ok stop` says how `x` ends when it is started in `s`: `ok` holds of a
returned value and the state it leaves, `stop` of an exception and the state it
leaves. `Keeps view x` says that `x` never changes what `view` sees of the state,
however it ends.
-/
namespace HotFix

/-- Why a computation stopped: it returned an error, or it panicked. -/
inductive Abort (ε : Type) where
  | Error (error : ε)
  | Panic (message : String)

namespace Program
variable {ε σ α β γ : Type}

/-- The state a result leaves behind, returned or stopped. -/
def final : EStateM.Result ε σ α → σ
  | .ok _ s => s
  | .error _ s => s

/-- Whether the computation returned a value. -/
def returned : EStateM.Result ε σ α → Bool
  | .ok _ _ => true
  | .error _ _ => false

@[simp] theorem final_ok (a : α) (s : σ) : final (.ok a s : EStateM.Result ε σ α) = s := rfl
@[simp] theorem final_error (e : ε) (s : σ) : final (.error e s : EStateM.Result ε σ α) = s := rfl

theorem returned_ok {result : EStateM.Result ε σ α} (done : returned result = true) : ∃ a s, result = .ok a s := by
  cases result with
  | ok a s => exact ⟨a,s,rfl⟩
  | error _ _ => cases done

theorem returned_final {result : EStateM.Result ε σ Unit} (done : returned result = true) : result = .ok () (final result) := by
  obtain ⟨_,s,rfl⟩ := returned_ok done
  rfl

/-- Started in `s`, `x` returns into `ok` or stops into `stop`. -/
def Runs (x : EStateM ε σ α) (s : σ) (ok : α → σ → Prop) (stop : ε → σ → Prop) : Prop :=
  match x s with
  | .ok a t => ok a t
  | .error e t => stop e t

theorem runs_ok {x : EStateM ε σ α} {s t : σ} {a : α} {ok : α → σ → Prop} {stop : ε → σ → Prop}
    (executed : x s = .ok a t) : Runs x s ok stop ↔ ok a t := by
  simp [Runs,executed]

/-- Two computations with the same result run alike. -/
theorem runs_congr {x y : EStateM ε σ α} {s t : σ} {ok : α → σ → Prop} {stop : ε → σ → Prop} (same : x s = y t) :
    Runs x s ok stop ↔ Runs y t ok stop := by
  simp [Runs,same]

/-- Weaker postconditions, knowing how the computation ended. -/
theorem runs_mono_of {x : EStateM ε σ α} {s : σ} {ok ok' : α → σ → Prop} {stop stop' : ε → σ → Prop}
    (run : Runs x s ok stop) (returns : ∀ a t, x s = .ok a t → ok a t → ok' a t)
    (stops : ∀ e t, x s = .error e t → stop e t → stop' e t) : Runs x s ok' stop' := by
  unfold Runs at *
  split
  · next a t executed => exact returns a t executed (by simpa [executed] using run)
  · next e t executed => exact stops e t executed (by simpa [executed] using run)

theorem runs_mono {x : EStateM ε σ α} {s : σ} {ok ok' : α → σ → Prop} {stop stop' : ε → σ → Prop}
    (run : Runs x s ok stop) (returns : ∀ a t, ok a t → ok' a t) (stops : ∀ e t, stop e t → stop' e t) :
    Runs x s ok' stop' :=
  runs_mono_of run (fun a t _ => returns a t) (fun e t _ => stops e t)

theorem runs_final {x : EStateM ε σ α} {s : σ} (post : σ → Prop) :
    Runs x s (fun _ t => post t) (fun _ t => post t) ↔ post (final (x s)) := by
  unfold Runs
  cases x s <;> rfl

/-- A computation that never stops returns. -/
theorem runs_returned {x : EStateM ε σ α} {s : σ} {ok : α → σ → Prop} (run : Runs x s ok (fun _ _ => False)) :
    ∃ a t, x s = .ok a t ∧ ok a t := by
  unfold Runs at run
  split at run
  · next a t executed => exact ⟨a,t,executed,run⟩
  · exact run.elim

/-! ### The rules, one per way of building a computation -/

@[simp] theorem runs_pure (a : α) (s : σ) (ok : α → σ → Prop) (stop : ε → σ → Prop) :
    Runs (pure a) s ok stop ↔ ok a s := Iff.rfl

@[simp] theorem runs_throw (e : ε) (s : σ) (ok : α → σ → Prop) (stop : ε → σ → Prop) :
    Runs (throw e) s ok stop ↔ stop e s := Iff.rfl

theorem runs_bind {x : EStateM ε σ α} {f : α → EStateM ε σ β} {s : σ} {ok : β → σ → Prop}
    {stop : ε → σ → Prop} :
    Runs (x >>= f) s ok stop ↔ Runs x s (fun a t => Runs (f a) t ok stop) stop := by
  simp only [Runs,bind,EStateM.bind]
  cases x s <;> rfl

@[simp] theorem runs_get (s : σ) (ok : σ → σ → Prop) (stop : ε → σ → Prop) :
    Runs (get : EStateM ε σ σ) s ok stop ↔ ok s s := Iff.rfl

@[simp] theorem runs_modify (f : σ → σ) (s : σ) (ok : PUnit → σ → Prop) (stop : ε → σ → Prop) :
    Runs (modify f : EStateM ε σ PUnit) s ok stop ↔ ok ⟨⟩ (f s) := Iff.rfl

theorem bind_ok {x : EStateM ε σ α} {f : α → EStateM ε σ β} {s t : σ} {a : α} (executed : x s = .ok a t) :
    (x >>= f) s = f a t := by
  simp [bind,EStateM.bind,executed]

theorem get_bind (f : σ → EStateM ε σ β) (s : σ) : (get >>= f) s = f s s := rfl

/-- What returned went through each of its parts. -/
theorem bind_returned {x : EStateM ε σ α} {f : α → EStateM ε σ β} {s u : σ} {b : β} (executed : (x >>= f) s = .ok b u) :
    ∃ a t, x s = .ok a t ∧ f a t = .ok b u := by
  cases first : x s with
  | ok a t =>
    rw [bind_ok first] at executed
    exact ⟨a,t,rfl,executed⟩
  | error e t =>
    simp only [bind,EStateM.bind,first] at executed
    cases executed

theorem bind_same {x y : EStateM ε σ α} {f : α → EStateM ε σ β} {s : σ} (same : x s = y s) : (x >>= f) s = (y >>= f) s := by
  simp [bind,EStateM.bind,same]

/-! ### Computations that leave a view of the state alone -/

/-- However `x` ends, `view` sees the same as before. -/
def Keeps (view : σ → γ) (x : EStateM ε σ α) : Prop := ∀ s, view (final (x s)) = view s

theorem keeps_runs {view : σ → γ} {x : EStateM ε σ α} (keeps : Keeps view x) (s : σ) :
    Runs x s (fun _ t => view t = view s) (fun _ t => view t = view s) :=
  (runs_final (fun t => view t = view s)).mpr (keeps s)

theorem keeps_pure (view : σ → γ) (a : α) : Keeps view (pure a : EStateM ε σ α) := fun _ => rfl

theorem keeps_throw (view : σ → γ) (e : ε) : Keeps view (throw e : EStateM ε σ α) := fun _ => rfl

theorem keeps_get (view : σ → γ) : Keeps view (get : EStateM ε σ σ) := fun _ => rfl

theorem keeps_modify {view : σ → γ} {f : σ → σ} (same : ∀ s, view (f s) = view s) :
    Keeps view (modify f : EStateM ε σ PUnit) := same

theorem keeps_bind {view : σ → γ} {x : EStateM ε σ α} {f : α → EStateM ε σ β} (first : Keeps view x)
    (next : ∀ a, Keeps view (f a)) : Keeps view (x >>= f) := by
  intro s
  have before := first s
  simp only [bind,EStateM.bind]
  cases executed : x s with
  | ok a t => rw [executed] at before; exact (next a t).trans before
  | error e t => rw [executed] at before; exact before

theorem keeps_ite {view : σ → γ} {c : Prop} [Decidable c] {x y : EStateM ε σ α} (yes : c → Keeps view x)
    (no : ¬ c → Keeps view y) : Keeps view (if c then x else y) := by
  split
  · next holds => exact yes holds
  · next fails => exact no fails

/-! ### Computations that lead from a state to a related one -/

/-- However `x` ends, the state it leaves is related to the one it found. -/
def Follows (R : σ → σ → Prop) (x : EStateM ε σ α) : Prop := ∀ s, R s (final (x s))

section
variable {R : σ → σ → Prop}

theorem follows_pure (refl : ∀ s, R s s) (a : α) : Follows R (pure a : EStateM ε σ α) := refl

theorem follows_throw (refl : ∀ s, R s s) (e : ε) : Follows R (throw e : EStateM ε σ α) := refl

theorem follows_get (refl : ∀ s, R s s) : Follows R (get : EStateM ε σ σ) := refl

theorem follows_modify {f : σ → σ} (related : ∀ s, R s (f s)) : Follows R (modify f : EStateM ε σ PUnit) := related

theorem follows_bind (trans : ∀ s t u, R s t → R t u → R s u) {x : EStateM ε σ α} {f : α → EStateM ε σ β}
    (first : Follows R x) (next : ∀ a, Follows R (f a)) : Follows R (x >>= f) := by
  intro s
  have before := first s
  simp only [bind,EStateM.bind]
  cases executed : x s with
  | ok a t =>
    rw [executed] at before
    exact trans _ _ _ before (next a t)
  | error e t =>
    rw [executed] at before
    exact before

theorem follows_ite {c : Prop} [Decidable c] {x y : EStateM ε σ α} (yes : Follows R x) (no : Follows R y) :
    Follows R (if c then x else y) := by
  split
  · exact yes
  · exact no

end

/-! ### From one given state -/

/-- Started in `s`, `x` leaves a state that is related to `s`. -/
def Leads (R : σ → σ → Prop) (x : EStateM ε σ α) (s : σ) : Prop := R s (final (x s))

section
variable {R : σ → σ → Prop} {s : σ}

/-- The second computation may use how the first has ended. -/
theorem leads_bind (trans : ∀ s t u, R s t → R t u → R s u) {x : EStateM ε σ α} {f : α → EStateM ε σ β} (first : Leads R x s)
    (next : ∀ a t, x s = .ok a t → R s t → Leads R (f a) t) : Leads R (x >>= f) s := by
  unfold Leads at *
  simp only [bind,EStateM.bind]
  cases executed : x s with
  | ok a t =>
    rw [executed] at first
    exact trans _ _ _ first (next a t executed first)
  | error e t =>
    rw [executed] at first
    exact first

/-- A computation that returns at once is as what follows it. -/
theorem leads_ok {x : EStateM ε σ α} {f : α → EStateM ε σ β} {a : α} (executed : x s = .ok a s) (next : Leads R (f a) s) :
    Leads R (x >>= f) s := by
  unfold Leads
  rw [bind_ok executed]
  exact next

theorem leads_ite {c : Prop} [Decidable c] {x y : EStateM ε σ α} (yes : c → Leads R x s) (no : ¬ c → Leads R y s) :
    Leads R (if c then x else y) s := by
  split
  · next holds => exact yes holds
  · next fails => exact no fails

end

end Program
end HotFix
