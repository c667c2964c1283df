import Mathlib.Data.List.Basic

/-!
Files that are only appended to, behind a buffer of a fixed capacity, and operations
that are lists of steps. Any operation may stop early: a write after some of its
bytes, a list of steps after some of them. Bytes that were handed over are never
lost: they are in the file or wait in the buffer for the next write, in their order.
-/
namespace HotFix

/-- How a write goes: all its bytes are written, or it fails after some of them. -/
abbrev Outcome := Option Nat

/-! ### Lists of steps -/

namespace Steps
variable {σ : Type}

def run (steps : List (σ → σ)) (s : σ) : σ := steps.foldl (fun s step => step s) s

/-- The steps in order, up to the one that fails. -/
def attempt (stop : Outcome) (steps : List (σ → σ)) (s : σ) : Bool × σ :=
  match stop with
  | some done => if done < steps.length then (false,run (steps.take done) s) else (true,run steps s)
  | none => (true,run steps s)

theorem attempt_ok {stop : Outcome} {steps : List (σ → σ)} {s t : σ} (done : attempt stop steps s = (true,t)) :
    t = run steps s := by
  cases stop with
  | none => exact (Prod.mk.inj done).2.symm
  | some k =>
    rw [attempt] at done
    split_ifs at done
    · cases (Prod.mk.inj done).1
    · exact (Prod.mk.inj done).2.symm

end Steps

/-! ### Buffered appending -/

/-- A file and the bytes that wait in its buffer. -/
structure Appender (α : Type) where
  written : List α
  pending : List α

namespace Appender
variable {α : Type}

/-- What was handed over, in its order. -/
def all (a : Appender α) : List α := a.written ++ a.pending

/-- A file does not grow beyond its limit: a write that would fails there. -/
def bounded (limit : Nat) (a : Appender α) (data : List α) : Outcome → Outcome
  | some done => some (min done (limit - a.written.length))
  | none => if a.written.length + data.length ≤ limit then none else some (limit - a.written.length)

/-- What fails to be written stays in the buffer. -/
def flush (limit : Nat) (outcome : Outcome) (a : Appender α) : Bool × Appender α :=
  match a.bounded limit a.pending outcome with
  | none => (true,⟨a.written ++ a.pending,[]⟩)
  | some done => (false,⟨a.written ++ a.pending.take done,a.pending.drop done⟩)

/-- Past the buffer. What fails to be written is dropped. -/
def write_through (limit : Nat) (outcome : Outcome) (data : List α) (a : Appender α) : Bool × Appender α :=
  match a.bounded limit data outcome with
  | none => (true,⟨a.written ++ data,a.pending⟩)
  | some done => (false,⟨a.written ++ data.take done,a.pending⟩)

/-- Data that does not fit into the rest of the buffer flushes it first, and data
    that fills a buffer goes past it. -/
def write_all (limit capacity : Nat) (outcomes : Outcome × Outcome) (data : List α) (a : Appender α) : Bool × Appender α :=
  if data.length < capacity - a.pending.length then (true,⟨a.written,a.pending ++ data⟩) else
  match if data.length > capacity - a.pending.length then a.flush limit outcomes.1 else (true,a) with
  | (false,a) => (false,a)
  | (true,a) =>
    if data.length ≥ capacity then a.write_through limit outcomes.2 data else (true,⟨a.written,a.pending ++ data⟩)

/-- Formatted output: piece by piece. -/
def write_fmt (limit capacity : Nat) (outcomes : Nat → Outcome × Outcome) : List (List α) → Appender α → Bool × Appender α
  | [],a => (true,a)
  | piece :: rest,a =>
    match a.write_all limit capacity (outcomes rest.length) piece with
    | (false,a) => (false,a)
    | (true,a) => write_fmt limit capacity outcomes rest a

/-- A write of `data`: what was written stays, and what is handed over grows by the
    data, or by a part of it if the write has failed. -/
structure Appends (data : List α) (a : Appender α) (done : Bool) (b : Appender α) : Prop where
  grows : a.written <+: b.written
  taken : ∃ part, part <+: data ∧ b.all = a.all ++ part
  whole : done = true → b.all = a.all ++ data

section
variable {limit capacity : Nat} {a : Appender α}

theorem Appends.trans {data more : List α} {b c : Appender α} {done : Bool} (first : Appends data a true b)
    (second : Appends more b done c) : Appends (data ++ more) a done c := by
  obtain ⟨part,front,taken⟩ := second.taken
  have before := first.whole rfl
  refine ⟨first.grows.trans second.grows,⟨data ++ part,List.prefix_append_right_inj data |>.mpr front,?_⟩,fun finished => ?_⟩
  · rw [taken,before,List.append_assoc]
  · rw [second.whole finished,before,List.append_assoc]

/-- A write that fails hands over no more than one that goes on. -/
theorem Appends.failed {data more : List α} {b : Appender α} (first : Appends data a false b) :
    Appends (data ++ more) a false b := by
  obtain ⟨part,front,taken⟩ := first.taken
  exact ⟨first.grows,⟨part,front.trans (List.prefix_append data more),taken⟩,nofun⟩

theorem flush_appends (outcome : Outcome) : Appends [] a (a.flush limit outcome).1 (a.flush limit outcome).2 := by
  have same : (a.flush limit outcome).2.all = a.all := by
    unfold flush
    cases a.bounded limit a.pending outcome with
    | none => exact List.append_nil _
    | some done => simp only [all,List.append_assoc,List.take_append_drop]
  refine ⟨?_,⟨[],List.prefix_rfl,by rw [same,List.append_nil]⟩,fun _ => by rw [same,List.append_nil]⟩
  unfold flush
  cases a.bounded limit a.pending outcome with
  | none => exact List.prefix_append _ _
  | some done => exact List.prefix_append _ _

theorem flush_ok {outcome : Outcome} {b : Appender α} (done : a.flush limit outcome = (true,b)) :
    b = ⟨a.all,[]⟩ ∧ a.all.length ≤ limit := by
  unfold flush at done
  cases outcome with
  | some k =>
    rw [bounded] at done
    cases (Prod.mk.inj done).1
  | none =>
    rw [bounded] at done
    split_ifs at done with fits
    · refine ⟨(Prod.mk.inj done).2.symm,?_⟩
      rw [all,List.length_append]
      exact fits
    · cases (Prod.mk.inj done).1

theorem write_through_appends (outcome : Outcome) (data : List α) (empty : a.pending = []) :
    Appends data a (a.write_through limit outcome data).1 (a.write_through limit outcome data).2 := by
  unfold write_through
  cases a.bounded limit data outcome with
  | none =>
    have whole : (⟨a.written ++ data,a.pending⟩ : Appender α).all = a.all ++ data := by simp [all,empty]
    exact ⟨List.prefix_append _ _,⟨data,List.prefix_rfl,whole⟩,fun _ => whole⟩
  | some done => exact ⟨List.prefix_append _ _,⟨data.take done,List.take_prefix _ _,by simp [all,empty]⟩,nofun⟩

theorem buffer_appends (data : List α) : Appends data a true ⟨a.written,a.pending ++ data⟩ := by
  have whole : (⟨a.written,a.pending ++ data⟩ : Appender α).all = a.all ++ data := (List.append_assoc _ _ _).symm
  exact ⟨List.prefix_rfl,⟨data,List.prefix_rfl,whole⟩,fun _ => whole⟩

theorem write_all_appends (positive : 0 < capacity) (outcomes : Outcome × Outcome) (data : List α) :
    Appends data a (a.write_all limit capacity outcomes data).1 (a.write_all limit capacity outcomes data).2 := by
  unfold write_all
  split_ifs with fits past large
  · exact buffer_appends data
  · -- the buffer is flushed first
    have flushed := @flush_appends α limit a outcomes.1
    rcases result : a.flush limit outcomes.1 with ⟨_ | _,b⟩
    · rw [result] at flushed
      exact @Appends.failed α a [] data b flushed
    · rw [result] at flushed
      obtain ⟨rfl,_⟩ := flush_ok result
      exact @Appends.trans α a [] data _ _ _ flushed (write_through_appends outcomes.2 data rfl)
  · have flushed := @flush_appends α limit a outcomes.1
    rcases result : a.flush limit outcomes.1 with ⟨_ | _,b⟩
    · rw [result] at flushed
      exact @Appends.failed α a [] data b flushed
    · rw [result] at flushed
      exact @Appends.trans α a [] data _ _ _ flushed (buffer_appends data)
  · refine write_through_appends outcomes.2 data (List.eq_nil_of_length_eq_zero ?_)
    omega
  · exact buffer_appends data

theorem write_fmt_appends (positive : 0 < capacity) (outcomes : Nat → Outcome × Outcome) (pieces : List (List α)) :
    ∀ a : Appender α, Appends pieces.flatten a (a.write_fmt limit capacity outcomes pieces).1 (a.write_fmt limit capacity outcomes pieces).2 := by
  induction pieces with
  | nil => exact fun a => ⟨List.prefix_rfl,⟨[],List.prefix_rfl,(List.append_nil _).symm⟩,fun _ => (List.append_nil _).symm⟩
  | cons piece rest ih =>
    intro a
    rw [write_fmt,List.flatten_cons]
    have first := @write_all_appends α limit capacity a positive (outcomes rest.length) piece
    rcases result : a.write_all limit capacity (outcomes rest.length) piece with ⟨_ | _,b⟩
    · rw [result] at first
      exact first.failed
    · rw [result] at first
      exact first.trans (ih b)

/-- What a write leaves in a file that had nothing to write. -/
theorem Appends.written_part {data : List α} {done : Bool} {b : Appender α} (appends : Appends data a done b)
    (flushed : a.pending = []) : ∃ part, part <+: data ∧ b.written = a.written ++ part := by
  obtain ⟨part,front,taken⟩ := appends.taken
  obtain ⟨more,grown⟩ := appends.grows
  refine ⟨more,List.IsPrefix.trans ⟨b.pending,?_⟩ front,grown.symm⟩
  rw [all,all,flushed,List.append_nil,← grown,List.append_assoc] at taken
  exact List.append_cancel_left taken

/-! ### The limit of a file -/

theorem bounded_le {data : List α} {outcome : Outcome} {done : Nat} (stopped : a.bounded limit data outcome = some done) :
    done ≤ limit - a.written.length := by
  cases outcome with
  | some k =>
    cases stopped
    exact Nat.min_le_right _ _
  | none =>
    rw [bounded] at stopped
    split_ifs at stopped
    cases stopped
    exact Nat.le_refl _

theorem bounded_none {data : List α} {outcome : Outcome} (through : a.bounded limit data outcome = none) :
    a.written.length + data.length ≤ limit := by
  cases outcome with
  | some k => cases through
  | none =>
    rw [bounded] at through
    split_ifs at through with fits
    exact fits

theorem flush_bounded (fits : a.written.length ≤ limit) (outcome : Outcome) : (a.flush limit outcome).2.written.length ≤ limit := by
  unfold flush
  cases result : a.bounded limit a.pending outcome with
  | none =>
    have small := bounded_none result
    rwa [List.length_append]
  | some done =>
    have few := bounded_le result
    simp only [List.length_append,List.length_take]
    omega

theorem write_through_bounded (fits : a.written.length ≤ limit) (outcome : Outcome) (data : List α) :
    (a.write_through limit outcome data).2.written.length ≤ limit := by
  unfold write_through
  cases result : a.bounded limit data outcome with
  | none =>
    have small := bounded_none result
    rwa [List.length_append]
  | some done =>
    have few := bounded_le result
    simp only [List.length_append,List.length_take]
    omega

theorem write_all_bounded (fits : a.written.length ≤ limit) (outcomes : Outcome × Outcome) (data : List α) :
    (a.write_all limit capacity outcomes data).2.written.length ≤ limit := by
  have flushed := @flush_bounded α limit a fits outcomes.1
  unfold write_all
  split_ifs with buffered past large
  · exact fits
  · rcases result : a.flush limit outcomes.1 with ⟨_ | _,b⟩
    · rw [result] at flushed
      exact flushed
    · rw [result] at flushed
      exact write_through_bounded flushed outcomes.2 data
  · rcases result : a.flush limit outcomes.1 with ⟨_ | _,b⟩
    · rw [result] at flushed
      exact flushed
    · rw [result] at flushed
      exact flushed
  · exact write_through_bounded fits outcomes.2 data
  · exact fits

/-! ### Writes that succeed -/

theorem write_all_buffered {data : List α} (outcomes : Outcome × Outcome) (small : a.pending.length + data.length < capacity) :
    a.write_all limit capacity outcomes data = (true,⟨a.written,a.pending ++ data⟩) :=
  if_pos (by omega)

theorem write_fmt_buffered (outcomes : Nat → Outcome × Outcome) (pieces : List (List α)) :
    ∀ a : Appender α, a.pending.length + pieces.flatten.length < capacity →
      a.write_fmt limit capacity outcomes pieces = (true,⟨a.written,a.pending ++ pieces.flatten⟩) := by
  induction pieces with
  | nil =>
    intro a _
    rw [write_fmt,List.flatten_nil,List.append_nil]
  | cons piece rest ih =>
    intro a small
    rw [List.flatten_cons,List.length_append] at small
    rw [write_fmt,write_all_buffered _ (by omega)]
    dsimp only
    rw [ih _ (by rw [List.length_append]; omega),List.flatten_cons,List.append_assoc]

theorem flush_through (fits : a.all.length ≤ limit) : a.flush limit none = (true,⟨a.all,[]⟩) := by
  rw [all,List.length_append] at fits
  rw [flush,bounded,if_pos fits]
  rfl

end
end Appender
end HotFix
