import Mathlib.Data.List.Basic

/-!
Cutting a stream into frames. A cutter looks at a buffer and says how long its first
frame is, that it has to wait for more, or that it gives up. Frames are cut until
the cutter waits. When more bytes never change what a cutter has decided, the frames
of a stream do not depend on how it arrives.
-/
namespace HotFix.Cutting
variable {α ε : Type}

/-- What a buffer starts with: a frame of some length, or too little (`none`). -/
abbrev Cutter (ε α : Type) := List α → Except ε (Option Nat)

/-- Cutting the buffer gives these frames and leaves the rest. -/
inductive Cuts (cut : Cutter ε α) : List α → List (List α) → List α → Prop where
  | wait {buffer : List α} (waits : cut buffer = .ok none) : Cuts cut buffer [] buffer
  | frame {frame buffer left : List α} {frames : List (List α)} (first : cut (frame ++ buffer) = .ok (some frame.length))
    (more : Cuts cut buffer frames left) : Cuts cut (frame ++ buffer) (frame :: frames) left

/-- The chunks arrive one after the other, and what is left of a buffer stays in front
    of the next chunk. -/
inductive Fed (cut : Cutter ε α) : List α → List (List α) → List (List α) → List α → Prop where
  | done {buffer : List α} : Fed cut buffer [] [] buffer
  | chunk {buffer chunk left left' : List α} {chunks frames frames' : List (List α)} (now : Cuts cut (buffer ++ chunk) frames left)
    (later : Fed cut left chunks frames' left') : Fed cut buffer (chunk :: chunks) (frames ++ frames') left'

/-- More bytes change nothing that has been decided, and a frame is in the buffer. -/
structure Stable (cut : Cutter ε α) : Prop where
  inside : ∀ buffer n, cut buffer = .ok (some n) → n ≤ buffer.length
  frame : ∀ buffer n more, cut buffer = .ok (some n) → cut (buffer ++ more) = .ok (some n)
  error : ∀ buffer e more, cut buffer = .error e → cut (buffer ++ more) = .error e

variable {cut : Cutter ε α} {buffer more left left' : List α} {frames frames' chunks : List (List α)}

/-- No byte is lost. -/
theorem Cuts.flatten (cuts : Cuts cut buffer frames left) : frames.flatten ++ left = buffer := by
  induction cuts with
  | wait _ => rfl
  | frame _ _ ih => rw [List.flatten_cons,List.append_assoc,ih]

theorem Cuts.waits (cuts : Cuts cut buffer frames left) : cut left = .ok none := by
  induction cuts with
  | wait waits => exact waits
  | frame _ _ ih => exact ih

/-- A buffer is cut in one way. -/
theorem Cuts.unique (cuts : Cuts cut buffer frames left) (other : Cuts cut buffer frames' left') :
    frames = frames' ∧ left = left' := by
  induction cuts generalizing frames' left' with
  | wait waits =>
    cases other with
    | wait _ => exact ⟨rfl,rfl⟩
    | frame first _ => cases waits.symm.trans first
  | @frame frame rest _ _ first _ ih =>
    generalize whole : frame ++ rest = buffer at other first
    cases other with
    | wait waits => cases waits.symm.trans first
    | @frame frame' rest' _ _ first' more' =>
      have lengths : frame.length = frame'.length := by simpa using first.symm.trans first'
      obtain ⟨rfl,rfl⟩ := List.append_inj whole lengths
      obtain ⟨rfl,rfl⟩ := ih more'
      exact ⟨rfl,rfl⟩

/-- Every frame has something in it, or the cutter would find it again and again. -/
theorem Cuts.length_le (cuts : Cuts cut buffer frames left) : frames.length ≤ buffer.length := by
  induction cuts with
  | wait waits => exact Nat.zero_le _
  | @frame frame rest left frames first more ih =>
    have some_in : frame ≠ [] := by
      rintro rfl
      have same := (more.unique (.frame first more)).1
      have lengths := congrArg List.length same
      rw [List.length_cons] at lengths
      omega
    have := List.length_pos_of_ne_nil some_in
    rw [List.length_append,List.length_cons]
    omega

/-- The first frame of a buffer that is cut. -/
theorem Cuts.inv {frame : List α} (cuts : Cuts cut buffer (frame :: frames) left) :
    ∃ rest, buffer = frame ++ rest ∧ cut buffer = .ok (some frame.length) ∧ Cuts cut rest frames left := by
  cases cuts with
  | frame first more => exact ⟨_,rfl,first,more⟩

/-- Cutting goes on where it stopped. -/
theorem Cuts.append (stable : Stable cut) (cuts : Cuts cut buffer frames left) (later : Cuts cut (left ++ more) frames' left') :
    Cuts cut (buffer ++ more) (frames ++ frames') left' := by
  induction cuts with
  | wait _ => exact later
  | frame first _ ih =>
    rw [List.append_assoc,List.cons_append]
    refine .frame ?_ (ih later)
    rw [← List.append_assoc]
    exact stable.frame _ _ more first

/-- What is cut of a buffer and more of it is cut of the buffer first. -/
theorem Cuts.split (stable : Stable cut) (cuts : Cuts cut (buffer ++ more) frames left) :
    ∃ frames₁ left₁ frames₂, Cuts cut buffer frames₁ left₁ ∧ Cuts cut (left₁ ++ more) frames₂ left ∧
      frames = frames₁ ++ frames₂ := by
  generalize whole : buffer ++ more = stream at cuts
  induction cuts generalizing buffer with
  | wait waits =>
    subst whole
    refine ⟨[],buffer,[],.wait ?_,.wait waits,rfl⟩
    cases decided : cut buffer with
    | error e => cases waits.symm.trans (stable.error _ e more decided)
    | ok found =>
      cases found with
      | none => rfl
      | some n => cases waits.symm.trans (stable.frame _ n more decided)
  | @frame frame rest left frames first later ih =>
    cases decided : cut buffer with
    | error e =>
      rw [← whole,stable.error _ e more decided] at first
      cases first
    | ok found =>
      cases found with
      | none =>
        refine ⟨[],buffer,frame :: frames,.wait decided,?_,rfl⟩
        rw [whole]
        exact .frame first later
      | some n =>
        -- the first frame is in the buffer, and the rest of the buffer is cut alike
        have whole_first := stable.frame _ n more decided
        rw [whole,first] at whole_first
        obtain rfl : frame.length = n := by simpa using whole_first
        have inside := stable.inside _ _ decided
        obtain ⟨front,rfl,rfl⟩ : ∃ front, buffer = frame ++ front ∧ rest = front ++ more := by
          rcases List.append_eq_append_iff.mp whole with ⟨gap,rfl,rfl⟩ | ⟨front,rfl,rfl⟩
          · have empty : gap = [] := by
              rw [List.length_append] at inside
              exact List.length_eq_zero_iff.mp (by omega)
            subst empty
            exact ⟨[],by simp,rfl⟩
          · exact ⟨front,rfl,rfl⟩
        obtain ⟨frames₁,left₁,frames₂,now,then_,rfl⟩ := ih rfl
        exact ⟨frame :: frames₁,left₁,frames₂,.frame decided now,then_,rfl⟩

/-- What is fed is cut as the whole stream is. -/
theorem fed_iff (stable : Stable cut) (waits : cut buffer = .ok none) :
    Fed cut buffer chunks frames left ↔ Cuts cut (buffer ++ chunks.flatten) frames left := by
  induction chunks generalizing buffer frames with
  | nil =>
    rw [List.flatten_nil,List.append_nil]
    constructor
    · intro fed
      cases fed
      exact .wait waits
    · intro cuts
      obtain ⟨rfl,rfl⟩ := cuts.unique (.wait waits)
      exact .done
  | cons chunk chunks ih =>
    rw [List.flatten_cons,← List.append_assoc]
    constructor
    · intro fed
      cases fed with
      | chunk now later => exact now.append stable ((ih now.waits).mp later)
    · intro cuts
      obtain ⟨frames₁,left₁,frames₂,now,later,rfl⟩ := cuts.split stable
      exact .chunk now ((ih now.waits).mpr later)

end HotFix.Cutting
