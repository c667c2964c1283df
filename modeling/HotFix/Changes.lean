import HotFix.Reactions

/-!
What the application is told about the state of the session. Every transition tells it
the status that is left and the status that is entered; a session that awaits a resend
also widens its gap where it is, and tells nothing.
-/
namespace HotFix.Changes
open HotFix.Program HotFix.Loop HotFix.Deeds
open HotFix.Sample (valid logon report start connect receive after reachable_after)

/-! ### Chains -/

section
variable {α : Type}

/-- The steps lead from one value to another, each from where the one before it led,
    and none stays where it is. -/
def Chained (first : α) : List (α × α) → α → Prop
  | [],last => last = first
  | (source,target) :: rest,last => source = first ∧ source ≠ target ∧ Chained target rest last

instance decidableChained [DecidableEq α] : ∀ (first : α) (steps : List (α × α)) (last : α), Decidable (Chained first steps last)
  | _,[],_ => inferInstanceAs (Decidable (_ = _))
  | _,(_,target) :: rest,last =>
    let _later : Decidable (Chained target rest last) := decidableChained target rest last
    inferInstanceAs (Decidable (_ ∧ _ ∧ _))

theorem Chained.snoc {target last : α} (steps : List (α × α)) : ∀ {first : α}, Chained first steps last → last ≠ target →
    Chained first (steps ++ [(last,target)]) target := by
  induction steps with
  | nil =>
    intro first chained moves
    exact ⟨chained,moves,rfl⟩
  | cons step rest ih =>
    intro first chained moves
    exact ⟨chained.1,chained.2.1,ih chained.2.2 moves⟩

end

/-! ### What the application is told -/

def change : Effect → Option (Status × Status)
  | .OnStateChange source target => some (source,target)
  | _ => none

/-- The changes of state that the application was told. -/
def changes (journal : List Effect) : List (Status × Status) := journal.filterMap change

theorem changes_append (journal entries : List Effect) : changes (journal ++ entries) = changes journal ++ changes entries :=
  List.filterMap_append

theorem changes_aside {entries : List Effect} (plain : entries.all is_aside = true) : changes entries = [] := by
  refine List.filterMap_eq_nil_iff.mpr (fun entry member => ?_)
  have aside := List.all_eq_true.mp plain entry member
  cases entry with
  | OnStateChange source target => cases aside
  | _ => rfl

variable {S : Type}

/-- What the application was told leads from the first status to the present one. -/
def Told (w : World S) : Prop := Chained .Disconnected (changes w.journal) w.state.as_status

theorem Told.quiet {w w' : World S} {entries : List Effect} (told : Told w) (status : w'.state.as_status = w.state.as_status)
    (journal : w'.journal = w.journal ++ entries) (silent : changes entries = []) : Told w' := by
  unfold Told
  rw [status,journal,changes_append,silent,List.append_nil]
  exact told

/-- A transition tells where it leads. -/
theorem Told.transition {w : World S} (told : Told w) (state : SessionState) :
    Told (final (apply_transition (.TransitionTo state) w)) := by
  rw [transition_final]
  unfold transitioned
  split_ifs with same
  · exact told.quiet same.symm (List.append_nil _).symm rfl
  · unfold Told noted
    rw [changes_append]
    exact Chained.snoc _ told same

theorem Told.deed {L : Licence} {w w' : World S} (told : Told w) (narrow : ¬ L.widen) (deed : Deed L w w') : Told w' := by
  cases deed with
  | aside entries store kept journal plain =>
    refine told.quiet ?_ journal (changes_aside plain)
    rw [← face_status,kept,face_status]
  | stored entries may kept journal plain => exact told.quiet (congrArg _ kept) journal (changes_aside plain)
  | wrote may current raw => exact told.quiet rfl rfl rfl
  | greeted may current first raw =>
    refine told.quiet ?_ rfl rfl
    rw [current]
    rfl
  | delivered may m => exact told.quiet rfl rfl rfl
  | loggedOn may current => exact told.quiet rfl rfl rfl
  | connected may writer => exact told.quiet rfl rfl rfl
  | widened may current writer => exact absurd may narrow
  | turned turns => exact told.transition _

theorem Told.does {L : Licence} {w w' : World S} (told : Told w) (narrow : ¬ L.widen) (does : Does L w w') : Told w' := by
  induction does with
  | refl => exact told
  | tail _ deed ih => exact ih.deed narrow deed

/-! ### Widening -/

variable [MessageStore S]

/-- A message that is ahead widens the gap that is awaited. -/
def widens (env : Env) (v : World S) (m : Message) : Bool :=
  match reaction env v m,v.state with
  | .Ahead expected actual,.AwaitingResend state => (state.update expected actual).1 = .Success
  | _,_ => false

theorem licence_widens {env : Env} {v : World S} {m : Message} (may : (licence env v m).widen) : widens env v m = true := by
  unfold licence at may
  unfold widens
  cases reacts : reaction env v m with
  | Ahead expected actual =>
    rw [reacts] at may
    dsimp only at may ⊢
    cases state : v.state with
    | AwaitingResend awaiting =>
      rw [state] at may
      by_cases updated : (awaiting.update expected actual).1 = .Success
      · exact decide_eq_true updated
      · rw [gap_licence,if_neg updated] at may
        cases may
    | _ =>
      rw [state] at may
      cases may
  | Faulty error =>
    rw [reacts] at may
    cases error with
    | SeqNumberTooLow expected actual possible_duplicate => cases possible_duplicate <;> cases may
    | _ => cases may
  | Passed kind =>
    rw [reacts] at may
    cases kind <;> simp only [handler_licence] at may <;> (try split_ifs at may) <;> cases may
  | _ =>
    rw [reacts] at may
    cases may

/-- Nothing that is taken up while the input is handled widens a gap. -/
def Steady (env : Env) (w : World S) (input : Input) : Prop := ∀ p ∈ taken env input w, widens env p.1 p.2 = false

instance decidableSteady (env : Env) (w : World S) (input : Input) : Decidable (Steady env w input) :=
  inferInstanceAs (Decidable (∀ p ∈ taken env input w, widens env p.1 p.2 = false))

/-- Everything may be done but to widen a gap. -/
def narrow : Licence := { Licence.all with widen := False }

theorem within_narrow {L : Licence} (never : ¬ L.widen) : L.Within narrow where
  store _ := trivial
  frame _ _ := trivial
  deliver _ := trivial
  logon _ := trivial
  connect _ := trivial
  lift _ := trivial
  widen may := never may
  skip _ := trivial

theorem invalid_never_widens (state : SessionState) (m : Message) (reason : InvalidReason) :
    ¬ (invalid_licence state m reason).widen := by
  intro may
  cases reason <;> simp only [invalid_licence] at may <;> (try split_ifs at may) <;> cases may

theorem input_never_widens (env : Env) (w : World S) (input : Input) : ¬ (input_licence env w input).widen := by
  intro may
  cases input with
  | Event event => cases event <;> cases may
  | Admin request => cases request <;> cases may
  | PeerTimeout =>
    unfold input_licence at may
    split_ifs at may <;> cases may
  | _ => cases may

theorem Told.step {env : Env} {w : World S} {input : Input} (told : Told w) (steady : Steady env w input) :
    Leads (fun _ w' => Told w') (handle_input env input) w := by
  refine told.does (L := narrow) id ?_
  rcases frame_or_other input with ⟨raw,rfl⟩ | other
  · refine frame_does trivial (fun _ _ => trivial) (fun p member => within_narrow (fun may => ?_))
      (fun m reason _ => within_narrow (invalid_never_widens _ m reason)) (fun _ _ _ _ _ _ => trivial)
    have widens := licence_widens may
    rw [steady p member] at widens
    cases widens
  · exact (input_does other).mono (within_narrow (input_never_widens env w input))

/-- As long as no gap is widened, the changes that the application is told lead from one
    to the next, and the last one to the present status. -/
theorem changes_chained {env : Env} {store : S} {w : World S} (reached : Reachable env (Steady env) (World.initial store) w) :
    Chained .Disconnected (changes w.journal) w.state.as_status := by
  induction reached with
  | start => exact rfl
  | step before armed fine handled ih =>
    have told := Told.step ih fine
    unfold Leads at told
    rw [handled] at told
    exact told

/-- A logon and a gap are told. -/
theorem opened_gap_chained :
    Chained .Disconnected (changes (after (valid [logon,report 2,report 3]) [connect,receive logon,receive (report 3)]).journal)
        (after (valid [logon,report 2,report 3]) [connect,receive logon,receive (report 3)]).state.as_status ∧
      (changes (after (valid [logon,report 2,report 3]) [connect,receive logon,receive (report 3)]).journal).length = 3 :=
  ⟨changes_chained (reachable_after (by decide +kernel)),by decide +kernel⟩

/-- The end of the gap from 2 to 5 becomes 4, and the application was last told 5. -/
theorem widening_untold :
    Reachable (valid [logon,report 4,report 5]) (fun _ _ => True) start
        (after (valid [logon,report 4,report 5]) [connect,receive logon,receive (report 5),receive (report 4)]) ∧
      ¬ Chained .Disconnected
        (changes (after (valid [logon,report 4,report 5]) [connect,receive logon,receive (report 5),receive (report 4)]).journal)
        (after (valid [logon,report 4,report 5]) [connect,receive logon,receive (report 5),receive (report 4)]).state.as_status :=
  ⟨reachable_after (by decide +kernel),by decide +kernel⟩

end HotFix.Changes
