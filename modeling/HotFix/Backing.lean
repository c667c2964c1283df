import HotFix.Parallel
import HotFix.Persistence

/-!
What stands behind a session. It knows its store by the operations alone, so over stores
that answer alike it does the same. A session over files therefore does what it would do
over memory, whatever it is given, until an operation on the files fails.
-/
namespace HotFix.Backing
open HotFix.Program HotFix.Parallel HotFix.Parallel.Simulates HotFix.Persistence HotFix.Operations HotFix.Sending MessageStore
variable {S T : Type} [MessageStore S] [MessageStore T]

/-! ### Stores that answer alike -/

/-- The stores show the same numbers and the same creation time. -/
structure Looks (s : S) (t : T) : Prop where
  target : next_target_seq_number t = next_target_seq_number s
  sender : next_sender_seq_number t = next_sender_seq_number s
  created : MessageStore.creation_time t = MessageStore.creation_time s

/-- From related stores an operation leads to related stores with the same result, unless
    the first is lost by it. -/
structure Tracks (lost : S → Prop) (M : S → T → Prop) : Prop where
  looks : ∀ s t, M s t → Looks s t
  slices : ∀ s t, M s t → ∀ first last, MessageStore.get_slice first last t = MessageStore.get_slice first last s
  full : ∀ s, lost s → ∃ t : T, Looks s t
  lasts : ∀ s (operation : Operation), lost s → lost (operation.apply s).2
  steps : ∀ s t (operation : Operation), M s t → lost (operation.apply s).2 ∨
    (operation.apply t).1 = (operation.apply s).1 ∧ M (operation.apply s).2 (operation.apply t).2

/-- Worlds around related stores. -/
structure Beside (M : S → T → Prop) (v : World S) (w : World T) : Prop where
  store : M v.store w.store
  state : w.state = v.state
  reset_on_next_logon : w.reset_on_next_logon = v.reset_on_next_logon
  clock_readings : w.clock_readings = v.clock_readings
  journal : w.journal = v.journal

section
variable {env : Env} {lost : S → Prop} {M : S → T → Prop} {v : World S} {w : World T}

omit [MessageStore S] [MessageStore T] in
theorem Beside.with_store {s : S} {t : T} (beside : Beside M v w) (related : M s t) (entries : List Effect) :
    Beside M { v with store := s, journal := v.journal ++ entries } { w with store := t, journal := w.journal ++ entries } :=
  ⟨related,beside.state,beside.reset_on_next_logon,beside.clock_readings,congrArg (· ++ entries) beside.journal⟩

namespace Tracks
variable (tracks : Tracks lost M)
include tracks

theorem alike (beside : Beside M v w) : Alike v w :=
  have looks := tracks.looks _ _ beside.store
  ⟨beside.state,beside.reset_on_next_logon,beside.clock_readings,beside.journal,looks.target,looks.sender,looks.created⟩

/-- One operation, with the entries that it leaves in the journal. -/
theorem operates (operation : Operation) (effects : List Effect) : Par (fun v : World S => lost v.store) (Beside M) any
    (store_operation (fun s => operation.apply s) effects) (store_operation (fun t => operation.apply t) effects) := by
  intro v w alike
  rw [store_operation_eq,store_operation_eq]
  refine ⟨fun is_lost => ?_,fun beside => ?_⟩
  · have later := tracks.lasts v.store operation is_lost
    rcases result : operation.apply v.store with ⟨e | _,s⟩
    · rw [result] at later
      exact ⟨trivial,later⟩
    · rw [result] at later
      exact ⟨trivial,later⟩
  · rcases tracks.steps v.store w.store operation beside.store with gone | ⟨same,related⟩
    · refine .inl ?_
      rcases result : operation.apply v.store with ⟨e | _,s⟩
      · rw [result] at gone
        exact ⟨trivial,gone⟩
      · rw [result] at gone
        exact ⟨trivial,gone⟩
    · refine .inr ?_
      rcases result : operation.apply v.store with ⟨e | _,s⟩
      · rcases other : operation.apply w.store with ⟨e' | _,t⟩
        · rw [result,other] at same related
          cases same
          exact .returned trivial ⟨related,beside.state,beside.reset_on_next_logon,beside.clock_readings,beside.journal⟩
        · rw [result,other] at same
          cases same
      · rcases other : operation.apply w.store with ⟨e' | _,t⟩
        · rw [result,other] at same
          cases same
        · rw [result,other] at same related
          exact .returned trivial (beside.with_store related effects)

theorem full_alike (v : World S) (is_lost : lost v.store) : ∃ w : World T, Alike v w := by
  obtain ⟨t,looks⟩ := tracks.full v.store is_lost
  exact ⟨⟨t,v.state,v.reset_on_next_logon,v.clock_readings,v.journal⟩,rfl,rfl,rfl,rfl,looks.target,looks.sender,looks.created⟩

theorem bind {α β : Type} {V : α → Prop} {W : β → Prop} {x : SessionM S α} {y : SessionM T α} {f : α → SessionM S β}
    {g : α → SessionM T β} (first : Par (fun v : World S => lost v.store) (Beside M) V x y)
    (next : ∀ a, V a → Par (fun v : World S => lost v.store) (Beside M) W (f a) (g a)) :
    Par (fun v : World S => lost v.store) (Beside M) W (x >>= f) (y >>= g) :=
  par_bind (fun _ _ beside => tracks.alike beside) tracks.full_alike first next

omit [MessageStore S] [MessageStore T] tracks in
theorem ticks [MessageStore S] [MessageStore T] : Par (fun v : World S => lost v.store) (Beside M) any
    (modify fun w => { w with clock_readings := w.clock_readings + 1 } : SessionM S Unit)
    (modify fun w => { w with clock_readings := w.clock_readings + 1 } : SessionM T Unit) :=
  par_modify (fun _ _ _ is_lost => is_lost) (fun _ _ _ beside =>
    ⟨beside.store,beside.state,beside.reset_on_next_logon,congrArg (· + 1) beside.clock_readings,beside.journal⟩)

theorem utc_now (env : Env) : Par (fun v : World S => lost v.store) (Beside M) any (utc_now env : SessionM S DateTime)
    (utc_now env : SessionM T DateTime) := by
  refine bind_get (fun v w alike => tracks.bind ticks (fun _ _ => ?_))
  rw [alike.clock_readings]
  exact returns trivial

theorem timestamp_now (env : Env) : Par (fun v : World S => lost v.store) (Beside M) any (timestamp_now env : SessionM S Timestamp)
    (timestamp_now env : SessionM T Timestamp) := by
  refine bind_get (fun v w alike => tracks.bind ticks (fun _ _ => ?_))
  rw [alike.clock_readings]
  exact returns trivial

theorem prepares (env : Env) (o : OutboundMessage) : Par (fun v : World S => lost v.store) (Beside M) any
    (prepare_message env o) (prepare_message env o) := by
  refine bind_get (fun v w alike => tracks.bind (tracks.timestamp_now env) (fun now _ => ?_))
  rw [alike.sender]
  split
  · exact throws _
  · next m raw generated =>
    refine tracks.bind (tracks.operates .increment_sender_seq_number []) (fun r _ => ?_)
    cases r with
    | error e => exact returns trivial
    | ok done =>
      refine tracks.bind (tracks.operates (.add (next_sender v) raw) []) (fun r _ => ?_)
      cases r with
      | error e => exact returns trivial
      | ok done => exact returns trivial

omit [MessageStore S] [MessageStore T] tracks in
theorem sets [MessageStore S] [MessageStore T] (state : SessionState) :
    Par (fun v : World S => lost v.store) (Beside M) any (set_state state) (set_state state) :=
  par_modify (fun _ _ _ is_lost => is_lost) (fun _ _ _ beside =>
    ⟨beside.store,rfl,beside.reset_on_next_logon,beside.clock_readings,beside.journal⟩)

omit [MessageStore S] [MessageStore T] tracks in
theorem notes [MessageStore S] [MessageStore T] (entry : Effect) :
    Par (fun v : World S => lost v.store) (Beside M) any (note entry) (note entry) :=
  par_modify (fun _ _ _ is_lost => is_lost) (fun _ _ _ beside =>
    ⟨beside.store,beside.state,beside.reset_on_next_logon,beside.clock_readings,congrArg (· ++ [entry]) beside.journal⟩)

theorem notifies : Par (fun v : World S => lost v.store) (Beside M) any notify_schedule_awaiter notify_schedule_awaiter := by
  refine bind_get (fun v w alike => ?_)
  rw [alike.state]
  split
  · split
    · exact tracks.bind (sets _) (fun _ _ => notes _)
    · exact returns trivial
  · exact returns trivial

/-- The handlers do not tell the two apart. -/
theorem simulates (env : Env) : Simulates env (fun v : World S => lost v.store) (Beside M) where
  alike _ _ beside := tracks.alike beside
  full := tracks.full_alike
  lasts v v' is_lost same := same ▸ is_lost
  changed v v' w w' beside changed := by
    refine ⟨?_,changed.state,changed.reset_on_next_logon,changed.clock_readings,changed.journal⟩
    rw [changed.store,changed.store_beside]
    exact beside.store
  counted := tracks.operates .increment_target_seq_number _
  jumped n := tracks.operates (.set_target_seq_number n) _
  restarted := tracks.bind (tracks.utc_now env) (fun now _ => tracks.operates (.reset now) _)
  prepared := tracks.prepares env
  sliced _ _ beside := tracks.slices _ _ beside.store
  notified := tracks.notifies

/-- Every input is handled alike. -/
theorem handles (env : Env) (input : Input) : Par (fun v : World S => lost v.store) (Beside M) any
    (handle_input env input) (handle_input env input) := by
  have sim := tracks.simulates env
  by_cases query : queries input = true
  · cases input with
    | Event event =>
      refine sim.bind sim.handle_schedule_check (fun _ _ => ?_)
      cases event with
      | ShouldReconnect =>
        refine bind_get (fun v w alike => ?_)
        rw [alike.state]
        exact notes _
      | AwaitSchedule responder =>
        refine bind_get (fun v w alike => ?_)
        rw [alike.state]
        cases v.state with
        | Disconnected state => exact par_ite (fun _ => notes _) (fun _ => sets _)
        | _ => exact notes _
      | _ => cases query
    | _ => cases query
  · exact sim.handle_input (Bool.eq_false_iff.mpr query)

theorem runs (env : Env) (inputs : List Input) : Par (fun v : World S => lost v.store) (Beside M) any (run env inputs) (run env inputs) := by
  induction inputs with
  | nil => exact returns trivial
  | cons input rest ih => exact tracks.bind (tracks.handles env input) (fun _ _ => ih)

/-- Sessions over related stores end alike, unless the first store is lost. -/
theorem sessions (env : Env) (inputs : List Input) {s : S} {t : T} (related : M s t) :
    lost (final (run env inputs (World.initial s))).store ∨
      Ends (Beside M) any (run env inputs (World.initial s)) (run env inputs (World.initial t)) := by
  have beside : Beside M (World.initial s) (World.initial t) := ⟨related,rfl,rfl,rfl,rfl⟩
  refine ((tracks.runs env inputs _ _ (tracks.alike beside)).2 beside).imp_left (fun gone => ?_)
  rcases result : run env inputs (World.initial s) with ⟨_,v⟩ | ⟨e,v⟩
  · rw [result] at gone
    exact gone.2
  · rw [result] at gone
    exact gone

end Tracks
end

/-! ### Failures -/

/-- A store with a flag that says whether an operation has failed. -/
structure Watched (S : Type) where
  store : S
  failed : Bool

namespace Watched

def after (failed : Bool) (result : Except StoreError Unit × S) : Except StoreError Unit × Watched S :=
  (result.1,⟨result.2,failed || match result.1 with | .ok _ => false | .error _ => true⟩)

instance : MessageStore (Watched S) where
  add n data s := after s.failed (add n data s.store)
  get_slice first last s := MessageStore.get_slice first last s.store
  next_sender_seq_number s := next_sender_seq_number s.store
  next_target_seq_number s := next_target_seq_number s.store
  increment_sender_seq_number s := after s.failed (increment_sender_seq_number s.store)
  increment_target_seq_number s := after s.failed (increment_target_seq_number s.store)
  set_target_seq_number n s := after s.failed (set_target_seq_number n s.store)
  reset now s := after s.failed (reset now s.store)
  creation_time s := MessageStore.creation_time s.store

theorem apply_eq (s : Watched S) (operation : Operation) : operation.apply s = after s.failed (operation.apply s.store) := by
  cases operation <;> rfl

theorem looks {s : Watched S} {t : T} (looks : Looks s.store t) : Looks s t := ⟨looks.target,looks.sender,looks.created⟩

end Watched

/-- A session does not notice that its store is watched. -/
theorem watched_tracks : Tracks (fun _ : Watched S => False) (fun (s : Watched S) (t : S) => t = s.store) where
  looks s t same := same ▸ ⟨rfl,rfl,rfl⟩
  slices s t same first last := same ▸ rfl
  full s gone := gone.elim
  lasts s operation gone := gone
  steps s t operation same := by
    subst same
    rw [Watched.apply_eq]
    exact .inr ⟨rfl,rfl⟩

/-- What is related while nothing fails is tracked until something does. -/
theorem tracks_of {M : S → T → Prop} (looks : ∀ s t, M s t → Looks s t) (full : ∀ s : S, ∃ t : T, Looks s t)
    (slices : ∀ s t, M s t → ∀ first last, MessageStore.get_slice first last t = MessageStore.get_slice first last s)
    (steps : ∀ s t (operation : Operation) s', M s t → operation.apply s = (.ok (),s') →
      (operation.apply t).1 = .ok () ∧ M s' (operation.apply t).2) :
    Tracks (fun s : Watched S => s.failed = true) (fun (s : Watched S) (t : T) => s.failed = false ∧ M s.store t) where
  looks s t related := Watched.looks (looks s.store t related.2)
  slices s t related := slices s.store t related.2
  full s _ := (full s.store).imp (fun _ => Watched.looks)
  lasts s operation failed := by
    rw [Watched.apply_eq,failed]
    rfl
  steps s t operation related := by
    rw [Watched.apply_eq,related.1]
    rcases result : operation.apply s.store with ⟨e | _,s'⟩
    · exact .inl rfl
    · obtain ⟨done,later⟩ := steps s.store t operation s' related.2 result
      exact .inr ⟨done,rfl,later⟩

/-! ### Files and memory -/

section
variable {rfc : Rfc3339} {arith : Arith} {s s' : FileStore arith (Disk rfc)} {m : InMemoryMessageStore arith}

/-- Outside the order of a range too, files and memory give the same messages. -/
theorem mirrors_slice (mirrors : Mirrors s m) (first last : Nat) :
    MessageStore.get_slice first last m = MessageStore.get_slice first last s := by
  have opened : Files.open_body s.files = true := mirrors.level.linked
  simp only [MessageStore.get_slice,FileStore.read_messages,opened,if_true,mirrors.read,InMemoryMessageStore.get_slice]
  cases arith with
  | exact =>
    rw [FileStore.with_capacity]
    by_cases empty : last < first
    · simp only [if_pos empty]
      rfl
    · simp only [if_neg empty]
      rfl
  | wrapping =>
    rw [FileStore.with_capacity]
    by_cases large : (last + UInt64.size - first + 1) % UInt64.size * VEC_SIZE > ISIZE_MAX
    · simp only [if_pos large]
      rfl
    · simp only [if_neg large]
      rfl

/-- The creation time is kept until the store is reset. -/
theorem created_apply {operation : Operation} (same : m.creation_time = s.creation_time) (done : operation.apply s = (.ok (),s')) :
    (operation.apply m).2.creation_time = s'.creation_time := by
  cases operation with
  | add sequence_number message => exact same.trans (add_ok done).creation_time.symm
  | increment_sender_seq_number =>
    rw [update_ok done]
    exact same
  | increment_target_seq_number =>
    rw [update_ok done]
    exact same
  | set_target_seq_number seq_number =>
    rw [update_ok done]
    exact same
  | reset now => exact (reset_fresh done).creation_time.symm

theorem memory_ok (operation : Operation) : (operation.apply m).1 = .ok () := by
  cases operation <;> rfl

theorem files_track : Tracks (fun s : Watched (FileStore arith (Disk rfc)) => s.failed = true)
    (fun (s : Watched (FileStore arith (Disk rfc))) (m : InMemoryMessageStore arith) =>
      s.failed = false ∧ Mirrors s.store m ∧ m.creation_time = s.store.creation_time) := by
  refine tracks_of (M := fun s m => Mirrors s m ∧ m.creation_time = s.creation_time) (fun s m related => ?_) (fun s => ?_)
    (fun s m related => mirrors_slice related.1) (fun s m operation s' related done => ?_)
  · obtain ⟨mirrors,same⟩ := related
    exact ⟨congrArg (arith.add · 1) mirrors.target.symm,congrArg (arith.add · 1) mirrors.sender.symm,same⟩
  · exact ⟨⟨s.sender_seq_number,s.target_seq_number,s.creation_time,fun _ => none⟩,rfl,rfl,rfl⟩
  · exact ⟨memory_ok operation,related.1.apply done,created_apply related.2 done⟩

/-- Whatever a session over new files is given, it does what a session over memory does,
    with the same messages behind it, if no operation on its files has failed. -/
theorem files_as_memory {faults : Nat → FileFaults} {now : DateTime} (opened : FileStore.new rfc faults now Directory.empty = .ok s)
    (env : Env) (inputs : List Input) (fine : (final (run env inputs (World.initial (Watched.mk s false)))).store.failed = false) :
    returned (run env inputs (World.initial s)) =
      returned (run env inputs (World.initial (InMemoryMessageStore.new now : InMemoryMessageStore arith))) ∧
    (final (run env inputs (World.initial s))).state =
      (final (run env inputs (World.initial (InMemoryMessageStore.new now : InMemoryMessageStore arith)))).state ∧
    (final (run env inputs (World.initial s))).journal =
      (final (run env inputs (World.initial (InMemoryMessageStore.new now : InMemoryMessageStore arith)))).journal ∧
    Mirrors (final (run env inputs (World.initial s))).store
      (final (run env inputs (World.initial (InMemoryMessageStore.new now : InMemoryMessageStore arith)))).store := by
  have fresh := new_fresh opened
  have memory := (files_track.sessions env inputs (s := Watched.mk s false) (t := InMemoryMessageStore.new now)
    ⟨rfl,fresh.mirrors,fresh.creation_time.symm⟩).resolve_left (by rw [fine]; exact Bool.false_ne_true)
  have plain := (watched_tracks.sessions env inputs (s := Watched.mk s false) (t := s) rfl).resolve_left id
  obtain ⟨returns,beside⟩ := memory.ended
  obtain ⟨returns',beside'⟩ := plain.ended
  refine ⟨returns'.trans returns.symm,beside'.state.trans beside.state.symm,beside'.journal.trans beside.journal.symm,?_⟩
  rw [beside'.store]
  exact beside.store.2.1

end

/-- The peer logs on and asks for what it has missed. -/
def requested : Env := HotFix.Sample.valid [HotFix.Sample.logon,HotFix.Sample.resend_request 2 1 0]

def missed : List Input :=
  [HotFix.Sample.connect,HotFix.Sample.receive HotFix.Sample.logon,HotFix.Sample.receive (HotFix.Sample.resend_request 2 1 0)]

/-- None of the operations fails, and the files answer the request as memory does. -/
theorem missed_as_memory :
    (final (run requested missed (World.initial (Watched.mk Persistence.Sample.fresh false)))).store.failed = false ∧
    returned (run requested missed (World.initial Persistence.Sample.fresh)) =
      returned (run requested missed (World.initial (InMemoryMessageStore.new 0 : InMemoryMessageStore .exact))) ∧
    (final (run requested missed (World.initial Persistence.Sample.fresh))).state =
      (final (run requested missed (World.initial (InMemoryMessageStore.new 0 : InMemoryMessageStore .exact)))).state ∧
    (final (run requested missed (World.initial Persistence.Sample.fresh))).journal =
      (final (run requested missed (World.initial (InMemoryMessageStore.new 0 : InMemoryMessageStore .exact)))).journal ∧
    Mirrors (final (run requested missed (World.initial Persistence.Sample.fresh))).store
      (final (run requested missed (World.initial (InMemoryMessageStore.new 0 : InMemoryMessageStore .exact)))).store := by
  have fine : (final (run requested missed (World.initial (Watched.mk Persistence.Sample.fresh false)))).store.failed = false := by
    decide +kernel
  exact ⟨fine,files_as_memory Persistence.Sample.fresh_opened requested missed fine⟩

end HotFix.Backing
