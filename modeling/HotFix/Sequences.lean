import HotFix.MongoDb

/-!
Sequences in the document store over whole runs, with calls that are refused or whose
answer is lost, cleaning up, and closing and opening. Whatever fails, identifiers and keys
stay unique; the current sequence stays and every message belongs to a sequence, as long
as cleanings from outside spare it. A cleaning takes what belongs to old sequences and
nothing else.
-/
namespace HotFix.Sequences
open HotFix.Documents HotFix.MongoDb HotFix.Persistence MessageStore
variable {arith : Arith} {server : Server}

/-! ### Calls -/

section
variable {write : List Document → Option (List Document)} {c c' : Collection}

theorem call_done (done : c.call server write = (true,c')) :
    write c.documents = some c'.documents ∧ c'.handed_out = c.handed_out := by
  unfold Collection.call at done
  cases written : write c.documents with
  | none =>
    rw [written] at done
    cases done
  | some documents =>
    rw [written] at done
    cases fate : server.fates c.calls with
    | Done =>
      simp only [fate] at done
      cases done
      exact ⟨rfl,rfl⟩
    | _ =>
      simp only [fate] at done
      cases done

theorem call_failed (failed : c.call server write = (false,c')) : c'.handed_out = c.handed_out ∧
    (c'.documents = c.documents ∨ server.fates c.calls = .Lost ∧ write c.documents = some c'.documents) := by
  unfold Collection.call at failed
  cases written : write c.documents with
  | none =>
    rw [written] at failed
    cases failed
    exact ⟨rfl,.inl rfl⟩
  | some documents =>
    rw [written] at failed
    cases fate : server.fates c.calls with
    | Done =>
      simp only [fate] at failed
      cases failed
    | Refused =>
      simp only [fate] at failed
      cases failed
      exact ⟨rfl,.inl rfl⟩
    | Lost =>
      simp only [fate] at failed
      cases failed
      exact ⟨rfl,.inr ⟨rfl,rfl⟩⟩

/-- Answered or not, the write is done or nothing is. -/
theorem call_either {answered : Bool} (made : c.call server write = (answered,c')) : c'.handed_out = c.handed_out ∧
    (c'.documents = c.documents ∨ write c.documents = some c'.documents) := by
  cases answered with
  | true => exact ⟨(call_done made).2,.inr (call_done made).1⟩
  | false => exact ⟨(call_failed made).1,(call_failed made).2.imp id And.right⟩

end

/-! ### Order in the collection -/

/-- The identifiers of the sequences, and those of the sequences of the messages. -/
def roots (documents : List Document) : List ObjectId := documents.filterMap (fun d => d.sequence.map (·.object_id))
def homes (documents : List Document) : List ObjectId := documents.filterMap (fun d => d.message.map (·.sequence_id))

theorem mem_roots {documents : List Document} {id : ObjectId} :
    id ∈ roots documents ↔ ∃ stored, .Meta stored ∈ documents ∧ stored.object_id = id := by
  simp only [roots,List.mem_filterMap,Option.map_eq_some_iff]
  constructor
  · rintro ⟨document,member,stored,is_sequence,same⟩
    cases document with
    | Meta sequence =>
      cases is_sequence
      exact ⟨stored,member,same⟩
    | Message message => cases is_sequence
  · rintro ⟨stored,member,same⟩
    exact ⟨_,member,stored,rfl,same⟩

theorem mem_homes {documents : List Document} {id : ObjectId} :
    id ∈ homes documents ↔ ∃ message, .Message message ∈ documents ∧ message.sequence_id = id := by
  simp only [homes,List.mem_filterMap,Option.map_eq_some_iff]
  constructor
  · rintro ⟨document,member,message,is_message,same⟩
    cases document with
    | Meta sequence => cases is_message
    | Message stored =>
      cases is_message
      exact ⟨message,member,same⟩
  · rintro ⟨message,member,same⟩
    exact ⟨_,member,message,rfl,same⟩

/-- No two documents share an identifier, and no two messages a key. -/
structure Orderly (server : Server) (c : Collection) : Prop where
  unique : (c.documents.map Document.object_id).Nodup
  minted : ∀ id ∈ c.documents.map Document.object_id, ∃ k < c.handed_out, server.ids k = id
  keys : (c.documents.filterMap Document.key).Nodup

/-- Every message belongs to a sequence. -/
def Homed (c : Collection) : Prop := ∀ id ∈ homes c.documents, id ∈ roots c.documents

namespace Orderly
variable {c c' : Collection}

theorem empty (server : Server) : Orderly server ⟨[],0,0⟩ :=
  ⟨List.nodup_nil,List.forall_mem_nil _,List.nodup_nil⟩

/-- The next identifier is no document's yet. -/
theorem fresh (orderly : Orderly server c) (injective : Function.Injective server.ids) :
    server.ids c.handed_out ∉ c.documents.map Document.object_id := by
  intro taken
  obtain ⟨k,less,same⟩ := orderly.minted _ taken
  exact less.ne (injective same)

/-- Documents are changed in what does not identify them. -/
theorem changed (orderly : Orderly server c) (more : c.handed_out ≤ c'.handed_out)
    (ids : c'.documents.map Document.object_id = c.documents.map Document.object_id)
    (keys : c'.documents.filterMap Document.key = c.documents.filterMap Document.key) : Orderly server c' where
  unique := ids ▸ orderly.unique
  minted id member := by
    obtain ⟨k,less,same⟩ := orderly.minted id (ids ▸ member)
    exact ⟨k,less.trans_le more,same⟩
  keys := keys ▸ orderly.keys

theorem same (orderly : Orderly server c) (documents : c'.documents = c.documents) (more : c.handed_out ≤ c'.handed_out) :
    Orderly server c' :=
  orderly.changed more (by rw [documents]) (by rw [documents])

/-- A document is added under the next identifier. -/
theorem added (orderly : Orderly server c) (injective : Function.Injective server.ids) {document : Document}
    (id : document.object_id = server.ids c.handed_out) (documents : c'.documents = c.documents ++ [document])
    (handed_out : c'.handed_out = c.handed_out + 1) (key : ∀ k ∈ c.documents.filterMap Document.key, document.key ≠ some k) :
    Orderly server c' := by
  constructor
  · rw [documents,List.map_append,List.map_singleton,List.nodup_append_comm]
    exact List.nodup_cons.mpr ⟨id ▸ orderly.fresh injective,orderly.unique⟩
  · rw [documents,handed_out,List.map_append]
    intro i member
    rcases List.mem_append.mp member with before | last
    · obtain ⟨k,less,same⟩ := orderly.minted i before
      exact ⟨k,by omega,same⟩
    · exact ⟨c.handed_out,by omega,(List.mem_singleton.mp last).trans id |>.symm⟩
  · rw [documents,List.filterMap_append,List.nodup_append_comm]
    cases keyed : document.key with
    | none =>
      rw [List.filterMap_cons_none keyed]
      exact orderly.keys
    | some k =>
      rw [List.filterMap_cons_some keyed]
      exact List.nodup_cons.mpr ⟨fun member => key k member keyed,orderly.keys⟩

/-- Documents are deleted. -/
theorem thinned (orderly : Orderly server c) {keep : Document → Bool} (documents : c'.documents = c.documents.filter keep)
    (handed_out : c'.handed_out = c.handed_out) : Orderly server c' where
  unique := documents ▸ orderly.unique.sublist (List.filter_sublist.map _)
  minted id member := by
    rw [handed_out]
    rw [documents] at member
    exact orderly.minted id ((List.filter_sublist.map _).subset member)
  keys := documents ▸ orderly.keys.sublist (List.filter_sublist.filterMap _)

/-- The sequence with an identifier is the document that a search by it finds. -/
theorem find_sequence (orderly : Orderly server c) {stored : MetaDocument} (member : .Meta stored ∈ c.documents) :
    c.documents.find? (fun document => document.object_id = stored.object_id) = some (.Meta stored) :=
  @find_unique _ _ _ Document.object_id _ orderly.unique _ member

end Orderly

/-! ### Operations -/

/-- How a sequence is stored. -/
def written (sequence : SequenceMeta) : MetaDocument :=
  ⟨sequence.object_id,sequence.creation_time,as_i64 sequence.sender_seq_number,as_i64 sequence.target_seq_number⟩

/-- The sequence that is begun next. -/
def opening (server : Server) (now : DateTime) (c : Collection) : SequenceMeta := ⟨server.ids c.handed_out,millis now,0,0⟩

/-- The document of a message of a sequence. -/
def filed (sequence_id : ObjectId) (sequence_number : Nat) (message : Bytes) (object_id : ObjectId) : Document :=
  .Message ⟨object_id,sequence_id,sequence_number,message⟩

/-- What an operation writes. -/
def writes (s : MongoDbMessageStore arith server) (operation : Operation) (documents : List Document) :
    Option (List Document) :=
  let current := s.current_sequence.object_id
  match operation with
  | .add n message =>
    if n < I64_END then
      some (replace_one (current,as_i64 n) (filed current n message) (server.ids s.collection.handed_out) documents)
    else none
  | .increment_sender_seq_number => update_one current (fun stored =>
      (MongoDbMessageStore.inc stored.sender_seq_number).map (fun n => { stored with sender_seq_number := n })) documents
  | .increment_target_seq_number => update_one current (fun stored =>
      (MongoDbMessageStore.inc stored.target_seq_number).map (fun n => { stored with target_seq_number := n })) documents
  | .set_target_seq_number n => update_one current (fun stored => some { stored with target_seq_number := as_i64 n }) documents
  | .reset now => some (documents ++ [.Meta (written (opening server now s.collection))])

/-- The current sequence after an operation. -/
def turned (s : MongoDbMessageStore arith server) : Operation → SequenceMeta
  | .add _ _ => s.current_sequence
  | .increment_sender_seq_number =>
    { s.current_sequence with sender_seq_number := arith.add s.current_sequence.sender_seq_number 1 }
  | .increment_target_seq_number =>
    { s.current_sequence with target_seq_number := arith.add s.current_sequence.target_seq_number 1 }
  | .set_target_seq_number n => { s.current_sequence with target_seq_number := n }
  | .reset now => opening server now s.collection

/-- The operations that take the next identifier. -/
def Takes : Operation → Prop
  | .add n _ => n < I64_END
  | .reset _ => True
  | _ => False

/-- The operation writes and goes on, or fails; then its answer may be lost. -/
structure Tries (s : MongoDbMessageStore arith server) (operation : Operation) (r : Except StoreError Unit)
    (s' : MongoDbMessageStore arith server) : Prop where
  handed_out : s'.collection.handed_out = s.collection.handed_out ∧ ¬ Takes operation ∨
    s'.collection.handed_out = s.collection.handed_out + 1 ∧ Takes operation
  outcome : r = .ok () ∧ writes s operation s.collection.documents = some s'.collection.documents ∧
      s'.current_sequence = turned s operation ∨
    (∃ e, r = .error e) ∧ s'.current_sequence = s.current_sequence ∧
      (s'.collection.documents = s.collection.documents ∨ (∃ k, server.fates k = .Lost) ∧
        writes s operation s.collection.documents = some s'.collection.documents)

section
variable {s s' : MongoDbMessageStore arith server} {r : Except StoreError Unit}

/-- An operation that makes one call on a collection that has the documents of the store. -/
theorem tries_of_call {operation : Operation} {c c' : Collection} {answered : Bool} (e : StoreError)
    (called : c.call server (writes s operation) = (answered,c')) (documents : c.documents = s.collection.documents)
    (handed_out : c.handed_out = s.collection.handed_out ∧ ¬ Takes operation ∨
      c.handed_out = s.collection.handed_out + 1 ∧ Takes operation) :
    Tries s operation (if answered then .ok () else .error e) ⟨c',if answered then turned s operation else s.current_sequence⟩ := by
  cases answered with
  | true =>
    obtain ⟨done,kept⟩ := call_done called
    rw [documents] at done
    exact ⟨kept ▸ handed_out,.inl ⟨rfl,done,rfl⟩⟩
  | false =>
    obtain ⟨kept,failed⟩ := call_failed called
    rw [documents] at failed
    exact ⟨kept ▸ handed_out,.inr ⟨⟨e,rfl⟩,rfl,failed.imp id (fun lost => ⟨⟨_,lost.1⟩,lost.2⟩)⟩⟩

theorem new_sequence_of_call {now : DateTime} {c c' : Collection} {answered : Bool}
    (called : c.hand_out.call server (fun documents => some (documents ++ [.Meta (written (opening server now c))])) =
      (answered,c')) :
    MongoDbMessageStore.new_sequence server now c = (if answered then some (opening server now c) else none,c') := by
  have stored : (⟨server.ids c.handed_out,millis now,0,0⟩ : MetaDocument) = written (opening server now c) := rfl
  unfold MongoDbMessageStore.new_sequence
  simp only [stored,called]
  cases answered <;> rfl

theorem apply_tries {operation : Operation} (applied : operation.apply s = (r,s')) : Tries s operation r s' := by
  cases operation with
  | add n message =>
    change MongoDbMessageStore.add n message s = _ at applied
    by_cases small : n < I64_END
    · have write : writes s (.add n message) = fun documents => some (replace_one (s.current_sequence.object_id,as_i64 n)
          (filed s.current_sequence.object_id n message) (server.ids s.collection.handed_out) documents) :=
        funext (fun _ => if_pos small)
      rcases called : s.collection.hand_out.call server (writes s (.add n message)) with ⟨answered,c'⟩
      have tries := tries_of_call (.PersistMessage n) called rfl (.inr ⟨rfl,small⟩)
      rw [write] at called
      unfold filed at called
      simp only [MongoDbMessageStore.add,if_pos small,called] at applied
      cases answered <;> cases applied <;> exact tries
    · rw [MongoDbMessageStore.add,if_neg small] at applied
      cases applied
      exact ⟨.inl ⟨rfl,small⟩,.inr ⟨⟨_,rfl⟩,rfl,.inl rfl⟩⟩
  | increment_sender_seq_number =>
    change MongoDbMessageStore.increment_sender_seq_number s = _ at applied
    rcases called : s.collection.call server (writes s .increment_sender_seq_number) with ⟨answered,c'⟩
    have tries := tries_of_call .UpdateSequenceNumber called rfl (.inl ⟨rfl,id⟩)
    rw [MongoDbMessageStore.increment_sender_seq_number,show s.update_current _ = (answered,c') from called] at applied
    cases answered <;> cases applied <;> exact tries
  | increment_target_seq_number =>
    change MongoDbMessageStore.increment_target_seq_number s = _ at applied
    rcases called : s.collection.call server (writes s .increment_target_seq_number) with ⟨answered,c'⟩
    have tries := tries_of_call .UpdateSequenceNumber called rfl (.inl ⟨rfl,id⟩)
    rw [MongoDbMessageStore.increment_target_seq_number,show s.update_current _ = (answered,c') from called] at applied
    cases answered <;> cases applied <;> exact tries
  | set_target_seq_number n =>
    change MongoDbMessageStore.set_target_seq_number n s = _ at applied
    rcases called : s.collection.call server (writes s (.set_target_seq_number n)) with ⟨answered,c'⟩
    have tries := tries_of_call .UpdateSequenceNumber called rfl (.inl ⟨rfl,id⟩)
    rw [MongoDbMessageStore.set_target_seq_number,show s.update_current _ = (answered,c') from called] at applied
    cases answered <;> cases applied <;> exact tries
  | reset now =>
    change MongoDbMessageStore.reset now s = _ at applied
    rcases called : s.collection.hand_out.call server (writes s (.reset now)) with ⟨answered,c'⟩
    have tries := tries_of_call .Reset called rfl (.inr ⟨rfl,trivial⟩)
    rw [MongoDbMessageStore.reset,new_sequence_of_call called] at applied
    cases answered <;> cases applied <;> exact tries

end

/-! ### Whatever fails -/

section
variable {c c' : Collection}

/-- What an update of a sequence writes. -/
theorem update_one_cases {id : ObjectId} {change : MetaDocument → Option MetaDocument} {documents : List Document}
    (updated : update_one id change c.documents = some documents) :
    documents = c.documents ∨ ∃ stored changed, .Meta stored ∈ c.documents ∧ stored.object_id = id ∧
      change stored = some changed ∧
      documents = update_first (fun document => document.object_id = id) (fun _ => .Meta changed) c.documents := by
  unfold update_one at updated
  cases found : c.documents.find? (fun document => document.object_id = id) with
  | none =>
    rw [found] at updated
    cases updated
    exact .inl rfl
  | some document =>
    have member := List.mem_of_find?_eq_some found
    have same : document.object_id = id := by simpa using List.find?_some found
    cases document with
    | Message message =>
      rw [found] at updated
      cases updated
      exact .inl rfl
    | Meta stored =>
      rw [found] at updated
      obtain ⟨changed,allowed,rfl⟩ := Option.map_eq_some_iff.mp updated
      exact .inr ⟨stored,changed,member,same,allowed,rfl⟩

/-- The collection stays in order, no sequence is lost, and new messages belong to one
    sequence. -/
structure Kept (server : Server) (c c' : Collection) (current : Option ObjectId) : Prop where
  orderly : Orderly server c'
  rooted : ∀ id ∈ roots c.documents, id ∈ roots c'.documents
  placed : ∀ id ∈ homes c'.documents, id ∈ homes c.documents ∨ current = some id

/-- While that sequence is stored, every message belongs to one that is. -/
theorem Kept.homed {current : Option ObjectId} (kept : Kept server c c' current)
    (there : ∀ id, current = some id → id ∈ roots c.documents) (homed : Homed c) : Homed c' := by
  intro id member
  rcases kept.placed id member with before | same
  · exact kept.rooted id (homed id before)
  · exact kept.rooted id (there id same)

theorem Orderly.kept_same (orderly : Orderly server c) {current : Option ObjectId} (documents : c'.documents = c.documents)
    (more : c.handed_out ≤ c'.handed_out) : Kept server c c' current :=
  ⟨orderly.same documents more,fun _ member => documents ▸ member,fun _ member => .inl (documents ▸ member)⟩

theorem Orderly.kept_added (orderly : Orderly server c) (injective : Function.Injective server.ids) {document : Document}
    {current : Option ObjectId} (id : document.object_id = server.ids c.handed_out)
    (documents : c'.documents = c.documents ++ [document]) (handed_out : c'.handed_out = c.handed_out + 1)
    (key : ∀ k ∈ c.documents.filterMap Document.key, document.key ≠ some k)
    (home : ∀ message, document.message = some message → current = some message.sequence_id) : Kept server c c' current := by
  refine ⟨orderly.added injective id documents handed_out key,fun i member => ?_,fun i member => ?_⟩
  · rw [documents,roots,List.filterMap_append]
    exact List.mem_append_left _ member
  · rw [documents,homes,List.filterMap_append] at member
    rcases List.mem_append.mp member with before | last
    · exact .inl before
    · simp only [List.mem_filterMap,List.mem_singleton,exists_eq_left,Option.map_eq_some_iff] at last
      obtain ⟨message,is_message,rfl⟩ := last
      exact .inr (home message is_message)

/-- A sequence is changed in nothing but its numbers. -/
theorem Orderly.kept_updated (orderly : Orderly server c) {id : ObjectId} {change : MetaDocument → Option MetaDocument}
    {current : Option ObjectId} (same : ∀ stored changed, change stored = some changed → changed.object_id = stored.object_id)
    (updated : update_one id change c.documents = some c'.documents) (more : c.handed_out ≤ c'.handed_out) :
    Kept server c c' current := by
  rcases update_one_cases updated with unchanged | ⟨stored,changed,member,here,allowed,documents⟩
  · exact orderly.kept_same unchanged more
  · have only : ∀ document ∈ c.documents, decide (document.object_id = id) = true → document = .Meta stored := by
      intro document inside passes
      have found := orderly.find_sequence member
      have again := @find_unique _ _ _ Document.object_id _ orderly.unique _ inside
      have equal : document.object_id = stored.object_id := (of_decide_eq_true passes).trans here.symm
      rw [equal,found] at again
      exact (Option.some.inj again).symm
    have ids : c'.documents.map Document.object_id = c.documents.map Document.object_id := by
      rw [documents]
      exact map_update_first (fun d inside passes => (same stored changed allowed).trans (by rw [only d inside passes]; rfl))
    have kept {β : Type} (g : Document → Option β) (equal : g (.Meta changed) = g (.Meta stored)) :
        c'.documents.filterMap g = c.documents.filterMap g := by
      rw [documents]
      exact filterMap_update_first (fun d inside passes => by rw [only d inside passes]; exact equal)
    have root : (Document.Meta changed).sequence.map (·.object_id) = (Document.Meta stored).sequence.map (·.object_id) :=
      congrArg some (same stored changed allowed)
    have rooted : roots c'.documents = roots c.documents := kept _ root
    have placed : homes c'.documents = homes c.documents := kept _ rfl
    exact ⟨orderly.changed more ids (kept _ rfl),fun i inside => rooted ▸ inside,fun i inside => .inl (placed ▸ inside)⟩

/-- A message is written under a key of a sequence. -/
theorem Orderly.kept_replaced (orderly : Orderly server c) (injective : Function.Injective server.ids) {id : ObjectId}
    (n : Nat) (message : Bytes) (small : n < I64_END)
    (documents : c'.documents = replace_one (id,as_i64 n) (filed id n message) (server.ids c.handed_out) c.documents)
    (handed_out : c'.handed_out = c.handed_out + 1) : Kept server c c' (some id) := by
  have number : as_i64 n = n := if_pos small
  have key (object_id : ObjectId) : (filed id n message object_id).key = some (id,as_i64 n) := by
    rw [number]
    rfl
  unfold replace_one at documents
  split_ifs at documents with held
  · have home (document : Document) (passes : decide (document.key = some (id,as_i64 n)) = true) :
        ∃ old, document = .Message old ∧ old.sequence_id = id := by
      have keyed := of_decide_eq_true passes
      cases document with
      | Meta stored => cases keyed
      | Message old => exact ⟨old,rfl,congrArg Prod.fst (Option.some.inj keyed)⟩
    have kept {β : Type} (g : Document → Option β) (equal : ∀ old : MongoDb.Message, old.sequence_id = id →
        (Document.Message old).key = some (id,as_i64 n) → g (filed id n message old.object_id) = g (.Message old)) :
        c'.documents.filterMap g = c.documents.filterMap g := by
      rw [documents]
      refine filterMap_update_first (fun d _ passes => ?_)
      obtain ⟨old,rfl,same⟩ := home d passes
      exact equal old same (of_decide_eq_true passes)
    have ids : c'.documents.map Document.object_id = c.documents.map Document.object_id := by
      rw [documents]
      exact map_update_first (fun _ _ _ => rfl)
    have rooted : roots c'.documents = roots c.documents := kept _ (fun _ _ _ => rfl)
    have placed : homes c'.documents = homes c.documents := kept _ (fun old same _ => congrArg some same.symm)
    exact ⟨orderly.changed (by omega) ids (kept _ (fun old _ keyed => (key _).trans keyed.symm)),fun i inside => rooted ▸ inside,
      fun i inside => .inl (placed ▸ inside)⟩
  · refine orderly.kept_added injective rfl documents handed_out (fun k inside keyed => held ?_) (fun stored is_message => ?_)
    · obtain ⟨document,member,same⟩ := List.mem_filterMap.mp inside
      rw [key] at keyed
      exact List.any_eq_true.mpr ⟨document,member,decide_eq_true (same.trans keyed.symm)⟩
    · cases is_message
      rfl

theorem writes_kept {s s' : MongoDbMessageStore arith server} {operation : Operation} (orderly : Orderly server s.collection)
    (injective : Function.Injective server.ids)
    (wrote : writes s operation s.collection.documents = some s'.collection.documents)
    (handed_out : s'.collection.handed_out = s.collection.handed_out ∧ ¬ Takes operation ∨
      s'.collection.handed_out = s.collection.handed_out + 1 ∧ Takes operation) :
    Kept server s.collection s'.collection (some s.current_sequence.object_id) := by
  have more : s.collection.handed_out ≤ s'.collection.handed_out := by omega
  cases operation with
  | add n message =>
    unfold writes at wrote
    dsimp only at wrote
    split_ifs at wrote with small
    rcases handed_out with ⟨_,takes⟩ | ⟨taken,_⟩
    · exact absurd small takes
    · exact orderly.kept_replaced injective n message small (Option.some.inj wrote).symm taken
  | increment_sender_seq_number =>
    refine orderly.kept_updated (fun stored changed allowed => ?_) wrote more
    obtain ⟨_,_,rfl⟩ := Option.map_eq_some_iff.mp allowed
    rfl
  | increment_target_seq_number =>
    refine orderly.kept_updated (fun stored changed allowed => ?_) wrote more
    obtain ⟨_,_,rfl⟩ := Option.map_eq_some_iff.mp allowed
    rfl
  | set_target_seq_number n =>
    refine orderly.kept_updated (fun stored changed allowed => ?_) wrote more
    cases allowed
    rfl
  | reset now =>
    rcases handed_out with ⟨_,takes⟩ | ⟨taken,_⟩
    · exact absurd trivial takes
    · exact orderly.kept_added injective rfl (Option.some.inj wrote).symm taken (fun _ _ keyed => by cases keyed)
        (fun _ is_message => by cases is_message)

theorem apply_kept {s s' : MongoDbMessageStore arith server} {operation : Operation} {r : Except StoreError Unit}
    (orderly : Orderly server s.collection) (injective : Function.Injective server.ids) (tries : Tries s operation r s') :
    Kept server s.collection s'.collection (some s.current_sequence.object_id) ∧
      (s.current_sequence.object_id ∈ roots s.collection.documents →
        s'.current_sequence.object_id ∈ roots s'.collection.documents) := by
  obtain ⟨handed_out,outcome⟩ := tries
  have kept : Kept server s.collection s'.collection (some s.current_sequence.object_id) := by
    rcases outcome with ⟨_,wrote,_⟩ | ⟨_,_,same | ⟨_,wrote⟩⟩
    · exact writes_kept orderly injective wrote handed_out
    · exact orderly.kept_same same (by omega)
    · exact writes_kept orderly injective wrote handed_out
  refine ⟨kept,fun there => ?_⟩
  rcases outcome with ⟨_,wrote,current⟩ | ⟨_,current,_⟩
  · cases operation with
    | reset now =>
      rw [current,← Option.some.inj wrote]
      exact mem_roots.mpr ⟨_,List.mem_append_right _ (List.mem_singleton.mpr rfl),rfl⟩
    | _ =>
      rw [current]
      exact kept.rooted _ there
  · rw [current]
    exact kept.rooted _ there

end

/-! ### Cleaning up -/

section
variable {c c' : Collection} {cutoff : Int} {exclude_id : Option ObjectId}

/-- The sequence that a document is or belongs to. -/
def home : Document → ObjectId
  | .Meta stored => stored.object_id
  | .Message message => message.sequence_id

/-- A sequence that was begun before the cutoff and is not excluded. -/
def Outdated (c : Collection) (cutoff : Int) (exclude_id : Option ObjectId) (id : ObjectId) : Prop :=
  ∃ stored, .Meta stored ∈ c.documents ∧ stored.object_id = id ∧ stored.creation_time < cutoff ∧ some id ≠ exclude_id

/-- Only what belongs to outdated sequences goes. -/
structure Cleaned (server : Server) (c c' : Collection) (cutoff : Int) (exclude_id : Option ObjectId) : Prop where
  handed_out : c'.handed_out = c.handed_out
  orderly : Orderly server c'
  homed : Homed c → Homed c'
  within : ∀ document ∈ c'.documents, document ∈ c.documents
  spared : ∀ document ∈ c.documents, ¬ Outdated c cutoff exclude_id (home document) → document ∈ c'.documents

theorem Cleaned.same (orderly : Orderly server c) (handed_out : c'.handed_out = c.handed_out)
    (documents : c'.documents = c.documents) : Cleaned server c c' cutoff exclude_id :=
  ⟨handed_out,orderly.same documents handed_out.ge,fun homed id member => documents ▸ homed id (documents ▸ member),
    fun _ member => documents ▸ member,fun _ member _ => documents ▸ member⟩

theorem read_id {stored : MetaDocument} {sequence : SequenceMeta} (read : stored.read = some sequence) :
    sequence.object_id = stored.object_id := by
  unfold MetaDocument.read at read
  split_ifs at read
  cases read
  rfl

theorem read_ids {found : List MetaDocument} : ∀ {sequences : List SequenceMeta},
    found.mapM MetaDocument.read = some sequences → sequences.map (·.object_id) = found.map (·.object_id) := by
  induction found with
  | nil =>
    intro sequences read
    cases read
    rfl
  | cons stored rest ih =>
    intro sequences read
    rw [List.mapM_cons] at read
    obtain ⟨sequence,first,read⟩ := Option.bind_eq_some_iff.mp read
    obtain ⟨others,later,same⟩ := Option.bind_eq_some_iff.mp read
    cases same
    simp only [List.map_cons,read_id first,ih later]

/-- The identifiers of the outdated sequences, each once. -/
structure Lists (c : Collection) (cutoff : Int) (exclude_id : Option ObjectId) (ids : List ObjectId) : Prop where
  once : ids.Nodup
  outdated : ∀ id, id ∈ ids ↔ Outdated c cutoff exclude_id id

theorem roots_eq (documents : List Document) :
    (documents.filterMap Document.sequence).map (·.object_id) = roots documents := by
  unfold roots
  rw [List.map_filterMap]

theorem roots_sublist (documents : List Document) : (roots documents).Sublist (documents.map Document.object_id) := by
  induction documents with
  | nil => exact .slnil
  | cons document rest ih =>
    cases document with
    | Meta stored => exact ih.cons_cons _
    | Message message => exact ih.cons _

theorem Orderly.lists (orderly : Orderly server c) (scans : ∀ documents, (server.scan documents).Perm documents)
    {sequences : List SequenceMeta}
    (read : ((server.scan (c.documents.filter (fun document => document.sequence.any (fun stored =>
      decide (stored.creation_time < cutoff ∧ some stored.object_id ≠ exclude_id))))).filterMap Document.sequence).mapM
        MetaDocument.read = some sequences) : Lists c cutoff exclude_id (sequences.map (·.object_id)) := by
  have perm := (scans (c.documents.filter (fun document => document.sequence.any (fun stored =>
    decide (stored.creation_time < cutoff ∧ some stored.object_id ≠ exclude_id))))).filterMap (fun d => d.sequence.map (·.object_id))
  rw [read_ids read,roots_eq]
  refine ⟨perm.nodup_iff.mpr ?_,fun id => perm.mem_iff.trans ?_⟩
  · exact (roots_sublist _).nodup (orderly.unique.sublist (List.filter_sublist.map _))
  · refine mem_roots.trans (exists_congr (fun stored => ?_))
    simp only [List.mem_filter,Document.sequence,Option.any_some,decide_eq_true_eq]
    constructor
    · rintro ⟨⟨member,before,other⟩,rfl⟩
      exact ⟨member,rfl,before,other⟩
    · rintro ⟨member,rfl,before,other⟩
      exact ⟨⟨member,before,other⟩,rfl⟩

/-- The documents that stay when the messages of sequences are deleted, and those that
    stay when the sequences are deleted too. -/
def without_messages (ids : List ObjectId) (documents : List Document) : List Document :=
  documents.filter (fun document => !document.message.any (fun message => decide (message.sequence_id ∈ ids)))
def without_sequences (ids : List ObjectId) (documents : List Document) : List Document :=
  documents.filter (fun document => !decide (document.object_id ∈ ids))

theorem mem_without_messages {ids : List ObjectId} {documents : List Document} {document : Document} :
    document ∈ without_messages ids documents ↔
      document ∈ documents ∧ ∀ message, document = .Message message → message.sequence_id ∉ ids := by
  unfold without_messages
  rw [List.mem_filter]
  refine and_congr_right (fun _ => ?_)
  cases document <;> simp [Document.message]

theorem mem_without_sequences {ids : List ObjectId} {documents : List Document} {document : Document} :
    document ∈ without_sequences ids documents ↔ document ∈ documents ∧ document.object_id ∉ ids := by
  simp [without_sequences]

/-- No message has the identifier of a sequence. -/
theorem Orderly.apart (orderly : Orderly server c) {stored : MetaDocument} {message : MongoDb.Message}
    (sequence : .Meta stored ∈ c.documents) (member : .Message message ∈ c.documents) : message.object_id ≠ stored.object_id := by
  intro same
  have found := orderly.find_sequence sequence
  have again := @find_unique _ _ _ Document.object_id _ orderly.unique _ member
  rw [show (Document.Message message).object_id = stored.object_id from same,found] at again
  cases again

theorem Orderly.without_messages (orderly : Orderly server c) {ids : List ObjectId} (lists : Lists c cutoff exclude_id ids)
    (handed_out : c'.handed_out = c.handed_out) (documents : c'.documents = without_messages ids c.documents) :
    Cleaned server c c' cutoff exclude_id := by
  refine ⟨handed_out,orderly.thinned documents handed_out,fun homed id member => ?_,?_,?_⟩
  · obtain ⟨message,inside,rfl⟩ := mem_homes.mp member
    rw [documents,mem_without_messages] at inside
    obtain ⟨stored,sequence,same⟩ := mem_roots.mp (homed _ (mem_homes.mpr ⟨message,inside.1,rfl⟩))
    refine mem_roots.mpr ⟨stored,?_,same⟩
    rw [documents,mem_without_messages]
    exact ⟨sequence,fun _ other => by cases other⟩
  · intro document member
    rw [documents,mem_without_messages] at member
    exact member.1
  · intro document member current
    rw [documents,mem_without_messages]
    refine ⟨member,fun message is_message listed => current ?_⟩
    rw [is_message]
    exact (lists.outdated _).mp listed

theorem Orderly.without_sequences (orderly : Orderly server c) {ids : List ObjectId} (lists : Lists c cutoff exclude_id ids)
    (handed_out : c'.handed_out = c.handed_out)
    (documents : c'.documents = without_sequences ids (Sequences.without_messages ids c.documents)) :
    Cleaned server c c' cutoff exclude_id := by
  have left (document : Document) : document ∈ c'.documents ↔
      (document ∈ c.documents ∧ ∀ message, document = .Message message → message.sequence_id ∉ ids) ∧ document.object_id ∉ ids := by
    rw [documents,mem_without_sequences,mem_without_messages]
  refine ⟨handed_out,orderly.thinned (documents.trans List.filter_filter) handed_out,fun homed id member => ?_,?_,?_⟩
  · obtain ⟨message,inside,rfl⟩ := mem_homes.mp member
    obtain ⟨⟨there,other⟩,-⟩ := (left _).mp inside
    obtain ⟨stored,sequence,same⟩ := mem_roots.mp (homed _ (mem_homes.mpr ⟨message,there,rfl⟩))
    refine mem_roots.mpr ⟨stored,(left _).mpr ⟨⟨sequence,fun _ wrong => by cases wrong⟩,?_⟩,same⟩
    exact fun listed => other message rfl (same ▸ listed)
  · exact fun document member => ((left document).mp member).1.1
  · intro document member current
    refine (left document).mpr ⟨⟨member,fun message is_message listed => current ?_⟩,fun listed => current ?_⟩
    · rw [is_message]
      exact (lists.outdated _).mp listed
    · obtain ⟨stored,sequence,same,before,other⟩ := (lists.outdated _).mp listed
      cases document with
      | Meta _ => exact ⟨stored,sequence,same,before,other⟩
      | Message message => exact absurd same.symm (orderly.apart sequence member)

/-- As many documents have the identifier of an outdated sequence as there are such
    sequences. -/
theorem Orderly.count (orderly : Orderly server c) {ids : List ObjectId} (lists : Lists c cutoff exclude_id ids) :
    (Sequences.without_messages ids c.documents).countP (fun document => decide (document.object_id ∈ ids)) = ids.length := by
  have perm : (((Sequences.without_messages ids c.documents).map Document.object_id).filter (fun id => decide (id ∈ ids))).Perm ids := by
    refine (List.perm_ext_iff_of_nodup ?_ lists.once).mpr (fun id => ?_)
    · exact (orderly.unique.sublist (List.filter_sublist.map _)).filter _
    · rw [List.mem_filter,decide_eq_true_eq]
      refine ⟨And.right,fun listed => ⟨?_,listed⟩⟩
      obtain ⟨stored,sequence,same,-⟩ := (lists.outdated id).mp listed
      exact List.mem_map.mpr ⟨_,mem_without_messages.mpr ⟨sequence,fun _ other => by cases other⟩,same⟩
  rw [← perm.length_eq,← List.countP_eq_length_filter,List.countP_map]
  rfl

/-- However it ends, a cleaning takes only what belongs to outdated sequences; if it
    succeeds, it takes all of that and says how many sequences went. -/
theorem cleanup_cleans {r : Except StoreError Nat} (orderly : Orderly server c)
    (scans : ∀ documents, (server.scan documents).Perm documents)
    (cleaned : cleanup_older_than_inner server cutoff exclude_id c = (r,c')) : Cleaned server c c' cutoff exclude_id ∧
      ∀ n, r = .ok n → ∃ ids, Lists c cutoff exclude_id ids ∧ n = ids.length ∧
        ∀ document ∈ c'.documents, ¬ Outdated c cutoff exclude_id (home document) := by
  unfold cleanup_older_than_inner at cleaned
  dsimp only at cleaned
  rcases first : c.call server some with ⟨_ | _,c₁⟩
  · rw [first] at cleaned
    cases cleaned
    obtain ⟨kept,same | ⟨_,same⟩⟩ := call_failed first
    · exact ⟨.same orderly kept same,fun _ wrong => by cases wrong⟩
    · exact ⟨.same orderly kept (Option.some.inj same).symm,fun _ wrong => by cases wrong⟩
  · obtain ⟨same,kept⟩ := call_done first
    have documents₁ : c₁.documents = c.documents := (Option.some.inj same).symm
    rw [first] at cleaned
    dsimp only at cleaned
    rw [documents₁] at cleaned
    cases read : ((server.scan (c.documents.filter (fun document => document.sequence.any (fun stored =>
        decide (stored.creation_time < cutoff ∧ some stored.object_id ≠ exclude_id))))).filterMap Document.sequence).mapM
          MetaDocument.read with
    | none =>
      rw [read] at cleaned
      cases cleaned
      exact ⟨.same orderly kept documents₁,fun _ wrong => by cases wrong⟩
    | some sequences =>
      have lists := orderly.lists scans read
      rw [read] at cleaned
      dsimp only at cleaned
      split_ifs at cleaned with nobody
      · cases cleaned
        refine ⟨.same orderly kept documents₁,fun n none_deleted => ?_⟩
        cases none_deleted
        refine ⟨_,lists,by rw [nobody]; rfl,fun document _ outdated => ?_⟩
        have listed := (lists.outdated _).mpr outdated
        rw [nobody] at listed
        cases listed
      · rcases second : c₁.call server (fun documents => some (documents.filter (fun document => !document.message.any
            (fun message => decide (message.sequence_id ∈ sequences.map (·.object_id)))))) with ⟨_ | _,c₂⟩
        · rw [second] at cleaned
          cases cleaned
          obtain ⟨kept₂,failed⟩ := call_failed second
          refine ⟨?_,fun _ wrong => by cases wrong⟩
          rcases failed with same | ⟨_,same⟩
          · exact .same orderly (kept₂.trans kept) (same.trans documents₁)
          · exact orderly.without_messages lists (kept₂.trans kept) ((Option.some.inj same).symm.trans (documents₁ ▸ rfl))
        · rw [second] at cleaned
          dsimp only at cleaned
          obtain ⟨same,kept₂⟩ := call_done second
          have documents₂ : c₂.documents = without_messages (sequences.map (·.object_id)) c.documents :=
            (Option.some.inj same).symm.trans (documents₁ ▸ rfl)
          rcases third : c₂.call server (fun documents => some (documents.filter (fun document =>
              !decide (document.object_id ∈ sequences.map (·.object_id))))) with ⟨_ | _,c₃⟩
          · rw [third] at cleaned
            cases cleaned
            obtain ⟨kept₃,failed⟩ := call_failed third
            refine ⟨?_,fun _ wrong => by cases wrong⟩
            rcases failed with same | ⟨_,same⟩
            · exact orderly.without_messages lists (kept₃.trans (kept₂.trans kept)) (same.trans documents₂)
            · exact orderly.without_sequences lists (kept₃.trans (kept₂.trans kept))
                ((Option.some.inj same).symm.trans (documents₂ ▸ rfl))
          · rw [third] at cleaned
            cases cleaned
            obtain ⟨same,kept₃⟩ := call_done third
            have documents₃ : c'.documents =
                without_sequences (sequences.map (·.object_id)) (without_messages (sequences.map (·.object_id)) c.documents) :=
              (Option.some.inj same).symm.trans (documents₂ ▸ rfl)
            refine ⟨orderly.without_sequences lists (kept₃.trans (kept₂.trans kept)) documents₃,fun n counted => ?_⟩
            cases counted
            refine ⟨_,lists,?_,fun document member outdated => ?_⟩
            · rw [documents₂]
              exact orderly.count lists
            · rw [documents₃,mem_without_sequences,mem_without_messages] at member
              have listed := (lists.outdated _).mpr outdated
              cases document with
              | Meta stored => exact member.2 listed
              | Message message => exact member.1.2 message rfl listed

end

/-! ### Opening -/

section
variable {c c' : Collection} {now : DateTime}

theorem latest_stored {stored : MetaDocument} (latest : c.latest = some stored) : .Meta stored ∈ c.documents := by
  obtain ⟨document,inside,is_sequence⟩ := List.mem_filterMap.mp (List.argmax_mem latest)
  cases document with
  | Meta sequence =>
    cases is_sequence
    exact inside
  | Message message => cases is_sequence

/-- How the current sequence is found or begun. -/
structure Found (server : Server) (now : DateTime) (c c' : Collection) (found : Option SequenceMeta) : Prop where
  outcome : (c'.documents = c.documents ∧ c.handed_out ≤ c'.handed_out ∧
      ∀ current, found = some current → ∃ stored, c.latest = some stored ∧ stored.read = some current) ∨
    (c'.documents = c.documents ++ [.Meta (written (opening server now c))] ∧ c'.handed_out = c.handed_out + 1 ∧
      c.latest = none ∧ (found = some (opening server now c) ∨ found = none ∧ ∃ k, server.fates k = .Lost))

theorem get_or_default_found {found : Option SequenceMeta}
    (searched : MongoDbMessageStore.get_or_default_sequence server now c = (found,c')) : Found server now c c' found := by
  unfold MongoDbMessageStore.get_or_default_sequence at searched
  rcases first : c.call server some with ⟨_ | _,c₁⟩
  · rw [first] at searched
    cases searched
    obtain ⟨kept,failed⟩ := call_failed first
    have same : c'.documents = c.documents := failed.elim id (fun lost => (Option.some.inj lost.2).symm)
    exact ⟨.inl ⟨same,kept.ge,fun _ wrong => by cases wrong⟩⟩
  · obtain ⟨same,kept⟩ := call_done first
    have documents : c₁.documents = c.documents := (Option.some.inj same).symm
    have latest : c₁.latest = c.latest := by
      unfold Collection.latest Collection.sequences
      rw [documents]
    rw [first] at searched
    dsimp only at searched
    cases newest : c.latest with
    | some stored =>
      rw [latest,newest] at searched
      cases searched
      exact ⟨.inl ⟨documents,kept.ge,fun current read => ⟨stored,newest,read⟩⟩⟩
    | none =>
      rw [latest,newest] at searched
      have begun : opening server now c₁ = opening server now c := by
        unfold opening
        rw [kept]
      rcases called : c₁.hand_out.call server (fun documents => some (documents ++ [.Meta (written (opening server now c₁))]))
        with ⟨answered,c₂⟩
      rw [new_sequence_of_call called] at searched
      cases searched
      cases answered with
      | true =>
        obtain ⟨wrote,taken⟩ := call_done called
        refine ⟨.inr ⟨?_,taken.trans (congrArg (· + 1) kept),newest,.inl (congrArg some begun)⟩⟩
        rw [← Option.some.inj wrote,begun]
        exact congrArg (· ++ _) documents
      | false =>
        obtain ⟨taken,same | ⟨lost,wrote⟩⟩ := call_failed called
        · refine ⟨.inl ⟨same.trans documents,?_,fun _ wrong => by cases wrong⟩⟩
          rw [taken]
          exact kept.ge.trans (Nat.le_succ _)
        · refine ⟨.inr ⟨?_,taken.trans (congrArg (· + 1) kept),newest,.inr ⟨rfl,_,lost⟩⟩⟩
          rw [← Option.some.inj wrote,begun]
          exact congrArg (· ++ _) documents

theorem ensure_indexes_same {answered : Bool} (ensured : MongoDbMessageStore.ensure_indexes server c = (answered,c')) :
    c'.documents = c.documents ∧ c'.handed_out = c.handed_out := by
  obtain ⟨kept,same | wrote⟩ := call_either ensured
  · exact ⟨same,kept⟩
  · split_ifs at wrote
    exact ⟨(Option.some.inj wrote).symm,kept⟩

/-- Whether the store opens or not, the sequence is found or begun first. -/
theorem new_found {r : Except StoreError (MongoDbMessageStore arith server)}
    (opened : MongoDbMessageStore.new arith server now c = (r,c')) :
    ∃ found, Found server now c c' found ∧ ∀ s, r = .ok s → s.collection = c' ∧ found = some s.current_sequence := by
  unfold MongoDbMessageStore.new at opened
  rcases searched : MongoDbMessageStore.get_or_default_sequence server now c with ⟨_ | current,c₁⟩
  · rw [searched] at opened
    cases opened
    exact ⟨none,get_or_default_found searched,fun _ wrong => by cases wrong⟩
  · have found := (get_or_default_found searched).outcome
    rw [searched] at opened
    dsimp only at opened
    rcases ensured : MongoDbMessageStore.ensure_indexes server c₁ with ⟨answered,c₂⟩
    obtain ⟨documents,handed_out⟩ := ensure_indexes_same ensured
    rw [ensured] at opened
    refine ⟨some current,?_,?_⟩
    · have last : c' = c₂ := by cases answered <;> cases opened <;> rfl
      rw [last]
      refine ⟨?_⟩
      rw [documents,handed_out]
      exact found
    · cases answered with
      | true =>
        cases opened
        rintro s opened
        cases opened
        exact ⟨rfl,rfl⟩
      | false =>
        cases opened
        exact fun _ wrong => by cases wrong

theorem Orderly.found {found : Option SequenceMeta} (orderly : Orderly server c) (injective : Function.Injective server.ids)
    (searched : Found server now c c' found) :
    Kept server c c' none ∧ ∀ current, found = some current → current.object_id ∈ roots c'.documents := by
  rcases searched.outcome with ⟨documents,more,read⟩ | ⟨documents,taken,_,begun⟩
  · refine ⟨orderly.kept_same documents more,fun current is_found => ?_⟩
    obtain ⟨stored,latest,numbers⟩ := read current is_found
    rw [documents,read_id numbers]
    exact mem_roots.mpr ⟨stored,latest_stored latest,rfl⟩
  · refine ⟨orderly.kept_added injective rfl documents taken (fun _ _ keyed => by cases keyed)
      (fun _ is_message => by cases is_message),fun current is_found => ?_⟩
    rcases begun with same | ⟨nothing,_⟩
    · rw [same] at is_found
      cases is_found
      rw [documents]
      exact mem_roots.mpr ⟨_,List.mem_append_right _ (List.mem_singleton.mpr rfl),rfl⟩
    · rw [nothing] at is_found
      cases is_found

/-- A cleaning without a store spares the latest sequence. -/
theorem sweep_cleans {age : Int} {r : Except StoreError Nat} (orderly : Orderly server c)
    (scans : ∀ documents, (server.scan documents).Perm documents)
    (swept : cleanup_older_than server now age c = (r,c')) :
    ∃ exclude_id, Cleaned server c c' (millis (now - age)) exclude_id ∧ exclude_id = c.latest.map (·.object_id) := by
  unfold cleanup_older_than at swept
  rcases first : c.call server some with ⟨answered,c₁⟩
  have same : c₁.documents = c.documents ∧ c₁.handed_out = c.handed_out := by
    obtain ⟨kept,same | wrote⟩ := call_either first
    · exact ⟨same,kept⟩
    · exact ⟨(Option.some.inj wrote).symm,kept⟩
  obtain ⟨documents,kept⟩ := same
  have latest : c₁.latest = c.latest := by
    unfold Collection.latest Collection.sequences
    rw [documents]
  have lift {exclude_id : Option ObjectId} (cleaned : Cleaned server c₁ c' (millis (now - age)) exclude_id) :
      Cleaned server c c' (millis (now - age)) exclude_id := by
    have outdated (id : ObjectId) : Outdated c₁ (millis (now - age)) exclude_id id ↔ Outdated c (millis (now - age)) exclude_id id := by
      unfold Outdated
      rw [documents]
    have homed (homed : Homed c) : Homed c' := cleaned.homed (fun id member => documents ▸ homed id (documents ▸ member))
    exact ⟨cleaned.handed_out.trans kept,cleaned.orderly,homed,fun d member => documents ▸ cleaned.within d member,
      fun d member current => cleaned.spared d (documents ▸ member) (fun old => current ((outdated _).mp old))⟩
  have orderly₁ : Orderly server c₁ := orderly.same documents kept.ge
  rw [first] at swept
  cases answered with
  | false =>
    cases swept
    exact ⟨_,.same orderly kept documents,rfl⟩
  | true =>
    dsimp only at swept
    rw [latest] at swept
    cases newest : c.latest with
    | none =>
      rw [newest] at swept
      exact ⟨none,lift (cleanup_cleans orderly₁ scans swept).1,rfl⟩
    | some stored =>
      rw [newest] at swept
      dsimp only at swept
      cases read : stored.read with
      | none =>
        rw [read] at swept
        cases swept
        exact ⟨_,.same orderly kept documents,rfl⟩
      | some sequence =>
        rw [read] at swept
        refine ⟨some sequence.object_id,lift (cleanup_cleans orderly₁ scans swept).1,?_⟩
        rw [read_id read]
        rfl

end

/-! ### Runs -/

/-- A store is opened on a collection, after attempts that failed and cleanings without
    a store. -/
inductive Opens (arith : Arith) (server : Server) : Collection → MongoDbMessageStore arith server → Prop where
  | opened {c c' : Collection} {now : DateTime} {s : MongoDbMessageStore arith server}
    (opened : MongoDbMessageStore.new arith server now c = (.ok s,c')) : Opens arith server c s
  | again {c c' : Collection} {now : DateTime} {e : StoreError} {s : MongoDbMessageStore arith server}
    (failed : MongoDbMessageStore.new arith server now c = (.error e,c')) (later : Opens arith server c' s) :
    Opens arith server c s
  | swept {c c' : Collection} {now : DateTime} {age : Int} {r : Except StoreError Nat} {s : MongoDbMessageStore arith server}
    (cleaned : cleanup_older_than server now age c = (r,c')) (later : Opens arith server c' s) : Opens arith server c s

/-- The stores that a program has one after the other on one collection, each with the
    store in memory on which the operations that succeeded were done. The collection may
    be cleaned from outside while a store is open on it. In `opens` and `sweeps` stand the
    states in which it is closed and opened again, or cleaned from outside. -/
inductive Reached (arith : Arith) (server : Server) (opens : MongoDbMessageStore arith server → Prop)
    (sweeps : MongoDbMessageStore arith server → DateTime → Int → Prop) :
    MongoDbMessageStore arith server → InMemoryMessageStore arith → Prop where
  | begun {s : MongoDbMessageStore arith server} (opened : Opens arith server ⟨[],0,0⟩ s) :
    Reached arith server opens sweeps s (InMemoryMessageStore.new (creation_time s))
  | applied {s s' : MongoDbMessageStore arith server} {m : InMemoryMessageStore arith} {operation : Operation}
    (before : Reached arith server opens sweeps s m) (fits : operation.Fits s) (done : operation.apply s = (.ok (),s')) :
    Reached arith server opens sweeps s' (operation.apply m).2
  | failed {s s' : MongoDbMessageStore arith server} {m : InMemoryMessageStore arith} {operation : Operation} {e : StoreError}
    (before : Reached arith server opens sweeps s m) (fits : operation.Fits s) (failed : operation.apply s = (.error e,s')) :
    Reached arith server opens sweeps s' m
  | cleaned {s s' : MongoDbMessageStore arith server} {m : InMemoryMessageStore arith} {now : DateTime} {age : Int}
    {r : Except StoreError Nat} (before : Reached arith server opens sweeps s m)
    (cleaned : s.cleanup_older_than now age = (r,s')) : Reached arith server opens sweeps s' m
  | swept {s : MongoDbMessageStore arith server} {m : InMemoryMessageStore arith} {now : DateTime} {age : Int}
    {r : Except StoreError Nat} {c' : Collection} (before : Reached arith server opens sweeps s m) (at_state : sweeps s now age)
    (swept : cleanup_older_than server now age s.collection = (r,c')) :
    Reached arith server opens sweeps { s with collection := c' } m
  | reopened {s s' : MongoDbMessageStore arith server} {m : InMemoryMessageStore arith}
    (before : Reached arith server opens sweeps s m) (at_state : opens s) (opened : Opens arith server s.collection s') :
    Reached arith server opens sweeps s' m

/-- Any run. -/
abbrev Run (arith : Arith) (server : Server) : MongoDbMessageStore arith server → InMemoryMessageStore arith → Prop :=
  Reached arith server (fun _ => True) (fun _ _ _ => True)

/-- A cleaning from outside does not take the current sequence of the store: it is the
    latest of the collection, or not old enough. -/
def Spares (s : MongoDbMessageStore arith server) (now : DateTime) (age : Int) : Prop :=
  ¬ Outdated s.collection (millis (now - age)) (s.collection.latest.map (·.object_id)) s.current_sequence.object_id

section
variable {s s' : MongoDbMessageStore arith server} {m : InMemoryMessageStore arith} {c : Collection}

theorem cleanup_method {now : DateTime} {age : Int} {r : Except StoreError Nat} (cleaned : s.cleanup_older_than now age = (r,s')) :
    cleanup_older_than_inner server (millis (now - age)) (some s.current_sequence.object_id) s.collection = (r,s'.collection) ∧
      s'.current_sequence = s.current_sequence := by
  unfold MongoDbMessageStore.cleanup_older_than at cleaned
  rcases inner : cleanup_older_than_inner server (millis (now - age)) (some s.current_sequence.object_id) s.collection with ⟨r',c'⟩
  rw [inner] at cleaned
  cases cleaned
  exact ⟨rfl,rfl⟩

/-- What is not outdated stays a root. -/
theorem Cleaned.root {c' : Collection} {cutoff : Int} {exclude_id : Option ObjectId} (cleaned : Cleaned server c c' cutoff exclude_id)
    {id : ObjectId} (there : id ∈ roots c.documents) (spared : ¬ Outdated c cutoff exclude_id id) : id ∈ roots c'.documents := by
  obtain ⟨stored,member,same⟩ := mem_roots.mp there
  exact mem_roots.mpr ⟨stored,cleaned.spared _ member (fun outdated => spared (same ▸ outdated)),same⟩

theorem not_outdated_excluded {cutoff : Int} {id : ObjectId} : ¬ Outdated c cutoff (some id) id :=
  fun ⟨_,_,_,_,other⟩ => other rfl

theorem Opens.orderly (scans : ∀ documents, (server.scan documents).Perm documents) (injective : Function.Injective server.ids)
    (opens : Opens arith server c s) (orderly : Orderly server c) :
    Orderly server s.collection ∧ s.current_sequence.object_id ∈ roots s.collection.documents ∧
      (Homed c → Homed s.collection) := by
  induction opens with
  | opened opened =>
    obtain ⟨found,searched,current⟩ := new_found opened
    obtain ⟨same,is_found⟩ := current _ rfl
    obtain ⟨kept,there⟩ := orderly.found injective searched
    rw [same]
    exact ⟨kept.orderly,there _ is_found,kept.homed nofun⟩
  | again failed later ih =>
    obtain ⟨found,searched,-⟩ := new_found failed
    have kept := (orderly.found injective searched).1
    obtain ⟨orderly',there,homed⟩ := ih kept.orderly
    exact ⟨orderly',there,homed ∘ kept.homed nofun⟩
  | swept cleaned later ih =>
    obtain ⟨_,cleaned,-⟩ := sweep_cleans orderly scans cleaned
    obtain ⟨orderly',there,homed⟩ := ih cleaned.orderly
    exact ⟨orderly',there,homed ∘ cleaned.homed⟩

variable {opens : MongoDbMessageStore arith server → Prop} {sweeps : MongoDbMessageStore arith server → DateTime → Int → Prop}

/-- Whatever is refused or lost, and whatever is cleaned up, identifiers and keys are
    unique. As long as cleanings from outside spare the current sequence, it is stored,
    and every stored message belongs to a stored sequence. -/
theorem sequences_kept (scans : ∀ documents, (server.scan documents).Perm documents) (injective : Function.Injective server.ids)
    (reached : Reached arith server opens sweeps s m) :
    Orderly server s.collection ∧ ((∀ s now age, sweeps s now age → Spares s now age) →
      Homed s.collection ∧ s.current_sequence.object_id ∈ roots s.collection.documents) := by
  induction reached with
  | begun opened =>
    obtain ⟨orderly,there,homed⟩ := opened.orderly scans injective (.empty server)
    exact ⟨orderly,fun _ => ⟨homed (List.forall_mem_nil _),there⟩⟩
  | applied before fits done ih =>
    obtain ⟨kept,stays⟩ := apply_kept ih.1 injective (apply_tries done)
    refine ⟨kept.orderly,fun spares => ?_⟩
    obtain ⟨homed,there⟩ := ih.2 spares
    exact ⟨kept.homed (fun id same => Option.some.inj same ▸ there) homed,stays there⟩
  | failed before fits failed ih =>
    obtain ⟨kept,stays⟩ := apply_kept ih.1 injective (apply_tries failed)
    refine ⟨kept.orderly,fun spares => ?_⟩
    obtain ⟨homed,there⟩ := ih.2 spares
    exact ⟨kept.homed (fun id same => Option.some.inj same ▸ there) homed,stays there⟩
  | cleaned before cleaned ih =>
    obtain ⟨inner,current⟩ := cleanup_method cleaned
    obtain ⟨cleaned,-⟩ := cleanup_cleans ih.1 scans inner
    refine ⟨cleaned.orderly,fun spares => ?_⟩
    obtain ⟨homed,there⟩ := ih.2 spares
    rw [current]
    exact ⟨cleaned.homed homed,cleaned.root there not_outdated_excluded⟩
  | swept before at_state swept ih =>
    obtain ⟨_,cleaned,rfl⟩ := sweep_cleans ih.1 scans swept
    refine ⟨cleaned.orderly,fun spares => ?_⟩
    obtain ⟨homed,there⟩ := ih.2 spares
    exact ⟨cleaned.homed homed,cleaned.root there (spares _ _ _ at_state)⟩
  | reopened before at_state opened ih =>
    obtain ⟨orderly,there,homed⟩ := opened.orderly scans injective ih.1
    exact ⟨orderly,fun spares => ⟨homed (ih.2 spares).1,there⟩⟩

/-- A cleaning that succeeds leaves what belongs to the current sequence and to those that
    are not old enough, and says how many sequences went. -/
theorem cleanup_exact (scans : ∀ documents, (server.scan documents).Perm documents) (injective : Function.Injective server.ids)
    (reached : Run arith server s m) {now : DateTime} {age : Int} {n : Nat}
    (cleaned : s.cleanup_older_than now age = (.ok n,s')) :
    (∀ document, document ∈ s'.collection.documents ↔ document ∈ s.collection.documents ∧
      ¬ Outdated s.collection (millis (now - age)) (some s.current_sequence.object_id) (home document)) ∧
      ∃ ids : List ObjectId, ids.Nodup ∧ n = ids.length ∧
        ∀ id, id ∈ ids ↔ Outdated s.collection (millis (now - age)) (some s.current_sequence.object_id) id := by
  obtain ⟨orderly,-⟩ := sequences_kept scans injective reached
  obtain ⟨inner,-⟩ := cleanup_method cleaned
  obtain ⟨cleaned,exactly⟩ := cleanup_cleans orderly scans inner
  obtain ⟨ids,lists,counted,gone⟩ := exactly n rfl
  exact ⟨fun document => ⟨fun member => ⟨cleaned.within _ member,gone document member⟩,fun both => cleaned.spared _ both.1 both.2⟩,
    ids,lists.once,counted,lists.outdated⟩

end

/-! ### A database that refuses one call -/

namespace Sample

/-- The first operation on the first store is refused. -/
def database : Server := ⟨id,fun k => if k = 3 then .Refused else .Done,id⟩

theorem scans (documents : List Document) : (database.scan documents).Perm documents := List.Perm.refl _

theorem increasing : StrictMono database.ids := strictMono_id

theorem faithful (k : Nat) : database.fates k ≠ .Lost := by
  show (if k = 3 then Fate.Refused else Fate.Done) ≠ .Lost
  split_ifs <;> decide

def opened : MongoDbMessageStore .exact database := ⟨⟨[.Meta ⟨0,0,0,0⟩],1,3⟩,⟨0,0,0,0⟩⟩

def refused : MongoDbMessageStore .exact database := ((Operation.add 1 (ascii "ab")).apply opened).2
def stored : MongoDbMessageStore .exact database := ((Operation.add 1 (ascii "ab")).apply refused).2
def restarted : MongoDbMessageStore .exact database := ((Operation.reset 5000000).apply stored).2

section
variable {opens : MongoDbMessageStore .exact database → Prop} {sweeps : MongoDbMessageStore .exact database → DateTime → Int → Prop}

theorem begun : Reached .exact database opens sweeps opened (InMemoryMessageStore.new 0) :=
  .begun (.opened (show MongoDbMessageStore.new .exact database 0 ⟨[],0,0⟩ = (.ok opened,opened.collection) from rfl))

theorem reached_stored :
    Reached .exact database opens sweeps stored ((Operation.add 1 (ascii "ab")).apply (InMemoryMessageStore.new 0)).2 := by
  have first : (Operation.add 1 (ascii "ab")).apply opened = (.error (.PersistMessage 1),refused) := rfl
  have second : (Operation.add 1 (ascii "ab")).apply refused = (.ok (),stored) := rfl
  have small (s : MongoDbMessageStore .exact database) : (Operation.add 1 (ascii "ab")).Fits s := show 1 < U64 by decide
  exact (begun.failed (small opened) first).applied (small refused) second

theorem reached_restarted : ∃ m, Reached .exact database opens sweeps restarted m := by
  have anew : (Operation.reset 5000000).apply stored = (.ok (),restarted) := rfl
  have fits : (Operation.reset 5000000).Fits stored := trivial
  exact ⟨_,reached_stored.applied fits anew⟩

end

/-- The store with its message, after a cleaning from outside. -/
def swept : MongoDbMessageStore .exact database :=
  { stored with collection := (cleanup_older_than database 10000000 0 stored.collection).2 }

theorem spared : Spares stored 10000000 0 := not_outdated_excluded

theorem reached_swept : ∃ m, Reached .exact database (fun _ => True) Spares swept m := by
  have cleaned : cleanup_older_than database 10000000 0 stored.collection =
      (.ok 0,(cleanup_older_than database 10000000 0 stored.collection).2) := rfl
  exact ⟨_,reached_stored.swept spared cleaned⟩

end Sample

theorem stored_kept : Homed Sample.swept.collection ∧ (0 : ObjectId) ∈ roots Sample.swept.collection.documents := by
  obtain ⟨m,reached⟩ := Sample.reached_swept
  exact (sequences_kept Sample.scans Sample.increasing.injective reached).2 (fun _ _ _ spares => spares)

theorem restarted_cleaned : Document.Meta ⟨0,0,0,0⟩ ∉
    (Sample.restarted.cleanup_older_than 10000000 0).2.collection.documents := by
  obtain ⟨m,reached⟩ := Sample.reached_restarted
  have exactly := (cleanup_exact Sample.scans Sample.increasing.injective reached
    (show Sample.restarted.cleanup_older_than 10000000 0 = (.ok 1,(Sample.restarted.cleanup_older_than 10000000 0).2) from rfl)).1
  intro member
  exact ((exactly _).mp member).2 ⟨⟨0,0,0,0⟩,List.mem_cons_self,rfl,by decide,by decide⟩

end HotFix.Sequences
