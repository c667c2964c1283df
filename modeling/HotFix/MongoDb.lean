import HotFix.Persistence
import HotFix.Documents

/-!
The message store in a document database. One collection holds a document for every
sequence and one for every message. The numbers in memory change once the server has
answered. What the driver leaves open is a parameter: the identifiers that it hands out,
what becomes of each call, and the order in which a query returns what it finds.
-/
namespace HotFix.MongoDb
open HotFix.Documents

/-- The driver orders identifiers as numbers. -/
abbrev ObjectId := Nat

/-- The first number that a stored integer cannot be. -/
def I64_END : Nat := U64 / 2

/-- `as i64`. -/
def as_i64 (n : Nat) : Int := if n < I64_END then n else (n : Int) - U64

structure SequenceMeta where
  object_id : ObjectId
  creation_time : Int
  sender_seq_number : Nat
  target_seq_number : Nat

/-- A sequence as it is stored, its numbers signed. -/
structure MetaDocument where
  object_id : ObjectId
  creation_time : Int
  sender_seq_number : Int
  target_seq_number : Int

structure Message where
  object_id : ObjectId
  sequence_id : ObjectId
  msg_seq_number : Int
  data : Bytes

inductive Document where
  | Meta (sequence : MetaDocument)
  | Message (message : Message)

namespace Document

def object_id : Document → ObjectId
  | .Meta sequence => sequence.object_id
  | .Message message => message.object_id

def sequence : Document → Option MetaDocument
  | .Meta sequence => some sequence
  | .Message _ => none

def message : Document → Option MongoDb.Message
  | .Meta _ => none
  | .Message message => some message

/-- The key of a document in the unique index, which only messages have. -/
def key (document : Document) : Option (ObjectId × Int) :=
  document.message.map (fun message => (message.sequence_id,message.msg_seq_number))

end Document

/-- Numbers are not negative where they are read. -/
def MetaDocument.read (stored : MetaDocument) : Option SequenceMeta :=
  if 0 ≤ stored.sender_seq_number ∧ 0 ≤ stored.target_seq_number then
    some ⟨stored.object_id,stored.creation_time,stored.sender_seq_number.toNat,stored.target_seq_number.toNat⟩
  else none

/-- A call is done and answered, is refused, or is done and its answer is lost. -/
inductive Fate where
  | Done
  | Refused
  | Lost
  deriving DecidableEq

structure Server where
  /-- The identifiers, in the order in which they are handed out. -/
  ids : Nat → ObjectId
  /-- What becomes of the calls. -/
  fates : Nat → Fate
  /-- The order of what a query finds. -/
  scan : List Document → List Document

structure Collection where
  documents : List Document
  handed_out : Nat
  calls : Nat

/-! ### The driver -/

/-- `replace_one` with `upsert`, for the message with a key. The replaced document keeps
    its identifier; a new one is given one. -/
def replace_one (key : ObjectId × Int) (replacement : ObjectId → Document) (object_id : ObjectId)
    (documents : List Document) : List Document :=
  if documents.any (fun document => document.key = some key) then
    update_first (fun document => document.key = some key) (fun old => replacement old.object_id) documents
  else documents ++ [replacement object_id]

/-- `update_one` for the sequence with an identifier. -/
def update_one (object_id : ObjectId) (change : MetaDocument → Option MetaDocument) (documents : List Document) :
    Option (List Document) :=
  match documents.find? (fun document => document.object_id = object_id) with
  | some (.Meta stored) => (change stored).map (fun changed =>
      update_first (fun document => document.object_id = object_id) (fun _ => .Meta changed) documents)
  | _ => some documents

namespace Collection

/-- A call that writes, unless the server cannot; whether it was answered. -/
def call (server : Server) (write : List Document → Option (List Document)) (c : Collection) : Bool × Collection :=
  match write c.documents with
  | none => (false,{ c with calls := c.calls + 1 })
  | some documents =>
    match server.fates c.calls with
    | .Done => (true,{ c with documents := documents, calls := c.calls + 1 })
    | .Refused => (false,{ c with calls := c.calls + 1 })
    | .Lost => (false,{ c with documents := documents, calls := c.calls + 1 })

/-- The next identifier is handed out. -/
def hand_out (c : Collection) : Collection := { c with handed_out := c.handed_out + 1 }

def sequences (c : Collection) : List MetaDocument := c.documents.filterMap Document.sequence

/-- `find_one` for the sequences, sorted by falling identifiers. -/
def latest (c : Collection) : Option MetaDocument := c.sequences.argmax (·.object_id)

end Collection

/-- The timestamp of an instant, in milliseconds. -/
def millis (now : DateTime) : Int := now / 1000000

structure MongoDbMessageStore (arith : Arith) (server : Server) where
  collection : Collection
  current_sequence : SequenceMeta

namespace MongoDbMessageStore
variable {arith : Arith} {server : Server}

def new_sequence (server : Server) (now : DateTime) (c : Collection) : Option SequenceMeta × Collection :=
  let initial : MetaDocument := ⟨server.ids c.handed_out,millis now,0,0⟩
  match c.hand_out.call server (fun documents => some (documents ++ [.Meta initial])) with
  | (true,c) => (initial.read,c)
  | (false,c) => (none,c)

def get_or_default_sequence (server : Server) (now : DateTime) (c : Collection) : Option SequenceMeta × Collection :=
  match c.call server some with
  | (false,c) => (none,c)
  | (true,c) =>
    match c.latest with
    | none => new_sequence server now c
    | some stored => (stored.read,c)

/-- The unique index cannot be created over documents that share a key. -/
def ensure_indexes (server : Server) (c : Collection) : Bool × Collection :=
  c.call server (fun documents => if (documents.filterMap Document.key).Nodup then some documents else none)

def new (arith : Arith) (server : Server) (now : DateTime) (c : Collection) :
    Except StoreError (MongoDbMessageStore arith server) × Collection :=
  match get_or_default_sequence server now c with
  | (none,c) => (.error .Initialization,c)
  | (some current_sequence,c) =>
    match ensure_indexes server c with
    | (false,c) => (.error .Initialization,c)
    | (true,c) => (.ok ⟨c,current_sequence⟩,c)

/-- A number that is no stored integer is not sent at all. -/
def add (sequence_number : Nat) (message : Bytes) (s : MongoDbMessageStore arith server) :
    Except StoreError Unit × MongoDbMessageStore arith server :=
  if sequence_number < I64_END then
    let sequence_id := s.current_sequence.object_id
    match s.collection.hand_out.call server (fun documents => some (replace_one (sequence_id,as_i64 sequence_number)
        (fun object_id => .Message ⟨object_id,sequence_id,sequence_number,message⟩) (server.ids s.collection.handed_out)
        documents)) with
    | (true,c) => (.ok (),{ s with collection := c })
    | (false,c) => (.error (.PersistMessage sequence_number),{ s with collection := c })
  else (.error (.PersistMessage sequence_number),s)

/-- A query leaves the collection as it is, so it is not counted as a call. -/
def get_slice (first last : Nat) (s : MongoDbMessageStore arith server) : Except (Abort StoreError) (List Bytes) :=
  if server.fates s.collection.calls = .Done then
    let found := s.collection.documents.filter (fun document => document.message.any (fun message =>
      message.sequence_id = s.current_sequence.object_id ∧ as_i64 first ≤ message.msg_seq_number ∧
        message.msg_seq_number ≤ as_i64 last))
    .ok (((server.scan found).filterMap Document.message).map (·.data))
  else .error (.Error (.RetrieveMessages first last))

def update_current (change : MetaDocument → Option MetaDocument) (s : MongoDbMessageStore arith server) :
    Bool × Collection :=
  s.collection.call server (update_one s.current_sequence.object_id change)

/-- `$inc` by one; the server refuses a sum that is no stored integer. -/
def inc (n : Int) : Option Int := if n + 1 < I64_END then some (n + 1) else none

def increment_sender_seq_number (s : MongoDbMessageStore arith server) :
    Except StoreError Unit × MongoDbMessageStore arith server :=
  match s.update_current (fun stored => (inc stored.sender_seq_number).map (fun n => { stored with sender_seq_number := n })) with
  | (true,c) => (.ok (),⟨c,{ s.current_sequence with sender_seq_number := arith.add s.current_sequence.sender_seq_number 1 }⟩)
  | (false,c) => (.error .UpdateSequenceNumber,{ s with collection := c })

def increment_target_seq_number (s : MongoDbMessageStore arith server) :
    Except StoreError Unit × MongoDbMessageStore arith server :=
  match s.update_current (fun stored => (inc stored.target_seq_number).map (fun n => { stored with target_seq_number := n })) with
  | (true,c) => (.ok (),⟨c,{ s.current_sequence with target_seq_number := arith.add s.current_sequence.target_seq_number 1 }⟩)
  | (false,c) => (.error .UpdateSequenceNumber,{ s with collection := c })

def set_target_seq_number (seq_number : Nat) (s : MongoDbMessageStore arith server) :
    Except StoreError Unit × MongoDbMessageStore arith server :=
  match s.update_current (fun stored => some { stored with target_seq_number := as_i64 seq_number }) with
  | (true,c) => (.ok (),⟨c,{ s.current_sequence with target_seq_number := seq_number }⟩)
  | (false,c) => (.error .UpdateSequenceNumber,{ s with collection := c })

def reset (now : DateTime) (s : MongoDbMessageStore arith server) :
    Except StoreError Unit × MongoDbMessageStore arith server :=
  match new_sequence server now s.collection with
  | (some current_sequence,c) => (.ok (),⟨c,current_sequence⟩)
  | (none,c) => (.error .Reset,{ s with collection := c })

instance : MessageStore (MongoDbMessageStore arith server) where
  add := add
  get_slice := get_slice
  next_sender_seq_number s := arith.add s.current_sequence.sender_seq_number 1
  next_target_seq_number s := arith.add s.current_sequence.target_seq_number 1
  increment_sender_seq_number := increment_sender_seq_number
  increment_target_seq_number := increment_target_seq_number
  set_target_seq_number := set_target_seq_number
  reset := reset
  creation_time s := s.current_sequence.creation_time * 1000000

end MongoDbMessageStore

/-! ### Cleaning up -/

/-- The sequences to delete are read as they are found; their messages go first. -/
def cleanup_older_than_inner (server : Server) (cutoff : Int) (exclude_id : Option ObjectId) (c : Collection) :
    Except StoreError Nat × Collection :=
  let old (stored : MetaDocument) : Bool := stored.creation_time < cutoff ∧ some stored.object_id ≠ exclude_id
  match c.call server some with
  | (false,c) => (.error .Cleanup,c)
  | (true,c) =>
    let found := server.scan (c.documents.filter (fun document => document.sequence.any old))
    match (found.filterMap Document.sequence).mapM MetaDocument.read with
    | none => (.error .Cleanup,c)
    | some sequences =>
      let old_sequence_ids := sequences.map (·.object_id)
      if old_sequence_ids = [] then (.ok 0,c)
      else
        let of_old (document : Document) : Bool := document.message.any (fun message => message.sequence_id ∈ old_sequence_ids)
        match c.call server (fun documents => some (documents.filter (fun document => !of_old document))) with
        | (false,c) => (.error .Cleanup,c)
        | (true,c) =>
          let listed (document : Document) : Bool := document.object_id ∈ old_sequence_ids
          let deleted_count := c.documents.countP listed
          match c.call server (fun documents => some (documents.filter (fun document => !listed document))) with
          | (false,c) => (.error .Cleanup,c)
          | (true,c) => (.ok deleted_count,c)

/-- The current sequence is never deleted. -/
def MongoDbMessageStore.cleanup_older_than {arith : Arith} {server : Server} (now : DateTime) (age : Int)
    (s : MongoDbMessageStore arith server) : Except StoreError Nat × MongoDbMessageStore arith server :=
  match cleanup_older_than_inner server (millis (now - age)) (some s.current_sequence.object_id) s.collection with
  | (r,c) => (r,{ s with collection := c })

/-- The latest sequence is never deleted. -/
def cleanup_older_than (server : Server) (now : DateTime) (age : Int) (c : Collection) : Except StoreError Nat × Collection :=
  match c.call server some with
  | (false,c) => (.error .Cleanup,c)
  | (true,c) =>
    match c.latest with
    | none => cleanup_older_than_inner server (millis (now - age)) none c
    | some stored =>
      match stored.read with
      | none => (.error .Cleanup,c)
      | some sequence => cleanup_older_than_inner server (millis (now - age)) (some sequence.object_id) c

end HotFix.MongoDb
