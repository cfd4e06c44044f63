import RunHistory.Notice
import RunHistory.Record.Basic

/-!
# What is known of a run

While a history is read, one record is held for each entity of the run: the first that was read of
it. Later records of the same entity only add their information to it, field by field, the last one
winning; nested objects are replaced as a whole.

## Main definitions

* `State`: the records held, by kind and id, and the number of records of other runs.
* `State.accept`: take in a record.
* `State.held?`: the record held for an entity.

## Main results

* `State.bucket_setBucket`: replacing the records of one kind leaves those of the others.
* `State.accept_bucket_of_ne`: taking in a record touches the records of its kind only.
-/

namespace RunHistory

/-! ### Merging -/

namespace Record

/-- Information with later information added: without either the other one stays, and else the
fields are written over the old ones. -/
def mergedInfo : Option (Table Value) → Option (Table Value) → Option (Table Value)
  | old, none => old
  | none, some new => some new
  | some old, some new => some (old.overlay new)

/-- A record with the information of a later one added. -/
def absorb (first later : Record) : Record := first.withInfo (mergedInfo first.info later.info)

end Record

/-- The records of one kind with one more record taken in. -/
def mergeRecord (bucket : Table Record) (r : Record) : Table Record :=
  match bucket.get? r.key with
  | none => bucket.set r.key r
  | some first => bucket.set r.key (first.absorb r)

/-! ### States -/

/-- What is known of a run. -/
structure State where
  /-- The id of the run. -/
  run : String
  /-- The records of runs, by id. -/
  dags : Table Record
  /-- The records of vertices, by id. -/
  vertices : Table Record
  /-- The records of tasks, by id. -/
  tasks : Table Record
  /-- The records of attempts, by id. -/
  attempts : Table Record
  /-- The number of records of other runs. -/
  skipped : Nat
  deriving Inhabited

namespace State

/-- What is known of a run before any record is read. -/
def start (run : String) : State := ⟨run, .empty, .empty, .empty, .empty, 0⟩

/-- The records of one kind. -/
def bucket (s : State) : Kind → Table Record
  | .dag => s.dags
  | .vertex => s.vertices
  | .task => s.tasks
  | .attempt => s.attempts

/-- Replace the records of one kind. -/
def setBucket (s : State) (kind : Kind) (records : Table Record) : State :=
  match kind with
  | .dag => { s with dags := records }
  | .vertex => { s with vertices := records }
  | .task => { s with tasks := records }
  | .attempt => { s with attempts := records }

/-- The record held for an entity. -/
def held? (s : State) (kind : Kind) (key : String) : Option Record := (s.bucket kind).get? key

/-- Take in a record. -/
def accept (s : State) (r : Record) : State :=
  s.setBucket r.kind (mergeRecord (s.bucket r.kind) r)

/-- Count a record of another run. -/
def skip (s : State) : State := { s with skipped := s.skipped + 1 }

/-! ### Laws -/

/-- States are the same if they hold the same of each kind. -/
theorem ext_bucket {s s' : State} (hrun : s.run = s'.run) (hskipped : s.skipped = s'.skipped)
    (h : ∀ kind, s.bucket kind = s'.bucket kind) : s = s' := by
  obtain ⟨run, dags, vertices, tasks, attempts, skipped⟩ := s
  obtain ⟨run', dags', vertices', tasks', attempts', skipped'⟩ := s'
  obtain rfl : run = run' := hrun
  obtain rfl : skipped = skipped' := hskipped
  obtain rfl : dags = dags' := h .dag
  obtain rfl : vertices = vertices' := h .vertex
  obtain rfl : tasks = tasks' := h .task
  obtain rfl : attempts = attempts' := h .attempt
  rfl

theorem bucket_setBucket (s : State) (k k' : Kind) (t : Table Record) :
    (s.setBucket k t).bucket k' = if k = k' then t else s.bucket k' := by
  cases k <;> cases k' <;> simp [setBucket, bucket]

@[simp] theorem bucket_start (run : String) (k : Kind) : (start run).bucket k = .empty := by
  cases k <;> rfl

@[simp] theorem bucket_skip (s : State) (k : Kind) : s.skip.bucket k = s.bucket k := by
  cases k <;> rfl

@[simp] theorem run_setBucket (s : State) (k : Kind) (t : Table Record) :
    (s.setBucket k t).run = s.run := by
  cases k <;> rfl

@[simp] theorem skipped_setBucket (s : State) (k : Kind) (t : Table Record) :
    (s.setBucket k t).skipped = s.skipped := by
  cases k <;> rfl

theorem accept_bucket (s : State) (r : Record) :
    (s.accept r).bucket r.kind = mergeRecord (s.bucket r.kind) r := by
  simp [accept, bucket_setBucket]

theorem accept_bucket_of_ne (s : State) (r : Record) {k : Kind} (h : r.kind ≠ k) :
    (s.accept r).bucket k = s.bucket k := by
  simp [accept, bucket_setBucket, h]

end State

end RunHistory
