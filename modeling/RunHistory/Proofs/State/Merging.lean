import RunHistory.Ingest
import RunHistory.Proofs.Table.Overlay

/-!
# Records taken in one after the other

The record held for an entity is the first that was taken in of it, with the information of all of
them: each field has its last value, and the fields stand in the order in which they first appeared.
Taking in a record concerns one kind and one id, so the records of one entity can be looked at by
themselves, whatever comes between them.

## Main definitions

* `Record.overlaid`: the information of several records, the last one winning.
* `Record.ofEntity`: the records of one entity among some.
* `Record.Unites`: a record that holds what several say of one entity.

## Main results

* `State.bucket_foldl_accept`, `get?_foldl_mergeRecord`: one kind and one id by themselves.
* `Record.foldl_absorb_unites`: **a record with the information of later ones added.**
* `State.held_foldl_accept`: **what is held after any records were taken in.**
-/

namespace RunHistory

/-! ### The information of several records -/

namespace Record

/-- The information that results from writing that of later records over that of earlier ones. -/
def overlaid : List (Table Value) → Option (Table Value)
  | [] => none
  | first :: later => some (later.foldl Table.overlay first)

theorem overlaid_concat (infos : List (Table Value)) (info : Table Value) :
    overlaid (infos ++ [info]) = mergedInfo (overlaid infos) (some info) := by
  cases infos with
  | nil => rfl
  | cons first later => simp [overlaid, mergedInfo, List.foldl_append]

theorem overlaid_eq_none_iff {infos : List (Table Value)} : overlaid infos = none ↔ infos = [] := by
  cases infos <;> simp [overlaid]

/-- What the information of several records says: the last value of every field, in the order in
which the fields first appeared. -/
theorem overlaid_eq_some {infos : List (Table Value)} {info : Table Value}
    (h : overlaid infos = some info) :
    info.keys = (infos.flatMap Table.keys).eraseDups ∧
      ∀ name, info.get? name = Table.lastValue? name infos := by
  cases infos with
  | nil => exact absurd h (by simp [overlaid])
  | cons first later =>
    obtain rfl := Option.some.inj h
    exact ⟨Table.keys_foldl_overlay first later, Table.get?_foldl_overlay first later⟩

/-! ### A record with later ones added -/

/-- A record that holds what several say of one entity: it is the first of them but for the
information, which is that of all. -/
structure Unites (held first : Record) (all : List Record) : Prop where
  /-- What the record is about, with its related entities. -/
  subject : held.subject = first.subject
  /-- The entity as the first record writes it. -/
  entity : held.entity = first.entity
  /-- The label of the entity's type as the first record writes it. -/
  label : held.label = first.label
  /-- The other fields of the first record. -/
  extra : held.extra = first.extra
  /-- There is information if any of the records has some. -/
  info_eq_none : held.info = none ↔ ∀ r ∈ all, r.info = none
  /-- Its fields stand in the order in which they first appear in the records. -/
  keys : ∀ info, held.info = some info →
    info.keys = ((all.filterMap Record.info).flatMap Table.keys).eraseDups
  /-- Each has its value in the last record that has the field. -/
  get? : ∀ info, held.info = some info →
    ∀ name, info.get? name = Table.lastValue? name (all.filterMap Record.info)

theorem foldl_absorb_eq (first : Record) (later : List Record) :
    later.foldl absorb first =
      first.withInfo (overlaid ((first :: later).filterMap Record.info)) := by
  induction later using List.reverseRecOn with
  | nil =>
    cases h : first.info <;> simp [h, overlaid, withInfo] <;> rw [← h]
  | append_singleton later r ih =>
    rw [List.foldl_append, List.foldl_cons, List.foldl_nil, ih, ← List.cons_append,
      List.filterMap_append]
    cases h : r.info with
    | none => simp [absorb, withInfo, h, mergedInfo]
    | some info =>
      have hone : [r].filterMap Record.info = [info] := by simp [h]
      rw [hone, overlaid_concat, absorb, h]
      rfl

/-- **A record with the information of later ones added.** -/
theorem foldl_absorb_unites (first : Record) (later : List Record) :
    (later.foldl absorb first).Unites first (first :: later) := by
  rw [foldl_absorb_eq]
  have hinfo : ∀ info, (first.withInfo
      (overlaid ((first :: later).filterMap Record.info))).info = some info →
        overlaid ((first :: later).filterMap Record.info) = some info := fun _ h => h
  exact {
    subject := rfl
    entity := rfl
    label := rfl
    extra := rfl
    info_eq_none := by
      show overlaid _ = none ↔ _
      rw [overlaid_eq_none_iff, List.filterMap_eq_nil_iff]
    keys := fun info h => (overlaid_eq_some (hinfo info h)).1
    get? := fun info h => (overlaid_eq_some (hinfo info h)).2 }

end Record

/-! ### One entity by itself -/

/-- A record taken in where one may be held of the entity already. -/
def joinHeld : Option Record → Record → Option Record
  | none, r => some r
  | some first, r => some (first.absorb r)

theorem get?_mergeRecord (bucket : Table Record) (r : Record) (key : String) :
    (mergeRecord bucket r).get? key =
      if r.key = key then joinHeld (bucket.get? key) r else bucket.get? key := by
  rw [mergeRecord]
  split <;> rename_i h <;> rw [Table.get?_set]
  all_goals
    by_cases hk : r.key = key
    · rw [← hk, h]; simp [joinHeld]
    · simp [hk]

theorem keys_mergeRecord (bucket : Table Record) (r : Record) :
    (mergeRecord bucket r).keys = if r.key ∈ bucket.keys then bucket.keys
      else bucket.keys ++ [r.key] := by
  rw [mergeRecord]
  split <;> rw [Table.keys_set]

/-- **The records of one id by themselves.** -/
theorem get?_foldl_mergeRecord (records : List Record) (bucket : Table Record) (key : String) :
    (records.foldl mergeRecord bucket).get? key =
      (records.filter fun r => r.key = key).foldl joinHeld (bucket.get? key) := by
  induction records generalizing bucket with
  | nil => rfl
  | cons r records ih =>
    rw [List.foldl_cons, ih, get?_mergeRecord]
    by_cases h : r.key = key <;> simp [h]

theorem keys_foldl_mergeRecord (records : List Record) (bucket : Table Record) :
    (records.foldl mergeRecord bucket).keys =
      (bucket.keys ++ records.map Record.key).eraseDups := by
  induction records using List.reverseRecOn with
  | nil => rw [List.map_nil, List.append_nil, eraseDups_of_nodup bucket.nodup_keys]; rfl
  | append_singleton records r ih =>
    rw [List.foldl_append, List.foldl_cons, List.foldl_nil, keys_mergeRecord, ih, List.map_append,
      List.map_singleton, ← List.append_assoc, eraseDups_concat]
    simp only [List.mem_eraseDups]

theorem foldl_joinHeld (first : Record) (later : List Record) :
    later.foldl joinHeld (some first) = some (later.foldl Record.absorb first) := by
  induction later generalizing first with
  | nil => rfl
  | cons r later ih => rw [List.foldl_cons, List.foldl_cons, joinHeld, ih]

namespace State

/-- **The records of one kind by themselves.** -/
theorem bucket_foldl_accept (records : List Record) (s : State) (kind : Kind) :
    (records.foldl accept s).bucket kind =
      (records.filter fun r => r.kind = kind).foldl mergeRecord (s.bucket kind) := by
  induction records generalizing s with
  | nil => rfl
  | cons r records ih =>
    rw [List.foldl_cons, ih]
    by_cases h : r.kind = kind
    · subst h
      simp [accept_bucket]
    · simp [h, accept_bucket_of_ne s r h]

end State

/-- The records of one entity among some, in order. -/
def Record.ofEntity (kind : Kind) (key : String) (records : List Record) : List Record :=
  records.filter fun r => r.kind = kind ∧ r.key = key

namespace State

/-- **What is held after any records were taken in.**  Of each kind the ids are held that occur, in
the order in which they first do.  Of each entity that occurs the first record is held, with the
information of all records of the entity. -/
theorem held_foldl_accept (run : String) (records : List Record) (kind : Kind) :
    ((records.foldl accept (.start run)).bucket kind).keys =
        ((records.filter fun r => r.kind = kind).map Record.key).eraseDups ∧
      ∀ key, match Record.ofEntity kind key records with
        | [] => (records.foldl accept (.start run)).held? kind key = none
        | first :: later => ∃ held,
          (records.foldl accept (.start run)).held? kind key = some held ∧
            held.Unites first (first :: later) := by
  have hbucket := bucket_foldl_accept records (.start run) kind
  rw [bucket_start] at hbucket
  refine ⟨by rw [hbucket, keys_foldl_mergeRecord]; rfl, fun key => ?_⟩
  -- what is held of one entity is made from its records alone, beginning with nothing
  have hheld : (records.foldl accept (.start run)).held? kind key =
      (Record.ofEntity kind key records).foldl joinHeld none := by
    rw [held?, hbucket, get?_foldl_mergeRecord, List.filter_filter, Table.get?_empty,
      Record.ofEntity]
    congr 2
    funext r
    simp [and_comm]
  rw [hheld]
  cases Record.ofEntity kind key records with
  | nil => rfl
  | cons first later =>
    refine ⟨later.foldl Record.absorb first, ?_, Record.foldl_absorb_unites first later⟩
    rw [List.foldl_cons, joinHeld, foldl_joinHeld]

end State

end RunHistory
