import RunHistory.Ingest
import RunHistory.Proofs.State.Merging
import RunHistory.Proofs.Table.Parts
import RunHistory.Record.Relation

/-!
# Records but for the names of their related entities

What linking writes into the information of an attempt's record is found in the record itself, so it
can be found again at any time.  A record without what would be written is the same before and after
writing, and what later records add to it does not depend on what was written before.

## Main definitions

* `Relation.found`: the fields that are written for some related entities.
* `Record.withoutRelations`, `State.withoutRelations`: information but for those fields.

## Main results

* `Record.withRelations_withRelations`: **writing the names again changes nothing.**
* `Record.withoutRelations_withRelations`: writing them is not seen but in their own fields.
* `State.withoutRelations_accept_congr`: and so it is with whatever is taken in later.
-/

namespace RunHistory

namespace Relation

/-- The fields that are written for some related entities. -/
def found (related : Value) : List (String × Value) :=
  slots.filterMap fun slot => (at? related slot.1 slot.2).map fun name => (slot.2, .str name)

/-- Whether a field is none of those that are written. -/
def spares (related : Value) (name : String) : Bool := !((found related).map Prod.fst).contains name

/-- Whether a field is none of those that can be written at all. -/
def isOther (name : String) : Bool := !(slots.map Prod.snd).contains name

theorem intoInfo_eq (related : Value) (info : Table Value) :
    intoInfo related info = info.setAll (found related) := by
  rw [intoInfo, found]
  generalize slots = slots
  induction slots generalizing info with
  | nil => rfl
  | cons slot slots ih =>
    rw [List.foldl_cons, List.filterMap_cons, ih]
    cases at? related slot.1 slot.2 <;> rfl

theorem sublist_found (related : Value) :
    ((found related).map Prod.fst).Sublist (slots.map Prod.snd) := by
  rw [found]
  generalize slots = slots
  induction slots with
  | nil => exact .slnil
  | cons slot slots ih =>
    rw [List.filterMap_cons]
    cases at? related slot.1 slot.2 with
    | none => exact ih.cons slot.2
    | some name => exact ih.cons_cons slot.2

theorem nodup_found (related : Value) : ((found related).map Prod.fst).Nodup := by
  have hslots : (slots.map Prod.snd).Nodup := by decide
  exact hslots.sublist (sublist_found related)

theorem spares_of_isOther (related : Value) {name : String} (h : isOther name = true) :
    spares related name = true := by
  simp only [isOther, spares, Bool.not_eq_true', List.contains_eq_mem, decide_eq_false_iff_not]
    at h ⊢
  intro hin
  exact h ((sublist_found related).subset hin)

theorem not_spares_of_mem {related : Value} {e : String × Value} (h : e ∈ found related) :
    spares related e.1 = false := by
  have hin : e.1 ∈ (found related).map Prod.fst := List.mem_map.2 ⟨e, h, rfl⟩
  simp [spares, hin]

/-- A field that is written has the written value, and every other field its old one. -/
theorem get?_intoInfo_eq (related : Value) (info : Table Value) (name : String) :
    (intoInfo related info).get? name = (lookupEntry name (found related)).or (info.get? name) := by
  rw [intoInfo_eq]
  exact Table.get?_setAll info name (found related) (nodup_found related)

theorem filterKeys_intoInfo (related : Value) (info : Table Value) :
    (intoInfo related info).filterKeys (spares related) = info.filterKeys (spares related) := by
  rw [intoInfo_eq]
  exact Table.filterKeys_setAll_of_forall info fun e he => not_spares_of_mem he

theorem intoInfo_intoInfo (related : Value) (info : Table Value) :
    intoInfo related (intoInfo related info) = intoInfo related info := by
  simp only [intoInfo_eq]
  exact Table.setAll_setAll info (nodup_found related)

/-- Information that agrees but for the written fields agrees in all fields after writing. -/
theorem get?_intoInfo_congr {related : Value} {info info' : Table Value}
    (h : info.filterKeys (spares related) = info'.filterKeys (spares related)) (name : String) :
    (intoInfo related info).get? name = (intoInfo related info').get? name := by
  rw [get?_intoInfo_eq, get?_intoInfo_eq]
  cases hfound : lookupEntry name (found related) with
  | some value => rfl
  | none =>
    have hspares : spares related name = true := by
      simp [spares, Table.lookupEntry_eq_none_iff.1 hfound]
    have hget := congrArg (Table.get? · name) h
    simp only [Table.get?_filterKeys, hspares, if_true] at hget
    rw [hget]

/-- And its other fields are in the same order. -/
theorem filterKeys_isOther_intoInfo_congr {related : Value} {info info' : Table Value}
    (h : info.filterKeys (spares related) = info'.filterKeys (spares related)) :
    (intoInfo related info).filterKeys isOther = (intoInfo related info').filterKeys isOther := by
  have hothers : ∀ info : Table Value, (intoInfo related info).filterKeys isOther =
      ((intoInfo related info).filterKeys (spares related)).filterKeys isOther := by
    intro info
    apply Table.filterKeys_filterKeys
    intro name hname
    exact spares_of_isOther related hname
  rw [hothers, hothers, filterKeys_intoInfo, filterKeys_intoInfo, h]

end Relation

/-! ### Records -/

namespace Record

/-- **Writing the names of related entities again changes nothing.** -/
theorem withRelations_withRelations (r : Record) :
    r.withRelations.withRelations = r.withRelations := by
  obtain ⟨subject, entity, label, info, extra⟩ := r
  cases info with
  | none => rfl
  | some info =>
    have hagain := Relation.intoInfo_intoInfo subject.related info
    simp [withRelations, withInfo, related, hagain]

/-- A record without the fields of its information that are written for its related entities. -/
def withoutRelations (r : Record) : Record :=
  r.withInfo (r.info.map (Table.filterKeys · (Relation.spares r.related)))

/-- Writing the names of related entities is not seen but in their own fields. -/
theorem withoutRelations_withRelations (r : Record) :
    r.withRelations.withoutRelations = r.withoutRelations := by
  obtain ⟨subject, entity, label, info, extra⟩ := r
  cases info with
  | none => rfl
  | some info =>
    have hfilter := Relation.filterKeys_intoInfo subject.related info
    simp [withRelations, withoutRelations, withInfo, related, hfilter]

theorem map_mergedInfo (keep : String → Bool) (old new : Option (Table Value)) :
    (mergedInfo old new).map (Table.filterKeys · keep) =
      mergedInfo (old.map (Table.filterKeys · keep)) (new.map (Table.filterKeys · keep)) := by
  cases old <;> cases new <;> simp [mergedInfo, Table.filterKeys_overlay]

/-- What a later record adds does not depend on what was written before. -/
theorem withoutRelations_absorb_congr {a b : Record} (h : a.withoutRelations = b.withoutRelations)
    (later : Record) : (a.absorb later).withoutRelations = (b.absorb later).withoutRelations := by
  have habsorb : ∀ r : Record, (r.absorb later).withoutRelations =
      r.withoutRelations.withInfo (mergedInfo r.withoutRelations.info
        (later.info.map (Table.filterKeys · (Relation.spares r.withoutRelations.related)))) := by
    intro r
    have hinfo := map_mergedInfo (Relation.spares r.related) r.info later.info
    exact congrArg r.withInfo hinfo
  rw [habsorb a, habsorb b, h]

end Record

/-! ### States -/

namespace State

/-- What is known of a run but for the fields that linking writes. -/
def withoutRelations (s : State) : State :=
  { s with attempts := s.attempts.mapValues Record.withoutRelations }

theorem mapValues_mergeRecord_congr {a b : Table Record}
    (h : a.mapValues Record.withoutRelations = b.mapValues Record.withoutRelations) (r : Record) :
    (mergeRecord a r).mapValues Record.withoutRelations =
      (mergeRecord b r).mapValues Record.withoutRelations := by
  have hget : (a.get? r.key).map Record.withoutRelations =
      (b.get? r.key).map Record.withoutRelations := by
    rw [← Table.get?_mapValues, ← Table.get?_mapValues, h]
  rw [mergeRecord, mergeRecord]
  cases ha : a.get? r.key with
  | none =>
    rw [ha, Option.map_none] at hget
    rw [Option.map_eq_none_iff.1 hget.symm, Table.mapValues_set, Table.mapValues_set, h]
  | some first =>
    rw [ha, Option.map_some] at hget
    obtain ⟨first', hb, hfirst⟩ := Option.map_eq_some_iff.1 hget.symm
    rw [hb, Table.mapValues_set, Table.mapValues_set, h,
      Record.withoutRelations_absorb_congr hfirst r]

/-- What is taken in does not depend on what linking wrote before. -/
theorem withoutRelations_accept_congr {s₁ s₂ : State}
    (h : s₁.withoutRelations = s₂.withoutRelations) (r : Record) :
    (s₁.accept r).withoutRelations = (s₂.accept r).withoutRelations := by
  obtain ⟨run, dags, vertices, tasks, attempts₁, skipped⟩ := s₁
  obtain ⟨run', dags', vertices', tasks', attempts₂, skipped'⟩ := s₂
  simp only [withoutRelations, State.mk.injEq] at h
  obtain ⟨rfl, rfl, rfl, rfl, hattempts, rfl⟩ := h
  unfold accept
  cases r.kind with
  | attempt =>
    have hmerged := mapValues_mergeRecord_congr hattempts r
    simp only [setBucket, bucket, withoutRelations, hmerged]
  | _ => simp only [setBucket, bucket, withoutRelations, hattempts]

end State

end RunHistory
