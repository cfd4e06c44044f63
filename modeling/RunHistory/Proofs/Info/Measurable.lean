import RunHistory.Info.Tree
import RunHistory.Proofs.Steps
import RunHistory.Proofs.Table.Overlay
import RunHistory.State

/-!
# Entities that can be made from their records

An entity is made from its record unless an infinite number stands where a whole one belongs; which
fields those are depends on the kind of the entity.  Nothing else in a record is ever refused.

## Main definitions

* `Kind.wholeFields`: the fields in which whole numbers belong.
* `Record.Measurable`, `State.Measurable`: none of them holds an infinite number.

## Main results

* `Vertex.exists_ofRecord`, `Task.exists_ofRecord`, `Attempt.exists_ofRecord`,
  `Dag.exists_ofRecord`: **a record without infinite numbers tells of an entity.**
* `Record.Measurable.withRelations`: related entities do not come in between.
-/

namespace RunHistory

/-! ### Whole numbers -/

/-- The fields of information in which whole numbers belong, for entities of a kind. -/
def Kind.wholeFields : Kind → List String
  | .vertex => ["startTime", "endTime", "numTasks", "initTime"]
  | .dag | .task | .attempt => ["startTime", "endTime"]

/-- A value that is no infinite number. -/
def Value.Finite (v : Value) : Prop := ∀ negative, v ≠ .real (.infinite negative)

instance : DecidablePred Value.Finite := fun v =>
  match v with
  | .real (.infinite negative) => isFalse fun h => h negative rfl
  | .real .nan | .real (.finite _ _ _) => isTrue fun _ h => nomatch h
  | .null | .bool _ | .int _ | .str _ | .list _ | .object _ => isTrue fun _ h => nomatch h

theorem Value.Finite.exists_whole? {v : Value} (h : v.Finite) : ∃ n, v.whole? = .ok n := by
  cases v with
  | real x =>
    cases x with
    | infinite negative => exact absurd rfl (h negative)
    | _ => exact ⟨_, rfl⟩
  | _ => exact ⟨_, rfl⟩

/-- A record without infinite numbers where whole ones belong. -/
def Record.Measurable (r : Record) : Prop :=
  ∀ name ∈ r.kind.wholeFields, (field (Facts.infoOf r) name).Finite

instance : DecidablePred Record.Measurable := fun r =>
  inferInstanceAs (Decidable (∀ name ∈ r.kind.wholeFields, _))

/-- A state that holds such records only. -/
def State.Measurable (s : State) : Prop :=
  ∀ kind key r, s.held? kind key = some r → r.Measurable

theorem State.measurable_iff {s : State} :
    s.Measurable ↔ ∀ kind ∈ Kind.all, ∀ r ∈ (s.bucket kind).values, r.Measurable := by
  constructor
  · intro h kind _ r hr
    obtain ⟨key, hkey⟩ := Table.mem_values_iff.1 hr
    exact h kind key r hkey
  · intro h kind key r hr
    exact h kind kind.mem_all r (Table.mem_values_iff.2 ⟨key, hr⟩)

instance : DecidablePred State.Measurable := fun _ => decidable_of_iff _ State.measurable_iff.symm

theorem Record.Measurable.exists_facts {r : Record} (h : r.Measurable) :
    ∃ facts, Facts.ofRecord r = .ok facts := by
  have hstart : "startTime" ∈ r.kind.wholeFields := by cases r.kind <;> decide
  have hend : "endTime" ∈ r.kind.wholeFields := by cases r.kind <;> decide
  obtain ⟨startTime, hstartTime⟩ := (h _ hstart).exists_whole?
  obtain ⟨finishTime, hfinishTime⟩ := (h _ hend).exists_whole?
  exact ⟨_, by rw [Facts.ofRecord, hstartTime, hfinishTime]; rfl⟩

/-! ### Entities by themselves -/

theorem Facts.of_ofRecord {r : Record} {facts : Facts} (h : Facts.ofRecord r = .ok facts) :
    facts.id = r.key ∧ facts.info = Facts.infoOf r := by
  obtain ⟨startTime, -, h⟩ := bind_eq_ok_iff.1 h
  obtain ⟨finishTime, -, h⟩ := bind_eq_ok_iff.1 h
  cases h
  exact ⟨rfl, rfl⟩

/-- **A record without infinite numbers tells of a run.** -/
theorem Dag.exists_ofRecord {r : Record} (h : r.Measurable) : ∃ d, Dag.ofRecord r = .ok d := by
  obtain ⟨facts, hfacts⟩ := h.exists_facts
  exact ⟨_, by rw [Dag.ofRecord, hfacts]; rfl⟩

/-- A run by itself has no vertices. -/
theorem Dag.of_ofRecord {r : Record} {d : Dag} (h : Dag.ofRecord r = .ok d) :
    d.id = r.key ∧ d.vertices = .empty := by
  obtain ⟨facts, hfacts, h⟩ := bind_eq_ok_iff.1 h
  cases h
  exact ⟨(Facts.of_ofRecord hfacts).1, rfl⟩

/-- **A record without infinite numbers tells of a vertex**, if it is about one. -/
theorem Vertex.exists_ofRecord {r : Record} (h : r.Measurable) (hkind : r.kind = .vertex) :
    ∃ v, Vertex.ofRecord r = .ok v := by
  obtain ⟨facts, hfacts⟩ := h.exists_facts
  have hfinite : ∀ name ∈ Kind.vertex.wholeFields, (field facts.info name).Finite := by
    rw [(Facts.of_ofRecord hfacts).2, ← hkind]
    exact h
  obtain ⟨taskCount, htaskCount⟩ := (hfinite "numTasks" (by decide)).exists_whole?
  obtain ⟨initTime, hinitTime⟩ := (hfinite "initTime" (by decide)).exists_whole?
  exact ⟨_, bind_eq_ok_iff.2 ⟨facts, hfacts, bind_eq_ok_iff.2 ⟨taskCount, htaskCount,
    bind_eq_ok_iff.2 ⟨initTime, hinitTime, rfl⟩⟩⟩⟩

/-- A vertex by itself has no tasks. -/
theorem Vertex.of_ofRecord {r : Record} {v : Vertex} (h : Vertex.ofRecord r = .ok v) :
    v.id = r.key ∧ v.tasks = .empty := by
  obtain ⟨facts, hfacts, h⟩ := bind_eq_ok_iff.1 h
  obtain ⟨taskCount, -, h⟩ := bind_eq_ok_iff.1 h
  obtain ⟨initTime, -, h⟩ := bind_eq_ok_iff.1 h
  cases h
  exact ⟨(Facts.of_ofRecord hfacts).1, rfl⟩

/-- **A record without infinite numbers tells of a task.** -/
theorem Task.exists_ofRecord {r : Record} (h : r.Measurable) : ∃ t, Task.ofRecord r = .ok t := by
  obtain ⟨facts, hfacts⟩ := h.exists_facts
  exact ⟨_, by rw [Task.ofRecord, hfacts]; rfl⟩

/-- A task by itself has no attempts and stands in no vertex. -/
theorem Task.of_ofRecord {r : Record} {t : Task} (h : Task.ofRecord r = .ok t) :
    t.id = r.key ∧ t.attempts = .empty ∧ t.holder = none := by
  obtain ⟨facts, hfacts, h⟩ := bind_eq_ok_iff.1 h
  cases h
  exact ⟨(Facts.of_ofRecord hfacts).1, rfl, rfl⟩

/-- **A record without infinite numbers tells of an attempt.** -/
theorem Attempt.exists_ofRecord {r : Record} (h : r.Measurable) :
    ∃ a, Attempt.ofRecord r = .ok a := by
  obtain ⟨facts, hfacts⟩ := h.exists_facts
  exact ⟨_, by rw [Attempt.ofRecord, hfacts]; rfl⟩

/-- An attempt by itself stands in no task. -/
theorem Attempt.of_ofRecord {r : Record} {a : Attempt} (h : Attempt.ofRecord r = .ok a) :
    a.id = r.key ∧ a.holder = none := by
  obtain ⟨facts, hfacts, h⟩ := bind_eq_ok_iff.1 h
  cases h
  exact ⟨(Facts.of_ofRecord hfacts).1, rfl⟩

/-! ### Related entities -/

/-- Names of related entities are written into their own two fields. -/
theorem Relation.get?_intoInfo (related : Value) (info : Table Value) {name : String}
    (hnode : name ≠ Relation.node) (hcontainer : name ≠ Relation.container) :
    (Relation.intoInfo related info).get? name = info.get? name := by
  rw [Relation.intoInfo, Relation.slots, List.foldl_cons, List.foldl_cons, List.foldl_nil]
  cases Relation.at? related 0 Relation.node <;>
    cases Relation.at? related 1 Relation.container <;>
      simp [Table.get?_set, hnode.symm, hcontainer.symm]

@[simp] theorem Record.key_withRelations (r : Record) : r.withRelations.key = r.key := rfl

theorem Kind.wholeFields_ne_slots (kind : Kind) :
    ∀ name ∈ kind.wholeFields, name ≠ Relation.node ∧ name ≠ Relation.container := by
  cases kind <;> decide

/-- Whole numbers stand in other fields than the names of related entities. -/
theorem Record.field_withRelations (r : Record) {name : String}
    (hname : name ∈ r.kind.wholeFields) :
    field (Facts.infoOf r.withRelations) name = field (Facts.infoOf r) name := by
  obtain ⟨hnode, hcontainer⟩ := r.kind.wholeFields_ne_slots name hname
  cases hinfo : r.info with
  | none => simp [Facts.infoOf, Record.withRelations, Record.withInfo, hinfo]
  | some info =>
    simp only [field, Facts.infoOf, Record.withRelations, Record.withInfo, hinfo,
      Option.map_some, Option.getD_some]
    rw [Relation.get?_intoInfo _ _ hnode hcontainer]

theorem Record.measurable_withRelations_iff {r : Record} :
    r.withRelations.Measurable ↔ r.Measurable :=
  forall₂_congr fun _ hname => by rw [r.field_withRelations hname]

theorem Record.Measurable.withRelations {r : Record} (h : r.Measurable) :
    r.withRelations.Measurable := Record.measurable_withRelations_iff.2 h

end RunHistory
