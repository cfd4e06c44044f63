import RunHistory.Proofs.Info.Measurable

/-!
# Entities that cannot be made from their records

When an infinite number stands where a whole one belongs, no entity is made from the record, and the
number is the only cause.

## Main definitions

* `Record.Infinite`, `State.Infinite`: an infinite number stands where a whole one belongs.
* `Record.Tells`: something is made of a record, or an infinite number is why it is not.

## Main results

* `Dag.tells_ofRecord`, `Vertex.tells_ofRecord`, `Task.tells_ofRecord`, `Attempt.tells_ofRecord`:
  **a record tells of an entity, or holds an infinite number.**
-/

namespace RunHistory

/-- An infinite number stands where a whole one belongs. -/
def Record.Infinite (r : Record) : Prop :=
  ∃ name ∈ r.kind.wholeFields, ∃ negative,
    field (Facts.infoOf r) name = .real (.infinite negative)

/-- A record that is held has an infinite number where a whole one belongs. -/
def State.Infinite (s : State) : Prop :=
  ∃ kind key r, s.held? kind key = some r ∧ r.Infinite

theorem Value.not_finite_iff {v : Value} :
    ¬v.Finite ↔ ∃ negative, v = .real (.infinite negative) := by
  simp only [Value.Finite, not_forall, not_not]

theorem Record.not_measurable_iff {r : Record} : ¬r.Measurable ↔ r.Infinite := by
  simp [Record.Measurable, Record.Infinite, Value.not_finite_iff]

theorem Value.whole?_cases (v : Value) :
    v.Finite ∧ (∃ n, v.whole? = .ok n) ∨ ¬v.Finite ∧ v.whole? = .error .infiniteNumber := by
  by_cases h : v.Finite
  · exact .inl ⟨h, h.exists_whole?⟩
  · obtain ⟨negative, rfl⟩ := Value.not_finite_iff.1 h
    exact .inr ⟨h, rfl⟩

/-- The times in a record are read unless one of them is infinite. -/
theorem Facts.ofRecord_cases (r : Record) :
    ((field (infoOf r) "startTime").Finite ∧ (field (infoOf r) "endTime").Finite) ∧
        (∃ facts, Facts.ofRecord r = .ok facts) ∨
      ¬((field (infoOf r) "startTime").Finite ∧ (field (infoOf r) "endTime").Finite) ∧
        Facts.ofRecord r = .error .infiniteNumber := by
  rw [Facts.ofRecord]
  rcases (field (infoOf r) "startTime").whole?_cases with ⟨hstart, n, hn⟩ | ⟨hstart, hn⟩
  · rcases (field (infoOf r) "endTime").whole?_cases with ⟨hend, m, hm⟩ | ⟨hend, hm⟩
    · exact .inl ⟨⟨hstart, hend⟩, by rw [hn, hm]; exact ⟨_, rfl⟩⟩
    · exact .inr ⟨fun h => hend h.2, by rw [hn, hm]; rfl⟩
  · exact .inr ⟨fun h => hstart h.1, by rw [hn]; rfl⟩

theorem Record.measurable_iff_times {r : Record} (hkind : r.kind ≠ .vertex) : r.Measurable ↔
    (field (Facts.infoOf r) "startTime").Finite ∧ (field (Facts.infoOf r) "endTime").Finite := by
  rw [Record.Measurable]
  cases hk : r.kind with
  | vertex => exact absurd hk hkind
  | _ => simp [Kind.wholeFields]

/-! ### What is made of a record -/

/-- Something is made of a record, or an infinite number in the record is why it is not. -/
def Record.Tells {α : Type} (r : Record) (made : Except Failure α) : Prop :=
  r.Measurable ∧ (∃ a, made = .ok a) ∨ r.Infinite ∧ made = .error .infiniteNumber

section

variable {α β : Type} {r : Record} {made : Except Failure α}

theorem Record.Tells.measurable (h : r.Tells made) {a : α} (ha : made = .ok a) : r.Measurable := by
  rcases h with ⟨hm, -⟩ | ⟨-, he⟩
  · exact hm
  · exact absurd (ha.symm.trans he) (by simp)

theorem Record.Tells.infinite (h : r.Tells made) {e : Failure} (he : made = .error e) :
    r.Infinite ∧ e = .infiniteNumber := by
  rcases h with ⟨-, a, ha⟩ | ⟨hinfinite, hfault⟩
  · exact absurd (ha.symm.trans he) (by simp)
  · cases hfault.symm.trans he
    exact ⟨hinfinite, rfl⟩

/-- Nothing that is made afterwards can fail, so the numbers remain the only cause. -/
theorem Record.Tells.bind (h : r.Tells made) {f : α → Except Failure β}
    (hf : ∀ a, ∃ b, f a = .ok b) : r.Tells (made >>= f) := by
  rcases h with ⟨hm, a, ha⟩ | ⟨hinfinite, he⟩
  · rw [ha, ok_bind]
    exact .inl ⟨hm, hf a⟩
  · rw [he]
    exact .inr ⟨hinfinite, rfl⟩

end

/-- A record that is not about a vertex has no other whole numbers than times. -/
theorem Record.tells_facts {r : Record} (hkind : r.kind ≠ .vertex) :
    r.Tells (Facts.ofRecord r) := by
  rw [Record.Tells, ← Record.not_measurable_iff, Record.measurable_iff_times hkind]
  exact Facts.ofRecord_cases r

theorem Dag.tells_ofRecord {r : Record} (hkind : r.kind ≠ .vertex) : r.Tells (Dag.ofRecord r) :=
  (Record.tells_facts hkind).bind fun _ => ⟨_, rfl⟩

theorem Task.tells_ofRecord {r : Record} (hkind : r.kind ≠ .vertex) : r.Tells (Task.ofRecord r) :=
  (Record.tells_facts hkind).bind fun _ => ⟨_, rfl⟩

/-- The names of related entities make no difference. -/
theorem Attempt.tells_ofRecord {r : Record} (hkind : r.kind ≠ .vertex) :
    r.Tells (Attempt.ofRecord r.withRelations) := by
  have hkind' : r.withRelations.kind ≠ .vertex := hkind
  have htells : r.withRelations.Tells (Attempt.ofRecord r.withRelations) :=
    (Record.tells_facts hkind').bind fun _ => ⟨_, rfl⟩
  rwa [Record.Tells, ← Record.not_measurable_iff, Record.measurable_withRelations_iff,
    Record.not_measurable_iff] at htells

theorem Vertex.tells_ofRecord {r : Record} (hkind : r.kind = .vertex) :
    r.Tells (Vertex.ofRecord r) := by
  by_cases hm : r.Measurable
  · exact .inl ⟨hm, Vertex.exists_ofRecord hm hkind⟩
  refine .inr ⟨Record.not_measurable_iff.1 hm, ?_⟩
  rcases Facts.ofRecord_cases r with ⟨⟨hstart, hend⟩, facts, hfacts⟩ | ⟨-, hfacts⟩
  · -- the times are finite, so one of the two other numbers is not
    have hinfo := (Facts.of_ofRecord hfacts).2
    rw [Vertex.ofRecord, hfacts, ok_bind, hinfo]
    rcases (field (Facts.infoOf r) "numTasks").whole?_cases with ⟨hcount, n, hn⟩ | ⟨-, hn⟩
    · rcases (field (Facts.infoOf r) "initTime").whole?_cases with ⟨hinit, -⟩ | ⟨-, hm⟩
      · refine absurd ?_ hm
        rw [Record.Measurable, hkind]
        simp [Kind.wholeFields, hstart, hend, hcount, hinit]
      · rw [hn, hm]
        rfl
    · rw [hn]
      rfl
  · rw [Vertex.ofRecord, hfacts]
    rfl

end RunHistory
