import RunHistory.Proofs.Link.Placing

/-!
# Trees that are alike

Two trees of a run are compared place by place: the same ids at the same places, with entities there
that agree in all that is their own.  How the order of the ids in a table may differ, and how far
two attempts must agree, is left open.

## Main definitions

* `Table.Alike`: tables with related values under the same keys.
* `Task.Alike`, `Vertex.Alike`, `Dag.Alike`: entities that are alike down to the attempts.

## Main results

* `Table.alike_of_keys`: related values under the same keys.
* `Table.Alike.set`, `Table.Alike.modify`: alike tables stay alike.
* `Dag.Alike.putAttempt`: **alike trees stay alike** when related attempts are put into them.
-/

namespace RunHistory

/-! ### Tables -/

/-- Tables with related values under the same keys. -/
structure Table.Alike {α β : Type} (order : List String → List String → Prop)
    (related : α → β → Prop) (t : Table α) (u : Table β) : Prop where
  /-- The keys of one are those of the other, in an order that may differ in some way. -/
  keys : order t.keys u.keys
  /-- The values under a key are related. -/
  get? : ∀ key, Option.Rel related (t.get? key) (u.get? key)

namespace Table

variable {α β : Type} {related : α → β → Prop} {t : Table α} {u : Table β}

/-- Tables are alike if they have the same keys and each key has related values. -/
theorem alike_of_keys {order : List String → List String → Prop} (hkeys : order t.keys u.keys)
    (hmem : ∀ key, key ∈ t.keys ↔ key ∈ u.keys)
    (h : ∀ key a b, t.get? key = some a → u.get? key = some b → related a b) :
    t.Alike order related u := by
  refine ⟨hkeys, fun key => ?_⟩
  cases ht : t.get? key with
  | none =>
    have hu : u.get? key = none := by
      rw [get?_eq_none_iff, ← hmem key, ← get?_eq_none_iff, ht]
    rw [hu]
    exact .none
  | some a =>
    obtain ⟨b, hu⟩ := mem_keys_iff.1 ((hmem key).1 (mem_keys_iff.2 ⟨a, ht⟩))
    rw [hu]
    exact .some (h key a b ht hu)

theorem Alike.refl {related : α → α → Prop} (h : ∀ a, related a a) (t : Table α) :
    t.Alike Eq related t := by
  refine ⟨rfl, fun key => ?_⟩
  cases t.get? key with
  | none => exact .none
  | some a => exact .some (h a)

theorem Alike.set (h : t.Alike Eq related u) (key : String) {a : α} {b : β} (hab : related a b) :
    (t.set key a).Alike Eq related (u.set key b) := by
  refine ⟨?_, fun key' => ?_⟩
  · rw [keys_set, keys_set, h.keys]
  · rw [get?_set, get?_set]
    by_cases hkey : key = key'
    · rw [if_pos hkey, if_pos hkey]
      exact .some hab
    · rw [if_neg hkey, if_neg hkey]
      exact h.get? key'

theorem Alike.modify {order : List String → List String → Prop} (h : t.Alike order related u)
    (key : String) {f : α → α} {g : β → β} (hfg : ∀ a b, related a b → related (f a) (g b)) :
    (t.modify key f).Alike order related (u.modify key g) := by
  refine ⟨?_, fun key' => ?_⟩
  · rw [keys_modify, keys_modify]
    exact h.keys
  · rw [get?_modify, get?_modify]
    by_cases hkey : key = key'
    · rw [if_pos hkey, if_pos hkey]
      have hvalues := h.get? key'
      generalize t.get? key' = value at hvalues ⊢
      generalize u.get? key' = value' at hvalues ⊢
      cases hvalues with
      | none => exact .none
      | some hab => exact .some (hfg _ _ hab)
    · rw [if_neg hkey, if_neg hkey]
      exact h.get? key'

end Table

/-! ### Entities -/

section

variable (order : List String → List String → Prop) (related : Attempt → Attempt → Prop)

/-- Tasks that are the same but for their attempts, which are related. -/
structure Task.Alike (t u : Task) : Prop where
  /-- All else is the same. -/
  own : u = t.setAttempts u.attempts
  /-- The same ids have related attempts. -/
  attempts : t.attempts.Alike order related u.attempts

/-- Vertices that are the same but for their tasks, which are alike. -/
structure Vertex.Alike (v w : Vertex) : Prop where
  /-- All else is the same. -/
  own : w = v.setTasks w.tasks
  /-- The same ids have tasks that are alike. -/
  tasks : v.tasks.Alike order (Task.Alike order related) w.tasks

/-- Runs that are the same but for their vertices, which are alike. -/
structure Dag.Alike (d e : Dag) : Prop where
  /-- All else is the same. -/
  own : e = d.setVertices e.vertices
  /-- The same ids have vertices that are alike. -/
  vertices : d.vertices.Alike order (Vertex.Alike order related) e.vertices

end

/-! ### Attempts put into trees that are alike -/

section

variable {related : Attempt → Attempt → Prop}

theorem Dag.Alike.refl (h : ∀ a, related a a) (d : Dag) : d.Alike Eq related d := by
  refine ⟨rfl, .refl (fun v => ⟨rfl, .refl (fun t => ⟨rfl, ?_⟩) v.tasks⟩) d.vertices⟩
  exact .refl h t.attempts

/-- Related attempts of one id may be put into tasks that are alike. -/
theorem Task.Alike.addAttempt {t u : Task} (h : t.Alike Eq related u) {a b : Attempt}
    (hid : a.id = b.id) (hwithin : ∀ holder, related (a.within holder) (b.within holder)) :
    (t.addAttempt a).Alike Eq related (u.addAttempt b) := by
  have htask : u.id = t.id := by rw [h.own]; rfl
  refine ⟨?_, ?_⟩
  · unfold Task.addAttempt
    rw [h.own]
    rfl
  · show (t.attempts.set a.id (a.within t.id)).Alike Eq related
      (u.attempts.set b.id (b.within u.id))
    rw [hid, htask]
    exact h.attempts.set b.id (hwithin t.id)

/-- And so they may be put into runs that are alike. -/
theorem Dag.Alike.putAttempt {d e : Dag} (h : d.Alike Eq related e) {id : TaskId} {a b : Attempt}
    (hid : a.id = b.id) (hwithin : ∀ holder, related (a.within holder) (b.within holder)) :
    (Link.putAttempt d (id, a)).Alike Eq related (Link.putAttempt e (id, b)) := by
  have hput : ∀ (d : Dag) (a : Attempt), Link.putAttempt d (id, a) =
      d.setVertices (d.vertices.modify id.vertex.text (Link.putAttemptIn · id.text a)) :=
    fun d a => Link.foldl_putAttempt d [(id, a)]
  have hputIn : ∀ (v : Vertex) (a : Attempt), Link.putAttemptIn v id.text a =
      v.setTasks (v.tasks.modify id.text (Task.addAttempt · a)) :=
    fun v a => Link.foldl_putAttemptIn v [(id, a)]
  rw [hput, hput]
  refine ⟨?_, h.vertices.modify id.vertex.text fun v w hvw => ?_⟩
  · rw [h.own]
    rfl
  · rw [hputIn, hputIn]
    refine ⟨?_, hvw.tasks.modify id.text fun t u htu => htu.addAttempt hid hwithin⟩
    rw [hvw.own]
    rfl

end

end RunHistory
