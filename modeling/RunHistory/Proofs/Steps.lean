import Mathlib.Data.List.Forall2
import RunHistory.Ingest

/-!
# Steps that may fail

A row of steps succeeds if each of them does, and fails with the failure of one of them.

## Main results

* `bind_eq_ok_iff`: a step after another.
* `mapM_eq_ok_iff`, `mapM_eq_error`: one step for each item.
* `upToFailure_cases`: the two ways in which a step on one item after the other ends.
* `upToFailure_append`: items at which the step succeeds, and others after them.
-/

namespace RunHistory

variable {ε α β : Type}

theorem ok_bind (a : α) (f : α → Except ε β) : (Except.ok a >>= f) = f a := rfl

/-- Two steps succeed if the first does, and the second does with its result. -/
theorem bind_eq_ok_iff {x : Except ε α} {f : α → Except ε β} {b : β} :
    (x >>= f) = .ok b ↔ ∃ a, x = .ok a ∧ f a = .ok b := by
  cases x <;> simp [bind, Except.bind]

theorem bind_eq_error_iff {x : Except ε α} {f : α → Except ε β} {e : ε} :
    (x >>= f) = .error e ↔ x = .error e ∨ ∃ a, x = .ok a ∧ f a = .error e := by
  cases x <;> simp [bind, Except.bind]

theorem map_eq_ok_iff {x : Except ε α} {f : α → β} {b : β} :
    x.map f = .ok b ↔ ∃ a, x = .ok a ∧ f a = b := by
  cases x <;> simp [Except.map]

theorem mapError_eq_ok_iff {ε' : Type} {f : ε → ε'} {x : Except ε α} {a : α} :
    x.mapError f = .ok a ↔ x = .ok a := by
  cases x <;> simp [Except.mapError]

theorem map_eq_error_iff {x : Except ε α} {f : α → β} {e : ε} :
    x.map f = .error e ↔ x = .error e := by
  cases x <;> simp [Except.map]

theorem mapError_eq_error_iff {ε' : Type} {f : ε → ε'} {x : Except ε α} {e : ε'} :
    x.mapError f = .error e ↔ ∃ e', x = .error e' ∧ f e' = e := by
  cases x <;> simp [Except.mapError]

theorem exists_of_toOption_map {x : Except ε α} {f : α → β} {b : β}
    (h : x.toOption.map f = some b) : ∃ a, x = .ok a ∧ f a = b := by
  cases x with
  | error e => cases h
  | ok a => exact ⟨a, rfl, Option.some.inj h⟩

/-- **A step for each item succeeds with a result for each.** -/
theorem mapM_eq_ok_iff {f : α → Except ε β} {items : List α} {results : List β} :
    items.mapM f = .ok results ↔ List.Forall₂ (fun a b => f a = .ok b) items results := by
  induction items generalizing results with
  | nil => cases results <;> simp [pure, Except.pure]
  | cons a items ih =>
    rw [List.mapM_cons, bind_eq_ok_iff]
    constructor
    · rintro ⟨b, hb, h⟩
      obtain ⟨rest, hrest, h⟩ := bind_eq_ok_iff.1 h
      cases h
      exact .cons hb (ih.1 hrest)
    · intro h
      cases h with
      | @cons _ b _ rest hb hrest =>
        exact ⟨b, hb, bind_eq_ok_iff.2 ⟨rest, ih.2 hrest, rfl⟩⟩

/-- The failure of a step for each item is that of one of the steps. -/
theorem mapM_eq_error {f : α → Except ε β} {items : List α} {e : ε}
    (h : items.mapM f = .error e) : ∃ a ∈ items, f a = .error e := by
  induction items with
  | nil => simp [pure, Except.pure] at h
  | cons a items ih =>
    rw [List.mapM_cons, bind_eq_error_iff] at h
    rcases h with ha | ⟨b, -, h⟩
    · exact ⟨a, by simp, ha⟩
    · rcases bind_eq_error_iff.1 h with hrest | ⟨rest, -, h⟩
      · obtain ⟨a', ha', he⟩ := ih hrest
        exact ⟨a', by simp [ha'], he⟩
      · cases h

theorem exists_mapM_eq_ok {f : α → Except ε β} {items : List α}
    (h : ∀ a ∈ items, ∃ b, f a = .ok b) : ∃ results, items.mapM f = .ok results := by
  cases hr : items.mapM f with
  | ok results => exact ⟨results, rfl⟩
  | error e =>
    obtain ⟨a, ha, he⟩ := mapM_eq_error hr
    obtain ⟨b, hb⟩ := h a ha
    exact absurd (hb.symm.trans he) (by simp)

theorem exists_of_mem_mapM {f : α → Except ε β} {items : List α} {results : List β}
    (h : items.mapM f = .ok results) {b : β} (hb : b ∈ results) : ∃ a ∈ items, f a = .ok b := by
  have hall := mapM_eq_ok_iff.1 h
  clear h
  induction hall with
  | nil => simp at hb
  | cons hab _ ih =>
    rcases List.mem_cons.1 hb with rfl | hb
    · exact ⟨_, by simp, hab⟩
    · obtain ⟨a, ha, h⟩ := ih hb
      exact ⟨a, by simp [ha], h⟩

theorem exists_ok_of_mem_mapM {f : α → Except ε β} {items : List α} {results : List β}
    (h : items.mapM f = .ok results) {a : α} (ha : a ∈ items) :
    ∃ b ∈ results, f a = .ok b := by
  have hall := mapM_eq_ok_iff.1 h
  clear h
  induction hall with
  | nil => simp at ha
  | cons hab _ ih =>
    rcases List.mem_cons.1 ha with rfl | ha
    · exact ⟨_, by simp, hab⟩
    · obtain ⟨b, hb, h⟩ := ih ha
      exact ⟨b, by simp [hb], h⟩

/-- **A step on one item after the other** has a result for each, or ends at a failure. -/
theorem upToFailure_cases (f : α → Except ε β) (items : List α) :
    ((upToFailure f items).failure = none ∧ items.mapM f = .ok (upToFailure f items).done) ∨
      ∃ e, (upToFailure f items).failure = some e ∧ items.mapM f = .error e := by
  rw [← result_upToFailure]
  cases h : (upToFailure f items).failure with
  | none => exact Or.inl ⟨rfl, by simp [Progress.result, h]⟩
  | some e => exact Or.inr ⟨e, rfl, by simp [Progress.result, h]⟩

/-- Items at which the step succeeds come before the others. -/
theorem upToFailure_append {f : α → Except ε β} {front : List α}
    (h : ∀ a ∈ front, ∃ b, f a = .ok b) (back : List α) : upToFailure f (front ++ back) =
      ⟨front.filterMap (fun a => (f a).toOption) ++ (upToFailure f back).done,
        (upToFailure f back).failure⟩ := by
  induction front with
  | nil => rfl
  | cons a front ih =>
    obtain ⟨b, hb⟩ := h a List.mem_cons_self
    have hrest := ih fun a' ha' => h a' (List.mem_cons_of_mem a ha')
    rw [List.cons_append, upToFailure, hb]
    simp only
    rw [hrest, List.filterMap_cons, hb]
    rfl

/-- Nothing comes of the items behind one at which the step fails. -/
theorem upToFailure_append_of_failure {f : α → Except ε β} {front : List α} {e : ε}
    (h : (upToFailure f front).failure = some e) (back : List α) :
    upToFailure f (front ++ back) = upToFailure f front := by
  induction front with
  | nil => cases h
  | cons a front ih =>
    rw [upToFailure] at h
    rw [List.cons_append, upToFailure, upToFailure]
    cases hstep : f a with
    | error e' => rfl
    | ok b =>
      rw [hstep] at h
      simp only [ih h]

end RunHistory
