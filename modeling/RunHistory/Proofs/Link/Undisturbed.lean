import RunHistory.Proofs.Link.Alike
import RunHistory.Proofs.Link.Refused
import RunHistory.Proofs.State.Related

/-!
# Linking in between

Linking writes the names of related entities into the records of attempts, and stops wherever it is
refused, so some records may be written to and others not.  Nothing of it comes to light: however
often what is known of a run is linked while its records are taken in, linking it at the end results
in the same tree, or in the same failure, as if it had not been linked before.  Only the places of
the written fields among the other information of an attempt may differ.

## Main definitions

* `SameResult`: two results of which both are failures, and then the same, or neither.
* `Attempt.SameFields`: attempts that differ in the places of the written fields only.
* `Progress.count`: the number of items that a step came to.
* `Move`, `State.follow`: taking in a record, or linking.

## Main results

* `State.outcome_link`, `State.state_link`: linking as one stage more, after the tasks.
* `State.withoutRelations_foldl_follow`: **what is left of linking in between.**
* `State.link_undisturbed`: **linking in between does not change what linking results in.**
-/

namespace RunHistory

/-! ### Results that are the same but for their values -/

/-- Two results of which both are failures, and then the same, or neither. -/
inductive SameResult {ε α β : Type} (related : α → β → Prop) : Except ε α → Except ε β → Prop where
  /-- Both fail, for the same cause. -/
  | error (e : ε) : SameResult related (.error e) (.error e)
  /-- Both have a value. -/
  | ok {a : α} {b : β} (values : related a b) : SameResult related (.ok a) (.ok b)

/-- How steps on items end depends on the results of the steps only. -/
theorem upToFailure_eq_of_map {ε α β : Type} (f : α → Except ε β) (items : List α) :
    upToFailure f items = upToFailure id (items.map f) := by
  induction items with
  | nil => rfl
  | cons a items ih =>
    rw [List.map_cons]
    unfold upToFailure
    rw [ih]
    rfl

/-- Steps on items that have the same results end in the same way. -/
theorem forall₂_upToFailure {ε α α' β β' : Type} {f : α → Except ε β} {g : α' → Except ε β'}
    {related : β → β' → Prop} {items : List α} {items' : List α'}
    (h : List.Forall₂ (fun a a' => SameResult related (f a) (g a')) items items') :
    (upToFailure f items).failure = (upToFailure g items').failure ∧
      List.Forall₂ related (upToFailure f items).done (upToFailure g items').done := by
  induction h with
  | nil => exact ⟨rfl, .nil⟩
  | @cons a a' items items' hstep _ ih =>
    unfold upToFailure
    generalize f a = result at hstep ⊢
    generalize g a' = result' at hstep ⊢
    cases hstep with
    | error e => exact ⟨rfl, .nil⟩
    | ok hvalues => exact ⟨ih.1, .cons hvalues ih.2⟩

/-! ### Attempts from records that were written to or not -/

/-- An attempt with other information. -/
def Attempt.setInfo (a : Attempt) (info : Table Value) : Attempt := { a with info := info }

/-- Attempts that are the same but for the places of the written fields among the others. -/
structure Attempt.SameFields (a b : Attempt) : Prop where
  /-- All but the information is the same. -/
  own : b = a.setInfo b.info
  /-- Every field of the information has the same value. -/
  get? : ∀ name, a.info.get? name = b.info.get? name
  /-- The other fields stand in the same order. -/
  others : a.info.filterKeys Relation.isOther = b.info.filterKeys Relation.isOther

theorem Attempt.SameFields.refl (a : Attempt) : a.SameFields a := ⟨rfl, fun _ => rfl, rfl⟩

theorem Attempt.SameFields.within {a b : Attempt} (h : a.SameFields b) (holder : String) :
    (a.within holder).SameFields (b.within holder) := by
  refine ⟨?_, h.get?, h.others⟩
  rw [h.own]
  rfl

theorem Attempt.SameFields.id_eq {a b : Attempt} (h : a.SameFields b) : a.id = b.id := by
  rw [h.own]
  rfl

namespace Link

/-- Attempts in the same place that are the same but for the places of the written fields. -/
structure SamePlaced (p q : TaskId × Attempt) : Prop where
  /-- They are in the same place. -/
  place : p.1 = q.1
  /-- They are the same but for the places of the written fields. -/
  attempt : p.2.SameFields q.2

end Link

theorem Attempt.ofRecord_sameFields {a b : Record} (hkey : a.key = b.key)
    (hget : ∀ name, (Facts.infoOf a).get? name = (Facts.infoOf b).get? name)
    (hothers : (Facts.infoOf a).filterKeys Relation.isOther =
      (Facts.infoOf b).filterKeys Relation.isOther) :
    SameResult Attempt.SameFields (Attempt.ofRecord a) (Attempt.ofRecord b) := by
  have hfield : ∀ name, field (Facts.infoOf b) name = field (Facts.infoOf a) name := by
    intro name
    rw [field, field, hget]
  unfold Attempt.ofRecord Facts.ofRecord
  simp only [hfield, hkey]
  cases (field (Facts.infoOf a) "startTime").whole? with
  | error e => exact .error e
  | ok startTime =>
    cases (field (Facts.infoOf a) "endTime").whole? with
    | error e => exact .error e
    | ok finishTime =>
      refine .ok ⟨?_, hget, hothers⟩
      simp only [hfield]
      rfl

/-- **Records that agree but for the written fields tell of the same attempt.** -/
theorem Attempt.ofRecord_withRelations {a b : Record}
    (h : a.withoutRelations = b.withoutRelations) :
    SameResult Attempt.SameFields (Attempt.ofRecord a.withRelations)
      (Attempt.ofRecord b.withRelations) := by
  obtain ⟨subject, entity, label, info, extra⟩ := a
  obtain ⟨subject', entity', label', info', extra'⟩ := b
  simp only [Record.withoutRelations, Record.withInfo, Record.mk.injEq] at h
  obtain ⟨rfl, rfl, rfl, hinfo, rfl⟩ := h
  cases info with
  | none =>
    rw [Option.map_none] at hinfo
    obtain rfl := Option.map_eq_none_iff.1 hinfo.symm
    exact ofRecord_sameFields rfl (fun _ => rfl) rfl
  | some info =>
    rw [Option.map_some] at hinfo
    obtain ⟨info', rfl, hinfo'⟩ := Option.map_eq_some_iff.1 hinfo.symm
    apply ofRecord_sameFields
    · rfl
    · intro name
      exact Relation.get?_intoInfo_congr hinfo'.symm name
    · exact Relation.filterKeys_isOther_intoInfo_congr hinfo'.symm

namespace Link

theorem attempt_same (d : Dag) {a b : Record} (h : a.withoutRelations = b.withoutRelations) :
    SameResult SamePlaced (attempt d a) (attempt d b) := by
  have hmade := Attempt.ofRecord_withRelations h
  unfold attempt
  generalize Attempt.ofRecord a.withRelations = made at hmade ⊢
  generalize Attempt.ofRecord b.withRelations = made' at hmade ⊢
  cases hmade with
  | error e => exact .error e
  | @ok x y hxy =>
    simp only [ok_bind, hxy.id_eq]
    cases AttemptId.ofValue (.str y.id) with
    | error e => exact .error e
    | ok id =>
      simp only [ok_bind]
      cases d.task? (.str id.task.text) with
      | error e => exact .error e
      | ok found =>
        cases found with
        | none => exact .error _
        | some t => exact .ok ⟨rfl, hxy⟩

end Link

/-! ### Attempts as the last stage -/

open Link in
/-- **Linking is one stage more** than linking without the attempts. -/
theorem State.outcome_link (s : State) : s.link.outcome =
    (withoutAttempts s).link.outcome.andThen fun filled =>
      placeAttempts filled (upToFailure (attempt filled) s.attempts.values) := by
  unfold link
  rw [show dag (withoutAttempts s) = dag s from rfl]
  cases dag s with
  | error e => rfl
  | ok bare =>
    rw [show (withoutAttempts s).vertices = s.vertices from rfl]
    dsimp only
    cases (upToFailure Vertex.ofRecord s.vertices.values).failure with
    | some e => rfl
    | none =>
      rw [show (withoutAttempts s).tasks = s.tasks from rfl]
      dsimp only
      cases (upToFailure (task _) s.tasks.values).failure with
      | some e => rfl
      | none =>
        rw [show (withoutAttempts s).attempts.values = [] from rfl]
        dsimp only [upToFailure]
        simp only [List.map_nil, List.append_nil, List.foldl_nil, Outcome.andThen]
        unfold placeAttempts
        dsimp only
        cases (upToFailure (attempt _) s.attempts.values).failure with
        | some e => simp only [Outcome.refuse, List.append_assoc]
        | none => rfl

/-- The number of items that a step came to, with the one that it failed on. -/
def Progress.count {ε β : Type} (p : Progress ε β) : Nat :=
  p.done.length + p.failure.toList.length

theorem Progress.count_cons {ε β : Type} (b : β) (p : Progress ε β) :
    (Progress.mk (b :: p.done) p.failure).count = p.count + 1 := by
  show p.done.length + 1 + p.failure.toList.length = p.done.length + p.failure.toList.length + 1
  omega

/-- **Linking writes to the attempts that it comes to**, if the other stages succeed. -/
theorem State.state_link (s : State) : s.link.state =
    match (Link.withoutAttempts s).link.outcome.result with
    | .error _ => s
    | .ok filled => Link.related s (upToFailure (Link.attempt filled) s.attempts.values).count := by
  unfold link
  rw [show Link.dag (Link.withoutAttempts s) = Link.dag s from rfl]
  cases Link.dag s with
  | error e => rfl
  | ok bare =>
    rw [show (Link.withoutAttempts s).vertices = s.vertices from rfl]
    dsimp only
    cases (upToFailure Vertex.ofRecord s.vertices.values).failure with
    | some e => rfl
    | none =>
      rw [show (Link.withoutAttempts s).tasks = s.tasks from rfl]
      dsimp only
      cases (upToFailure (Link.task _) s.tasks.values).failure with
      | some e => rfl
      | none =>
        rw [show (Link.withoutAttempts s).attempts.values = [] from rfl]
        dsimp only [upToFailure, List.foldl_nil, Progress.count]
        cases (upToFailure (Link.attempt _) s.attempts.values).failure <;> rfl

/-! ### Outcomes -/

/-- Outcomes with the same notices, and with the same failure or trees that differ in the places of
the written fields only. -/
structure Outcome.SameFields (a b : Outcome Dag) : Prop where
  /-- The same notices are given. -/
  notices : a.notices = b.notices
  /-- The failures are the same, or there are none and the trees are alike. -/
  result : SameResult (Dag.Alike Eq Attempt.SameFields) a.result b.result

namespace Link

/-- Attempts that are placed alike make trees that are alike. -/
theorem alike_foldl_putAttempt {d e : Dag} (h : d.Alike Eq Attempt.SameFields e)
    {placed placed' : List (TaskId × Attempt)} (hplaced : List.Forall₂ SamePlaced placed placed') :
    (placed.foldl putAttempt d).Alike Eq Attempt.SameFields (placed'.foldl putAttempt e) := by
  induction hplaced generalizing d e with
  | nil => exact h
  | @cons p p' placed placed' hp _ ih =>
    obtain ⟨id, a⟩ := p
    obtain ⟨id', b⟩ := p'
    obtain ⟨rfl, hab⟩ := hp
    apply ih
    exact h.putAttempt hab.id_eq hab.within

theorem placeAttempts_same (filled : Dag) {p q : Progress Failure (TaskId × Attempt)}
    (hfailure : p.failure = q.failure) (hdone : List.Forall₂ SamePlaced p.done q.done) :
    (placeAttempts filled p).SameFields (placeAttempts filled q) := by
  have htold : (p.done.map fun p => Notice.attemptParsed p.2.id) =
      q.done.map fun p => Notice.attemptParsed p.2.id := by
    generalize p.done = done at hdone ⊢
    generalize q.done = done' at hdone ⊢
    induction hdone with
    | nil => rfl
    | cons hpq _ ih => rw [List.map_cons, List.map_cons, ih, hpq.attempt.id_eq]
  unfold placeAttempts
  rw [hfailure, htold]
  cases q.failure with
  | some e => exact ⟨rfl, .error e⟩
  | none => exact ⟨rfl, .ok (alike_foldl_putAttempt (.refl .refl filled) hdone)⟩

end Link

/-- Records that agree but for the written fields are linked alike. -/
theorem State.outcome_link_same {s₁ s₂ : State} (h : s₁.withoutRelations = s₂.withoutRelations) :
    s₁.link.outcome.SameFields s₂.link.outcome := by
  have hrest : Link.withoutAttempts s₁ = Link.withoutAttempts s₂ := by
    show Link.withoutAttempts s₁.withoutRelations = Link.withoutAttempts s₂.withoutRelations
    rw [h]
  have hattempts : List.Forall₂ (fun a b => a.withoutRelations = b.withoutRelations)
      s₁.attempts.values s₂.attempts.values := by
    have hvalues : List.Forall₂ Eq (s₁.attempts.values.map Record.withoutRelations)
        (s₂.attempts.values.map Record.withoutRelations) := by
      rw [List.forall₂_eq_eq_eq, ← Table.values_mapValues, ← Table.values_mapValues]
      exact congrArg (fun s => s.attempts.values) h
    rwa [List.forall₂_map_left_iff, List.forall₂_map_right_iff] at hvalues
  rw [outcome_link s₁, outcome_link s₂, hrest]
  unfold Outcome.andThen
  cases (Link.withoutAttempts s₂).link.outcome.result with
  | error e => exact ⟨rfl, .error e⟩
  | ok filled =>
    obtain ⟨hfailure, hdone⟩ := forall₂_upToFailure
      (hattempts.imp fun a b hab => Link.attempt_same filled hab)
    have hsame := Link.placeAttempts_same filled hfailure hdone
    refine ⟨?_, hsame.result⟩
    dsimp only
    rw [hsame.notices]

/-! ### Linking in between -/

/-- Something done to what is known of a run. -/
inductive Move where
  /-- A record is taken in. -/
  | accept (r : Record)
  /-- The records are linked. -/
  | link

/-- The record that is taken in, if one is. -/
def Move.record? : Move → Option Record
  | .accept r => some r
  | .link => none

namespace State

/-- What is known of a run after something was done to it. -/
def follow (s : State) : Move → State
  | .accept r => s.accept r
  | .link => s.link.state

/-- Linking writes to some of the attempts, if it comes to them. -/
theorem state_link_cases (s : State) :
    s.link.state = s ∨ ∃ count, s.link.state = Link.related s count := by
  rw [state_link]
  cases (Link.withoutAttempts s).link.outcome.result with
  | error e => exact .inl rfl
  | ok filled => exact .inr ⟨_, rfl⟩

/-- Linking writes to the written fields only. -/
theorem withoutRelations_link (s : State) : s.link.state.withoutRelations = s.withoutRelations := by
  rcases s.state_link_cases with h | ⟨count, h⟩
  · rw [h]
  · have hattempts :=
      Table.mapValues_mapFirst Record.withoutRelations_withRelations s.attempts count
    rw [h]
    simp only [Link.related, withoutRelations, hattempts]

/-- **What is left of linking in between** is in the written fields only. -/
theorem withoutRelations_foldl_follow {s₁ s₂ : State}
    (h : s₁.withoutRelations = s₂.withoutRelations) (moves : List Move) :
    (moves.foldl follow s₁).withoutRelations =
      ((moves.filterMap Move.record?).foldl accept s₂).withoutRelations := by
  induction moves generalizing s₁ s₂ with
  | nil => exact h
  | cons move moves ih =>
    cases move with
    | accept r => exact ih (withoutRelations_accept_congr h r)
    | link => exact ih ((withoutRelations_link s₁).trans h)

/-- Linking again results in the same. -/
theorem outcome_link_link (s : State) : s.link.state.link.outcome = s.link.outcome := by
  rcases s.state_link_cases with h | ⟨count, h⟩
  · rw [h]
  · have hattempts : ∀ filled : Dag,
        upToFailure (Link.attempt filled) (Link.related s count).attempts.values =
          upToFailure (Link.attempt filled) s.attempts.values := by
      intro filled
      have hagain : ∀ r : Record,
          Link.attempt filled r.withRelations = Link.attempt filled r := by
        intro r
        unfold Link.attempt
        rw [r.withRelations_withRelations]
      have hvalues := congrArg Table.values (Table.mapValues_mapFirst hagain s.attempts count)
      rw [Table.values_mapValues, Table.values_mapValues] at hvalues
      rw [upToFailure_eq_of_map, upToFailure_eq_of_map (Link.attempt filled), ← hvalues]
      rfl
    rw [h, outcome_link s, outcome_link (Link.related s count)]
    simp only [hattempts]
    rfl

/-- **Linking in between does not change what linking results in.**  Whatever is known of a run and
whichever records are taken in, with linking in between or not, linking at the end fails in the same
way, or results in trees that differ in the places of the written fields only.  Linking twice in a
row results in the same tree, and so does writing the names of related entities twice. -/
theorem link_undisturbed (s : State) (moves : List Move) :
    (moves.foldl follow s).link.outcome.SameFields
        ((moves.filterMap Move.record?).foldl accept s).link.outcome ∧
      s.link.state.link.outcome = s.link.outcome ∧
      ∀ r : Record, r.withRelations.withRelations = r.withRelations :=
  ⟨outcome_link_same (withoutRelations_foldl_follow rfl moves), outcome_link_link s,
    Record.withRelations_withRelations⟩

end State

end RunHistory
