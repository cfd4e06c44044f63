import RunHistory.Proofs.State.Reached

/-!
# Runs by themselves

A file may tell of many runs.  What is known of one of them, and the tree that it is linked into,
depend on the records of that run alone: whatever else a file holds, in whatever number and
wherever, two files with the same records of the run lead to the same tree, or to the same failure.
To which run a record belongs is decided by the id of its entity and not by a text that the id
contains.

## Main definitions

* `routed?`, `recordOf?`: the record that an object or a text is.
* `belongs`: whether an object is a record of a run.
* `Settled`: an object that can be judged, in one of three ways.

## Main results

* `State.outcome_link_withSkipped`: linking does not look at the number of records of other runs.
* `exists_ingest_eq`: **the state reached is that of the records of the run by themselves.**
* `link_ingest_isolated`: **files with the same records of a run lead to the same tree.**
-/

namespace RunHistory

/-! ### To which run an object belongs -/

/-- The record that an object is, if it is one. -/
def routed? (raw : Table Value) : Option Record := (Record.route raw).toOption.bind Prod.snd

/-- The record that a text is, if it is one. -/
def recordOf? (text : List Char) : Option Record := (Record.decode text).toOption.bind routed?

/-- Whether an object is a record of a run. -/
def belongs (run : String) (raw : Table Value) : Bool :=
  match routed? raw with
  | some r => decide (r.owner.toOption = some run)
  | none => false

/-- An object that can be judged for a run: it is about no entity, it is a record of another run, or
it is a record of this one. -/
inductive Settled (run : String) (raw : Table Value) : Prop where
  /-- What it is about is no entity. -/
  | unknown (label : Record.Label) (route : Record.route raw = .ok (label, none))
  /-- The id of its entity names another run. -/
  | other (label : Record.Label) (r : Record) (owner : String)
    (route : Record.route raw = .ok (label, some r)) (owned : r.owner = .ok owner)
    (ne : owner ≠ run)
  /-- The id of its entity names this run. -/
  | own (label : Record.Label) (r : Record)
    (route : Record.route raw = .ok (label, some r)) (owned : r.owner = .ok run)

/-- An object that can be judged is accepted as the record that it is, if it belongs to the run. -/
theorem Settled.exists_verdict {run : String} {raw : Table Value} (h : Settled run raw) :
    ∃ v, judge run raw = .ok v ∧ v.record? = if belongs run raw then routed? raw else none := by
  cases h with
  | unknown label hroute =>
    refine ⟨.ignored label, by rw [judge, hroute]; rfl, ?_⟩
    have hrouted : routed? raw = none := by rw [routed?, hroute]; rfl
    simp [belongs, hrouted, Verdict.record?]
  | other label r owner hroute howner hne =>
    have hrouted : routed? raw = some r := by rw [routed?, hroute]; rfl
    refine ⟨.foreign r owner, ?_, ?_⟩
    · rw [judge, hroute, ok_bind]
      show r.judge run = _
      rw [Record.judge, howner, Except.map, if_neg hne]
    · simp [belongs, hrouted, howner, hne, Verdict.record?, Except.toOption]
  | own label r hroute howner =>
    have hrouted : routed? raw = some r := by rw [routed?, hroute]; rfl
    refine ⟨.accepted r, ?_, ?_⟩
    · rw [judge, hroute, ok_bind]
      show r.judge run = _
      rw [Record.judge, howner, Except.map, if_pos rfl]
    · simp [belongs, hrouted, howner, Verdict.record?, Except.toOption]

theorem settled_of_judge {run : String} {raw : Table Value} {v : Verdict}
    (h : judge run raw = .ok v) : Settled run raw := by
  obtain ⟨⟨label, found⟩, hroute, h⟩ := bind_eq_ok_iff.1 h
  cases found with
  | none => exact .unknown label hroute
  | some r =>
    obtain ⟨owner, howner, -⟩ := map_eq_ok_iff.1 h
    by_cases hrun : owner = run
    · exact .own label r hroute (hrun ▸ howner)
    · exact .other label r owner hroute howner hrun

instance (run : String) (raw : Table Value) : Decidable (Settled run raw) :=
  match h : judge run raw with
  | .ok _ => isTrue (settled_of_judge h)
  | .error _ => isFalse fun hs => by
    obtain ⟨v, hv, -⟩ := hs.exists_verdict
    rw [h] at hv
    cases hv

/-! ### The records of a run by themselves -/

/-- A step after another, for each item. -/
theorem mapM_bind_of_ok {ε α β γ : Type} {f : α → Except ε β} {g : β → Except ε γ}
    {items : List α} {results : List β} (h : items.mapM f = .ok results) :
    items.mapM (fun a => f a >>= g) = results.mapM g := by
  have hall := mapM_eq_ok_iff.1 h
  clear h
  induction hall with
  | nil => rfl
  | cons hab _ ih => rw [List.mapM_cons, List.mapM_cons, hab, ok_bind, ih]

/-- The records that are accepted are those of the run, in order. -/
theorem exists_mapM_judge {run : String} {raws : List (Table Value)}
    (h : ∀ raw ∈ raws, Settled run raw) :
    ∃ verdicts, raws.mapM (judge run) = .ok verdicts ∧
      verdicts.filterMap Verdict.record? = (raws.filter (belongs run)).filterMap routed? := by
  induction raws with
  | nil => exact ⟨[], rfl, rfl⟩
  | cons raw raws ih =>
    obtain ⟨v, hv, hrecord⟩ := (h raw List.mem_cons_self).exists_verdict
    obtain ⟨verdicts, hverdicts, heq⟩ :=
      ih fun raw' hraw' => h raw' (List.mem_cons_of_mem raw hraw')
    refine ⟨v :: verdicts, ?_, ?_⟩
    · rw [List.mapM_cons, hv, ok_bind, hverdicts, ok_bind]
      rfl
    · by_cases hbelongs : belongs run raw
      · rw [if_pos hbelongs] at hrecord
        rw [List.filter_cons, if_pos hbelongs, List.filterMap_cons, List.filterMap_cons, hrecord,
          heq]
      · rw [if_neg hbelongs] at hrecord
        rw [List.filter_cons, if_neg hbelongs, List.filterMap_cons, hrecord, heq]

/-- **The state reached is that of the records of the run by themselves**, but for the number of
records of other runs. -/
theorem exists_ingest_eq {run : String} (path : String) {texts : List (List Char)}
    {raws : List (Table Value)} (hdecode : texts.mapM Record.decode = .ok raws)
    (h : ∀ raw ∈ raws, Settled run raw) :
    ∃ s count, (ingest run path ⟨texts, none⟩).result = .ok s ∧
      s = State.withSkipped (((raws.filter (belongs run)).filterMap routed?).foldl State.accept
        (.start run)) count := by
  -- the verdicts say which records are accepted, and only those count
  obtain ⟨verdicts, hverdicts, hrecords⟩ := exists_mapM_judge h
  obtain ⟨count, hcount⟩ := State.ofVerdicts_eq run verdicts
  refine ⟨State.ofVerdicts run verdicts, count, ?_, ?_⟩
  · refine ingest_eq_ok_iff.2 ⟨rfl, verdicts, ?_, rfl⟩
    exact (mapM_bind_of_ok hdecode).trans hverdicts
  · rw [hcount, hrecords]

/-! ### The tree -/

/-- Linking does not look at the number of records of other runs. -/
theorem State.outcome_link_withSkipped (s : State) (count : Nat) :
    (s.withSkipped count).link.outcome = s.link.outcome := by
  have hdag : Link.dag (s.withSkipped count) = Link.dag s := rfl
  have hvertices : (s.withSkipped count).vertices = s.vertices := rfl
  have htasks : (s.withSkipped count).tasks = s.tasks := rfl
  have hattempts : (s.withSkipped count).attempts = s.attempts := rfl
  rw [link, link, hdag, hvertices, htasks, hattempts]
  -- both sides take the same branch at each stage
  cases Link.dag s with
  | error e => rfl
  | ok bare =>
    dsimp only
    cases (upToFailure Vertex.ofRecord s.vertices.values).failure with
    | some e => rfl
    | none =>
      dsimp only
      cases (upToFailure (Link.task _) s.tasks.values).failure with
      | some e => rfl
      | none =>
        dsimp only
        cases (upToFailure (Link.attempt _) s.attempts.values).failure <;> rfl

/-- **Files with the same records of a run lead to the same tree**, or to the same failure.  The
files may differ in everything that is no record of the run, and what is known of the run differs in
the number of records of other runs only. -/
theorem link_ingest_isolated {run : String} (path₁ path₂ : String)
    {texts₁ texts₂ : List (List Char)} {raws₁ raws₂ : List (Table Value)}
    (hdecode₁ : texts₁.mapM Record.decode = .ok raws₁)
    (hdecode₂ : texts₂.mapM Record.decode = .ok raws₂)
    (hsettled₁ : ∀ raw ∈ raws₁, Settled run raw) (hsettled₂ : ∀ raw ∈ raws₂, Settled run raw)
    (hsame : raws₁.filter (belongs run) = raws₂.filter (belongs run)) :
    ∃ s₁ s₂, (ingest run path₁ ⟨texts₁, none⟩).result = .ok s₁ ∧
      (ingest run path₂ ⟨texts₂, none⟩).result = .ok s₂ ∧
      s₁.withSkipped 0 = s₂.withSkipped 0 ∧ s₁.link.outcome = s₂.link.outcome := by
  obtain ⟨s₁, count₁, hingest₁, hs₁⟩ := exists_ingest_eq path₁ hdecode₁ hsettled₁
  obtain ⟨s₂, count₂, hingest₂, hs₂⟩ := exists_ingest_eq path₂ hdecode₂ hsettled₂
  refine ⟨s₁, s₂, hingest₁, hingest₂, ?_, ?_⟩
  · rw [hs₁, hs₂, hsame]
    rfl
  · rw [hs₁, hs₂, State.outcome_link_withSkipped, State.outcome_link_withSkipped, hsame]

/-- A text can be decoded and judged, as a record of the run or not. -/
def settles (run : String) (own : Bool) (text : List Char) : Bool :=
  (Record.decode text).toOption.any fun raw => decide (Settled run raw) && belongs run raw == own

theorem exists_of_settles {run : String} {own : Bool} {text : List Char}
    (h : settles run own text = true) :
    ∃ raw, Record.decode text = .ok raw ∧ Settled run raw ∧ belongs run raw = own := by
  rw [settles] at h
  cases hdecode : Record.decode text with
  | error e => simp [hdecode, Except.toOption] at h
  | ok raw =>
    refine ⟨raw, rfl, ?_⟩
    simpa [hdecode, Except.toOption] using h

/-- Neither ids that go on after the id of the run, nor ids that contain it, nor records about
something else come in between. -/
theorem link_ingest_isolated_among_alike : ∃ s₁ s₂,
    (ingest "dag_1" "one" ⟨[bareText "dag_1" "DAG"], none⟩).result = .ok s₁ ∧
      (ingest "dag_1" "two" ⟨[bareText "dag_10_vertex_1" "VERTEX", bareText "dag_1" "DAG",
        bareText "dag_1_vertex_1_vertex_2" "VERTEX", bareText "dag_1" "APP"], none⟩).result =
          .ok s₂ ∧
      s₁.link.outcome = s₂.link.outcome := by
  have hown : settles "dag_1" true (bareText "dag_1" "DAG") = true := by decide +kernel
  have hlonger : settles "dag_1" false (bareText "dag_10_vertex_1" "VERTEX") = true := by
    decide +kernel
  have hwithin : settles "dag_1" false (bareText "dag_1_vertex_1_vertex_2" "VERTEX") = true := by
    decide +kernel
  have hunknown : settles "dag_1" false (bareText "dag_1" "APP") = true := by decide +kernel
  obtain ⟨own, hown, hsettled, hbelongs⟩ := exists_of_settles hown
  obtain ⟨longer, hlonger, hsettled₁, hbelongs₁⟩ := exists_of_settles hlonger
  obtain ⟨within, hwithin, hsettled₂, hbelongs₂⟩ := exists_of_settles hwithin
  obtain ⟨unknown, hunknown, hsettled₃, hbelongs₃⟩ := exists_of_settles hunknown
  have hraws₁ : [bareText "dag_1" "DAG"].mapM Record.decode = .ok [own] :=
    mapM_eq_ok_iff.2 (.cons hown .nil)
  have hraws₂ : [bareText "dag_10_vertex_1" "VERTEX", bareText "dag_1" "DAG",
      bareText "dag_1_vertex_1_vertex_2" "VERTEX", bareText "dag_1" "APP"].mapM Record.decode =
        .ok [longer, own, within, unknown] :=
    mapM_eq_ok_iff.2 (.cons hlonger (.cons hown (.cons hwithin (.cons hunknown .nil))))
  have hall₁ : ∀ raw ∈ [own], Settled "dag_1" raw := by simpa using hsettled
  have hall₂ : ∀ raw ∈ [longer, own, within, unknown], Settled "dag_1" raw := by
    simp [hsettled, hsettled₁, hsettled₂, hsettled₃]
  have hsame : [own].filter (belongs "dag_1") =
      [longer, own, within, unknown].filter (belongs "dag_1") := by
    simp [hbelongs, hbelongs₁, hbelongs₂, hbelongs₃]
  obtain ⟨s₁, s₂, h₁, h₂, -, h⟩ :=
    link_ingest_isolated "one" "two" hraws₁ hraws₂ hall₁ hall₂ hsame
  exact ⟨s₁, s₂, h₁, h₂, h⟩

end RunHistory
