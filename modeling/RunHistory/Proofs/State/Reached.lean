import RunHistory.Parse
import RunHistory.Proofs.State.Merging
import RunHistory.Proofs.Steps

/-!
# The states that reading reaches

A state is reached by taking in one verdict after the other.  Whatever the records of a file are,
each record that is held then stands under its own kind and id and belongs to the wanted run.  Of
the verdicts only those count that a record was accepted with, except for the number of records that
were passed over.

## Main definitions

* `Record.Filed`, `State.Sound`: every record held stands where it belongs.
* `Verdict.record?`: the record that a verdict accepts.

## Main results

* `ingest_eq_ok_iff`: the state that a file is read into.
* `State.Sound.accept`, `State.sound_ofVerdicts`, `sound_ingest`: **every state reached is sound.**
* `State.ofVerdicts_eq`: the state is that of the accepted records by themselves.
-/

namespace RunHistory

/-! ### Reading a file -/

/-- A file is read into the state after the verdicts on its records, if each can be judged and
nothing but the end of the file ends them. -/
theorem ingest_eq_ok_iff {run path : String} {chunks : Chunks} {s : State} :
    (ingest run path chunks).result = .ok s ↔
      chunks.ending = none ∧ ∃ verdicts, chunks.records.mapM (judgeText run) = .ok verdicts ∧
        s = State.ofVerdicts run verdicts := by
  rcases upToFailure_cases (judgeText run) chunks.records with ⟨hnone, hdone⟩ | ⟨e, hsome, herror⟩
  · cases hending : chunks.ending with
    | none => simp [ingest, hnone, hdone, hending, eq_comm]
    | some ending => simp [ingest, hnone, hending]
  · simp [ingest, hsome, herror]

/-- The text of a record with a label and no information. -/
def bareText (entity label : String) : List Char :=
  ("\x7b\"entity\":\"" ++ entity ++ "\",\"entitytype\":\"" ++ label ++ "\"\x7d").toList

theorem judge_eq_accepted {run : String} {raw : Table Value} {r : Record}
    (h : judge run raw = .ok (.accepted r)) : r.owner = .ok run := by
  obtain ⟨⟨label, routed⟩, -, h⟩ := bind_eq_ok_iff.1 h
  cases routed with
  | none => cases h
  | some r' =>
    obtain ⟨owner, howner, h⟩ := map_eq_ok_iff.1 h
    by_cases hrun : owner = run
    · rw [if_pos hrun] at h
      cases h
      rw [howner, hrun]
    · rw [if_neg hrun] at h
      cases h

theorem owner_of_accepted {run : String} {texts : List (List Char)} {verdicts : List Verdict}
    (h : texts.mapM (judgeText run) = .ok verdicts) {r : Record} (hr : .accepted r ∈ verdicts) :
    r.owner = .ok run := by
  obtain ⟨text, -, htext⟩ := exists_of_mem_mapM h hr
  obtain ⟨raw, -, hraw⟩ := bind_eq_ok_iff.1 htext
  exact judge_eq_accepted hraw

/-! ### Sound states -/

/-- A record of a run that stands under its own kind and id. -/
structure Record.Filed (run : String) (kind : Kind) (key : String) (r : Record) : Prop where
  /-- It stands among the records of its kind. -/
  kind_eq : r.kind = kind
  /-- It stands under its own id. -/
  key_eq : r.key = key
  /-- Its entity belongs to the run. -/
  owner_eq : r.owner = .ok run

/-- Information that is added leaves a record where it belongs. -/
theorem Record.Filed.absorb {run key : String} {kind : Kind} {first : Record}
    (h : first.Filed run kind key) (later : Record) : (first.absorb later).Filed run kind key :=
  ⟨h.kind_eq, h.key_eq, h.owner_eq⟩

namespace State

/-- Every record held stands where it belongs. -/
def Sound (s : State) : Prop :=
  ∀ kind key r, s.held? kind key = some r → r.Filed s.run kind key

@[simp] theorem run_accept (s : State) (r : Record) : (s.accept r).run = s.run :=
  run_setBucket s r.kind _

theorem held?_accept (s : State) (r : Record) (kind : Kind) (key : String) :
    (s.accept r).held? kind key =
      if r.kind = kind ∧ r.key = key then joinHeld (s.held? kind key) r
      else s.held? kind key := by
  by_cases hkind : r.kind = kind
  · subst hkind
    rw [held?, accept_bucket, get?_mergeRecord]
    simp [held?]
  · rw [held?, accept_bucket_of_ne s r hkind, if_neg fun h => hkind h.1, held?]

theorem sound_start (run : String) : (start run).Sound := by
  intro kind key r h
  simp [held?] at h

/-- Taking in a record of the run keeps a state sound. -/
theorem Sound.accept {s : State} (hs : s.Sound) {r : Record} (hr : r.owner = .ok s.run) :
    (s.accept r).Sound := by
  intro kind key held h
  rw [run_accept]
  rw [held?_accept] at h
  by_cases hnew : r.kind = kind ∧ r.key = key
  · rw [if_pos hnew] at h
    cases hfirst : s.held? kind key with
    | none =>
      rw [hfirst] at h
      obtain rfl := Option.some.inj h
      exact ⟨hnew.1, hnew.2, hr⟩
    | some first =>
      rw [hfirst] at h
      obtain rfl := Option.some.inj h
      exact (hs kind key first hfirst).absorb r
  · rw [if_neg hnew] at h
    exact hs kind key held h

theorem sound_foldl_accept {records : List Record} {s : State} (hs : s.Sound)
    (h : ∀ r ∈ records, r.owner = .ok s.run) :
    (records.foldl State.accept s).Sound ∧ (records.foldl State.accept s).run = s.run := by
  induction records generalizing s with
  | nil => exact ⟨hs, rfl⟩
  | cons r records ih =>
    have hr : r.owner = .ok s.run := h r List.mem_cons_self
    have hnext := ih (hs.accept hr) fun r' hr' => by
      rw [run_accept]
      exact h r' (List.mem_cons_of_mem r hr')
    rwa [run_accept] at hnext

end State

/-! ### The accepted records by themselves -/

/-- The record that a verdict accepts, if it does. -/
def Verdict.record? : Verdict → Option Record
  | .accepted r => some r
  | _ => none

theorem Verdict.record?_eq_some_iff {v : Verdict} {r : Record} :
    v.record? = some r ↔ v = .accepted r := by
  cases v <;> simp [Verdict.record?]

namespace State

/-- A state with another number of records of other runs. -/
def withSkipped (s : State) (count : Nat) : State := { s with skipped := count }

theorem accept_withSkipped (s : State) (count : Nat) (r : Record) :
    (s.withSkipped count).accept r = (s.accept r).withSkipped count := by
  unfold accept
  cases r.kind <;> rfl

/-- Verdicts are taken in as the accepted records by themselves are, but for the number of records
that are passed over. -/
theorem foldl_apply_eq (verdicts : List Verdict) (s : State) : ∃ count,
    verdicts.foldl apply s =
      ((verdicts.filterMap Verdict.record?).foldl accept s).withSkipped count := by
  -- one verdict more is looked at from the end, where the count so far is known
  induction verdicts using List.reverseRecOn with
  | nil => exact ⟨s.skipped, rfl⟩
  | append_singleton verdicts v ih =>
    obtain ⟨count, hcount⟩ := ih
    rw [List.foldl_append, List.filterMap_append, List.foldl_append, hcount]
    cases v with
    | ignored label => exact ⟨count, rfl⟩
    | foreign r owner => exact ⟨count + 1, rfl⟩
    | accepted r =>
      refine ⟨count, ?_⟩
      show (withSkipped _ count).accept r = _
      rw [accept_withSkipped]
      rfl

/-- **Only the accepted records count** for what is known of a run. -/
theorem ofVerdicts_eq (run : String) (verdicts : List Verdict) : ∃ count,
    ofVerdicts run verdicts =
      ((verdicts.filterMap Verdict.record?).foldl accept (start run)).withSkipped count :=
  foldl_apply_eq verdicts (start run)

theorem Sound.withSkipped {s : State} (hs : s.Sound) (count : Nat) :
    (s.withSkipped count).Sound := by
  intro kind key r h
  have hheld : (s.withSkipped count).held? kind key = s.held? kind key := by cases kind <;> rfl
  exact hs kind key r (hheld ▸ h)

theorem sound_ofVerdicts {run : String} {verdicts : List Verdict}
    (h : ∀ r, .accepted r ∈ verdicts → r.owner = .ok run) :
    (ofVerdicts run verdicts).Sound ∧ (ofVerdicts run verdicts).run = run := by
  obtain ⟨count, hcount⟩ := ofVerdicts_eq run verdicts
  have hrecords : ∀ r ∈ verdicts.filterMap Verdict.record?, r.owner = .ok (start run).run := by
    intro r hr
    obtain ⟨v, hv, hvr⟩ := List.mem_filterMap.1 hr
    exact h r (Verdict.record?_eq_some_iff.1 hvr ▸ hv)
  obtain ⟨hsound, hrun⟩ := sound_foldl_accept (sound_start run) hrecords
  rw [hcount]
  exact ⟨hsound.withSkipped count, hrun⟩

end State

/-- **Every state that a file is read into is sound**, and it is a state of the wanted run. -/
theorem sound_ingest {run path : String} {chunks : Chunks} {s : State}
    (h : (ingest run path chunks).result = .ok s) : s.Sound ∧ s.run = run := by
  obtain ⟨-, verdicts, hverdicts, rfl⟩ := ingest_eq_ok_iff.1 h
  exact State.sound_ofVerdicts fun r hr => owner_of_accepted hverdicts hr

end RunHistory
