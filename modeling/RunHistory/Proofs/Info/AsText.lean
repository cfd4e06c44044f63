import RunHistory.Proofs.Info.Measurable
import RunHistory.Proofs.Number.Decimal

/-!
# Numbers logged as text

A whole number may be logged as an integer or as its decimal text, and it is the same number either
way: the times of an entity, the time that it took, and the count and the start of a vertex do not
depend on which of the two is in the information.

## Main definitions

* `Value.AsText`: an integer, and its decimal text.
* `Facts.numberFields`: the fields of information that numbers are read from.
* `Facts.LoggedAs`: information, and the same with some of these numbers logged as text.
* `Facts.numbers`, `Vertex.numbers`: the numbers that are read of an entity.

## Main results

* `Value.AsText.whole?_eq`: a number and its text mean the same number.
* `Facts.LoggedAs.map_bind_ofRecord`: what is read of an entity, from a record logged either way.
* `Facts.numbers_logged_as_text`: **numbers logged as text are the same numbers.**
-/

namespace RunHistory

/-- An integer, and its decimal text with spaces around it. -/
inductive Value.AsText : Value → Value → Prop where
  /-- The digits of the integer are not too many to be read. -/
  | int {n : Int} {front back : String} (short : Whole.Short n) (hfront : Whole.Spaces front)
    (hback : Whole.Spaces back) : AsText (.int n) (.str (front ++ (Value.int n).text ++ back))

/-- A number and its text mean the same number. -/
theorem Value.AsText.whole?_eq {v v' : Value} (h : v.AsText v') : v'.whole? = v.whole? := by
  cases h with
  | @int n front back hshort hfront hback =>
    show Except.ok (Whole.ofText? (front ++ toString n ++ back)) = .ok (some n)
    rw [Whole.ofText?_padded hshort hfront hback]

namespace Facts

/-- The fields of information that numbers are read from, of entities of whatever kind. -/
def numberFields : List String := "timeTaken" :: Kind.vertex.wholeFields

/-- A field, and the same field with the same value or with its number as text. -/
inductive SameField : String × Value → String × Value → Prop where
  /-- The value is the same. -/
  | same (name : String) (v : Value) : SameField (name, v) (name, v)
  /-- The number is there as text. -/
  | asText {name : String} {v v' : Value} (hname : name ∈ numberFields) (h : v.AsText v') :
    SameField (name, v) (name, v')

/-- Information, and the same with some numbers logged as text. -/
def LoggedAs (info info' : Table Value) : Prop :=
  List.Forall₂ SameField info.entries info'.entries

/-- The numbers that are read of any entity: when it started, when it finished, and how long it
took. -/
def numbers (f : Facts) : Option Int × Option Int × Except Failure (Option Int) :=
  (f.startTime, f.finishTime, f.timeTaken)

end Facts

/-- The numbers that are read of a vertex: those of any entity, the number of its tasks, and when it
was initialized. -/
def Vertex.numbers (v : Vertex) :
    (Option Int × Option Int × Except Failure (Option Int)) × Option Int × Option Int :=
  (v.toFacts.numbers, v.taskCount, v.initTime)

namespace Facts

variable {info info' : Table Value} {r : Record}

/-! ### Fields -/

/-- What is under a name is the same, or a number and its text. -/
theorem LoggedAs.get? (h : LoggedAs info info') (name : String) :
    info'.get? name = info.get? name ∨ name ∈ numberFields ∧
      ∃ v v', info.get? name = some v ∧ info'.get? name = some v' ∧ v.AsText v' := by
  unfold LoggedAs at h
  unfold Table.get?
  generalize info.entries = entries at h
  generalize info'.entries = entries' at h
  induction h with
  | nil => exact .inl rfl
  | cons hfield _ ih =>
    cases hfield with
    | same key v =>
      by_cases hkey : key = name
      · simp [lookupEntry, hkey]
      · simpa [lookupEntry, hkey] using ih
    | @asText key v v' hname hv =>
      by_cases hkey : key = name
      · exact .inr ⟨hkey ▸ hname, v, v', by simp [lookupEntry, hkey], by simp [lookupEntry, hkey], hv⟩
      · simpa [lookupEntry, hkey] using ih

theorem LoggedAs.whole?_eq (h : LoggedAs info info') (name : String) :
    (field info' name).whole? = (field info name).whole? := by
  rw [field, field]
  rcases h.get? name with hsame | ⟨-, v, v', hv, hv', htext⟩
  · rw [hsame]
  · rw [hv, hv']
    exact htext.whole?_eq

/-- Other fields are not touched. -/
theorem LoggedAs.field_eq (h : LoggedAs info info') (name : String) (hname : name ∉ numberFields) :
    field info' name = field info name := by
  rcases h.get? name with hsame | ⟨hnumber, -⟩
  · rw [field, field, hsame]
  · exact absurd hnumber hname

/-! ### Entities -/

theorem LoggedAs.numbers_eq (h : LoggedAs info info') {f : Facts} (hinfo : f.info = info) :
    ({ f with info := info' } : Facts).numbers = f.numbers := by
  have htaken : ({ f with info := info' } : Facts).timeTaken = f.timeTaken := by
    rw [timeTaken, timeTaken, hinfo, h.whole?_eq]
    rfl
  rw [numbers, numbers, htaken]

/-- The facts in a record are the same but for the information. -/
theorem LoggedAs.ofRecord_eq (h : LoggedAs info info') (hinfo : r.info = some info) :
    Facts.ofRecord (r.withInfo (some info')) =
      (Facts.ofRecord r).map fun f => { f with info := info' } := by
  have hr : infoOf r = info := by rw [infoOf, hinfo, Option.getD_some]
  have hr' : infoOf (r.withInfo (some info')) = info' := rfl
  rw [Facts.ofRecord, Facts.ofRecord, hr, hr']
  simp only [h.whole?_eq, h.field_eq "status" (by decide), h.field_eq "diagnostics" (by decide)]
  cases (field info "startTime").whole? with
  | error e => rfl
  | ok startTime =>
    cases (field info "endTime").whole? with
    | error e => rfl
    | ok finishTime => rfl

/-- What is read of an entity is the same if it is the same for all facts. -/
theorem LoggedAs.map_bind_ofRecord {α β : Type} {make : Facts → Except Failure α} {read : α → β}
    (h : LoggedAs info info') (hinfo : r.info = some info)
    (hmake : ∀ f : Facts, f.info = info →
      (make { f with info := info' }).map read = (make f).map read) :
    (Facts.ofRecord (r.withInfo (some info')) >>= make).map read =
      (Facts.ofRecord r >>= make).map read := by
  rw [h.ofRecord_eq hinfo]
  cases hfacts : Facts.ofRecord r with
  | error e => rfl
  | ok f =>
    have hf : f.info = info := by
      rw [(Facts.of_ofRecord hfacts).2, infoOf, hinfo, Option.getD_some]
    exact hmake f hf

theorem LoggedAs.vertex_eq (h : LoggedAs info info') (hinfo : r.info = some info) :
    (Vertex.ofRecord (r.withInfo (some info'))).map Vertex.numbers =
      (Vertex.ofRecord r).map Vertex.numbers := by
  refine h.map_bind_ofRecord hinfo fun f hf => ?_
  simp only [hf, h.whole?_eq]
  cases (field info "numTasks").whole? with
  | error e => rfl
  | ok taskCount =>
    cases (field info "initTime").whole? with
    | error e => rfl
    | ok initTime =>
      exact congrArg (fun numbers => Except.ok (numbers, taskCount, initTime)) (h.numbers_eq hf)

/-- **Numbers logged as text are the same numbers.**  A whole number is read from its decimal text,
whatever spaces are around it.  So the numbers that are read of an entity stay the same, or the
record is refused for the same cause, when some of them are logged as text. -/
theorem numbers_logged_as_text :
    (∀ (n : Int) (front back : String), Whole.Short n → Whole.Spaces front → Whole.Spaces back →
      ∃ s, (Value.int n).text? = some s ∧
        (Value.str (front ++ s ++ back)).whole? = .ok (some n) ∧
        (Value.int n).whole? = .ok (some n)) ∧
    ∀ (r : Record) (info info' : Table Value), r.info = some info → LoggedAs info info' →
      (Dag.ofRecord (r.withInfo (some info'))).map (fun d => d.toFacts.numbers) =
          (Dag.ofRecord r).map (fun d => d.toFacts.numbers) ∧
        (Vertex.ofRecord (r.withInfo (some info'))).map Vertex.numbers =
          (Vertex.ofRecord r).map Vertex.numbers ∧
        (Task.ofRecord (r.withInfo (some info'))).map (fun t => t.toFacts.numbers) =
          (Task.ofRecord r).map (fun t => t.toFacts.numbers) ∧
        (Attempt.ofRecord (r.withInfo (some info'))).map (fun a => a.toFacts.numbers) =
          (Attempt.ofRecord r).map (fun a => a.toFacts.numbers) := by
  refine ⟨fun n front back hshort hfront hback => ?_, fun r info info' hinfo h => ?_⟩
  · exact ⟨_, rfl, (Value.AsText.int hshort hfront hback).whole?_eq, rfl⟩
  · refine ⟨?_, h.vertex_eq hinfo, ?_, ?_⟩
    · exact h.map_bind_ofRecord hinfo fun f hf => congrArg Except.ok (h.numbers_eq hf)
    · exact h.map_bind_ofRecord hinfo fun f hf => congrArg Except.ok (h.numbers_eq hf)
    · exact h.map_bind_ofRecord hinfo fun f hf => congrArg Except.ok (h.numbers_eq hf)

/-- The times and the count of a vertex that finished before it started. -/
def hastyInfo : Table Value :=
  ⟨[("startTime", .int 10), ("vertexName", .str "m"), ("endTime", .int (-7)), ("numTasks", .int 0)],
    by decide⟩

/-- The same, all of them logged as text. -/
def hastyInfoAsText : Table Value :=
  ⟨[("startTime", .str "\t10 "), ("vertexName", .str "m"), ("endTime", .str "-7"),
    ("numTasks", .str "\x0b0\r\n")], by decide⟩

theorem hastyInfo_loggedAs : LoggedAs hastyInfo hastyInfoAsText := by
  refine .cons (.asText (by decide) ?_) (.cons (.same _ _) (.cons (.asText (by decide) ?_)
    (.cons (.asText (by decide) ?_) .nil)))
  · exact @Value.AsText.int 10 "\t" " " (by decide) (by decide) (by decide)
  · exact @Value.AsText.int (-7) "" "" (by decide) (by decide) (by decide)
  · exact @Value.AsText.int 0 "\x0b" "\r\n" (by decide) (by decide) (by decide)

/-- The time taken is the difference of two times that are logged as text. -/
theorem numbers_logged_as_text_hasty :
    (Value.str "\x0c-12\n").whole? = .ok (some (-12)) ∧ LoggedAs hastyInfo hastyInfoAsText ∧
      (Vertex.ofRecord ⟨.vertex, "vertex_1_2_3_4", "VERTEX", some hastyInfoAsText, .empty⟩).map
          Vertex.numbers =
        .ok ((some 10, some (-7), .ok (some (-17))), some 0, none) := by
  obtain ⟨hnumber, hrecord⟩ := numbers_logged_as_text
  refine ⟨?_, hastyInfo_loggedAs, ?_⟩
  · obtain ⟨s, hs, hread, -⟩ := hnumber (-12) "\x0c" "\n" (by decide) (by decide) (by decide)
    cases hs
    exact hread
  · exact (hrecord ⟨.vertex, "vertex_1_2_3_4", "VERTEX", some hastyInfo, .empty⟩ _ _ rfl
      hastyInfo_loggedAs).2.1.trans rfl

end Facts

end RunHistory
