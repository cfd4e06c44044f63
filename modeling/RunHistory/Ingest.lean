import RunHistory.Record.Routing
import RunHistory.State

/-!
# Judging and taking in records

Each text of a record is judged by itself, for a wanted run: it is about no entity, about an entity
of another run, or about an entity of the wanted run.  Only the last kind is taken in.  The first
text that cannot be judged ends the reading.

## Main definitions

* `wantedRun`: the run that is asked for.
* `Record.owner`: the run that a record belongs to.
* `Verdict`, `judge`, `judgeText`: what a record is, for the wanted run.
* `upToFailure`: a step on one item after the other, up to the first failure.
* `State.apply`: a verdict taken in.
-/

namespace RunHistory

/-! ### The wanted run -/

/-- The run that is asked for: any text that is not blank, without the blanks around it. -/
def wantedRun : Value → Except Failure String
  | .str s => if allBlank s.toList then .error .blankRun else .ok (trimText s)
  | _ => .error .blankRun

/-- The run that a record belongs to, going by the id of its entity. -/
def Record.owner (r : Record) : Except Failure String :=
  match r.kind with
  | .dag => .ok r.key
  | .vertex => ((VertexId.parse r.entity).map (·.dag.text)).mapError Failure.ofId
  | .task => ((TaskId.parse r.entity).map (·.dag.text)).mapError Failure.ofId
  | .attempt => ((AttemptId.parse r.entity).map (·.dag.text)).mapError Failure.ofId

/-! ### Verdicts -/

/-- What a record is, for the wanted run. -/
inductive Verdict where
  /-- It is about something that is no entity. -/
  | ignored (label : Record.Label)
  /-- It belongs to another run. -/
  | foreign (record : Record) (owner : String)
  /-- It belongs to the wanted run. -/
  | accepted (record : Record)
  deriving Inhabited

/-- The verdict on a record. -/
def Record.judge (run : String) (r : Record) : Except Failure Verdict :=
  r.owner.map fun owner => if owner = run then .accepted r else .foreign r owner

/-- The verdict on an object. -/
def judge (run : String) (raw : Table Value) : Except Failure Verdict := do
  match ← Record.route raw with
  | (label, none) => .ok (.ignored label)
  | (_, some r) => r.judge run

/-- The verdict on the text of a record. -/
def judgeText (run : String) (text : List Char) : Except Failure Verdict := do
  judge run (← Record.decode text)

/-- The notice that is given with a verdict. -/
def Verdict.notice? (run : String) : Verdict → Option Notice
  | .ignored label => label.notice?
  | .foreign r owner =>
    match r.kind with
    | .dag => some (.otherRun run owner)
    | _ => some (.foreign r.entity run)
  | .accepted _ => none

/-! ### One item after the other -/

/-- The results of a step on items, in order, and the failure that ended them. -/
structure Progress (ε β : Type) where
  /-- The results. -/
  done : List β
  /-- The failure. -/
  failure : Option ε

/-- A step on one item after the other, up to the first at which it fails. -/
def upToFailure {α ε β : Type} (f : α → Except ε β) : List α → Progress ε β
  | [] => ⟨[], none⟩
  | a :: rest =>
    match f a with
    | .error e => ⟨[], some e⟩
    | .ok b =>
      let p := upToFailure f rest
      ⟨b :: p.done, p.failure⟩

/-- All results of a step on items, unless it fails. -/
def Progress.result {ε β : Type} (p : Progress ε β) : Except ε (List β) :=
  match p.failure with
  | none => .ok p.done
  | some e => .error e

theorem result_upToFailure {α ε β : Type} (f : α → Except ε β) (items : List α) :
    (upToFailure f items).result = items.mapM f := by
  induction items with
  | nil => rfl
  | cons a rest ih =>
    rw [List.mapM_cons, ← ih]
    cases h : f a with
    | error e => simp [upToFailure, h, Progress.result, bind, Except.bind]
    | ok b =>
      cases hp : (upToFailure f rest).failure <;>
        simp [upToFailure, h, hp, Progress.result, bind, Except.bind, pure, Except.pure]

/-! ### Taking in -/

/-- A verdict taken in. -/
def State.apply (s : State) : Verdict → State
  | .ignored _ => s
  | .foreign _ _ => s.skip
  | .accepted r => s.accept r

/-- What is known of a run after some verdicts. -/
def State.ofVerdicts (run : String) (verdicts : List Verdict) : State :=
  verdicts.foldl State.apply (.start run)

end RunHistory
