import RunHistory.Desk

/-!
# Sessions

In a session records come in one by one, may be set aside under a name and taken in later, any
number of times, and the run may be linked at any time.  A record that was set aside and then taken
in as the first of its entity is the record held from then on, so that its name shows what becomes
of it; any other record that was set aside stays as it was.

## Main definitions

* `Session`: the records on a desk, the names of those set aside, and the last tree linked.
* `Session.take`, `Session.ingest`: take in a record, as it is or after its run was checked.
* `Session.setAside`, `Session.takeAside`, `Session.aside?`: set a record aside, take it in, show
  it.
* `Session.relate`: write the relations of an attempt's record into its information.
* `Session.link`: link the run.
* `Session.Step`, `Session.step`, `Session.perform`: whatever may be done in a session.
-/

namespace RunHistory

/-- A session. -/
structure Session where
  /-- The records. -/
  desk : Desk
  /-- The numbers of the cards set aside, by name. -/
  asides : Table Nat
  /-- The last tree linked. -/
  latest : Option Dag
  deriving Inhabited

namespace Session

/-- A session at its start. -/
def start (run : String) : Session := ⟨.start run, .empty, none⟩

/-- What is known of the run. -/
def state (s : Session) : State := s.desk.state

/-- What became of a record that was taken in. -/
structure Taken where
  /-- Whether it is the record held for its entity. -/
  isHeld : Bool
  /-- The record held for its entity. -/
  record : Record
  deriving Inhabited

/-- Take in a card: whether it is the one that is held for its entity, and what that one shows then.
-/
def take (s : Session) (number : Nat) : Taken × Session :=
  let desk := s.desk.accept number
  let r := desk.record number
  let held := (desk.held? r.kind r.key).getD number
  (⟨held == number, desk.record held⟩, { s with desk := desk })

/-- Lay down a record as a new card. -/
def lay (s : Session) (r : Record) : Nat × Session :=
  (s.desk.cards.length, { s with desk := s.desk.lay r })

/-- What became of the text of a record. -/
inductive Fate where
  /-- It is about no entity. -/
  | ignored
  /-- It belongs to another run. -/
  | foreign
  /-- It was taken in. -/
  | taken (taken : Taken)
  deriving Inhabited

/-- A verdict taken in. -/
def follow (s : Session) : Verdict → Fate × Session
  | .ignored _ => (.ignored, s)
  | .foreign r _ =>
    let (_, laid) := s.lay r
    (.foreign, { laid with desk := laid.desk.skip })
  | .accepted r =>
    let (number, laid) := s.lay r
    let (taken, after) := laid.take number
    (.taken taken, after)

/-- Take in the text of a record if it belongs to the run. -/
def ingest (s : Session) (text : List Char) : Outcome Fate × Session :=
  match judgeText s.desk.run text with
  | .error e => (.refuse [] e, s)
  | .ok verdict =>
    let (fate, after) := s.follow verdict
    (⟨(verdict.notice? s.desk.run).toList, .ok fate⟩, after)

/-- Go on with the record that a text writes, whatever run it belongs to, as a new card. -/
def withRecord {α : Type} (s : Session) (text : List Char) (next : Nat → Session → α × Session) :
    Outcome (Option α) × Session :=
  match Record.decode text >>= Record.route with
  | .error e => (.refuse [] e, s)
  | .ok (label, none) => (⟨label.notice?.toList, .ok none⟩, s)
  | .ok (_, some r) =>
    let (number, laid) := s.lay r
    let (a, after) := next number laid
    (⟨[], .ok (some a)⟩, after)

/-- Take in the text of a record whatever run it belongs to. -/
def accept (s : Session) (text : List Char) : Outcome (Option Taken) × Session :=
  s.withRecord text fun number laid => laid.take number

/-- Set the text of a record aside under a name. -/
def setAside (s : Session) (name : String) (text : List Char) :
    Outcome (Option Record) × Session :=
  s.withRecord text fun number laid =>
    (laid.desk.record number, { laid with asides := laid.asides.set name number })

/-- The record that was set aside under a name, as it is now. -/
def aside? (s : Session) (name : String) : Option Record :=
  (s.asides.get? name).bind s.desk.record?

/-- Take in the record that was set aside under a name. -/
def takeAside (s : Session) (name : String) : Option (Taken × Session) :=
  (s.asides.get? name).map s.take

/-- Take in the record held for an entity once more. -/
def retake (s : Session) (kind : Kind) (key : String) : Option (Record × Session) :=
  (s.desk.held? kind key).map fun number =>
    let (taken, after) := s.take number
    (taken.record, after)

/-- Write the relations of the record held for an attempt into its information. -/
def relate (s : Session) (key : String) : Option (Record × Session) :=
  (s.desk.held? .attempt key).map fun number =>
    let desk := s.desk.relate number
    (desk.record number, { s with desk := desk })

/-- Link the run. -/
def link (s : Session) : Outcome Dag × Session :=
  let (outcome, desk) := s.desk.link
  let latest := match outcome.result with
    | .ok d => some d
    | .error _ => s.latest
  (outcome, { s with desk := desk, latest := latest })

/-! ### Steps -/

/-- Whatever may be done in a session. -/
inductive Step where
  /-- Set the text of a record aside. -/
  | setAside (name : String) (text : List Char)
  /-- Take in a record that was set aside. -/
  | takeAside (name : String)
  /-- Take in the text of a record if it belongs to the run. -/
  | ingest (text : List Char)
  /-- Take in the text of a record. -/
  | accept (text : List Char)
  /-- Write down the relations of an attempt. -/
  | relate (key : String)
  /-- Take in the record that is held once more. -/
  | retake (kind : Kind) (key : String)
  /-- Link the run. -/
  | link
  deriving DecidableEq, Repr

/-- A session after a step; a step that fails changes nothing. -/
def step (s : Session) : Step → Session
  | .setAside name text => (s.setAside name text).2
  | .takeAside name => ((s.takeAside name).map Prod.snd).getD s
  | .ingest text => (s.ingest text).2
  | .accept text => (s.accept text).2
  | .relate key => ((s.relate key).map Prod.snd).getD s
  | .retake kind key => ((s.retake kind key).map Prod.snd).getD s
  | .link => s.link.2

/-- A session after some steps. -/
def perform (s : Session) (steps : List Step) : Session := steps.foldl step s

end Session

end RunHistory
