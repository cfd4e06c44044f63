import RunHistory.Link

/-!
# Records as cards on a desk

Taking in a record writes into the record that is held, and writing down relations writes into the
record that they stand in.  So it matters which record is which: one that is taken in twice, or is
looked at again later, may have been written into in between.

On a desk every record is a card with a number.  The information on a card stands on a sheet, which
has a number too, and whatever is written into the information of a card is written on its sheet:
were two cards to share a sheet, both would show it.  A card without information that takes some
over is given a sheet of its own, with a copy.  Fields are written as a whole, so nothing is ever
written into the objects that stand in them, and these are no things of their own.

## Main definitions

* `Card`, `Desk`: records by number, with the cards that are held for the entities of a run.
* `Desk.record?`, `Desk.state`: what a card shows, and what is known of the run.
* `Desk.lay`: a new card.
* `Desk.mergeInto`, `Desk.accept`: taking in a card.
* `Desk.relate`: writing the relations of a card into its information.
* `Desk.link`: linking the cards that are held.
-/

namespace RunHistory

/-- A record whose information stands on a sheet. -/
structure Card where
  /-- What the record is about. -/
  subject : Subject
  /-- The entity as written. -/
  entity : String
  /-- The label of the entity's type as written. -/
  label : String
  /-- The number of the sheet with the information, if the record has any. -/
  sheet : Option Nat
  /-- The other fields of the record. -/
  extra : Table Value
  deriving Inhabited

namespace Card

/-- The kind of entity that the record is about. -/
def kind (c : Card) : Kind := c.subject.kind

/-- The entity's id, without blanks around it. -/
def key (c : Card) : String := trimText c.entity

/-- The record, with information read from sheets. -/
def read (c : Card) (sheet : Nat → Table Value) : Record :=
  ⟨c.subject, c.entity, c.label, c.sheet.map sheet, c.extra⟩

end Card

/-- Cards and sheets, in the order in which they were laid down. -/
structure Desk where
  /-- The id of the run. -/
  run : String
  /-- The sheets. -/
  sheets : List (Table Value)
  /-- The cards. -/
  cards : List Card
  /-- The numbers of the cards that are held, by kind and id. -/
  files : Kind → Table Nat
  /-- The number of records of other runs. -/
  skipped : Nat
  deriving Inhabited

namespace Desk

/-- The desk before any record is laid on it. -/
def start (run : String) : Desk := ⟨run, [], [], fun _ => .empty, 0⟩

/-! ### What is on the desk -/

/-- What stands on a sheet. -/
def sheet (d : Desk) (number : Nat) : Table Value := (d.sheets[number]?).getD .empty

/-- The record that a card shows. -/
def record? (d : Desk) (number : Nat) : Option Record :=
  (d.cards[number]?).map (·.read d.sheet)

/-- The card that is held for an entity. -/
def held? (d : Desk) (kind : Kind) (key : String) : Option Nat := (d.files kind).get? key

/-- The record that a card shows, where there is one. -/
def record (d : Desk) (number : Nat) : Record := (d.record? number).getD default

/-- The records that are held of one kind. -/
def records (d : Desk) (kind : Kind) : Table Record := (d.files kind).mapValues d.record

/-- What is known of the run. -/
def state (d : Desk) : State where
  run := d.run
  dags := d.records .dag
  vertices := d.records .vertex
  tasks := d.records .task
  attempts := d.records .attempt
  skipped := d.skipped

/-! ### Cards and sheets -/

/-- Lay down a record as a new card, with a new sheet if it has information. -/
def lay (d : Desk) (r : Record) : Desk :=
  { d with
    sheets := d.sheets ++ r.info.toList
    cards := d.cards ++
      [⟨r.subject, r.entity, r.label, r.info.map fun _ => d.sheets.length, r.extra⟩] }

/-- Write over what stands on a sheet. -/
def rewrite (d : Desk) (number : Nat) (change : Table Value → Table Value) : Desk :=
  { d with sheets := d.sheets.modify number change }

/-- Give a card a new sheet. -/
def hand (d : Desk) (number : Nat) (info : Table Value) : Desk :=
  { d with
    sheets := d.sheets ++ [info]
    cards := d.cards.modify number fun c => { c with sheet := some d.sheets.length } }

/-- Hold a card for an entity. -/
def file (d : Desk) (kind : Kind) (key : String) (number : Nat) : Desk :=
  { d with files := fun k => if k = kind then (d.files k).set key number else d.files k }

/-- Count a record of another run. -/
def skip (d : Desk) : Desk := { d with skipped := d.skipped + 1 }

/-! ### Taking in -/

/-- Add the information on one card to that on another one.  Nothing is done if there is none, or if
it stands on the same sheet. -/
def mergeInto (d : Desk) (first later : Nat) : Desk :=
  match d.cards[first]?, d.cards[later]? with
  | some c, some c' =>
    match c'.sheet with
    | none => d
    | some new =>
      match c.sheet with
      | none => d.hand first (d.sheet new)
      | some old => if old = new then d else d.rewrite old (·.overlay (d.sheet new))
  | _, _ => d

/-- Take in a card: hold it if it is the first of its entity, and else add its information to that
on the card that is held. -/
def accept (d : Desk) (number : Nat) : Desk :=
  match d.cards[number]? with
  | none => d
  | some c =>
    match d.held? c.kind c.key with
    | none => d.file c.kind c.key number
    | some first => d.mergeInto first number

/-! ### Linking -/

/-- Write the names of the related entities on a card into its information, if it has any. -/
def relate (d : Desk) (number : Nat) : Desk :=
  match d.cards[number]? with
  | none => d
  | some c =>
    match c.sheet with
    | none => d
    | some info => d.rewrite info (Relation.intoInfo c.subject.related)

/-- Place the attempts on some cards, up to the first that has no place.  The relations of each are
written into its information, that of the last one too. -/
def placeAll (filled : Dag) : Desk → List Nat → Progress Failure (TaskId × Attempt) × Desk
  | d, [] => (⟨[], none⟩, d)
  | d, number :: rest =>
    let written := d.relate number
    match Link.attempt filled (d.record number) with
    | .error e => (⟨[], some e⟩, written)
    | .ok placed =>
      let (progress, after) := placeAll filled written rest
      (⟨placed :: progress.done, progress.failure⟩, after)

/-- Link the cards that are held. -/
def link (d : Desk) : Outcome Dag × Desk :=
  let before := (Link.withoutAttempts d.state).link.outcome
  match before.result with
  | .error _ => (before, d)
  | .ok filled =>
    let (attempts, after) := placeAll filled d (d.files .attempt).values
    (before.andThen fun filled => Link.placeAttempts filled attempts, after)

end Desk

end RunHistory
