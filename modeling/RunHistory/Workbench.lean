import RunHistory.Info.Lookup

/-!
# Linking entities by hand

On a workbench entities are made from single records, put into each other and edited one by one.  An
entity may be put into several others; it shows the one that it was put into last, and an edit of it
shows wherever it is held.  What holds an entity keeps it under the id that it had when it was put
there.

## Main definitions

* `Item`, `Slot`, `Workbench`: entities by themselves, with what they hold, and all together.
* `Workbench.make`, `Workbench.put`, `Workbench.edit`: making, holding and editing.
* `Workbench.view?`: an entity with all that it holds.
-/

namespace RunHistory

/-- An entity. -/
inductive Item where
  /-- A run. -/
  | dag (d : Dag)
  /-- A vertex. -/
  | vertex (v : Vertex)
  /-- A task. -/
  | task (t : Task)
  /-- An attempt. -/
  | attempt (a : Attempt)
  deriving Inhabited

namespace Item

/-- The entity that a record tells of. -/
def ofRecord (r : Record) : Except Failure Item :=
  match r.kind with
  | .dag => (Dag.ofRecord r).map .dag
  | .vertex => (Vertex.ofRecord r).map .vertex
  | .task => (Task.ofRecord r).map .task
  | .attempt => (Attempt.ofRecord r).map .attempt

/-- The facts about an entity. -/
def facts : Item → Facts
  | .dag d => d.toFacts
  | .vertex v => v.toFacts
  | .task t => t.toFacts
  | .attempt a => a.toFacts

/-- An entity with other facts. -/
def withFacts (item : Item) (facts : Facts) : Item :=
  match item with
  | .dag d => .dag { d with toFacts := facts }
  | .vertex v => .vertex { v with toFacts := facts }
  | .task t => .task { t with toFacts := facts }
  | .attempt a => .attempt { a with toFacts := facts }

/-- The id of an entity. -/
def id (item : Item) : String := item.facts.id

end Item

/-! ### Edits -/

/-- An edit of one entity. -/
inductive Edit where
  /-- Another id. -/
  | id (id : String)
  /-- Another start. -/
  | startTime (time : Option Int)
  /-- Another finish. -/
  | finishTime (time : Option Int)
  /-- Other information. -/
  | info (info : Table Value)
  /-- Another name of a vertex. -/
  | vertexName (name : Option String)
  /-- Another successful attempt of a task. -/
  | successfulId (id : Option String)
  /-- Other names that a run gives to vertices. -/
  | vertexIds (ids : Table String)

/-- An entity after an edit; an edit that does not concern its kind changes nothing. -/
def Item.edit (item : Item) : Edit → Item
  | .id id => item.withFacts { item.facts with id := id }
  | .startTime time => item.withFacts { item.facts with startTime := time }
  | .finishTime time => item.withFacts { item.facts with finishTime := time }
  | .info info => item.withFacts { item.facts with info := info }
  | .vertexName name =>
    match item with
    | .vertex v => .vertex { v with name := name }
    | _ => item
  | .successfulId id =>
    match item with
    | .task t => .task { t with successfulId := id }
    | _ => item
  | .vertexIds ids =>
    match item with
    | .dag d => .dag { d with vertexIds := ids }
    | _ => item

/-! ### Workbenches -/

/-- An entity with the numbers of what it holds and of what holds it. -/
structure Slot where
  /-- The entity by itself. -/
  item : Item
  /-- The numbers of what it holds, by the ids under which it is held. -/
  children : Table Nat
  /-- The number of what holds it. -/
  holder : Option Nat
  deriving Inhabited

/-- Entities by number, in the order in which they were made. -/
structure Workbench where
  /-- The entities. -/
  slots : List Slot
  /-- The numbers of entities, by name. -/
  names : Table Nat
  deriving Inhabited

namespace Workbench

/-- A workbench without entities. -/
def empty : Workbench := ⟨[], .empty⟩

/-- The number of the entity with a name. -/
def number? (w : Workbench) (name : String) : Option Nat := w.names.get? name

/-- The entity with a number. -/
def slot? (w : Workbench) (number : Nat) : Option Slot := w.slots[number]?

/-- Replace the entity with a number. -/
def setSlot (w : Workbench) (number : Nat) (s : Slot) : Workbench :=
  { w with slots := w.slots.set number s }

/-- Lay an entity on the workbench under a name, which another entity may have had before. -/
def make (w : Workbench) (name : String) (item : Item) : Workbench :=
  ⟨w.slots ++ [⟨item, .empty, none⟩], w.names.set name w.slots.length⟩

/-- Whether an entity can hold another one. -/
def fits : Item → Item → Bool
  | .dag _, .vertex _ => true
  | .vertex _, .task _ => true
  | .task _, .attempt _ => true
  | _, _ => false

/-- An entity as its holder takes it: a run gives a name to a vertex without one. -/
def taken : Item → Item → Item
  | .dag d, .vertex v => .vertex (d.adopt v)
  | _, item => item

/-- Put one entity into another, if it fits. -/
def put (w : Workbench) (holder child : Nat) : Option Workbench :=
  match w.slot? holder, w.slot? child with
  | some h, some c =>
    if fits h.item c.item then
      some ((w.setSlot child { c with item := taken h.item c.item, holder := some holder }).setSlot
        holder { h with children := h.children.set c.item.id child })
    else none
  | _, _ => none

/-- Edit an entity. -/
def edit (w : Workbench) (number : Nat) (change : Edit) : Workbench :=
  match w.slot? number with
  | some s => w.setSlot number { s with item := s.item.edit change }
  | none => w

/-! ### Views -/

/-- The id of what holds an entity. -/
def holderId? (w : Workbench) (s : Slot) : Option String :=
  (s.holder.bind w.slot?).map (·.item.id)

/-- What an entity holds, each as it is seen. -/
def seen {α : Type} (w : Workbench) (see : Slot → Option α) (s : Slot) : Table α :=
  s.children.filterMapValues fun number => (w.slot? number).bind see

/-- An attempt. -/
def attempt? (w : Workbench) (s : Slot) : Option Attempt :=
  match s.item with
  | .attempt a => some { a with holder := w.holderId? s }
  | _ => none

/-- A task with its attempts. -/
def task? (w : Workbench) (s : Slot) : Option Task :=
  match s.item with
  | .task t => some { t with attempts := w.seen w.attempt? s, holder := w.holderId? s }
  | _ => none

/-- A vertex with its tasks. -/
def vertex? (w : Workbench) (s : Slot) : Option Vertex :=
  match s.item with
  | .vertex v => some { v with tasks := w.seen w.task? s, holder := w.holderId? s }
  | _ => none

/-- A run with its vertices. -/
def dag? (w : Workbench) (s : Slot) : Option Dag :=
  match s.item with
  | .dag d => some { d with vertices := w.seen w.vertex? s }
  | _ => none

/-- An entity with all that it holds. -/
def view? (w : Workbench) (number : Nat) : Option Item :=
  (w.slot? number).bind fun s =>
    match s.item with
    | .dag _ => (w.dag? s).map .dag
    | .vertex _ => (w.vertex? s).map .vertex
    | .task _ => (w.task? s).map .task
    | .attempt _ => (w.attempt? s).map .attempt

/-- What an entity holds under an id. -/
def child? (w : Workbench) (number : Nat) (id : Value) : Except Failure (Option Item) :=
  match w.slot? number with
  | some s => (entryAt s.children id).map (·.bind w.view?)
  | none => .ok none

end Workbench

end RunHistory
