import RunHistory.Entity.Kind
import RunHistory.Value

/-!
# Records

A record tells something about one entity: which entity it is, the label of its type as written, and
possibly an object of information.  The record of an attempt may name related entities.  What else a
record holds is kept as it is.

## Main definitions

* `Subject`: what a record is about.
* `Record`: a record.
* `Record.key`: the entity's id, without blanks around it.
-/

namespace RunHistory

/-- What a record is about. -/
inductive Subject where
  /-- A run. -/
  | dag
  /-- A vertex. -/
  | vertex
  /-- A task. -/
  | task
  /-- An attempt, with what the record says of related entities. -/
  | attempt (related : Value)
  deriving Inhabited

/-- The kind of entity that a record is about. -/
def Subject.kind : Subject → Kind
  | .dag => .dag
  | .vertex => .vertex
  | .task => .task
  | .attempt _ => .attempt

/-- What is said of related entities; only the record of an attempt says something. -/
def Subject.related : Subject → Value
  | .attempt related => related
  | _ => .null

/-- A record. -/
structure Record where
  /-- What the record is about. -/
  subject : Subject
  /-- The entity as written. -/
  entity : String
  /-- The label of the entity's type as written. -/
  label : String
  /-- The information about the entity, if the record has any. -/
  info : Option (Table Value)
  /-- The other fields of the record. -/
  extra : Table Value
  deriving Inhabited

namespace Record

/-- The kind of entity that a record is about. -/
def kind (r : Record) : Kind := r.subject.kind

/-- The entity's id, without blanks around it. -/
def key (r : Record) : String := trimText r.entity

/-- What the record says of related entities. -/
def related (r : Record) : Value := r.subject.related

/-- A record with other information. -/
def withInfo (r : Record) (info : Option (Table Value)) : Record := { r with info := info }

end Record

end RunHistory
