import RunHistory.Json.Reader
import RunHistory.Notice
import RunHistory.Record.Basic

/-!
# From text to records

The text of a record is one JSON object.  Its entity and the label of the entity's type must be
text; the label stands under `entitytype` or, without that field, under `entityType`.  An object
whose label names no kind is no record.  The information stands under `otherInfo` or, without that
field, under `other_info`, and the related entities of an attempt under `relatedEntities` or,
without that field, under `related_entities`.  Every other field is kept.

## Main definitions

* `Record.decode`: the object that a text writes.
* `Record.classify`: the label of an object and the kind that it names.
* `Record.route`: the record that an object is.
-/

namespace RunHistory

namespace Record

/-- The object that a text writes. -/
def decode (text : List Char) : Except Failure (Table Value) :=
  match Json.read text with
  | .error (.fault fault) => .error (.notJson fault text)
  | .error (.tooManyDigits count) => .error (.tooManyDigits count)
  | .error .halfPair => .error .halfPair
  | .error (.tooDeep isList) => .error (.tooDeep isList)
  | .ok value =>
    match value.object? with
    | some raw => .ok raw
    | none => .error (.notObject value text)

/-- The first of some fields that an object has. -/
def fieldInUse (raw : Table Value) (names : List String) : Option String :=
  names.find? fun name => (raw.get? name).isSome

/-- The value of the first of some fields that an object has, and null without any. -/
def valueInUse (raw : Table Value) (names : List String) : Value :=
  ((fieldInUse raw names).bind raw.get?).getD .null

/-- The fields that may hold the label of the entity's type. -/
def labelFields : List String := ["entitytype", "entityType"]

/-- The fields that may hold the information. -/
def infoFields : List String := ["otherInfo", "other_info"]

/-- The fields that may hold the related entities of an attempt. -/
def relatedFields : List String := ["relatedEntities", "related_entities"]

/-- What an object says it is about. -/
structure Label where
  /-- The entity as written. -/
  entity : String
  /-- The label of the entity's type as written. -/
  text : String
  /-- The kind that the label names. -/
  kind : Option Kind
  deriving DecidableEq, Repr

/-- What an object says it is about. -/
def classify (raw : Table Value) : Except Failure Label :=
  match valueInUse raw ["entity"], valueInUse raw labelFields with
  | .str entity, .str text => .ok ⟨entity, text, Kind.ofLabel? text⟩
  | entity, label => .error (.unlabelled entity label)

/-- The notice that is given of an object that is no record. -/
def Label.notice? (l : Label) : Option Notice :=
  match l.kind with
  | some _ => none
  | none => some (.ignored l.entity l.text)

/-- What a record of a kind is about. -/
def subjectOf (raw : Table Value) : Kind → Subject
  | .dag => .dag
  | .vertex => .vertex
  | .task => .task
  | .attempt => .attempt (valueInUse raw relatedFields)

/-- The fields that a record of a kind is made from. -/
def usedFields (raw : Table Value) (kind : Kind) : List String :=
  "entity" :: (fieldInUse raw labelFields).toList ++ (fieldInUse raw infoFields).toList
    ++ (if kind = .attempt then (fieldInUse raw relatedFields).toList else [])

/-- The fields that a record of a kind keeps as they are. -/
def extraOf (raw : Table Value) (kind : Kind) : Table Value :=
  raw.filterKeys fun name => !(usedFields raw kind).contains name

/-- The record of a kind that an object is. -/
def ofObject (raw : Table Value) (entity label : String) (kind : Kind) : Except Failure Record :=
  match valueInUse raw infoFields with
  | .null => .ok ⟨subjectOf raw kind, entity, label, none, extraOf raw kind⟩
  | .object fields =>
    .ok ⟨subjectOf raw kind, entity, label, some (Table.ofList fields), extraOf raw kind⟩
  | info => .error (.invalidInfo kind entity ((fieldInUse raw infoFields).getD "otherInfo") info)

/-- The record that an object is, or what it says it is about when that is no entity. -/
def route (raw : Table Value) : Except Failure (Label × Option Record) := do
  let l ← classify raw
  match l.kind with
  | none => .ok (l, none)
  | some kind => (ofObject raw l.entity l.text kind).map fun r => (l, some r)

end Record

end RunHistory
