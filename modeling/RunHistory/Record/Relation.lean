import RunHistory.Failure
import RunHistory.Record.Basic
import RunHistory.Text.Letter

/-!
# Related entities of attempts

The record of an attempt may list related entities, each an object with a tag.  The first entry may
be tagged as the node that the attempt ran on, and the second as its container; the names found
there go into the information of the record.

## Main definitions

* `Relation.at?`: the name in an entry with a given tag.
* `Record.withRelations`: a record with its relations in its information.
-/

namespace RunHistory

namespace Relation

/-- The tag of a node. -/
def node : String := "nodeId"

/-- The tag of a container. -/
def container : String := "containerId"

/-- The place at which each tag is looked for. -/
def slots : List (Nat × String) := [(0, node), (1, container)]

/-- The least place that is looked up in a list; the places are the integers of 64 bits. -/
def leastPlace : Int := -Int.pow 2 63

/-- Whether two tags are the same but for case. -/
def sameTag (a b : String) : Bool := smallLetters a == smallLetters b

/-- The name in an entry that has the given tag; an entry that has the tag and no name counts as one
with an empty name. -/
def nameIn? (entry : Value) (tag : String) : Option String :=
  match entry.object? with
  | none => none
  | some fields =>
    match fields.get? "entitytype" with
    | some (.str t) =>
      if sameTag t tag then some (((fields.get? "entity").bind Value.text?).getD "") else none
    | _ => none

/-- The name at a place of the related entities, if the entry there has the given tag. -/
def at? (related : Value) (place : Nat) (tag : String) : Option String :=
  match related with
  | .list entries => (entries[place]?).bind (nameIn? · tag)
  | _ => none

/-- The same for a place that may be counted from the end of the list, as a negative number. -/
def lookup (related : Value) (place : Int) (tag : String) : Except Failure (Option String) :=
  match related with
  | .list entries =>
    let n := if place < 0 then place + entries.length else place
    if place < leastPlace then .error .placeOutOfRange
    else if n < 0 then .error .beforeStart
    else .ok (at? related n.toNat tag)
  | _ => .ok none

/-- Write the names found in the related entities into information. -/
def intoInfo (related : Value) (info : Table Value) : Table Value :=
  slots.foldl (fun t slot =>
    match at? related slot.1 slot.2 with
    | some name => t.set slot.2 (.str name)
    | none => t) info

end Relation

/-- A record with the names of its related entities in its information.  A record without
information stays as it is. -/
def Record.withRelations (r : Record) : Record :=
  r.withInfo (r.info.map (Relation.intoInfo r.related))

end RunHistory
