import RunHistory.Text.Blank
import RunHistory.Text.Letter

/-!
# Kinds of entities

A history tells of four kinds of entities: a run of a graph (a DAG), the vertices of the graph, the
tasks of a vertex, and the attempts at a task.  A record names the kind of its entity by a type
label, in any case, with blanks around it, and with or without `TEZ_` in front and `_ID` behind.

## Main definitions

* `Kind`: the four kinds.
* `Kind.name`: the plain name of a kind.
* `Kind.ofLabel?`: the kind that a type label names.
-/

namespace RunHistory

/-- The kinds of entities. -/
inductive Kind where
  /-- A run of a graph. -/
  | dag
  /-- A vertex of the graph. -/
  | vertex
  /-- A task of a vertex. -/
  | task
  /-- An attempt at a task. -/
  | attempt
  deriving DecidableEq, Repr, Inhabited

namespace Kind

/-- All kinds, from the run down. -/
def all : List Kind := [.dag, .vertex, .task, .attempt]

theorem mem_all (k : Kind) : k ∈ all := by cases k <;> simp [all]

/-- The plain name of a kind. -/
def name : Kind → String
  | .dag => "DAG"
  | .vertex => "VERTEX"
  | .task => "TASK"
  | .attempt => "TASK_ATTEMPT"

/-- A kind in a sentence about its ids. -/
def idWord : Kind → String
  | .dag => "dag"
  | .vertex => "vertex"
  | .task => "task"
  | .attempt => "attempt"

/-- A text without the given front, if it has it. -/
def dropFront (front cs : List Char) : List Char :=
  if front.isPrefixOf cs then cs.drop front.length else cs

/-- A text without the given back, if it has it. -/
def dropBack (back cs : List Char) : List Char :=
  if back.isSuffixOf cs then cs.take (cs.length - back.length) else cs

/-- The plain name inside a type label. -/
def plainName (label : String) : List Char :=
  dropBack "_ID".toList (dropFront "TEZ_".toList ((trim label.toList).map capital))

/-- The kind that a type label names. -/
def ofLabel? (label : String) : Option Kind :=
  all.find? fun k => k.name.toList == plainName label

end Kind

end RunHistory
