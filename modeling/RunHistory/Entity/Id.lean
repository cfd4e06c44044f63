import RunHistory.Entity.Kind
import RunHistory.Text.Digit
import RunHistory.Text.Word

/-!
# Entity ids

The ids of vertices, tasks and attempts are written in two ways.  A native id is a word for the kind
and groups of digits with underscores between them, as in `task_1_2_3_4_5`, whose groups but the
last are those of its parent.  An embedded id is the parent's id followed by the kind and a number,
as in `dag_1_vertex_2_task_3`; at the level of a vertex the parent is `dag_` and word characters.
Either way the last group of digits is the sequence number of the entity among the children of its
parent.  The id of a run is any text.

## Main definitions

* `DagId`, `VertexId`, `TaskId`, `AttemptId`: ids with the ids of all their ancestors.
* `Id.split`: the parent's id and the sequence number in an id's text.
* `DagId.parse`, `VertexId.parse`, `TaskId.parse`, `AttemptId.parse`: the id that a text writes.
-/

namespace RunHistory

/-- The id of a run. -/
structure DagId where
  /-- The id as text, without blanks around it. -/
  text : String
  deriving DecidableEq, Repr

/-- The id of a vertex. -/
structure VertexId where
  /-- The id as text, without blanks around it. -/
  text : String
  /-- The run that the vertex belongs to. -/
  dag : DagId
  /-- The sequence number. -/
  seq : Nat
  deriving DecidableEq, Repr

/-- The id of a task. -/
structure TaskId where
  /-- The id as text, without blanks around it. -/
  text : String
  /-- The vertex that the task belongs to. -/
  vertex : VertexId
  /-- The sequence number. -/
  seq : Nat
  deriving DecidableEq, Repr

/-- The id of an attempt. -/
structure AttemptId where
  /-- The id as text, without blanks around it. -/
  text : String
  /-- The task that the attempt is made at. -/
  task : TaskId
  /-- The sequence number. -/
  seq : Nat
  deriving DecidableEq, Repr

/-- Why a text is no id. -/
inductive IdFault where
  /-- The text, without blanks around it, is no id of the kind. -/
  | unreadable (kind : Kind) (text : String)
  /-- A sequence number of too many digits. -/
  | tooManyDigits (count : Nat)
  deriving DecidableEq, Repr

namespace Id

/-- The most digits that a sequence number may have. -/
def maxDigits : Nat := 4300

/-- The parts of a text between underscores. -/
def groups : List Char → List (List Char)
  | [] => [[]]
  | c :: rest =>
    if c = '_' then [] :: groups rest
    else
      match groups rest with
      | [] => [[c]]
      | g :: gs => (c :: g) :: gs

/-- A group of digits, at least one. -/
def isNumber (cs : List Char) : Bool := !cs.isEmpty && cs.all isDigit

/-- Texts with an underscore between them. -/
def joined (parts : List (List Char)) : List Char := ['_'].intercalate parts

/-- The groups of a native id: its word, and then so many groups of digits. -/
def nativeGroups? (word : String) (count : Nat) (cs : List Char) : Option (List (List Char)) :=
  match groups cs with
  | w :: gs => if w == word.toList && gs.length == count && gs.all isNumber then some gs else none
  | [] => none

/-- The parent's id and the last digits of an id that ends in a word and a number. -/
def embeddedParts? (word : String) (cs : List Char) : Option (List Char × List Char) :=
  let digits := (cs.reverse.takeWhile isDigit).reverse
  let front := (cs.reverse.dropWhile isDigit).reverse
  let link := ('_' :: word.toList) ++ ['_']
  if digits.isEmpty || !link.isSuffixOf front then none
  else some (front.take (front.length - link.length), digits)

/-- What may stand for the parent in an embedded id: of a vertex the word `dag`, an underscore and
word characters, and else any text within one line. -/
def fitsParent (kind : Kind) (parent : List Char) : Bool :=
  match kind with
  | .vertex =>
    "dag_".toList.isPrefixOf parent && !(parent.drop 4).isEmpty && (parent.drop 4).all isWord
  | _ => !parent.isEmpty && parent.all (· != '\n')

/-- The number of groups of digits in a native id. -/
def groupCount : Kind → Nat
  | .dag => 3
  | .vertex => 4
  | .task => 5
  | .attempt => 6

/-- The kind of the parent. -/
def parentKind : Kind → Kind
  | .dag | .vertex => .dag
  | .task => .vertex
  | .attempt => .task

/-- The parent's id and the last digits in the text of an id, in either way of writing; the native
way is tried first. -/
def parts? (kind : Kind) (cs : List Char) : Option (List Char × List Char) :=
  match nativeGroups? kind.idWord (groupCount kind) cs with
  | some gs =>
    some (joined ((parentKind kind).idWord.toList :: gs.dropLast), gs.getLastD [])
  | none =>
    match embeddedParts? kind.idWord cs with
    | some (parent, digits) => if fitsParent kind parent then some (parent, digits) else none
    | none => none

/-- The parent's id and the sequence number in the text of an id of a kind below the run. -/
def split (kind : Kind) (text : String) : Except IdFault (String × Nat) :=
  match parts? kind (trim text.toList) with
  | none => .error (.unreadable kind (trimText text))
  | some (parent, digits) =>
    if digits.length > maxDigits then .error (.tooManyDigits digits.length)
    else .ok (String.ofList parent, digitsValue digits)

end Id

/-- The id of a run: any text that is not blank. -/
def DagId.parse (text : String) : Except IdFault DagId :=
  if allBlank text.toList then .error (.unreadable .dag text) else .ok ⟨trimText text⟩

/-- The id of a vertex. -/
def VertexId.parse (text : String) : Except IdFault VertexId := do
  let (parent, seq) ← Id.split .vertex text
  let dag ← DagId.parse parent
  return ⟨trimText text, dag, seq⟩

/-- The id of a task. -/
def TaskId.parse (text : String) : Except IdFault TaskId := do
  let (parent, seq) ← Id.split .task text
  let vertex ← VertexId.parse parent
  return ⟨trimText text, vertex, seq⟩

/-- The id of an attempt. -/
def AttemptId.parse (text : String) : Except IdFault AttemptId := do
  let (parent, seq) ← Id.split .attempt text
  let task ← TaskId.parse parent
  return ⟨trimText text, task, seq⟩

/-- The run that a task belongs to. -/
def TaskId.dag (id : TaskId) : DagId := id.vertex.dag

/-- The run that an attempt belongs to. -/
def AttemptId.dag (id : AttemptId) : DagId := id.task.dag

end RunHistory
