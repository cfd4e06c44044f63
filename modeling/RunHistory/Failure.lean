import RunHistory.Encoding.Step
import RunHistory.Entity.Id
import RunHistory.Json.Fault
import RunHistory.Separator.Parser
import RunHistory.Value

/-!
# Failures

A history is refused for a cause, and the cause decides the wording.  Most causes lie in what was
asked or in what the history holds and are reported as such; a few lie in the limits of numbers,
names and paths and are faults of their own.

## Main definitions

* `Failure`: the causes.
* `Failure.Category`, `Failure.category`: what a cause is reported as.
* `Failure.message`, `Failure.details`: its wording, and what stands beside it.
* `Failure.ofId`: the failure of a text that is no id.
-/

namespace RunHistory

/-- Why a history, or a question about one, is refused. -/
inductive Failure where
  /-- No run was named. -/
  | blankRun
  /-- No file has this path. -/
  | missingFile (path : Option String)
  /-- The system cannot say whether a file has this path. -/
  | lookUpFailed (reason : String)
  /-- The system does not open a file. -/
  | unopened (path reason : String)
  /-- The bytes of a file are no text. -/
  | unreadable (path : String) (fault : Encoding.Fault)
  /-- A record is not written in JSON. -/
  | notJson (fault : Json.Fault) (record : List Char)
  /-- A record is a value other than an object. -/
  | notObject (value : Value) (record : List Char)
  /-- A record lacks an entity or a type label in text. -/
  | unlabelled (entity label : Value)
  /-- The information in a record, under this name, is not an object. -/
  | invalidInfo (kind : Kind) (entity field : String) (info : Value)
  /-- An id is not text. -/
  | idNotText (kind : Kind) (value : Value)
  /-- A value is no id of the kind. -/
  | unreadableId (kind : Kind) (value : Value)
  /-- A history does not tell of the run. -/
  | noRun (run : String)
  /-- A history tells of a task and not of its vertex. -/
  | noVertex (vertex task : String)
  /-- A history tells of an attempt and not of its task. -/
  | noTask (task attempt : String)
  /-- An infinite number stands where a whole one belongs. -/
  | infiniteNumber
  /-- An integer has more digits than are read. -/
  | tooManyDigits (count : Nat)
  /-- No encoding has this name. -/
  | unknownEncoding (name : String)
  /-- A text is no pattern of separators. -/
  | badSeparator (fault : Separator.Fault)
  /-- A path holds the character zero. -/
  | zeroInPath
  /-- A place is before the start of a list. -/
  | beforeStart
  /-- A place is so far before the start of a list that no list could reach it. -/
  | placeOutOfRange
  /-- A block has a size that no text could have. -/
  | blockSizeOutOfRange
  /-- There is no memory to read a block. -/
  | outOfMemory
  /-- A list or an object in a record is nested too deep. -/
  | tooDeep (isList : Bool)
  /-- A record holds half of a pair of 16-bit units, which is no character. -/
  | halfPair
  /-- Nothing has this key. -/
  | noEntry (key : Value)
  /-- A list or an object stands where a key belongs. -/
  | notKey (value : Value)
  deriving Inhabited

namespace Failure

/-- What a cause is reported as. -/
inductive Category where
  /-- The question cannot be answered. -/
  | invalidArgument
  /-- The file cannot be read. -/
  | historyIO
  /-- The history is not well formed. -/
  | malformedInput
  /-- The history lacks something. -/
  | incompleteLog
  /-- A number is out of range. -/
  | overflow
  /-- A value is out of range. -/
  | value
  /-- A place is out of range. -/
  | index
  /-- A name is unknown. -/
  | lookup
  /-- A key is unknown. -/
  | key
  /-- A value is of the wrong type. -/
  | type
  /-- A pattern is wrong. -/
  | pattern
  /-- The system fails. -/
  | system
  /-- There is no memory. -/
  | memory
  /-- Something is nested too deep. -/
  | recursion
  /-- What was asked is beyond what is described here. -/
  | beyond
  deriving DecidableEq, Repr

/-- What a cause is reported as. -/
def category : Failure → Category
  | .blankRun | .missingFile _ => .invalidArgument
  | .unreadable _ _ | .unopened _ _ => .historyIO
  | .notJson _ _ | .notObject _ _ | .unlabelled _ _ | .invalidInfo _ _ _ _ | .idNotText _ _
  | .unreadableId _ _ => .malformedInput
  | .noRun _ | .noVertex _ _ | .noTask _ _ => .incompleteLog
  | .infiniteNumber | .blockSizeOutOfRange => .overflow
  | .tooManyDigits _ | .zeroInPath => .value
  | .beforeStart | .placeOutOfRange => .index
  | .unknownEncoding _ => .lookup
  | .noEntry _ => .key
  | .notKey _ => .type
  | .badSeparator (.unsupported _) | .halfPair => .beyond
  | .badSeparator _ => .pattern
  | .lookUpFailed _ => .system
  | .outOfMemory => .memory
  | .tooDeep _ => .recursion

/-- Whether a category is one of those that a history is refused with; the others are faults that
nobody expected. -/
def Category.expected : Category → Bool
  | .invalidArgument | .historyIO | .malformedInput | .incompleteLog => true
  | _ => false

/-- The wording of a cause. -/
def message : Failure → String
  | .blankRun => "Please provide valid dagId"
  | .missingFile path => path.getD "None" ++ " does not exist"
  | .lookUpFailed reason => reason
  | .unreadable path _ | .unopened path _ => "Error in reading " ++ path
  | .notJson fault _ => "Undecodable record: " ++ fault.message
  | .notObject value _ => "Record is not a JSON object: " ++ value.typeName
  | .unlabelled entity label =>
    "Record without string 'entity'/'entitytype': " ++ entity.shown ++ ", " ++ label.shown
  | .invalidInfo kind entity _ _ => "Invalid " ++ kind.name ++ " record " ++ entity
  | .idNotText kind value => kind.idWord ++ " id must be a string, got " ++ value.shown
  | .unreadableId kind value => "Cannot parse " ++ kind.idWord ++ " id from " ++ value.shown
  | .noRun run => "Please provide a valid/complete history log file containing " ++ run
  | .noVertex vertex _ => "VertexInfo for " ++ vertex ++ " can't be null"
  | .noTask task _ => "TaskInfo for " ++ task ++ " can't be null"
  | .infiniteNumber => "cannot convert float infinity to integer"
  | .tooManyDigits count =>
    "Exceeds the limit (4300 digits) for integer string conversion: value has " ++ toString count
      ++ " digits; use sys.set_int_max_str_digits() to increase the limit"
  | .unknownEncoding name => "unknown encoding: " ++ name
  | .badSeparator fault => fault.message
  | .zeroInPath => "embedded null byte"
  | .beforeStart => "list index out of range"
  | .placeOutOfRange | .blockSizeOutOfRange => "cannot fit 'int' into an index-sized integer"
  | .outOfMemory => ""
  | .tooDeep isList =>
    "maximum recursion depth exceeded while decoding a JSON "
      ++ (if isList then "array" else "object") ++ " from a unicode string"
  | .halfPair => "half of a surrogate pair"
  | .noEntry key => key.shown
  | .notKey value => "unhashable type: '" ++ value.typeName ++ "'"

/-- The number of characters of a record that a failure shows. -/
def shownCharacters : Nat := 200

/-- What stands beside the wording of a cause: the start of a record that could not be read, the
fault in the bytes of a file, what the system says, or the report on a record of the wrong form.  A
report is written by the one who checks the form of records, for a kind, the name of the field that
is wrong, and its value. -/
def details (report : Kind → String → Value → String) : Failure → Option String
  | .unreadable _ fault => some fault.message
  | .unopened _ reason => some reason
  | .notJson _ record | .notObject _ record => some (String.ofList (record.take shownCharacters))
  | .invalidInfo kind _ field info => some (report kind field info)
  | _ => none

/-- The failure of a text that is no id. -/
def ofId : IdFault → Failure
  | .unreadable kind text => .unreadableId kind (.str text)
  | .tooManyDigits count => .tooManyDigits count

end Failure

end RunHistory
