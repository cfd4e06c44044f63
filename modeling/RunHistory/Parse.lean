import RunHistory.Encoding.Feed
import RunHistory.Framing
import RunHistory.Link
import RunHistory.Path
import RunHistory.Separator.Parser

/-!
# Reading the history of a run

A history file is looked for, opened, decoded, cut into records, and read record by record for the
wanted run; what is known of the run at the end is linked into its tree.

The system may refuse to look for a file, or to open one, and the machine has limits: there must be
memory for a block, and the JSON of a record can only be nested in so many levels.

## Main definitions

* `Limits`, `Configuration`: the limits of the machine, and how a history file is written and read.
* `Found`, `Source`: what a path leads to, and a history file as it was asked for.
* `readText`: the records of a text that is all there.
* `Chunks`, `Configuration.chunks`: the records of a file, and what ends them.
* `ingest`: the verdicts on the records of a file.
* `parse`: the tree of the wanted run.
-/

namespace RunHistory

/-- The limits of the machine that a history is read on. -/
structure Limits where
  /-- Whether there is memory to read blocks of a size. -/
  holdsBlock : Int → Bool
  /-- In how many levels the JSON of a record may be nested. -/
  levels : Nat

/-- Memory for blocks of less than 2^40 characters, and 980 levels. -/
def Limits.usual : Limits := ⟨fun size => size < Int.pow 2 40, 980⟩

/-- How a history file is written and read. -/
structure Configuration where
  /-- The pattern of what separates records. -/
  separator : String
  /-- The name of the encoding. -/
  encoding : String
  /-- The number of characters in a block. -/
  blockSize : Int
  /-- The limits of the machine. -/
  limits : Limits

/-- Records in UTF-8 separated by line ends or U+0001, read in blocks of 65536 characters. -/
def Configuration.standard : Configuration := ⟨"[\\r\\n\\x01]+", "utf-8", 65536, .usual⟩

instance : Inhabited Configuration := ⟨.standard⟩

/-- What a path leads to. -/
inductive Found where
  /-- A file with these bytes. -/
  | file (bytes : List UInt8)
  /-- A file that the system does not open, and what it says. -/
  | closed (reason : String)
  /-- No file. -/
  | nothing
  /-- The system does not look for a file, as for a name that is too long, and says why. -/
  | refused (reason : String)
  deriving DecidableEq, Repr

/-- A history file as it was asked for. -/
structure Source where
  /-- The path as it was given. -/
  asked : Option String
  /-- The path as it is shown when the file is read. -/
  shown : String
  /-- What the path leads to. -/
  content : Found
  deriving Repr

/-- The bytes of the file that was asked for. -/
def Source.bytes (source : Source) : Except Failure (List UInt8) :=
  match source.content with
  | .file bytes => .ok bytes
  | .closed reason => .error (.unopened source.shown reason)
  | .nothing => .error (.missingFile source.asked)
  | .refused reason => .error (.lookUpFailed reason)

theorem Source.bytes_eq_ok_iff {source : Source} {bytes : List UInt8} :
    source.bytes = .ok bytes ↔ source.content = .file bytes := by
  unfold Source.bytes
  cases source.content <;> simp

/-! ### Records -/

/-- The separators that a pattern finds, or the failure of a text that is no pattern. -/
def scannerOf (separator : String) : Except Failure Scanner :=
  match Separator.parse separator with
  | .error fault => .error (.badSeparator fault)
  | .ok pattern => .ok (Separator.Pattern.scan pattern)

/-- Whether the size of a block is an integer of 64 bits.  Others are not read as sizes; whether
there is memory for a block is another question.  All sizes below zero mean that the whole text is
one block. -/
def isSize (n : Int) : Bool := -Int.pow 2 63 ≤ n && n < Int.pow 2 63

/-- The separators that a pattern finds, for reading in blocks of a size. -/
def scannerFor (separator : String) (blockSize : Int) : Except Failure Scanner := do
  let scan ← scannerOf separator
  if isSize blockSize then return scan else .error .blockSizeOutOfRange

/-- The records of a text that is all there, read in blocks. -/
def readText (separator : String) (blockSize : Int) (text : List Char) :
    Except Failure (List (List Char)) :=
  (scannerFor separator blockSize).map fun scan =>
    records scan (Framing.overlapFor blockSize) true (Encoding.textBlocks blockSize text)

/-- What ends the records of a file before its end. -/
inductive Chunks.Ending where
  /-- A fault in the bytes. -/
  | fault (fault : Encoding.Fault)
  /-- A record that is nested too deep. -/
  | tooDeep (isList : Bool)
  deriving DecidableEq, Repr

/-- The failure that reading a file ends with. -/
def Chunks.Ending.failure (path : String) : Chunks.Ending → Failure
  | .fault f => .unreadable path f
  | .tooDeep isList => .tooDeep isList

/-- The records of a file, and what ends them. -/
structure Chunks where
  /-- The records. -/
  records : List (List Char)
  /-- What ends them, unless it is the end of the file. -/
  ending : Option Chunks.Ending

/-- The text of a record, unless it is nested too deep. -/
def shallow (levels : Nat) (text : List Char) : Except Chunks.Ending (List Char) :=
  match Json.tooDeep? levels text with
  | some isList => .error (.tooDeep isList)
  | none => .ok text

/-- The records up to the first that is nested too deep, if there is one. -/
def Chunks.within (levels : Nat) (chunks : Chunks) : Chunks :=
  let progress := upToFailure (shallow levels) chunks.records
  ⟨progress.done, progress.failure.or chunks.ending⟩

/-- The texts of the records of a file with these bytes, and the fault that ends them. -/
def Configuration.texts (cfg : Configuration) (bytes : List UInt8) : Except Failure Chunks :=
  match Encoding.ofName? cfg.encoding with
  | none => .error (.unknownEncoding cfg.encoding)
  | some encoding => do
    let scan ← scannerFor cfg.separator cfg.blockSize
    if cfg.limits.holdsBlock cfg.blockSize then
      let feed := Encoding.feed encoding cfg.blockSize bytes
      let overlap := Framing.overlapFor cfg.blockSize
      .ok ⟨records scan overlap feed.fault.isNone feed.blocks, feed.fault.map .fault⟩
    else .error .outOfMemory

/-- The records of a file with these bytes, and what ends them. -/
def Configuration.chunks (cfg : Configuration) (bytes : List UInt8) : Except Failure Chunks :=
  (cfg.texts bytes).map (Chunks.within cfg.limits.levels)

/-! ### Verdicts -/

/-- What is known of a run after the records of a file were judged, or the failure that ended the
judging, with the notices given. -/
def ingest (run path : String) (chunks : Chunks) : Outcome State :=
  let progress := upToFailure (judgeText run) chunks.records
  let told := progress.done.filterMap (Verdict.notice? run)
  match progress.failure, chunks.ending with
  | some e, _ => .refuse told e
  | none, some ending => .refuse told (ending.failure path)
  | none, none => ⟨told, .ok (State.ofVerdicts run progress.done)⟩

/-- The notice that a history was read to its end. -/
def parsedNotice (d : Dag) (skipped : Nat) : Notice :=
  .parsed d.id d.vertices.size d.tasks.length d.attempts.length skipped

/-! ### The tree of the wanted run -/

/-- The tree of the wanted run in a history file. -/
def parse (cfg : Configuration) (source : Source) (wanted : Value) : Outcome Dag :=
  match wantedRun wanted with
  | .error e => .refuse [] e
  | .ok run =>
    match source.bytes with
    | .error e => .refuse [] e
    | .ok bytes =>
      match cfg.chunks bytes with
      | .error e => .refuse [] e
      | .ok chunks =>
        (ingest run source.shown chunks).andThen fun state =>
          state.link.outcome.andThen fun d => ⟨[parsedNotice d state.skipped], .ok d⟩

end RunHistory
