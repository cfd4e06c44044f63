import RunHistory.Parse

/-!
# History files on disk

Files are found by path from where one stands.  A history file that was found once is read anew for
every question, so that it may change between two of them.

## Main definitions

* `Files`: the files of a disk.
* `Source.find`: what a path leads to.
* `HistoryFile.ofPath`, `HistoryFile.dag`: a history file, and the tree of a run in it.
-/

namespace RunHistory

/-- The files of a disk, by location: what is found there. -/
abbrev Files := Location → Found

/-- Whether a path holds the character zero, which no path on a disk does. -/
def holdsZero (path : String) : Bool := path.toList.contains '\x00'

/-- What a path leads to from where one stands. -/
def Source.find (files : Files) (here : Location) : Option String → Source
  | none => ⟨none, "None", .nothing⟩
  | some asked =>
    let path := Path.ofText asked
    ⟨some asked, path.text,
      if holdsZero asked then .nothing else ((path.place? here).map files).getD .nothing⟩

/-- A history file that was found. -/
structure HistoryFile where
  /-- The path to it. -/
  path : String
  /-- How it is written and read. -/
  configuration : Configuration

namespace HistoryFile

/-- The history file that a path leads to. -/
def ofPath (files : Files) (here : Location) (cfg : Configuration) (path : Option String) :
    Except Failure HistoryFile :=
  let source := Source.find files here path
  match source.content with
  | .refused reason => .error (.lookUpFailed reason)
  | .nothing => .error (.missingFile source.asked)
  | .closed _ | .file _ => .ok ⟨source.shown, cfg⟩

/-- The tree of the wanted run in a history file as it is now. -/
def dag (files : Files) (here : Location) (h : HistoryFile) (wanted : Value) : Outcome Dag :=
  parse h.configuration (Source.find files here (some h.path)) wanted

end HistoryFile

end RunHistory
