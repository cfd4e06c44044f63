import RunHistory.Separator.Pattern
import RunHistory.Text.Blank

/-!
# Cutting a text into records

The text comes in blocks, and separators are looked for in a window: what the last window left over,
followed by the next block.  A separator that touches the end of a window may go on in the next
block, so it is left for the next window.  Of a text without separator only a tail is kept for the
next window, as long as a block or `leastOverlap`; what comes before the tail is set aside for the
record that is being read.  Blank records are dropped.

## Main definitions

* `Scanner`: what finds the separators of a window.
* `Framing.cutWindow`: the records that the separators of a window end.
* `Framing.step`, `Framing.finish`: one block, and the end of the text.
* `records`: the records of blocks.
-/

namespace RunHistory

/-- What finds the separators of a window, from left to right. -/
abbrev Scanner := List Char → List Span

namespace Framing

/-- The least number of characters that are kept for the next window. -/
def leastOverlap : Nat := 1024

/-- The number of characters that are kept for the next window when the text is read in blocks of
the given size. -/
def overlapFor (blockSize : Int) : Nat := max blockSize.toNat leastOverlap

/-- What is known between two blocks. -/
structure Progress where
  /-- The parts of the record that is being read, the last one first. -/
  aside : List (List Char)
  /-- What is left over for the next window. -/
  carry : List Char
  /-- The records so far, the last one first. -/
  done : List (List Char)
  deriving DecidableEq, Repr

/-- Before the first block. -/
def Progress.start : Progress := ⟨[], [], []⟩

/-- The records with one more, unless it is blank. -/
def addRecord (done : List (List Char)) (record : List Char) : List (List Char) :=
  if allBlank record then done else record :: done

/-- The record that is being read, completed by its last part. -/
def complete (aside : List (List Char)) (part : List Char) : List Char :=
  (part :: aside).reverse.flatten

/-- A window that is being cut. -/
structure Cut where
  /-- The number of characters of the window that are behind. -/
  place : Nat
  /-- The characters of the window that are not. -/
  rest : List Char
  /-- The parts of the record that is being read, the last one first. -/
  aside : List (List Char)
  /-- The records so far, the last one first. -/
  done : List (List Char)
  deriving DecidableEq, Repr

/-- Cut a window at its separators.  `last` says that no block follows; else a separator that
touches the end of the window, which has `size` characters, is not taken. -/
def cutWindow (last : Bool) (size : Nat) : List Span → Cut → Cut
  | [], c => c
  | s :: spans, c =>
    if !last && s.stop == size then c
    else
      cutWindow last size spans
        ⟨s.stop, c.rest.drop (s.stop - c.place), [],
          addRecord c.done (complete c.aside (c.rest.take (s.start - c.place)))⟩

/-- Cut the window of a block. -/
def window (scan : Scanner) (last : Bool) (p : Progress) (block : List Char) : Cut :=
  let text := p.carry ++ block
  cutWindow last text.length (scan text) ⟨0, text, p.aside, p.done⟩

/-- Read one block. -/
def step (scan : Scanner) (overlap : Nat) (p : Progress) (block : List Char) : Progress :=
  let c := window scan false p block
  let surplus := c.rest.length - overlap
  ⟨c.rest.take surplus :: c.aside, c.rest.drop surplus, c.done⟩

/-- Read the end of the text: the records in order. -/
def finish (scan : Scanner) (p : Progress) : List (List Char) :=
  let c := window scan true p []
  (addRecord c.done (complete c.aside c.rest)).reverse

end Framing

open Framing in
/-- The records of a text that comes in blocks.  `whole` says that the text ends with them; else it
breaks off, and the record that is being read is not delivered. -/
def records (scan : Scanner) (overlap : Nat) (whole : Bool) (blocks : List (List Char)) :
    List (List Char) :=
  let p := blocks.foldl (step scan overlap) .start
  if whole then finish scan p else p.done.reverse

end RunHistory
