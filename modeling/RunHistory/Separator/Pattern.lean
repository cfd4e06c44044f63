/-!
# Separators

What separates records is given by a pattern: alternatives in order of preference, each a row of
items. An item is a character of a class, a run of characters of a class, which may be bounded, or
one of the two ends of the text that is scanned.

## Main definitions

* `Span`: a part of a scanned text.
* `Pattern`: what separates records.
* `Pattern.matchAt`: the length of the preferred match at a place.
* `Pattern.scan`: all separators of a text, from left to right.
-/

namespace RunHistory

/-- The part of a text from `start` to before `stop`. -/
structure Span where
  /-- The number of characters before the part. -/
  start : Nat
  /-- The number of characters before its end. -/
  stop : Nat
  deriving DecidableEq, Repr

namespace Separator

/-- What a pattern asks for at one place. -/
inductive Item where
  /-- One character of a class. -/
  | one (accepts : Char → Bool)
  /-- A run of characters of a class, as long as possible but for what follows, and not shorter than
  `least`. -/
  | run (least : Nat) (accepts : Char → Bool)
  /-- Such a run that is not longer than `most` either. -/
  | bounded (least most : Nat) (accepts : Char → Bool)
  /-- The start of the scanned text. -/
  | textStart
  /-- The end of the scanned text, or the place before a line feed that ends it. -/
  | textEnd

/-- Whether an item repeats something. -/
def Item.repeats : Item → Bool
  | .run _ _ | .bounded _ _ _ => true
  | _ => false

/-- Alternatives in order of preference. -/
abbrev Pattern := List (List Item)

/-- The pattern of a non-empty run of characters of a class. -/
def runOf (accepts : Char → Bool) : Pattern := [[.run 1 accepts]]

/-- The pattern of one fixed text. -/
def literal (text : List Char) : Pattern := [text.map fun c => .one (· == c)]

/-- The places at which a run at the front of a text may end, the farthest first: how many
characters are before the place, and what is after it. -/
def runEnds (accepts : Char → Bool) : Nat → List Char → List (Nat × List Char) →
    List (Nat × List Char)
  | n, [], acc => (n, []) :: acc
  | n, c :: rest, acc =>
    if accepts c then runEnds accepts (n + 1) rest ((n, c :: rest) :: acc)
    else (n, c :: rest) :: acc

/-- The length of the preferred match of a row of items, of which `done` characters are matched
already. `atStart` says that the match began at the start of the scanned text, `advance` that it
must not be empty. -/
def matchItems (atStart advance : Bool) : List Item → Nat → List Char → Option Nat
  | [], done, _ => if advance && done == 0 then none else some done
  | .one accepts :: items, done, cs =>
    match cs with
    | [] => none
    | c :: rest =>
      if accepts c then matchItems atStart advance items (done + 1) rest else none
  | .run least accepts :: items, done, cs =>
    ((runEnds accepts done cs []).filter fun r => done + least ≤ r.1).findSome? fun r =>
      matchItems atStart advance items r.1 r.2
  | .bounded least most accepts :: items, done, cs =>
    ((runEnds accepts done cs []).filter fun r =>
      done + least ≤ r.1 && r.1 ≤ done + most).findSome? fun r =>
        matchItems atStart advance items r.1 r.2
  | .textStart :: items, done, cs =>
    if atStart && done == 0 then matchItems atStart advance items done cs else none
  | .textEnd :: items, done, cs =>
    if cs.isEmpty || cs == ['\n'] then matchItems atStart advance items done cs else none

/-- The length of the preferred match of a pattern at the front of a text. -/
def Pattern.matchAt (p : Pattern) (atStart advance : Bool) (cs : List Char) : Option Nat :=
  p.findSome? fun items => matchItems atStart advance items 0 cs

/-- The separators of a text from a place on, after those before, which are kept backwards.  A match
that is not empty may be followed at once by an empty one, and an empty one by one that is not.  The
fuel bounds the steps. -/
def Pattern.scanFrom (p : Pattern) : Nat → Nat → Bool → List Span → List Char → List Span
  | 0, _, _, acc, _ => acc.reverse
  | fuel + 1, place, advance, acc, cs =>
    match p.matchAt (place == 0) advance cs with
    | some n => p.scanFrom fuel (place + n) (n == 0) (⟨place, place + n⟩ :: acc) (cs.drop n)
    | none =>
      match cs with
      | [] => acc.reverse
      | _ :: rest => p.scanFrom fuel (place + 1) false acc rest

/-- The separators of a text, from left to right. -/
def Pattern.scan (p : Pattern) (text : List Char) : List Span :=
  p.scanFrom (2 * text.length + 2) 0 false [] text

end Separator

end RunHistory
