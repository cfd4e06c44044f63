import RunHistory.Separator.Pattern
import RunHistory.Text.Blank
import RunHistory.Text.Digit
import RunHistory.Text.Letter
import RunHistory.Text.Word

/-!
# Reading a separator's pattern

A pattern is written as a regular expression without groups: characters, `.`, classes in brackets,
the classes of blanks, digits and word characters, the repetitions `*`, `+`, `?` and those counted
in braces, the two ends `^` and `$`, alternatives, and `(?i)` in front for ASCII letters of either
case.  A character may be given by its code, in a class also as an end of a range.

## Main definitions

* `Separator.Fault`: why a text is no pattern.
* `Separator.escaped`: what a backslash and the characters after it stand for.
* `Separator.readClass`: the class in brackets.
* `Separator.parse`: the pattern that a text writes.
-/

namespace RunHistory.Separator

/-- Why a text is no pattern, each with the number of characters before the place. -/
inductive Fault where
  /-- A class without its closing bracket. -/
  | openClass (position : Nat)
  /-- A group without its closing parenthesis. -/
  | openGroup (position : Nat)
  /-- A repetition of nothing. -/
  | nothingToRepeat (position : Nat)
  /-- A repetition of a repetition. -/
  | multipleRepeat (position : Nat)
  /-- A repetition that is to be at most so long and not shorter than something longer. -/
  | countsReversed (position : Nat)
  /-- Something that separators do without. -/
  | unsupported (position : Nat)
  deriving DecidableEq, Repr

/-- The wording of a fault. -/
def Fault.message : Fault → String
  | .openClass n => "unterminated character set at position " ++ toString n
  | .openGroup n => "missing ), unterminated subpattern at position " ++ toString n
  | .nothingToRepeat n => "nothing to repeat at position " ++ toString n
  | .multipleRepeat n => "multiple repeat at position " ++ toString n
  | .countsReversed n => "min repeat greater than max repeat at position " ++ toString n
  | .unsupported n => "unsupported pattern at position " ++ toString n

/-! ### Characters and classes -/

/-- A letter without its case: the long s counts as an s, the dotless i and the capital i with a dot
as an i. -/
def foldCase (c : Char) : Char :=
  if c = 'ſ' then 's'
  else if c = 'ı' ∨ c = 'İ' then 'i'
  else
    match smallLetter c with
    | [x] => x
    | _ => c

/-- The class of one character. -/
def charClass (anyCase : Bool) (c x : Char) : Bool :=
  if anyCase then foldCase x == foldCase c else x == c

/-- The class of the character with a code.  A code may be that of half a pair, which is no
character. -/
def codeClass (anyCase : Bool) (code : Nat) : Char → Bool :=
  if code.isValidChar then charClass anyCase (Char.ofNat code) else fun _ => false

/-- The class of a range of characters. -/
def rangeClass (anyCase : Bool) (first last : Nat) (x : Char) : Bool :=
  let inside (c : Char) := first ≤ c.toNat && c.toNat ≤ last
  if anyCase then inside x || inside (foldCase x) || inside (capital (foldCase x)) else inside x

/-- Whether a code may be read: of letters of either case only the ASCII ones are known. -/
def readable (anyCase : Bool) (code : Nat) : Bool := !anyCase || code < 128

/-! ### Escapes -/

/-- The value of a hexadecimal digit. -/
def hexFigure? (c : Char) : Option Nat :=
  (List.range 16).find? fun n => Nat.digitChar n == c.toLower

/-- An octal digit. -/
def isOctal (c : Char) : Bool := '0' ≤ c && c ≤ '7'

/-- The number that digits write. -/
def figuresOf (base : Nat) (ds : List Char) : Nat :=
  ds.foldl (fun n c => base * n + (c.toNat - 48)) 0

/-- What the front of a text stands for: a class, or one character; and the text after it. -/
inductive Escaped where
  /-- A class. -/
  | someOf (accepts : Char → Bool) (rest : List Char)
  /-- The character with a code. -/
  | just (code : Nat) (rest : List Char)
  /-- Nothing that separators know. -/
  | unknown

/-- The character whose code so many hexadecimal digits write, after those read so far. -/
def hexEscape : Nat → Nat → List Char → Escaped
  | 0, code, rest => if code ≤ 0x10FFFF then .just code rest else .unknown
  | more + 1, code, c :: rest =>
    match hexFigure? c with
    | some d => hexEscape more (16 * code + d) rest
    | none => .unknown
  | _ + 1, _, [] => .unknown

/-- The character whose code up to three octal digits write.  In front of a pattern's own characters
fewer than three digits name a group, unless the first one is zero. -/
def octalEscape (inClass : Bool) (cs : List Char) : Escaped :=
  let ds := (cs.take 3).takeWhile isOctal
  let code := figuresOf 8 ds
  let known := ds.length == 3 || (inClass && !ds.isEmpty) || ds.head? == some '0'
  if known && code ≤ 0xFF then .just code (cs.drop ds.length) else .unknown

/-- What the characters after a backslash stand for.  The letter b is a backspace in a class
only. -/
def escaped (inClass : Bool) : List Char → Escaped
  | 's' :: rest => .someOf isBlank rest
  | 'd' :: rest => .someOf isDigit rest
  | 'w' :: rest => .someOf isWord rest
  | 'S' :: rest => .someOf (fun c => !isBlank c) rest
  | 'D' :: rest => .someOf (fun c => !isDigit c) rest
  | 'W' :: rest => .someOf (fun c => !isWord c) rest
  | 'n' :: rest => .just 0x0A rest
  | 'r' :: rest => .just 0x0D rest
  | 't' :: rest => .just 0x09 rest
  | 'f' :: rest => .just 0x0C rest
  | 'v' :: rest => .just 0x0B rest
  | 'a' :: rest => .just 0x07 rest
  | 'b' :: rest => if inClass then .just 0x08 rest else .unknown
  | 'x' :: rest => hexEscape 2 0 rest
  | 'u' :: rest => hexEscape 4 0 rest
  | 'U' :: rest => hexEscape 8 0 rest
  | c :: rest =>
    if c.isDigit then octalEscape inClass (c :: rest)
    else if c.isAlpha then .unknown
    else .just c.toNat rest
  | [] => .unknown

/-! ### Classes in brackets -/

/-- What a class in brackets accepts, up to its closing bracket, after the members read so far. -/
inductive ClassEnd where
  /-- The class, and the text after its closing bracket. -/
  | closed (accepts : Char → Bool) (rest : List Char)
  /-- There is no closing bracket. -/
  | notClosed
  /-- A member that separators do without. -/
  | unknown

/-- The member at the front of a class, or the end of a range. -/
def classMember : List Char → Escaped
  | '\\' :: rest => escaped true rest
  | c :: rest => .just c.toNat rest
  | [] => .unknown

/-- The text after the hyphen of a range, unless the hyphen is the last member of a class. -/
def afterHyphen? : List Char → Option (List Char)
  | '-' :: c :: rest => if c = ']' then none else some (c :: rest)
  | _ => none

/-- Read the members of a class up to its closing bracket.  A closing bracket that comes first is a
member. -/
def classMembers (anyCase : Bool) : Nat → Bool → (Char → Bool) → List Char → ClassEnd
  | 0, _, _, _ => .notClosed
  | _, _, _, [] => .notClosed
  | fuel + 1, first, acc, c :: rest =>
    if c = ']' ∧ !first then .closed acc rest
    else
      match classMember (c :: rest) with
      | .unknown => .unknown
      | .someOf accepts more =>
        match afterHyphen? more with
        | some _ => .unknown
        | none => classMembers anyCase fuel false (fun x => acc x || accepts x) more
      | .just code more =>
        match afterHyphen? more with
        | none =>
          if readable anyCase code then
            classMembers anyCase fuel false (fun x => acc x || codeClass anyCase code x) more
          else .unknown
        | some more =>
          match classMember more with
          | .just last more =>
            if code ≤ last && readable anyCase last then
              classMembers anyCase fuel false (fun x => acc x || rangeClass anyCase code last x)
                more
            else .unknown
          | _ => .unknown

/-- Read a class after its opening bracket. -/
def readClass (anyCase : Bool) (cs : List Char) : ClassEnd :=
  match cs with
  | '^' :: rest =>
    match classMembers anyCase rest.length true (fun _ => false) rest with
    | .closed accepts more => .closed (fun x => !accepts x) more
    | e => e
  | _ => classMembers anyCase cs.length true (fun _ => false) cs

/-! ### Repetitions in braces -/

/-- How often something is repeated. -/
structure Count where
  /-- At least so often. -/
  least : Nat
  /-- At most so often, if there is a bound. -/
  most : Option Nat
  deriving DecidableEq, Repr

/-- The most that a count may say, and one more. -/
def countBound : Nat := 4294967295

/-- The item that repeats a class. -/
def Count.item (count : Count) (accepts : Char → Bool) : Item :=
  match count.most with
  | none => .run count.least accepts
  | some most => .bounded count.least most accepts

/-- The count in braces, `{n}`, `{n,}`, `{,n}` or `{m,n}`, after the opening one, with the text
after the closing one.  Braces around anything else are characters like others. -/
def count? (cs : List Char) : Option (Count × List Char) :=
  let low := cs.takeWhile Char.isDigit
  match cs.dropWhile Char.isDigit with
  | '\x7d' :: rest =>
    if low.isEmpty then none else some (⟨figuresOf 10 low, some (figuresOf 10 low)⟩, rest)
  | ',' :: more =>
    let high := more.takeWhile Char.isDigit
    match more.dropWhile Char.isDigit with
    | '\x7d' :: rest =>
      some (⟨figuresOf 10 low, if high.isEmpty then none else some (figuresOf 10 high)⟩, rest)
    | _ => none
  | _ => none

/-! ### Patterns -/

/-- A pattern that is being read. -/
structure Draft where
  /-- The alternatives that are complete, the last one first. -/
  branches : List (List Item)
  /-- The items of the current alternative, the last one first. -/
  items : List Item
  /-- The class that was read last, which a repetition may follow. -/
  last : Option (Char → Bool)

namespace Draft

/-- The draft before anything is read. -/
def start : Draft := ⟨[], [], none⟩

/-- Take up the class that was read last as one character. -/
def settle (d : Draft) : Draft :=
  match d.last with
  | none => d
  | some accepts => ⟨d.branches, .one accepts :: d.items, none⟩

/-- Read a class. -/
def char (d : Draft) (accepts : Char → Bool) : Draft := { d.settle with last := some accepts }

/-- Read an end of the text. -/
def anchor (d : Draft) (item : Item) : Draft :=
  { d.settle with items := item :: d.settle.items }

/-- Read a repetition. -/
def repeated? (d : Draft) (count : Count) : Option Draft :=
  d.last.map fun accepts => ⟨d.branches, count.item accepts :: d.items, none⟩

/-- Whether a repetition was read last. -/
def endsRepeated (d : Draft) : Bool := d.last.isNone && d.items.head?.any Item.repeats

/-- Complete the current alternative. -/
def close (d : Draft) : Draft := ⟨d.settle.items.reverse :: d.branches, [], none⟩

/-- The pattern of a draft that is complete. -/
def pattern (d : Draft) : Pattern := d.close.branches.reverse

end Draft

/-- Read a pattern to its end.  `total` is the length of the whole text, and the fuel bounds the
steps. -/
def parseFrom (anyCase : Bool) (total : Nat) : Nat → Draft → List Char → Except Fault Pattern
  | 0, d, _ => .ok d.pattern
  | _, d, [] => .ok d.pattern
  | fuel + 1, d, c :: rest =>
    let here := total - (c :: rest).length
    let one (accepts : Char → Bool) (more : List Char) :=
      parseFrom anyCase total fuel (d.char accepts) more
    let code (n : Nat) (more : List Char) :=
      if readable anyCase n then one (codeClass anyCase n) more else .error (.unsupported here)
    let repetition (count : Count) (more : List Char) :=
      match d.repeated? count with
      | some d => parseFrom anyCase total fuel d more
      | none => .error (if d.endsRepeated then .multipleRepeat here else .nothingToRepeat here)
    if c = '|' then parseFrom anyCase total fuel d.close rest
    else if c = '^' then parseFrom anyCase total fuel (d.anchor .textStart) rest
    else if c = '$' then parseFrom anyCase total fuel (d.anchor .textEnd) rest
    else if c = '.' then one (· != '\n') rest
    else if c = '*' then repetition ⟨0, none⟩ rest
    else if (c = '+' ∨ c = '?') ∧ d.endsRepeated then .error (.unsupported here)
    else if c = '+' then repetition ⟨1, none⟩ rest
    else if c = '?' then repetition ⟨0, some 1⟩ rest
    else if c = '[' then
      match readClass anyCase rest with
      | .closed accepts more => one accepts more
      | .notClosed => .error (.openClass here)
      | .unknown => .error (.unsupported here)
    else if c = '(' then
      if rest.contains ')' then .error (.unsupported here) else .error (.openGroup here)
    else if c = ')' then .error (.unsupported here)
    else if c = '\\' then
      match escaped false rest with
      | .someOf accepts more => one accepts more
      | .just n more => code n more
      | .unknown => .error (.unsupported here)
    else
      match if c = '\x7b' then count? rest else none with
      | some (count, more) =>
        if countBound ≤ count.least ∨ countBound ≤ count.most.getD 0 then .error (.unsupported here)
        else if count.most.any (· < count.least) then .error (.countsReversed (here + 1))
        else repetition count more
      | none => code c.toNat rest

/-- The pattern that a text writes. -/
def parse (text : String) : Except Fault Pattern :=
  let cs := text.toList
  match cs with
  | '(' :: '?' :: 'i' :: ')' :: rest => parseFrom true cs.length cs.length .start rest
  | _ => parseFrom false cs.length cs.length .start cs

end RunHistory.Separator
