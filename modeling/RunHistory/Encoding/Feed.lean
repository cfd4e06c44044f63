import RunHistory.Encoding.Decoder
import RunHistory.Number.Binary64

/-!
# From bytes to blocks of text

A history file is read in blocks of a fixed number of characters.  Its bytes are fetched in pieces,
of which each is as large as the rest of the block seems to need; every piece is decoded, and in the
text all line ends become line feeds.  Blocks that are complete before a piece turns out wrong are
delivered first.

## Main definitions

* `Encoding.lineFeeds`: the line ends of a piece of text.
* `Encoding.pieceSize`: the number of bytes fetched next.
* `Encoding.Arrival`: the text that arrives, and the fault that ends it.
* `Encoding.Feed`, `Encoding.feed`: the blocks of a file.
-/

namespace RunHistory.Encoding

/-! ### Line ends -/

/-- One character of a text after those before it, which are kept backwards: a carriage return
becomes a line feed and swallows a line feed after it.  The flag says that a carriage return came
last. -/
def lineFeedStep (before : Bool × List Char) (c : Char) : Bool × List Char :=
  if c = '\r' then (true, '\n' :: before.2)
  else if c = '\n' ∧ before.1 then (false, before.2)
  else (false, c :: before.2)

/-- A text in which every carriage return, alone or with a line feed after it, is one line feed. -/
def lineFeeds (cs : List Char) : List Char := (cs.foldl lineFeedStep (false, [])).2.reverse

/-- A piece of text with line feeds for line ends, and whether a carriage return at its end is held
back because a line feed may follow.  `held` says that one was held back before. -/
def lineFeedsOfPiece (held final : Bool) (cs : List Char) : List Char × Bool :=
  let all := if held && (final || !cs.isEmpty) then '\r' :: cs else cs
  let stillHeld := held && !final && cs.isEmpty
  if !final && all.getLast? == some '\r' then (lineFeeds all.dropLast, true)
  else (lineFeeds all, stillHeld)

/-! ### Pieces -/

/-- The least number of bytes of a piece. -/
def leastPiece : Nat := 8192

/-- The number of bytes that so many characters should take, going by the last piece: its bytes per
character, but at least one, times the characters, computed in double precision. -/
def expectedBytes (lastBytes lastChars wanted : Nat) : Nat :=
  if lastChars = 0 ∨ lastBytes ≤ lastChars then wanted
  else
    match Binary64.round false lastBytes lastChars with
    | .finite _ m e =>
      let r := Binary64.ratio m e
      ((Binary64.round false (r.1 * wanted) r.2).truncate?.getD 0).toNat
    | _ => wanted

/-- The number of bytes fetched next. -/
def pieceSize (lastBytes lastChars wanted : Nat) : Nat :=
  max leastPiece (expectedBytes lastBytes lastChars wanted)

/-- The text that arrives from a file, and the fault that ends it. -/
structure Arrival where
  /-- The text. -/
  text : List Char
  /-- The fault after it. -/
  fault : Option Fault
  deriving Repr

/-- What the reader of pieces knows between two of them. -/
structure Progress where
  /-- The decoder. -/
  decoder : Decoder
  /-- Whether a carriage return is held back. -/
  held : Bool
  /-- The number of bytes of the last piece. -/
  lastBytes : Nat
  /-- The number of characters of the last piece. -/
  lastChars : Nat
  /-- The number of characters so far. -/
  count : Nat
  /-- The text so far, the last piece first. -/
  pieces : List (List Char)

/-- The text so far, in order. -/
def Progress.text (p : Progress) : List Char := p.pieces.reverse.flatten

/-- Fetch piece after piece for blocks of `size` characters until no bytes are left.  The fuel
bounds the pieces. -/
def arriveFrom (e : Encoding) (size : Nat) : Nat → Progress → List UInt8 → Arrival
  | 0, p, _ => ⟨p.text, none⟩
  | fuel + 1, p, bytes =>
    let width := pieceSize p.lastBytes p.lastChars (size - p.count % size)
    let piece := bytes.take width
    let final := bytes.isEmpty
    match p.decoder.feed e final piece with
    | .error fault => ⟨p.text, some fault⟩
    | .ok (chars, decoder) =>
      let (text, held) := lineFeedsOfPiece p.held final chars
      let after : Progress :=
        ⟨decoder, held, piece.length, text.length, p.count + text.length, text :: p.pieces⟩
      if final then ⟨after.text, none⟩ else arriveFrom e size fuel after (bytes.drop width)

/-- The text of a file that is read in blocks of `size` characters. -/
def arrive (e : Encoding) (size : Nat) (bytes : List UInt8) : Arrival :=
  arriveFrom e size (bytes.length + 1) ⟨.start e, false, 0, 0, 0, []⟩ bytes

/-! ### Blocks -/

/-- What the reading of a file delivers: blocks of text, none of them empty, and the fault that ends
them. -/
structure Feed where
  /-- The blocks. -/
  blocks : List (List Char)
  /-- The fault after the last of them. -/
  fault : Option Fault
  deriving Repr

/-- A text in blocks of `size` characters, the last one possibly shorter, after the blocks so far,
which are kept backwards. -/
def blocksFrom (size : Nat) (acc : List (List Char)) (text : List Char) : List (List Char) :=
  if _h : size = 0 ∨ text = [] then acc.reverse
  else blocksFrom size (text.take size :: acc) (text.drop size)
termination_by text.length
decreasing_by
  have := List.length_pos_iff.2 (not_or.1 _h).2
  simp only [List.length_drop]
  omega

/-- A text in blocks of `size` characters, the last one possibly shorter. -/
def blocksOf (size : Nat) (text : List Char) : List (List Char) := blocksFrom size [] text

/-- The blocks of a text that is all there: a size below zero is one block with everything, and a
size of zero never delivers anything. -/
def textBlocks (size : Int) (text : List Char) : List (List Char) :=
  if size < 0 then blocksOf text.length text else blocksOf size.toNat text

/-- The blocks of a file.  A block that a fault interrupts is not delivered. -/
def feed (e : Encoding) (size : Int) (bytes : List UInt8) : Feed :=
  if size < 0 then
    match (Decoder.start e).feed e true bytes with
    | .error fault => ⟨[], some fault⟩
    | .ok (chars, _) => ⟨textBlocks size (lineFeeds chars), none⟩
  else if size = 0 then ⟨[], none⟩
  else
    let n := size.toNat
    let a := arrive e n bytes
    match a.fault with
    | none => ⟨blocksOf n a.text, none⟩
    | some fault => ⟨blocksOf n (a.text.take (a.text.length / n * n)), some fault⟩

end RunHistory.Encoding
