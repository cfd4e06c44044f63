import RunHistory.Encoding.Step

/-!
# UTF-8

A character takes one to four bytes.  The first byte tells how many and bounds the second one, so
that no character has two forms, none is half of a surrogate pair and none lies beyond U+10FFFF;
every further byte is a continuation byte.  Wrong bytes are the first byte together with the
continuation bytes that fit it.

## Main definitions

* `Utf8.next`: the character at the front of some bytes.
-/

namespace RunHistory.Encoding.Utf8

/-- A continuation byte. -/
def isContinuation (b : UInt8) : Bool := 0x80 ≤ b && b < 0xC0

/-- The six low bits of a continuation byte. -/
def low (b : UInt8) : Nat := b.toNat % 64

/-- Whether a byte may stand second after a first byte of three or four bytes. -/
def fitsSecond (first second : UInt8) : Bool :=
  isContinuation second &&
    (first != 0xE0 || 0xA0 ≤ second) && (first != 0xED || second < 0xA0) &&
    (first != 0xF0 || 0x90 ≤ second) && (first != 0xF4 || second < 0x90)

/-- The character of two bytes that begins with `a`. -/
def nextOfTwo (a : UInt8) : List UInt8 → Step
  | [] => .unfinished 1 .unexpectedEnd
  | b :: rest =>
    if isContinuation b then .char (Char.ofNat (a.toNat % 32 * 64 + low b)) rest
    else .invalid 1 .invalidContinuation

/-- The character of three bytes that begins with `a`.  The first two bytes of half a surrogate pair
are wrong only once it is clear what follows. -/
def nextOfThree (a : UInt8) : List UInt8 → Step
  | [] => .unfinished 1 .unexpectedEnd
  | [b] =>
    if fitsSecond a b then .unfinished 2 .unexpectedEnd
    else if a = 0xED ∧ isContinuation b then .unfinished 1 .invalidContinuation
    else .invalid 1 .invalidContinuation
  | b :: c :: rest =>
    if !fitsSecond a b then .invalid 1 .invalidContinuation
    else if isContinuation c then
      .char (Char.ofNat ((a.toNat % 16 * 64 + low b) * 64 + low c)) rest
    else .invalid 2 .invalidContinuation

/-- The character of four bytes that begins with `a`. -/
def nextOfFour (a : UInt8) : List UInt8 → Step
  | [] => .unfinished 1 .unexpectedEnd
  | [b] =>
    if fitsSecond a b then .unfinished 2 .unexpectedEnd else .invalid 1 .invalidContinuation
  | [b, c] =>
    if !fitsSecond a b then .invalid 1 .invalidContinuation
    else if isContinuation c then .unfinished 3 .unexpectedEnd
    else .invalid 2 .invalidContinuation
  | b :: c :: d :: rest =>
    if !fitsSecond a b then .invalid 1 .invalidContinuation
    else if !isContinuation c then .invalid 2 .invalidContinuation
    else if isContinuation d then
      .char (Char.ofNat (((a.toNat % 8 * 64 + low b) * 64 + low c) * 64 + low d)) rest
    else .invalid 3 .invalidContinuation

/-- What stands at the front of some bytes. -/
def next : List UInt8 → Step
  | [] => .done
  | a :: rest =>
    if a < 0x80 then .char (Char.ofNat a.toNat) rest
    else if a < 0xC2 then .invalid 1 .invalidStart
    else if a < 0xE0 then nextOfTwo a rest
    else if a < 0xF0 then nextOfThree a rest
    else if a < 0xF5 then nextOfFour a rest
    else .invalid 1 .invalidStart

end RunHistory.Encoding.Utf8
