import RunHistory.Encoding.Step

/-!
# UTF-16, low byte first

A character takes one 16-bit unit, or two that form a pair: a high unit and a low one.

## Main definitions

* `Utf16.next`: the character at the front of some bytes.
-/

namespace RunHistory.Encoding.Utf16

/-- The unit of two bytes, the low byte first. -/
def unit (low high : UInt8) : Nat := high.toNat * 256 + low.toNat

/-- A unit that stands first in a pair. -/
def isHigh (n : Nat) : Bool := 0xD800 ≤ n && n < 0xDC00

/-- A unit that stands second in a pair. -/
def isLow (n : Nat) : Bool := 0xDC00 ≤ n && n < 0xE000

/-- What stands at the front of some bytes. -/
def next : List UInt8 → Step
  | [] => .done
  | [_] => .unfinished 1 .truncated
  | a :: b :: rest =>
    let first := unit a b
    if isLow first then .invalid 2 .unpairedLow
    else if isHigh first then
      match rest with
      | c :: d :: more =>
        let second := unit c d
        if isLow second then
          .char (Char.ofNat (0x10000 + (first - 0xD800) * 0x400 + (second - 0xDC00))) more
        else .invalid 2 .unpairedHigh
      | short => .unfinished (2 + short.length) .unexpectedEnd
    else .char (Char.ofNat first) rest

end RunHistory.Encoding.Utf16
