import RunHistory.Number.Binary64

/-!
# Shortest decimal text of a double-precision number

A finite number is written with the fewest significant digits that read back as that number; of two
such rows of digits the nearer to the number is taken, and the even one at a tie.  Where the decimal
point goes is a decision of the format in use, given by a `Layout`.

## Main definitions

* `Shortest.digits`: the fewest digits and the place of the point.
* `Layout`: the decisions of a format.
* `Layout.write`: a number in a format.
-/

namespace RunHistory

namespace Shortest

/-- The positive numbers that read back as `mantissa * 2 ^ exponent`, as the end points of an
interval over a common denominator; the end points belong to it iff the mantissa is even. -/
structure Interval where
  /-- Denominator of the three points. -/
  den : Nat
  /-- The lower end. -/
  low : Nat
  /-- The number itself. -/
  mid : Nat
  /-- The upper end. -/
  high : Nat
  /-- Whether the ends read back too. -/
  closed : Bool

/-- The interval around a positive number.  Below a power of two the neighbours are twice as dense.
-/
def Interval.around (mantissa : Nat) (exponent : Int) : Interval :=
  let r := Binary64.ratio mantissa exponent
  let unit := r.1 / mantissa
  let below :=
    if mantissa = Nat.pow 2 52 ∧ exponent > Binary64.leastExponent then unit else 2 * unit
  ⟨4 * r.2, 4 * r.1 - below, 4 * r.1, 4 * r.1 + 2 * unit, mantissa % 2 = 0⟩

/-- Whether `n / d` lies in the interval. -/
def Interval.contains (i : Interval) (n d : Nat) : Bool :=
  if i.closed then i.low * d ≤ n * i.den && n * i.den ≤ i.high * d
  else i.low * d < n * i.den && n * i.den < i.high * d

/-- The least `k` in `[start, start + fuel)` with `den ≤ num * 10 ^ k`. -/
def leadingPlace (num den : Nat) : Nat → Nat → Nat
  | 0, k => k
  | fuel + 1, k => if den ≤ num * Nat.pow 10 k then k else leadingPlace num den fuel (k + 1)

/-- The place of the decimal point: the least `p` with `num / den < 10 ^ p`. -/
def pointPlace (num den : Nat) : Int :=
  if den ≤ num then (toString (num / den)).length
  else 1 - (leadingPlace num den 400 1 : Int)

/-- A count of units `10 ^ place` as a quotient. -/
def scaled (n : Nat) (place : Int) : Nat × Nat :=
  if place ≥ 0 then (n * Nat.pow 10 place.toNat, 1) else (n, Nat.pow 10 (-place).toNat)

/-- The better of the two neighbours of the number on the grid of `10 ^ place`, among those that
read back. -/
def onGrid (i : Interval) (place : Int) : Option Nat :=
  let unit := scaled 1 place
  let lower := i.mid * unit.2 / (i.den * unit.1)
  let reads (n : Nat) := let r := scaled n place; i.contains r.1 r.2
  let beyond := 2 * (i.mid * unit.2) % (2 * (i.den * unit.1))
  match reads lower, reads (lower + 1) with
  | true, true =>
    if beyond < i.den * unit.1 then some lower
    else if i.den * unit.1 < beyond then some (lower + 1)
    else some (lower + lower % 2)
  | true, false => some lower
  | false, true => some (lower + 1)
  | false, false => none

/-- The first hit of `fuel` grids, each ten times as fine as the one before. -/
def search (i : Interval) : Nat → Int → Nat × Int
  | 0, place => (i.mid * (scaled 1 place).2 / (i.den * (scaled 1 place).1), place)
  | fuel + 1, place =>
    match onGrid i place with
    | some n => (n, place)
    | none => search i fuel (place - 1)

/-- The fewest digits that read back as a positive number, and the place of the decimal point before
or among or after them. -/
def digits (mantissa : Nat) (exponent : Int) : List Char × Int :=
  let i := Interval.around mantissa exponent
  let r := search i 17 (pointPlace i.mid i.den - 1)
  let text := (toString r.1).toList
  ((text.reverse.dropWhile (· == '0')).reverse, r.2 + text.length)

end Shortest

/-- The decisions of a number format. -/
structure Layout where
  /-- A number is written positionally when the place of its point is above this. -/
  positionalAbove : Int
  /-- And at most this. -/
  positionalUpTo : Int
  /-- Fewest digits of a written exponent. -/
  exponentWidth : Nat
  /-- The result of no number. -/
  nan : List Char
  /-- An infinity, without its sign. -/
  infinite : List Char

namespace Layout

/-- A text filled with zeros on the left. -/
def padLeft (width : Nat) (cs : List Char) : List Char :=
  List.replicate (width - cs.length) '0' ++ cs

/-- Digits with the point at the given place, and at least one digit on each side of it. -/
def positional (digits : List Char) (point : Int) : List Char :=
  if point ≤ 0 then '0' :: '.' :: List.replicate (-point).toNat '0' ++ digits
  else if digits.length ≤ point.toNat then
    digits ++ List.replicate (point.toNat - digits.length) '0' ++ ['.', '0']
  else digits.take point.toNat ++ '.' :: digits.drop point.toNat

/-- Digits with the point after the first one, and the power of ten that makes up for it. -/
def scientific (f : Layout) (digits : List Char) (point : Int) : List Char :=
  let fraction := match digits.drop 1 with
    | [] => []
    | ds => '.' :: ds
  let e := point - 1
  digits.take 1 ++ fraction ++ 'e' :: (if e < 0 then '-' else '+') ::
    padLeft f.exponentWidth (toString e.natAbs).toList

/-- A number in the format. -/
def write (f : Layout) : Binary64 → List Char
  | .nan => f.nan
  | .infinite negative => (if negative then ['-'] else []) ++ f.infinite
  | .finite negative m e =>
    let size :=
      if m = 0 then ['0', '.', '0']
      else
        let d := Shortest.digits m e
        if f.positionalAbove < d.2 ∧ d.2 ≤ f.positionalUpTo then positional d.1 d.2
        else f.scientific d.1 d.2
    (if negative then ['-'] else []) ++ size

end Layout

end RunHistory
