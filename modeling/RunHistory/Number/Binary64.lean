/-!
# Double-precision numbers

Numbers with a fraction or an exponent are kept in the 64-bit binary format: a sign, a mantissa of
53 bits and a power of two.  They are held here by what they mean, and all arithmetic on them is
exact arithmetic on integers with one rounding at its end.

## Main definitions

* `Binary64`: a number, an infinity, or the result of no number.
* `Binary64.round`: the number nearest to a quotient, the even mantissa at a tie.
* `Binary64.ofDecimal`: the number nearest to a decimal one.
* `Binary64.bits`: the 64-bit word of the interchange format.
* `Binary64.truncate?`: the whole part.

## Main results

* `Binary64.truncate?_eq_none_iff`: only an infinity and the result of no number lack a whole part.
-/

namespace RunHistory

/-- A number of the 64-bit binary format.  A finite one is `mantissa * 2 ^ exponent` with `mantissa
< 2 ^ 53` and `-1074 ≤ exponent`, the mantissa as large as these bounds allow. -/
inductive Binary64 where
  /-- The result of an operation that has none. -/
  | nan
  /-- Larger in size than every finite number. -/
  | infinite (negative : Bool)
  /-- A finite number, zero with either sign among them. -/
  | finite (negative : Bool) (mantissa : Nat) (exponent : Int)
  deriving DecidableEq, Repr, Inhabited

namespace Binary64

/-- The least exponent of a finite number. -/
def leastExponent : Int := -1074

/-- Zero of the given sign. -/
def zero (negative : Bool) : Binary64 := .finite negative 0 leastExponent

/-! ### Rounding -/

/-- A quotient to the nearest integer, the even one at a tie. -/
def roundHalfEven (num den : Nat) : Nat :=
  let q := num / den
  let r := num % den
  if 2 * r < den then q
  else if 2 * r = den then q + q % 2
  else q + 1

/-- A mantissa that rounding took to `2 ^ 53` is halved, and one whose exponent is too large for the
format becomes infinite. -/
def normalize (negative : Bool) (mantissa : Nat) (exponent : Int) : Binary64 :=
  let m := if mantissa = Nat.pow 2 53 then Nat.pow 2 52 else mantissa
  let e := if mantissa = Nat.pow 2 53 then exponent + 1 else exponent
  if e > 971 then .infinite negative else .finite negative m e

/-- `num / den / 2 ^ exponent`, rounded to an integer. -/
def roundAt (num den : Nat) (exponent : Int) : Nat :=
  if exponent ≥ 0 then roundHalfEven num (den * Nat.pow 2 exponent.toNat)
  else roundHalfEven (num * Nat.pow 2 (-exponent).toNat) den

/-- Whether `num / den` has 54 bits or more before the point when measured in units of `2 ^
exponent`. -/
def overflowsAt (num den : Nat) (exponent : Int) : Bool :=
  if exponent ≥ 0 then den * Nat.pow 2 exponent.toNat * Nat.pow 2 53 ≤ num
  else den * Nat.pow 2 53 ≤ num * Nat.pow 2 (-exponent).toNat

/-- The number nearest to `num / den`, the one with the even mantissa at a tie. -/
def round (negative : Bool) (num den : Nat) : Binary64 :=
  if num = 0 then zero negative
  else
    let guess := max ((num.log2 : Int) - den.log2 - 53) leastExponent
    let e := if overflowsAt num den guess then guess + 1 else guess
    normalize negative (roundAt num den e) e

/-- The number nearest to `digits * 10 ^ exponent`, where `width` bounds the number of digits.
Numbers far outside the format are settled without computing the power. -/
def ofDecimal (negative : Bool) (digits width : Nat) (exponent : Int) : Binary64 :=
  if digits = 0 then zero negative
  else if exponent > 400 then .infinite negative
  else if exponent + width < -400 then zero negative
  else if exponent ≥ 0 then round negative (digits * Nat.pow 10 exponent.toNat) 1
  else round negative digits (Nat.pow 10 (-exponent).toNat)

/-! ### Reading a number off -/

/-- The word of the interchange format, for the result of no number its quiet form. -/
def bits : Binary64 → Nat
  | .nan => 0x7FF8000000000000
  | .infinite negative => (if negative then Nat.pow 2 63 else 0) + 0x7FF0000000000000
  | .finite negative m e =>
    (if negative then Nat.pow 2 63 else 0) +
      if m < Nat.pow 2 52 then m else (e + 1075).toNat * Nat.pow 2 52 + (m - Nat.pow 2 52)

/-- The size of a finite number as a quotient of naturals. -/
def ratio (mantissa : Nat) (exponent : Int) : Nat × Nat :=
  if exponent ≥ 0 then (mantissa * Nat.pow 2 exponent.toNat, 1)
  else (mantissa, Nat.pow 2 (-exponent).toNat)

/-- The whole part of a finite number. -/
def truncate? : Binary64 → Option Int
  | .finite negative m e =>
    let r := ratio m e
    some (if negative then -((r.1 / r.2 : Nat) : Int) else (r.1 / r.2 : Nat))
  | _ => none

theorem truncate?_eq_none_iff {x : Binary64} :
    x.truncate? = none ↔ x = .nan ∨ ∃ negative, x = .infinite negative := by
  cases x <;> simp [truncate?]

end Binary64

end RunHistory
