import TriggerFlow.Number.Binary64

/-!
# Decimal numbers and binary64

A `Decimal` is digits times a power of ten. `toBinary64` reads one as the nearest double-precision
number. `shortest` goes the other way: of the decimals with the fewest digits that read back as the
given number it takes the nearest one, the even one of two equally near.
-/

namespace TriggerFlow

/-- A sign and `digits * 10 ^ exponent`. -/
structure Decimal where
  negative : Bool
  digits : Nat
  exponent : Int
  deriving DecidableEq

namespace Decimal

/-- How many decimal digits a number is written with. -/
def digitCount (n : Nat) : Nat := (Nat.toDigits 10 n).length

/-- The nearest double-precision number. Exponents that are far out of its range are settled without
computing their power of ten. -/
def toBinary64 (d : Decimal) : Binary64 :=
  if d.digits == 0 then .ofCode d.negative 0
  else if 400 < d.exponent then .infinite d.negative
  else if d.exponent + digitCount d.digits < -400 then .ofCode d.negative 0
  else
    match d.exponent with
    | .ofNat e => .ofRatio d.negative (d.digits * 10 ^ e * Binary64.unitsPerOne) 1
    | .negSucc e => .ofRatio d.negative (d.digits * Binary64.unitsPerOne) (10 ^ (e + 1))

/-- The exponent of the leading decimal digit of `units`, which is not zero. -/
def leadingExponent (units : Nat) : Int :=
  let whole := units / Binary64.unitsPerOne
  if whole == 0 then
    -((Nat.toDigits 10 ((Binary64.unitsPerOne - 1) / units)).length : Int)
  else (digitCount whole : Int) - 1

/-- The two decimals with the given last place that enclose `units`, the nearer one first. -/
def neighbours (negative : Bool) (units : Nat) (place : Int) : List Decimal :=
  let num := match place with
    | .ofNat _ => units
    | .negSucc e => units * 10 ^ (e + 1)
  let den := match place with
    | .ofNat e => Binary64.unitsPerOne * 10 ^ e
    | .negSucc _ => Binary64.unitsPerOne
  let below : Decimal := ⟨negative, num / den, place⟩
  let above : Decimal := ⟨negative, num / den + 1, place⟩
  if Binary64.roundHalfEven num den == num / den then [below, above] else [above, below]

/-- The decimal that a finite number is exactly. -/
def exact (negative : Bool) (units : Nat) : Decimal :=
  ⟨negative, units * 5 ^ 1074, -1074⟩

/-- The nearest of the shortest decimals that read back as the finite number of the given sign and
code. -/
def shortest (negative : Bool) (code : Nat) : Decimal :=
  let units := Binary64.magnitude code
  if units == 0 then ⟨negative, 0, 0⟩
  else
    let lead := leadingExponent units
    let tries := (List.range 17).flatMap fun (n : Nat) => neighbours negative units (lead - n)
    (tries.find? fun d => d.toBinary64 == Binary64.ofCode negative code).getD
      (exact negative units)

end Decimal

end TriggerFlow
