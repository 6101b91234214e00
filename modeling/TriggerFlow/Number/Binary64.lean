/-!
# Binary64 numbers, exactly

A `Binary64` is a double-precision number: not-a-number, an infinity, or a sign and a magnitude code.
The code of a finite magnitude is its bit pattern without the sign, so codes are ordered as
magnitudes are. Every finite magnitude is a whole number of units of 2 ^ (-1074) (`magnitude`), which
makes arithmetic exact integer arithmetic followed by one rounding (`ofRatio`): to the nearest
number, a tie to the even code.
-/

namespace TriggerFlow

-- powers of natural numbers are those of the core library, also where another one is imported
attribute [instance (1100), default_instance 20000] instPowNat

/-- One more than the greatest magnitude code of a finite number. -/
abbrev Binary64.codeLimit : Nat := 2047 * 2 ^ 52

/-- A double-precision number. Not-a-numbers are objects: those of one mark are one and the same, and
one without a mark is an object of its own. -/
inductive Binary64
  | nan (mark : Option Nat)
  | infinite (negative : Bool)
  | finite (negative : Bool) (code : Fin Binary64.codeLimit)
  deriving DecidableEq

namespace Binary64

/-- How many units of 2 ^ (-1074) make one. -/
def unitsPerOne : Nat := 2 ^ 1074

/-- The magnitude of a code, in units of 2 ^ (-1074). -/
def magnitude (code : Nat) : Nat :=
  if code < 2 ^ 52 then code else (2 ^ 52 + code % 2 ^ 52) * 2 ^ (code / 2 ^ 52 - 1)

/-- The finite value in units of 2 ^ (-1074). -/
def units? : Binary64 → Option Int
  | .nan _ => none
  | .infinite _ => none
  | .finite negative code =>
    some (if negative then -(magnitude code : Int) else (magnitude code : Int))

/-- The whole number nearest to `num / den`, a tie to the even one. -/
def roundHalfEven (num den : Nat) : Nat :=
  let q := num / den
  let r := num % den
  if 2 * r < den || (2 * r == den && q % 2 == 0) then q else q + 1

/-- The code nearest to `num / den` units, which may lie beyond the finite ones. -/
def codeOfRatio (num den : Nat) : Nat :=
  let shift := (num / den).log2 - 52
  shift * 2 ^ 52 + roundHalfEven num (den * 2 ^ shift)

/-- The number of a sign and a code; a code beyond the finite ones is an infinity. -/
def ofCode (negative : Bool) (code : Nat) : Binary64 :=
  if h : code < codeLimit then .finite negative ⟨code, h⟩ else .infinite negative

/-- The number nearest to `num / den` units with the given sign. -/
def ofRatio (negative : Bool) (num den : Nat) : Binary64 :=
  ofCode negative (codeOfRatio num den)

/-- The number nearest to a whole number of units; zero is positive. -/
def ofUnits (n : Int) : Binary64 :=
  ofRatio (n < 0) n.natAbs 1

/-- The number nearest to an integer. -/
def ofInt (n : Int) : Binary64 :=
  ofRatio (n < 0) (n.natAbs * unitsPerOne) 1

def zero : Binary64 := ofCode false 0

def one : Binary64 := ofInt 1

/-- A not-a-number that has just been made. -/
def notANumber : Binary64 := .nan none

/-- The bit pattern; every not-a-number has the same. -/
def toBits : Binary64 → Nat
  | .nan _ => 2047 * 2 ^ 52 + 2 ^ 51
  | .infinite negative => (if negative then 2 ^ 63 else 0) + codeLimit
  | .finite negative code => (if negative then 2 ^ 63 else 0) + code

/-- The number of a bit pattern. -/
def ofBits (bits : Nat) : Binary64 :=
  let negative := bits / 2 ^ 63 % 2 == 1
  let code := bits % 2 ^ 63
  if h : code < codeLimit then .finite negative ⟨code, h⟩
  else if code == codeLimit then .infinite negative
  else notANumber

def isNaN : Binary64 → Bool
  | .nan _ => true
  | _ => false

def isFinite : Binary64 → Bool
  | .finite .. => true
  | _ => false

/-- Whether the number is a zero of either sign. -/
def isZero : Binary64 → Bool
  | .finite _ code => code.val == 0
  | _ => false

/-- The place of a number in the order; the two zeros share one, not-a-number has none. -/
def rank? : Binary64 → Option Int
  | .nan _ => none
  | .infinite negative => some (if negative then -(codeLimit : Int) else (codeLimit : Int))
  | .finite negative code => some (if negative then -(code : Int) else (code : Int))

/-- Equality of numbers: zeros are equal, not-a-number equals nothing. -/
def eq (x y : Binary64) : Bool :=
  match x.rank?, y.rank? with
  | some a, some b => a == b
  | _, _ => false

/-- Strict order; not-a-number is below nothing. -/
def lt (x y : Binary64) : Bool :=
  match x.rank?, y.rank? with
  | some a, some b => a < b
  | _, _ => false

/-- Order; not-a-number is related to nothing. -/
def le (x y : Binary64) : Bool :=
  match x.rank?, y.rank? with
  | some a, some b => a ≤ b
  | _, _ => false

/-- Whether the number is exactly the given integer. -/
def isInt (x : Binary64) (n : Int) : Bool :=
  x.units? == some (n * unitsPerOne)

/-- The whole part, for a finite number. -/
def truncate? (x : Binary64) : Option Int :=
  x.units?.map fun n => n.tdiv unitsPerOne

/-- The least integer that is not below a finite number. -/
def ceiling? (x : Binary64) : Option Int :=
  x.units?.map fun n => -(-n / (unitsPerOne : Int))

/-- The integer that a finite number without a fraction is. -/
def toInt? (x : Binary64) : Option Int :=
  x.truncate?.filter x.isInt

end Binary64

end TriggerFlow
