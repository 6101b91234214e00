import TriggerFlow.Number.Binary64

/-!
# Arithmetic on binary64 numbers

Each operation computes the exact result in units and rounds once; a result that is no number is a new
object. `total` adds a whole list as if with one rounding; it keeps a list of partial sums that together
are the exact sum so far, and fails where one of these would leave the finite range.
-/

namespace TriggerFlow.Binary64

def neg : Binary64 → Binary64
  | .nan _ => notANumber
  | .infinite negative => .infinite !negative
  | .finite negative code => .finite (!negative) code

def isNegative : Binary64 → Bool
  | .nan _ => false
  | .infinite negative => negative
  | .finite negative _ => negative

/-- An exact sum of zero is negative only if both terms are negative zeros. -/
def add (x y : Binary64) : Binary64 :=
  match x.units?, y.units? with
  | some a, some b =>
    if a + b == 0 then ofCode (a == 0 && x.isNegative && y.isNegative) 0 else ofUnits (a + b)
  | some _, none => if y.isNaN then notANumber else y
  | none, some _ => if x.isNaN then notANumber else x
  | none, none => if x.isNaN || y.isNaN || x != y then notANumber else x

def sub (x y : Binary64) : Binary64 :=
  x.add y.neg

def mul (x y : Binary64) : Binary64 :=
  let negative := x.isNegative != y.isNegative
  match x.units?, y.units? with
  | some a, some b => ofRatio negative (a.natAbs * b.natAbs) unitsPerOne
  | _, _ =>
    if x.isNaN || y.isNaN || x.isZero || y.isZero then notANumber else .infinite negative

def div (x y : Binary64) : Binary64 :=
  let negative := x.isNegative != y.isNegative
  match x.units?, y.units? with
  | some a, some b =>
    if b == 0 then if a == 0 then notANumber else .infinite negative
    else ofRatio negative (a.natAbs * unitsPerOne) b.natAbs
  | some _, none => if y.isNaN then notANumber else ofCode negative 0
  | none, some _ => if x.isNaN then notANumber else .infinite negative
  | none, none => notANumber

/-- The remainder with the sign of the dividend; undefined for an infinite dividend and for a zero
divisor, unless the other operand is not a number. -/
def rem? (x y : Binary64) : Option Binary64 :=
  match x.units?, y.units? with
  | some a, some b =>
    if b == 0 then none else some (ofRatio x.isNegative (a.natAbs % b.natAbs) 1)
  | some _, none => some (if y.isNaN then notANumber else x)
  | none, _ => if x.isNaN || y.isNaN then some notANumber else none

/-- The least of a nonempty list: a later item replaces the one kept only if it is below it. -/
def least (x : Binary64) (ys : List Binary64) : Binary64 :=
  ys.foldl (fun kept y => if y.lt kept then y else kept) x

/-- The greatest of a nonempty list: a later item replaces the one kept only if it is above it. -/
def greatest (x : Binary64) (ys : List Binary64) : Binary64 :=
  ys.foldl (fun kept y => if kept.lt y then y else kept) x

/-- The product, from left to right. -/
def product (xs : List Binary64) : Binary64 :=
  xs.foldl mul one

/-! ### Sums with one rounding -/

/-- Why a list has no sum. -/
inductive SumError
  | overflow
  | opposedInfinities
  deriving DecidableEq

/-- Adds `x` units to partial sums, the least first. Each step splits an exact sum into the number
nearest to it, which is carried on, and the rest, which is kept if it is not zero. -/
def carry (x : Int) : List Int → Option (List Int × Int)
  | [] => some ([], x)
  | y :: ys => do
    let high ← (ofUnits (x + y)).units?
    let low := x + y - high
    let (kept, top) ← carry high ys
    return (if low == 0 then kept else low :: kept, top)

/-- The state of a running sum: the finite part as partial sums, and the sums of the terms that are
not finite and of the infinite ones. -/
structure RunningSum where
  partials : List Int := []
  special : Binary64 := zero
  infinities : Binary64 := zero

namespace RunningSum

/-- A term that is not finite starts the partial sums anew, as they cannot matter any more. -/
def push (s : RunningSum) (x : Binary64) : Except SumError RunningSum :=
  match x.units? with
  | some n =>
    match carry n s.partials with
    | none => .error .overflow
    | some (kept, top) =>
      .ok { s with partials := if top == 0 then kept else kept ++ [top] }
  | none =>
    .ok
      { partials := []
        special := s.special.add x
        infinities := if x.isNaN then s.infinities else s.infinities.add x }

/-- The sum itself, rounded once. -/
def value (s : RunningSum) : Except SumError Binary64 :=
  if s.special.isZero then .ok (ofUnits (s.partials.foldr (· + ·) 0))
  else if s.infinities.isNaN then .error .opposedInfinities
  else .ok s.special

end RunningSum

/-- The sum of a list, rounded once. -/
def total (xs : List Binary64) : Except SumError Binary64 := do
  (← xs.foldlM RunningSum.push {}).value

end TriggerFlow.Binary64
