import TriggerFlow.Number.Decimal
import TriggerFlow.Text.Blank
import TriggerFlow.Text.Digit

/-!
# Numbers as text

`Binary64.text` writes a number with its shortest digits, positionally while the exponent of the
leading digit is at least -4 and below 16, and always so that it cannot be taken for an integer.
`Decimal.read?` reads the same notation and its usual variations, and `Binary64.readText?` any text
that a person may have entered as a number: in the digits of any script, with blanks around it and
single underscores between digits.
-/

namespace TriggerFlow

namespace Decimal

/-- Strips the trailing zeros of the digits, raising the exponent. -/
def normalize (digits : List Char) (exponent : Int) : List Char × Int :=
  let kept := (digits.reverse.dropWhile (· == '0')).reverse
  if kept.isEmpty then (['0'], 0)
  else (kept, exponent + (digits.length - kept.length))

/-- The digits with the point after the first `whole` of them. -/
def positional (digits : List Char) (whole : Int) : List Char :=
  if whole ≤ 0 then
    '0' :: '.' :: (List.replicate whole.natAbs '0' ++ digits)
  else
    let n := whole.toNat
    if n < digits.length then digits.take n ++ '.' :: digits.drop n
    else digits ++ List.replicate (n - digits.length) '0' ++ ['.', '0']

/-- An exponent with its sign and at least two digits. -/
def exponentText (e : Int) : List Char :=
  let digits := Nat.toDigits 10 e.natAbs
  'e' :: (if e < 0 then '-' else '+') :: (if digits.length < 2 then '0' :: digits else digits)

/-- The text of a decimal. -/
def chars (d : Decimal) : List Char :=
  let (digits, exponent) := normalize (Nat.toDigits 10 d.digits) d.exponent
  let lead := exponent + digits.length - 1
  let body :=
    if -4 ≤ lead && lead < 16 then positional digits (lead + 1)
    else
      match digits with
      | first :: second :: rest => first :: '.' :: second :: (rest ++ exponentText lead)
      | _ => digits ++ exponentText lead
  if d.negative then '-' :: body else body

end Decimal

namespace Binary64

/-- The text of a finite number; the names of the others are given. -/
def charsWith (notANumber infinity : List Char) : Binary64 → List Char
  | .nan _ => notANumber
  | .infinite negative => if negative then '-' :: infinity else infinity
  | .finite negative code => (Decimal.shortest negative code).chars

def text (x : Binary64) : String :=
  String.ofList (x.charsWith ['n', 'a', 'n'] ['i', 'n', 'f'])

end Binary64

/-! ### Reading -/

namespace Decimal

/-- The number written by ASCII digits. -/
def digitsValue (digits : List Char) : Nat :=
  digits.foldl (fun n c => 10 * n + (c.toNat - '0'.toNat)) 0

/-- Splits off a leading sign: whether it is a minus, and the rest. -/
def splitSign : List Char → Bool × List Char
  | '-' :: rest => (true, rest)
  | '+' :: rest => (false, rest)
  | cs => (false, cs)

/-- An exponent part without its letter: an optional sign and digits to the end. -/
def readExponent? (cs : List Char) : Option Int :=
  let (negative, digits) := splitSign cs
  if digits.isEmpty || !digits.all Char.isDigit then none
  else some (if negative then -(digitsValue digits : Int) else (digitsValue digits : Int))

/-- Reads an optional sign, digits with an optional point among or around them, and an optional
exponent; at least one digit is needed before the exponent. -/
def read? (cs : List Char) : Option Decimal := do
  let (negative, body) := splitSign cs
  let whole := body.takeWhile Char.isDigit
  let afterWhole := body.dropWhile Char.isDigit
  let (fraction, rest) := match afterWhole with
    | '.' :: tail => (tail.takeWhile Char.isDigit, tail.dropWhile Char.isDigit)
    | _ => ([], afterWhole)
  if whole.isEmpty && fraction.isEmpty then failure
  let exponent ← match rest with
    | [] => some 0
    | c :: tail => if c == 'e' || c == 'E' then readExponent? tail else none
  return ⟨negative, digitsValue (whole ++ fraction), exponent - fraction.length⟩

end Decimal

namespace Binary64

/-- Lower case for the ASCII letters alone. -/
def asciiLower (cs : List Char) : List Char := cs.map Char.toLower

/-- Reads a decimal numeral or, in any case, a name of an infinity or of not-a-number. -/
def read? (cs : List Char) : Option Binary64 :=
  let (negative, body) := Decimal.splitSign cs
  let name := String.ofList (asciiLower body)
  if name == "inf" || name == "infinity" then some (.infinite negative)
  else if name == "nan" then some notANumber
  else (Decimal.read? cs).map Decimal.toBinary64

/-- Drops the underscores, each of which has to stand between two ASCII digits; `afterDigit` tells
whether a digit stands before. -/
def joinGroups? (afterDigit : Bool) : List Char → Option (List Char)
  | [] => some []
  | '_' :: c :: rest =>
    if afterDigit && c.isDigit then (joinGroups? true rest).map (c :: ·) else none
  | c :: rest => if c == '_' then none else (joinGroups? c.isDigit rest).map (c :: ·)

/-- A decimal digit of any script as the ASCII digit of its value. -/
def asciiDigit (c : Char) : Char :=
  match Text.decimalValue? c with
  | some n => Char.ofNat ('0'.toNat + n)
  | none => c

/-- Reads a number as entered by a person. -/
def readText? (s : String) : Option Binary64 := do
  read? (← joinGroups? false ((Text.trim s.toList).map asciiDigit))

end Binary64

end TriggerFlow
