import TriggerFlow.Number
import TriggerFlow.Number.Numeral
import TriggerFlow.Schema.Checked

/-!
# Reading scalars

Scalars are read leniently where nothing is lost: an integer also from a whole floating-point number,
a truth value or a text that writes it, a truth value also from zero, one or one of its usual words,
a floating-point number also from an integer or a text. A text is only read from a text.
-/

namespace TriggerFlow.Schema

/-- Drops zeros, and underscores among them, in front of other digits or of a minus; one zero remains
if there are no others. What starts with a minus is left as it is; nothing but that and a digit may
start a number. -/
def dropLeadingZeros (cs : List Char) : Option (List Char) :=
  match cs with
  | '0' :: rest =>
    let tail := rest.dropWhile fun c => c == '0' || c == '_'
    match tail with
    | [] => some [(rest.getLast?).getD '0']
    | '.' :: _ =>
      let skipped := rest.take (rest.length - tail.length)
      some ((skipped.getLast?).getD '0' :: tail)
    | c :: _ => if c.isDigit || c == '-' then some tail else none
  | c :: _ => if c.isDigit || c == '-' then some cs else none
  | [] => none

/-- Drops a fraction of zeros, of which there must be one. -/
def dropZeroFraction (cs : List Char) : List Char :=
  match cs.dropWhile (· != '.') with
  | '.' :: '0' :: zeros => if zeros.all (· == '0') then cs.takeWhile (· != '.') else cs
  | _ => cs

/-- A plain integer: an optional minus and digits, among which may be single underscores. All digits
together may not be too many. -/
def plainInteger (cs : List Char) : Except ProblemKind Int :=
  let (negative, body) := match cs with
    | '-' :: rest => (true, rest)
    | _ => (false, cs)
  match Binary64.joinGroups? false body with
  | none => .error .intParsing
  | some digits =>
    if digits.isEmpty || !digits.all Char.isDigit then .error .intParsing
    else if Breakdown.digitLimit < digits.length + (if negative then 1 else 0) then
      .error .intParsingSize
    else
      let n : Int := Decimal.digitsValue digits
      .ok (if negative then -n else n)

/-- The integer that a text writes: with blanks around, a sign, leading zeros, single underscores
inside, or a fraction that is zero. -/
def integerOfText (s : String) : Except ProblemKind Int :=
  let unsigned : Option (List Char) :=
    match Text.trim s.toList with
    | '+' :: '-' :: _ => none
    | '+' :: rest => some rest
    | cs => some cs
  match unsigned.bind dropLeadingZeros with
  | some cs => plainInteger (dropZeroFraction cs)
  | none => .error .intParsing

/-- The whole number that a floating-point number is, within the range of words of 64 bits. -/
def wholeNumber (x : Binary64) : Except ProblemKind Int :=
  if !x.isFinite then .error .finiteNumber
  else
    match x.toInt? with
    | some n => if n.natAbs < 2 ^ 63 then .ok n else .error .intParsingSize
    | none => .error .intFromFloat

/-- Data that is read or has a problem. -/
def Checked.ofExcept {α : Type} : Except ProblemKind α → Checked α
  | .ok a => .accepted a
  | .error kind => .problem kind

/-- Reads an integer. -/
def readInteger (v : Value) : Checked Int :=
  match v with
  | .int n => .accepted n
  | .bool b => .accepted (if b then 1 else 0)
  | .float x => .ofExcept (wholeNumber x)
  | .str s => .ofExcept (integerOfText s)
  | _ => .problem .intType

/-- Reads an integer within bounds. -/
def readBounded (low high : Int) (v : Value) : Checked Int :=
  (readInteger v).andThen fun n =>
    if n < low then .problem .greaterThanEqual
    else if high < n then .problem .lessThanEqual
    else .accepted n

/-- The words for true and for false, in lower case. -/
def trueWords : List String := ["1", "on", "t", "true", "y", "yes"]

def falseWords : List String := ["0", "off", "f", "false", "n", "no"]

/-- A truth value from an integer. -/
def truthOfInteger (n : Int) : Checked Bool :=
  if n == 0 then .accepted false
  else if n == 1 then .accepted true
  else .problem .boolParsing

/-- Reads a truth value. -/
def readTruth (v : Value) : Checked Bool :=
  match v with
  | .bool b => .accepted b
  | .int n =>
    if Number.isWord n then truthOfInteger n else .problem .boolType
  | .float x =>
    match wholeNumber x with
    | .ok n => truthOfInteger n
    | .error _ => .problem .boolType
  | .str s =>
    let word := String.ofList (Binary64.asciiLower s.toList)
    if trueWords.contains word then .accepted true
    else if falseWords.contains word then .accepted false
    else .problem .boolParsing
  | _ => .problem .boolType

/-- Whether two underscores stand side by side. -/
def hasDoubleUnderscore : List Char → Bool
  | '_' :: '_' :: _ => true
  | _ :: rest => hasDoubleUnderscore rest
  | [] => false

/-- Drops single underscores inside; other texts are left as they are. -/
def dropUnderscores (cs : List Char) : List Char :=
  if cs.head? == some '_' || cs.getLast? == some '_' || hasDoubleUnderscore cs then cs
  else cs.filter (· != '_')

/-- Reads a floating-point number. -/
def readFloat (v : Value) : Checked Binary64 :=
  match v with
  | .float x => .accepted x
  | .int n =>
    match Number.nearest? (.int n) with
    | some x => .accepted x
    | none => .problem .floatType
  | .bool b => .accepted (if b then .one else .zero)
  | .str s =>
    match Binary64.read? (Text.trim s.toList) with
    | some x => .accepted x
    | none =>
      match Binary64.read? (dropUnderscores s.toList) with
      | some x => .accepted x
      | none => .problem .floatParsing
  | _ => .problem .floatType

/-- Reads a text. -/
def readText (v : Value) : Checked String :=
  match v with
  | .str s => .accepted s
  | _ => .problem .stringType

/-- Reads a text of at least and at most so many characters. -/
def readSized (low : Nat) (high : Option Nat) (v : Value) : Checked String :=
  (readText v).andThen fun s =>
    if s.length < low then .problem .stringTooShort
    else
      match high with
      | some h => if h < s.length then .problem .stringTooLong else .accepted s
      | none => .accepted s

/-- Reads null as absence and everything else as given. -/
def readOptional {α : Type} (read : Value → Checked α) (v : Value) : Checked (Option α) :=
  match v with
  | .null => .accepted none
  | v => (read v).map some

/-- Reads a name of a vocabulary. -/
def readName {α : Type} (ofName? : String → Option α) (v : Value) : Checked α :=
  match v with
  | .str s =>
    match ofName? s with
    | some a => .accepted a
    | none => .problem .notInVocabulary
  | _ => .problem .notInVocabulary

/-- Reads the entries of an object. -/
def readObject (kind : ProblemKind) (v : Value) : Checked Entries :=
  match v with
  | .object entries => .accepted entries
  | _ => .problem kind

/-- Reads the items of a list. -/
def readList {α : Type} (read : Value → Checked α) (v : Value) : Checked (List α) :=
  match v with
  | .list items => Checked.items read 0 items
  | _ => .problem .listType

end TriggerFlow.Schema
