import TriggerFlow.Value
import TriggerFlow.Number.Numeral

/-!
# Tokens of JSON text

A scanner reads the text one character at a time. Within a text it collects code units, because a
character beyond the first 65536 may be escaped as two of them; words are collected up to the next
blank or punctuation mark and then read as a name or a number.
-/

namespace TriggerFlow.Json

/-- A punctuation mark, a text, or a name or number. -/
inductive Token
  | beginList
  | endList
  | beginObject
  | endObject
  | colon
  | comma
  | text (s : String)
  | scalar (v : Value)

/-- Whether a code unit is the first half of an escaped character. -/
def isHighHalf (n : Nat) : Bool := 0xd800 ≤ n && n < 0xdc00

/-- Whether a code unit is the second half of an escaped character. -/
def isLowHalf (n : Nat) : Bool := 0xdc00 ≤ n && n < 0xe000

/-- A code unit that is a character of its own; a half that stands alone is replaced. -/
def loneUnit (n : Nat) : Char :=
  if isHighHalf n || isLowHalf n then '\ufffd' else Char.ofNat n

/-- The characters of code units, in which two halves make one character. -/
def joinHalves : List Nat → List Char
  | high :: low :: rest =>
    if isHighHalf high && isLowHalf low then
      Char.ofNat (0x10000 + (high - 0xd800) * 0x400 + (low - 0xdc00)) :: joinHalves rest
    else loneUnit high :: joinHalves (low :: rest)
  | [n] => [loneUnit n]
  | [] => []

/-- An integer or floating-point number: the latter has a fraction or an exponent. -/
def number? (cs : List Char) : Option Value :=
  let (negative, body) := match cs with
    | '-' :: rest => (true, rest)
    | _ => (false, cs)
  let whole := body.takeWhile Char.isDigit
  if whole.isEmpty || (whole.head? == some '0' && whole.length != 1) then none
  else
    match body.dropWhile Char.isDigit with
    | [] =>
      let n : Int := Decimal.digitsValue whole
      some (.int (if negative then -n else n))
    | '.' :: rest =>
      if (rest.takeWhile Char.isDigit).isEmpty then none
      else (Decimal.read? cs).map fun d => .float d.toBinary64
    | _ => (Decimal.read? cs).map fun d => .float d.toBinary64

/-- The not-a-number of all JSON texts is one object. -/
def notANumber : Binary64 := .nan (some 0)

/-- A name or a number. -/
def word? (cs : List Char) : Option Value :=
  match String.ofList cs with
  | "null" => some .null
  | "true" => some (.bool true)
  | "false" => some (.bool false)
  | "NaN" => some (.float notANumber)
  | "Infinity" => some (.float (.infinite false))
  | "-Infinity" => some (.float (.infinite true))
  | _ => number? cs

/-- Where the scanner is; what it has collected is reversed. -/
inductive Scan
  | between
  | word (letters : List Char)
  | text (units : List Nat)
  | escaped (units : List Nat)
  | code (units : List Nat) (value : Nat) (count : Nat)

def hexValue? (c : Char) : Option Nat :=
  if c.isDigit then some (c.toNat - '0'.toNat)
  else if 'a' ≤ c && c ≤ 'f' then some (c.toNat - 'a'.toNat + 10)
  else if 'A' ≤ c && c ≤ 'F' then some (c.toNat - 'A'.toNat + 10)
  else none

/-- What a letter after a backslash stands for. -/
def escape? : Char → Option Char
  | '"' => some '"'
  | '\\' => some '\\'
  | '/' => some '/'
  | 'b' => some '\x08'
  | 'f' => some '\x0c'
  | 'n' => some '\n'
  | 'r' => some '\r'
  | 't' => some '\t'
  | _ => none

def punctuation? : Char → Option Token
  | '[' => some .beginList
  | ']' => some .endList
  | '\x7b' => some .beginObject
  | '\x7d' => some .endObject
  | ':' => some .colon
  | ',' => some .comma
  | _ => none

def isSpace (c : Char) : Bool := c == ' ' || c == '\t' || c == '\n' || c == '\r'

/-- One character outside texts, after the tokens `done`, the last first. -/
def scanBetween (done : List Token) (c : Char) : List Token × Scan :=
  if isSpace c then (done, .between)
  else if c == '"' then (done, .text [])
  else
    match punctuation? c with
    | some t => (t :: done, .between)
    | none => (done, .word [c])

/-- One character. -/
def scanStep (done : List Token) (c : Char) : Scan → Option (List Token × Scan)
  | .between => some (scanBetween done c)
  | .word letters =>
    if isSpace c || c == '"' || (punctuation? c).isSome then
      (word? letters.reverse).map fun v => scanBetween (.scalar v :: done) c
    else some (done, .word (c :: letters))
  | .text units =>
    if c == '"' then some (.text (String.ofList (joinHalves units.reverse)) :: done, .between)
    else if c == '\\' then some (done, .escaped units)
    else if c.toNat < 0x20 then none
    else some (done, .text (c.toNat :: units))
  | .escaped units =>
    if c == 'u' then some (done, .code units 0 0)
    else (escape? c).map fun d => (done, .text (d.toNat :: units))
  | .code units value count =>
    (hexValue? c).map fun d =>
      if count == 3 then (done, .text ((16 * value + d) :: units))
      else (done, .code units (16 * value + d) (count + 1))

/-- All tokens of a text. -/
def scan (done : List Token) : Scan → List Char → Option (List Token)
  | s, c :: rest =>
    match scanStep done c s with
    | some (done, s) => scan done s rest
    | none => none
  | .between, [] => some done.reverse
  | .word letters, [] => (word? letters.reverse).map fun v => (.scalar v :: done).reverse
  | _, [] => none

end TriggerFlow.Json
