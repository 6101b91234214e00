import TriggerFlow.Value
import TriggerFlow.Number.Numeral
import TriggerFlow.Text.Quoted

/-!
# Writing JSON text

Only printable ASCII characters are written as they are. Items are separated by a comma and a blank,
keys from values by a colon and a blank.
-/

namespace TriggerFlow.Json

/-- How one code unit is escaped. -/
def escapedUnit (n : Nat) : List Char := '\\' :: 'u' :: Text.hex 4 n

/-- How one character of a text is written. -/
def textChar (c : Char) : List Char :=
  match c with
  | '"' => ['\\', '"']
  | '\\' => ['\\', '\\']
  | '\n' => ['\\', 'n']
  | '\r' => ['\\', 'r']
  | '\t' => ['\\', 't']
  | '\x08' => ['\\', 'b']
  | '\x0c' => ['\\', 'f']
  | _ =>
    let n := c.toNat
    if 0x20 ≤ n && n < 0x7f then [c]
    else if n < 0x10000 then escapedUnit n
    else escapedUnit (0xd800 + (n - 0x10000) / 0x400) ++ escapedUnit (0xdc00 + n % 0x400)

/-- A text in double quotes, followed by `rest`. -/
def textChars (s : String) (rest : List Char) : List Char :=
  '"' :: s.toList.foldr (fun c done => textChar c ++ done) ('"' :: rest)

mutual

/-- The JSON text of a value, followed by `rest`. -/
def chars (rest : List Char) : Value → List Char
  | .null => 'n' :: 'u' :: 'l' :: 'l' :: rest
  | .bool true => 't' :: 'r' :: 'u' :: 'e' :: rest
  | .bool false => 'f' :: 'a' :: 'l' :: 's' :: 'e' :: rest
  | .int n => (toString n).toList ++ rest
  | .float x => x.charsWith "NaN".toList "Infinity".toList ++ rest
  | .str s => textChars s rest
  | .list [] => '[' :: ']' :: rest
  | .list (v :: items) => '[' :: chars (itemChars rest items) v
  | .object [] => '\x7b' :: '\x7d' :: rest
  | .object ((k, v) :: entries) =>
    '\x7b' :: textChars k (':' :: ' ' :: chars (entryChars rest entries) v)

/-- The items after the first, and the end of the list. -/
def itemChars (rest : List Char) : List Value → List Char
  | [] => ']' :: rest
  | v :: items => ',' :: ' ' :: chars (itemChars rest items) v

/-- The entries after the first, and the end of the object. -/
def entryChars (rest : List Char) : List (String × Value) → List Char
  | [] => '\x7d' :: rest
  | (k, v) :: entries =>
    ',' :: ' ' :: textChars k (':' :: ' ' :: chars (entryChars rest entries) v)

end

/-- The JSON text of a value. -/
def write (v : Value) : String := String.ofList (chars [] v)

end TriggerFlow.Json
