import TriggerFlow.Number

/-!
# Values

Rule trees, event contexts, trigger configs and everything that is stored or answered are values: the
data that a JSON text can write. Integers have any size and are kept apart from floating-point
numbers; an object is the list of its entries in the order in which they were given.
-/

namespace TriggerFlow

/-- A piece of JSON data. -/
inductive Value
  | null
  | bool (b : Bool)
  | int (n : Int)
  | float (x : Binary64)
  | str (s : String)
  | list (items : List Value)
  | object (entries : List (String × Value))

/-- The entries of an object, in the order given. -/
abbrev Entries := List (String × Value)

/-- What kind of data a value is. -/
inductive Kind
  | null
  | bool
  | int
  | float
  | str
  | list
  | object
  deriving DecidableEq

/-- The name of a kind in messages. -/
def Kind.name : Kind → String
  | .null => "NoneType"
  | .bool => "bool"
  | .int => "int"
  | .float => "float"
  | .str => "str"
  | .list => "list"
  | .object => "dict"

namespace Entries

/-- Sets a key: its value is replaced where it stands, a new key goes to the end. -/
def insert (key : String) (v : Value) : Entries → Entries
  | [] => [(key, v)]
  | (k, w) :: rest => if k == key then (key, v) :: rest else (k, w) :: insert key v rest

/-- The entries of a list of keyed values of which the last value of a key counts. -/
def ofList (entries : List (String × Value)) : Entries :=
  entries.foldl (fun done e => insert e.1 e.2 done) []

/-- The value of a key, null if it is missing. -/
def get (entries : Entries) (key : String) : Value :=
  (entries.lookup key).getD .null

end Entries

namespace Value

instance : Inhabited Value := ⟨.null⟩

def kind : Value → Kind
  | .null => .null
  | .bool _ => .bool
  | .int _ => .int
  | .float _ => .float
  | .str _ => .str
  | .list _ => .list
  | .object _ => .object

def isNull : Value → Bool
  | .null => true
  | _ => false

/-- Whether the value counts as true: not null, false, a zero, or empty. -/
def truthy : Value → Bool
  | .null => false
  | .bool b => b
  | .int n => n != 0
  | .float x => !x.isZero
  | .str s => s != ""
  | .list items => !items.isEmpty
  | .object entries => !entries.isEmpty

/-- The value of a key of an object; null for a missing key and for what is no object. -/
def get (v : Value) (key : String) : Value :=
  match v with
  | .object entries => Entries.get entries key
  | _ => .null

/-- The number itself, if the value is one; truth values are none. -/
def number? : Value → Option Number
  | .int n => some (.int n)
  | .float x => some (.float x)
  | _ => none

def ofNumber : Number → Value
  | .int n => .int n
  | .float x => .float x

/-- The text itself, if the value is a text. -/
def text? : Value → Option String
  | .str s => some s
  | _ => none

def ofOption {α : Type} (f : α → Value) : Option α → Value
  | some a => f a
  | none => .null

end Value

end TriggerFlow
