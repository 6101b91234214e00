import TriggerFlow.Json.Token

/-!
# Reading JSON text

Values are built from tokens on a stack of the lists and objects that are not closed yet, so that no
depth of nesting is too great.
-/

namespace TriggerFlow.Json

/-- A list or an object that is being read; what is complete of it is reversed. -/
inductive Frame
  | items (done : List Value)
  | entries (done : List (String × Value)) (key : String)

/-- What has been read, and with it what may come next. -/
inductive Progress
  | value (stack : List Frame)
  | itemOrEnd (stack : List Frame)
  | keyOrEnd (stack : List Frame)
  | key (done : List (String × Value)) (stack : List Frame)
  | colon (done : List (String × Value)) (key : String) (stack : List Frame)
  | after (v : Value) (stack : List Frame)

/-- The first token of a value. -/
def begin? (stack : List Frame) : Token → Option Progress
  | .text s => some (.after (.str s) stack)
  | .scalar v => some (.after v stack)
  | .beginList => some (.itemOrEnd stack)
  | .beginObject => some (.keyOrEnd stack)
  | _ => none

/-- One token. -/
def Progress.step? : Progress → Token → Option Progress
  | .value stack, t => begin? stack t
  | .itemOrEnd stack, .endList => some (.after (.list []) stack)
  | .itemOrEnd stack, t => begin? (.items [] :: stack) t
  | .keyOrEnd stack, .endObject => some (.after (.object []) stack)
  | .keyOrEnd stack, .text k => some (.colon [] k stack)
  | .key done stack, .text k => some (.colon done k stack)
  | .colon done k stack, .colon => some (.value (.entries done k :: stack))
  | .after v (.items done :: stack), .comma => some (.value (.items (v :: done) :: stack))
  | .after v (.items done :: stack), .endList => some (.after (.list (v :: done).reverse) stack)
  | .after v (.entries done k :: stack), .comma => some (.key ((k, v) :: done) stack)
  | .after v (.entries done k :: stack), .endObject =>
    some (.after (.object (Entries.ofList ((k, v) :: done).reverse)) stack)
  | _, _ => none

/-- The value of a JSON text, unless the text is malformed. -/
def read? (s : String) : Option Value := do
  match ← (← scan [] .between s.toList).foldlM Progress.step? (.value []) with
  | .after v [] => some v
  | _ => none

end TriggerFlow.Json
