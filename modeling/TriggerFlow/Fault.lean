import TriggerFlow.Number
import TriggerFlow.Rule.Operator
import TriggerFlow.Text.Quoted
import TriggerFlow.Value

/-!
# Faults

What can go wrong, by cause. A `LogicFault` lies in a rule tree, an action or a trigger config, and
ends the one workflow that has it. A `Breakdown` is a limit of numbers, texts or memory, or data of
an unsuitable kind. `message` is the wording of each. A component may fail in any other way, too, even
with a fault that has no text.
-/

namespace TriggerFlow

/-- A fault of what the author of a workflow has written. -/
inductive LogicFault
  | unknownOperator (name : String)
  | operandCount (op : Operator) (count : Nat)
  | pathKind (kind : Kind)
  | operandKind (op : Operator) (kind : Kind)
  | divisionByZero (op : Operator)
  | tooDeep (limit : Int)
  | unknownAction (name : String)
  | configKind (kind : Kind)
  | filtersKind (kind : Kind)
  /-- A trigger filter that broke down, with the reason. -/
  | filterFailed (reason : String)
  /-- An evaluation that broke down, with the reason. -/
  | executionFailed (reason : String)
  /-- A fault of which an evaluation worker reported only the message. -/
  | reported (message : String)
  /-- An evaluation worker that ended without a message, with its exit code if that is known. -/
  | workerExited (exitCode : Option Int)
  deriving DecidableEq

namespace LogicFault

def message : LogicFault → String
  | .unknownOperator name => "Unrecognized operation " ++ name
  | .operandCount op count =>
    "Operator '" ++ op.symbol ++ "' expects " ++ op.arity.text ++ " operand(s), got " ++
      toString count
  | .pathKind kind => "Variable path must be a string, got " ++ kind.name
  | .operandKind op kind =>
    "Operator '" ++ op.symbol ++ "' expects numeric operands, got " ++ kind.name
  | .divisionByZero _ => "Division by zero"
  | .tooDeep limit => "Logic tree too deep (max nesting depth is " ++ toString limit ++ ")"
  | .unknownAction name => "Unknown action type: " ++ name
  | .configKind kind => "Trigger config must be an object, got " ++ kind.name
  | .filtersKind kind => "Trigger config filters must be a list, got " ++ kind.name
  | .filterFailed reason => "Trigger filter failed: " ++ reason
  | .executionFailed reason => "Logic execution failed: " ++ reason
  | .reported message => message
  | .workerExited exitCode =>
    "Evaluation worker exited without a result (exit code " ++
      (match exitCode with
        | some n => toString n
        | none => "None") ++ ")"

/-- The name of the operation at fault, unless it is empty. -/
def operator? : LogicFault → Option String
  | .unknownOperator name => if name == "" then none else some name
  | .operandCount op _ => some op.symbol
  | .pathKind _ => some Operator.variable.symbol
  | .operandKind op _ => some op.symbol
  | .divisionByZero op => some op.symbol
  | _ => none

end LogicFault

/-- What goes down into data level by level. -/
inductive Descent
  | evaluation
  | copying
  | handover
  | comparison
  | writing
  | encoding
  deriving DecidableEq

/-- The part of a message that tells what went too deep. -/
def Descent.text : Descent → String
  | .evaluation => ""
  | .copying => " while calling a Python object"
  | .handover => " while pickling an object"
  | .comparison => " in comparison"
  | .writing => " while getting the repr of an object"
  | .encoding => " while encoding a JSON object"

/-- Data that an operation cannot cope with. -/
inductive Breakdown
  | integerTooLarge
  | sumOverflow
  | opposedInfinities
  | undefinedRemainder
  /-- A text of digits that are not all decimal digits. -/
  | notAnInteger (text : String)
  /-- A text of more digits than an integer may be read from. -/
  | tooManyDigits (count : Nat)
  /-- An integer too long to be written. -/
  | integerTooLong
  /-- Data that has more levels than there can be. -/
  | nestedTooDeeply (during : Descent)
  | unhashable (kind : Kind)
  /-- A value of this kind has no keys to look up. -/
  | noKeys (kind : Kind)
  | notIterable (kind : Kind)
  /-- An item that should be a pair has another length. -/
  | notAPair (index length : Nat)
  /-- An item that should be a pair has no items. -/
  | notASequence (index : Nat)
  | missingKey (key : String)
  /-- A value of this kind has no parts that are named by keys. -/
  | notKeyed (kind : Kind)
  /-- A value of this kind is no number. -/
  | notANumber (kind : Kind)
  /-- Fields that are not those of the data they are given for. -/
  | unfitFields
  | dateOutOfRange
  /-- An integer that does not fit a word of the database. -/
  | integerBeyondWord
  | infinityToInteger
  | notANumberToInteger
  /-- A wait of more milliseconds than can be waited. -/
  | waitTooLong
  /-- A wait of more nanoseconds than a clock counts. -/
  | waitBeyondClock
  | noStartMethod (name : String)
  | badProbability
  deriving DecidableEq

namespace Breakdown

/-- How many decimal digits of an integer can be read or written. -/
def digitLimit : Nat := 4300

def message : Breakdown → String
  | .integerTooLarge => "int too large to convert to float"
  | .sumOverflow => "intermediate overflow in fsum"
  | .opposedInfinities => "-inf + inf in fsum"
  | .undefinedRemainder => "math domain error"
  | .notAnInteger text =>
    "invalid literal for int() with base 10: " ++
      String.ofList ((Text.quoted text).toList.take 200)
  | .tooManyDigits count =>
    "Exceeds the limit (" ++ toString digitLimit ++
      " digits) for integer string conversion: value has " ++ toString count ++
      " digits; use sys.set_int_max_str_digits() to increase the limit"
  | .integerTooLong =>
    "Exceeds the limit (" ++ toString digitLimit ++
      " digits) for integer string conversion; use sys.set_int_max_str_digits()" ++
      " to increase the limit"
  | .nestedTooDeeply during => "maximum recursion depth exceeded" ++ during.text
  | .unhashable kind => "unhashable type: '" ++ kind.name ++ "'"
  | .noKeys kind => "'" ++ kind.name ++ "' object has no attribute 'get'"
  | .notIterable kind => "'" ++ kind.name ++ "' object is not iterable"
  | .notAPair index length =>
    "dictionary update sequence element #" ++ toString index ++ " has length " ++
      toString length ++ "; 2 is required"
  | .notASequence index =>
    "cannot convert dictionary update sequence element #" ++ toString index ++ " to a sequence"
  | .missingKey key => Text.quoted key
  | .notKeyed kind => "'" ++ kind.name ++ "' object has no parts named by keys"
  | .notANumber kind => "'" ++ kind.name ++ "' object is no number"
  | .unfitFields => "the fields given are not those of the data"
  | .dateOutOfRange => "date value out of range"
  | .integerBeyondWord => "Python int too large to convert to SQLite INTEGER"
  | .infinityToInteger => "cannot convert float infinity to integer"
  | .notANumberToInteger => "cannot convert float NaN to integer"
  | .waitTooLong => "timeout is too large"
  | .waitBeyondClock => "timestamp too large to convert to C _PyTime_t"
  | .noStartMethod name => "cannot find context for " ++ Text.quoted name
  | .badProbability => "Probability must be in range [0.0, 1.0]."

end Breakdown

/-- What kind of fault it is, for machines. -/
inductive FaultCode
  | logic
  | timeout
  | validation
  | notFound
  | store
  deriving DecidableEq

/-- The text of a code. -/
def FaultCode.text : FaultCode → String
  | .logic => "LOGIC_ERROR"
  | .timeout => "EVALUATION_TIMEOUT"
  | .validation => "VALIDATION_ERROR"
  | .notFound => "RESOURCE_NOT_FOUND"
  | .store => "STORE_ERROR"

/-- The kinds of faults that the handlers of the engine tell apart. -/
inductive FaultKind
  | logic
  | timeout
  | other
  deriving DecidableEq

/-- Anything that ends an operation without a result. -/
inductive Fault
  | logic (fault : LogicFault)
  | breakdown (cause : Breakdown)
  /-- An evaluation that took longer than allowed. -/
  | timeout (seconds : Number) (milliseconds : Int)
  /-- A failed operation of the workflow store. -/
  | store (operation reason : String)
  /-- A definition that is refused when it is saved. -/
  | invalid (message : String)
  /-- A fault of one of the engine's kinds, with the message and the code that a component gave it. -/
  | custom (kind : FaultKind) (message code : Option String)
  /-- Any other failure of a component, with its message. -/
  | failure (message : String)
  /-- A failure of a component that has no text: something goes wrong when it is to be written. -/
  | mute (cause : Fault)
  deriving DecidableEq

namespace Fault

/-- The wording of an evaluation that took longer than so many milliseconds. -/
def timeoutText (milliseconds : Int) : String :=
  "Workflow execution timeout (" ++ toString milliseconds ++ "ms)"

/-- The wording of a failed operation of the workflow store. -/
def storeText (operation reason : String) : String :=
  "Workflow store operation '" ++ operation ++ "' failed: " ++ reason

/-- The message of a fault of one of the engine's kinds. -/
def message? : Fault → Option String
  | .logic fault => some fault.message
  | .timeout _ milliseconds => some (timeoutText milliseconds)
  | .store operation reason => some (storeText operation reason)
  | .invalid message => some message
  | .custom _ message _ => message
  | .breakdown _ | .failure _ | .mute _ => none

/-- What a fault reads, or what goes wrong when it is to be written. -/
def text : Fault → Except Fault String
  | .breakdown cause => .ok cause.message
  | .failure message => .ok message
  | .mute cause => .error cause
  | fault => .ok (fault.message?.getD "None")

/-- What is told of a component that failed: the message of a fault of one of the engine's kinds, and
the text of any other; a failure without a message is unknown. -/
def report (fault : Fault) : Except Fault (Option String) :=
  match fault with
  | .breakdown _ | .failure _ | .mute _ => do
    let text ← fault.text
    return some (if text == "" then "Unknown error" else text)
  | _ => .ok fault.message?

/-- The fault that ends one workflow: faults of logic and timeouts are kept, anything else becomes a
fault of the given kind with its text as the reason. -/
def contain (kind : String → LogicFault) (fault : Fault) : Except Fault Fault :=
  match fault with
  | .logic _ | .timeout .. | .custom .logic .. | .custom .timeout .. => .ok fault
  | _ => return .logic (kind (← fault.text))

/-- The code of a fault of one of the engine's kinds. -/
def code? : Fault → Option String
  | .logic _ => some FaultCode.logic.text
  | .timeout .. => some FaultCode.timeout.text
  | .store .. => some FaultCode.store.text
  | .invalid _ => some FaultCode.validation.text
  | .custom _ _ code => code
  | .breakdown _ | .failure _ | .mute _ => none

end Fault

end TriggerFlow
