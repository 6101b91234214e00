import TriggerFlow.Rule.Depth
import TriggerFlow.Rule.Reach

/-!
# Validation of rule trees

A tree is checked before it is saved: it has to be an object, pass the checks of structure, actions
and depth, and have a value in the empty context. Faults of the tree make a verdict; a breakdown of
the trial evaluation does not, unless the tree is nested too deeply to be evaluated at all.
-/

namespace TriggerFlow.Rule

/-- Whether a tree may be saved, and if not, why. -/
inductive Verdict
  | accepted
  | refused (reason : String)
  deriving DecidableEq

namespace Verdict

def isAccepted : Verdict → Bool
  | .accepted => true
  | .refused _ => false

def reason? : Verdict → Option String
  | .accepted => none
  | .refused reason => some reason

end Verdict

variable [Levels]

/-- The checks that a tree has to pass, in their order. -/
def checkTree (maxDepth : Int) (tree : Value) : Except Fault Unit := do
  (checkStructure tree).mapError Fault.logic
  (checkActions tree).mapError Fault.logic
  (checkDepth maxDepth tree).mapError Fault.logic
  let _ ← evaluate tree (.object [])

/-- The verdict on a tree. -/
def validate (maxDepth : Int) (tree : Value) : Except Fault Verdict :=
  match tree with
  | .object _ =>
    match checkTree maxDepth tree with
    | .ok () => .ok .accepted
    | .error (.logic fault) => .ok (.refused fault.message)
    | .error (.breakdown (.nestedTooDeeply _)) =>
      .ok (.refused "Logic tree is nested too deeply to evaluate")
    | .error fault => .error fault
  | _ => .ok (.refused "Logic tree must be a JSON object")

/-- Refuses a tree that is not valid. -/
def ensureValid (maxDepth : Int) (tree : Value) : Except Fault Unit := do
  match ← validate maxDepth tree with
  | .accepted => return ()
  | .refused reason => throw (.invalid reason)

end TriggerFlow.Rule
