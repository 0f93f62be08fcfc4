import Rehearsal.Failure
import Rehearsal.Run.Timestamp
import Rehearsal.Run.Uuid
import Rehearsal.Scenario

/-!
Outcomes of steps, cases and runs.
-/
namespace Rehearsal

/-- What is kept of a failure. -/
structure FailureNote where
  code : String
  message : String
deriving DecidableEq, Repr

def Failure.note (f : Failure) : FailureNote := ⟨f.code, f.message⟩

inductive StepStatus
  | passed
  | failed
deriving DecidableEq, Repr

inductive CaseStatus
  | pending
  | running
  | passed
  | failed
deriving DecidableEq, Repr

def CaseStatus.isTerminal : CaseStatus → Bool
  | .passed | .failed => true
  | .pending | .running => false

structure StepOutcome where
  /-- Position in the case, from 1. -/
  index : Nat
  action : String
  description : Option String
  status : StepStatus
  durationMs : Nat
  error : Option FailureNote
deriving DecidableEq, Repr

structure CaseOutcome where
  suiteId : String
  caseId : String
  name : String
  status : CaseStatus
  durationMs : Nat
  steps : List StepOutcome
  error : Option FailureNote
deriving DecidableEq, Repr

def CaseOutcome.passed (c : CaseOutcome) : Bool := c.status = .passed

structure Summary where
  runId : Uuid
  startedAt : Timestamp
  total : Nat
  passed : Nat
  failed : Nat
  durationMs : Nat
  cases : List CaseOutcome
deriving DecidableEq, Repr

def Summary.success (s : Summary) : Bool := s.failed = 0

end Rehearsal
