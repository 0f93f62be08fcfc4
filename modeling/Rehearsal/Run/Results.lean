import Rehearsal.Disk
import Rehearsal.Json.Layout
import Rehearsal.Run.Outcome

/-!
The results file: a summary as JSON, with its fields in a fixed order.
-/
namespace Rehearsal

open Json

/-- A text that stands for a value. -/
def Json.Node.worded (read? : String → Option α) (expected : String) (node : Node) :
    Except Fault α := do
  let s ← node.text?
  match read? s, node with
  | some a, _ => .ok a
  | none, .string _ stop => .error ⟨.wrongValue (.text s) expected, stop⟩
  | none, node => .error (node.refuse expected)

/-- A word of a list, also as the name of a member that is null. -/
def Json.Node.choice (read? : String → Option α) (expected : String) : Node → Except Fault α
  | .object start (.next key named (.null _) _ (.closed _)) => do
    match read? (← key) with
    | some a => .ok a
    | none => .error ⟨.wrongType .map expected, max start named⟩
  | node => node.worded read? expected

def StepStatus.word : StepStatus → String
  | .passed => "passed"
  | .failed => "failed"

def StepStatus.ofWord? : String → Option StepStatus
  | "passed" => some .passed
  | "failed" => some .failed
  | _ => none

def CaseStatus.word : CaseStatus → String
  | .pending => "pending"
  | .running => "running"
  | .passed => "passed"
  | .failed => "failed"

def CaseStatus.ofWord? : String → Option CaseStatus
  | "pending" => some .pending
  | "running" => some .running
  | "passed" => some .passed
  | "failed" => some .failed
  | _ => none

namespace FailureNote

inductive Field
  | code
  | message
deriving DecidableEq, Repr

def Field.title : Field → String
  | .code => "code"
  | .message => "message"

def layout : Layout Field FailureNote where
  title := "struct FailureInfo"
  fields := [.code, .message]
  Value _ := String
  name := Field.title
  field? s := [Field.code, .message].find? (·.title = s)
  absent _ _ := none
  read _ node _ := node.text?
  build get := return { code := ← get .code, message := ← get .message }

def document (n : FailureNote) : Document :=
  .object [("code", .string n.code), ("message", .string n.message)]

end FailureNote

namespace StepOutcome

inductive Field
  | index
  | action
  | description
  | status
  | durationMs
  | error
deriving DecidableEq, Repr

namespace Field

@[reducible] def Value : Field → Type
  | .index | .durationMs => Nat
  | .action => String
  | .description => Option String
  | .status => StepStatus
  | .error => Option FailureNote

def all : List Field := [.index, .action, .description, .status, .durationMs, .error]

def title : Field → String
  | .index => "index"
  | .action => "action"
  | .description => "description"
  | .status => "status"
  | .durationMs => "duration_ms"
  | .error => "error"

/-- Only members may be left out. -/
def absent : Form → (f : Field) → Option f.Value
  | .object, .description | .object, .error => some none
  | _, _ => none

end Field

def readField : (f : Field) → Node → Nat → Except Fault f.Value
  | .index, node, _ | .durationMs, node, _ => node.word64
  | .action, node, _ => node.text?
  | .description, node, _ => node.nullable Node.text?
  | .status, node, _ => node.choice StepStatus.ofWord? "enum StepStatus"
  | .error, node, _ => node.nullable FailureNote.layout.ofNode

def layout : Layout Field StepOutcome where
  title := "struct StepResult"
  fields := Field.all
  Value := Field.Value
  name := Field.title
  field? s := Field.all.find? (·.title = s)
  absent := Field.absent
  read := readField
  build get := return {
    index := ← get .index
    action := ← get .action
    description := ← get .description
    status := ← get .status
    durationMs := ← get .durationMs
    error := ← get .error }

def document (s : StepOutcome) : Document :=
  .object [
    ("index", .nat s.index),
    ("action", .string s.action),
    ("description", Document.ofOption .string s.description),
    ("status", .string s.status.word),
    ("duration_ms", .nat s.durationMs),
    ("error", Document.ofOption FailureNote.document s.error)]

end StepOutcome

namespace CaseOutcome

inductive Field
  | suiteId
  | caseId
  | name
  | status
  | durationMs
  | steps
  | error
deriving DecidableEq, Repr

namespace Field

@[reducible] def Value : Field → Type
  | .suiteId | .caseId | .name => String
  | .status => CaseStatus
  | .durationMs => Nat
  | .steps => List StepOutcome
  | .error => Option FailureNote

def all : List Field := [.suiteId, .caseId, .name, .status, .durationMs, .steps, .error]

def title : Field → String
  | .suiteId => "suite_id"
  | .caseId => "case_id"
  | .name => "name"
  | .status => "status"
  | .durationMs => "duration_ms"
  | .steps => "steps"
  | .error => "error"

def absent : Form → (f : Field) → Option f.Value
  | .object, .error => some none
  | _, _ => none

end Field

def readField : (f : Field) → Node → Nat → Except Fault f.Value
  | .suiteId, node, _ | .caseId, node, _ | .name, node, _ => node.text?
  | .status, node, _ => node.choice CaseStatus.ofWord? "enum CaseStatus"
  | .durationMs, node, _ => node.word64
  | .steps, node, _ => node.list StepOutcome.layout.ofNode
  | .error, node, _ => node.nullable FailureNote.layout.ofNode

def layout : Layout Field CaseOutcome where
  title := "struct CaseResult"
  fields := Field.all
  Value := Field.Value
  name := Field.title
  field? s := Field.all.find? (·.title = s)
  absent := Field.absent
  read := readField
  build get := return {
    suiteId := ← get .suiteId
    caseId := ← get .caseId
    name := ← get .name
    status := ← get .status
    durationMs := ← get .durationMs
    steps := ← get .steps
    error := ← get .error }

def document (c : CaseOutcome) : Document :=
  .object [
    ("suite_id", .string c.suiteId),
    ("case_id", .string c.caseId),
    ("name", .string c.name),
    ("status", .string c.status.word),
    ("duration_ms", .nat c.durationMs),
    ("steps", Document.ofList StepOutcome.document c.steps),
    ("error", Document.ofOption FailureNote.document c.error)]

end CaseOutcome

namespace Summary

inductive Field
  | runId
  | startedAt
  | total
  | passed
  | failed
  | durationMs
  | cases
deriving DecidableEq, Repr

namespace Field

@[reducible] def Value : Field → Type
  | .runId => Uuid
  | .startedAt => Timestamp
  | .total | .passed | .failed | .durationMs => Nat
  | .cases => List CaseOutcome

def all : List Field := [.runId, .startedAt, .total, .passed, .failed, .durationMs, .cases]

def title : Field → String
  | .runId => "run_id"
  | .startedAt => "started_at"
  | .total => "total"
  | .passed => "passed"
  | .failed => "failed"
  | .durationMs => "duration_ms"
  | .cases => "cases"

end Field

def readField : (f : Field) → Node → Nat → Except Fault f.Value
  | .runId, node, _ => node.worded Uuid.ofText? "a UUID"
  | .startedAt, node, _ => node.worded Timestamp.ofText? "a date and time"
  | .total, node, _ | .passed, node, _ | .failed, node, _ | .durationMs, node, _ => node.word64
  | .cases, node, _ => node.list CaseOutcome.layout.ofNode

def layout : Layout Field Summary where
  title := "struct RunSummary"
  fields := Field.all
  Value := Field.Value
  name := Field.title
  field? s := Field.all.find? (·.title = s)
  absent _ _ := none
  read := readField
  build get := return {
    runId := ← get .runId
    startedAt := ← get .startedAt
    total := ← get .total
    passed := ← get .passed
    failed := ← get .failed
    durationMs := ← get .durationMs
    cases := ← get .cases }

/-- The summary that a text holds. -/
def parse (text : String) : Except Report Summary :=
  Reading.parse layout.ofNode text

def document (s : Summary) : Document :=
  .object [
    ("run_id", .string s.runId.text),
    ("started_at", .string s.startedAt.text),
    ("total", .nat s.total),
    ("passed", .nat s.passed),
    ("failed", .nat s.failed),
    ("duration_ms", .nat s.durationMs),
    ("cases", Document.ofList CaseOutcome.document s.cases)]

/-- The content of the results file. -/
def write (s : Summary) : String := String.ofList (s.document.pretty 0)

end Summary

namespace Results

def fileName : String := "test-results.json"

/-- Writes the results file into a folder, which is made if it is missing, and gives its path. -/
def save (d : Disk) (folder : String) (s : Summary) : Except Failure (String × Disk) := do
  let d ← (d.makeFolders folder).mapError .io
  let path := Disk.join folder fileName
  let d ← (d.write path s.write.toUTF8).mapError .io
  return (path, d)

end Results

end Rehearsal
