import Rehearsal.Json.Layout
import Rehearsal.Scenario

/-!
Reading scenarios from JSON.
-/
namespace Rehearsal

open Json

namespace Step

inductive Field
  | action
  | description
  | value
  | password
  | sectionName
  | column
  | task
  | expected
  | tags
  | timeoutMs
deriving DecidableEq, Repr

namespace Field

@[reducible] def Value : Field → Type
  | .action => String
  | .expected => Option Expected
  | .tags => Option (List String)
  | .timeoutMs => Option UInt64
  | .description | .value | .password | .sectionName | .column | .task => Option String

def all : List Field :=
  [.action, .description, .value, .password, .sectionName, .column, .task, .expected, .tags,
    .timeoutMs]

def name : Field → String
  | .action => "action"
  | .description => "description"
  | .value => "value"
  | .password => "password"
  | .sectionName => "section"
  | .column => "column"
  | .task => "task"
  | .expected => "expected"
  | .tags => "tags"
  | .timeoutMs => "timeoutMs"

/-- `expect` is another name of `expected`. -/
def ofName? (s : String) : Option Field :=
  if s = "expect" then some .expected else all.find? (·.name = s)

def absent : (f : Field) → Option f.Value
  | .action => none
  | .description | .value | .password | .sectionName | .column | .task | .expected | .tags
  | .timeoutMs => some none

end Field

def expectedOf? : Document → Option Expected
  | .string title => some (.one title)
  | .array titles =>
    .many <$> titles.mapM fun
      | .string title => some title
      | _ => none
  | _ => none

/-- The expected titles are first read whole and then matched. -/
def readExpected (room : Nat) (node : Node) (settled : Nat) : Except Fault Expected := do
  match expectedOf? (← node.document room) with
  | some e => .ok e
  | none => .error ⟨.noVariant "Expected", settled⟩

def readField (room : Nat) : (f : Field) → Node → Nat → Except Fault f.Value
  | .action, node, _ => node.text?
  | .expected, node, settled => node.nullable fun node => readExpected room node settled
  | .tags, node, _ => node.nullable (Node.list Node.text?)
  | .timeoutMs, node, _ => node.nullable fun node => UInt64.ofNat <$> node.word64
  | .description, node, _ | .value, node, _ | .password, node, _ | .sectionName, node, _
  | .column, node, _ | .task, node, _ => node.nullable Node.text?

def ofFields (get : (f : Field) → Except Field f.Value) : Except Field Step :=
  return {
    action := ← get .action
    description := ← get .description
    value := ← get .value
    password := ← get .password
    sectionName := ← get .sectionName
    column := ← get .column
    task := ← get .task
    expected := ← get .expected
    tags := ← get .tags
    timeoutMs := ← get .timeoutMs }

/-- A step, inside of which `room` brackets may be open at a time. -/
def layout (room : Nat) : Layout Field Step where
  title := "struct Step"
  fields := Field.all
  Value := Field.Value
  name := Field.name
  field? := Field.ofName?
  absent _ := Field.absent
  read := readField room
  build := ofFields

/-- A text that holds one step. -/
def parse (text : String) : Except Report Step :=
  Reading.parse (layout (maxDepth - 1)).ofNode text

end Step

namespace Case

inductive Field
  | id
  | name
  | description
  | priority
  | tags
  | steps
deriving DecidableEq, Repr

namespace Field

@[reducible] def Value : Field → Type
  | .id | .name => String
  | .description | .priority => Option String
  | .tags => List String
  | .steps => List Step

def all : List Field := [.id, .name, .description, .priority, .tags, .steps]

def title : Field → String
  | .id => "id"
  | .name => "name"
  | .description => "description"
  | .priority => "priority"
  | .tags => "tags"
  | .steps => "steps"

def absent : (f : Field) → Option f.Value
  | .id | .name | .steps => none
  | .description | .priority => some none
  | .tags => some []

end Field

/-- Seven brackets are open inside of a step of a scenario. -/
def stepRoom : Nat := maxDepth - 7

def readField : (f : Field) → Node → Nat → Except Fault f.Value
  | .id, node, _ | .name, node, _ => node.text?
  | .description, node, _ | .priority, node, _ => node.nullable Node.text?
  | .tags, node, _ => node.list Node.text?
  | .steps, node, _ => node.list (Step.layout stepRoom).ofNode

def ofFields (get : (f : Field) → Except Field f.Value) : Except Field Case :=
  return {
    id := ← get .id
    name := ← get .name
    description := ← get .description
    priority := ← get .priority
    tags := ← get .tags
    steps := ← get .steps }

def layout : Layout Field Case where
  title := "struct TestCase"
  fields := Field.all
  Value := Field.Value
  name := Field.title
  field? s := Field.all.find? (·.title = s)
  absent _ := Field.absent
  read := readField
  build := ofFields

end Case

namespace Suite

inductive Field
  | id
  | name
  | description
  | cases
deriving DecidableEq, Repr

namespace Field

@[reducible] def Value : Field → Type
  | .id | .name => String
  | .description => Option String
  | .cases => List Case

def all : List Field := [.id, .name, .description, .cases]

def title : Field → String
  | .id => "id"
  | .name => "name"
  | .description => "description"
  | .cases => "testCases"

def absent : (f : Field) → Option f.Value
  | .id | .name | .cases => none
  | .description => some none

end Field

def readField : (f : Field) → Node → Nat → Except Fault f.Value
  | .id, node, _ | .name, node, _ => node.text?
  | .description, node, _ => node.nullable Node.text?
  | .cases, node, _ => node.list Case.layout.ofNode

def ofFields (get : (f : Field) → Except Field f.Value) : Except Field Suite :=
  return {
    id := ← get .id
    name := ← get .name
    description := ← get .description
    cases := ← get .cases }

def layout : Layout Field Suite where
  title := "struct TestSuite"
  fields := Field.all
  Value := Field.Value
  name := Field.title
  field? s := Field.all.find? (·.title = s)
  absent _ := Field.absent
  read := readField
  build := ofFields

end Suite

namespace Scenario

inductive Field
  | suites
deriving DecidableEq, Repr

def Field.title : Field → String
  | .suites => "testSuites"

def layout : Layout Field Scenario where
  title := "struct Scenario"
  fields := [.suites]
  Value _ := List Suite
  name := Field.title
  field? s := if s = Field.title .suites then some .suites else none
  absent _ _ := none
  read _ node _ := node.list Suite.layout.ofNode
  build get := return ⟨← get .suites⟩

/-- A text that holds a scenario. -/
def parse (text : String) : Except Report Scenario :=
  Reading.parse layout.ofNode text

end Scenario

end Rehearsal
