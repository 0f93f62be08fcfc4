/-!
Scenarios: suites of cases of steps, in the order in which they run.
-/
namespace Rehearsal

/-- The titles that a step expects: one, or a list. -/
inductive Expected
  | one (title : String)
  | many (titles : List String)
deriving DecidableEq, Repr

def Expected.titles : Expected → List String
  | .one title => [title]
  | .many titles => titles

/-- A step as it is written. Which fields count depends on its action. -/
structure Step where
  action : String
  description : Option String := none
  value : Option String := none
  password : Option String := none
  sectionName : Option String := none
  column : Option String := none
  task : Option String := none
  expected : Option Expected := none
  tags : Option (List String) := none
  timeoutMs : Option UInt64 := none
deriving DecidableEq, Repr

/-- What a log calls the step. -/
def Step.label (s : Step) : String := s.description.getD s.action

structure Case where
  id : String
  name : String
  description : Option String := none
  priority : Option String := none
  tags : List String := []
  steps : List Step
deriving DecidableEq, Repr

structure Suite where
  id : String
  name : String
  description : Option String := none
  cases : List Case
deriving DecidableEq, Repr

structure Scenario where
  suites : List Suite
deriving DecidableEq, Repr

def Scenario.caseCount (s : Scenario) : Nat := (s.suites.flatMap (·.cases)).length

/-- Which suites and cases take part in a run; what is not given admits all. -/
structure Selection where
  suite : Option String := none
  case : Option String := none
  tag : Option String := none
deriving DecidableEq, Repr

namespace Selection

def includesSuite (sel : Selection) (s : Suite) : Bool :=
  sel.suite.all (s.id == ·)

def includesCase (sel : Selection) (c : Case) : Bool :=
  sel.case.all (c.id == ·) && sel.tag.all (c.tags.contains ·)

end Selection

end Rehearsal
