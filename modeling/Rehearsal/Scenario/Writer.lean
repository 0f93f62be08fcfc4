import Rehearsal.Json.Document
import Rehearsal.Scenario

/-!
Writing scenarios as JSON: every field is written, `null` where it is absent.
-/
namespace Rehearsal

open Json

def Expected.document : Expected → Document
  | .one title => .string title
  | .many titles => Document.ofList .string titles

def Step.document (s : Step) : Document :=
  .object [
    ("action", .string s.action),
    ("description", Document.ofOption .string s.description),
    ("value", Document.ofOption .string s.value),
    ("password", Document.ofOption .string s.password),
    ("section", Document.ofOption .string s.sectionName),
    ("column", Document.ofOption .string s.column),
    ("task", Document.ofOption .string s.task),
    ("expected", Document.ofOption Expected.document s.expected),
    ("tags", Document.ofOption (Document.ofList .string) s.tags),
    ("timeoutMs", Document.ofOption (fun n : UInt64 => .nat n.toNat) s.timeoutMs)]

def Case.document (c : Case) : Document :=
  .object [
    ("id", .string c.id),
    ("name", .string c.name),
    ("description", Document.ofOption .string c.description),
    ("priority", Document.ofOption .string c.priority),
    ("tags", Document.ofList .string c.tags),
    ("steps", Document.ofList Step.document c.steps)]

def Suite.document (s : Suite) : Document :=
  .object [
    ("id", .string s.id),
    ("name", .string s.name),
    ("description", Document.ofOption .string s.description),
    ("testCases", Document.ofList Case.document s.cases)]

def Scenario.document (s : Scenario) : Document :=
  .object [("testSuites", Document.ofList Suite.document s.suites)]

def Scenario.write (s : Scenario) : String := String.ofList s.document.compact

end Rehearsal
