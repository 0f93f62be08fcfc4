import Rehearsal.Proofs.Json.Decoding
import Rehearsal.Scenario.Action
import Rehearsal.Scenario.Reader
import Rehearsal.Scenario.Writer

/-!
# Scenarios are read back

Every scenario that is written is read back as the same scenario: each level of a scenario is a record
whose reader undoes its writer.
-/
namespace Rehearsal

open Json

namespace Step

theorem expectedOf?_document (e : Expected) : expectedOf? e.document = some e := by
  cases e with
  | one title => rfl
  | many titles =>
    rw [Expected.document, Document.ofList, expectedOf?, List.mapM_map]
    induction titles with
    | nil => rfl
    | cons title titles ih => simp_all

/-- The titles are at most a list, so one bracket is enough. -/
theorem readExpected_undoes {room : Nat} (enough : 0 < room) (settled : Nat) :
    Undoes (fun node => readExpected room node settled) Expected.document := by
  intro e node holds
  have fits : e.document.Fits room := by
    obtain ⟨room, rfl⟩ : ∃ n, room = n + 1 := ⟨room - 1, by omega⟩
    cases e with
    | one title => exact .string _ title
    | many titles =>
      refine .array fun x hx => ?_
      obtain ⟨title, _, rfl⟩ := List.mem_map.mp hx
      exact .string _ title
  simp only [readExpected, fits.document_of_holds node holds, bind, Except.bind, expectedOf?_document]

namespace Field

def of (s : Step) : (f : Field) → f.Value
  | .action => s.action
  | .description => s.description
  | .value => s.value
  | .password => s.password
  | .sectionName => s.sectionName
  | .column => s.column
  | .task => s.task
  | .expected => s.expected
  | .tags => s.tags
  | .timeoutMs => s.timeoutMs

def write : (f : Field) → f.Value → Document
  | .action => .string
  | .expected => Document.ofOption Expected.document
  | .tags => Document.ofOption (Document.ofList .string)
  | .timeoutMs => Document.ofOption fun n => .nat n.toNat
  | .description | .value | .password | .sectionName | .column | .task => Document.ofOption .string

theorem mem_all (f : Field) : f ∈ all := by cases f <;> decide

theorem ofName?_name (f : Field) : ofName? f.name = some f := by cases f <;> decide

theorem write_plain (f : Field) (v : f.Value) : (f.write v).Plain := by
  have expected (e : Expected) : e.document.Plain := by
    cases e with
    | one title => exact .string title
    | many titles => exact .ofList .string titles
  have text (v : Option String) : (Document.ofOption .string v).Plain := .ofOption .string v
  cases f with
  | action => exact .string v
  | expected => exact .ofOption expected v
  | tags => exact .ofOption (.ofList .string) v
  | timeoutMs => exact .ofOption (fun n => .nat n.toNat_lt) v
  | _ => exact text v

theorem read_undoes {room : Nat} (enough : 0 < room) (f : Field) (settled : Nat) :
    Undoes (fun node => readField room f node settled) f.write := by
  have text : Undoes (Node.nullable Node.text?) (Document.ofOption .string) :=
    Undoes.text.nullable Document.string_ne_null
  cases f with
  | action => exact .text
  | expected => exact (readExpected_undoes enough settled).nullable fun e => by cases e <;> nofun
  | tags => exact Undoes.text.list.nullable fun _ => nofun
  | timeoutMs => exact Undoes.word64.nullable fun _ => nofun
  | _ => exact text

end Field

def writer {room : Nat} (enough : 0 < room) : (layout room).Writer where
  value := Field.of
  write := Field.write
  all := Field.mem_all
  once := (by decide : Field.all.Nodup)
  named := Field.ofName?_name
  plain := Field.write_plain
  undone := Field.read_undoes enough
  built _ := rfl

theorem document_plain (s : Step) : s.document.Plain :=
  (writer Nat.one_pos).document_plain s

theorem undoes {room : Nat} (enough : 0 < room) : Undoes (layout room).ofNode document :=
  (writer enough).undoes

end Step

namespace Case

namespace Field

def of (c : Case) : (f : Field) → f.Value
  | .id => c.id
  | .name => c.name
  | .description => c.description
  | .priority => c.priority
  | .tags => c.tags
  | .steps => c.steps

def write : (f : Field) → f.Value → Document
  | .id | .name => .string
  | .description | .priority => Document.ofOption .string
  | .tags => Document.ofList .string
  | .steps => Document.ofList Step.document

theorem write_plain (f : Field) (v : f.Value) : (f.write v).Plain := by
  cases f with
  | id | name => exact .string v
  | description | priority => exact .ofOption .string v
  | tags => exact .ofList .string v
  | steps => exact .ofList Step.document_plain v

theorem read_undoes (f : Field) (settled : Nat) :
    Undoes (fun node => readField f node settled) f.write := by
  have text : Undoes (Node.nullable Node.text?) (Document.ofOption .string) :=
    Undoes.text.nullable Document.string_ne_null
  cases f with
  | id | name => exact .text
  | description | priority => exact text
  | tags => exact Undoes.text.list
  | steps => exact (Step.undoes (by decide)).list

end Field

def writer : layout.Writer where
  value := Field.of
  write := Field.write
  all f := by cases f <;> decide
  once := by decide
  named f := by cases f <;> decide
  plain := Field.write_plain
  undone := Field.read_undoes
  built _ := rfl

theorem undoes : Undoes layout.ofNode document := writer.undoes

end Case

namespace Suite

namespace Field

def of (s : Suite) : (f : Field) → f.Value
  | .id => s.id
  | .name => s.name
  | .description => s.description
  | .cases => s.cases

def write : (f : Field) → f.Value → Document
  | .id | .name => .string
  | .description => Document.ofOption .string
  | .cases => Document.ofList Case.document

theorem write_plain (f : Field) (v : f.Value) : (f.write v).Plain := by
  cases f with
  | id | name => exact .string v
  | description => exact .ofOption .string v
  | cases => exact .ofList Case.writer.document_plain v

theorem read_undoes (f : Field) (settled : Nat) :
    Undoes (fun node => readField f node settled) f.write := by
  cases f with
  | id | name => exact .text
  | description => exact Undoes.text.nullable Document.string_ne_null
  | cases => exact Case.undoes.list

end Field

def writer : layout.Writer where
  value := Field.of
  write := Field.write
  all f := by cases f <;> decide
  once := by decide
  named f := by cases f <;> decide
  plain := Field.write_plain
  undone := Field.read_undoes
  built _ := rfl

theorem undoes : Undoes layout.ofNode document := writer.undoes

end Suite

namespace Scenario

def writer : layout.Writer where
  value s _ := s.suites
  write _ := Document.ofList Suite.document
  all f := by cases f; decide
  once := by decide
  named f := by cases f; decide
  plain _ := .ofList Suite.writer.document_plain
  undone _ _ := Suite.undoes.list
  built _ := rfl

/-- What the steps decode to, in order. -/
def actions (s : Scenario) : List (Except Failure Action) :=
  s.suites.flatMap fun suite => suite.cases.flatMap fun c => c.steps.map Step.decode

/-- To read undoes to write. So a text that is read may be replaced by what is written for its scenario:
it is the same scenario, with the same problems and actions. -/
theorem parse_write :
    (∀ s : Scenario, parse s.write = .ok s) ∧
    ∀ text s, parse text = .ok s →
      ∃ t, parse s.write = .ok t ∧ t = s ∧ t.problems = s.problems ∧ t.actions = s.actions := by
  have back (s : Scenario) : parse s.write = .ok s := writer.parse_compact s
  exact ⟨back, fun _ s _ => ⟨s, back s, rfl, rfl, rfl⟩⟩

/-- A list with one title, under the other name of its field and with a quote and a line feed in it. -/
theorem parse_write_of_titles :
    let text := "\x7b\"testSuites\": [\x7b\"id\":\"S\",\"name\":\"\",\"testCases\":[" ++
      "\x7b\"id\":\"C\",\"name\":\"é\",\"steps\":[\x7b\"action\":\"x\"," ++
      "\"expect\":[\"\\\"\\n\"],\"timeoutMs\":18446744073709551615\x7d]\x7d]\x7d]\x7d"
    let step : Step :=
      { action := "x", expected := some (.many ["\"\n"]), timeoutMs := some 18446744073709551615 }
    let s : Scenario :=
      ⟨[{ id := "S", name := "", cases := [{ id := "C", name := "é", steps := [step] }] }]⟩
    parse text = .ok s ∧
      ∃ t, parse s.write = .ok t ∧ t = s ∧ t.problems = s.problems ∧ t.actions = s.actions := by
  intro text step s
  have read : parse text = .ok s := by decide +kernel
  exact ⟨read, parse_write.2 text s read⟩

end Scenario

end Rehearsal
