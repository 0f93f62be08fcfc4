import Rehearsal.Proofs.Json.Numbers
import Rehearsal.Proofs.Json.Respelling
import Rehearsal.Proofs.Json.Writing
import Rehearsal.Scenario.Reader

/-!
# Ways of writing a scenario

A scenario is read the same whatever the order of the members of its records, with foreign members or
without, whether a step expects under one name or the other, and whether what is optional is `null` or
left out.
-/
namespace Rehearsal

open Json

namespace Step

/-- What is expected goes by two names. All fields but the action are optional. -/
def leeway : Leeway Field where
  order := [.action, .description, .value, .password, .sectionName, .column, .task, .expected, .tags,
    .timeoutMs]
  names
    | .action => ["action"]
    | .description => ["description"]
    | .value => ["value"]
    | .password => ["password"]
    | .sectionName => ["section"]
    | .column => ["column"]
    | .task => ["task"]
    | .expected => ["expected", "expect"]
    | .tags => ["tags"]
    | .timeoutMs => ["timeoutMs"]
  optional f := f ≠ .action
  inner _ _ _ := False

theorem toOption_readExpected (room settled : Nat) (node : Node) :
    (readExpected room node settled).toOption = (node.document room).toOption.bind expectedOf? := by
  simp only [readExpected, bind, Except.bind]
  cases node.document room with
  | error f => rfl
  | ok d => cases expected : expectedOf? d <;> simp [expected]

theorem readExpected_placeless (room settled : Nat) :
    Placeless fun node => readExpected room node settled := by
  intro node v told
  rw [Tree.look, toOption_readExpected, toOption_readExpected, Placeless.document room node v told,
    Tree.look]

theorem readField_placeless (room : Nat) (f : Field) (settled : Nat) (node : Node) (v : Tree)
    (told : node.tree? = some v) :
    (readField room f node settled).toOption = v.look fun node => readField room f node 0 := by
  cases f with
  | action => exact Placeless.text node v told
  | expected =>
    have unsettled : ∀ node,
        (readExpected room node settled).toOption = (readExpected room node 0).toOption :=
      fun node => (toOption_readExpected room settled node).trans
        (toOption_readExpected room 0 node).symm
    exact (Node.nullable_congr unsettled node).trans
      ((readExpected_placeless room 0).nullable node v told)
  | tags => exact Placeless.text.list.nullable node v told
  | timeoutMs => exact (Placeless.word64.map UInt64.ofNat).nullable node v told
  | _ => exact Placeless.text.nullable node v told

theorem layout_placeless (room : Nat) : (layout room).Placeless where
  read := readField_placeless room
  needs := by
    intro get s built f
    obtain ⟨action, _, built⟩ := exists_of_bind_ok built
    obtain ⟨description, _, built⟩ := exists_of_bind_ok built
    obtain ⟨value, _, built⟩ := exists_of_bind_ok built
    obtain ⟨password, _, built⟩ := exists_of_bind_ok built
    obtain ⟨sectionName, _, built⟩ := exists_of_bind_ok built
    obtain ⟨column, _, built⟩ := exists_of_bind_ok built
    obtain ⟨task, _, built⟩ := exists_of_bind_ok built
    obtain ⟨expected, _, built⟩ := exists_of_bind_ok built
    obtain ⟨tags, _, built⟩ := exists_of_bind_ok built
    obtain ⟨timeoutMs, _, built⟩ := exists_of_bind_ok built
    cases f <;> exact ⟨_, by assumption⟩

theorem ofName?_eq_some_iff {key : String} {f : Field} :
    Field.ofName? key = some f ↔ key ∈ leeway.names f := by
  constructor
  · intro found
    unfold Field.ofName? at found
    split at found
    · rename_i other
      cases found
      simp [leeway, other]
    · have name : f.name = key := by simpa using List.find?_some found
      rw [← name]
      cases f <;> simp [leeway, Field.name]
  · intro names
    cases f with
    | expected =>
      obtain rfl | rfl : key = "expected" ∨ key = "expect" := by simpa [leeway] using names
      · decide
      · decide
    | _ =>
      cases List.mem_singleton.mp names
      decide

theorem layout_permits (room : Nat) : (layout room).Permits leeway where
  order := rfl
  named := ofName?_eq_some_iff
  null := by
    intro f optional
    cases f with
    | action => exact absurd rfl optional
    | _ => exact ⟨none, rfl, rfl⟩
  inner := nofun

end Step

namespace Case

/-- Tags may be left out, but not be `null`. -/
def leeway : Leeway Field where
  order := [.id, .name, .description, .priority, .tags, .steps]
  names
    | .id => ["id"]
    | .name => ["name"]
    | .description => ["description"]
    | .priority => ["priority"]
    | .tags => ["tags"]
    | .steps => ["steps"]
  optional f := f = .description ∨ f = .priority
  inner f v v' := f = .steps ∧ Tree.Pairwise Step.leeway.Respells v v'

theorem layout_placeless : layout.Placeless where
  read := by
    intro f settled node v told
    cases f with
    | id | name => exact Placeless.text node v told
    | description | priority => exact Placeless.text.nullable node v told
    | tags => exact Placeless.text.list node v told
    | steps => exact (Step.layout_placeless stepRoom).ofNode.list node v told
  needs := by
    intro get s built f
    obtain ⟨id, _, built⟩ := exists_of_bind_ok built
    obtain ⟨name, _, built⟩ := exists_of_bind_ok built
    obtain ⟨description, _, built⟩ := exists_of_bind_ok built
    obtain ⟨priority, _, built⟩ := exists_of_bind_ok built
    obtain ⟨tags, _, built⟩ := exists_of_bind_ok built
    obtain ⟨steps, _, built⟩ := exists_of_bind_ok built
    cases f <;> exact ⟨_, by assumption⟩

theorem layout_permits : layout.Permits leeway where
  order := rfl
  named := find?_eq_some_iff_of_names (fun f => by cases f <;> rfl) fun f => by cases f <;> decide
  null := by
    rintro f (rfl | rfl)
    · exact ⟨none, rfl, rfl⟩
    · exact ⟨none, rfl, rfl⟩
  inner := by
    rintro f v v' ⟨rfl, same⟩
    exact (Step.layout_permits stepRoom).look_list_eq (Step.layout_placeless stepRoom) same

end Case

namespace Suite

def leeway : Leeway Field where
  order := [.id, .name, .description, .cases]
  names
    | .id => ["id"]
    | .name => ["name"]
    | .description => ["description"]
    | .cases => ["testCases"]
  optional f := f = .description
  inner f v v' := f = .cases ∧ Tree.Pairwise Case.leeway.Respells v v'

theorem layout_placeless : layout.Placeless where
  read := by
    intro f settled node v told
    cases f with
    | id | name => exact Placeless.text node v told
    | description => exact Placeless.text.nullable node v told
    | cases => exact Case.layout_placeless.ofNode.list node v told
  needs := by
    intro get s built f
    obtain ⟨id, _, built⟩ := exists_of_bind_ok built
    obtain ⟨name, _, built⟩ := exists_of_bind_ok built
    obtain ⟨description, _, built⟩ := exists_of_bind_ok built
    obtain ⟨cases, _, built⟩ := exists_of_bind_ok built
    cases f <;> exact ⟨_, by assumption⟩

theorem layout_permits : layout.Permits leeway where
  order := rfl
  named := find?_eq_some_iff_of_names (fun f => by cases f <;> rfl) fun f => by cases f <;> decide
  null := by
    rintro f rfl
    exact ⟨none, rfl, rfl⟩
  inner := by
    rintro f v v' ⟨rfl, same⟩
    exact Case.layout_permits.look_list_eq Case.layout_placeless same

end Suite

namespace Scenario

def leeway : Leeway Field where
  order := [.suites]
  names _ := ["testSuites"]
  optional _ := False
  inner _ v v' := Tree.Pairwise Suite.leeway.Respells v v'

theorem layout_placeless : layout.Placeless where
  read := by
    intro f settled node v told
    exact Suite.layout_placeless.ofNode.list node v told
  needs := by
    intro get s built f
    obtain ⟨suites, there, _⟩ := exists_of_bind_ok built
    exact ⟨suites, there⟩

theorem layout_permits : layout.Permits leeway where
  order := rfl
  named := by
    intro key f
    cases f
    show (if key = "testSuites" then some Field.suites else none) = some .suites ↔ key ∈ ["testSuites"]
    split <;> simp_all
  null := nofun
  inner := Suite.layout_permits.look_list_eq Suite.layout_placeless

section Example

end Example

end Scenario

end Rehearsal
