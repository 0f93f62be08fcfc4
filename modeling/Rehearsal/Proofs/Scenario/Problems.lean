import Mathlib.Data.List.Basic
import Rehearsal.Scenario.Action

/-!
# What validation finds

A step of a scenario has a position: those of its suite, of its case in the suite and of itself in the
case. Validation finds one problem for each position whose step does not decode, and none at any other,
in the order of the positions.
-/
namespace Rehearsal

/-- Where a step stands, counted from 0 on each level. -/
structure Position where
  suite : Nat
  case : Nat
  step : Nat
deriving DecidableEq, Repr

/-- Suites come before cases, and these before steps. -/
def Position.Before (p q : Position) : Prop :=
  p.suite < q.suite ∨ p.suite = q.suite ∧ (p.case < q.case ∨ p.case = q.case ∧ p.step < q.step)

namespace Scenario

/-- The step at a position, with its suite and its case. -/
def at? (s : Scenario) (p : Position) : Option (Suite × Case × Step) := do
  let suite ← s.suites[p.suite]?
  let c ← suite.cases[p.case]?
  let step ← c.steps[p.step]?
  return (suite, c, step)

/-- The problem that a step has if it does not decode. Steps are shown as counted from 1. -/
def problemAt? (s : Scenario) (p : Position) : Option String := do
  let (suite, c, step) ← s.at? p
  match step.decode with
  | .ok _ => none
  | .error f =>
    some (suite.id ++ "/" ++ c.id ++ " step " ++ toString (p.step + 1) ++ ": " ++ f.message)

/-- All positions, in order. -/
def positions (s : Scenario) : List Position :=
  s.suites.zipIdx.flatMap fun (suite, i) => suite.cases.zipIdx.flatMap fun (c, j) =>
    c.steps.zipIdx.map fun (_, k) => ⟨i, j, k⟩

theorem at?_eq_some_iff {s : Scenario} {p : Position} {suite : Suite} {c : Case} {step : Step} :
    s.at? p = some (suite, c, step) ↔
      s.suites[p.suite]? = some suite ∧ suite.cases[p.case]? = some c ∧
        c.steps[p.step]? = some step := by
  constructor
  · intro h
    simp only [at?, Option.bind_eq_bind, Option.bind_eq_some_iff, Option.pure_def,
      Option.some.injEq, Prod.mk.injEq] at h
    obtain ⟨_, hs, _, hc, _, ht, rfl, rfl, rfl⟩ := h
    exact ⟨hs, hc, ht⟩
  · rintro ⟨hs, hc, ht⟩
    simp [at?, hs, hc, ht]

theorem mem_positions_iff {s : Scenario} {p : Position} : p ∈ s.positions ↔ (s.at? p).isSome := by
  simp only [positions, List.mem_flatMap, List.mem_map, Prod.exists, Option.isSome_iff_exists]
  constructor
  · rintro ⟨suite, i, hi, c, j, hj, step, k, hk, rfl⟩
    rw [List.mem_zipIdx_iff_getElem?] at hi hj hk
    exact ⟨suite, c, step, at?_eq_some_iff.mpr ⟨hi, hj, hk⟩⟩
  · rintro ⟨suite, c, step, hp⟩
    obtain ⟨hi, hj, hk⟩ := at?_eq_some_iff.mp hp
    refine ⟨suite, p.suite, ?_, c, p.case, ?_, step, p.step, ?_, rfl⟩
    · exact List.mem_zipIdx_iff_getElem?.mpr hi
    · exact List.mem_zipIdx_iff_getElem?.mpr hj
    · exact List.mem_zipIdx_iff_getElem?.mpr hk

private theorem pairwise_zipIdx {α : Type} (xs : List α) :
    xs.zipIdx.Pairwise fun x y => x.2 < y.2 := by
  have indices : (xs.zipIdx.map Prod.snd).Pairwise (· < ·) := by
    rw [List.zipIdx_map_snd]
    exact List.pairwise_lt_range'
  exact List.pairwise_map.mp indices

theorem positions_pairwise (s : Scenario) : s.positions.Pairwise Position.Before := by
  refine List.pairwise_flatMap.mpr ⟨fun (suite, i) _ => ?_, (pairwise_zipIdx _).imp ?_⟩
  · refine List.pairwise_flatMap.mpr ⟨fun (c, j) _ => ?_, (pairwise_zipIdx _).imp ?_⟩
    · exact List.pairwise_map.mpr ((pairwise_zipIdx _).imp fun h => .inr ⟨rfl, .inr ⟨rfl, h⟩⟩)
    · intro (c, j) (c', j') hj p hp q hq
      obtain ⟨_, _, rfl⟩ := List.mem_map.mp hp
      obtain ⟨_, _, rfl⟩ := List.mem_map.mp hq
      exact .inr ⟨rfl, .inl hj⟩
  · intro (suite, i) (suite', i') hi p hp q hq
    simp only [List.mem_flatMap, List.mem_map, Prod.exists] at hp hq
    obtain ⟨_, _, _, _, _, _, rfl⟩ := hp
    obtain ⟨_, _, _, _, _, _, rfl⟩ := hq
    exact .inl hi

/-- What is found at a position is what is found in the case there. -/
theorem problems_eq (s : Scenario) : s.problems = s.positions.filterMap s.problemAt? := by
  have level {α β : Type} (xs : List α) (f : α → List β) :
      xs.flatMap f = xs.zipIdx.flatMap fun x => f x.1 := by
    conv_lhs => rw [← List.zipIdx_map_fst 0 xs, List.flatMap_map]
  rw [problems, level, positions, List.filterMap_flatMap]
  refine List.flatMap_congr fun (suite, i) hi => ?_
  dsimp only
  rw [level, List.filterMap_flatMap]
  refine List.flatMap_congr fun (c, j) hj => ?_
  rw [Case.problems, List.filterMap_map]
  refine List.filterMap_congr fun (step, k) hk => ?_
  rw [List.mem_zipIdx_iff_getElem?] at hi hj hk
  have here : s.at? ⟨i, j, k⟩ = some (suite, c, step) := at?_eq_some_iff.mpr ⟨hi, hj, hk⟩
  cases decoded : step.decode with
  | ok a => simp [problemAt?, here, decoded]
  | error f => simp [problemAt?, here, decoded]

/-- Nothing is found exactly if every step decodes. -/
theorem problems_eq_nil_iff {s : Scenario} : s.problems = [] ↔
    ∀ suite ∈ s.suites, ∀ c ∈ suite.cases, ∀ step ∈ c.steps, ∃ a, step.decode = .ok a := by
  have one (owner : String) (c : Case) :
      c.problems owner = [] ↔ ∀ step ∈ c.steps, ∃ a, step.decode = .ok a := by
    rw [Case.problems, List.filterMap_eq_nil_iff]
    constructor
    · intro h step hmem
      obtain ⟨i, hi⟩ := List.mem_iff_getElem?.mp hmem
      have quiet := h (step, i) (List.mem_zipIdx_iff_getElem?.mpr hi)
      cases decoded : step.decode with
      | ok a => exact ⟨a, rfl⟩
      | error f => simp [decoded] at quiet
    · intro h (step, i) hmem
      obtain ⟨a, decoded⟩ := h step (List.mem_of_getElem? (List.mem_zipIdx_iff_getElem?.mp hmem))
      simp only [decoded]
  simp only [problems, List.flatMap_eq_nil_iff, one]

end Scenario

end Rehearsal
