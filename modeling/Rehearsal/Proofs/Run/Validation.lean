import Rehearsal.Proofs.Run.Decoding
import Rehearsal.Proofs.Session.Scripted

/-!
# Runs and validation agree

A step that validation objects to is a step that fails when it is tried, in the way that validation
says and before anything is asked of the backend. No other step of a run fails in this way. Both sides
decode the steps, each in a traversal of its own.
-/
namespace Rehearsal

variable {σ : Type} {b : Backend σ}

/-- What became of a step that was tried is what its decoding says. -/
structure StepFaithful (s : Step) (d : Done (Except Failure Unit)) : Prop where
  refused : ∀ f, s.decode = .error f → d.result = .error f ∧ d.calls = []
  accepted : ∀ a, s.decode = .ok a → ∀ f, d.result = .error f → ¬ f.OfDecoding

/-- A case tried its first steps, whose executions are given, and records them faithfully. -/
structure CaseFaithful (b : Backend σ) (c : Case) (d : Done CaseOutcome)
    (es : List (Done (Except Failure Unit))) : Prop where
  runs : ∃ v v', StepRuns b v (c.steps.take d.result.steps.length) es v'
  steps : List.Forall₂ StepFaithful (c.steps.take d.result.steps.length) es
  verdicts : d.result.steps.map (·.verdict) = (es.map (·.result)).map verdict
  calls : ∃ s r, d.calls = s ++ (es.flatMap (·.calls) ++ r)
  /-- Such a failure of a case is that of its last step. -/
  error : ∀ n, d.result.error = some n → n.OfDecoding →
    ∃ x, d.result.steps.getLast? = some x ∧ x.error = some n

/-- Neither the case nor one of its steps failed like a step that does not decode. -/
structure CaseOutcome.Decoded (o : CaseOutcome) : Prop where
  case : ∀ n, o.error = some n → ¬ n.OfDecoding
  steps : ∀ x ∈ o.steps, ∀ n, x.error = some n → ¬ n.OfDecoding

/-- The cases of a run went as validation of its scenario has it. -/
structure RunFaithful (b : Backend σ) (w : World σ) (sel : Selection) (s : Scenario)
    (os : List CaseOutcome) : Prop where
  each : ∃ ds u, CaseRuns b w (sel.selected s.suites) ds u ∧ os = ds.map (·.result) ∧
    List.Forall₂ (fun p d => ∃ es, CaseFaithful b p.2 d es) (sel.selected s.suites) ds
  accepted : s.problems = [] → ∀ o ∈ os, o.Decoded

private theorem forall_mem_of_forall₂ {α β : Type} {R : α → β → Prop} {xs : List α} {ys : List β}
    {P : β → Prop} (h : List.Forall₂ R xs ys) (each : ∀ x ∈ xs, ∀ y, R x y → P y) :
    ∀ y ∈ ys, P y := by
  induction h with
  | nil => simp
  | cons first _ ih =>
    rw [List.forall_mem_cons] at each ⊢
    exact ⟨each.1 _ first, ih each.2⟩

theorem Selection.mem_of_mem_selected {sel : Selection} {suites : List Suite} {suite : Suite}
    {c : Case} (h : (suite, c) ∈ sel.selected suites) : suite ∈ suites ∧ c ∈ suite.cases := by
  obtain ⟨x, hx, hc⟩ := List.mem_flatMap.mp h
  obtain ⟨y, hy, same⟩ := List.mem_map.mp hc
  cases same
  exact ⟨(List.mem_filter.mp hx).1, (List.mem_filter.mp hy).1⟩

theorem CaseFaithful.decoded {c : Case} {d : Done CaseOutcome}
    {es : List (Done (Except Failure Unit))} (faithful : CaseFaithful b c d es)
    (decodes : ∀ s ∈ c.steps, ∃ a, s.decode = .ok a) : d.result.Decoded := by
  have each : ∀ e ∈ es, ∀ f, e.result = .error f → ¬ f.OfDecoding := by
    refine forall_mem_of_forall₂ faithful.steps fun s hs e agrees => ?_
    obtain ⟨a, decoded⟩ := decodes s (List.mem_of_mem_take hs)
    exact agrees.accepted a decoded
  have steps : ∀ x ∈ d.result.steps, ∀ n, x.error = some n → ¬ n.OfDecoding := by
    intro x hx n hn
    have hmem : x.verdict ∈ (es.map (·.result)).map verdict :=
      faithful.verdicts ▸ List.mem_map_of_mem hx
    simp only [List.mem_map] at hmem
    obtain ⟨_, ⟨e, he, rfl⟩, same⟩ := hmem
    have note := (Prod.mk.inj same).2.trans hn
    cases result : e.result with
    | ok _ => simp [result] at note
    | error f =>
      rw [result] at note
      cases note
      exact each e he f result
  refine ⟨fun n hn ofDecoding => ?_, steps⟩
  obtain ⟨x, last, hx⟩ := faithful.error n hn ofDecoding
  exact steps x (List.mem_of_getLast? last) n hx ofDecoding

namespace Run

theorem execute_faithful {s : Step} {u v : World σ} {d : Done (Except Failure Unit)}
    (run : (execute b s).run u = (d.result, v)) (trace : v.trace = u.trace ++ d.calls)
    (never : b.Never Failure.OfDecoding u.backend) :
    StepFaithful s d ∧ b.Never Failure.OfDecoding v.backend := by
  cases decoded : s.decode with
  | error f =>
    rw [execute_of_decode_error b decoded, Act.run_fail] at run
    obtain ⟨result, rfl⟩ := Prod.mk.inj run
    refine ⟨⟨fun g hg => ?_, fun a ha => ?_⟩, never⟩
    · cases decoded.symm.trans hg
      exact ⟨result.symm, List.append_right_eq_self.mp trace.symm⟩
    · cases decoded.symm.trans ha
  | ok a =>
    have known := perform_decoded a u never
    rw [← execute_of_decode_ok b decoded, run] at known
    refine ⟨⟨fun g hg => ?_, fun _ _ => known.2⟩, known.1⟩
    cases decoded.symm.trans hg

theorem stepRuns_faithful {v v' : World σ} {ss : List Step} {es : List (Done (Except Failure Unit))}
    (runs : StepRuns b v ss es v') (never : b.Never Failure.OfDecoding v.backend) :
    List.Forall₂ StepFaithful ss es ∧ b.Never Failure.OfDecoding v'.backend := by
  refine runs.forall₂ (I := fun w => b.Never Failure.OfDecoding w.backend) ?_ ?_ never
  · rintro w u ⟨log, span, rfl⟩ known
    exact known
  · intro s _ u d v run trace known
    exact execute_faithful run trace known

/-- The failure of a case is that of its session, which is of another kind, or of its last step. -/
theorem runCase_faithful (suite : Suite) (c : Case) {u v : World σ} {d : Done CaseOutcome}
    (run : (runCase b suite c).run u = (d.result, v)) (trace : v.trace = u.trace ++ d.calls)
    (never : b.Never Failure.OfDecoding u.backend) :
    (∃ es, CaseFaithful b c d es) ∧ b.Never Failure.OfDecoding v.backend := by
  obtain ⟨u', steps, failure, x', ms, before, htried, after, outcome⟩ := runCase_parts b suite c u
  obtain ⟨created, x, es, x'', steps', failure', hcreate, htried', runs, ended⟩ :=
    tried_parts b c u'
  rw [htried] at htried'
  cases htried'
  rw [run] at after outcome
  have known := Session.create_fails (b.never_keeps Failure.OfDecoding) u' (before.backend ▸ never)
  obtain ⟨t, ht, _⟩ := Session.create_moves b u'
  obtain ⟨r, hr, _⟩ := Session.finish_calls b x'
  rw [hcreate] at known ht
  obtain ⟨faithful, never'⟩ := stepRuns_faithful runs known.1
  have recorded : d.result.steps = steps := congrArg CaseOutcome.steps outcome
  have error : d.result.error = failure.map Failure.note := congrArg CaseOutcome.error outcome
  refine ⟨⟨es, ⟨x, x', recorded ▸ runs⟩, recorded ▸ faithful, ?_, ⟨t, r, ?_⟩, ?_⟩, ?_⟩
  · rcases ended with ⟨f, _, rfl, rfl, _⟩ | ⟨_, ended⟩
    · rw [recorded]
      rfl
    · rw [recorded]
      exact ended.verdicts
  · have whole : u.trace ++ d.calls = u.trace ++ (t ++ (es.flatMap (·.calls) ++ r)) := by
      rw [← trace, after.trace, hr, runs.trace_eq, ht, before.trace]
      simp only [List.append_assoc]
    exact List.append_cancel_left whole
  · intro n hn ofDecoding
    rw [error] at hn
    rcases ended with ⟨f, rfl, _, _, rfl⟩ | ⟨_, ended⟩
    · cases hn
      exact absurd ofDecoding (known.2 f rfl).not_ofDecoding
    · rcases ended.passed_or_failed with ⟨rfl, _, _⟩ | ⟨y, f, rfl, last, _, note⟩
      · cases hn
      · cases hn
        exact ⟨y, recorded ▸ last, note⟩
  · rw [after.backend]
    exact Session.finish_keeps (b.never_keeps _) x' never'

theorem caseRuns_faithful {w w' : World σ} {cs : List (Suite × Case)} {ds : List (Done CaseOutcome)}
    (runs : CaseRuns b w cs ds w') (never : b.Never Failure.OfDecoding w.backend) :
    List.Forall₂ (fun p d => ∃ es, CaseFaithful b p.2 d es) cs ds := by
  have each := runs.forall₂ (I := fun w => b.Never Failure.OfDecoding w.backend)
    (Q := fun p d => ∃ es, CaseFaithful b p.2 d es) ?_ ?_ never
  · exact each.1
  · rintro w u ⟨log, span, rfl⟩ known
    exact known
  · intro p _ u d v run trace known
    exact runCase_faithful p.1 p.2 run trace known

/-- Validation finds the steps that do not decode, in their order. In a run these fail in the way that
validation found, and no other step and no case does. -/
theorem run_validated (stamp : Stamp) (sel : Selection) (s : Scenario) {w : World σ}
    (never : b.Never Failure.OfDecoding w.backend) :
    (s.positions.Pairwise Position.Before ∧ (∀ p, p ∈ s.positions ↔ (s.at? p).isSome) ∧
      s.problems = s.positions.filterMap s.problemAt?) ∧
    RunFaithful b w sel s ((run b stamp sel s).run w).1.cases := by
  obtain ⟨ds, u, ms, runs, _, summary⟩ := run_parts b stamp sel s w
  have cases : ((run b stamp sel s).run w).1.cases = ds.map (·.result) :=
    congrArg Summary.cases summary
  have faithful := caseRuns_faithful runs never
  refine ⟨⟨s.positions_pairwise, fun _ => Scenario.mem_positions_iff, s.problems_eq⟩,
    ⟨ds, u, runs, cases, faithful⟩, fun quiet o ho => ?_⟩
  rw [Scenario.problems_eq_nil_iff] at quiet
  rw [cases, List.mem_map] at ho
  obtain ⟨d, hd, rfl⟩ := ho
  refine forall_mem_of_forall₂ (P := fun d => d.result.Decoded) faithful ?_ d hd
  rintro ⟨suite, c⟩ selected d ⟨es, agrees⟩
  obtain ⟨hsuite, hc⟩ := Selection.mem_of_mem_selected selected
  exact agrees.decoded fun step => quiet suite hsuite c hc step

/-- A case whose second step has a name that is no action. -/
theorem run_validated_of_typo :
    let s : Scenario := ⟨[{ id := "S1", name := "Portal", cases := [{
      id := "C1", name := "Log in", steps := [
        { action := "verifySuccessfulLogin", timeoutMs := some 5 },
        { action := "clickLogin" }] }] }]⟩
    let w : World Scripted :=
      { backend := {}, config := .ofIni "[UI]\nbrowserType=Chromium\n", around := ⟨⟨[], []⟩, none⟩ }
    let os := ((run Scripted.backend ⟨.zero, .epoch⟩ {} s).run w).1.cases
    s.problems = ["S1/C1 step 2: Unknown action: clickLogin"] ∧
    os.map (·.error) = [some ⟨"UNKNOWN_ACTION", "Unknown action: clickLogin"⟩] ∧
    Scripted.backend.Never Failure.OfDecoding w.backend ∧ RunFaithful Scripted.backend w {} s os := by
  intro s w os
  have never : Scripted.backend.Never Failure.OfDecoding w.backend :=
    Scripted.never_of_faults (by simp [w]) (by simp [Failure.code])
  refine ⟨by decide, by decide, never, ?_⟩
  exact (run_validated ⟨.zero, .epoch⟩ {} s never).2

end Run

end Rehearsal
