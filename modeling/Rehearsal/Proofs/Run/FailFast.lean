import Rehearsal.Proofs.Run.Cases

/-!
# A case stops at its first failing step

What a case records of its steps, how it ends, its failure and the calls that it makes all follow from
one thing: the steps that it tries, in order, up to the first that fails.
-/
namespace Rehearsal

variable {σ : Type} (b : Backend σ)

/-- Steps are carried out one after the other. -/
abbrev StepRuns : World σ → List Step → List (Done (Except Failure Unit)) → World σ → Prop :=
  Sequence fun s => (Run.execute b s).run

/-- Where a step stands in its case, and what it is called there. -/
def Step.place (s : Step) (index : Nat) : Nat × String × Option String :=
  (index, s.action, s.description)

namespace StepOutcome

def place (o : StepOutcome) : Nat × String × Option String := (o.index, o.action, o.description)

def verdict (o : StepOutcome) : StepStatus × Option FailureNote := (o.status, o.error)

end StepOutcome

/-- What has to be recorded of the result of a step. -/
def verdict : Except Failure Unit → StepStatus × Option FailureNote
  | .ok _ => (.passed, none)
  | .error f => (.failed, some f.note)

/-- The results of so many steps end when all have passed or one has failed. -/
inductive Ended (count : Nat) : List (Except Failure Unit) → Option Failure → Prop
  | done {rs : List (Except Failure Unit)} : rs.length = count → (∀ r ∈ rs, r = .ok ()) →
      Ended count rs none
  | failed {rs : List (Except Failure Unit)} {f : Failure} : rs.length < count →
      (∀ r ∈ rs, r = .ok ()) → Ended count (rs ++ [.error f]) (some f)

theorem Ended.cons {count : Nat} {rs : List (Except Failure Unit)} {failure : Option Failure}
    (ended : Ended count rs failure) : Ended (count + 1) (.ok () :: rs) failure := by
  cases ended with
  | done length passed => exact .done (by simpa using length) (by simpa using passed)
  | failed length passed =>
    rw [← List.cons_append]
    exact .failed (by simpa using length) (by simpa using passed)

theorem Ended.length_le {count : Nat} {rs : List (Except Failure Unit)} {failure : Option Failure}
    (ended : Ended count rs failure) : rs.length ≤ count := by
  cases ended with
  | done length _ => exact length.le
  | failed length _ =>
    rw [List.length_append]
    exact length

/-- What is recorded of steps, the first at a position, whose results end in a failure or not. -/
structure Recorded (index : Nat) (steps : List Step) (rs : List (Except Failure Unit))
    (outcomes : List StepOutcome) (failure : Option Failure) : Prop where
  places : outcomes.map (·.place) =
    ((steps.take outcomes.length).zipIdx index).map fun (s, i) => s.place i
  verdicts : outcomes.map (·.verdict) = rs.map verdict
  ended : Ended steps.length rs failure

namespace Run

theorem run_runSteps_of_error (index : Nat) (s : Step) (rest : List Step) {w v : World σ}
    {f : Failure} (run : (execute b s).run
      { w with log := w.log ++ [⟨.stepStarted index s.action s.label, w.span⟩] } = (.error f, v)) :
    (runSteps b index (s :: rest)).run w =
      (([⟨index, s.action, s.description, .failed, v.waitedMs - w.waitedMs, some f.note⟩], some f),
        { v with log := v.log ++ [⟨.stepFailed index f, v.span⟩] }) := by
  simp only [runSteps, Task.run_bind, Task.run_say, Task.run_clock, Act.run_attempt, run,
    Task.run_pure]

theorem run_runSteps_of_ok (index : Nat) (s : Step) (rest : List Step) {w v : World σ}
    (run : (execute b s).run
      { w with log := w.log ++ [⟨.stepStarted index s.action s.label, w.span⟩] } = (.ok (), v)) :
    (runSteps b index (s :: rest)).run w =
      let after := (runSteps b (index + 1) rest).run
        { v with log := v.log ++ [⟨.stepPassed index, v.span⟩] }
      ((⟨index, s.action, s.description, .passed, v.waitedMs - w.waitedMs, none⟩ :: after.1.1,
        after.1.2), after.2) := by
  simp only [runSteps, Task.run_bind, Task.run_say, Task.run_clock, Act.run_attempt, run,
    Task.run_pure]

/-- A case of one step that gets a session ends as the step does. -/
theorem status_runCase_of_step (suite : Suite) {c : Case} {s : Step} {w v : World σ}
    (steps : c.steps = [s]) (created : (Session.create b).run
      { w with log := w.log ++ [⟨.caseStarted c.name, w.span⟩] } = (.ok (), v)) :
    ((runCase b suite c).run w).1.status =
      if ((execute b s).run
        { v with log := v.log ++ [⟨.stepStarted 1 s.action s.label, v.span⟩] }).1.isOk
      then .passed else .failed := by
  rw [run_runCase]
  dsimp only
  rw [run_tried_of_ok b created, concluded_outcome, steps]
  rcases executed : (execute b s).run
    { v with log := v.log ++ [⟨.stepStarted 1 s.action s.label, v.span⟩] } with ⟨f | _, u⟩
  · rw [run_runSteps_of_error b 1 s [] executed]
    rfl
  · rw [run_runSteps_of_ok b 1 s [] executed]
    rfl

/-- By induction on the steps. -/
theorem runSteps_recorded (index : Nat) (steps : List Step) (w : World σ) :
    ∃ ds outcomes failure v, (runSteps b index steps).run w = ((outcomes, failure), v) ∧
      StepRuns b w (steps.take outcomes.length) ds v ∧
      Recorded index steps (ds.map (·.result)) outcomes failure := by
  induction steps generalizing index w with
  | nil =>
    refine ⟨[], [], none, w, rfl, .nil (Std.Refl.refl w), ?_⟩
    exact ⟨rfl, rfl, .done rfl (by simp)⟩
  | cons s rest ih =>
    let u : World σ := { w with log := w.log ++ [⟨.stepStarted index s.action s.label, w.span⟩] }
    have quiet : w.Quiet u := ⟨_, _, rfl⟩
    obtain ⟨t, trace, _⟩ := execute_moves b s u
    rcases hrun : (execute b s).run u with ⟨f | _, v⟩
    all_goals rw [hrun] at trace
    · have start := run_runSteps_of_error b index s rest hrun
      refine ⟨[⟨.error f, t⟩], _, _, _, start, .cons quiet hrun trace (.nil ⟨_, _, rfl⟩), ?_⟩
      have before : ∀ r ∈ ([] : List (Except Failure Unit)), r = .ok () := by simp
      exact ⟨rfl, rfl, .failed (Nat.succ_pos _) before⟩
    · have start := run_runSteps_of_ok b index s rest hrun
      obtain ⟨ds, outcomes, failure, v', more, runs, recorded⟩ :=
        ih (index + 1) { v with log := v.log ++ [⟨.stepPassed index, v.span⟩] }
      rw [more] at start
      refine ⟨⟨.ok (), t⟩ :: ds, _, _, _, start,
        .cons quiet hrun trace (.of_quiet ⟨_, _, rfl⟩ runs), ?_⟩
      refine ⟨?_, ?_, recorded.ended.cons⟩
      · simpa [StepOutcome.place, Step.place] using recorded.places
      · simpa [StepOutcome.verdict, verdict] using recorded.verdicts

end Run

/-- The views of a case agree: whether its session was acquired, the results of the steps that were
carried out, what was recorded of them, and the outcome of the case. -/
structure FailFast (c : Case) (created : Except Failure Unit) (rs : List (Except Failure Unit))
    (o : CaseOutcome) : Prop where
  count : o.steps.length ≤ c.steps.length
  places : o.steps.map (·.place) =
    ((c.steps.take o.steps.length).zipIdx 1).map fun (s, i) => s.place i
  verdicts : o.steps.map (·.verdict) = rs.map verdict
  earlier : ∀ x ∈ o.steps.dropLast, x.status = .passed ∧ x.error = none
  passed_iff : o.status = .passed ↔
    created = .ok () ∧ o.steps.length = c.steps.length ∧ ∀ x ∈ o.steps, x.status = .passed
  error_of_passed : o.status = .passed → o.error = none
  failed : o.status ≠ .passed → o.status = .failed ∧
    ((∃ f : Failure, created = .error f ∧ o.steps = [] ∧ o.error = some f.note) ∨
      ∃ x, ∃ f : Failure, created = .ok () ∧ o.steps.getLast? = some x ∧ x.status = .failed ∧
        x.error = some f.note ∧ o.error = some f.note)

theorem passed_of_verdicts {os : List StepOutcome} {rs : List (Except Failure Unit)}
    (verdicts : os.map (·.verdict) = rs.map verdict) (passed : ∀ r ∈ rs, r = .ok ()) :
    ∀ x ∈ os, x.status = .passed ∧ x.error = none := by
  intro x hx
  have hmem : x.verdict ∈ os.map (·.verdict) := List.mem_map_of_mem hx
  rw [verdicts] at hmem
  obtain ⟨r, hr, same⟩ := List.mem_map.mp hmem
  rw [passed r hr] at same
  exact Prod.mk.inj same.symm

theorem failFast_of_not_created (c : Case) {f : Failure} {o : CaseOutcome} (steps : o.steps = [])
    (status : o.status = .failed) (error : o.error = some f.note) :
    FailFast c (.error f) [] o where
  count := by simp [steps]
  places := by simp [steps]
  verdicts := by simp [steps]
  earlier := by simp [steps]
  passed_iff := by simp [status]
  error_of_passed := by simp [status]
  failed := fun _ => ⟨status, .inl ⟨f, rfl, steps, error⟩⟩

namespace Recorded

variable {index : Nat} {c : Case} {rs : List (Except Failure Unit)} {outcomes : List StepOutcome}
  {failure : Option Failure}

theorem length_eq (recorded : Recorded index c.steps rs outcomes failure) :
    rs.length = outcomes.length := by
  simpa using (congrArg List.length recorded.verdicts).symm

theorem earlier (recorded : Recorded index c.steps rs outcomes failure) :
    ∀ x ∈ outcomes.dropLast, x.status = .passed ∧ x.error = none := by
  have verdicts : outcomes.dropLast.map (·.verdict) = rs.dropLast.map verdict := by
    rw [List.map_dropLast, List.map_dropLast, recorded.verdicts]
  refine passed_of_verdicts verdicts fun r hr => ?_
  cases recorded.ended with
  | done _ passed => exact passed r (List.dropLast_subset _ hr)
  | failed _ passed =>
    rw [List.dropLast_concat] at hr
    exact passed r hr

/-- All steps passed, or the last outcome is that of a failed step, whose failure is the failure. -/
theorem passed_or_failed (recorded : Recorded index c.steps rs outcomes failure) :
    (failure = none ∧ outcomes.length = c.steps.length ∧ ∀ x ∈ outcomes, x.status = .passed) ∨
    ∃ x f, failure = some f ∧ outcomes.getLast? = some x ∧ x.status = .failed ∧
      x.error = some f.note := by
  have verdicts := recorded.verdicts
  have length := recorded.length_eq
  cases recorded.ended with
  | done all passed =>
    left
    refine ⟨rfl, length.symm.trans all, fun x hx => ?_⟩
    exact (passed_of_verdicts verdicts passed x hx).1
  | @failed rs f _ _ =>
    right
    have same := congrArg List.getLast? verdicts
    rw [List.getLast?_map, List.map_append, List.map_singleton, List.getLast?_concat] at same
    obtain ⟨x, hx, failed⟩ := Option.map_eq_some_iff.mp same
    obtain ⟨status, error⟩ := Prod.mk.inj failed
    exact ⟨x, f, rfl, hx, status, error⟩

theorem failFast (recorded : Recorded 1 c.steps rs outcomes failure) {o : CaseOutcome}
    (steps : o.steps = outcomes) (status : o.status = if failure.isSome then .failed else .passed)
    (error : o.error = failure.map Failure.note) : FailFast c (.ok ()) rs o := by
  subst steps
  have count : o.steps.length ≤ c.steps.length := recorded.length_eq ▸ recorded.ended.length_le
  have places := recorded.places
  have verdicts := recorded.verdicts
  have earlier := recorded.earlier
  rcases recorded.passed_or_failed with ⟨rfl, all, passed⟩ | ⟨x, f, rfl, last, failed, note⟩
  · have status : o.status = .passed := status
    exact {
      count, places, verdicts, earlier
      passed_iff := iff_of_true status ⟨rfl, all, passed⟩
      error_of_passed := fun _ => error
      failed := fun h => absurd status h }
  · have status : o.status = .failed := status
    have unpassed : o.status ≠ .passed := by simp [status]
    have some_failed : ¬ ∀ x ∈ o.steps, x.status = .passed := by
      intro passed
      have hpassed := passed x (List.mem_of_getLast? last)
      rw [failed] at hpassed
      cases hpassed
    exact {
      count, places, verdicts, earlier
      passed_iff := iff_of_false unpassed fun h => some_failed h.2.2
      error_of_passed := fun h => absurd h unpassed
      failed := fun _ => ⟨status, .inr ⟨x, f, rfl, last, failed, note, error⟩⟩ }

end Recorded

namespace Run

/-- What was tried in a case is to acquire its session and, if that succeeded, its steps. -/
theorem tried_parts (c : Case) (u : World σ) : ∃ created v ds v' outcomes failure,
    (Session.create b).run u = (created, v) ∧ (tried b c).run u = ((outcomes, failure), v') ∧
    StepRuns b v (c.steps.take outcomes.length) ds v' ∧
    ((∃ f, created = .error f ∧ ds = [] ∧ outcomes = [] ∧ failure = some f) ∨
      created = .ok () ∧ Recorded 1 c.steps (ds.map (·.result)) outcomes failure) := by
  rcases hcreate : (Session.create b).run u with ⟨f | _, v⟩
  · exact ⟨_, v, [], v, [], some f, rfl, run_tried_of_error b hcreate, .nil (Std.Refl.refl v),
      .inl ⟨f, rfl, rfl, rfl, rfl⟩⟩
  · obtain ⟨ds, outcomes, failure, v', hsteps, runs, recorded⟩ := runSteps_recorded b 1 c.steps v
    exact ⟨_, v, ds, v', outcomes, failure, rfl, (run_tried_of_ok b hcreate).trans hsteps, runs,
      .inr ⟨rfl, recorded⟩⟩

/-- A case acquires its session, carries out its steps up to the first that fails and releases its
session. Its calls are those of these three parts, and its outcome is read off the first two. -/
theorem runCase_failFast (suite : Suite) (c : Case) (w : World σ) :
    let o := ((runCase b suite c).run w).1
    ∃ u created v ds v', w.Quiet u ∧ (Session.create b).run u = (created, v) ∧
      StepRuns b v (c.steps.take o.steps.length) ds v' ∧
      ((Session.finish b).run v').2.Quiet ((runCase b suite c).run w).2 ∧
      FailFast c created (ds.map (·.result)) o ∧
      ∃ s r, v.trace = w.trace ++ s ∧
        ((runCase b suite c).run w).2.trace = w.trace ++ (s ++ (ds.flatMap (·.calls) ++ r)) ∧
        r.map (·.call) = (v'.session.handles [.page, .context]).map Handle.closing := by
  intro o
  obtain ⟨u, steps, failure, v', ms, before, htried, after, outcome⟩ := runCase_parts b suite c w
  obtain ⟨created, v, ds, x, steps', failure', hcreate, htried', runs, ended⟩ := tried_parts b c u
  rw [htried] at htried'
  cases htried'
  obtain ⟨s, hs, _⟩ := Session.create_moves b u
  obtain ⟨r, hr, calls⟩ := Session.finish_calls b v'
  rw [hcreate] at hs
  have recorded : o.steps = steps := congrArg CaseOutcome.steps outcome
  have trace : v.trace = w.trace ++ s := by rw [hs, before.trace]
  refine ⟨u, created, v, ds, v', before, hcreate, recorded ▸ runs, after, ?_, s, r, trace, ?_, calls⟩
  · change FailFast c created (ds.map (·.result)) ((runCase b suite c).run w).1
    rw [outcome]
    rcases ended with ⟨f, rfl, rfl, rfl, rfl⟩ | ⟨rfl, recorded⟩
    · exact failFast_of_not_created c rfl rfl rfl
    · exact recorded.failFast rfl rfl rfl
  · rw [after.trace, hr, runs.trace_eq, trace]
    simp only [List.append_assoc]

end Run

end Rehearsal
