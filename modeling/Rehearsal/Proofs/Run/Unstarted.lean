import Rehearsal.Proofs.Run.FailFast
import Rehearsal.Proofs.Session.Refusals

/-!
# Cases that are not started

A case that fails without a step was not given its session. So what failed is what can fail when layers are
acquired, and its code is one of four, in any run and on any backend.
-/
namespace Rehearsal

variable {σ : Type}

/-- The codes of the failures to acquire layers. -/
def Failure.acquisitionCodes : List String :=
  ["SESSION_ACQUISITION_FAILED", "CONFIG_MISSING", "IO_ERROR", "UNSUPPORTED_BROWSER_TYPE"]

theorem Failure.OfAcquisition.code_mem {f : Failure} (h : f.OfAcquisition) :
    f.code ∈ acquisitionCodes := by
  cases h <;> simp [acquisitionCodes, code]

/-- The case failed before any of its steps was tried. -/
def CaseOutcome.Unstarted (o : CaseOutcome) : Prop := o.status = .failed ∧ o.steps = []

/-- The case has kept a failure with one of these codes. -/
def CaseOutcome.FailedWith (codes : List String) (o : CaseOutcome) : Prop :=
  ∃ n, o.error = some n ∧ n.code ∈ codes

namespace Run

variable (b : Backend σ)

/-- What a case that was not started has kept is why its session was not acquired. -/
theorem exists_failure_of_unstarted (suite : Suite) (c : Case) (w : World σ)
    (unstarted : ((runCase b suite c).run w).1.Unstarted) : ∃ u v f, w.Quiet u ∧
      (Session.create b).run u = (.error f, v) ∧
      ((runCase b suite c).run w).1.error = some f.note := by
  obtain ⟨u, steps, failure, x, ms, before, htried, _, outcome⟩ := runCase_parts b suite c w
  obtain ⟨created, v, ds, x', steps', failure', hcreate, htried', _, ended⟩ := tried_parts b c u
  rw [htried] at htried'
  cases htried'
  obtain ⟨failed, empty⟩ := unstarted
  rw [outcome] at failed empty ⊢
  obtain rfl : steps = [] := empty
  rcases ended with ⟨f, rfl, _, _, rfl⟩ | ⟨_, recorded⟩
  · exact ⟨u, v, f, before, hcreate, rfl⟩
  · rcases recorded.passed_or_failed with ⟨rfl, _, _⟩ | ⟨_, _, _, last, _, _⟩
    · cases failed
    · cases last

theorem runCase_unstarted (suite : Suite) (c : Case) (w : World σ)
    (unstarted : ((runCase b suite c).run w).1.Unstarted) :
    ((runCase b suite c).run w).1.FailedWith Failure.acquisitionCodes := by
  obtain ⟨u, v, f, _, created, error⟩ := exists_failure_of_unstarted b suite c w unstarted
  obtain ⟨t, _, accounted⟩ := Session.create_accounts b u
  rw [created] at accounted
  exact ⟨f.note, error, (accounted.reason f rfl).ofAcquisition.code_mem⟩

/-- Whatever the session holds and the backend answers, the operations that acquire layers account for
what they did: they fail for what the configuration or a refused layer says, which is told once, and for
nothing else. So a case that fails without a step has one of four codes. -/
theorem acquisition_failures :
    (∀ w : World σ, (∀ l, w.Accounts ((Session.ensure b l).run w)) ∧
      w.Accounts ((Session.current b).run w) ∧ w.Accounts ((Session.create b).run w)) ∧
    (∀ suite c w, ((runCase b suite c).run w).1.Unstarted →
      ((runCase b suite c).run w).1.FailedWith Failure.acquisitionCodes) ∧
    ∀ stamp sel s w, ∀ o ∈ ((run b stamp sel s).run w).1.cases,
      o.Unstarted → o.FailedWith Failure.acquisitionCodes := by
  refine ⟨fun w => ⟨?_, ?_, ?_⟩, runCase_unstarted b, fun stamp sel s w => ?_⟩
  · exact fun l => Session.ensure_accounts b l w
  · exact Session.current_accounts b w
  · exact Session.create_accounts b w
  · exact forall_run (runCase_unstarted b) stamp sel s w

/-- A browser that cannot be launched. -/
theorem acquisition_failures_of_no_display :
    let w : World Scripted := {
      backend := { faults := [⟨"browser.launch", none, none, .driver "no display"⟩] }
      config := .ofIni "[UI]\nbrowserType=Chromium\n", around := ⟨⟨[], []⟩, none⟩ }
    let c : Case := { id := "C1", name := "Log in", steps := [{ action := "logIn" }] }
    let o := ((runCase Scripted.backend { id := "S1", name := "Portal", cases := [c] } c).run w).1
    o.Unstarted ∧ o.FailedWith Failure.acquisitionCodes ∧
      o.error.map (·.message) =
        some "Failed to acquire browser session: Browser automation error: no display" := by
  intro w c o
  have unstarted : o.Unstarted := ⟨by decide, by decide⟩
  exact ⟨unstarted, (acquisition_failures Scripted.backend).2.1 _ c w unstarted, by decide⟩

end Run

end Rehearsal
