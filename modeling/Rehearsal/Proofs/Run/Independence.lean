import Rehearsal.Proofs.Run.Tandem
import Rehearsal.Proofs.Session.Contexts
import Rehearsal.Proofs.Session.Scripted

/-!
# Cases are independent of each other

On a backend that keeps contexts apart and opens every layer, what comes of a case hangs on the case and on
the configuration: not on the cases before it, and not on what the runner or the backend did earlier.
-/
namespace Rehearsal

variable {σ : Type} {b : Backend σ} {s : σ} {t : Ini} {urls : Prop}

/-- Two worlds on pages that were treated alike so far. The clocks stood at these times when they began. -/
def World.Abreast (b : Backend σ) (s : σ) (t : Ini) (start start' p p' : Nat) (w w' : World σ) : Prop :=
  ∃ x n, w.OnPage b s t x n p ∧ w'.OnPage b s t x n p' ∧ w.waitedMs + start' = w'.waitedMs + start

/-- On whichever pages they are. -/
def World.Together (b : Backend σ) (s : σ) (t : Ini) (start start' : Nat) (w w' : World σ) : Prop :=
  ∃ p p', World.Abreast b s t start start' p p' w w'

open World in
/-- The configuration is the same, and has been read. -/
theorem Act.lookup_together {start start' : Nat} (name key : String) :
    (Act.lookup name key : Act σ String).Agree (Together b s t start start')
      (Together b s t start start') (Together b s t start start') (Act.lookup name key) := by
  intro w w' together
  obtain ⟨_, _, _, _, here, there, _⟩ := id together
  rw [run_lookup_of_table here.config, run_lookup_of_table there.config]
  refine ⟨rfl, ?_⟩
  split
  · exact together
  · exact together

theorem World.Ready.of_quiet {w w' : World σ} (ready : w.Ready b s t) (quiet : w.Quiet w') :
    w'.Ready b s t := by
  obtain ⟨log, span, rfl⟩ := quiet
  exact { ready with }

namespace Backend.Isolates

variable (isolates : b.Isolates s urls) {start start' p p' : Nat} {w w' : World σ}

include isolates

theorem current (provides : b.Provides s) (abreast : World.Abreast b s t start start' p p' w w') :
    ∃ q q' v v', (Session.current b).run w = (.ok q, v) ∧ (Session.current b).run w' = (.ok q', v') ∧
      World.Abreast b s t start start' q q' v v' := by
  obtain ⟨x, n, here, there, clock⟩ := abreast
  obtain ⟨cs, told, seen⟩ := here.seen
  obtain ⟨cs', told', seen'⟩ := there.seen
  have same := isolates.title cs cs' p p' _ seen seen'
  rw [← told, ← told'] at same
  cases alive : (b.answer (.title p) w.backend).1.isOk with
  | true =>
    obtain ⟨v, run, final, waited⟩ := Session.run_current_of_alive here alive
    obtain ⟨v', run', final', waited'⟩ := Session.run_current_of_alive there (same ▸ alive)
    exact ⟨p, p', v, v', run, run', _, n, final, final', by omega⟩
  | false =>
    obtain ⟨v, q, run, final, waited⟩ := Session.run_current_of_dead provides here alive
    obtain ⟨v', q', run', final', waited'⟩ := Session.run_current_of_dead provides there (same ▸ alive)
    exact ⟨q, q', v, v', run, run', _, _, final, final', by omega⟩

theorem visit_agree {α : Type} (v : Visit α) (h : v.ReadsUrl → urls)
    (abreast : World.Abreast b s t start start' p p' w w') :
    ((v.ask b p).run w).1 = ((v.ask b p').run w').1 ∧
      World.Abreast b s t start start' p p' ((v.ask b p).run w).2 ((v.ask b p').run w').2 := by
  obtain ⟨x, n, here, there, clock⟩ := abreast
  obtain ⟨cs, told, seen⟩ := here.seen
  obtain ⟨cs', told', seen'⟩ := there.seen
  have same := isolates.visit v h cs cs' p p' _ seen seen'
  have asked := here.asked (q := v.call p) (Call.on?_of_page? (v.page?_call p))
  have asked' := there.asked (q := v.call p') (Call.on?_of_page? (v.page?_call p'))
  have call : (v.call p).onPage n = (v.call p').onPage n := by cases v <;> rfl
  rw [v.run_ask, v.run_ask]
  rw [← told, ← told'] at same
  exact ⟨same, _, n, asked, call ▸ asked', clock⟩

/-- Sessions on pages that were treated alike go on in tandem. -/
def tandem (provides : b.Provides s) (t : Ini) (start start' : Nat) : Tandem b b where
  Rel := World.Together b s t start start'
  On := World.Abreast b s t start start'
  urls
  start
  start'
  rel on := ⟨_, _, on⟩
  clock
    | ⟨_, _, _, _, _, _, clock⟩ => clock
  say _
    | ⟨p, p', x, n, here, there, clock⟩ => ⟨p, p', x, n, { here with }, { there with }, clock⟩
  sayOn _
    | ⟨x, n, here, there, clock⟩ => ⟨x, n, { here with }, { there with }, clock⟩
  sleep ms
    | ⟨p, p', x, n, here, there, clock⟩ =>
      ⟨p, p', x, n, { here with }, { there with }, by dsimp only; omega⟩
  current
    | ⟨_, _, abreast⟩ => .inl (isolates.current provides abreast)
  visit v h w w' abreast := by
    obtain ⟨same, final⟩ := isolates.visit_agree v h abreast
    refine ⟨same, ?_⟩
    split
    · exact final
    · exact ⟨_, _, final⟩
  lookupUrl := Act.lookup_together _ _

theorem tandem_fills (provides : b.Provides s) (start start' : Nat) :
    (isolates.tandem provides t start start').Fills := by
  intro source l
  refine Act.Agree.bind (Q := (isolates.tandem provides t start start').Rel) ?_ fun text =>
    (isolates.tandem provides t start start').fillField_agree l text
  cases source with
  | literal text => exact .of_pure text fun _ _ => id
  | configured name key => exact Act.lookup_together name key

end Backend.Isolates

/-- A step of the case asks for the address that the page is at. -/
def Case.ReadsUrl (c : Case) : Prop := ∃ step ∈ c.steps, step.ReadsUrl

instance (c : Case) : Decidable c.ReadsUrl := inferInstanceAs (Decidable (∃ step ∈ c.steps, step.ReadsUrl))

/-- What there is to do: the cases that are selected, each with the identifier of its suite. -/
def Selection.agenda (sel : Selection) (suites : List Suite) : List (String × Case) :=
  (sel.selected suites).map fun p => (p.1.id, p.2)

namespace Run

variable (isolates : b.Isolates s urls) (provides : b.Provides s) {w w' : World σ}

include isolates provides

theorem tried_independent (ready : w.Ready b s t) (ready' : w'.Ready b s t) {c : Case}
    (reads : c.ReadsUrl → urls) : ((tried b c).run w).1 = ((tried b c).run w').1 ∧
      ((tried b c).run w).2.Ready b s t ∧
      ((tried b c).run w).2.waitedMs + w'.waitedMs = ((tried b c).run w').2.waitedMs + w.waitedMs := by
  simp only [tried, Task.run_bind, Act.run_attempt]
  rcases Session.run_create provides ready with
    ⟨f, v, failed, kind, final, waited⟩ | ⟨v, p, created, onPage, waited⟩
  · rcases Session.run_create provides ready' with
      ⟨f', v', failed', kind', _, waited'⟩ | ⟨v', _, _, onPage', _⟩
    · obtain rfl : f = f' := Except.error.inj (kind.symm.trans kind')
      rw [failed, failed']
      exact ⟨rfl, final, by simp only [Task.run_pure]; omega⟩
    · obtain ⟨_, ok⟩ := onPage'.kind
      cases kind.symm.trans ok
  · rcases Session.run_create provides ready' with
      ⟨_, _, _, kind', _, _⟩ | ⟨v', p', created', onPage', waited'⟩
    · obtain ⟨_, ok⟩ := onPage.kind
      cases kind'.symm.trans ok
    · let pair := isolates.tandem provides t w.waitedMs w'.waitedMs
      have start : pair.Rel v v' := ⟨p, p', _, 0, onPage, onPage', by omega⟩
      obtain ⟨same, last⟩ := pair.runSteps_agree (isolates.tandem_fills provides _ _) 1 c.steps
        (fun step hs reading => reads ⟨step, hs, reading⟩) v v' start
      rw [created, created']
      obtain ⟨_, _, _, _, here, _, _⟩ := id last
      exact ⟨same, here.inContext.ready, pair.clock last⟩

/-- What comes of a case is the same in all runners that are ready, and afterwards they still are. -/
theorem runCase_independent (ready : w.Ready b s t) (ready' : w'.Ready b s t) (suite : Suite) {c : Case}
    (reads : c.ReadsUrl → urls) :
    ((runCase b suite c).run w).1 = ((runCase b suite c).run w').1 ∧
      ((runCase b suite c).run w).2.Ready b s t := by
  let u : World σ := { w with log := w.log ++ [⟨.caseStarted c.name, w.span⟩] }
  let u' : World σ := { w' with log := w'.log ++ [⟨.caseStarted c.name, w'.span⟩] }
  have start : u.Ready b s t := { ready with }
  have start' : u'.Ready b s t := { ready' with }
  obtain ⟨same, final, clock⟩ := tried_independent isolates provides start start' reads
  have took : ((tried b c).run u).2.waitedMs - w.waitedMs =
      ((tried b c).run u').2.waitedMs - w'.waitedMs := by
    dsimp only [u, u'] at clock
    dsimp only [u, u']
    omega
  rw [run_runCase, run_runCase]
  refine ⟨?_, ?_⟩
  · rw [concluded_outcome, concluded_outcome, Session.finish_waitedMs, Session.finish_waitedMs, took, same]
  · exact (Session.finish_ready final).of_quiet (concluded_quiet suite c w.waitedMs _ _ _)

/-- Each case that is run finds a runner that is ready, and leaves it so. -/
theorem caseRuns_independent {v : World σ} {ps : List (Suite × Case)} {ds : List (Done CaseOutcome)}
    (runs : CaseRuns b w ps ds v) (ready : w.Ready b s t) (ready' : w'.Ready b s t)
    (reads : ∀ p ∈ ps, p.2.ReadsUrl → urls) :
    ds.map (·.result) = ps.map (fun p => ((runCase b p.1 p.2).run w').1) ∧ v.Ready b s t := by
  have quiet (u u' : World σ) (h : u.Quiet u') (start : u.Ready b s t) := start.of_quiet h
  obtain ⟨each, final⟩ := runs.forall₂ (I := fun u => u.Ready b s t)
    (Q := fun p d => ((runCase b p.1 p.2).run w').1 = d.result) quiet
    (fun p hp u d u' run _ start => by
      obtain ⟨same, final⟩ := runCase_independent isolates provides start ready' p.1 (reads p hp)
      rw [run] at same final
      exact ⟨same.symm, final⟩) ready
  refine ⟨?_, final⟩
  rw [← List.forall₂_eq_eq_eq, List.forall₂_map_right_iff, List.forall₂_map_left_iff]
  exact each.flip.imp fun _ _ => Eq.symm

/-- What a case gives on its own in a runner. Of its suite the outcome names the identifier only. -/
def alone (b : Backend σ) (w : World σ) (p : String × Case) : CaseOutcome :=
  ((runCase b { id := p.1, name := "", cases := [] } p.2).run w).1

/-- A run gives of each case what the case gives on its own, and leaves the runner ready for another. -/
theorem run_cases_eq (ready : w.Ready b s t) (ready' : w'.Ready b s t) (stamp : Stamp) {sel : Selection}
    {sc : Scenario} (reads : ∀ p ∈ sel.agenda sc.suites, p.2.ReadsUrl → urls) :
    ((run b stamp sel sc).run w).1.cases = (sel.agenda sc.suites).map (alone b w') ∧
      ((run b stamp sel sc).run w).2.Ready b s t := by
  obtain ⟨ds, u, ms, runs, quiet, summary⟩ := run_parts b stamp sel sc w
  obtain ⟨cases, final⟩ := caseRuns_independent isolates provides runs ready ready'
    fun p hp => reads (p.1.id, p.2) (List.mem_map_of_mem hp)
  refine ⟨?_, ?_⟩
  · rw [summary, tally, cases, Selection.agenda, List.map_map]
    rfl
  · exact (Session.close_ready final).of_quiet quiet

/-- A run gives of each case what the case gives on its own in a new runner, or in any that is ready. So it
gives the same when it is repeated, and if there are other cases besides or they come in another order. -/
theorem run_independent {w₀ : World σ} (ready : w.Ready b s t) (ready₀ : w₀.Ready b s t)
    {sel : Selection} {sc : Scenario} (reads : ∀ p ∈ sel.agenda sc.suites, p.2.ReadsUrl → urls)
    (stamp : Stamp) :
    let v := (run b stamp sel sc).run w
    v.1.cases = (sel.selected sc.suites).map (fun p => ((runCase b p.1 p.2).run w₀).1) ∧
      (∀ stamp, ((run b stamp sel sc).run v.2).1.cases = v.1.cases) ∧
      ∀ stamp sel' (sc' : Scenario), (sel'.agenda sc'.suites).Subperm (sel.agenda sc.suites) →
        ((run b stamp sel' sc').run w₀).1.cases.Subperm v.1.cases := by
  intro v
  obtain ⟨cases, last⟩ := run_cases_eq isolates provides ready ready₀ stamp reads
  refine ⟨?_, fun stamp' => ?_, fun stamp' sel' sc' fewer => ?_⟩
  · rw [cases, Selection.agenda, List.map_map]
    rfl
  · rw [cases, (run_cases_eq isolates provides last ready₀ stamp' reads).1]
  · obtain ⟨l, perm, sublist⟩ := fewer
    have others := run_cases_eq isolates provides ready₀ ready₀ stamp'
      fun p hp => reads p (sublist.subset (perm.mem_iff.mpr hp))
    rw [cases, others.1]
    exact ⟨_, perm.map _, sublist.map _⟩

end Run

/-- A page is open before the first run, no page can be closed without an error, and of three cases the one
in the middle asks for a section that is not there. -/
theorem Run.run_independent_of_failing_release :
    let b := Scripted.backend
    let texts := [("css=#username", [""]), ("css=#password", [""]), ("xpath=//button", ["Go"])]
    let s : Scripted :=
      { texts, onClick := [⟨"xpath=//button", { url := some "x/board" }⟩]
        faults := [⟨"page.close", none, none, .driver "connection reset"⟩] }
    let start : World Scripted :=
      { backend := s, around := ⟨⟨[], []⟩, none⟩
        config := .ofIni "[UI]\nbrowserType=Chromium\nbaseUrlPortal=x\nemail=ann\npassword=a b\n" }
    let w₀ := start.unused
    let w := Session.Op.ensurePage.after b w₀
    let logIn : Step := { action := "logIn" }
    let missing : Step := { action := "navigateToSection", sectionName := some "Reports" }
    let sc : Scenario := ⟨[
      { id := "S1", name := "Portal", cases := [
        { id := "C1", name := "Log in", steps := [logIn] },
        { id := "C2", name := "Look for reports", steps := [missing, logIn] }] },
      { id := "S2", name := "Portal again", cases := [
        { id := "C3", name := "Log in again", steps := [logIn] }] }]⟩
    let stamp : Run.Stamp := ⟨.zero, .epoch⟩
    b.Isolates s False ∧ b.Provides s ∧
      ((Run.run b stamp {} sc).run w).1.cases.map (·.status) = [.passed, .failed, .passed] ∧
      ((Run.run b stamp {} sc).run w).1.cases =
        (Selection.selected {} sc.suites).map (fun p => ((Run.runCase b p.1 p.2).run w₀).1) ∧
      (∀ stamp', ((Run.run b stamp' {} sc).run ((Run.run b stamp {} sc).run w).2).1.cases =
        ((Run.run b stamp {} sc).run w).1.cases) ∧
      ∀ stamp' sel' (sc' : Scenario), (sel'.agenda sc'.suites).Subperm (Selection.agenda {} sc.suites) →
        ((Run.run b stamp' sel' sc').run w₀).1.cases.Subperm
          ((Run.run b stamp {} sc).run w).1.cases := by
  intro b texts s start w₀ w logIn missing sc stamp
  have steady : s.Steady := ⟨by decide, by decide, rfl⟩
  have isolates : b.Isolates s False := Scripted.isolates steady
  have provides : b.Provides s := Scripted.provides steady
  let t := Ini.ofText "[UI]\nbrowserType=Chromium\nbaseUrlPortal=x\nemail=ann\npassword=a b\n"
  have told : start.backend = b.after [] s := rfl
  have ready₀ : w₀.Ready b s t := World.ready_unused rfl told
  have kind : Config.browserKind t = .ok .chromium := by decide
  have ready : w.Ready b s t := ⟨rfl, ⟨w.trace.map (·.call), rfl⟩, fun _ => ⟨_, kind⟩⟩
  have reads : ∀ p ∈ Selection.agenda {} sc.suites, p.2.ReadsUrl → False := by decide
  obtain ⟨cases, again, others⟩ := Run.run_independent isolates provides ready ready₀ reads stamp
  exact ⟨isolates, provides, by decide +kernel, cases, again, others⟩

end Rehearsal
