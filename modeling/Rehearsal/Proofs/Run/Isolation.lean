import Rehearsal.Proofs.Run.Cases
import Rehearsal.Proofs.Session.Nesting
import Rehearsal.Proofs.Session.Ownership
import Rehearsal.Session.Scripted

/-!
# Cases do not share contexts and pages

A session may have been through anything before a case starts, and the case may end anywhere: it uses
only the context and the pages that it opened itself, and leaves none behind. All cases of a run share
an engine and a browser.
-/
namespace Rehearsal

variable {σ : Type} (b : Backend σ)

/-- What can become of a new session: it is used by itself or by steps, cases, suites and runs, and
between its uses all but the books and the trace may change. -/
inductive Reachable : World σ → Prop
  | new (w : World σ) : Reachable w.unused
  | op (op : Session.Op) {w : World σ} : Reachable w → Reachable (op.after b w)
  | step (s : Step) {w : World σ} : Reachable w → Reachable ((Run.execute b s).run w).2
  | tested (suite : Suite) (c : Case) {w : World σ} :
      Reachable w → Reachable ((Run.runCase b suite c).run w).2
  | suite (sel : Selection) (suite : Suite) {w : World σ} :
      Reachable w → Reachable ((Run.runSuite b sel suite).run w).2
  | run (stamp : Run.Stamp) (sel : Selection) (s : Scenario) {w : World σ} :
      Reachable w → Reachable ((Run.run b stamp sel s).run w).2
  | elsewhere {w w' : World σ} : Reachable w → w'.session = w.session → w'.issued = w.issued →
      w'.trace = w.trace → Reachable w'

namespace Run

theorem runSuite_moves (sel : Selection) (suite : Suite) :
    (runSuite b sel suite).Ensures (World.Moves (Call.Spares .context)) := by
  intro w
  obtain ⟨ds, runs, _⟩ := runCases_caseRuns b sel suite suite.cases
    { w with log := w.log ++ [⟨.suiteStarted suite.name, w.span⟩] }
  exact runs.spares

theorem run_moves (stamp : Stamp) (sel : Selection) (s : Scenario) :
    (run b stamp sel s).Ensures (World.Moves fun _ => True) := by
  intro w
  obtain ⟨ds, u, _, runs, quiet, _⟩ := run_parts b stamp sel s w
  exact IsTrans.trans _ _ _ (runs.spares.mono fun _ _ => trivial)
    (IsTrans.trans _ _ _ ((Session.close_moves b u).mono fun _ _ => trivial) quiet.moves)

end Run

theorem Reachable.sound {w : World σ} (h : Reachable b w) : w.Sound := by
  induction h with
  | new w => exact World.sound_unused w
  | op op _ ih => exact (op.after_moves b _).sound ih
  | step s _ ih => exact (Run.execute_moves b s _).sound ih
  | tested suite c _ ih => exact (Run.runCase_moves b suite c _).sound ih
  | suite sel suite _ ih => exact (Run.runSuite_moves b sel suite _).sound ih
  | run stamp sel s _ ih => exact (Run.run_moves b stamp sel s _).sound ih
  | @elsewhere w w' _ session issued trace ih =>
    have ledger : w'.ledger = w.ledger := by rw [World.ledger, session, issued]; rfl
    exact (World.moves_of_eq (P := fun _ => True) ledger trace).sound ih

/-- What a case does, from the world before it to the world after it. -/
structure CaseIsolated (w v : World σ) (t : List Exchange) : Prop where
  trace : v.trace = w.trace ++ t
  /-- What is still held of a page and a context is released first. All that is called from then on
  was opened since then: a context, or a page of such a context. -/
  own : ∃ s r, t = s ++ r ∧
    s.map (·.call) = (w.session.handles [.page, .context]).map Handle.closing ∧
    ∀ q x, q ++ [x] <+: r → ∀ h, x.call.on? = some h → h.OpenedIn q
  oneContext : (obtained t).countP (·.layer = .context) ≤ 1
  /-- No browser and no engine is released. -/
  spared : ∀ x ∈ t, ∀ h, x.call.releases? = some h → h.OfCase
  page : v.session.page = none
  context : v.session.context = none
  /-- Every context and page that was ever opened is released, once. -/
  settled : ∀ h ∈ obtained v.trace, h.OfCase → (released v.trace).count h = 1

/-- What a run does with cases, from the world before it to the world after it. -/
structure RunIsolated (w v : World σ) (ds : List (Done CaseOutcome)) (r : List Exchange) : Prop where
  trace : v.trace = w.trace ++ (ds.flatMap (·.calls) ++ r)
  /-- Whatever the world before and after a case. -/
  each : ∀ d ∈ ds, ∃ p q : World σ, CaseIsolated p q d.calls
  /-- After the cases there are only releases. -/
  closing : ∀ x ∈ r, ∃ h : Handle, x.call = h.closing
  /-- No context and no page is opened or called by two cases. -/
  apart : ds.Pairwise fun x y => ∀ h : Handle, h.OfCase → Touches x.calls h → ¬ Touches y.calls h
  oneEngine : (obtained (ds.flatMap (·.calls) ++ r)).countP (·.layer = .engine) ≤ 1
  oneBrowser : (obtained (ds.flatMap (·.calls) ++ r)).countP (·.layer = .browser) ≤ 1
  isEmpty : v.session.isEmpty
  settled : ∀ h ∈ obtained v.trace, (released v.trace).count h = 1

namespace Session

theorem not_holds_of_finish (w : World σ) {h : Handle} (ofCase : h.OfCase) :
    ¬ ((finish b).run w).2.session.Holds h := by
  rw [finish_session]
  rcases h with ⟨l, n⟩
  rcases ofCase with rfl | rfl
  all_goals simp [Holds, slot]

end Session

namespace Run

theorem runCase_session (suite : Suite) (c : Case) (w : World σ) :
    ∃ v : World σ, ((runCase b suite c).run w).2.session = ((Session.finish b).run v).2.session := by
  obtain ⟨u, steps, failure, v, _, _, _, after, _⟩ := runCase_parts b suite c w
  exact ⟨v, after.session⟩

/-- The exchanges of a case are the releases of what was still held, then those from acquiring its
session to its last step, which release pages only, and then the releases of its session. -/
theorem runCase_own (suite : Suite) (c : Case) (w : World σ) : ∃ s r,
    ((runCase b suite c).run w).2.trace = w.trace ++ (s ++ r) ∧
    s.map (·.call) = (w.session.handles [.page, .context]).map Handle.closing ∧
    (∀ q x, q ++ [x] <+: r → ∀ h, x.call.on? = some h → h.OpenedIn q) ∧
    (obtained (s ++ r)).countP (·.layer = .context) ≤ 1 := by
  obtain ⟨u, steps, failure, v, _, before, htried, after, _⟩ := runCase_parts b suite c w
  obtain ⟨s, hs, calls⟩ := Session.finish_calls b u
  have moves := tried_moves b c u
  rw [htried] at moves
  obtain ⟨r₁, h₁, spares, turns₁⟩ := moves
  obtain ⟨r₂, h₂, frees, turns₂⟩ := Session.finish_moves b v
  have noneBefore : obtained s = [] := obtained_of_closings calls
  have noneAfter : obtained r₂ = [] := by
    refine obtained_eq_nil fun x hx => ?_
    obtain ⟨h, release, _⟩ := frees x hx
    exact ⟨h, release⟩
  refine ⟨s, r₁ ++ r₂, ?_, ?_, ?_, ?_⟩
  · rw [after.trace, h₂, h₁, hs, before.trace]
    simp only [List.append_assoc]
  · rw [calls, before.session]
  · exact (turns₁.append turns₂).opened_of_vacant fun h => Session.not_holds_of_finish b u
  · rw [obtained_append, obtained_append, noneBefore, noneAfter, List.append_nil, List.nil_append]
    refine turns₁.countP_le_one fun x hx h release => ?_
    have depth := spares x hx h release
    intro context
    rw [context] at depth
    exact absurd depth (by decide)

/-- No context and no page is left behind. -/
theorem runCase_settled (suite : Suite) (c : Case) {w : World σ} (sound : w.Sound) :
    ∀ h ∈ obtained ((runCase b suite c).run w).2.trace, h.OfCase →
      (released ((runCase b suite c).run w).2.trace).count h = 1 := by
  intro h hobt ofCase
  obtain ⟨v, session⟩ := runCase_session b suite c w
  refine ((runCase_moves b suite c w).sound sound).count_released hobt ?_
  rw [session, Session.finish_session]
  rcases ofCase with hl | hl
  all_goals rw [hl]; rfl

theorem runCase_isolated (suite : Suite) (c : Case) {w : World σ} (sound : w.Sound) :
    ∃ t, CaseIsolated w ((runCase b suite c).run w).2 t := by
  obtain ⟨s, r, trace, calls, own, oneContext⟩ := runCase_own b suite c w
  obtain ⟨t, trace', spares, turns⟩ := runCase_moves b suite c w
  obtain ⟨v, session⟩ := runCase_session b suite c w
  obtain rfl : t = s ++ r := List.append_cancel_left (trace'.symm.trans trace)
  exact ⟨s ++ r, {
    trace, oneContext
    own := ⟨s, r, rfl, calls, own⟩
    spared := fun x hx h release => Handle.ofCase_of_depth (spares x hx h release)
    page := by rw [session, Session.finish_session]
    context := by rw [session, Session.finish_session]
    settled := runCase_settled b suite c sound }⟩

end Run

namespace CaseRuns

variable {b} {u v w w' : World σ} {cs : List (Suite × Case)} {ds : List (Done CaseOutcome)}

theorem sound_after {suite : Suite} {c : Case} {o : CaseOutcome}
    (run : (Run.runCase b suite c).run u = (o, v)) (quiet : w.Quiet u) (sound : w.Sound) :
    u.Sound ∧ v.Sound := by
  have soundU : u.Sound := (quiet.moves (P := fun _ => True)).sound sound
  have moves := Run.runCase_moves b suite c u
  rw [run] at moves
  exact ⟨soundU, moves.sound soundU⟩

theorem each (runs : CaseRuns b w cs ds w') (sound : w.Sound) :
    ∀ d ∈ ds, ∃ p q : World σ, CaseIsolated p q d.calls := by
  induction runs with
  | nil _ => simp
  | @cons w u v w' p rest d ds quiet run trace _ ih =>
    obtain ⟨soundU, soundV⟩ := sound_after run quiet sound
    obtain ⟨t, isolated⟩ := Run.runCase_isolated b p.1 p.2 soundU
    rw [show (Run.runCase b p.1 p.2).run u = (d.result, v) from run] at isolated
    obtain rfl : t = d.calls := List.append_cancel_left (isolated.trace.symm.trans trace)
    intro x hx
    rcases List.mem_cons.mp hx with rfl | hx
    · exact ⟨u, v, isolated⟩
    · exact ih soundV x hx

/-- By induction on the cases: whatever a case touched is released when the next one starts. -/
theorem apart (runs : CaseRuns b w cs ds w') (sound : w.Sound) :
    ds.Pairwise fun x y => ∀ h : Handle, h.OfCase → Touches x.calls h → ¬ Touches y.calls h := by
  induction runs with
  | nil _ => exact .nil
  | @cons w u v w' p rest d ds quiet run trace more ih =>
    obtain ⟨soundU, soundV⟩ := sound_after run quiet sound
    refine .cons ?_ (ih soundV)
    intro y hy h ofCase touched touchedAgain
    have gone : h ∈ released v.trace := by
      have hobt : h ∈ obtained v.trace := by
        rw [trace]
        exact Nested.obtained_of_touches (trace ▸ soundV.nested) touched
      have once := Run.runCase_settled b p.1 p.2 soundU h
      rw [show (Run.runCase b p.1 p.2).run u = (d.result, v) from run] at once
      exact List.count_pos_iff.mp (by rw [once hobt ofCase]; exact Nat.one_pos)
    have nested : Nested (v.trace ++ ds.flatMap (·.calls)) := by
      rw [← more.trace_eq]
      exact ((CaseRuns.spares more).sound soundV).nested
    refine nested.not_touches gone (touchedAgain.mono fun x hx => ?_)
    exact List.mem_flatMap.mpr ⟨y, hy, hx⟩

end CaseRuns

namespace Run

theorem run_isolated (stamp : Stamp) (sel : Selection) (s : Scenario) {w : World σ}
    (sound : w.Sound) : ∃ ds u r, CaseRuns b w (sel.selected s.suites) ds u ∧
      ((run b stamp sel s).run w).1.cases = ds.map (·.result) ∧
      RunIsolated w ((run b stamp sel s).run w).2 ds r := by
  obtain ⟨ds, u, ms, runs, quiet, summary⟩ := run_parts b stamp sel s w
  obtain ⟨r, hr, calls⟩ := Session.close_calls b u
  obtain ⟨t, ht, spares, turns⟩ := runs.spares
  obtain rfl : t = ds.flatMap (·.calls) := List.append_cancel_left (ht.symm.trans runs.trace_eq)
  have once (l : Layer) (low : l.depth < Layer.context.depth) :
      (obtained (ds.flatMap (·.calls) ++ r)).countP (·.layer = l) ≤ 1 := by
    rw [obtained_append, obtained_of_closings calls, List.append_nil]
    refine turns.countP_le_one fun x hx h release hl => ?_
    have depth := spares x hx h release
    rw [hl] at depth
    omega
  have empty : ((run b stamp sel s).run w).2.session = {} := by
    rw [quiet.session, Session.close_session]
  have sound' : ((run b stamp sel s).run w).2.Sound := (run_moves b stamp sel s w).sound sound
  refine ⟨ds, u, r, runs, congrArg Summary.cases summary, ?_⟩
  exact {
    trace := by rw [quiet.trace, hr, runs.trace_eq, List.append_assoc]
    each := CaseRuns.each runs sound
    closing := exists_closing calls
    apart := CaseRuns.apart runs sound
    oneEngine := once .engine (by decide)
    oneBrowser := once .browser (by decide)
    isEmpty := by rw [empty]; rfl
    settled := fun h hobt => sound'.count_released hobt (by rw [empty]; cases h.layer <;> rfl) }

/-- Cases and runs keep contexts and pages apart, whatever a session has been through before. -/
theorem isolated_of_reachable {w : World σ} (reachable : Reachable b w) :
    (∀ suite c, ∃ t, CaseIsolated w ((runCase b suite c).run w).2 t) ∧
    ∀ stamp sel (s : Scenario), ∃ ds u r, CaseRuns b w (sel.selected s.suites) ds u ∧
      ((run b stamp sel s).run w).1.cases = ds.map (·.result) ∧
      RunIsolated w ((run b stamp sel s).run w).2 ds r :=
  ⟨fun suite c => runCase_isolated b suite c reachable.sound,
    fun stamp sel s => run_isolated b stamp sel s reachable.sound⟩

/-- A session with a page that was opened before any case. -/
theorem isolated_of_page_opened :
    let start : World Scripted :=
      { backend := {}, config := .ofIni "[UI]\nbrowserType=Chromium\n", around := ⟨⟨[], []⟩, none⟩ }
    let w := Session.Op.ensurePage.after Scripted.backend start.unused
    w.session.page = some 2 ∧
    (∀ suite c, ∃ t, CaseIsolated w ((runCase Scripted.backend suite c).run w).2 t) ∧
    ∀ stamp sel (s : Scenario), ∃ ds u r,
      CaseRuns Scripted.backend w (sel.selected s.suites) ds u ∧
      ((run Scripted.backend stamp sel s).run w).1.cases = ds.map (·.result) ∧
      RunIsolated w ((run Scripted.backend stamp sel s).run w).2 ds r :=
  ⟨by decide, isolated_of_reachable Scripted.backend (.op .ensurePage (.new _))⟩

end Run

end Rehearsal
