import Rehearsal.Proofs.Config.Overhearing
import Rehearsal.Proofs.Run.Agreement
import Rehearsal.Proofs.Run.FailFast
import Rehearsal.Proofs.Run.Inputs
import Rehearsal.Proofs.Session.Nesting
import Rehearsal.Session.Scripted

/-!
# Releases have no say

Two backends that differ at most in what they answer to releases lead to the same calls, the same
session and the same results. Only the log tells them apart, by what it says of releases that fail. Where
that can be read as the configuration the two may part: `Run.configured_by_failed_release`.
-/
namespace Rehearsal

variable {σ τ : Type} {R : σ → τ → Prop} {b : Backend σ} {b' : Backend τ}

/-- From states that are related the backends go on alike, and they answer alike unless they are asked
to release something. -/
structure Backend.Alike (R : σ → τ → Prop) (b : Backend σ) (b' : Backend τ) : Prop where
  answer : ∀ c s s', R s s' → c.releases? = none → (b.answer c s).1 = (b'.answer c s').1
  next : ∀ c s s', R s s' → R (b.answer c s).2 (b'.answer c s').2

/-- The log says that a release failed. -/
def Log.Event.isFailedRelease (e : Event) : Bool := e matches .releaseFailed ..

namespace World

open Log.Event (isFailedRelease)

/-- The same calls have led to the same state. Only the results of the calls may differ, and what the log
says of releases that fail. -/
structure Alike (R : σ → τ → Prop) (w : World σ) (w' : World τ) : Prop where
  backend : R w.backend w'.backend
  config : w.config = w'.config
  around : w.around = w'.around
  journal : w.journal = w'.journal
  session : w.session = w'.session
  issued : w.issued = w'.issued
  waitedMs : w.waitedMs = w'.waitedMs
  span : w.span = w'.span
  calls : w.trace.map (·.call) = w'.trace.map (·.call)
  told : Log.without isFailedRelease w.log = Log.without isFailedRelease w'.log

/-- There is nothing to release before the configuration has to be read. -/
def Bare (w : World σ) : Prop := ∀ l, l ≠ .engine → w.session.slot l = none

/-- No failed release gets into a configuration that is still to be read. -/
def Shielded (w : World σ) : Prop := w.DeafTo isFailedRelease ∨ w.Bare

/-- The logs of the two worlds will not change what is looked up. -/
def Undisturbed (k : Phase) (w : World σ) (w' : World τ) : Prop :=
  w.DeafTo isFailedRelease ∨ k = .starting ∧ w.log = w'.log ∧ w.Bare

theorem bare_of_session_eq {w : World σ} (h : w.session = {}) : w.Bare := by
  intro l _
  rw [h]
  cases l <;> rfl

namespace Alike

variable {w : World σ} {w' : World τ}

/-- Both sides say the same. -/
theorem say (alike : Alike R w w') (events : List Log.Event) :
    Alike R { w with log := w.log ++ events.map (⟨·, w.span⟩) }
      { w' with log := w'.log ++ events.map (⟨·, w'.span⟩) } := by
  refine { alike with told := ?_ }
  rw [← alike.span]
  exact Log.without_append_congr alike.told _

/-- A release fails on the left. -/
theorem failed (alike : Alike R w w') (name : String) (f : Failure) :
    Alike R { w with log := w.log ++ [⟨.releaseFailed name f, w.span⟩] } w' :=
  { alike with told := (Log.without_concat rfl w.log).trans alike.told }

/-- A release fails on the right. -/
theorem failed' (alike : Alike R w w') (name : String) (f : Failure) :
    Alike R w { w' with log := w'.log ++ [⟨.releaseFailed name f, w'.span⟩] } :=
  { alike with told := alike.told.trans (Log.without_concat rfl w'.log).symm }

theorem asked (alike : Alike R w w') (h : b.Alike R b') (c : Call) :
    Alike R ((Act.ask b c).run w).2 ((Act.ask b' c).run w').2 :=
  { alike with
    backend := h.next c _ _ alike.backend
    calls := by simp [alike.calls] }

/-- A look-up finds the same, and what it adds to the logs is the same. -/
theorem lookup_eq (alike : Alike R w w') {k : Phase} (h : Undisturbed k w w') (name key : String) :
    w.config.lookup w.surroundings name key = w'.config.lookup w'.surroundings name key := by
  have right : w'.config.lookup w'.surroundings name key =
      w.config.lookup ({ w with log := w'.log } : World σ).surroundings name key := by
    rw [surroundings, surroundings, disk, disk, alike.config, alike.around, alike.journal]
  rw [right]
  rcases h with deaf | ⟨_, log, _⟩
  · exact deaf.lookup_eq alike.told name key
  · rw [← log]

end Alike

/-- The worlds are alike and will be. -/
def InStep (R : σ → τ → Prop) (k : Phase) (w : World σ) (w' : World τ) : Prop :=
  Alike R w w' ∧ Undisturbed k w w'

theorem InStep.shielded {k : Phase} {w : World σ} {w' : World τ} (h : InStep R k w w') :
    w.Shielded :=
  h.2.imp id fun starting => starting.2.2

end World

open World in
theorem Act.lookup_agree (name key : String) : (Act.lookup name key : Act σ String).Agree
    (InStep R .starting) (InStep R .starting) (InStep R .settled) (Act.lookup name key) := by
  rintro w w' ⟨alike, undisturbed⟩
  have same := alike.lookup_eq undisturbed name key
  have alike' : Alike R ((Act.lookup name key).run w).2 ((Act.lookup name key).run w').2 := by
    have said := alike.say (w.config.lookup w.surroundings name key).2.2
    rw [Act.run_lookup, Act.run_lookup, ← same]
    exact { said with config := rfl }
  refine ⟨congrArg Prod.fst same, ?_⟩
  cases result : (w.config.lookup w.surroundings name key).1 with
  | ok v =>
    have loaded := Config.isLoaded_of_lookup result
    simp only [Act.run_lookup, result] at alike' ⊢
    exact ⟨alike', .inl (deafTo_of_isLoaded loaded)⟩
  | error f =>
    simp only [Act.run_lookup, result] at alike' ⊢
    refine ⟨alike', ?_⟩
    rcases undisturbed with deaf | ⟨_, log, bare⟩
    · exact .inl (deaf.lookup name key)
    · refine .inr ⟨rfl, ?_, bare⟩
      simp only [same, log, alike.span]

namespace Session

open World

/-- Whatever comes of a release, and whatever is logged of it. -/
theorem release_alike (alike : b.Alike R b') (name : String) (c : Call) :
    (release b name c).Agree (World.Alike R) (World.Alike R) (release b' name c) := by
  intro w w' start
  have asked := start.asked alike c
  rw [release, release, Task.run_bind, Task.run_bind]
  refine ⟨rfl, ?_⟩
  cases ((Act.ask b c).attempt.run w).1 with
  | ok _ => cases ((Act.ask b' c).attempt.run w').1 with
    | ok _ => exact asked
    | error f => exact asked.failed' name f
  | error f => cases ((Act.ask b' c).attempt.run w').1 with
    | ok _ => exact asked.failed name f
    | error g => exact (asked.failed name f).failed' name g

theorem release_deaf {kind : Log.Event → Bool} (name : String) (c : Call) {w : World σ}
    (deaf : w.DeafTo kind) : ((release b name c).run w).2.DeafTo kind := by
  rw [release, Task.run_bind]
  cases ((Act.ask b c).attempt.run w).1 with
  | ok _ => exact deaf
  | error f => exact deaf

theorem surrender_alike (alike : b.Alike R b') (name : String) (l : Layer) :
    (surrender b name l).Agree (World.Alike R) (World.Alike R) (surrender b' name l) := by
  intro w w' start
  cases h : w.session.slot l with
  | none =>
    rw [run_surrender_of_none b name h, run_surrender_of_none b' name (start.session ▸ h)]
    exact ⟨rfl, start⟩
  | some n =>
    rw [run_surrender_of_some b name h, run_surrender_of_some b' name (start.session ▸ h)]
    refine release_alike alike name _ _ _ { start with session := ?_ }
    exact congrArg (·.put l none) start.session

theorem close_alike (alike : b.Alike R b') :
    (close b).Agree (World.Alike R) (World.Alike R) (close b') := by
  rw [close_eq, close_eq, finish_eq, finish_eq]
  refine Task.Agree.bind ((surrender_alike alike _ _).bind fun _ => surrender_alike alike _ _) ?_
  exact fun _ => (surrender_alike alike _ _).bind fun _ => surrender_alike alike _ _

/-- Worlds that are in step stay so through every part of an operation. -/
def coupling (alike : b.Alike R b') : Coupling b b' where
  Rel := InStep R
  starting
    | ⟨start, .inl deaf⟩ => ⟨start, .inl deaf⟩
  settled
    | ⟨start, .inl deaf⟩, _, _ => ⟨start, .inl deaf⟩
    | ⟨_, .inr ⟨_, _, bare⟩⟩, held, above => nomatch (bare _ above).symm.trans held
  session start := start.1.session
  issued start := start.1.issued
  waitedMs start := start.1.waitedMs
  span start := start.1.span
  say e start := by
    refine ⟨start.1.say [e], start.2.imp id ?_⟩
    rintro ⟨starting, log, bare⟩
    exact ⟨starting, by simp only [log, start.1.span], bare⟩
  inSpan s start := ⟨{ start.1 with span := rfl }, start.2⟩
  sleep ms start := ⟨{ start.1 with waitedMs := congrArg (· + ms) start.1.waitedMs }, start.2⟩
  number f start := ⟨{ start.1 with issued := congrArg f start.1.issued }, start.2⟩
  engine n start := by
    refine ⟨{ start.1 with session := ?_ }, start.2.imp id ?_⟩
    · exact congrArg (fun s : Session => { s with engine := some n }) start.1.session
    · rintro ⟨starting, log, bare⟩
      refine ⟨starting, log, fun l above => ?_⟩
      cases l with
      | engine => exact absurd rfl above
      | browser => exact bare .browser above
      | context => exact bare .context above
      | page => exact bare .page above
  layers f
    | ⟨start, .inl deaf⟩ =>
      ⟨{ start with session := congrArg f start.session }, .inl deaf⟩
  ask k q other := by
    intro w w' start
    have same := alike.answer q _ _ start.1.backend other
    have asked : InStep R k ((Act.ask b q).run w).2 ((Act.ask b' q).run w').2 :=
      ⟨start.1.asked alike q, start.2⟩
    exact ⟨same, by simpa only [ite_self] using asked⟩
  release name h w w' := by
    rintro ⟨start, deaf | ⟨settled, _⟩⟩
    · obtain ⟨same, final⟩ := release_alike alike name h.closing w w' start
      exact ⟨same, final, .inl (release_deaf name h.closing deaf)⟩
    · cases settled
  lookupUi _ := Act.lookup_agree _ _

/-- What an operation gives: nothing, or the page that it acquired. -/
def Op.result (b : Backend σ) (op : Op) (w : World σ) : Except Failure (Option Nat) :=
  match op with
  | .ensureEngine => ((Session.ensureEngine b).run w).1.map fun _ => none
  | .ensureBrowser => ((Session.ensureBrowser b).run w).1.map fun _ => none
  | .ensureContext => ((Session.ensureContext b).run w).1.map fun _ => none
  | .ensurePage => ((Session.ensurePage b).run w).1.map fun _ => none
  | .current => ((Session.current b).run w).1.map some
  | .create => ((Session.create b).run w).1.map fun _ => none
  | .finish | .close => .ok none

end Session

open World

/-- What agrees for worlds in step gives the same and leaves them in step. -/
theorem Coupling.Agree.inStep {α : Type} {alike : b.Alike R b'} {k : Phase} {m : Act σ α}
    {m' : Act τ α} (h : (Session.coupling alike).Agree .starting k m m') {w : World σ} {w' : World τ}
    (start : InStep R .starting w w') :
    (m.run w).1 = (m'.run w').1 ∧ InStep R .starting (m.run w).2 (m'.run w').2 :=
  h.attempt (fun _ _ => (Session.coupling alike).to_starting) w w' start

theorem Session.op_alike (alike : b.Alike R b') (op : Session.Op) {w : World σ} {w' : World τ}
    (start : InStep R .starting w w') : op.result b w = op.result b' w' ∧
      World.Alike R (op.after b w) (op.after b' w') ∧ (op.after b w).Shielded := by
  let pair := coupling alike
  have act {α : Type} {k : Phase} {m : Act σ α} {m' : Act τ α} (f : α → Option Nat)
      (h : pair.Agree .starting k m m') : (m.run w).1.map f = (m'.run w').1.map f ∧
        World.Alike R (m.run w).2 (m'.run w').2 ∧ (m.run w).2.Shielded := by
    obtain ⟨same, final⟩ := h.inStep start
    exact ⟨congrArg (Except.map f) same, final.1, final.shielded⟩
  cases op with
  | ensureEngine => exact act _ (ensureEngine_agree pair .starting)
  | ensureBrowser => exact act _ (ensureBrowser_agree pair)
  | ensureContext => exact act _ (ensureContext_agree pair)
  | ensurePage => exact act _ (ensurePage_agree pair)
  | current => exact act _ (current_agree pair)
  | create => exact act _ (create_agree pair)
  | finish =>
    obtain ⟨_, final⟩ := finish_agree pair w w' start
    exact ⟨rfl, final.1, final.shielded⟩
  | close =>
    have empty : (Session.Op.close.after b w).Bare := bare_of_session_eq (close_session b w)
    exact ⟨rfl, (close_alike alike w w' start.1).2, .inr empty⟩

namespace Run

theorem fill_agree (alike : b.Alike R b') : FillAgree (Session.coupling alike) := by
  intro source l
  refine Act.Agree.bind (Q := InStep R .starting) ?_ fun text => Page.fillField_agree _ l text
  cases source with
  | literal text => exact .of_pure text fun _ _ => id
  | configured name key =>
    exact (Act.lookup_agree name key).mono (fun _ _ => id) fun _ _ =>
      (Session.coupling alike).starting

theorem run_alike (alike : b.Alike R b') (stamp : Stamp) (sel : Selection) (s : Scenario) :
    (run b stamp sel s).Agree (InStep R .starting) (World.Alike R) (run b' stamp sel s) := by
  have clock : (World.clock : Task σ Nat).Agree (World.Alike R) (World.Alike R) World.clock :=
    fun _ _ start => ⟨start.waitedMs, start⟩
  refine (clock_agree (Session.coupling alike)).bind fun started => ?_
  refine (runSuites_agree (fill_agree alike) sel s.suites).bind fun cases => ?_
  refine Task.Agree.bind (Q := World.Alike R) ?_ fun _ => clock.bind fun now => ?_
  · exact (Session.close_alike alike).mono (fun _ _ start => start.1) fun _ _ => id
  · exact Task.Agree.bind (fun _ _ start => ⟨rfl, start.say [_]⟩) fun _ => .of_pure _

end Run

/-- The same world on another backend. -/
def World.over (w : World σ) (s : τ) : World τ := { w with backend := s }

namespace World

theorem inStep_over {w : World σ} {s : τ} (related : R w.backend s) (shielded : w.Shielded) :
    InStep R .starting w (w.over s) :=
  ⟨⟨related, rfl, rfl, rfl, rfl, rfl, rfl, rfl, rfl, rfl⟩, shielded.imp id fun bare => ⟨rfl, rfl, bare⟩⟩

/-- What can become of a new session, if it is used by itself or by steps, cases, suites and runs and
what it has read of the configuration is kept. -/
inductive Used (b : Backend σ) : World σ → Prop
  | new (w : World σ) : Used b w.unused
  | op (op : Session.Op) {w : World σ} : Used b w → Used b (op.after b w)
  | step (s : Step) {w : World σ} : Used b w → Used b ((Run.execute b s).run w).2
  | tested (suite : Suite) (c : Case) {w : World σ} :
      Used b w → Used b ((Run.runCase b suite c).run w).2
  | suite (sel : Selection) (suite : Suite) {w : World σ} :
      Used b w → Used b ((Run.runSuite b sel suite).run w).2
  | run (stamp : Run.Stamp) (sel : Selection) (s : Scenario) {w : World σ} :
      Used b w → Used b ((Run.run b stamp sel s).run w).2

end World

theorem Backend.Alike.refl (b : Backend σ) : b.Alike (· = ·) b where
  answer := by
    rintro c s _ rfl _
    rfl
  next := by
    rintro c s _ rfl
    rfl

/-- A browser is launched only after the configuration was read. So there is nothing to release
before, and after that the table is kept. -/
theorem World.Used.shielded {w : World σ} (used : Used b w) : w.Shielded := by
  have alike := Backend.Alike.refl b
  have fill := Run.fill_agree alike
  induction used with
  | new w => exact .inr (bare_of_session_eq rfl)
  | op op _ shielded => exact (Session.op_alike alike op (inStep_over rfl shielded)).2.2
  | step s _ shielded =>
    exact ((Run.execute_agree fill s).inStep (inStep_over rfl shielded)).2.shielded
  | tested suite c _ shielded =>
    exact (Run.runCase_agree fill suite c _ _ (inStep_over rfl shielded)).2.shielded
  | suite sel suite _ shielded =>
    exact (Run.runSuite_agree fill sel suite _ _ (inStep_over rfl shielded)).2.shielded
  | @run stamp sel s w _ _ =>
    obtain ⟨_, u, _, _, quiet, _⟩ := Run.run_parts b stamp sel s w
    exact .inr (bare_of_session_eq (quiet.session.trans (Session.close_session b u)))

/-- What becomes of releases decides nothing: runs, operations of a session and single steps give the
same on both backends, with the same calls, and leave the same session. This is so from every world
that a new session comes to without a reset of the configuration, and from every other in which no failed
release can be read as the configuration. -/
theorem Run.indifferent_to_releases (alike : b.Alike R b') {w : World σ} {s' : τ}
    (related : R w.backend s') (sheltered : w.Used b ∨ w.Shielded) :
    let w' := w.over s'
    (∀ stamp sel (s : Scenario), ((run b stamp sel s).run w).1 = ((run b' stamp sel s).run w').1 ∧
      World.Alike R ((run b stamp sel s).run w).2 ((run b' stamp sel s).run w').2) ∧
    (∀ op : Session.Op, op.result b w = op.result b' w' ∧
      World.Alike R (op.after b w) (op.after b' w')) ∧
    ∀ s : Step, ((execute b s).run w).1 = ((execute b' s).run w').1 ∧
      World.Alike R ((execute b s).run w).2 ((execute b' s).run w').2 := by
  intro w'
  have shielded : w.Shielded := sheltered.elim World.Used.shielded id
  have start : InStep R .starting w w' := inStep_over related shielded
  refine ⟨fun stamp sel s => run_alike alike stamp sel s w w' start, fun op => ?_, fun s => ?_⟩
  · exact (Session.op_alike alike op start).imp id And.left
  · exact ((execute_agree (fill_agree alike) s).inStep start).imp id And.left

/-- The same backend, save that all releases fail, for this reason. -/
def Backend.stubborn (b : Backend σ) (reason : String) : Backend σ where
  answer c s :=
    let (result, s) := b.answer c s
    (if c.releases?.isSome then .error (.driver reason) else result, s)

theorem Backend.alike_stubborn (b : Backend σ) (reason : String) :
    b.Alike (· = ·) (b.stubborn reason) where
  answer := by
    rintro c s _ rfl other
    simp [stubborn, other]
  next := by
    rintro c s _ rfl
    rfl

/-- A session starts with a page that is dead, and whose release fails like all others on one side. -/
theorem Run.indifferent_to_releases_of_dead_page :
    let b := Scripted.backend
    let b' := b.stubborn "still in use"
    let w : World Scripted :=
      { backend := { openContexts := [1], openPages := [2], deadPages := [2] }
        config := .ofIni "[UI]\nbrowserType=Chromium\n", around := ⟨⟨[], []⟩, none⟩
        session := ⟨some 1, some 1, some 1, some 2⟩, issued := ⟨1, 1, 2⟩ }
    let s : Scenario := ⟨[{ id := "S1", name := "Portal", cases := [{
      id := "C1", name := "Look", steps := [
        { action := "verifySuccessfulLogin", timeoutMs := some 5 }] }] }]⟩
    let stamp : Stamp := ⟨.zero, .epoch⟩
    ((run b stamp {} s).run w).1.cases.map (·.status) = [.passed] ∧
    ((run b stamp {} s).run w).1 = ((run b' stamp {} s).run (w.over w.backend)).1 ∧
    ((run b stamp {} s).run w).2.log.length <
      ((run b' stamp {} s).run (w.over w.backend)).2.log.length ∧
    Session.Op.ensurePage.result b w = .ok none ∧
    Session.Op.ensurePage.result b' (w.over w.backend) = .ok none ∧
    World.Alike (· = ·) (Session.Op.ensurePage.after b w)
      (Session.Op.ensurePage.after b' (w.over w.backend)) := by
  intro b b' w s stamp
  have shielded : w.Shielded := .inl (World.deafTo_of_isLoaded rfl)
  obtain ⟨runs, ops, _⟩ :=
    indifferent_to_releases (b.alike_stubborn "still in use") (w := w) rfl (.inr shielded)
  refine ⟨by decide, (runs stamp {} s).1, by decide, by decide, ?_, (ops .ensurePage).2⟩
  exact (ops .ensurePage).1.symm.trans (by decide)

/-- The configuration was reset while a page is held, and is read from the log again. When the page is
released, why that failed is logged, and gives the address that the case looks up: it passes where it fails
if the release succeeds. -/
theorem Run.configured_by_failed_release :
    let b := Scripted.backend
    let b' := b.stubborn "\nbaseUrlPortal=x"
    let text := "[UI]\nbrowserType=Chromium\n"
    let held : World Scripted :=
      { backend := { openContexts := [1], openPages := [2] }
        config := ⟨some "run.log", some (Ini.ofText text)⟩
        around := ⟨⟨[], [(["run.log"], .file text.toUTF8)]⟩, none⟩
        journal := some ⟨["run.log"], .upTo .warn, .epoch⟩
        session := ⟨some 1, some 1, some 1, some 2⟩, issued := ⟨1, 1, 2⟩ }
    let w := ((World.resetConfig : Task Scripted Unit).run held).2
    let s : Scenario := ⟨[{ id := "S1", name := "Portal", cases := [{
      id := "C1", name := "Look", steps := [{ action := "navigateToLoginPage" }] }] }]⟩
    let stamp : Stamp := ⟨.zero, .epoch⟩
    b.Alike (· = ·) b' ∧
    ((run b stamp {} s).run w).1.cases.map (·.status) = [.failed] ∧
    ((run b' stamp {} s).run w).1.cases.map (·.status) = [.passed] := by
  intro b b' text held w s stamp
  let step : Step := { action := "navigateToLoginPage" }
  let c : Case := { id := "C1", name := "Look", steps := [step] }
  let suite : Suite := { id := "S1", name := "Portal", cases := [c] }
  let start : World Scripted := w.reaching suite [] c
  let begun : World Scripted :=
    { start with log := start.log ++ [⟨.caseStarted c.name, start.span⟩] }
  -- The world in which the step looks up the address.
  let asked (b : Backend Scripted) : World Scripted :=
    let v := ((Session.create b).run begun).2
    { v with log := v.log ++ [⟨.stepStarted 1 step.action step.label, v.span⟩] }
  have status (b : Backend Scripted) (created : ((Session.create b).run begun).1 = .ok ()) :
      ((run b stamp {} s).run w).1.cases.map (·.status) =
        [if ((Page.openLogin b).run (asked b)).1.isOk then .passed else .failed] := by
    have decoded : step.decode = .ok .openLoginPage := by decide
    have one := status_runCase_of_step b suite (w := start) (c := c) rfl (Prod.ext created rfl)
    rw [execute_of_decode_ok b decoded] at one
    have chosen : ({} : Selection).includesSuite suite := rfl
    have cases : suite.cases = [] ++ [c] := rfl
    rw [run_of_last b chosen cases nofun rfl]
    exact congrArg (fun status => [status]) one
  have found : w.around.disk.find "run.log" = .ok (.present ["run.log"] (.file text.toUTF8)) :=
    Disk.Single.find_file (by decide) rfl
  have missing : (asked b).portal = .error (.configMissing "no key 'baseUrlPortal' in section [UI]") := by
    refine (World.lookup_in_journal rfl rfl found "UI" "baseUrlPortal").trans ?_
    rw [Ini.ofText_append_join]
    decide +kernel
  have overheard : (asked b').portal = .ok "x" := by
    refine (World.lookup_in_journal rfl rfl found "UI" "baseUrlPortal").trans ?_
    rw [Ini.ofText_append_join]
    decide +kernel
  refine ⟨b.alike_stubborn _, ?_, ?_⟩
  · obtain ⟨u, failed, -⟩ := Page.run_openLogin_of_error (b := b) missing
    rw [status b (by decide +kernel), failed]
    rfl
  · rw [status b' (by decide +kernel), Page.run_openLogin_of_ok overheard]
    decide +kernel

end Rehearsal
