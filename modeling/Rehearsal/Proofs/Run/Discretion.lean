import Rehearsal.Proofs.Config.Reading
import Rehearsal.Proofs.Run.Agreement
import Rehearsal.Proofs.Session.History
import Rehearsal.Session.Scripted

/-!
# Configured values flow into forms only

Two configurations that have the same keys lead to the same run, save for the texts that are filled into
forms. The kind of browser and the address of the portal are no secrets, so they have to be the same.
-/
namespace Rehearsal

variable {σ : Type}

/-- The call without the text that it fills in. -/
def Call.redacted : Call → Call
  | .fill p l _ => .fill p l ""
  | c => c

/-- The exchange without the text that was filled in. -/
def Exchange.redacted : Exchange → Exchange
  | ⟨.fill p l _, r⟩ => ⟨.fill p l "", r⟩
  | x => x

theorem Exchange.result_of_redacted {c : Call} {r r' : Except Failure c.Answer}
    (h : (Exchange.mk c r).redacted = (Exchange.mk c r').redacted) : r = r' := by
  cases c <;> simpa [redacted] using h

/-- Histories that differ at most in texts filled in lead to the same answers, also to the filling in of
different texts. -/
def Backend.Oblivious (b : Backend σ) (s : σ) : Prop :=
  ∀ cs cs' c c', cs.map Call.redacted = cs'.map Call.redacted → c.redacted = c'.redacted →
    (b.exchange c (b.after cs s)).redacted = (b.exchange c' (b.after cs' s)).redacted

/-- The two tables have values for the same keys. -/
def Ini.SameKeys (t t' : Ini) : Prop :=
  ∀ name key, (t.get? name key).isSome = (t'.get? name key).isSome

/-- Which keys a table has in which section. -/
def Ini.outline (t : Ini) : List (String × List String) :=
  t.blocks.map fun (name, block) => (name, block.map (·.1))

theorem Ini.isSome_lookup_eq (block : Block) (key : String) :
    (block.lookup key).isSome = (block.map (·.1)).contains key := by
  induction block with
  | nil => rfl
  | cons entry block ih =>
    rw [List.lookup_cons, List.map_cons, List.contains_cons, ← ih]
    cases h : key == entry.1 <;> simp

theorem Ini.isSome_get?_eq (t : Ini) (name key : String) :
    (t.get? name key).isSome = ((t.outline.lookup name).any (·.contains key)) := by
  obtain ⟨blocks⟩ := t
  induction blocks with
  | nil => rfl
  | cons head blocks ih =>
    obtain ⟨first, block⟩ := head
    simp only [get?, outline, List.map_cons, List.lookup_cons] at ih ⊢
    cases h : name == first with
    | true => exact isSome_lookup_eq block key
    | false => exact ih

theorem Ini.SameKeys.of_outline {t t' : Ini} (h : t.outline = t'.outline) : t.SameKeys t' :=
  fun name key => by rw [isSome_get?_eq, isSome_get?_eq, h]

/-- Both configurations are loaded. They have the same keys, and the same browser and portal. -/
def Config.Interchangeable (c c' : Config) : Prop :=
  ∃ t t', c.table = some t ∧ c'.table = some t' ∧ t.SameKeys t' ∧
    ∀ key, key = "browserType" ∨ key = "baseUrlPortal" → t.get? uiSection key = t'.get? uiSection key

namespace World

/-- Two worlds that nobody can tell apart who does not see the texts that were filled in. -/
structure Indistinct (w w' : World σ) : Prop where
  session : w.session = w'.session
  issued : w.issued = w'.issued
  waitedMs : w.waitedMs = w'.waitedMs
  span : w.span = w'.span
  log : w.log = w'.log
  trace : w.trace.map Exchange.redacted = w'.trace.map Exchange.redacted

/-- The worlds are indistinct and will be. -/
structure Confined (b : Backend σ) (s : σ) (w w' : World σ) : Prop extends Indistinct w w' where
  config : w.config.Interchangeable w'.config
  told : ∃ cs cs', w.backend = b.after cs s ∧ w'.backend = b.after cs' s ∧
    cs.map Call.redacted = cs'.map Call.redacted

end World

theorem Config.value_of_sameKeys {t t' : Ini} (same : t.SameKeys t') (name key : String) :
    (∃ v v', value t name key = .ok v ∧ value t' name key = .ok v') ∨
      ∃ f, value t name key = .error f ∧ value t' name key = .error f := by
  have there := same name key
  unfold value
  cases h : t.get? name key with
  | none =>
    cases h' : t'.get? name key with
    | none => exact .inr ⟨_, rfl, rfl⟩
    | some v' => simp [h, h'] at there
  | some v =>
    cases h' : t'.get? name key with
    | none => simp [h, h'] at there
    | some v' => exact .inl ⟨v, v', rfl, rfl⟩

namespace World.Confined

variable {b : Backend σ} {s : σ} {w w' : World σ}

/-- The same is asked, up to what is filled in. -/
theorem asked (oblivious : b.Oblivious s) (h : Confined b s w w') {c c' : Call}
    (same : c.redacted = c'.redacted) :
    (b.exchange c w.backend).redacted = (b.exchange c' w'.backend).redacted ∧
      Confined b s ((Act.ask b c).run w).2 ((Act.ask b c').run w').2 := by
  obtain ⟨cs, cs', here, there, calls⟩ := h.told
  have answers : (b.exchange c w.backend).redacted = (b.exchange c' w'.backend).redacted := by
    rw [here, there]
    exact oblivious cs cs' c c' calls same
  refine ⟨answers, { h with trace := ?_, told := ⟨cs ++ [c], cs' ++ [c'], ?_, ?_, ?_⟩ }⟩
  · rw [Act.run_ask, Act.run_ask, List.map_append, List.map_append, h.trace]
    exact congrArg (_ ++ [·]) answers
  · rw [b.after_concat, ← here]
    rfl
  · rw [b.after_concat, ← there]
    rfl
  · simp [calls, same]

end World.Confined

open World in
/-- All that operations consist of keeps worlds indistinct. -/
def Backend.Oblivious.bond {b : Backend σ} {s : σ} (oblivious : b.Oblivious s) : Bond b b where
  Rel := Confined b s
  session start := start.session
  issued start := start.issued
  waitedMs start := start.waitedMs
  span start := start.span
  say e start := { start with log := by rw [start.log, start.span] }
  inSpan s start := { start with span := rfl }
  sleep ms start := { start with waitedMs := congrArg (· + ms) start.waitedMs }
  number f start := { start with issued := congrArg f start.issued }
  layers f start := { start with session := congrArg f start.session }
  ask q := by
    refine .of_attempt fun w w' start => ?_
    obtain ⟨answers, final⟩ := start.asked oblivious (c := q) rfl
    exact ⟨Exchange.result_of_redacted answers, final⟩
  lookupUi {key} shown := by
    refine .of_attempt fun w w' start => ?_
    obtain ⟨t, t', here, there, _, same⟩ := start.config
    have value : Config.value t Config.uiSection key = Config.value t' Config.uiSection key := by
      rw [Config.value, Config.value, same key shown]
    rw [Act.run_attempt, Act.run_attempt, Act.lookupUi, Act.run_lookup_of_table here,
      Act.run_lookup_of_table there]
    exact ⟨value, start⟩

namespace Run

variable {b : Backend σ} {s : σ} (oblivious : b.Oblivious s)

/-- Different texts are filled in with the same result. -/
theorem fillField_confined (l : Locator) (text text' : String) :
    oblivious.bond.coupling.Agree .starting .starting (Page.fillField b l text)
      (Page.fillField b l text') := by
  refine Session.current_bind_agree _ fun p => (Page.resolveOne_agree _ p l).bind fun _ => ?_
  refine Act.Agree.mapFailure (.of_attempt fun w w' start => ?_) _
  have same : (Call.fill p l text).redacted = (Call.fill p l text').redacted := rfl
  obtain ⟨answers, final⟩ := World.Confined.asked oblivious start same
  exact ⟨Exchange.result_of_redacted (c := .fill p l "") answers, final⟩

theorem fill_confined : FillAgree oblivious.bond.coupling := by
  intro source l
  cases source with
  | literal text => exact fillField_confined oblivious l text text
  | configured name key =>
    intro w w' start
    obtain ⟨t, t', here, there, same, _⟩ := World.Confined.config start
    have found := Act.run_lookup_of_table here name key
    have found' := Act.run_lookup_of_table there name key
    rcases Config.value_of_sameKeys same name key with ⟨v, v', hv, hv'⟩ | ⟨f, hf, hf'⟩
    · rw [hv] at found
      rw [hv'] at found'
      rw [resolve, Act.run_bind_of_ok found, Act.run_bind_of_ok found']
      exact fillField_confined oblivious l v v' w w' start
    · rw [resolve, Act.run_bind, Act.run_bind, found, found', hf, hf']
      exact ⟨rfl, start⟩

/-- Whoever does not see the forms learns nothing of the values in a configuration but the kind of
browser and the address of the portal: runs and single steps give the same with every other
configuration that has the same keys, with the same log, the same session and, up to the texts that are
filled in, the same calls. -/
theorem confined_to_forms {w : World σ} (oblivious : b.Oblivious w.backend) {c : Config}
    (same : w.config.Interchangeable c) :
    let w' : World σ := { w with config := c }
    (∀ stamp sel (s : Scenario), ((run b stamp sel s).run w).1 = ((run b stamp sel s).run w').1 ∧
      ((run b stamp sel s).run w).2.Indistinct ((run b stamp sel s).run w').2) ∧
    ∀ s : Step, ((execute b s).run w).1 = ((execute b s).run w').1 ∧
      ((execute b s).run w).2.Indistinct ((execute b s).run w').2 := by
  intro w'
  have start : World.Confined b w.backend w w' :=
    ⟨⟨rfl, rfl, rfl, rfl, rfl, rfl⟩, same, [], [], rfl, rfl, rfl⟩
  have fill := fill_confined oblivious
  refine ⟨fun stamp sel s => ?_, fun s => ?_⟩
  · exact (run_agree _ stamp (runSuites_agree fill sel s.suites) w w' start).imp id
      World.Confined.toIndistinct
  · exact ((execute_agree fill s).attempt (fun _ _ => id) w w' start).imp id
      World.Confined.toIndistinct

end Run

/-- A scripted backend does not look at what is filled in. -/
theorem Scripted.oblivious (s : Scripted) : backend.Oblivious s := by
  have next (c : Call) (s : Scripted) : (backend.answer c s).2 = (backend.answer c.redacted s).2 := by
    cases c <;> rfl
  have answer (c : Call) (s : Scripted) :
      (backend.exchange c s).redacted = (backend.exchange c.redacted s).redacted := by
    cases c <;> rfl
  have after (cs : List Call) (s : Scripted) :
      backend.after cs s = backend.after (cs.map Call.redacted) s := by
    induction cs generalizing s with
    | nil => rfl
    | cons c cs ih =>
      change backend.after cs (backend.answer c s).2 =
        backend.after (cs.map Call.redacted) (backend.answer c.redacted s).2
      rw [ih, next]
  intro cs cs' c c' calls same
  rw [answer c, answer c', after cs, after cs', calls, same]

/-- Two users log in, and only the forms know who it was. -/
theorem Run.confined_to_forms_of_logIn :
    let b := Scripted.backend
    let texts := [("css=#username", [""]), ("css=#password", [""]), ("xpath=//button", ["Go"])]
    let w : World Scripted :=
      { backend := { texts }, around := ⟨⟨[], []⟩, none⟩
        config := .ofIni "[UI]\nbrowserType=Chromium\nbaseUrlPortal=x\nemail=ann\npassword=a b\n" }
    let c : Config := .ofIni "[UI]\nbrowserType=Chromium\nbaseUrlPortal=x\nemail=bob\npassword=\n"
    let s : Scenario := ⟨[{ id := "S1", name := "Portal", cases := [
      { id := "C1", name := "Log in", steps := [{ action := "logIn" }] }] }]⟩
    let stamp : Stamp := ⟨.zero, .epoch⟩
    let r := (run b stamp {} s).run w
    let r' := (run b stamp {} s).run { w with config := c }
    b.Oblivious w.backend ∧ w.config.Interchangeable c ∧ r.1.cases.map (·.status) = [.passed] ∧
      r.1 = r'.1 ∧ r.2.Indistinct r'.2 ∧ r.2.trace.map (·.call) ≠ r'.2.trace.map (·.call) := by
  intro b texts w c s stamp r r'
  have oblivious : b.Oblivious w.backend := Scripted.oblivious w.backend
  have interchangeable : w.config.Interchangeable c := by
    refine ⟨_, _, rfl, rfl, ?_, ?_⟩
    · exact .of_outline (by decide)
    · rintro key (rfl | rfl) <;> decide
  obtain ⟨same, indistinct⟩ := (confined_to_forms oblivious interchangeable).1 stamp {} s
  exact ⟨oblivious, interchangeable, by decide, same, indistinct, by decide⟩

end Rehearsal
