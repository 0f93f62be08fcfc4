import Rehearsal.Proofs.Agreement
import Rehearsal.Proofs.Session.Teardown

/-!
# Sessions that agree

Two sessions on different backends go through the same operations. What it takes for them to agree is
collected once, in a coupling of their worlds: it outlasts every step that an operation consists of.
The look-up that comes before the launch of a browser may strengthen what the worlds have in common,
and releases may count on that.
-/
namespace Rehearsal

variable {σ τ α β : Type}

/-- How far a session has come: `settled` if it holds anything but an engine. -/
inductive Phase
  | starting
  | settled
deriving DecidableEq, Repr

/-- Relations between the worlds of two sessions, one for each phase, that all parts of operations
keep. -/
structure Coupling (b : Backend σ) (b' : Backend τ) where
  Rel : Phase → World σ → World τ → Prop
  starting {w : World σ} {w' : World τ} : Rel .settled w w' → Rel .starting w w'
  settled {w : World σ} {w' : World τ} {l : Layer} {n : Nat} : Rel .starting w w' →
    w.session.slot l = some n → l ≠ .engine → Rel .settled w w'
  session {k : Phase} {w : World σ} {w' : World τ} : Rel k w w' → w.session = w'.session
  issued {k : Phase} {w : World σ} {w' : World τ} : Rel k w w' → w.issued = w'.issued
  waitedMs {k : Phase} {w : World σ} {w' : World τ} : Rel k w w' → w.waitedMs = w'.waitedMs
  span {k : Phase} {w : World σ} {w' : World τ} : Rel k w w' → w.span = w'.span
  say {k : Phase} {w : World σ} {w' : World τ} (e : Log.Event) : Rel k w w' →
    Rel k { w with log := w.log ++ [⟨e, w.span⟩] } { w' with log := w'.log ++ [⟨e, w'.span⟩] }
  inSpan {k : Phase} {w : World σ} {w' : World τ} (s : Option Log.Span) : Rel k w w' →
    Rel k { w with span := s } { w' with span := s }
  sleep {k : Phase} {w : World σ} {w' : World τ} (ms : Nat) : Rel k w w' →
    Rel k { w with waitedMs := w.waitedMs + ms } { w' with waitedMs := w'.waitedMs + ms }
  number {k : Phase} {w : World σ} {w' : World τ} (f : Issued → Issued) : Rel k w w' →
    Rel k { w with issued := f w.issued } { w' with issued := f w'.issued }
  engine {k : Phase} {w : World σ} {w' : World τ} (n : Nat) : Rel k w w' →
    Rel k { w with session := { w.session with engine := some n } }
      { w' with session := { w'.session with engine := some n } }
  layers {w : World σ} {w' : World τ} (f : Session → Session) : Rel .settled w w' →
    Rel .settled { w with session := f w.session } { w' with session := f w'.session }
  ask (k : Phase) {q : Call} : q.releases? = none →
    (Act.ask b q).Agree (Rel k) (Rel k) (Rel k) (Act.ask b' q)
  release (name : String) (h : Handle) : (Session.release b name h.closing).Agree (Rel .settled)
    (Rel .settled) (Session.release b' name h.closing)
  lookupUi {key : String} : key = "browserType" ∨ key = "baseUrlPortal" →
    (Act.lookupUi key : Act σ String).Agree (Rel .starting) (Rel .starting) (Rel .settled)
      (Act.lookupUi key)

/-- A relation between the worlds of two sessions that all parts of operations keep, whatever the
session holds. -/
structure Bond (b : Backend σ) (b' : Backend τ) where
  Rel : World σ → World τ → Prop
  session {w : World σ} {w' : World τ} : Rel w w' → w.session = w'.session
  issued {w : World σ} {w' : World τ} : Rel w w' → w.issued = w'.issued
  waitedMs {w : World σ} {w' : World τ} : Rel w w' → w.waitedMs = w'.waitedMs
  span {w : World σ} {w' : World τ} : Rel w w' → w.span = w'.span
  say {w : World σ} {w' : World τ} (e : Log.Event) : Rel w w' →
    Rel { w with log := w.log ++ [⟨e, w.span⟩] } { w' with log := w'.log ++ [⟨e, w'.span⟩] }
  inSpan {w : World σ} {w' : World τ} (s : Option Log.Span) : Rel w w' →
    Rel { w with span := s } { w' with span := s }
  sleep {w : World σ} {w' : World τ} (ms : Nat) : Rel w w' →
    Rel { w with waitedMs := w.waitedMs + ms } { w' with waitedMs := w'.waitedMs + ms }
  number {w : World σ} {w' : World τ} (f : Issued → Issued) : Rel w w' →
    Rel { w with issued := f w.issued } { w' with issued := f w'.issued }
  layers {w : World σ} {w' : World τ} (f : Session → Session) : Rel w w' →
    Rel { w with session := f w.session } { w' with session := f w'.session }
  ask (q : Call) : (Act.ask b q).Agree Rel Rel Rel (Act.ask b' q)
  lookupUi {key : String} : key = "browserType" ∨ key = "baseUrlPortal" →
    (Act.lookupUi key : Act σ String).Agree Rel Rel Rel (Act.lookupUi key)

/-- Releases agree like all other calls. -/
def Bond.coupling {b : Backend σ} {b' : Backend τ} (bond : Bond b b') : Coupling b b' where
  Rel _ := bond.Rel
  starting := id
  settled start _ _ := start
  session := bond.session
  issued := bond.issued
  waitedMs := bond.waitedMs
  span := bond.span
  say := bond.say
  inSpan := bond.inSpan
  sleep := bond.sleep
  number := bond.number
  engine n := bond.layers fun s => { s with engine := some n }
  layers := bond.layers
  ask _ q _ := bond.ask q
  release name h := by
    refine ((bond.ask h.closing).attempt fun _ _ => id).bind fun r => ?_
    cases r with
    | ok _ => exact .of_pure ()
    | error f => exact fun _ _ start => ⟨rfl, bond.say _ start⟩
  lookupUi := bond.lookupUi

namespace Coupling

variable {b : Backend σ} {b' : Backend τ} (pair : Coupling b b')

theorem to_starting {k : Phase} {w : World σ} {w' : World τ} (h : pair.Rel k w w') :
    pair.Rel .starting w w' := by
  cases k with
  | starting => exact h
  | settled => exact pair.starting h

/-- Computations that agree from one phase to another, and keep the weaker relation if they fail. -/
abbrev Agree (k l : Phase) (m : Act σ α) (m' : Act τ α) : Prop :=
  m.Agree (pair.Rel .starting) (pair.Rel k) (pair.Rel l) m'

/-- What follows may count on the layers being those that were looked at. -/
theorem layers_bind {k : Phase} {Q : World σ → World τ → Prop} {f : Session → Act σ α}
    {f' : Session → Act τ α} (h : ∀ s, (f s).Agree (pair.Rel .starting)
      (fun w w' => pair.Rel k w w' ∧ w.session = s) Q (f' s)) :
    (World.layers >>= f).Agree (pair.Rel .starting) (pair.Rel k) Q (World.layers >>= f') := by
  intro w w' start
  rw [Act.run_bind_of_ok (Act.run_layers w), Act.run_bind_of_ok (Act.run_layers w'),
    ← pair.session start]
  exact h w.session w w' ⟨start, rfl⟩

theorem layers_agree (k : Phase) : pair.Agree k k World.layers World.layers :=
  fun _ _ start => ⟨congrArg Except.ok (pair.session start), start⟩

theorem numbers_agree (k : Phase) : pair.Agree k k World.numbers World.numbers :=
  fun _ _ start => ⟨congrArg Except.ok (pair.issued start), start⟩

theorem say_agree (k : Phase) (e : Log.Event) : pair.Agree k k (World.say e) (World.say e) :=
  fun _ _ start => ⟨rfl, pair.say e start⟩

theorem setNumbers_agree (k : Phase) (f : Issued → Issued) :
    pair.Agree k k (World.setNumbers f) (World.setNumbers f) :=
  fun _ _ start => ⟨rfl, pair.number f start⟩

theorem setLayers_agree (f : Session → Session) :
    pair.Agree .settled .settled (World.setLayers f) (World.setLayers f) :=
  fun _ _ start => ⟨rfl, pair.layers f start⟩

theorem ask_agree (k : Phase) {q : Call} (h : q.releases? = none) :
    pair.Agree k k (Act.ask b q) (Act.ask b' q) :=
  (pair.ask k h).weaken fun _ _ => pair.to_starting

end Coupling

namespace Session

variable {b : Backend σ} {b' : Backend τ} (pair : Coupling b b')

theorem held_agree (k : Phase) (layer : String) (handle : Option Nat) :
    pair.Agree k k (held layer handle) (held layer handle) := by
  cases handle with
  | none => exact .of_fail _ fun _ _ => pair.to_starting
  | some n => exact .of_pure n fun _ _ => id

theorem ensureEngine_agree (k : Phase) : pair.Agree k k (ensureEngine b) (ensureEngine b') := by
  refine (pair.layers_agree k).bind fun s => ?_
  split
  · exact .of_pure () fun _ _ => id
  · refine (pair.say_agree k _).bind fun _ => (pair.numbers_agree k).bind fun i => ?_
    refine ((pair.ask_agree k rfl).mapFailure notAcquired).bind fun _ => ?_
    refine (pair.setNumbers_agree k _).bind fun _ => ?_
    exact fun w w' start => ⟨rfl, pair.engine _ start⟩

theorem ensureBrowser_agree : pair.Agree .starting .settled (ensureBrowser b) (ensureBrowser b') := by
  refine pair.layers_bind fun s => ?_
  split
  · rename_i there
    obtain ⟨n, held⟩ := Option.isSome_iff_exists.mp there
    refine .of_pure () ?_
    rintro w w' ⟨start, rfl⟩
    exact pair.settled (l := .browser) start held (by decide)
  · refine Act.Agree.mono ?_ (fun _ _ start => And.left start) fun _ _ => id
    refine (ensureEngine_agree pair .starting).bind fun _ => ?_
    refine (pair.lookupUi (.inl rfl)).bind fun name => ?_
    refine (Act.Agree.of_ofExcept _ fun _ _ => pair.starting).bind fun kind => ?_
    refine (pair.layers_agree _).bind fun s => (held_agree pair _ _ _).bind fun engine => ?_
    refine (pair.numbers_agree _).bind fun i => ?_
    refine ((pair.ask_agree _ rfl).mapFailure notAcquired).bind fun _ => ?_
    refine (pair.say_agree _ _).bind fun _ => (pair.setNumbers_agree _ _).bind fun _ => ?_
    exact pair.setLayers_agree _

theorem ensureContext_agree : pair.Agree .starting .settled (ensureContext b) (ensureContext b') := by
  refine pair.layers_bind fun s => ?_
  split
  · rename_i there
    obtain ⟨n, held⟩ := Option.isSome_iff_exists.mp there
    refine .of_pure () ?_
    rintro w w' ⟨start, rfl⟩
    exact pair.settled (l := .context) start held (by decide)
  · refine Act.Agree.mono ?_ (fun _ _ start => And.left start) fun _ _ => id
    refine (ensureBrowser_agree pair).bind fun _ => ?_
    refine (pair.layers_agree _).bind fun s => (held_agree pair _ _ _).bind fun browser => ?_
    refine (pair.numbers_agree _).bind fun i => ?_
    refine ((pair.ask_agree _ rfl).mapFailure notAcquired).bind fun _ => ?_
    refine (pair.setNumbers_agree _ _).bind fun _ => (pair.setLayers_agree _).bind fun _ => ?_
    exact pair.say_agree _ _

/-- A page is opened in the context, which is acquired first. -/
def openPage (b : Backend σ) : Act σ Unit := do
  ensureContext b
  let context ← held "context" (← World.layers).context
  let n := (← World.numbers).tab + 1
  (Act.ask b (.openPage context n)).mapFailure notAcquired
  World.setNumbers fun i => { i with tab := n }
  World.setLayers fun s => { s with page := some n }
  World.say .pageOpened

theorem ensurePage_eq (b : Backend σ) : ensurePage b = (do
    if ← pageAnswers b then return
    dropPage b
    openPage b) := rfl

theorem run_ensurePage_of_none (b : Backend σ) {w : World σ} (h : w.session.page = none) :
    (ensurePage b).run w = (openPage b).run w := by
  have answers : (pageAnswers b).run w = (false, w) := by
    rw [pageAnswers, Task.run_bind, Task.run_layers, h]
    rfl
  have drop : (dropPage b).run w = ((), w) := by
    rw [dropPage, Task.run_bind, Task.run_layers, h]
    rfl
  rw [ensurePage_eq, Act.run_bind, Act.run_liftM, answers]
  change (liftM (dropPage b) >>= fun _ => openPage b).run w = _
  rw [Act.run_bind, Act.run_liftM, drop]

theorem openPage_agree : pair.Agree .starting .settled (openPage b) (openPage b') := by
  refine (ensureContext_agree pair).bind fun _ => ?_
  refine (pair.layers_agree _).bind fun s => (held_agree pair _ _ _).bind fun context => ?_
  refine (pair.numbers_agree _).bind fun i => ?_
  refine ((pair.ask_agree _ rfl).mapFailure notAcquired).bind fun _ => ?_
  refine (pair.setNumbers_agree _ _).bind fun _ => (pair.setLayers_agree _).bind fun _ => ?_
  exact pair.say_agree _ _

/-- The releases of one layer agree, whatever comes of them. -/
theorem surrender_agree (name : String) (l : Layer) :
    (surrender b name l).Agree (pair.Rel .settled) (pair.Rel .settled) (surrender b' name l) := by
  intro w w' start
  have same := pair.session start
  cases h : w.session.slot l with
  | none =>
    rw [run_surrender_of_none b name h, run_surrender_of_none b' name (same ▸ h)]
    exact ⟨rfl, start⟩
  | some n =>
    rw [run_surrender_of_some b name h, run_surrender_of_some b' name (same ▸ h)]
    exact pair.release name ⟨l, n⟩ _ _ (pair.layers (·.put l none) start)

theorem surrender_agree_starting (name : String) {l : Layer} (above : l ≠ .engine) :
    (surrender b name l).Agree (pair.Rel .starting) (pair.Rel .starting) (surrender b' name l) := by
  intro w w' start
  cases h : w.session.slot l with
  | none =>
    rw [run_surrender_of_none b name h, run_surrender_of_none b' name (pair.session start ▸ h)]
    exact ⟨rfl, start⟩
  | some n =>
    obtain ⟨same, final⟩ := surrender_agree pair name l w w' (pair.settled start h above)
    exact ⟨same, pair.starting final⟩

theorem finish_agree : (finish b).Agree (pair.Rel .starting) (pair.Rel .starting) (finish b') := by
  rw [finish_eq, finish_eq]
  exact (surrender_agree_starting pair "page" (by decide)).bind fun _ =>
    surrender_agree_starting pair "context" (by decide)

theorem close_agree : (close b).Agree (pair.Rel .settled) (pair.Rel .settled) (close b') := by
  rw [close_eq, close_eq, finish_eq, finish_eq]
  refine Task.Agree.bind ((surrender_agree pair _ _).bind fun _ => surrender_agree pair _ _) ?_
  exact fun _ => (surrender_agree pair _ _).bind fun _ => surrender_agree pair _ _

theorem pageAnswers_agree : (pageAnswers b).Agree (pair.Rel .settled) (pair.Rel .settled)
    (pageAnswers b') := by
  intro w w' start
  rw [pageAnswers, pageAnswers, Task.run_bind, Task.run_bind, Task.run_layers, Task.run_layers,
    ← pair.session start]
  cases w.session.page with
  | none => exact ⟨rfl, start⟩
  | some p =>
    have asked := (pair.ask .settled (q := .title p) rfl).attempt fun _ _ => id
    exact asked.bind (fun r => .of_pure r.isOk) w w' start

theorem dropPage_agree : (dropPage b).Agree (pair.Rel .settled) (pair.Rel .settled) (dropPage b') := by
  intro w w' start
  rw [dropPage, dropPage, Task.run_bind, Task.run_bind, Task.run_layers, Task.run_layers,
    ← pair.session start]
  cases w.session.page with
  | none => exact ⟨rfl, start⟩
  | some p =>
    have cleared := pair.say .pageUnresponsive (pair.layers (fun s => { s with page := none }) start)
    exact pair.release "page" ⟨.page, p⟩ _ _ cleared

/-- A page that is there may have to be released, but then the session is settled. -/
theorem ensurePage_agree : pair.Agree .starting .settled (ensurePage b) (ensurePage b') := by
  intro w w' start
  cases h : w.session.page with
  | none =>
    rw [run_ensurePage_of_none b h, run_ensurePage_of_none b' (pair.session start ▸ h)]
    exact openPage_agree pair w w' start
  | some p =>
    have settled : pair.Rel .settled w w' := pair.settled (l := .page) start h (by decide)
    suffices pair.Agree .settled .settled (ensurePage b) (ensurePage b') from this w w' settled
    rw [ensurePage_eq, ensurePage_eq]
    refine (pageAnswers_agree pair).lift.bind fun alive => ?_
    cases alive with
    | true => exact .of_pure () fun _ _ => id
    | false =>
      refine (dropPage_agree pair).lift.bind fun _ => ?_
      exact (openPage_agree pair).mono (fun _ _ => pair.starting) fun _ _ => id

theorem current_agree : pair.Agree .starting .settled (current b) (current b') :=
  (ensurePage_agree pair).bind fun _ => (pair.layers_agree _).bind fun _ => held_agree pair _ _ _

theorem create_agree : pair.Agree .starting .settled (create b) (create b') :=
  (finish_agree pair).lift.bind fun _ => ensurePage_agree pair

end Session

end Rehearsal
