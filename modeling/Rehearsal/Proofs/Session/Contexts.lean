import Mathlib.Logic.Function.Basic
import Rehearsal.Proofs.Session.History
import Rehearsal.Proofs.Session.Nesting
import Rehearsal.Proofs.Session.Tandem

/-!
# Contexts that are kept apart

What went through a context is read off the calls that were made: those on the context and on its pages
since it was opened. Handles are given out anew by each session, so a page is known by when it was opened
in its context. A backend keeps contexts apart if nothing else decides what it answers to visits.
-/
namespace Rehearsal

variable {σ : Type}

/-- The call on a page of another number. -/
def Call.onPage (n : Nat) : Call → Call
  | .title _ => .title n
  | .url _ => .url n
  | .goto _ address => .goto n address
  | .ready _ timeoutMs => .ready n timeoutMs
  | .texts _ l => .texts n l
  | .click _ l => .click n l
  | .fill _ l text => .fill n l text
  | .closePage _ => .closePage n
  | c => c

/-- What is known of contexts and pages from the calls up to now. -/
structure Register where
  /-- The calls through a context since it was opened. -/
  through : Nat → Option (List Call)
  /-- The context of a page, and how many calls had gone through it when the page was opened. -/
  place : Nat → Option (Nat × Nat)

namespace Register

def empty : Register := ⟨fun _ => none, fun _ => none⟩

/-- A call goes through a context. -/
def add (r : Register) (c : Nat) (q : Call) : Register :=
  { r with through := Function.update r.through c ((r.through c).map (· ++ [q])) }

/-- A context that is opened under an old number is another context. None outlives its browser. -/
def note (r : Register) : Call → Register
  | .openContext _ c => ⟨Function.update r.through c (some []), fun p => (r.place p).filter (·.1 ≠ c)⟩
  | .openPage c p =>
    let before := ((r.through c).getD []).length
    { r.add c (.openPage 0 before) with place := Function.update r.place p (some (c, before)) }
  | .closeContext c => r.add c (.closeContext 0)
  | .closeBrowser _ | .stopEngine _ => empty
  | q => match q.on? with
    | some ⟨.page, p⟩ => (r.place p).elim r fun (c, n) => r.add c (q.onPage n)
    | _ => r

def ofCalls (cs : List Call) : Register := cs.foldl note empty

theorem ofCalls_concat (cs : List Call) (q : Call) : ofCalls (cs ++ [q]) = (ofCalls cs).note q := by
  rw [ofCalls, List.foldl_append]
  rfl

/-- What went through the context of a page, and when the page was opened. -/
def seen (r : Register) (p : Nat) : Option (List Call × Nat) := do
  let (c, n) ← r.place p
  return (← r.through c, n)

variable {r : Register} {c n p : Nat} {x : List Call}

theorem note_of_on_page {q : Call} (on : q.on? = some ⟨.page, p⟩) (place : r.place p = some (c, n)) :
    r.note q = r.add c (q.onPage n) := by
  cases q <;> simp_all [note, Call.on?]

theorem through_add (h : r.through c = some x) (q : Call) : (r.add c q).through c = some (x ++ [q]) := by
  simp [add, h]

theorem seen_eq (place : r.place p = some (c, n)) (through : r.through c = some x) :
    r.seen p = some (x, n) := by
  simp [seen, place, through]

end Register

namespace Backend

/-- What a page answers hangs on the calls through its own context only. The address that it is at counts
if it may be asked for; of its title it only counts whether there is one. -/
structure Isolates (b : Backend σ) (s : σ) (urls : Prop) : Prop where
  visit {α : Type} (v : Visit α) : (v.ReadsUrl → urls) → ∀ cs cs' p p' x,
    (Register.ofCalls cs).seen p = some x → (Register.ofCalls cs').seen p' = some x →
      v.answer b p (b.after cs s) = v.answer b p' (b.after cs' s)
  title : ∀ cs cs' p p' x,
    (Register.ofCalls cs).seen p = some x → (Register.ofCalls cs').seen p' = some x →
      (b.answer (.title p) (b.after cs s)).1.isOk = (b.answer (.title p') (b.after cs' s)).1.isOk

/-- Every layer that is asked for is opened. -/
def Provides (b : Backend σ) (s : σ) : Prop :=
  ∀ cs (q : Call), q.opens?.isSome → (b.answer q (b.after cs s)).1.isOk

end Backend

/-- The kind of browser that a configuration asks for. -/
def Config.browserKind (t : Ini) : Except Failure BrowserKind :=
  (value t uiSection "browserType").bind BrowserKind.ofName

namespace World

variable (b : Backend σ) (s : σ) (t : Ini)

/-- A runner with the configuration in memory. A browser that it has was launched with that. -/
structure Ready (w : World σ) : Prop where
  config : w.config.table = some t
  told : ∃ cs, w.backend = b.after cs s
  kind : w.session.browser.isSome → ∃ kind, Config.browserKind t = .ok kind

/-- It has a context, through which these calls went. -/
structure InContext (x : List Call) (w : World σ) : Prop where
  config : w.config.table = some t
  kind : ∃ kind, Config.browserKind t = .ok kind
  told : ∃ cs c, w.backend = b.after cs s ∧ w.session.context = some c ∧
    (Register.ofCalls cs).through c = some x

/-- It has a page in the context, which was opened after so many of them. -/
structure OnPage (x : List Call) (n p : Nat) (w : World σ) : Prop where
  config : w.config.table = some t
  kind : ∃ kind, Config.browserKind t = .ok kind
  page : w.session.page = some p
  told : ∃ cs c, w.backend = b.after cs s ∧ w.session.context = some c ∧
    (Register.ofCalls cs).through c = some x ∧ (Register.ofCalls cs).place p = some (c, n)

variable {b s t} {w : World σ} {x : List Call} {n p : Nat}

theorem ready_unused {w : World σ} (config : w.config.table = some t) {cs : List Call}
    (told : w.backend = b.after cs s) : w.unused.Ready b s t :=
  ⟨config, ⟨cs, told⟩, nofun⟩

theorem InContext.ready (h : w.InContext b s t x) : w.Ready b s t := by
  obtain ⟨cs, _, told, _⟩ := h.told
  exact ⟨h.config, ⟨cs, told⟩, fun _ => h.kind⟩

theorem OnPage.seen (h : w.OnPage b s t x n p) :
    ∃ cs, w.backend = b.after cs s ∧ (Register.ofCalls cs).seen p = some (x, n) := by
  obtain ⟨cs, _, told, _, through, place⟩ := h.told
  exact ⟨cs, told, Register.seen_eq place through⟩

theorem OnPage.inContext (h : w.OnPage b s t x n p) : w.InContext b s t x := by
  obtain ⟨cs, c, told, context, through, _⟩ := h.told
  exact ⟨h.config, h.kind, cs, c, told, context, through⟩

theorem Ready.asked (h : w.Ready b s t) (q : Call) : ((Act.ask b q).run w).2.Ready b s t := by
  obtain ⟨cs, told⟩ := h.told
  refine { h with told := ⟨cs ++ [q], ?_⟩ }
  rw [b.after_concat, ← told]
  rfl

theorem OnPage.asked (h : w.OnPage b s t x n p) {q : Call} (on : q.on? = some ⟨.page, p⟩) :
    ((Act.ask b q).run w).2.OnPage b s t (x ++ [q.onPage n]) n p := by
  obtain ⟨cs, c, told, context, through, place⟩ := h.told
  refine { h with told := ⟨cs ++ [q], c, ?_, context, ?_, ?_⟩ }
  · rw [b.after_concat, ← told]
    rfl
  · rw [Register.ofCalls_concat, Register.note_of_on_page on place, Register.through_add through]
  · rw [Register.ofCalls_concat, Register.note_of_on_page on place]
    exact place

end World

namespace Session

open World

variable {b : Backend σ} {s : σ} {t : Ini} {w : World σ} {x : List Call} {n p : Nat}

/-- A layer that is asked for is opened, so what follows is done. -/
theorem run_acquire (provides : b.Provides s) (told : ∃ cs, w.backend = b.after cs s) {q : Call}
    (opens : q.opens?.isSome) : ∃ a, ((Act.ask b q).mapFailure notAcquired).run w =
      (.ok a, ((Act.ask b q).run w).2) := by
  obtain ⟨cs, told⟩ := told
  have ok := provides cs q opens
  rw [← told] at ok
  rw [Act.run_mapFailure, Act.run_ask]
  cases answer : (b.answer q w.backend).1 with
  | ok a => exact ⟨a, rfl⟩
  | error f => simp [answer, Except.isOk, Except.toBool] at ok

theorem run_browserKind (config : w.config.table = some t) {α : Type} (f : BrowserKind → Act σ α) :
    (Act.lookupUi "browserType" >>= fun name => Act.ofExcept (BrowserKind.ofName name) >>= f).run w =
      (Act.ofExcept (Config.browserKind t) >>= f).run w := by
  have found : (Act.lookupUi "browserType").run w = (Config.value t Config.uiSection "browserType", w) :=
    Act.run_lookup_of_table config _ _
  rw [Config.browserKind]
  generalize Config.value t Config.uiSection "browserType" = r at found
  generalize BrowserKind.ofName = parse
  rw [Act.run_bind, found]
  cases r with
  | ok name => rfl
  | error f => rfl

/-- What is acquired below a context leaves the runner ready and the layers above as they are. -/
theorem run_ensureEngine (provides : b.Provides s) (ready : w.Ready b s t) :
    ∃ v n, (ensureEngine b).run w = (.ok (), v) ∧ v.Ready b s t ∧
      v.session = { w.session with engine := some n } ∧ v.waitedMs = w.waitedMs := by
  rw [ensureEngine, Act.run_bind_of_ok (Act.run_layers w)]
  cases there : w.session.engine with
  | some n =>
    refine ⟨w, n, rfl, ready, ?_, rfl⟩
    rw [← there]
  | none =>
    let u : World σ := { w with log := w.log ++ [⟨.engineStarting, w.span⟩] }
    have asked : u.Ready b s t := { ready with }
    let q : Call := .startEngine (u.issued.engine + 1)
    obtain ⟨a, acquired⟩ := run_acquire provides asked.told (q := q) rfl
    have told := (asked.asked q).told
    rw [if_neg (by simp), Act.run_bind_of_ok (Act.run_say _ w), Act.run_bind_of_ok (Act.run_numbers _),
      Act.run_bind_of_ok acquired, Act.run_bind_of_ok (Act.run_setNumbers _ _)]
    exact ⟨_, _, rfl, { ready with told }, rfl, rfl⟩

/-- The browser is of the kind that the configuration asks for; there is none if it asks for none. -/
theorem run_ensureBrowser (provides : b.Provides s) (ready : w.Ready b s t) :
    (∃ f v, (ensureBrowser b).run w = (.error f, v) ∧ Config.browserKind t = .error f ∧
      v.Ready b s t ∧ v.waitedMs = w.waitedMs) ∨
    ∃ v n, (ensureBrowser b).run w = (.ok (), v) ∧ v.Ready b s t ∧ v.session.browser = some n ∧
      v.waitedMs = w.waitedMs := by
  rw [ensureBrowser, Act.run_bind_of_ok (Act.run_layers w)]
  cases there : w.session.browser with
  | some n => exact .inr ⟨w, n, rfl, ready, there, rfl⟩
  | none =>
    obtain ⟨u, e, started, asked, session, waited⟩ := run_ensureEngine provides ready
    rw [if_neg (by simp), Act.run_bind_of_ok started, run_browserKind asked.config]
    cases kind_eq : Config.browserKind t with
    | error f => exact .inl ⟨f, u, rfl, rfl, asked, waited⟩
    | ok kind =>
      have engine : (held "engine" u.session.engine).run u = (.ok e, u) := by
        rw [session]
        rfl
      obtain ⟨a, acquired⟩ :=
        run_acquire provides asked.told (q := .launch e (u.issued.browser + 1) kind) rfl
      have told := (asked.asked (.launch e (u.issued.browser + 1) kind)).told
      rw [Act.run_bind_of_ok (Act.run_ofExcept _ u), Act.run_bind_of_ok (Act.run_layers u),
        Act.run_bind_of_ok engine, Act.run_bind_of_ok (Act.run_numbers u), Act.run_bind_of_ok acquired,
        Act.run_bind_of_ok (Act.run_say _ _), Act.run_bind_of_ok (Act.run_setNumbers _ _)]
      refine .inr ⟨_, _, rfl, ⟨asked.config, told, fun _ => ⟨kind, kind_eq⟩⟩, rfl, waited⟩

/-- A context that is opened for a session without one is new. -/
theorem run_ensureContext (provides : b.Provides s) (ready : w.Ready b s t)
    (vacant : w.session.context = none) :
    (∃ f v, (ensureContext b).run w = (.error f, v) ∧ Config.browserKind t = .error f ∧
      v.Ready b s t ∧ v.waitedMs = w.waitedMs) ∨
    ∃ v, (ensureContext b).run w = (.ok (), v) ∧ v.InContext b s t [] ∧ v.waitedMs = w.waitedMs := by
  rw [ensureContext, Act.run_bind_of_ok (Act.run_layers w), vacant, if_neg (by simp)]
  rcases run_ensureBrowser provides ready with
    ⟨f, u, failed, kind, asked, waited⟩ | ⟨u, n, launched, asked, browser, waited⟩
  · rw [Act.run_bind, failed]
    exact .inl ⟨f, u, rfl, kind, asked, waited⟩
  · have held : (held "browser" u.session.browser).run u = (.ok n, u) := by
      rw [browser]
      rfl
    obtain ⟨a, acquired⟩ := run_acquire provides asked.told (q := .openContext n (u.issued.tab + 1)) rfl
    obtain ⟨cs, told⟩ := asked.told
    rw [Act.run_bind_of_ok launched, Act.run_bind_of_ok (Act.run_layers u), Act.run_bind_of_ok held,
      Act.run_bind_of_ok (Act.run_numbers u), Act.run_bind_of_ok acquired,
      Act.run_bind_of_ok (Act.run_setNumbers _ _), Act.run_bind_of_ok (Act.run_setLayers _ _)]
    refine .inr ⟨_, rfl, ⟨asked.config, asked.kind (by rw [browser]; rfl), ?_⟩, waited⟩
    refine ⟨cs ++ [.openContext n (u.issued.tab + 1)], _, ?_, rfl, ?_⟩
    · rw [b.after_concat, ← told]
      rfl
    · rw [Register.ofCalls_concat]
      exact Function.update_self ..

theorem run_openPage (provides : b.Provides s) (inside : w.InContext b s t x) :
    ∃ v p, (openPage b).run w = (.ok (), v) ∧
      v.OnPage b s t (x ++ [.openPage 0 x.length]) x.length p ∧ v.waitedMs = w.waitedMs := by
  obtain ⟨cs, c, told, context, through⟩ := inside.told
  have ensured : (ensureContext b).run w = (.ok (), w) := by
    rw [ensureContext, Act.run_bind_of_ok (Act.run_layers w), context]
    rfl
  have held : (held "context" w.session.context).run w = (.ok c, w) := by
    rw [context]
    rfl
  obtain ⟨a, acquired⟩ := run_acquire provides ⟨cs, told⟩ (q := .openPage c (w.issued.tab + 1)) rfl
  rw [openPage, Act.run_bind_of_ok ensured, Act.run_bind_of_ok (Act.run_layers w),
    Act.run_bind_of_ok held, Act.run_bind_of_ok (Act.run_numbers w), Act.run_bind_of_ok acquired,
    Act.run_bind_of_ok (Act.run_setNumbers _ _), Act.run_bind_of_ok (Act.run_setLayers _ _)]
  refine ⟨_, w.issued.tab + 1, rfl, ⟨inside.config, inside.kind, rfl, ?_⟩, rfl⟩
  refine ⟨cs ++ [.openPage c (w.issued.tab + 1)], c, ?_, context, ?_, ?_⟩
  · rw [b.after_concat, ← told]
    rfl
  · rw [Register.ofCalls_concat]
    simp [Register.note, Register.through_add through, through]
  · rw [Register.ofCalls_concat]
    simp [Register.note, through]

/-- A release is a call, whatever is logged of it. -/
theorem run_release (name : String) (q : Call) (w : World σ) :
    ∃ log, ((release b name q).run w).2 = { ((Act.ask b q).run w).2 with log } := by
  rw [release, Task.run_bind]
  cases ((Act.ask b q).attempt.run w).1 with
  | ok _ => exact ⟨_, rfl⟩
  | error f => exact ⟨_, rfl⟩

theorem surrender_waitedMs (name : String) (l : Layer) (w : World σ) :
    ((surrender b name l).run w).2.waitedMs = w.waitedMs := by
  cases there : w.session.slot l with
  | none => rw [run_surrender_of_none b name there]
  | some n =>
    obtain ⟨log, released⟩ := run_release (b := b) name (Handle.closing ⟨l, n⟩)
      { w with session := w.session.put l none }
    rw [run_surrender_of_some b name there, released]
    rfl

theorem finish_waitedMs (w : World σ) : ((finish b).run w).2.waitedMs = w.waitedMs := by
  rw [finish_eq, Task.run_bind, surrender_waitedMs, surrender_waitedMs]

theorem surrender_ready (name : String) (l : Layer) (ready : w.Ready b s t) :
    ((surrender b name l).run w).2.Ready b s t := by
  cases there : w.session.slot l with
  | none =>
    rw [run_surrender_of_none b name there]
    exact ready
  | some n =>
    let u : World σ := { w with session := w.session.put l none }
    have cleared : u.Ready b s t := by
      refine { ready with kind := fun held => ready.kind ?_ }
      cases l <;> first | exact held | cases held
    obtain ⟨log, released⟩ := run_release (b := b) name (Handle.closing ⟨l, n⟩) u
    rw [run_surrender_of_some b name there, released]
    exact { cleared.asked (Handle.closing ⟨l, n⟩) with }

theorem finish_ready (ready : w.Ready b s t) : ((finish b).run w).2.Ready b s t := by
  rw [finish_eq, Task.run_bind]
  exact surrender_ready _ _ (surrender_ready _ _ ready)

theorem close_ready (ready : w.Ready b s t) : ((close b).run w).2.Ready b s t := by
  rw [close_eq, Task.run_bind, Task.run_bind]
  exact surrender_ready _ _ (surrender_ready _ _ (finish_ready ready))

/-- A new session starts with a page that nothing was done on, in a context of its own. -/
theorem run_create (provides : b.Provides s) (ready : w.Ready b s t) :
    (∃ f v, (create b).run w = (.error f, v) ∧ Config.browserKind t = .error f ∧
      v.Ready b s t ∧ v.waitedMs = w.waitedMs) ∨
    ∃ v p, (create b).run w = (.ok (), v) ∧ v.OnPage b s t [.openPage 0 0] 0 p ∧
      v.waitedMs = w.waitedMs := by
  let u := ((finish b).run w).2
  have finished : u.Ready b s t := finish_ready ready
  have waited : u.waitedMs = w.waitedMs := finish_waitedMs w
  have vacant : u.session.page = none ∧ u.session.context = none := by
    simp [u, finish_session]
  have created : (create b).run w = (openPage b).run u := run_ensurePage_of_none b vacant.1
  rw [created]
  rcases run_ensureContext provides finished vacant.2 with
    ⟨f, v, failed, kind, asked, waited'⟩ | ⟨v, ensured, inside, waited'⟩
  · rw [openPage, Act.run_bind, failed]
    exact .inl ⟨f, v, rfl, kind, asked, waited'.trans waited⟩
  · obtain ⟨v', p, opened, onPage, waited''⟩ := run_openPage provides inside
    obtain ⟨_, c, _, context, _⟩ := inside.told
    have again : (ensureContext b).run v = (.ok (), v) := by
      rw [ensureContext, Act.run_bind_of_ok (Act.run_layers v), context]
      rfl
    refine .inr ⟨v', p, ?_, onPage, waited''.trans (waited'.trans waited)⟩
    rw [← opened, openPage, Act.run_bind_of_ok ensured, Act.run_bind_of_ok again]

theorem run_pageAnswers (page : w.session.page = some p) : (pageAnswers b).run w =
    ((b.answer (.title p) w.backend).1.isOk, ((Act.ask b (.title p)).run w).2) := by
  rw [pageAnswers, Task.run_bind, Task.run_layers, page]
  rfl

/-- A page that answers is kept. -/
theorem run_current_of_alive (onPage : w.OnPage b s t x n p)
    (alive : (b.answer (.title p) w.backend).1.isOk) : ∃ v, (current b).run w = (.ok p, v) ∧
      v.OnPage b s t (x ++ [.title n]) n p ∧ v.waitedMs = w.waitedMs := by
  let u := ((Act.ask b (.title p)).run w).2
  have asked : u.OnPage b s t (x ++ [.title n]) n p := onPage.asked (q := .title p) rfl
  have ensured : (ensurePage b).run w = (.ok (), u) := by
    rw [ensurePage_eq, Act.run_bind, Act.run_liftM, run_pageAnswers onPage.page, alive]
    rfl
  refine ⟨u, ?_, asked, rfl⟩
  rw [current, Act.run_bind_of_ok ensured, Act.run_bind_of_ok (Act.run_layers u), asked.page]
  rfl

theorem dropPage_inContext (onPage : w.OnPage b s t x n p) :
    ((dropPage b).run w).2.InContext b s t (x ++ [.closePage n]) ∧
      ((dropPage b).run w).2.waitedMs = w.waitedMs := by
  let u : World σ := { w with
    session := { w.session with page := none }, log := w.log ++ [⟨.pageUnresponsive, w.span⟩] }
  have dropped : (dropPage b).run w = (release b "page" (.closePage p)).run u := by
    rw [dropPage, Task.run_bind, Task.run_layers, onPage.page]
    rfl
  obtain ⟨log, released⟩ := run_release (b := b) "page" (.closePage p) u
  have asked := (onPage.asked (q := .closePage p) rfl).inContext
  rw [dropped, released]
  exact ⟨⟨asked.config, asked.kind, asked.told⟩, rfl⟩

/-- One that does not is closed, and another is opened in the same context. -/
theorem run_current_of_dead (provides : b.Provides s) (onPage : w.OnPage b s t x n p)
    (dead : (b.answer (.title p) w.backend).1.isOk = false) :
    let y := x ++ [.title n] ++ [.closePage n]
    ∃ v p', (current b).run w = (.ok p', v) ∧ v.OnPage b s t (y ++ [.openPage 0 y.length]) y.length p' ∧
      v.waitedMs = w.waitedMs := by
  intro y
  let u := ((Act.ask b (.title p)).run w).2
  have asked : u.OnPage b s t (x ++ [.title n]) n p := onPage.asked (q := .title p) rfl
  obtain ⟨inside, waited⟩ := dropPage_inContext asked
  obtain ⟨v, p', opened, final, waited'⟩ := run_openPage provides inside
  have ensured : (ensurePage b).run w = (.ok (), v) := by
    rw [ensurePage_eq, Act.run_bind, Act.run_liftM, run_pageAnswers onPage.page, dead]
    change (liftM (dropPage b) >>= fun _ => openPage b).run u = _
    rw [Act.run_bind, Act.run_liftM]
    exact opened
  refine ⟨v, p', ?_, final, waited'.trans waited⟩
  rw [current, Act.run_bind_of_ok ensured, Act.run_bind_of_ok (Act.run_layers v), final.page]
  rfl

end Session

end Rehearsal
