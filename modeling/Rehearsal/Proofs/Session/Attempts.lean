import Rehearsal.Proofs.Session.Acquisition
import Rehearsal.Proofs.Session.Agreement
import Rehearsal.Proofs.Session.Ascent

/-!
# To acquire a layer is an ascent

In any world, whatever the backend answers, the operation that acquires a layer ascends through what is
missing for it. Only a page is first asked for its title, and given up if it does not give it. The kind of
the browser is looked up once the engine is there.
-/
namespace Rehearsal

variable {σ : Type}

namespace World

/-- The kind of browser that the configuration asks for when the log is as given. It may be read for that,
and the log may be on the same disk. -/
def wantedKind (w : World σ) (log : List Log.Entry) : Except Failure BrowserKind :=
  (w.config.lookup ({ w with log } : World σ).surroundings Config.uiSection "browserType").1.bind
    BrowserKind.ofName

/-- It asks for this kind now, or would after more was logged. -/
def Wants (w : World σ) (kind : Except Failure BrowserKind) : Prop :=
  ∃ log, w.log <+: log ∧ w.wantedKind log = kind

/-- The configuration was not looked at. -/
structure Unread (w v : World σ) : Prop where
  config : v.config = w.config
  around : v.around = w.around
  journal : v.journal = w.journal
  log : w.log <+: v.log

variable {w v : World σ} {kind : Except Failure BrowserKind} {ks ls : List Layer}

theorem wants_now (w : World σ) : w.Wants (w.wantedKind w.log) := ⟨w.log, List.prefix_rfl, rfl⟩

theorem Unread.refl (w : World σ) : w.Unread w := ⟨rfl, rfl, rfl, List.prefix_rfl⟩

theorem Unread.trans {u : World σ} (first : w.Unread v) (second : v.Unread u) : w.Unread u :=
  ⟨second.config.trans first.config, second.around.trans first.around,
    second.journal.trans first.journal, first.log.trans second.log⟩

theorem Unread.wants (unread : w.Unread v) (wants : v.Wants kind) : w.Wants kind := by
  obtain ⟨log, more, wanted⟩ := wants
  refine ⟨log, unread.log.trans more, ?_⟩
  rw [← wanted, wantedKind, wantedKind, surroundings, surroundings, disk, disk, unread.config,
    unread.around, unread.journal]

/-- What was run ascended through these layers. -/
def Ascends (kind : Except Failure BrowserKind) (ks : List Layer) (w : World σ)
    (run : Except Failure Unit × World σ) : Prop :=
  ∃ t, run.2.trace = w.trace ++ t ∧ Session.Ascent kind w.session ks t run.1 run.2.session

theorem ascends_nil (kind : Except Failure BrowserKind) (w : World σ) : w.Ascends kind [] (.ok (), w) :=
  ⟨[], (List.append_nil _).symm, .done _⟩

theorem Ascends.bind {m next : Act σ Unit} (first : w.Ascends kind ks (m.run w))
    (second : ∀ v, m.run w = (.ok (), v) → v.Ascends kind ls (next.run v)) :
    w.Ascends kind (ks ++ ls) ((m >>= fun _ => next).run w) := by
  obtain ⟨t, trace, ascent⟩ := first
  rw [Act.run_bind]
  rcases run : m.run w with ⟨f | _, v⟩ <;> rw [run] at trace ascent
  · exact ⟨t, trace, ascent.append_of_error ls⟩
  · obtain ⟨t', trace', ascent'⟩ := second v run
    exact ⟨t ++ t', by rw [trace', trace, List.append_assoc], ascent.append ascent'⟩

/-- The layer itself is held if the ascent through what was missing for it came to its end. -/
theorem Ascends.exists_slot {l : Layer} {run : Except Failure Unit × World σ}
    (ascends : w.Ascends kind (w.session.missing l) run) (ok : run = (.ok (), v)) :
    ∃ n, v.session.slot l = some n := by
  obtain ⟨t, _, ascent⟩ := ascends
  rw [ok] at ascent
  exact ascent.exists_slot

end World

namespace Session

open World

theorem run_held (layer : String) (h : Nat) (w : World σ) :
    (held layer (some h) : Act σ Nat).run w = (.ok h, w) := rfl

variable (b : Backend σ)

/-- A layer is asked for, and held from then on unless that failed. -/
theorem acquire_ascends {kind : Except Failure BrowserKind} {c : Call} {k : Layer} {n : Nat} {w : World σ}
    {rest : Act σ Unit} (opening : Opening w.session kind k n c)
    (entered : ∀ v, (rest.run v).1 = .ok () ∧ (rest.run v).2.trace = v.trace ∧
      (rest.run v).2.session = v.session.put k (some n)) :
    w.Ascends kind [k] (((Act.ask b c).mapFailure notAcquired >>= fun _ => rest).run w) := by
  rw [Act.run_bind, Act.run_mapFailure, Act.run_ask]
  rcases b.answer c w.backend with ⟨f | a, s⟩
  · exact ⟨_, rfl, .refused opening⟩
  · let v : World σ := { w with backend := s, trace := w.trace ++ [⟨c, .ok a⟩] }
    obtain ⟨ok, trace, session⟩ := entered v
    refine ⟨[⟨c, .ok a⟩], trace, ?_⟩
    have ends : Ascent kind (w.session.put k (some n)) [] [] (rest.run v).1 (rest.run v).2.session := by
      rw [ok, session]
      exact .done _
    exact .given opening ends

theorem ensureEngine_ascends (kind : Except Failure BrowserKind) (w : World σ) :
    w.Ascends kind (w.session.missing .engine) ((ensureEngine b).run w) := by
  rw [ensureEngine, Act.run_bind_of_ok (Act.run_layers w)]
  cases vacant : w.session.engine with
  | some n =>
    rw [missing_of_held (l := .engine) vacant]
    exact ascends_nil kind w
  | none =>
    rw [missing_engine vacant, if_neg (by simp), Act.run_bind_of_ok (Act.run_say _ w),
      Act.run_bind_of_ok (Act.run_numbers _)]
    exact acquire_ascends b .engine fun v => ⟨rfl, rfl, rfl⟩

theorem ensureEngine_unread (w : World σ) : w.Unread ((ensureEngine b).run w).2 := by
  rw [ensureEngine, Act.run_bind_of_ok (Act.run_layers w)]
  cases w.session.engine with
  | some n => exact .refl w
  | none =>
    rw [if_neg (by simp), Act.run_bind_of_ok (Act.run_say _ w), Act.run_bind_of_ok (Act.run_numbers _),
      Act.run_bind, Act.run_mapFailure, Act.run_ask]
    rcases b.answer (.startEngine (w.issued.engine + 1)) w.backend with ⟨f | a, s⟩
    all_goals exact ⟨rfl, rfl, rfl, List.prefix_append _ _⟩

/-- To look up the name of a kind and to read it is to find the kind that is wanted. -/
theorem run_wantedKind (f : BrowserKind → Act σ Unit) (w : World σ) :
    (Act.lookupUi "browserType" >>= fun name => Act.ofExcept (BrowserKind.ofName name) >>= f).run w =
      (Act.ofExcept (w.wantedKind w.log) >>= f).run ((Act.lookupUi "browserType").run w).2 := by
  rw [wantedKind]
  -- How names are read does not matter here, and looking into it is slow.
  generalize BrowserKind.ofName = parse
  rw [Act.run_bind, Act.lookupUi, Act.run_lookup]
  cases (w.config.lookup w.surroundings Config.uiSection "browserType").1 with
  | error f => rfl
  | ok name => rfl

/-- What follows the look-up of the kind need only be looked at if there is such a kind. -/
theorem wantedKind_ascends {f : BrowserKind → Act σ Unit} {w : World σ}
    (next : ∀ kind (v : World σ), w.wantedKind w.log = .ok kind → v.session = w.session →
      v.trace = w.trace → v.Ascends (.ok kind) [.browser] ((f kind).run v)) :
    w.Ascends (w.wantedKind w.log) [.browser]
      ((Act.lookupUi "browserType" >>= fun name => Act.ofExcept (BrowserKind.ofName name) >>= f).run w) := by
  rw [run_wantedKind]
  cases wanted : w.wantedKind w.log with
  | error e => exact ⟨[], (List.append_nil _).symm, .unsupported rfl⟩
  | ok kind => exact next kind _ wanted rfl rfl

theorem ensureBrowser_ascends (w : World σ) : ∃ kind, w.Wants kind ∧
    w.Ascends kind (w.session.missing .browser) ((ensureBrowser b).run w) := by
  rw [ensureBrowser, Act.run_bind_of_ok (Act.run_layers w)]
  cases vacant : w.session.browser with
  | some n =>
    rw [missing_of_held (l := .browser) vacant]
    exact ⟨_, w.wants_now, ascends_nil _ w⟩
  | none =>
    let u := ((ensureEngine b).run w).2
    have first := ensureEngine_ascends b (u.wantedKind u.log) w
    refine ⟨_, (ensureEngine_unread b w).wants u.wants_now, ?_⟩
    rw [missing_of_vacant (l := .engine) (k := .browser) rfl vacant, if_neg (by simp)]
    refine first.bind fun v run => ?_
    obtain rfl : u = v := congrArg Prod.snd run
    obtain ⟨e, engine⟩ := first.exists_slot run
    refine wantedKind_ascends fun kind v _ session _ => ?_
    have held : v.session.engine = some e := (congrArg Session.engine session).trans engine
    rw [Act.run_bind_of_ok (Act.run_layers v), held, Act.run_bind_of_ok (run_held _ e v),
      Act.run_bind_of_ok (Act.run_numbers v)]
    exact acquire_ascends b (.browser held rfl) fun v => ⟨rfl, rfl, rfl⟩

/-- If there is no kind that is wanted, no browser is acquired, and the failure says why. -/
theorem run_ensureBrowser_of_unwanted {w v : World σ} {f : Failure} (vacant : w.session.browser = none)
    (started : (ensureEngine b).run w = (.ok (), v)) (unwanted : v.wantedKind v.log = .error f) :
    ∃ u, (ensureBrowser b).run w = (.error f, u) := by
  rw [ensureBrowser, Act.run_bind_of_ok (Act.run_layers w), vacant, if_neg (by simp),
    Act.run_bind_of_ok started, run_wantedKind, unwanted]
  exact ⟨_, rfl⟩

theorem ensureContext_ascends (w : World σ) : ∃ kind, w.Wants kind ∧
    w.Ascends kind (w.session.missing .context) ((ensureContext b).run w) := by
  rw [ensureContext, Act.run_bind_of_ok (Act.run_layers w)]
  cases vacant : w.session.context with
  | some n =>
    rw [missing_of_held (l := .context) vacant]
    exact ⟨_, w.wants_now, ascends_nil _ w⟩
  | none =>
    obtain ⟨kind, wants, first⟩ := ensureBrowser_ascends b w
    refine ⟨kind, wants, ?_⟩
    rw [missing_of_vacant (l := .browser) (k := .context) rfl vacant, if_neg (by simp)]
    refine first.bind fun v run => ?_
    obtain ⟨h, held⟩ := first.exists_slot run
    change v.session.browser = some h at held
    rw [Act.run_bind_of_ok (Act.run_layers v), held, Act.run_bind_of_ok (run_held _ h v),
      Act.run_bind_of_ok (Act.run_numbers v)]
    exact acquire_ascends b (.context held) fun v => ⟨rfl, rfl, rfl⟩

theorem openPage_ascends {w : World σ} (vacant : w.session.page = none) : ∃ kind, w.Wants kind ∧
    w.Ascends kind (w.session.missing .page) ((openPage b).run w) := by
  obtain ⟨kind, wants, first⟩ := ensureContext_ascends b w
  refine ⟨kind, wants, ?_⟩
  rw [openPage, missing_of_vacant (l := .context) (k := .page) rfl vacant]
  refine first.bind fun v run => ?_
  obtain ⟨c, held⟩ := first.exists_slot run
  change v.session.context = some c at held
  rw [Act.run_bind_of_ok (Act.run_layers v), held, Act.run_bind_of_ok (run_held _ c v),
    Act.run_bind_of_ok (Act.run_numbers v)]
  exact acquire_ascends b (.page held) fun v => ⟨rfl, rfl, rfl⟩

/-- A page is asked for its title before it is used. If it does not give it, it is given up. -/
inductive Probed (s : Session) : Layer → List Exchange → Session → Prop
  | unasked {l : Layer} : (l = .page → s.page = none) → Probed s l [] s
  | alive {p : Nat} {title : String} : s.page = some p → Probed s .page [⟨.title p, .ok title⟩] s
  | dead {p : Nat} {f : Failure} {r : Except Failure Unit} : s.page = some p →
      Probed s .page [⟨.title p, .error f⟩, ⟨.closePage p, r⟩] (s.put .page none)

/-- The operation that acquires a layer. -/
def ensure : Layer → Act σ Unit
  | .engine => ensureEngine b
  | .browser => ensureBrowser b
  | .context => ensureContext b
  | .page => ensurePage b

theorem release_unread (name : String) (c : Call) (w : World σ) :
    ∃ r, ((release b name c).run w).2.trace = w.trace ++ [⟨c, r⟩] ∧
      w.Unread ((release b name c).run w).2 := by
  rw [release, Task.run_bind, Act.run_attempt, Act.run_ask]
  rcases b.answer c w.backend with ⟨f | a, s⟩
  · exact ⟨_, rfl, rfl, rfl, rfl, List.prefix_append _ _⟩
  · exact ⟨_, rfl, rfl, rfl, rfl, List.prefix_rfl⟩

theorem dropPage_unread {w : World σ} {p : Nat} (held : w.session.page = some p) :
    ∃ r, ((dropPage b).run w).2.trace = w.trace ++ [⟨.closePage p, r⟩] ∧
      w.Unread ((dropPage b).run w).2 := by
  rw [dropPage, Task.run_bind, Task.run_layers, held]
  let v : World σ :=
    { w with session := { w.session with page := none }, log := w.log ++ [⟨.pageUnresponsive, w.span⟩] }
  obtain ⟨r, trace, unread⟩ := release_unread b "page" (.closePage p) v
  exact ⟨r, trace, unread.config, unread.around, unread.journal, (List.prefix_append _ _).trans unread.log⟩

theorem run_pageAnswers_of_some {w : World σ} {p : Nat} (held : w.session.page = some p) :
    (pageAnswers b).run w =
      ((b.answer (.title p) w.backend).1.isOk, ((Act.ask b (.title p)).run w).2) := by
  rw [pageAnswers, Task.run_bind, Task.run_layers, held]
  rfl

theorem run_ensurePage_of_alive {w : World σ} {p : Nat} (held : w.session.page = some p)
    (alive : (b.answer (.title p) w.backend).1.isOk) :
    (ensurePage b).run w = (.ok (), ((Act.ask b (.title p)).run w).2) := by
  rw [ensurePage_eq, Act.run_bind, Act.run_liftM, run_pageAnswers_of_some b held, alive]
  rfl

theorem run_ensurePage_of_dead {w : World σ} {p : Nat} (held : w.session.page = some p)
    (dead : (b.answer (.title p) w.backend).1.isOk = false) :
    (ensurePage b).run w =
      (openPage b).run ((dropPage b).run ((Act.ask b (.title p)).run w).2).2 := by
  rw [ensurePage_eq, Act.run_bind, Act.run_liftM, run_pageAnswers_of_some b held, dead]
  rfl

theorem ensurePage_ascends (w : World σ) : ∃ kind probes s t, w.Wants kind ∧
    Probed w.session .page probes s ∧
    ((ensurePage b).run w).2.trace = w.trace ++ (probes ++ t) ∧
    Ascent kind s (s.missing .page) t ((ensurePage b).run w).1 ((ensurePage b).run w).2.session := by
  cases held : w.session.page with
  | none =>
    obtain ⟨kind, wants, t, trace, ascent⟩ := openPage_ascends b held
    rw [run_ensurePage_of_none b held]
    exact ⟨kind, [], w.session, t, wants, .unasked fun _ => held, trace, ascent⟩
  | some p =>
    let u := ((Act.ask b (.title p)).run w).2
    cases answer : (b.answer (.title p) w.backend).1 with
    | ok title =>
      have asked : u.trace = w.trace ++ [⟨.title p, .ok title⟩] := by
        rw [← answer]
        rfl
      rw [run_ensurePage_of_alive b held (by rw [answer]; rfl)]
      refine ⟨_, [⟨.title p, .ok title⟩], w.session, [], w.wants_now, .alive held, asked, ?_⟩
      rw [missing_of_held (l := .page) held]
      exact .done _
    | error f =>
      have asked : u.trace = w.trace ++ [⟨.title p, .error f⟩] := by
        rw [← answer]
        rfl
      let v := ((dropPage b).run u).2
      obtain ⟨r, trace, unread⟩ := dropPage_unread b (w := u) held
      have session : v.session = w.session.put .page none := dropPage_session b u
      obtain ⟨kind, wants, t, trace', ascent⟩ := openPage_ascends b (congrArg Session.page session)
      have before : w.Unread v := ⟨unread.config, unread.around, unread.journal, unread.log⟩
      rw [run_ensurePage_of_dead b held (by rw [answer]; rfl)]
      refine ⟨kind, _, _, t, before.wants wants, .dead (f := f) (r := r) held, ?_, session ▸ ascent⟩
      rw [trace', trace, asked]
      simp

theorem ensure_moves (l : Layer) (w : World σ) :
    World.Moves (fun _ => True) w ((ensure b l).run w).2 := by
  cases l with
  | engine => exact (ensureEngine_moves b w).mono fun _ _ => trivial
  | browser => exact (ensureBrowser_moves b w).mono fun _ _ => trivial
  | context => exact (ensureContext_moves b w).mono fun _ _ => trivial
  | page => exact (ensurePage_moves b w).mono fun _ _ => trivial

/-- A layer below the page is not acquired again while it is held. -/
theorem run_ensure_of_held {l : Layer} {w : World σ} (held : (w.session.slot l).isSome)
    (other : l ≠ .page) : (ensure b l).run w = (.ok (), w) := by
  cases l with
  | engine =>
    have there : w.session.engine.isSome := held
    rw [ensure, ensureEngine, Act.run_bind_of_ok (Act.run_layers w), if_pos there, Act.run_pure]
  | browser =>
    have there : w.session.browser.isSome := held
    rw [ensure, ensureBrowser, Act.run_bind_of_ok (Act.run_layers w), if_pos there, Act.run_pure]
  | context =>
    have there : w.session.context.isSome := held
    rw [ensure, ensureContext, Act.run_bind_of_ok (Act.run_layers w), if_pos there, Act.run_pure]
  | page => exact absurd rfl other

theorem run_current_of_error {w v : World σ} {f : Failure} (failed : (ensurePage b).run w = (.error f, v)) :
    (current b).run w = (.error f, v) := by
  rw [current, Act.run_bind, failed]

theorem run_current_of_ok {w v : World σ} {p : Nat} (ensured : (ensurePage b).run w = (.ok (), v))
    (there : v.session.page = some p) : (current b).run w = (.ok p, v) := by
  rw [current, Act.run_bind_of_ok ensured, Act.run_bind_of_ok (Act.run_layers v), there, run_held]

/-- Without a kind of browser to launch no session is created where there was none. -/
theorem run_create_of_unwanted {w v : World σ} {f : Failure} (empty : w.session = {})
    (started : (ensureEngine b).run w = (.ok (), v)) (unwanted : v.wantedKind v.log = .error f) :
    ∃ u, (create b).run w = (.error f, u) := by
  have vacant (l : Layer) : w.session.slot l = none := by
    rw [empty]
    cases l <;> rfl
  have finished : (finish b).run w = ((), w) := by
    rw [finish_eq, Task.run_bind, run_surrender_of_none b _ (vacant .page),
      run_surrender_of_none b _ (vacant .context)]
  obtain ⟨u, failed⟩ := run_ensureBrowser_of_unwanted b (vacant .browser) started unwanted
  have context : (ensureContext b).run w = (.error f, u) := by
    have none : w.session.context = none := vacant .context
    rw [ensureContext, Act.run_bind_of_ok (Act.run_layers w), none, if_neg (by simp),
      Act.run_bind_of_error failed]
  refine ⟨u, ?_⟩
  rw [create, Act.run_bind, Act.run_liftM, finished]
  dsimp only
  rw [run_ensurePage_of_none b (vacant .page), openPage, Act.run_bind_of_error context]

/-- To acquire any layer is an ascent through what is missing for it. -/
theorem ensure_ascends (l : Layer) (w : World σ) : ∃ kind probes s t, w.Wants kind ∧
    Probed w.session l probes s ∧
    ((ensure b l).run w).2.trace = w.trace ++ (probes ++ t) ∧
    Ascent kind s (s.missing l) t ((ensure b l).run w).1 ((ensure b l).run w).2.session := by
  have below {l : Layer} {run : Except Failure Unit × World σ} (other : l ≠ .page)
      (h : ∃ kind, w.Wants kind ∧ w.Ascends kind (w.session.missing l) run) :
      ∃ kind probes s t, w.Wants kind ∧ Probed w.session l probes s ∧
        run.2.trace = w.trace ++ (probes ++ t) ∧ Ascent kind s (s.missing l) t run.1 run.2.session := by
    obtain ⟨kind, wants, t, trace, ascent⟩ := h
    exact ⟨kind, [], w.session, t, wants, .unasked fun page => absurd page other, trace, ascent⟩
  cases l with
  | engine => exact below (by decide) ⟨_, w.wants_now, ensureEngine_ascends b _ w⟩
  | browser => exact below (by decide) (ensureBrowser_ascends b w)
  | context => exact below (by decide) (ensureContext_ascends b w)
  | page => exact ensurePage_ascends b w

end Session

end Rehearsal
