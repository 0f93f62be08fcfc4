import Rehearsal.Proofs.Run.Login
import Rehearsal.Proofs.Session.Attempts

/-!
# Elements are acted on only where they are the only ones

A step visits addresses, fills and clicks only as its action says. Right before an element is filled or
clicked, its page was asked for the matches of its locator, and there was one. This holds on every path
through a step, in any session, wherever the backend fails and whichever pages it loses on the way.
-/
namespace Rehearsal

variable {σ α : Type}

namespace Call

/-- The element that a call acts on, as the page and the locator of it. -/
def element? : Call → Option (Nat × Locator)
  | .fill p l _ | .click p l => some (p, l)
  | _ => none

/-- The call acts on a page; others only look at it, or are about layers. -/
def acts : Call → Bool
  | .goto .. | .fill .. | .click .. => true
  | _ => false

theorem acts_of_element? {c : Call} {e : Nat × Locator} (element : c.element? = some e) : c.acts := by
  cases c <;> first | rfl | cases element

theorem acts_of_opens? {c : Call} {h : Handle} (opens : c.opens? = some h) : c.acts = false := by
  cases c <;> first | rfl | cases opens

end Call

/-- What has to stand right beside an exchange. -/
structure Exchange.Guarded (before : List Exchange) (x : Exchange) (after : List Exchange) : Prop where
  /-- An element that is acted on has just been found, and was the only one. -/
  found : ∀ p l, x.call.element? = some (p, l) →
    ∃ text, before.getLast? = some ⟨.texts p l, .ok [text]⟩
  /-- A visit that succeeds is followed by a wait for the page. -/
  awaited : ∀ p url, x.call = .goto p url → x.result.isOk →
    ∃ r, after.head? = some ⟨.ready p Page.readyTimeoutMs, r⟩

/-- All that acts on a page is permitted and guarded. -/
structure Careful (may : Call → Prop) (t : List Exchange) : Prop where
  permitted : ∀ x ∈ t, x.call.acts → may x.call
  guarded : ∀ before x after, t = before ++ x :: after → x.Guarded before after

namespace Exchange

variable {x : Exchange} {before after : List Exchange}

theorem guarded_of_quiet (quiet : x.call.acts = false) (before after : List Exchange) :
    x.Guarded before after where
  found p l element := by
    rw [Call.acts_of_element? element] at quiet
    cases quiet
  awaited p url visit := by
    rw [visit] at quiet
    cases quiet

/-- What stands right beside an exchange is there in a longer trace. -/
theorem Guarded.extend (guarded : x.Guarded before after) (s t : List Exchange) :
    x.Guarded (s ++ before) (after ++ t) where
  found p l element := by
    obtain ⟨text, last⟩ := guarded.found p l element
    exact ⟨text, by rw [List.getLast?_append, last]; rfl⟩
  awaited p url visit ok := by
    obtain ⟨r, next⟩ := guarded.awaited p url visit ok
    exact ⟨r, by rw [List.head?_append, next]; rfl⟩

end Exchange

namespace Careful

variable {may : Call → Prop} {x y : Exchange} {s t : List Exchange}

theorem of_quiet (quiet : ∀ x ∈ t, x.call.acts = false) : Careful may t where
  permitted x hx acts := by
    rw [quiet x hx] at acts
    cases acts
  guarded before x after eq := by
    refine Exchange.guarded_of_quiet (quiet x ?_) before after
    rw [eq]
    exact List.mem_append_right _ List.mem_cons_self

theorem append (first : Careful may s) (second : Careful may t) : Careful may (s ++ t) where
  permitted x hx := by
    rcases List.mem_append.mp hx with hx | hx
    · exact first.permitted x hx
    · exact second.permitted x hx
  guarded before x after eq := by
    rcases List.append_eq_append_iff.mp eq with ⟨rest, rfl, rfl⟩ | ⟨rest, rfl, tail⟩
    · simpa using (second.guarded rest x after rfl).extend s []
    · cases rest with
      | nil =>
        obtain rfl : t = x :: after := tail.symm
        simpa using (second.guarded [] x after rfl).extend before []
      | cons y rest =>
        obtain ⟨rfl, rfl⟩ := List.cons_eq_cons.mp tail
        exact (first.guarded before x rest rfl).extend [] t

theorem singleton (permitted : x.call.acts → may x.call) (guarded : x.Guarded [] []) :
    Careful may [x] where
  permitted y hy := by
    obtain rfl := List.mem_singleton.mp hy
    exact permitted
  guarded before y after eq := by
    rcases before with _ | ⟨u, before⟩
    · cases eq
      exact guarded
    · simp at eq

theorem pair (first : x.call.acts → may x.call) (second : y.call.acts → may y.call)
    (guarded : x.Guarded [] [y]) (guarded' : y.Guarded [x] []) : Careful may [x, y] where
  permitted z hz := by
    rcases List.mem_pair.mp hz with rfl | rfl
    · exact first
    · exact second
  guarded before z after eq := by
    rcases before with _ | ⟨u, _ | ⟨v, before⟩⟩
    · cases eq
      exact guarded
    · cases eq
      exact guarded'
    · simp at eq

end Careful

namespace World

/-- The address that the configuration gives for the portal. -/
def portal (w : World σ) : Except Failure String :=
  (w.config.lookup w.surroundings Config.uiSection "baseUrlPortal").1

/-- The world moved on by exchanges that are careful. -/
def Acts (may : Call → Prop) (w w' : World σ) : Prop := ∃ t, w'.trace = w.trace ++ t ∧ Careful may t

variable {may : Call → Prop} {w w' : World σ}

theorem acts_of_trace_eq (trace : w'.trace = w.trace) : Acts may w w' :=
  ⟨[], by simpa using trace, .of_quiet (by simp)⟩

instance : IsPreorder (World σ) (Acts may) where
  refl _ := acts_of_trace_eq rfl
  trans u v w := by
    rintro ⟨s, hs, first⟩ ⟨t, ht, second⟩
    exact ⟨s ++ t, by rw [ht, hs, List.append_assoc], first.append second⟩

end World

variable {b : Backend σ} {may : Call → Prop}

theorem Act.ask_acts {c : Call} (quiet : c.acts = false) :
    (Act.ask b c).Ensures (World.Acts may) :=
  fun w => ⟨[⟨c, (b.answer c w.backend).1⟩], rfl, .of_quiet (by simpa using quiet)⟩

theorem Act.lookup_acts (name key : String) :
    (Act.lookup name key : Act σ String).Ensures (World.Acts may) :=
  fun _ => World.acts_of_trace_eq rfl

/-- No page is acted on while layers are acquired. -/
theorem Session.current_acts : (Session.current b).Ensures (World.Acts may) := by
  have ensured : (ensurePage b).Ensures (World.Acts may) := by
    intro w
    obtain ⟨kind, probes, s, t, _, probed, trace, ascent⟩ := ensure_ascends b .page w
    refine ⟨probes ++ t, trace, .append (.of_quiet ?_) (.of_quiet fun x hx => ?_)⟩
    · cases probed <;> simp [Call.acts]
    · obtain ⟨h, opens, _⟩ := ascent.exists_opens? hx
      exact Call.acts_of_opens? opens
  refine ensured.bind fun _ w => ?_
  change World.Acts may w ((held "page" w.session.page).run w).2
  cases w.session.page <;> exact World.acts_of_trace_eq rfl

namespace Page

/-- What follows a search for an element acts on it only if it was found once. -/
theorem texts_acts {p : Nat} {l : Locator} {next : List String → Act σ α}
    (refuses : ∀ found, found.length ≠ 1 → ∀ w, ((next found).run w).2.trace = w.trace)
    (acts : ∀ text, ∃ c, c.element? = some (p, l) ∧ may c ∧
      ∀ w, ∃ r, ((next [text]).run w).2.trace = w.trace ++ [⟨c, r⟩]) :
    (Act.ask b (.texts p l) >>= next).Ensures (World.Acts may) := by
  intro w
  rw [Act.run_bind, Act.run_ask]
  rcases b.answer (.texts p l) w.backend with ⟨f | found, s⟩
  · exact ⟨[⟨.texts p l, .error f⟩], rfl, .of_quiet (by simp [Call.acts])⟩
  · let v : World σ := { w with backend := s, trace := w.trace ++ [⟨.texts p l, .ok found⟩] }
    by_cases once : found.length = 1
    · obtain ⟨text, rfl⟩ := List.length_eq_one_iff.mp once
      obtain ⟨c, element, permitted, called⟩ := acts text
      obtain ⟨r, trace⟩ := called v
      refine ⟨[⟨.texts p l, .ok [text]⟩, ⟨c, r⟩], trace.trans (List.append_assoc ..), ?_⟩
      refine .pair nofun (fun _ => permitted) (Exchange.guarded_of_quiet rfl _ _) ⟨?_, ?_⟩
      · intro p' l' element'
        obtain ⟨rfl, rfl⟩ := Prod.mk.inj (Option.some.inj (element.symm.trans element'))
        exact ⟨text, rfl⟩
      · intro p' url visit
        subst visit
        cases element
    · exact ⟨[⟨.texts p l, .ok found⟩], refuses found once v, .of_quiet (by simp [Call.acts])⟩

/-- An element is acted on after it was resolved. -/
theorem resolveOne_acts {p : Nat} {l : Locator} {c : Call} (element : c.element? = some (p, l))
    (permitted : may c) (g : Failure → Failure) :
    (resolveOne b p l >>= fun _ => (Act.ask b c).mapFailure g).Ensures (World.Acts may) := by
  rw [resolveOne, bind_assoc]
  refine texts_acts (fun found many w => ?_) fun text => ⟨c, element, permitted, fun w => ⟨_, rfl⟩⟩
  dsimp only
  rw [if_pos many]
  rfl

theorem fillField_acts {l : Locator} {text : String} (permitted : ∀ p, may (.fill p l text)) :
    (fillField b l text).Ensures (World.Acts may) :=
  Session.current_acts.bind fun p => resolveOne_acts rfl (permitted p) _

theorem click_acts {l : Locator} (permitted : ∀ p, may (.click p l)) :
    (click b l).Ensures (World.Acts may) :=
  Session.current_acts.bind fun p => resolveOne_acts rfl (permitted p) _

theorem openSection_acts {name : String} (permitted : ∀ p, may (.click p (sectionButton name))) :
    (openSection b name).Ensures (World.Acts may) := by
  refine Session.current_acts.bind fun p => ?_
  refine texts_acts (fun found many w => ?_) fun text => ⟨_, rfl, permitted p, fun w => ⟨_, rfl⟩⟩
  dsimp only
  rw [if_pos many]
  rfl

theorem currentUrl_acts : (currentUrl b).Ensures (World.Acts may) :=
  Session.current_acts.bind fun _ => Act.ask_acts rfl

theorem items_acts (column : String) : (items b column).Ensures (World.Acts may) := by
  refine (Act.ensures_ofExcept _).bind fun c => Session.current_acts.bind fun p => ?_
  exact (Act.ask_acts (c := .texts p c.titles) rfl).bind fun _ => Act.ensures_pure _

theorem tagsOf_acts (column title : String) : (tagsOf b column title).Ensures (World.Acts may) := by
  refine (Act.ensures_ofExcept _).bind fun c => Session.current_acts.bind fun p => ?_
  have texts (l : Locator) : (Act.ask b (.texts p l)).Ensures (World.Acts may) := Act.ask_acts rfl
  refine (texts (c.title title)).bind fun found => ?_
  dsimp only
  split
  · exact (Act.ensures_fail _).bind fun _ => (texts _).bind fun _ => Act.ensures_pure _
  · exact (texts _).bind fun _ => Act.ensures_pure _

/-- A page that was visited is waited for. -/
theorem navigate_acts {url : String} (permitted : ∀ p, may (.goto p url)) :
    (navigate b url true).Ensures (World.Acts may) := by
  refine Session.current_acts.bind fun p => ?_
  have say : (World.say (.navigating url) : Act σ Unit).Ensures (World.Acts may) :=
    fun _ => World.acts_of_trace_eq rfl
  refine say.bind fun _ w => ?_
  rw [Act.run_bind, Act.run_ask]
  rcases b.answer (.goto p url) w.backend with ⟨f | a, s⟩
  · refine ⟨[⟨.goto p url, .error f⟩], rfl, .singleton (fun _ => permitted p) ⟨nofun, ?_⟩⟩
    rintro _ _ _ ⟨⟩
  · refine ⟨[⟨.goto p url, .ok a⟩, ⟨.ready p readyTimeoutMs, _⟩], List.append_assoc .., ?_⟩
    refine .pair (fun _ => permitted p) nofun ⟨nofun, ?_⟩ (Exchange.guarded_of_quiet rfl _ _)
    rintro _ _ ⟨⟩ _
    exact ⟨_, rfl⟩

theorem run_loginAddress (w : World σ) :
    ((loginAddress : Act σ String).run w).1 = w.portal.map (· ++ "/") := by
  rw [loginAddress, Act.run_bind, Act.lookupUi, Act.run_lookup, World.portal]
  cases (w.config.lookup w.surroundings Config.uiSection "baseUrlPortal").1 <;> rfl

theorem openLogin_acts {w : World σ}
    (permitted : ∀ p base, w.portal = .ok base → may (.goto p (base ++ "/"))) :
    World.Acts may w ((openLogin b).run w).2 := by
  have address : World.Acts may w ((loginAddress : Act σ String).run w).2 :=
    (Act.lookup_acts Config.uiSection "baseUrlPortal").bind (fun _ => Act.ensures_pure _) w
  refine Act.bind_ensures address fun url v run => navigate_acts (fun p => ?_) v
  have known := run_loginAddress w
  rw [run] at known
  cases portal : w.portal with
  | error f => rw [portal] at known; cases known
  | ok base =>
    rw [portal] at known
    cases known
    exact permitted p base portal

end Page

/-- What has to be permitted to perform an action. -/
def Action.Needs (portal : Except Failure String) (may : Call → Prop) : Action → Prop
  | .openLoginPage => ∀ p base, portal = .ok base → may (.goto p (base ++ "/"))
  | .fillUsername _ => ∀ p text, may (.fill p LoginForm.username text)
  | .fillPassword _ => ∀ p text, may (.fill p LoginForm.password text)
  | .clickLogin => ∀ p, may (.click p LoginForm.signIn)
  | .logIn .. => (∀ p base, portal = .ok base → may (.goto p (base ++ "/"))) ∧
    (∀ p text, may (.fill p LoginForm.username text)) ∧
    (∀ p text, may (.fill p LoginForm.password text)) ∧ ∀ p, may (.click p LoginForm.signIn)
  | .openSection name => ∀ p, may (.click p (sectionButton name))
  | .verifyLogin _ | .verifyItems .. | .confirmTags .. => True

/-- What a step may do to a page: what it is named for, on the elements that are meant for it. -/
inductive Step.Permits (s : Step) (portal : Except Failure String) : Call → Prop
  | visit {p : Nat} {base : String} : s.action ∈ ["navigateToLoginPage", "logIn"] →
      portal = .ok base → Permits s portal (.goto p (base ++ "/"))
  | username {p : Nat} {text : String} : s.action ∈ ["fillUsername", "logIn"] →
      Permits s portal (.fill p LoginForm.username text)
  | password {p : Nat} {text : String} : s.action ∈ ["fillPassword", "logIn"] →
      Permits s portal (.fill p LoginForm.password text)
  | signIn {p : Nat} : s.action ∈ ["clickLoginButton", "logIn"] →
      Permits s portal (.click p LoginForm.signIn)
  | openSection {p : Nat} {name : String} : s.action = "navigateToSection" →
      s.sectionName = some name → Permits s portal (.click p (sectionButton name))

theorem Step.needs_of_decode {s : Step} {a : Action} (portal : Except Failure String)
    (decoded : s.decode = .ok a) : a.Needs portal (s.Permits portal) := by
  unfold decode at decoded
  -- One case for each name, in the order in which they are decoded, and one for all other names.
  split at decoded
  case h_1 name =>
    cases decoded
    exact fun p base known => .visit (by simp [name]) known
  case h_2 name =>
    cases value : s.value <;> rw [value] at decoded <;> cases decoded
    exact fun p text => .username (by simp [name])
  case h_3 name =>
    cases value : s.value <;> rw [value] at decoded <;> cases decoded
    exact fun p text => .password (by simp [name])
  case h_4 name =>
    cases decoded
    exact fun p => .signIn (by simp [name])
  case h_5 name =>
    cases decoded
    exact ⟨fun p base known => .visit (by simp [name]) known, fun p text => .username (by simp [name]),
      fun p text => .password (by simp [name]), fun p => .signIn (by simp [name])⟩
  case h_6 name =>
    cases decoded
    trivial
  case h_7 name =>
    cases place : s.sectionName <;> rw [place] at decoded <;> cases decoded
    exact fun p => .openSection name place
  case h_8 name =>
    cases column : s.column <;> cases expected : s.expected <;> rw [column, expected] at decoded <;>
      cases decoded
    trivial
  case h_9 name =>
    cases column : s.column <;> cases task : s.task <;> cases tags : s.tags <;>
      rw [column, task, tags] at decoded <;> cases decoded
    trivial
  case h_10 => cases decoded

/-- The actions that only look at pages are none of those that permit anything. -/
theorem Step.Permits.action_notMem {s : Step} {portal : Except Failure String} {c : Call}
    (permitted : s.Permits portal c) :
    s.action ∉ ["verifySuccessfulLogin", "verifyItemsInSection", "confirmTags"] := by
  have apart : ∀ n ∈ ["navigateToLoginPage", "fillUsername", "fillPassword", "clickLoginButton", "logIn",
      "navigateToSection"], n ∉ ["verifySuccessfulLogin", "verifyItemsInSection", "confirmTags"] := by
    decide
  refine apart s.action ?_
  cases permitted <;> simp_all <;> tauto

namespace Run

theorem resolve_acts (source : Source) :
    (resolve source : Act σ String).Ensures (World.Acts may) := by
  cases source with
  | literal text => exact Act.ensures_pure text
  | configured name key => exact Act.lookup_acts name key

theorem perform_acts (a : Action) (w : World σ) (needs : a.Needs w.portal may) :
    World.Acts may w ((perform b a).run w).2 := by
  have fill (source : Source) {l : Locator} (permitted : ∀ p text, may (.fill p l text)) :
      (resolve source >>= Page.fillField b l).Ensures (World.Acts may) :=
    (resolve_acts source).bind fun text => Page.fillField_acts fun p => permitted p text
  cases a with
  | openLoginPage => exact Page.openLogin_acts needs
  | fillUsername source => exact fill source needs w
  | fillPassword source => exact fill source needs w
  | clickLogin => exact Page.click_acts needs w
  | logIn username password =>
    obtain ⟨visit, name, word, button⟩ := needs
    refine Act.bind_ensures (Page.openLogin_acts visit) fun _ v _ => ?_
    refine ((resolve_acts username).bind fun text => ?_) v
    refine (Page.fillField_acts fun p => name p text).bind fun _ => ?_
    refine (resolve_acts password).bind fun text => ?_
    exact (Page.fillField_acts fun p => word p text).bind fun _ => Page.click_acts button
  | verifyLogin waitMs =>
    have sleep : (World.sleep waitMs : Act σ Unit).Ensures (World.Acts may) :=
      fun _ => World.acts_of_trace_eq rfl
    have looks : (perform b (.verifyLogin waitMs)).Ensures (World.Acts may) := by
      refine sleep.bind fun _ => Page.currentUrl_acts.bind fun url => ?_
      split
      · exact Act.ensures_fail _
      · exact Act.ensures_pure ()
    exact looks w
  | openSection name => exact Page.openSection_acts needs w
  | verifyItems column expected =>
    have looks : (perform b (.verifyItems column expected)).Ensures (World.Acts may) := by
      refine (Page.items_acts column).bind fun items => ?_
      dsimp only
      split
      · exact Act.ensures_fail _
      · exact Act.ensures_pure ()
    exact looks w
  | confirmTags column task tags =>
    have looks : (perform b (.confirmTags column task tags)).Ensures (World.Acts may) := by
      refine (Page.tagsOf_acts column task).bind fun actual => ?_
      split
      · exact Act.ensures_fail _
      · exact Act.ensures_pure ()
    exact looks w

theorem execute_acts (s : Step) (w : World σ) :
    World.Acts (s.Permits w.portal) w ((execute b s).run w).2 := by
  cases decoded : s.decode with
  | error f =>
    rw [execute_of_decode_error b decoded]
    exact World.acts_of_trace_eq rfl
  | ok a =>
    rw [execute_of_decode_ok b decoded]
    exact perform_acts a w (s.needs_of_decode w.portal decoded)

/-- Whatever the session and the backend, a step acts on a page only as it is named for, on an element only
right after that was found to be the only one, and waits for every page that it has visited. Steps that
verify or confirm do not act on pages at all. -/
theorem execute_careful (b : Backend σ) (s : Step) (w : World σ) :
    ∃ t, ((execute b s).run w).2.trace = w.trace ++ t ∧ Careful (s.Permits w.portal) t ∧
      (s.action ∈ ["verifySuccessfulLogin", "verifyItemsInSection", "confirmTags"] →
        ∀ x ∈ t, x.call.acts = false) := by
  obtain ⟨t, trace, careful⟩ := execute_acts (b := b) s w
  refine ⟨t, trace, careful, fun looks x hx => ?_⟩
  rw [Bool.eq_false_iff]
  exact fun acts => (careful.permitted x hx acts).action_notMem looks

end Run

end Rehearsal
