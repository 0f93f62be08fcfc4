import Rehearsal.Proofs.Session.Acquisition
import Rehearsal.Run

/-!
# Steps keep within the rules of the ledger

Every operation on a page first acquires the page of the session and then calls that page only. So a
step, whatever it does and wherever it fails, moves the world by acquisitions, by calls on the page
that is held, and by releases of pages that do not answer.
-/
namespace Rehearsal

variable {σ α : Type}

/-- The call needs this page to answer. -/
def Call.Uses (p : Nat) (c : Call) : Prop := c.page? = some p

namespace World

/-- Calls of one kind were made, and the books were left alone. -/
def Calls (P : Call → Prop) (w w' : World σ) : Prop :=
  w'.ledger = w.ledger ∧ ∃ t, w'.trace = w.trace ++ t ∧ ∀ x ∈ t, P x.call

variable {P Q : Call → Prop} {w w' : World σ}

theorem calls_of_eq (ledger : w'.ledger = w.ledger) (trace : w'.trace = w.trace) :
    Calls P w w' :=
  ⟨ledger, [], by simpa using trace, by simp⟩

instance : IsPreorder (World σ) (Calls P) where
  refl _ := calls_of_eq rfl rfl
  trans u v w := by
    rintro ⟨ledger, s, hs, hP⟩ ⟨ledger', t, ht, hP'⟩
    refine ⟨ledger'.trans ledger, s ++ t, by rw [ht, hs, List.append_assoc], ?_⟩
    intro x hx
    rcases List.mem_append.mp hx with hx | hx
    · exact hP x hx
    · exact hP' x hx

end World

theorem Ledger.turns_of_page {a : Ledger} {t : List Exchange} {p : Nat}
    (held : a.session.page = some p) (calls : ∀ x ∈ t, x.call.page? = some p) :
    Ledger.Turns a t a := by
  induction t with
  | nil => exact .nil a
  | cons x t ih =>
    have hx := calls x List.mem_cons_self
    refine .cons (.keep (Exchange.obtained?_of_opens?_eq_none (Call.opens?_of_page? hx))
      (Call.releases?_of_page? hx) ?_) (ih fun y hy => calls y (List.mem_cons_of_mem x hy))
    intro h on
    rw [Call.on?_of_page? hx] at on
    cases on
    exact held

/-- Calls on the page that is held are moves. -/
theorem World.Calls.moves {w w' : World σ} {p : Nat} {l : Layer}
    (calls : World.Calls (Call.Uses p) w w') (held : w.session.page = some p) :
    World.Moves (Call.Spares l) w w' := by
  obtain ⟨ledger, t, trace, hP⟩ := calls
  refine ⟨t, trace, fun x hx => Call.spares_of_page? (hP x hx), ?_⟩
  rw [ledger]
  exact Ledger.turns_of_page held hP

variable (b : Backend σ)

theorem Act.ask_uses {p : Nat} {c : Call} (h : c.page? = some p) :
    (Act.ask b c).Ensures (World.Calls (Call.Uses p)) :=
  fun w => ⟨rfl, [⟨c, (b.answer c w.backend).1⟩], rfl, by simpa [Call.Uses] using h⟩

theorem Act.lookup_moves (P : Call → Prop) (name key : String) :
    (Act.lookup name key : Act σ String).Ensures (World.Moves P) :=
  fun _ => World.moves_of_eq rfl rfl

/-- What only calls the page of the session, once it is acquired. -/
theorem Session.current_bind_moves {f : Nat → Act σ α}
    (calls : ∀ p, (f p).Ensures (World.Calls (Call.Uses p))) :
    (Session.current b >>= f).Ensures (World.Moves (Call.Spares .page)) := by
  intro w
  refine Act.bind_ensures (Session.current_moves b w) fun p v run => ?_
  exact (calls p v).moves (Session.page_of_current b run)

namespace Page

theorem navigate_moves (url : String) (wait : Bool) :
    (navigate b url wait).Ensures (World.Moves (Call.Spares .page)) := by
  refine Session.current_bind_moves b fun p => ?_
  have say : (World.say (.navigating url) : Act σ Unit).Ensures (World.Calls (Call.Uses p)) :=
    fun w => World.calls_of_eq rfl rfl
  refine say.bind fun _ => (Act.ask_uses b rfl).bind fun _ => ?_
  cases wait with
  | true => exact Act.ask_uses b rfl
  | false => exact Act.ensures_pure ()

theorem resolveOne_uses (p : Nat) (l : Locator) :
    (resolveOne b p l).Ensures (World.Calls (Call.Uses p)) := by
  have texts : (Act.ask b (.texts p l)).Ensures (World.Calls (Call.Uses p)) :=
    Act.ask_uses b rfl
  refine texts.bind fun found => ?_
  dsimp only
  split
  · exact Act.ensures_fail _
  · exact Act.ensures_pure ()

theorem fillField_moves (l : Locator) (text : String) :
    (fillField b l text).Ensures (World.Moves (Call.Spares .page)) := by
  refine Session.current_bind_moves b fun p => ?_
  exact (resolveOne_uses b p l).bind fun _ => (Act.ask_uses b rfl).mapFailure _

theorem click_moves (l : Locator) : (click b l).Ensures (World.Moves (Call.Spares .page)) := by
  refine Session.current_bind_moves b fun p => ?_
  exact (resolveOne_uses b p l).bind fun _ => (Act.ask_uses b rfl).mapFailure _

theorem currentUrl_moves : (currentUrl b).Ensures (World.Moves (Call.Spares .page)) :=
  Session.current_bind_moves b fun _ => Act.ask_uses b rfl

theorem openSection_moves (name : String) :
    (openSection b name).Ensures (World.Moves (Call.Spares .page)) := by
  refine Session.current_bind_moves b fun p => ?_
  have texts : (Act.ask b (.texts p (sectionButton name))).Ensures
      (World.Calls (Call.Uses p)) := Act.ask_uses b rfl
  refine texts.bind fun found => ?_
  dsimp only
  split
  · exact (Act.ensures_fail _).bind fun _ => (Act.ask_uses b rfl).mapFailure _
  · exact (Act.ask_uses b rfl).mapFailure _

theorem items_moves (column : String) :
    (items b column).Ensures (World.Moves (Call.Spares .page)) := by
  refine (Act.ensures_ofExcept _).bind fun c => Session.current_bind_moves b fun p => ?_
  have texts : (Act.ask b (.texts p c.titles)).Ensures (World.Calls (Call.Uses p)) :=
    Act.ask_uses b rfl
  exact texts.bind fun _ => Act.ensures_pure _

theorem tagsOf_moves (column title : String) :
    (tagsOf b column title).Ensures (World.Moves (Call.Spares .page)) := by
  refine (Act.ensures_ofExcept _).bind fun c => Session.current_bind_moves b fun p => ?_
  have texts (l : Locator) : (Act.ask b (.texts p l)).Ensures (World.Calls (Call.Uses p)) :=
    Act.ask_uses b rfl
  refine (texts (c.title title)).bind fun found => ?_
  dsimp only
  split
  · exact (Act.ensures_fail _).bind fun _ => (texts _).bind fun _ => Act.ensures_pure _
  · exact (texts _).bind fun _ => Act.ensures_pure _

theorem openLogin_moves : (openLogin b).Ensures (World.Moves (Call.Spares .page)) := by
  have address : (loginAddress : Act σ String).Ensures (World.Moves (Call.Spares .page)) :=
    (Act.lookup_moves _ _ _).bind fun _ => Act.ensures_pure _
  exact address.bind fun url => navigate_moves b url true

end Page

namespace Run

theorem resolve_moves (source : Source) :
    (resolve source : Act σ String).Ensures (World.Moves (Call.Spares .page)) := by
  cases source with
  | literal text => exact Act.ensures_pure text
  | configured name key => exact Act.lookup_moves _ name key

theorem perform_moves (a : Action) : (perform b a).Ensures (World.Moves (Call.Spares .page)) := by
  cases a with
  | openLoginPage => exact Page.openLogin_moves b
  | fillUsername source =>
    exact (resolve_moves source).bind fun text => Page.fillField_moves b _ text
  | fillPassword source =>
    exact (resolve_moves source).bind fun text => Page.fillField_moves b _ text
  | clickLogin => exact Page.click_moves b _
  | logIn username password =>
    refine (Page.openLogin_moves b).bind fun _ => ?_
    refine (resolve_moves username).bind fun text => ?_
    refine (Page.fillField_moves b _ text).bind fun _ => ?_
    refine (resolve_moves password).bind fun text => ?_
    exact (Page.fillField_moves b _ text).bind fun _ => Page.click_moves b _
  | verifyLogin waitMs =>
    have sleep : (World.sleep waitMs : Act σ Unit).Ensures (World.Moves (Call.Spares .page)) :=
      fun w => World.moves_of_eq rfl rfl
    refine sleep.bind fun _ => (Page.currentUrl_moves b).bind fun url => ?_
    split
    · exact Act.ensures_fail _
    · exact Act.ensures_pure ()
  | openSection name => exact Page.openSection_moves b name
  | verifyItems column expected =>
    refine (Page.items_moves b column).bind fun items => ?_
    dsimp only
    split
    · exact Act.ensures_fail _
    · exact Act.ensures_pure ()
  | confirmTags column task tags =>
    refine (Page.tagsOf_moves b column task).bind fun actual => ?_
    split
    · exact Act.ensures_fail _
    · exact Act.ensures_pure ()

theorem execute_moves (s : Step) : (execute b s).Ensures (World.Moves (Call.Spares .page)) :=
  (Act.ensures_ofExcept _).bind fun a => perform_moves b a

/-- By induction on the steps; only the first failure ends the run of them. -/
theorem runSteps_moves (index : Nat) (steps : List Step) :
    (runSteps b index steps).Ensures (World.Moves (Call.Spares .page)) := by
  have say (e : Log.Event) : (World.say e : Task σ Unit).Ensures
      (World.Moves (Call.Spares .page)) := fun w => World.moves_of_eq rfl rfl
  have clock : (World.clock : Task σ Nat).Ensures (World.Moves (Call.Spares .page)) :=
    fun w => World.moves_of_eq rfl rfl
  induction steps generalizing index with
  | nil => exact Task.ensures_pure _
  | cons s rest ih =>
    refine (say _).bind fun _ => clock.bind fun _ => ?_
    refine (execute_moves b s).attempt.bind fun result => clock.bind fun _ => ?_
    cases result with
    | ok _ => exact (say _).bind fun _ => (ih (index + 1)).bind fun _ => Task.ensures_pure _
    | error f => exact (say _).bind fun _ => Task.ensures_pure _

end Run

end Rehearsal
