import Rehearsal.Proofs.Session.Teardown
import Rehearsal.Run

/-!
# What steps are made of

The session, its pages and the steps on them change the world in six ways only: they log, call the
backend, look up the configuration, take and give up layers, give out numbers, and wait. So a preorder
between worlds that each of these keeps is kept by every operation up to a step of a scenario, for any
backend and wherever it fails.
-/
namespace Rehearsal

variable {σ : Type}

/-- The layers below the runner, which steps are carried out by. -/
def Log.Speaker.isBelow : Log.Speaker → Bool
  | .config | .session | .page => true
  | .scenario | .runner | .program => false

/-- The relation is kept by everything that the layers below the runner do to a world. -/
structure Elements (b : Backend σ) (R : World σ → World σ → Prop) : Prop where
  logs : ∀ e : Log.Event, e.speaker.isBelow → (World.say e : Task σ Unit).Ensures R
  calls : ∀ c, (Act.ask b c).Ensures R
  looksUp : ∀ name key, (Act.lookup name key : Act σ String).Ensures R
  holds : ∀ f, (World.setLayers f : Task σ Unit).Ensures R
  issues : ∀ f, (World.setNumbers f : Act σ Unit).Ensures R
  waits : ∀ ms, (World.sleep ms : Act σ Unit).Ensures R

namespace Elements

variable {b : Backend σ} {R : World σ → World σ → Prop}

theorem say (el : Elements b R) {e : Log.Event} (below : e.speaker.isBelow) :
    (World.say e : Act σ Unit).Ensures R := el.logs e below

theorem setLayers (el : Elements b R) (f : Session → Session) :
    (World.setLayers f : Act σ Unit).Ensures R := el.holds f

variable [IsPreorder (World σ) R] (el : Elements b R)

theorem layersTask : (World.layers : Task σ Session).Ensures R := fun w => Std.Refl.refl w

theorem layers : (World.layers : Act σ Session).Ensures R := layersTask.lift

theorem numbers : (World.numbers : Act σ Issued).Ensures R := fun w => Std.Refl.refl w

theorem held (layer : String) (handle : Option Nat) :
    (Session.held layer handle : Act σ Nat).Ensures R := by
  cases handle with
  | none => exact Act.ensures_fail _
  | some n => exact Act.ensures_pure n

include el

theorem ensureEngine : (Session.ensureEngine b).Ensures R := by
  refine layers.bind fun s => ?_
  split
  · exact Act.ensures_pure ()
  · refine (el.say rfl).bind fun _ => numbers.bind fun _ => ?_
    refine ((el.calls _).mapFailure _).bind fun _ => ?_
    exact (el.issues _).bind fun _ => el.setLayers _

theorem ensureBrowser : (Session.ensureBrowser b).Ensures R := by
  refine layers.bind fun s => ?_
  split
  · exact Act.ensures_pure ()
  · refine el.ensureEngine.bind fun _ => (el.looksUp _ _).bind fun name => ?_
    refine (Act.ensures_ofExcept _).bind fun kind => ?_
    refine layers.bind fun s => (held _ _).bind fun _ => numbers.bind fun _ => ?_
    refine ((el.calls _).mapFailure _).bind fun _ => (el.say rfl).bind fun _ => ?_
    exact (el.issues _).bind fun _ => el.setLayers _

theorem ensureContext : (Session.ensureContext b).Ensures R := by
  refine layers.bind fun s => ?_
  split
  · exact Act.ensures_pure ()
  · refine el.ensureBrowser.bind fun _ => ?_
    refine layers.bind fun s => (held _ _).bind fun _ => numbers.bind fun _ => ?_
    refine ((el.calls _).mapFailure _).bind fun _ => (el.issues _).bind fun _ => ?_
    exact (el.setLayers _).bind fun _ => el.say rfl

theorem release (layer : String) (c : Call) : (Session.release b layer c).Ensures R := by
  refine (el.calls c).attempt.bind fun result => ?_
  cases result with
  | ok _ => exact Task.ensures_pure ()
  | error f => exact el.logs _ rfl

theorem pageAnswers : (Session.pageAnswers b).Ensures R := by
  refine layersTask.bind fun s => ?_
  split
  · exact Task.ensures_pure _
  · exact (el.calls _).attempt.bind fun _ => Task.ensures_pure _

theorem dropPage : (Session.dropPage b).Ensures R := by
  refine layersTask.bind fun s => ?_
  split
  · exact Task.ensures_pure _
  · exact (el.holds _).bind fun _ => (el.logs _ rfl).bind fun _ => el.release _ _

theorem ensurePage : (Session.ensurePage b).Ensures R := by
  refine el.pageAnswers.lift.bind fun alive => ?_
  cases alive with
  | true => exact Act.ensures_pure ()
  | false =>
    refine el.dropPage.lift.bind fun _ => el.ensureContext.bind fun _ => ?_
    refine layers.bind fun s => (held _ _).bind fun _ => numbers.bind fun _ => ?_
    refine ((el.calls _).mapFailure _).bind fun _ => (el.issues _).bind fun _ => ?_
    exact (el.setLayers _).bind fun _ => el.say rfl

theorem current : (Session.current b).Ensures R :=
  el.ensurePage.bind fun _ => layers.bind fun _ => held _ _

theorem surrender (name : String) (l : Layer) : (Session.surrender b name l).Ensures R := by
  refine layersTask.bind fun s => ?_
  split
  · exact Task.ensures_pure _
  · exact (el.holds _).bind fun _ => el.release _ _

theorem finish : (Session.finish b).Ensures R := by
  rw [Session.finish_eq]
  exact (el.surrender _ _).bind fun _ => el.surrender _ _

theorem create : (Session.create b).Ensures R := el.finish.lift.bind fun _ => el.ensurePage

theorem close : (Session.close b).Ensures R := by
  rw [Session.close_eq]
  exact el.finish.bind fun _ => (el.surrender _ _).bind fun _ => el.surrender _ _

theorem navigate (url : String) (wait : Bool) : (Page.navigate b url wait).Ensures R := by
  refine el.current.bind fun p => (el.say rfl).bind fun _ => (el.calls _).bind fun _ => ?_
  cases wait with
  | true => exact el.calls _
  | false => exact Act.ensures_pure ()

theorem resolveOne (p : Nat) (l : Locator) : (Page.resolveOne b p l).Ensures R := by
  refine (el.calls (.texts p l)).bind fun found => ?_
  dsimp only
  split
  · exact Act.ensures_fail _
  · exact Act.ensures_pure ()

theorem fillField (l : Locator) (text : String) : (Page.fillField b l text).Ensures R :=
  el.current.bind fun p => (el.resolveOne p l).bind fun _ => (el.calls _).mapFailure _

theorem click (l : Locator) : (Page.click b l).Ensures R :=
  el.current.bind fun p => (el.resolveOne p l).bind fun _ => (el.calls _).mapFailure _

theorem openSection (name : String) : (Page.openSection b name).Ensures R := by
  refine el.current.bind fun p => (el.calls (.texts p (sectionButton name))).bind fun found => ?_
  dsimp only
  split
  · exact (Act.ensures_fail _).bind fun _ => (el.calls _).mapFailure _
  · exact (el.calls _).mapFailure _

theorem items (column : String) : (Page.items b column).Ensures R := by
  refine (Act.ensures_ofExcept _).bind fun c => el.current.bind fun p => ?_
  exact (el.calls (.texts p c.titles)).bind fun _ => Act.ensures_pure _

theorem tagsOf (column title : String) : (Page.tagsOf b column title).Ensures R := by
  refine (Act.ensures_ofExcept _).bind fun c => el.current.bind fun p => ?_
  refine (el.calls (.texts p (c.title title))).bind fun found => ?_
  dsimp only
  split
  · refine (Act.ensures_fail _).bind fun _ => ?_
    exact (el.calls (.texts p (c.tags title))).bind fun _ => Act.ensures_pure _
  · exact (el.calls (.texts p (c.tags title))).bind fun _ => Act.ensures_pure _

theorem openLogin : (Page.openLogin b).Ensures R := by
  have address : (Page.loginAddress : Act σ String).Ensures R :=
    (el.looksUp _ _).bind fun _ => Act.ensures_pure _
  exact address.bind fun url => el.navigate url true

theorem resolve (source : Source) : (Run.resolve source : Act σ String).Ensures R := by
  cases source with
  | literal text => exact Act.ensures_pure text
  | configured name key => exact el.looksUp name key

theorem fill (source : Source) (l : Locator) :
    (Run.resolve source >>= Page.fillField b l).Ensures R :=
  (el.resolve source).bind fun text => el.fillField l text

theorem perform (a : Action) : (Run.perform b a).Ensures R := by
  cases a with
  | openLoginPage => exact el.openLogin
  | fillUsername source => exact el.fill source _
  | fillPassword source => exact el.fill source _
  | clickLogin => exact el.click _
  | logIn username password =>
    refine el.openLogin.bind fun _ => ?_
    refine (el.resolve username).bind fun text => (el.fillField _ text).bind fun _ => ?_
    refine (el.resolve password).bind fun text => (el.fillField _ text).bind fun _ => ?_
    exact el.click _
  | verifyLogin waitMs =>
    have url : (Page.currentUrl b).Ensures R := el.current.bind fun _ => el.calls _
    refine (el.waits waitMs).bind fun _ => url.bind fun url => ?_
    split
    · exact Act.ensures_fail _
    · exact Act.ensures_pure ()
  | openSection name => exact el.openSection name
  | verifyItems column expected =>
    refine (el.items column).bind fun items => ?_
    dsimp only
    split
    · exact Act.ensures_fail _
    · exact Act.ensures_pure ()
  | confirmTags column task tags =>
    refine (el.tagsOf column task).bind fun actual => ?_
    split
    · exact Act.ensures_fail _
    · exact Act.ensures_pure ()

theorem execute (s : Step) : (Run.execute b s).Ensures R :=
  (Act.ensures_ofExcept _).bind fun a => el.perform a

end Elements

end Rehearsal
