import Rehearsal.Proofs.Run.FailFast
import Rehearsal.Proofs.Run.Login
import Rehearsal.Proofs.Session.Tandem

/-!
# Steps in tandem

What two sessions in tandem do on their pages gives the same, and so do steps. Only what is filled into a
form comes from the rest of the configuration, so that is left open here.
-/
namespace Rehearsal

variable {σ τ α : Type} {b : Backend σ} {b' : Backend τ}

/-- The step asks for the address that the page is at. -/
def Step.ReadsUrl (s : Step) : Prop := ∃ waitMs, s.decode = .ok (.verifyLogin waitMs)

instance (s : Step) : Decidable s.ReadsUrl :=
  decidable_of_iff (s.decode.toOption.any (· matches .verifyLogin _)) <| by
    rw [Step.ReadsUrl]
    cases s.decode with
    | error f => simp [Except.toOption]
    | ok a => cases a <;> simp [Except.toOption]

namespace Tandem

variable (pair : Tandem b b')

theorem navigate_agree (url : String) (wait : Bool) :
    pair.Agree pair.Rel pair.Rel (Page.navigate b url wait) (Page.navigate b' url wait) := by
  refine pair.current_bind fun p p' => (pair.sayOn_agree _ p p').bind fun _ => ?_
  refine (pair.visit_agree (.goto url) id p p').bind fun _ => ?_
  cases wait with
  | true => exact pair.visit_agree (.ready Page.readyTimeoutMs) id p p'
  | false => exact .of_pure () fun _ _ => id

theorem resolveOne_agree (p p' : Nat) (l : Locator) :
    pair.Agree (pair.On p p') (pair.On p p') (Page.resolveOne b p l) (Page.resolveOne b' p' l) := by
  refine (pair.visit_agree (.texts l) id p p').bind fun texts => ?_
  dsimp only
  split
  · exact .of_fail _ fun _ _ => pair.rel
  · exact .of_pure () fun _ _ => id

theorem fillField_agree (l : Locator) (text : String) :
    pair.Agree pair.Rel pair.Rel (Page.fillField b l text) (Page.fillField b' l text) := by
  refine pair.current_bind fun p p' => (pair.resolveOne_agree p p' l).bind fun _ => ?_
  exact (pair.visit_agree (.fill l text) id p p').mapFailure _

theorem click_agree (l : Locator) : pair.Agree pair.Rel pair.Rel (Page.click b l) (Page.click b' l) := by
  refine pair.current_bind fun p p' => (pair.resolveOne_agree p p' l).bind fun _ => ?_
  exact (pair.visit_agree (.click l) id p p').mapFailure _

theorem currentUrl_agree (h : pair.urls) :
    pair.Agree pair.Rel pair.Rel (Page.currentUrl b) (Page.currentUrl b') :=
  pair.current_bind fun _ _ => pair.visit .url fun _ => h

theorem openSection_agree (name : String) :
    pair.Agree pair.Rel pair.Rel (Page.openSection b name) (Page.openSection b' name) := by
  refine pair.current_bind fun p p' => ?_
  have click := (pair.visit_agree (.click (sectionButton name)) id p p').mapFailure
    (Page.notInteractable (sectionButton name))
  refine (pair.visit_agree (.texts (sectionButton name)) id p p').bind fun texts => ?_
  dsimp only
  split
  · exact Act.Agree.bind (Q := pair.On p p') (.of_fail _ fun _ _ => pair.rel) fun _ => click
  · exact click

theorem items_agree (column : String) :
    pair.Agree pair.Rel pair.Rel (Page.items b column) (Page.items b' column) := by
  refine (Act.Agree.of_ofExcept _ fun _ _ => id).bind fun col => pair.current_bind fun p p' => ?_
  exact (pair.visit_agree (.texts col.titles) id p p').bind fun _ => .of_pure _ fun _ _ => id

theorem tagsOf_agree (column title : String) :
    pair.Agree pair.Rel pair.Rel (Page.tagsOf b column title) (Page.tagsOf b' column title) := by
  refine (Act.Agree.of_ofExcept _ fun _ _ => id).bind fun col => pair.current_bind fun p p' => ?_
  have tags : pair.Agree (pair.On p p') (pair.On p p')
      (do return cleanTags (← Act.ask b (.texts p (col.tags title))))
      (do return cleanTags (← Act.ask b' (.texts p' (col.tags title)))) :=
    (pair.visit_agree (.texts (col.tags title)) id p p').bind fun _ => .of_pure _ fun _ _ => id
  refine (pair.visit_agree (.texts (col.title title)) id p p').bind fun found => ?_
  dsimp only
  split
  · exact Act.Agree.bind (Q := pair.On p p') (.of_fail _ fun _ _ => pair.rel) fun _ => tags
  · exact tags

theorem openLogin_agree : pair.Agree pair.Rel pair.Rel (Page.openLogin b) (Page.openLogin b') := by
  have address : pair.Agree pair.Rel pair.Rel (Page.loginAddress : Act σ String) Page.loginAddress :=
    pair.lookupUrl.bind fun _ => .of_pure _ fun _ _ => id
  exact address.bind fun url => pair.navigate_agree url true

/-- What is looked up and then filled in agrees. -/
def Fills : Prop :=
  ∀ source (l : Locator), pair.Agree pair.Rel pair.Rel (Run.resolve source >>= Page.fillField b l)
    (Run.resolve source >>= Page.fillField b' l)

open Run in
theorem perform_agree (fill : pair.Fills) (a : Action) (h : (∃ waitMs, a = .verifyLogin waitMs) → pair.urls) :
    pair.Agree pair.Rel pair.Rel (perform b a) (perform b' a) := by
  cases a with
  | openLoginPage => exact pair.openLogin_agree
  | fillUsername source => exact fill source LoginForm.username
  | fillPassword source => exact fill source LoginForm.password
  | clickLogin => exact pair.click_agree _
  | logIn username password =>
    rw [perform_logIn, perform_logIn]
    refine Act.Agree.forM _ fun a ha => ?_
    simp only [List.mem_cons, List.not_mem_nil, or_false] at ha
    rcases ha with rfl | rfl | rfl | rfl
    · exact pair.openLogin_agree
    · exact fill username LoginForm.username
    · exact fill password LoginForm.password
    · exact pair.click_agree _
  | verifyLogin waitMs =>
    have sleep : pair.Agree pair.Rel pair.Rel (World.sleep waitMs) (World.sleep waitMs) :=
      fun _ _ start => ⟨rfl, pair.sleep _ start⟩
    refine sleep.bind fun _ => (pair.currentUrl_agree (h ⟨waitMs, rfl⟩)).bind fun url => ?_
    split
    · exact .of_fail _ fun _ _ => id
    · exact .of_pure () fun _ _ => id
  | openSection name => exact pair.openSection_agree name
  | verifyItems column expected =>
    refine (pair.items_agree column).bind fun items => ?_
    dsimp only
    split
    · exact .of_fail _ fun _ _ => id
    · exact .of_pure () fun _ _ => id
  | confirmTags column task tags =>
    refine (pair.tagsOf_agree column task).bind fun actual => ?_
    split
    · exact .of_fail _ fun _ _ => id
    · exact .of_pure () fun _ _ => id

theorem execute_agree (fill : pair.Fills) (s : Step) (h : s.ReadsUrl → pair.urls) :
    pair.Agree pair.Rel pair.Rel (Run.execute b s) (Run.execute b' s) := by
  intro w w' start
  rw [Run.execute, Run.execute]
  cases decoded : s.decode with
  | error f => exact ⟨rfl, start⟩
  | ok a =>
    have reads : (∃ waitMs, a = .verifyLogin waitMs) → pair.urls := by
      rintro ⟨waitMs, rfl⟩
      exact h ⟨waitMs, decoded⟩
    exact pair.perform_agree fill a reads w w' start

/-- Steps give the same outcomes, also by clocks that started at different times. By induction on the
steps. -/
theorem runSteps_agree (fill : pair.Fills) (index : Nat) (steps : List Step)
    (h : ∀ s ∈ steps, s.ReadsUrl → pair.urls) :
    (Run.runSteps b index steps).Agree pair.Rel pair.Rel (Run.runSteps b' index steps) := by
  induction steps generalizing index with
  | nil => exact .of_pure _
  | cons s rest ih =>
    obtain ⟨first, others⟩ := List.forall_mem_cons.mp h
    intro w w' start
    have said := pair.say (.stepStarted index s.action s.label) start
    have before := pair.clock start
    rcases (pair.execute_agree fill s first).cases said with
      ⟨_, v, v', run, run', final⟩ | ⟨f, v, v', run, run', final⟩
    · have after := pair.clock final
      have took : v.waitedMs - w.waitedMs = v'.waitedMs - w'.waitedMs := by omega
      obtain ⟨same, last⟩ := ih (index + 1) others _ _ (pair.say (.stepPassed index) final)
      rw [Run.run_runSteps_of_ok b index s rest run, Run.run_runSteps_of_ok b' index s rest run']
      exact ⟨by simp only [took, same], last⟩
    · have after := pair.clock final
      have took : v.waitedMs - w.waitedMs = v'.waitedMs - w'.waitedMs := by omega
      rw [Run.run_runSteps_of_error b index s rest run, Run.run_runSteps_of_error b' index s rest run']
      exact ⟨by simp only [took], pair.say _ final⟩

end Tandem

end Rehearsal
