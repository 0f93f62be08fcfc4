import Rehearsal.Board
import Rehearsal.Scenario.Action
import Rehearsal.Session

/-!
What a step can do on a page. Every operation works on the page of the session, which is acquired at
its first use. An element is clicked or filled only if its locator has exactly one match.
-/
namespace Rehearsal.Page

variable {σ : Type} (b : Backend σ)

/-- How long a page may take to settle. -/
def readyTimeoutMs : Nat := 30000

def navigate (url : String) (wait : Bool) : Act σ Unit := do
  let p ← Session.current b
  World.say (.navigating url)
  Act.ask b (.goto p url)
  if wait then Act.ask b (.ready p readyTimeoutMs)

/-- Fails unless the locator has exactly one match. -/
def resolveOne (p : Nat) (l : Locator) : Act σ Unit := do
  let found := (← Act.ask b (.texts p l)).length
  if found ≠ 1 then Act.fail (.elementNotFound l.text found)

/-- A backend that cannot act on an element says why. -/
def notInteractable (l : Locator) : Failure → Failure
  | .driver reason => .elementNotInteractable l.text reason
  | other => other

def fillField (l : Locator) (text : String) : Act σ Unit := do
  let p ← Session.current b
  resolveOne b p l
  (Act.ask b (.fill p l text)).mapFailure (notInteractable l)

def click (l : Locator) : Act σ Unit := do
  let p ← Session.current b
  resolveOne b p l
  (Act.ask b (.click p l)).mapFailure (notInteractable l)

def currentUrl : Act σ String := do
  Act.ask b (.url (← Session.current b))

def title : Act σ String := do
  Act.ask b (.title (← Session.current b))

/-- Clicks the control of a section, which has to be the only one of its name. -/
def openSection (name : String) : Act σ Unit := do
  let l := sectionButton name
  let p ← Session.current b
  let found := (← Act.ask b (.texts p l)).length
  if found ≠ 1 then Act.fail (.sectionNotFound name found)
  (Act.ask b (.click p l)).mapFailure (notInteractable l)

/-- The titles of the cards of a column, in order. -/
def items (column : String) : Act σ (List String) := do
  let c ← Act.ofExcept (Column.ofName column)
  let p ← Session.current b
  return (← Act.ask b (.texts p c.titles)).map Text.collapse

/-- The tags of the card with a title. -/
def tagsOf (column title : String) : Act σ (List String) := do
  let c ← Act.ofExcept (Column.ofName column)
  let p ← Session.current b
  if (← Act.ask b (.texts p (c.title title))).isEmpty then Act.fail (.itemNotFound c.heading title)
  return cleanTags (← Act.ask b (.texts p (c.tags title)))

/-- The address of the login page. -/
def loginAddress : Act σ String := do
  return (← Act.lookupUi "baseUrlPortal") ++ "/"

def openLogin : Act σ Unit := do
  navigate b (← loginAddress) true

def fillUsername (text : String) : Act σ Unit := fillField b LoginForm.username text

def fillPassword (text : String) : Act σ Unit := fillField b LoginForm.password text

def clickLogin : Act σ Unit := click b LoginForm.signIn

end Rehearsal.Page
