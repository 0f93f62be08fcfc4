import Rehearsal.Browser
import Rehearsal.Locator

/-!
Backends: what a session asks of a browser. Handles are numbers which the session gives out when it
asks for a layer; engines and browsers are numbered apart from contexts and pages. A call names the
handles that it is about, so that a trace of calls shows which layer was opened from which.
-/
namespace Rehearsal

inductive Call
  | startEngine (engine : Nat)
  | launch (engine browser : Nat) (kind : BrowserKind)
  | openContext (browser context : Nat)
  | openPage (context page : Nat)
  | title (page : Nat)
  | url (page : Nat)
  | goto (page : Nat) (url : String)
  /-- Waits until the page has settled, for at most so many milliseconds. -/
  | ready (page : Nat) (timeoutMs : Nat)
  /-- The texts of all matches in document order. -/
  | texts (page : Nat) (locator : Locator)
  | click (page : Nat) (locator : Locator)
  | fill (page : Nat) (locator : Locator) (text : String)
  | closePage (page : Nat)
  | closeContext (context : Nat)
  | closeBrowser (browser : Nat)
  | stopEngine (engine : Nat)
deriving DecidableEq, Repr

/-- What a successful call gives. -/
@[reducible] def Call.Answer : Call → Type
  | .title _ | .url _ => String
  | .texts .. => List String
  | .startEngine _ | .launch .. | .openContext .. | .openPage .. | .goto .. | .ready .. | .click ..
  | .fill .. | .closePage _ | .closeContext _ | .closeBrowser _ | .stopEngine _ => Unit

/-- A call together with its result. -/
structure Exchange where
  call : Call
  result : Except Failure call.Answer

/-- A backend answers calls, and may remember them in its state. -/
structure Backend (σ : Type) where
  answer : (c : Call) → σ → Except Failure c.Answer × σ

namespace Call

def name : Call → String
  | .startEngine _ => "engine.start"
  | .launch .. => "browser.launch"
  | .openContext .. => "context.open"
  | .openPage .. => "page.open"
  | .title _ => "title"
  | .url _ => "url"
  | .goto .. => "goto"
  | .ready .. => "ready"
  | .texts .. => "texts"
  | .click .. => "click"
  | .fill .. => "fill"
  | .closePage _ => "page.close"
  | .closeContext _ => "context.close"
  | .closeBrowser _ => "browser.close"
  | .stopEngine _ => "engine.stop"

/-- The context or page that a call opens, uses or closes. -/
def handle? : Call → Option Nat
  | .openContext _ h | .openPage _ h | .title h | .url h | .goto h _ | .ready h _ | .texts h _
  | .click h _ | .fill h _ _ | .closePage h | .closeContext h => some h
  | .startEngine _ | .launch .. | .closeBrowser _ | .stopEngine _ => none

/-- What a call is aimed at, in words. -/
def target : Call → String
  | .launch _ _ kind =>
    "headless=" ++ toString kind.headless ++ " args=" ++ toString launchFlags.length
  | .goto _ address => address
  | .ready _ timeoutMs => toString timeoutMs
  | .texts _ l | .click _ l | .fill _ l _ => l.text
  | _ => ""

/-- The page of a call that needs the page to answer. -/
def page? : Call → Option Nat
  | .title p | .url p | .goto p _ | .ready p _ | .texts p _ | .click p _ | .fill p _ _ => some p
  | _ => none

end Call

/-- One line for an exchange: name, handle and target, and the code of a failure. The text that was
filled in is shown only if that succeeded. -/
def Exchange.line (x : Exchange) : String :=
  let handle := (x.call.handle?.map fun h => "#" ++ toString h).getD ""
  let target := if x.call.target = "" then "" else " " ++ x.call.target
  let start := x.call.name ++ handle ++ target
  match x.result, x.call with
  | .error f, _ => start ++ " -> " ++ f.code
  | .ok _, .fill _ _ text => start ++ " = " ++ text
  | .ok _, _ => start

end Rehearsal
