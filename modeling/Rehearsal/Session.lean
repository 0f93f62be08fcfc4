import Rehearsal.Session.Task

/-!
The life of a session. A session is a chain of layers: engine, browser, context, page. A layer is
acquired when it is needed and kept; layers are released newest first, and a failing release is logged
and has no other effect.
-/
namespace Rehearsal.Session

variable {σ : Type} (b : Backend σ)

/-- A failure to acquire a layer, with the failure of the backend as the reason. -/
def notAcquired : Failure → Failure
  | .sessionNotAcquired reason => .sessionNotAcquired reason
  | other => .sessionNotAcquired other.message

/-- A layer that has just been acquired. -/
def held (layer : String) (handle : Option Nat) : Act σ Nat :=
  match handle with
  | some h => pure h
  | none => Act.fail (.sessionNotAcquired (layer ++ " layer unavailable"))

def ensureEngine : Act σ Unit := do
  if (← World.layers).engine.isSome then return
  World.say .engineStarting
  let n := (← World.numbers).engine + 1
  (Act.ask b (.startEngine n)).mapFailure notAcquired
  World.setNumbers fun i => { i with engine := n }
  World.setLayers fun s => { s with engine := some n }

def ensureBrowser : Act σ Unit := do
  if (← World.layers).browser.isSome then return
  ensureEngine b
  let kind ← Act.ofExcept (BrowserKind.ofName (← Act.lookupUi "browserType"))
  let engine ← held "engine" (← World.layers).engine
  let n := (← World.numbers).browser + 1
  (Act.ask b (.launch engine n kind)).mapFailure notAcquired
  World.say (.browserLaunched kind)
  World.setNumbers fun i => { i with browser := n }
  World.setLayers fun s => { s with browser := some n }

def ensureContext : Act σ Unit := do
  if (← World.layers).context.isSome then return
  ensureBrowser b
  let browser ← held "browser" (← World.layers).browser
  let n := (← World.numbers).tab + 1
  (Act.ask b (.openContext browser n)).mapFailure notAcquired
  World.setNumbers fun i => { i with tab := n }
  World.setLayers fun s => { s with context := some n }
  World.say .contextCreated

/-- Releases a handle; a failure is only logged. -/
def release (layer : String) (c : Call) : Task σ Unit := do
  match ← (Act.ask b c).attempt with
  | .ok _ => pure ()
  | .error f => World.say (.releaseFailed layer f)

/-- Whether there is a page and it answers. -/
def pageAnswers : Task σ Bool := do
  match (← World.layers).page with
  | none => return false
  | some p => return (← (Act.ask b (.title p)).attempt).isOk

/-- Gives up a page that does not answer. -/
def dropPage : Task σ Unit := do
  match (← World.layers).page with
  | none => pure ()
  | some p =>
    World.setLayers fun s => { s with page := none }
    World.say .pageUnresponsive
    release b "page" (.closePage p)

/-- A page that does not answer is closed and replaced. -/
def ensurePage : Act σ Unit := do
  if ← pageAnswers b then return
  dropPage b
  ensureContext b
  let context ← held "context" (← World.layers).context
  let n := (← World.numbers).tab + 1
  (Act.ask b (.openPage context n)).mapFailure notAcquired
  World.setNumbers fun i => { i with tab := n }
  World.setLayers fun s => { s with page := some n }
  World.say .pageOpened

/-- The page of the session, with every missing layer acquired first. -/
def current : Act σ Nat := do
  ensurePage b
  held "page" (← World.layers).page

/-- Releases page and context. -/
def finish : Task σ Unit := do
  if let some p := (← World.layers).page then
    World.setLayers fun s => { s with page := none }
    release b "page" (.closePage p)
  if let some c := (← World.layers).context then
    World.setLayers fun s => { s with context := none }
    release b "context" (.closeContext c)

/-- A fresh context and page on the shared browser. -/
def create : Act σ Unit := do
  finish b
  ensurePage b

/-- Releases every layer, newest first. -/
def close : Task σ Unit := do
  finish b
  if let some h := (← World.layers).browser then
    World.setLayers fun s => { s with browser := none }
    release b "browser" (.closeBrowser h)
  if let some h := (← World.layers).engine then
    World.setLayers fun s => { s with engine := none }
    release b "engine" (.stopEngine h)

end Rehearsal.Session
