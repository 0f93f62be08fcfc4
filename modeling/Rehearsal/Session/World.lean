import Rehearsal.Config
import Rehearsal.Log.Journal
import Rehearsal.Session.Backend

/-!
The state that a run works on: the layers that its session holds, and all that it can look at and has
done so far.
-/
namespace Rehearsal

/-- The layers that are held, each opened from the one before it. -/
structure Session where
  engine : Option Nat := none
  browser : Option Nat := none
  context : Option Nat := none
  page : Option Nat := none
deriving DecidableEq, Repr

def Session.isEmpty (s : Session) : Bool :=
  s.engine.isNone && s.browser.isNone && s.context.isNone && s.page.isNone

/-- The last number given out to an engine, to a browser, and to a context or page. -/
structure Issued where
  engine : Nat := 0
  browser : Nat := 0
  tab : Nat := 0
deriving DecidableEq, Repr

structure World (σ : Type) where
  /-- The state of the backend. -/
  backend : σ
  config : Config
  around : Surroundings
  session : Session := {}
  issued : Issued := {}
  /-- Milliseconds spent waiting. -/
  waitedMs : Nat := 0
  trace : List Exchange := []
  log : List Log.Entry := []
  /-- The journal that the log is kept in besides. -/
  journal : Option Log.Journal := none
  span : Option Log.Span := none

namespace World

variable {σ : Type}

/-- The disk with all that was logged so far in the journal. -/
def disk (w : World σ) : Disk := Log.journaled w.journal w.log w.around.disk

/-- What can be looked at now. -/
def surroundings (w : World σ) : Surroundings := { w.around with disk := w.disk }

end World

end Rehearsal
