import Rehearsal.Session.Backend

/-!
A scripted backend: a browser without a screen, whose pages are a table from locators to texts. Rules
say what a click or a visit changes, faults say which calls fail, and pages can crash.
-/
namespace Rehearsal

namespace Scripted

/-- What happens behind a click or a visit. -/
structure Effects where
  /-- Texts by locator; without texts the locator has no matches any more. -/
  texts : List (String × Option (List String)) := []
  url : Option String := none
  crash : Bool := false

/-- Effects of clicks on a locator, or of visits to an address. -/
structure Rule where
  trigger : String
  effects : Effects

/-- The calls that fail: those of a name, and, if given, those with a target or of certain counts. -/
structure Fault where
  call : String
  target : Option String
  counts : Option (List Nat)
  failure : Failure

def Fault.hits (f : Fault) (c : Call) (count : Nat) : Bool :=
  f.call == c.name && f.target.all (· == c.target) && f.counts.all (·.contains count)

end Scripted

structure Scripted where
  texts : List (String × List String) := []
  url : String := ""
  onClick : List Scripted.Rule := []
  onGoto : List Scripted.Rule := []
  faults : List Scripted.Fault := []
  /-- How often each call was made. -/
  counts : List (String × Nat) := []
  openContexts : List Nat := []
  openPages : List Nat := []
  deadPages : List Nat := []

namespace Scripted

def setTexts (table : List (String × List String)) (change : String × Option (List String)) :
    List (String × List String) :=
  let others := table.filter fun (l, _) => l ≠ change.1
  match change.2 with
  | some texts => (change.1, texts) :: others
  | none => others

def apply (s : Scripted) (e : Effects) : Scripted where
  texts := e.texts.foldl setTexts s.texts
  url := e.url.getD s.url
  onClick := s.onClick
  onGoto := s.onGoto
  faults := s.faults
  counts := s.counts
  openContexts := s.openContexts
  openPages := s.openPages
  deadPages := if e.crash then s.openPages ++ s.deadPages else s.deadPages

/-- Applies the first rule with the trigger. -/
def fire (s : Scripted) (rules : List Rule) (trigger : String) : Scripted :=
  match rules.find? (·.trigger = trigger) with
  | some rule => s.apply rule.effects
  | none => s

def openHandles (s : Scripted) : Nat := s.openContexts.length + s.openPages.length

/-- Counts a call. -/
def count (s : Scripted) (c : Call) : Nat × Scripted :=
  let n := (s.counts.lookup c.name).getD 0 + 1
  (n, { s with counts := (c.name, n) :: s.counts.filter fun (name, _) => name ≠ c.name })

/-- Closing takes the handle out of the open ones even if it fails. -/
def forget (s : Scripted) : Call → Scripted
  | .closePage p => { s with openPages := s.openPages.filter (· ≠ p) }
  | .closeContext c => { s with openContexts := s.openContexts.filter (· ≠ c) }
  | _ => s

/-- Why a call fails, if it does. -/
def failure? (s : Scripted) (c : Call) (count : Nat) : Option Failure :=
  if c.page?.any (s.deadPages.contains ·) then some (.driver "Target closed")
  else (s.faults.find? (·.hits c count)).map (·.failure)

/-- What a call gives and does if it succeeds. -/
def succeed (s : Scripted) : (c : Call) → c.Answer × Scripted
  | .openContext _ c => ((), { s with openContexts := c :: s.openContexts })
  | .openPage _ p => ((), { s with openPages := p :: s.openPages })
  | .title p => ("Fake " ++ toString p, s)
  | .url _ => (s.url, s)
  | .goto _ url => ((), { s with url }.fire s.onGoto url)
  | .texts _ l => ((s.texts.lookup l.text).getD [], s)
  | .click _ l => ((), s.fire s.onClick l.text)
  | .startEngine _ | .launch .. | .ready .. | .fill .. | .closePage _ | .closeContext _
  | .closeBrowser _ | .stopEngine _ => ((), s)

def backend : Backend Scripted where
  answer c s :=
    let (n, s) := s.count c
    let failure := s.failure? c n
    let s := s.forget c
    match failure with
    | some f => (.error f, s)
    | none =>
      let (answer, s) := s.succeed c
      (.ok answer, s)

end Scripted

end Rehearsal
