import Rehearsal.Config
import Rehearsal.Scenario

/-!
Actions: what a step does. A step is decoded into an action, which fails if the action has no such
name or lacks a field.
-/
namespace Rehearsal

/-- Where a value comes from: written in the step, or looked up in the configuration. -/
inductive Source
  | literal (text : String)
  | configured (name key : String)
deriving DecidableEq, Repr

namespace Source

def marker : String := "ConfigReader"

/-- Reads the part of a reference behind the marker and its dots: nothing stands for the default key,
one name for a key of the usual section, two for a section and its key. -/
def ofReference (reference : List Char) (defaultKey : String) : Source :=
  if reference.isEmpty then .configured Config.uiSection defaultKey
  else match Text.cut '.' reference with
    | some (name, key) => .configured (String.ofList name) (String.ofList key)
    | none => .configured Config.uiSection (String.ofList reference)

/-- A text that begins with the marker, blanks aside, is a reference; any other stands for itself. -/
def ofText (raw defaultKey : String) : Source :=
  match Text.dropFront? marker.toList (Text.trim raw.toList) with
  | some rest => ofReference (rest.dropWhile (· = '.')) defaultKey
  | none => .literal raw

end Source

/-- A set of texts as its elements in ascending order. -/
abbrev TextSet := List String

namespace TextSet

def insert (x : String) : TextSet → TextSet
  | [] => [x]
  | y :: rest => if x < y then x :: y :: rest else if x = y then y :: rest else y :: insert x rest

def ofList (xs : List String) : TextSet := xs.foldr insert []

end TextSet

/-- The trimmed texts that are not empty. -/
def cleanTags (tags : List String) : List String :=
  (tags.map Text.trimmed).filter (· ≠ "")

inductive Action
  | openLoginPage
  | fillUsername (source : Source)
  | fillPassword (source : Source)
  | clickLogin
  | logIn (username password : Source)
  | verifyLogin (waitMs : Nat)
  | openSection (name : String)
  | verifyItems (column : String) (expected : List String)
  | confirmTags (column task : String) (tags : TextSet)
deriving DecidableEq, Repr

namespace Step

/-- How long a login may take before it is verified, unless the step says so. -/
def defaultWaitMs : Nat := 2000

def require (s : Step) (field : String) : Option α → Except Failure α
  | some a => .ok a
  | none => .error (.missingField s.action field)

/-- The action of a step. -/
def decode (s : Step) : Except Failure Action :=
  match s.action with
  | "navigateToLoginPage" => .ok .openLoginPage
  | "fillUsername" => do
    return .fillUsername (.ofText (← s.require "value" s.value) "email")
  | "fillPassword" => do
    return .fillPassword (.ofText (← s.require "value" s.value) "password")
  | "clickLoginButton" => .ok .clickLogin
  | "logIn" =>
    .ok (.logIn (.ofText (s.value.getD Source.marker) "email")
      (.ofText (s.password.getD Source.marker) "password"))
  | "verifySuccessfulLogin" =>
    .ok (.verifyLogin ((s.timeoutMs.map UInt64.toNat).getD defaultWaitMs))
  | "navigateToSection" => do
    return .openSection (← s.require "section" s.sectionName)
  | "verifyItemsInSection" => do
    let column ← s.require "column" s.column
    let expected ← s.require "expected" s.expected
    return .verifyItems column expected.titles
  | "confirmTags" => do
    let column ← s.require "column" s.column
    let task ← s.require "task" s.task
    let tags ← s.require "tags" s.tags
    return .confirmTags column task (.ofList (cleanTags tags))
  | other => .error (.unknownAction other)

end Step

/-- The messages of the steps of a case that do not decode, under the name of the case. -/
def Case.problems (owner : String) (c : Case) : List String :=
  c.steps.zipIdx.filterMap fun (s, i) =>
    match s.decode with
    | .ok _ => none
    | .error f =>
      some (owner ++ "/" ++ c.id ++ " step " ++ toString (i + 1) ++ ": " ++ f.message)

/-- One message for each step that does not decode, in order. -/
def Scenario.problems (s : Scenario) : List String :=
  s.suites.flatMap fun suite => suite.cases.flatMap (·.problems suite.id)

end Rehearsal
