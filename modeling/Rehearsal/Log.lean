import Rehearsal.Browser
import Rehearsal.Text.Terminal

/-!
Log events. An event is one thing that happened; its level, message and fields follow from it. An
entry is an event with the span that it happened in.
-/
namespace Rehearsal.Log

inductive Level
  | debug
  | info
  | warn
  | error
deriving DecidableEq, Repr

def Level.name : Level → String
  | .debug => "DEBUG"
  | .info => "INFO"
  | .warn => "WARN"
  | .error => "ERROR"

/-- The parts of the program that speak in a log. -/
inductive Speaker
  | config
  | scenario
  | session
  | page
  | runner
  | program
deriving DecidableEq, Repr

/-- The name of a part in a filter, behind the name of the program. -/
def Speaker.target : Speaker → String
  | .config => "scenario_runner::config"
  | .scenario => "scenario_runner::scenario"
  | .session => "scenario_runner::session"
  | .page => "scenario_runner::pages"
  | .runner => "scenario_runner::runner"
  | .program => "scenario_runner"

inductive Event
  | configLoaded (path : String)
  | configParsed (sections : Nat)
  | configReset
  | engineStarting
  | browserLaunched (kind : BrowserKind)
  | contextCreated
  | pageUnresponsive
  | pageOpened
  | releaseFailed (layer : String) (failure : Failure)
  | navigating (url : String)
  | suiteStarted (name : String)
  | caseSkipped (id : String)
  | caseStarted (name : String)
  | stepStarted (index : Nat) (action label : String)
  | stepPassed (index : Nat)
  | stepFailed (index : Nat) (failure : Failure)
  | casePassed (name : String)
  | caseFailed (name : String) (failure : Failure)
  | caseFailureDetail (failure : Failure)
  | tallied (passed failed total durationMs : Nat)
  | suitesLoaded (count : Nat)
  | casesLoaded (count : Nat)
  | problemFound (text : String)
  | resultsWritten (path : String)
  | programFailed (failure : Failure)
deriving DecidableEq, Repr

namespace Event

def speaker : Event → Speaker
  | .configLoaded _ | .configParsed _ | .configReset => .config
  | .engineStarting | .browserLaunched _ | .contextCreated | .pageUnresponsive | .pageOpened
  | .releaseFailed .. => .session
  | .navigating _ => .page
  | .suiteStarted _ | .caseSkipped _ | .caseStarted _ | .stepStarted .. | .stepPassed _
  | .stepFailed .. | .casePassed _ | .caseFailed .. | .caseFailureDetail _ | .tallied ..
  | .resultsWritten _ => .runner
  | .suitesLoaded _ => .scenario
  | .casesLoaded _ | .problemFound _ | .programFailed _ => .program

def level : Event → Level
  | .configParsed _ | .configReset | .engineStarting | .contextCreated | .pageOpened
  | .navigating _ | .caseSkipped _ | .caseFailureDetail _ => .debug
  | .pageUnresponsive | .releaseFailed .. => .warn
  | .stepFailed .. | .caseFailed .. | .problemFound _ | .programFailed _ => .error
  | .configLoaded _ | .browserLaunched _ | .suiteStarted _ | .caseStarted _ | .stepStarted ..
  | .stepPassed _ | .casePassed _ | .tallied .. | .suitesLoaded _ | .casesLoaded _
  | .resultsWritten _ => .info

def message : Event → String
  | .configLoaded path => "Loaded configuration from " ++ path
  | .configParsed _ => "Configuration parsed"
  | .configReset => "Configuration reset"
  | .engineStarting => "Starting automation engine"
  | .browserLaunched _ => "Browser launched"
  | .contextCreated => "Browser context created"
  | .pageUnresponsive => "Cached page did not respond; opening a new one"
  | .pageOpened => "Page opened"
  | .releaseFailed .. => "Ignoring teardown failure"
  | .navigating _ => "Navigating"
  | .suiteStarted name => "Running test suite: " ++ name
  | .caseSkipped _ => "Skipping unselected case"
  | .caseStarted name => "Running test case: " ++ name
  | .stepStarted index _ label => "Executing step " ++ toString index ++ ": " ++ label
  | .stepPassed index => "Step " ++ toString index ++ " passed"
  | .stepFailed index failure => "Step " ++ toString index ++ " failed: " ++ failure.message
  | .casePassed name => "Test case " ++ name ++ " completed successfully"
  | .caseFailed name failure => "Test case " ++ name ++ " failed: " ++ failure.message
  | .caseFailureDetail _ => "Case failure detail"
  | .tallied passed failed total durationMs =>
    "Test Results: " ++ toString passed ++ " passed, " ++ toString failed ++ " failed, " ++
      toString total ++ " total (" ++ toString durationMs ++ " ms)"
  | .suitesLoaded count => "Loaded " ++ toString count ++ " test suites"
  | .casesLoaded count => "Loaded " ++ toString count ++ " test case(s)"
  | .problemFound text => text
  | .resultsWritten path => "Results written to: " ++ path
  | .programFailed failure => "Test runner failed: " ++ failure.message

def fields : Event → List (String × String)
  | .configParsed sections => [("sections", toString sections)]
  | .browserLaunched kind => [("kind", kind.name)]
  | .releaseFailed layer failure => [("layer", layer), ("error", failure.message)]
  | .navigating url => [("url", url)]
  | .caseSkipped id => [("case", id)]
  | .stepStarted index action _ => [("step", toString index), ("action", action)]
  | .stepPassed index => [("step", toString index)]
  | .stepFailed index failure => [("step", toString index), ("code", failure.code)]
  | .caseFailureDetail failure => [("error", failure.detail)]
  | _ => []

/-- The fields that are printed in quotes. -/
def quotedFields : List String := ["code", "layer", "url"]

/-- An event as it is printed: the message and the fields. -/
def text (e : Event) : String :=
  Text.onTerminal e.message ++ String.join (e.fields.map fun (name, text) =>
    " " ++ name ++ "=" ++ if quotedFields.contains name then Text.quoted text else text)

end Event

/-- The case that is being run. -/
structure Span where
  suite : String
  case : String
deriving DecidableEq, Repr

namespace Span

def name : String := "case"

def speaker : Speaker := .runner

def level : Level := .info

def fields (s : Span) : List (String × String) := [("suite", s.suite), ("case", s.case)]

/-- A span as it is printed in front of an event. -/
def text (s : Span) : String :=
  name ++ "\x7b" ++ " ".intercalate (s.fields.map fun (name, text) => name ++ "=" ++ text) ++ "\x7d: "

end Span

structure Entry where
  event : Event
  span : Option Span
deriving DecidableEq, Repr

namespace Entry

/-- A line of a log: the level, the case, the message and the fields. -/
def line (e : Entry) : String :=
  e.event.level.name ++ " " ++ (e.span.map (·.text)).getD "" ++ e.event.text

end Entry

end Rehearsal.Log
