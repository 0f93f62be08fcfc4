import Rehearsal.Disk.Fault
import Rehearsal.Json.Fault

/-!
Failures of reading, configuring and carrying out a scenario. Each has a code, which results files
keep, and a message; `detail` shows the parts of a failure in a detailed log.
-/
namespace Rehearsal

inductive Failure
  | configMissing (what : String)
  | unsupportedBrowser (name : String)
  | sessionNotAcquired (reason : String)
  | elementNotFound (locator : String) (found : Nat)
  | elementNotInteractable (locator reason : String)
  | sectionNotFound (name : String) (found : Nat)
  | unknownSection (name : String)
  | itemNotFound (column title : String)
  | unknownAction (name : String)
  | missingField (action field : String)
  | assertionFailed (what : String)
  | unreadableScenario (reason : String)
  | driver (reason : String)
  | timeout (what : String)
  | io (fault : Disk.Fault)
  | json (report : Json.Report)
deriving DecidableEq, Repr

namespace Failure

def code : Failure → String
  | .configMissing _ => "CONFIG_MISSING"
  | .unsupportedBrowser _ => "UNSUPPORTED_BROWSER_TYPE"
  | .sessionNotAcquired _ => "SESSION_ACQUISITION_FAILED"
  | .elementNotFound .. => "ELEMENT_NOT_FOUND"
  | .elementNotInteractable .. => "ELEMENT_NOT_INTERACTABLE"
  | .sectionNotFound .. => "SECTION_NOT_FOUND"
  | .unknownSection _ => "UNKNOWN_SECTION"
  | .itemNotFound .. => "ITEM_NOT_FOUND"
  | .unknownAction _ => "UNKNOWN_ACTION"
  | .missingField .. => "MISSING_FIELD"
  | .assertionFailed _ => "ASSERTION_FAILED"
  | .unreadableScenario _ => "SCENARIO_PARSE"
  | .driver _ => "DRIVER_ERROR"
  | .timeout _ => "TIMEOUT"
  | .io _ => "IO_ERROR"
  | .json _ => "JSON_ERROR"

def message : Failure → String
  | .configMissing what => "Configuration missing: " ++ what
  | .unsupportedBrowser name => "Unsupported browser type: " ++ name
  | .sessionNotAcquired reason => "Failed to acquire browser session: " ++ reason
  | .elementNotFound locator found =>
    "Expected exactly one element for " ++ locator ++ ", found " ++ toString found
  | .elementNotInteractable locator reason =>
    "Element " ++ locator ++ " is not interactable: " ++ reason
  | .sectionNotFound name found =>
    "Section '" ++ name ++ "' not found (" ++ toString found ++ " matching controls)"
  | .unknownSection name =>
    "Unknown section: " ++ name ++ " (expected one of: todo, in-progress, review, done)"
  | .itemNotFound column title => "Item '" ++ title ++ "' not found in section '" ++ column ++ "'"
  | .unknownAction name => "Unknown action: " ++ name
  | .missingField action field => "Action '" ++ action ++ "' requires field '" ++ field ++ "'"
  | .assertionFailed what => "Assertion failed: " ++ what
  | .unreadableScenario reason => "Scenario parse error: " ++ reason
  | .driver reason => "Browser automation error: " ++ reason
  | .timeout what => "Timeout waiting for: " ++ what
  | .io fault => "IO error: " ++ fault.message
  | .json report => "JSON error: " ++ report.message

/-- A name with one text in parentheses. -/
def tagged (name text : String) : String :=
  name ++ "(" ++ Text.quoted text ++ ")"

/-- A name with labelled parts in braces. -/
def labelled (name : String) (parts : List (String × String)) : String :=
  name ++ " \x7b " ++ ", ".intercalate (parts.map fun (k, v) => k ++ ": " ++ v) ++ " \x7d"

def detail : Failure → String
  | .configMissing what => tagged "ConfigMissing" what
  | .unsupportedBrowser name => tagged "UnsupportedBrowserType" name
  | .sessionNotAcquired reason => tagged "SessionAcquisitionFailed" reason
  | .elementNotFound locator found =>
    labelled "ElementNotFound" [("locator", Text.quoted locator), ("found", toString found)]
  | .elementNotInteractable locator reason =>
    labelled "ElementNotInteractable"
      [("locator", Text.quoted locator), ("reason", Text.quoted reason)]
  | .sectionNotFound name found =>
    labelled "SectionNotFound" [("section", Text.quoted name), ("matches", toString found)]
  | .unknownSection name => tagged "UnknownSection" name
  | .itemNotFound column title =>
    labelled "ItemNotFound" [("section", Text.quoted column), ("title", Text.quoted title)]
  | .unknownAction name => tagged "UnknownAction" name
  | .missingField action field =>
    labelled "MissingField" [("action", Text.quoted action), ("field", Text.quoted field)]
  | .assertionFailed what => tagged "AssertionFailed" what
  | .unreadableScenario reason => tagged "ScenarioParse" reason
  | .driver reason => tagged "Driver" reason
  | .timeout what => tagged "Timeout" what
  | .io fault => "Io(" ++ fault.detail ++ ")"
  | .json report =>
    "Json(Error(" ++ Text.quoted report.cause.message ++ ", line: " ++ toString report.line ++
      ", column: " ++ toString report.column ++ "))"

end Failure

end Rehearsal
