import Rehearsal.Json.Quotation
import Rehearsal.Locator

/-!
The script that collects the visible texts of all matches of a locator in a page, in document order.
The locator stands in it as one string literal.
-/
namespace Rehearsal.Script

def stringLiteral (s : String) : String :=
  String.ofList (Json.Quotation.write s.toList)

def cssOpening : String := "Array.from(document.querySelectorAll("

def cssClosing : String := "))"

def xpathOpening : String := "(() => \x7b const r = document.evaluate("

def xpathClosing : String :=
  ", document, null, XPathResult.ORDERED_NODE_SNAPSHOT_TYPE, null); " ++
  "const out = []; for (let i = 0; i < r.snapshotLength; i++) out.push(r.snapshotItem(i)); " ++
  "return out; \x7d)()"

/-- The expression for the list of matches. -/
def nodes : Locator → String
  | .css selector => cssOpening ++ stringLiteral selector ++ cssClosing
  | .xpath path => xpathOpening ++ stringLiteral path ++ xpathClosing

def texts (l : Locator) : String :=
  nodes l ++ ".map(n => n.innerText ?? n.textContent ?? '')"

end Rehearsal.Script
