/-!
Locators: queries that name elements of a page, in one of two languages.
-/
namespace Rehearsal

inductive Locator
  | css (selector : String)
  | xpath (path : String)
deriving DecidableEq, Repr

def Locator.text : Locator → String
  | .css selector => "css=" ++ selector
  | .xpath path => "xpath=" ++ path

end Rehearsal
