import Rehearsal.Failure
import Rehearsal.Locator
import Rehearsal.Text.LowerCase
import Rehearsal.XPath

/-!
The pages that scenarios visit: a login form, a menu of sections, and a board whose columns hold cards
with a title and tags.
-/
namespace Rehearsal

namespace LoginForm

def username : Locator := .css "#username"

def password : Locator := .css "#password"

def signIn : Locator := .xpath "//button"

end LoginForm

/-- The control whose heading reads `name`. -/
def sectionButton (name : String) : Locator :=
  .xpath ("//button[.//h2[" ++ XPath.textEquals name ++ "]]")

inductive Column
  | todo
  | inProgress
  | review
  | done
deriving DecidableEq, Repr

namespace Column

/-- The column of a name, whose case and outer blanks do not matter. -/
def ofName (name : String) : Except Failure Column :=
  match Text.lowerCase (Text.trimmed name) with
  | "todo" => .ok .todo
  | "in-progress" => .ok .inProgress
  | "review" => .ok .review
  | "done" => .ok .done
  | _ => .error (.unknownSection name)

def heading : Column → String
  | .todo => "To Do"
  | .inProgress => "In Progress"
  | .review => "Review"
  | .done => "Done"

def container (c : Column) : String :=
  "//div[h2[normalize-space(text())=" ++ XPath.literal c.heading ++ "]]"

/-- The titles of all cards. -/
def titles (c : Column) : Locator := .xpath (c.container ++ "//h3")

def titlePath (c : Column) (title : String) : String :=
  c.container ++ "//h3[" ++ XPath.textEquals title ++ "]"

/-- The title of the card with this title. -/
def title (c : Column) (title : String) : Locator := .xpath (c.titlePath title)

/-- The tags in the container right behind the title of a card. -/
def tags (c : Column) (title : String) : Locator :=
  .xpath (c.titlePath title ++ "/following-sibling::*[1][self::div]//span")

end Column

end Rehearsal
