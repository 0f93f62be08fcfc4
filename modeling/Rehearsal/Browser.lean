import Rehearsal.Failure
import Rehearsal.Text.Blank
import Rehearsal.Text.LowerCase

/-!
Kinds of browsers and how they are launched.
-/
namespace Rehearsal

inductive BrowserKind
  /-- Without a window. -/
  | chromium
  /-- With a visible window. -/
  | chromiumGui
deriving DecidableEq, Repr

namespace BrowserKind

/-- The kind of a name, whose case and outer blanks do not matter. -/
def ofName (name : String) : Except Failure BrowserKind :=
  match Text.lowerCase (Text.trimmed name) with
  | "chromium" => .ok .chromium
  | "chromiumgui" => .ok .chromiumGui
  | other => .error (.unsupportedBrowser other)

def name : BrowserKind → String
  | .chromium => "Chromium"
  | .chromiumGui => "ChromiumGui"

def headless : BrowserKind → Bool
  | .chromium => true
  | .chromiumGui => false

end BrowserKind

/-- Flags that give every run the same rendering environment. -/
def launchFlags : List String := [
  "--no-sandbox",
  "--start-fullscreen",
  "--kiosk",
  "--disable-dev-shm-usage",
  "--disable-gpu",
  "--disable-background-timer-throttling",
  "--disable-backgrounding-occluded-windows",
  "--disable-renderer-backgrounding",
  "--force-device-scale-factor=1.5",
  "--high-dpi-support=1",
  "--force-color-profile=srgb",
  "--disable-web-security",
  "--ignore-certificate-errors",
  "--disable-features=VizDisplayCompositor",
  "--app=about:blank"]

end Rehearsal
