import Rehearsal.Disk
import Rehearsal.Session.Backend

/-!
The backend of a machine without a browser: its engine starts, and launching fails.
-/
namespace Rehearsal

/-- Why no browser can be launched. -/
inductive Unequipped
  /-- No browser was named, and none was found. -/
  | noBrowser
  /-- There is nothing at the path that was named. -/
  | missing (path : String)
  /-- What is at the path is no program. -/
  | noProgram

namespace Unequipped

/-- What is found on a disk for the path of a browser, if one was named. -/
def onDisk (d : Disk) : Option String → Unequipped
  | none => .noBrowser
  | some path => if d.has path then .noProgram else .missing path

def reason : Unequipped → String
  | .noBrowser => "Could not auto detect a chrome executable"
  | .missing path => "could not canonicalize `" ++ path ++ "`"
  | .noProgram => Disk.Fault.message (.refused .accessDenied)

def backend : Backend Unequipped where
  answer c u :=
    match c with
    | .startEngine _ | .stopEngine _ => (.ok (), u)
    | .launch .. => (.error (.sessionNotAcquired u.reason), u)
    | _ => (.error (.driver u.reason), u)

end Unequipped

end Rehearsal
