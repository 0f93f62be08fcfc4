import Rehearsal.Text.Quoted

/-!
Why a file operation fails: a refusal of the operating system with its number, or contents or names
that are no text.
-/
namespace Rehearsal.Disk

inductive Refusal
  | notFound
  | accessDenied
  | exists
  | notDirectory
  | isDirectory
  | nameTooLong
  | tooManyLinks
deriving DecidableEq, Repr

def Refusal.number : Refusal → Nat
  | .notFound => 2
  | .accessDenied => 13
  | .exists => 17
  | .notDirectory => 20
  | .isDirectory => 21
  | .nameTooLong => 36
  | .tooManyLinks => 40

def Refusal.message : Refusal → String
  | .notFound => "No such file or directory"
  | .accessDenied => "Permission denied"
  | .exists => "File exists"
  | .notDirectory => "Not a directory"
  | .isDirectory => "Is a directory"
  | .nameTooLong => "File name too long"
  | .tooManyLinks => "Too many levels of symbolic links"

def Refusal.kind : Refusal → String
  | .notFound => "NotFound"
  | .accessDenied => "PermissionDenied"
  | .exists => "AlreadyExists"
  | .notDirectory => "NotADirectory"
  | .isDirectory => "IsADirectory"
  | .nameTooLong => "InvalidFilename"
  | .tooManyLinks => "FilesystemLoop"

inductive Fault
  | refused (r : Refusal)
  | notUtf8
  | nulInName
  | other (text : String)
deriving DecidableEq, Repr

def Fault.message : Fault → String
  | .refused r => r.message ++ " (os error " ++ toString r.number ++ ")"
  | .notUtf8 => "stream did not contain valid UTF-8"
  | .nulInName => "file name contained an unexpected NUL byte"
  | .other text => text

/-- The fault with its parts, as a detailed log shows it. -/
def Fault.detail : Fault → String
  | .refused r =>
    "Os \x7b code: " ++ toString r.number ++ ", kind: " ++ r.kind ++ ", message: " ++
      Text.quoted r.message ++ " \x7d"
  | .notUtf8 => "Error \x7b kind: InvalidData, message: " ++ Text.quoted (Fault.message .notUtf8) ++ " \x7d"
  | .nulInName =>
    "Error \x7b kind: InvalidInput, message: " ++ Text.quoted (Fault.message .nulInName) ++ " \x7d"
  | .other text => "Custom \x7b kind: Other, error: " ++ Text.quoted text ++ " \x7d"

end Rehearsal.Disk
