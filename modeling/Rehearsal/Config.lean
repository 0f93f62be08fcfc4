import Rehearsal.Disk
import Rehearsal.Ini
import Rehearsal.Log

/-!
The configuration of a run. It is read from a file at the first look-up and kept until it is reset;
a failed reading leaves nothing behind, so the next look-up tries again.
-/
namespace Rehearsal

/-- What a run sees of the machine: the disk, and the variable that overrides the file's path. -/
structure Surroundings where
  disk : Disk
  configPath : Option String := none

structure Config where
  /-- The path given by the caller. -/
  injected : Option String
  table : Option Ini

namespace Config

def defaultPath : String := "resources/configuration/prod-app.ini"

/-- The section that steps refer to. -/
def uiSection : String := "UI"

def unread (injected : Option String) : Config := ⟨injected, none⟩

def ofIni (text : String) : Config := ⟨none, some (Ini.ofText text)⟩

/-- The overriding path unless it is empty, then the injected one, then the default. -/
def path (override injected : Option String) : String :=
  (override.filter (· ≠ "")).getD (injected.getD defaultPath)

def isLoaded (c : Config) : Bool := c.table.isSome

/-- Reads the file. -/
def read (around : Surroundings) (injected : Option String) : Except Failure Ini :=
  let path := path around.configPath injected
  if around.disk.has path then
    match around.disk.readText path with
    | .ok text => .ok (Ini.ofText text)
    | .error f => .error (.io f)
  else .error (.configMissing ("configuration file not found: " ++ path))

/-- The table, read if it is not there yet, and what is logged on reading. -/
def load (around : Surroundings) (c : Config) : Except Failure Ini × Config × List Log.Event :=
  match c.table with
  | some table => (.ok table, c, [])
  | none =>
    match read around c.injected with
    | .ok table =>
      (.ok table, { c with table := some table },
        [.configLoaded (path around.configPath c.injected), .configParsed table.sectionCount])
    | .error f => (.error f, c, [])

/-- The value of a key in a table. -/
def value (table : Ini) (name key : String) : Except Failure String :=
  match table.get? name key with
  | some v => .ok v
  | none => .error (.configMissing ("no key '" ++ key ++ "' in section [" ++ name ++ "]"))

def lookup (around : Surroundings) (c : Config) (name key : String) :
    Except Failure String × Config × List Log.Event :=
  let (table, c, events) := c.load around
  (table.bind fun t => value t name key, c, events)

def reset (c : Config) : Config := { c with table := none }

end Config

end Rehearsal
