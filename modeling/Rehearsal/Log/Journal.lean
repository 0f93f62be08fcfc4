import Rehearsal.Disk
import Rehearsal.Log.Filter
import Rehearsal.Run.Timestamp

/-!
Journals: logs that are kept in a file. An entry is written when it happens, so whoever reads the file
sees the entries up to then.
-/
namespace Rehearsal.Log

/-- The file of a journal, what is kept in it, and the time that its lines bear. -/
structure Journal where
  file : Disk.Location
  filter : Filter
  time : Timestamp

namespace Journal

/-- Besides the parts of a log's line, a journal's line has the time and the part of the program that
speaks. Levels stand at the right of five columns. -/
def line (j : Journal) (e : Entry) : String :=
  let level := e.event.level.name
  j.time.textToMicros ++ String.ofList (List.replicate (6 - level.length) ' ') ++ level ++ " " ++
    (e.span.map (·.text)).getD "" ++ e.event.speaker.target ++ ": " ++ e.event.text ++ "\n"

/-- The disk with entries at the end of the journal. -/
def write (j : Journal) (log : List Entry) (d : Disk) : Disk :=
  d.append j.file (String.join ((j.filter.apply log).map j.line))

end Journal

/-- The disk with entries in the journal, if there is one. -/
def journaled (journal : Option Journal) (log : List Entry) (d : Disk) : Disk :=
  journal.elim d (·.write log d)

end Rehearsal.Log
