import Rehearsal.Proofs.Disk.Shapes
import Rehearsal.Proofs.Effects

/-!
# What a configuration overhears

The log may be kept in the file that the configuration is read from. Then what was logged before it is
read is a part of the configuration. A configuration is deaf to some events if it is the same whether or
not they were logged.
-/
namespace Rehearsal

variable {σ : Type}

namespace Log

variable {kind : Event → Bool} {log log' : List Entry}

/-- The log without the events of a kind. -/
def without (kind : Event → Bool) (log : List Entry) : List Entry :=
  log.filter fun e => !kind e.event

theorem without_concat {e : Entry} (h : kind e.event) (log : List Entry) :
    without kind (log ++ [e]) = without kind log := by
  simp [without, h]

theorem without_append_congr (h : without kind log = without kind log') (more : List Entry) :
    without kind (log ++ more) = without kind (log' ++ more) := by
  rw [without, without, List.filter_append, List.filter_append]
  exact congrArg (· ++ without kind more) h

namespace Journal

/-- A line of a journal, by its characters. -/
def chars (j : Journal) (e : Entry) : List Char :=
  let level := e.event.level.name
  j.time.textToMicros.toList ++ List.replicate (6 - level.length) ' ' ++ level.toList ++ [' '] ++
    ((e.span.map (·.text)).getD "").toList ++ e.event.speaker.target.toList ++ [':', ' '] ++
    e.event.text.toList ++ ['\n']

theorem toList_line (j : Journal) (e : Entry) : (j.line e).toList = j.chars e := by
  simp only [line, chars, String.toList_append, String.toList_ofList]
  rfl

theorem toList_join_map_line (j : Journal) (log : List Entry) :
    (String.join (log.map j.line)).toList = log.flatMap j.chars := by
  rw [String.toList_join, List.flatMap_map]
  simp only [toList_line]

end Journal

end Log

/-- What is read from a text with a log behind it. It is read off the characters, so that the lines of the
log need not be joined to one text. -/
theorem Ini.ofText_append_join (text : String) (j : Log.Journal) (log : List Log.Entry) :
    Ini.ofText (text ++ String.join (log.map j.line)) =
      (((Text.lines (text.toList ++ log.flatMap j.chars)).map fun line =>
        Line.ofChars (Text.trim line)).foldl Reading.step ⟨⟨[]⟩, none⟩).table := by
  rw [Ini.ofText, Ini.linesOf, String.toList_append, Log.Journal.toList_join_map_line]

namespace World

variable {w : World σ} {kind : Log.Event → Bool}

/-- What is read as the configuration does not hang on what the log says of events of a kind. -/
def DeafTo (kind : Log.Event → Bool) (w : World σ) : Prop :=
  ∀ log log', Log.without kind log = Log.without kind log' →
    w.config.load { w.around with disk := Log.journaled w.journal log w.around.disk } =
      w.config.load { w.around with disk := Log.journaled w.journal log' w.around.disk }

theorem deafTo_of_isLoaded (h : w.config.isLoaded) : w.DeafTo kind :=
  fun _ _ _ => Config.load_congr_of_isLoaded h _ _

theorem DeafTo.lookup_eq (deaf : w.DeafTo kind) {log : List Log.Entry}
    (same : Log.without kind w.log = Log.without kind log) (name key : String) :
    w.config.lookup w.surroundings name key =
      w.config.lookup ({ w with log } : World σ).surroundings name key :=
  Config.lookup_congr (deaf _ _ same) name key

theorem DeafTo.lookup (deaf : w.DeafTo kind) (name key : String) :
    ((Act.lookup name key).run w).2.DeafTo kind := by
  rcases Config.lookup_config w.surroundings w.config name key with still | loaded
  · intro log log' same
    simp only [Act.run_lookup, still]
    exact deaf log log' same
  · exact deafTo_of_isLoaded loaded

/-- A look-up reads what the file said before, and behind it the log that is kept there. -/
theorem lookup_in_journal {j : Log.Journal} {text : String} (unread : w.config.table = none)
    (kept : w.journal = some j)
    (found : w.around.disk.find (Config.path w.around.configPath w.config.injected) =
      .ok (.present j.file (.file text.toUTF8))) (name key : String) :
    (w.config.lookup w.surroundings name key).1 = Config.value
      (Ini.ofText (text ++ String.join ((j.filter.apply w.log).map j.line))) name key := by
  let lines := String.join ((j.filter.apply w.log).map j.line)
  have disk : w.disk = w.around.disk.append j.file lines := by
    rw [World.disk, kept]
    rfl
  have there : w.disk.has (Config.path w.around.configPath w.config.injected) := by
    obtain ⟨c, again⟩ := (w.around.disk.append_sameShape j.file lines).find_file found
    rw [disk, Disk.has, again]
  have content : w.disk.readText (Config.path w.around.configPath w.config.injected) =
      .ok (text ++ lines) := by
    rw [disk]
    exact Disk.readText_append found lines
  have read : Config.read w.surroundings w.config.injected = .ok (Ini.ofText (text ++ lines)) := by
    simp only [Config.read, surroundings, there, content, if_true]
  rw [Config.lookup, Config.load_of_read_ok unread read]
  rfl

end World

end Rehearsal
