import Rehearsal.Program
import Rehearsal.Proofs.Disk.Shapes
import Rehearsal.Proofs.Run.Results

/-!
# The folder of the reports

The program keeps its log and its results in one folder. The log grows all the while, but in one file only,
and where the results go and whether they can be written does not hang on it. What is in the results file at
last does, if some link leads the log there.
-/
namespace Rehearsal

variable {d d' : Disk}

/-- The disks differ in what is in the file of a log at most, and that has only got longer. -/
structure Log.Kept (file? : Option Disk.Location) (d d' : Disk) : Prop where
  shape : Disk.SameShape d d'
  others : ∀ l, file? ≠ some l → d'.entry? l = d.entry? l
  longer : ∀ l c, d.entry? l = some (.file c) → ∃ more, d'.entry? l = some (.file (c ++ more))

namespace Log

theorem Kept.trans {file? : Option Disk.Location} {d'' : Disk} (h : Kept file? d d')
    (h' : Kept file? d' d'') : Kept file? d d'' where
  shape := h.shape.trans h'.shape
  others l other := (h'.others l other).trans (h.others l other)
  longer l c there := by
    obtain ⟨more, there'⟩ := h.longer l c there
    obtain ⟨more', there''⟩ := h'.longer l _ there'
    exact ⟨more ++ more', by rw [there'', ByteArray.append_assoc]⟩

theorem kept_journaled (journal : Option Journal) (log : List Entry) (d : Disk) :
    Kept (journal.map (·.file)) d (journaled journal log d) := by
  cases journal with
  | none => exact ⟨.refl d, fun _ _ => rfl, fun l c there => ⟨.empty, by rwa [ByteArray.append_empty]⟩⟩
  | some j =>
    let text := String.join ((j.filter.apply log).map j.line)
    have same : Disk.SameBut j.file d (d.append j.file text) := d.append_sameBut j.file text
    refine ⟨d.append_sameShape j.file _, fun l other => ?_, fun l c there => ?_⟩
    · exact same.entry? l fun here => other (congrArg some here.symm)
    · by_cases here : l = j.file
      · subst here
        exact ⟨text.toUTF8, Disk.entry?_append there text⟩
      · refine ⟨.empty, ?_⟩
        rw [ByteArray.append_empty, ← there]
        exact same.entry? l here

/-- A line begins with the time, and so with no gap. -/
theorem Journal.head?_line (j : Journal) (e : Entry) :
    ∃ c, (j.line e).toList.head? = some c ∧ ¬ Json.Cursor.isGap c := by
  obtain ⟨c, starts, first⟩ := Timestamp.head?_textWith ('.' :: Decimal.padded 6 (j.time.nanos / 1000)) j.time
  refine ⟨c, ?_, ?_⟩
  · simp only [line, Timestamp.textToMicros, String.toList_append, List.head?_append, starts]
    rfl
  · rcases first with digit | rfl | rfl
    · simp [(Json.begins_of_isDigit digit).1]
    · decide
    · decide

theorem Journal.join_line {j : Journal} {v : Verbosity} (filter : j.filter = .upTo v)
    (info : v.shows .info) {e : Entry} (shown : v.shows e.event.level) :
    String.join ((j.filter.apply [e]).map j.line) = j.line e := by
  have all : j.filter.apply [e] = [e] := by
    rw [filter, Filter.apply_upTo info, List.filter_singleton, shown, cond_true]
  rw [all]
  simp [String.join]

end Log

namespace Results

variable {folder : String}

/-- The results can be written into the folder, which is made if it is missing. -/
def Writable (d : Disk) (folder : String) : Prop :=
  ∃ e e', d.makeFolders folder = .ok e ∧ e.write (Disk.join folder fileName) .empty = .ok e'

theorem exists_save_iff (d : Disk) (folder : String) (m : Summary) :
    (∃ saved, save d folder m = .ok saved) ↔ Writable d folder := by
  constructor
  · rintro ⟨⟨path, d'⟩, saved⟩
    obtain ⟨e, made, written, -⟩ := save_parts saved
    obtain ⟨e', written'⟩ := (Disk.SameShape.refl e).write_ok written .empty
    exact ⟨e, e', made, written'⟩
  · rintro ⟨e, e', made, written⟩
    obtain ⟨e'', written'⟩ := (Disk.SameShape.refl e).write_ok written m.write.toUTF8
    exact ⟨(Disk.join folder fileName, e''), save_eq_ok made written'⟩

theorem Writable.of_sameShape (h : Writable d folder) (same : Disk.SameShape d d') :
    Writable d' folder := by
  obtain ⟨e, e', made, written⟩ := h
  rcases same.makeFolders_alike folder with ⟨f, fails, -⟩ | ⟨k, k', here, there, alike⟩
  · cases made.symm.trans fails
  · cases made.symm.trans here
    obtain ⟨e'', written'⟩ := alike.write_ok written .empty
    exact ⟨k', e'', there, written'⟩

theorem writable_iff (same : Disk.SameShape d d') : Writable d' folder ↔ Writable d folder :=
  ⟨fun h => h.of_sameShape same.symm, fun h => h.of_sameShape same⟩

/-- What was saved is found, whatever is logged then, and nothing follows it if the log file is another
one. -/
theorem find_save {m : Summary} {path : String} {file? : Option Disk.Location}
    (saved : save d folder m = .ok (path, d')) {d'' : Disk} (kept : Log.Kept file? d' d'') :
    ∃ l more, d''.find (Disk.join folder fileName) = .ok (.present l (.file (m.write.toUTF8 ++ more))) ∧
      (file? ≠ some l → more = .empty) := by
  obtain ⟨e, -, written, rfl⟩ := save_parts saved
  obtain ⟨l, -, -, found⟩ := Disk.find_of_write written
  have there := found .see nofun
  have entry := Disk.entry?_of_find there
  have content : ∃ more, d''.entry? l = some (.file (m.write.toUTF8 ++ more)) ∧
      (file? ≠ some l → more = .empty) := by
    by_cases other : file? = some l
    · obtain ⟨more, longer⟩ := kept.longer l _ entry
      exact ⟨more, longer, fun different => absurd other different⟩
    · exact ⟨.empty, by rw [ByteArray.append_empty, kept.others l other, entry], fun _ => rfl⟩
  obtain ⟨more, entry', alone⟩ := content
  obtain ⟨c, there'⟩ := kept.shape.find_file there
  have whole := Disk.Entry.file.inj (Option.some.inj ((Disk.entry?_of_find there').symm.trans entry'))
  rw [whole] at there'
  exact ⟨l, more, there', alone⟩

/-- Where there is a results file already, the results are saved there. -/
theorem find_save_of_present {m : Summary} {path : String} {l : Disk.Location} {c : ByteArray}
    (settled : d.Settled folder)
    (there : d.find (Disk.join folder fileName) .make = .ok (.present l (.file c)))
    (same : Disk.SameShape d d') {e : Disk} (saved : save d' folder m = .ok (path, e)) :
    e.find (Disk.join folder fileName) = .ok (.present l (.file m.write.toUTF8)) := by
  obtain ⟨k, made, written, -⟩ := save_parts saved
  have same' : Disk.SameShape d k := by
    rcases same.makeFolders_alike folder with ⟨f, fails, -⟩ | ⟨k₀, k', here, there, alike⟩
    · cases settled.symm.trans fails
    · cases settled.symm.trans here
      cases made.symm.trans there
      exact alike
  obtain ⟨c', found⟩ := same'.find_file there
  rw [Disk.write_eq_ok found (.inr ⟨c', rfl⟩)] at written
  cases written
  exact Disk.find_set found (.inr ⟨c', rfl⟩) _ nofun

end Results

namespace Program

/-- The disk once the log file is open, and the location of the log file if there is one. -/
def opened (o : CommandLine.Options) (d : Disk) : Disk × Option Disk.Location :=
  if o.noLogFile then (d, none)
  else ((openLog d o.reportsDir).1, (openLog d o.reportsDir).2.toOption)

/-- To open the log file makes folders, and no file but that one. -/
theorem opened_files {o : CommandLine.Options} {l : Disk.Location} (other : (opened o d).2 ≠ some l)
    (c : ByteArray) : Disk.entry? (opened o d).1 l = some (.file c) ↔ d.entry? l = some (.file c) := by
  unfold opened at other ⊢
  split
  · rfl
  rw [if_neg ‹_›] at other
  unfold openLog at other ⊢
  cases made : d.makeFolders o.reportsDir with
  | error f => rfl
  | ok e =>
    have files := Disk.makeFolders_sameFiles made l c
    cases appended : e.openToAppend (Disk.join o.reportsDir logName) with
    | error f =>
      simp only [appended]
      exact files
    | ok there =>
      simp only [made, appended] at other ⊢
      have same := Disk.openToAppend_sameBut appended
      rw [same.entry? l fun here => other (congrArg some here.symm)]
      exact files

theorem opened_of_vacant {o : CommandLine.Options} {l : Disk.Location} (on : o.noLogFile = false)
    (settled : d.Settled o.reportsDir)
    (free : d.find (Disk.join o.reportsDir logName) .make = .ok (.vacant l)) :
    opened o d = (d.set l (.file .empty), some l) := by
  have there : d.makeFolders o.reportsDir = .ok d := settled
  simp only [opened, on, openLog, there, Disk.openToAppend, free]
  rfl

end Program

end Rehearsal
