import Rehearsal.Proofs.Program.Reports
import Rehearsal.Proofs.Run.Story
import Rehearsal.Session.Scripted

/-!
# What the exit code tells

The program ends with 2 if it may not run its scenario, and then it has not touched the backend or any file
but its log, or if it has run in vain because the results cannot be written. Otherwise the results are on the
disk, and they tell the exit code.
-/
namespace Rehearsal

variable {σ : Type} {d : Disk}

namespace Program

theorem load_of_find {path text : String} {l : Disk.Location} {s : Scenario}
    (found : d.find path = .ok (.present l (.file text.toUTF8))) (parsed : Scenario.parse text = .ok s) :
    Scenario.load d path = .ok s := by
  simp only [Scenario.load, found, Scenario.ofFile, Disk.readText_of_find found, Disk.decode_toUTF8,
    Scenario.ofContent, parsed]

/-- The scenario is not to be run: it cannot be loaded, or it is too bad for the strict mode. -/
def Barred (o : CommandLine.Options) (d : Disk) : Prop :=
  (∃ f, Scenario.load d o.scenario = .error f) ∨
    ∃ s, Scenario.load d o.scenario = .ok s ∧ o.strict ∧ s.problems ≠ []

theorem barred_or (o : CommandLine.Options) (d : Disk) : Barred o d ∨
    ∃ s, Scenario.load d o.scenario = .ok s ∧ (o.strict → s.problems = []) := by
  cases loaded : Scenario.load d o.scenario with
  | error f => exact .inl (.inl ⟨f, loaded⟩)
  | ok s =>
    by_cases bad : o.strict ∧ s.problems ≠ []
    · exact .inl (.inr ⟨s, loaded, bad⟩)
    · refine .inr ⟨s, rfl, fun strict => ?_⟩
      exact Decidable.byContradiction fun problems => bad ⟨strict, problems⟩

theorem not_barred {o : CommandLine.Options} {s : Scenario} (loaded : Scenario.load d o.scenario = .ok s)
    (accepted : o.strict → s.problems = []) : ¬ Barred o d := by
  rintro (⟨f, fails⟩ | ⟨s', loaded', strict, problems⟩)
  · cases loaded.symm.trans fails
  · cases loaded.symm.trans loaded'
    exact problems (accepted strict)

/-- What a run starts from. -/
def outset (initial : σ) (o : CommandLine.Options) (configPath : Option String)
    (journal : Option Log.Journal) (d : Disk) (s : Scenario) : World σ :=
  { backend := initial, config := .unread o.config, around := ⟨d, configPath⟩
    log := [⟨.suitesLoaded s.suites.length, none⟩, ⟨.casesLoaded s.caseCount, none⟩], journal }

/-- What a run gives, and the world that it leaves. -/
def ran (b : Backend σ) (initial : σ) (stamp : Run.Stamp) (o : CommandLine.Options)
    (configPath : Option String) (journal : Option Log.Journal) (d : Disk) (s : Scenario) :
    Summary × World σ :=
  (Run.run b stamp (selection o) s).run (outset initial o configPath journal d s)

variable (b : Backend σ) (initial : σ) (stamp : Run.Stamp) {o : CommandLine.Options}
  (configPath : Option String) (journal : Option Log.Journal)

/-- A program that may not run its scenario calls nothing, and only writes to its log. -/
theorem carryOut_of_barred (barred : Barred o d) :
    let e := carryOut b initial stamp o configPath journal d
    e.exit = 2 ∧ e.trace = [] ∧ Log.Kept (journal.map (·.file)) d e.disk := by
  rcases barred with ⟨f, loaded⟩ | ⟨s, loaded, strict, problems⟩
  · simp only [carryOut, loaded]
    exact ⟨rfl, rfl, Log.kept_journaled ..⟩
  · have some : ¬ s.problems.isEmpty := by simpa using problems
    simp only [carryOut, loaded, strict, if_true, some, if_false, Bool.false_eq_true]
    exact ⟨rfl, rfl, (Log.kept_journaled ..).trans (Log.kept_journaled ..)⟩

/-- A run changes nothing on the disk but its log. -/
theorem kept_ran (s : Scenario) :
    Log.Kept (journal.map (·.file)) d (ran b initial stamp o configPath journal d s).2.disk := by
  let w := outset initial o configPath journal d s
  obtain ⟨_, -, -, -, suites⟩ := Run.runSuites_tells b (selection o) s.suites (w := w) rfl
  have told := Run.run_tells b stamp (selection o) s suites
  rw [ran, World.disk, told.around, told.journal]
  exact Log.kept_journaled ..

variable {s : Scenario}

theorem carryOut_of_loaded (loaded : Scenario.load d o.scenario = .ok s)
    (accepted : o.strict → s.problems = []) :
    let r := ran b initial stamp o configPath journal d s
    carryOut b initial stamp o configPath journal d =
      match Results.save r.2.disk o.reportsDir r.1 with
      | .error f => failed journal r.2.log r.2.trace f r.2.disk
      | .ok (path, disk) =>
        let last : List Log.Entry := [⟨.resultsWritten path, none⟩]
        { exit := if r.1.success then 0 else 1, log := r.2.log ++ last
          disk := Log.journaled journal last disk, trace := r.2.trace } := by
  have none : (if o.strict then s.problems else []) = [] := by
    split
    · exact accepted ‹_›
    · rfl
  simp only [carryOut, loaded, none]
  rfl

/-- A run whose results cannot be written was in vain. -/
theorem carryOut_of_not_writable (loaded : Scenario.load d o.scenario = .ok s)
    (accepted : o.strict → s.problems = []) (lost : ¬ Results.Writable d o.reportsDir) :
    let e := carryOut b initial stamp o configPath journal d
    e.exit = 2 ∧ e.trace = (ran b initial stamp o configPath journal d s).2.trace := by
  rw [← Results.writable_iff (kept_ran b initial stamp configPath journal s).shape,
    ← Results.exists_save_iff _ _ (ran b initial stamp o configPath journal d s).1] at lost
  rw [carryOut_of_loaded b initial stamp configPath journal loaded accepted]
  dsimp only
  split
  · exact ⟨rfl, rfl⟩
  · exact absurd ⟨_, ‹_›⟩ lost

/-- What a run whose results can be written comes to. -/
theorem carryOut_of_writable (loaded : Scenario.load d o.scenario = .ok s)
    (accepted : o.strict → s.problems = []) (writable : Results.Writable d o.reportsDir) :
    let r := ran b initial stamp o configPath journal d s
    let e := carryOut b initial stamp o configPath journal d
    ∃ path d', Results.save r.2.disk o.reportsDir r.1 = .ok (path, d') ∧
      e.exit = (if r.1.success then 0 else 1) ∧ e.trace = r.2.trace ∧
      e.disk = Log.journaled journal [⟨.resultsWritten path, none⟩] d' := by
  rw [← Results.writable_iff (kept_ran b initial stamp configPath journal s).shape,
    ← Results.exists_save_iff _ _ (ran b initial stamp o configPath journal d s).1] at writable
  obtain ⟨⟨path, d'⟩, saved⟩ := writable
  rw [carryOut_of_loaded b initial stamp configPath journal loaded accepted]
  refine ⟨path, d', saved, ?_⟩
  dsimp only
  rw [saved]
  exact ⟨rfl, rfl, rfl⟩

theorem carryOut_exit_iff (d : Disk) :
    (carryOut b initial stamp o configPath journal d).exit = 2 ↔
      Barred o d ∨ ¬ Results.Writable d o.reportsDir := by
  rcases barred_or o d with barred | ⟨s, loaded, accepted⟩
  · obtain ⟨fatal, -⟩ := carryOut_of_barred b initial stamp configPath journal barred
    exact iff_of_true fatal (.inl barred)
  have free := not_barred loaded accepted
  by_cases writable : Results.Writable d o.reportsDir
  · obtain ⟨_, _, -, code, -⟩ :=
      carryOut_of_writable b initial stamp configPath journal loaded accepted writable
    refine iff_of_false ?_ (by simp [free, writable])
    rw [code]
    split <;> decide
  · obtain ⟨fatal, -⟩ :=
      carryOut_of_not_writable b initial stamp configPath journal loaded accepted writable
    exact iff_of_true fatal (.inr writable)

theorem carryOut_trace (loaded : Scenario.load d o.scenario = .ok s)
    (accepted : o.strict → s.problems = []) :
    (carryOut b initial stamp o configPath journal d).trace =
      (ran b initial stamp o configPath journal d s).2.trace := by
  by_cases writable : Results.Writable d o.reportsDir
  · obtain ⟨_, _, -, -, same, -⟩ :=
      carryOut_of_writable b initial stamp configPath journal loaded accepted writable
    exact same
  · exact (carryOut_of_not_writable b initial stamp configPath journal loaded accepted writable).2

/-- If the log file is the results file, the last entries of the log follow the results. -/
theorem carryOut_of_shared {j : Log.Journal} {c : ByteArray}
    (loaded : Scenario.load d o.scenario = .ok s) (accepted : o.strict → s.problems = [])
    (settled : d.Settled o.reportsDir)
    (there : d.find (Disk.join o.reportsDir Results.fileName) .make = .ok (.present j.file (.file c))) :
    let path := Disk.join o.reportsDir Results.fileName
    let r := ran b initial stamp o configPath (some j) d s
    let e := carryOut b initial stamp o configPath (some j) d
    e.exit = (if r.1.success then 0 else 1) ∧ e.disk.readText path = .ok (r.1.write ++
      String.join ((j.filter.apply [⟨.resultsWritten path, none⟩]).map j.line)) := by
  have writable : Results.Writable d o.reportsDir :=
    ⟨d, _, settled, Disk.write_eq_ok there (.inr ⟨c, rfl⟩) _⟩
  obtain ⟨path, d', saved, code, -, last⟩ :=
    carryOut_of_writable b initial stamp configPath (some j) loaded accepted writable
  obtain ⟨_, -, -, rfl⟩ := Results.save_parts saved
  have found := Results.find_save_of_present settled there
    (kept_ran b initial stamp configPath (some j) s).shape saved
  refine ⟨code, ?_⟩
  rw [last]
  exact Disk.readText_append found _

/-- Behind the results there is a line then, so that no summary can be read from the file. -/
theorem not_parse_of_shared {j : Log.Journal} {c : ByteArray} {v : Log.Verbosity}
    (loaded : Scenario.load d o.scenario = .ok s) (accepted : o.strict → s.problems = [])
    (settled : d.Settled o.reportsDir)
    (there : d.find (Disk.join o.reportsDir Results.fileName) .make = .ok (.present j.file (.file c)))
    (filter : j.filter = .upTo v) (info : v.shows .info)
    (fits : (ran b initial stamp o configPath (some j) d s).1.Fits) :
    ∃ text, (carryOut b initial stamp o configPath (some j) d).disk.readText
      (Disk.join o.reportsDir Results.fileName) = .ok text ∧ ∀ m, Summary.parse text ≠ .ok m := by
  let last : Log.Entry := ⟨.resultsWritten (Disk.join o.reportsDir Results.fileName), none⟩
  obtain ⟨-, whole⟩ :=
    carryOut_of_shared b initial stamp configPath loaded accepted settled there
  rw [Log.Journal.join_line (e := last) filter info info] at whole
  obtain ⟨c, starts, more⟩ := j.head?_line last
  exact ⟨_, whole, Summary.not_parse_append fits starts more⟩

/-- The journal in the log file of a program, if it has one. -/
def journalIn (file? : Option Disk.Location) (shown : Log.Filter) : Option Log.Journal :=
  file?.map fun l => ⟨l, shown, stamp.startedAt⟩

theorem file_journalIn (file? : Option Disk.Location) (shown : Log.Filter) :
    (journalIn stamp file? shown).map (·.file) = file? := by
  cases file? <;> rfl

variable {env : List (String × String)} {args : List String} {shown : Log.Filter}

/-- The options are carried out on the disk on which the log file is open. -/
theorem start_eq (initial : CommandLine.Options → Disk → σ) (disk : Disk)
    (parsed : CommandLine.parse env args = .ok o) (filtered : filter o env = .ok shown) :
    let d := (opened o disk).1
    let e := carryOut b (initial o d) stamp o (env.lookup configVariable)
      (journalIn stamp (opened o disk).2 shown) d
    ∃ warning, start b initial stamp env args disk = { e with log := shown.apply e.log, warning } := by
  simp only [start, parsed, filtered, opened, journalIn]
  by_cases off : o.noLogFile
  · simp only [off, if_true]
    exact ⟨_, rfl⟩
  · simp only [off, if_false, Bool.false_eq_true]
    rcases openLog disk o.reportsDir with ⟨d, f | l⟩
    · exact ⟨_, rfl⟩
    · exact ⟨_, rfl⟩

/-- The exit code of a summary that is complete. -/
theorem exit_of_complete {m : Summary} (consistent : m.Consistent) (complete : ∀ o ∈ m.cases, o.Complete) :
    ((if m.success then 0 else 1) = 0 ↔ ∀ o ∈ m.cases, o.status = .passed) ∧
    ((if m.success then 0 else 1) = 1 ↔ ∃ o ∈ m.cases, o.status = .failed) := by
  have all := consistent.success_iff
  have some : ¬ m.success ↔ ∃ o ∈ m.cases, o.status = .failed := by
    rw [all]
    push Not
    refine exists_congr fun o => and_congr_right fun ho => ?_
    rcases (complete o ho).terminal with h | h <;> simp [h]
  by_cases h : m.success
  · simpa [h] using And.intro all some
  · simpa [h] using And.intro all some

/-- How the program ends once its command line and the filter of its log are read. It ends with 2 just if
there is nothing to run or the results cannot be written. If there is nothing to run it makes no exchange
with the backend, and changes no file but its log. Otherwise the results are on the disk, and nothing
follows them unless the log was led into their file; the exit code tells whether every case passed. -/
theorem start_exit (initial : CommandLine.Options → Disk → σ) (disk : Disk)
    (parsed : CommandLine.parse env args = .ok o) (filtered : filter o env = .ok shown) :
    let d := (opened o disk).1
    let log? := (opened o disk).2
    let e := start b initial stamp env args disk
    (e.exit = 2 ↔ Barred o d ∨ ¬ Results.Writable d o.reportsDir) ∧
    (Barred o d → e.trace = [] ∧ ∀ l, log? ≠ some l → ∀ c,
      e.disk.entry? l = some (.file c) ↔ disk.entry? l = some (.file c)) ∧
    ∀ s, Scenario.load d o.scenario = .ok s → (o.strict → s.problems = []) →
      let r := ran b (initial o d) stamp o (env.lookup configVariable) (journalIn stamp log? shown) d s
      e.trace = r.2.trace ∧ (Results.Writable d o.reportsDir →
        (∃ l more, e.disk.find (Disk.join o.reportsDir Results.fileName) =
          .ok (.present l (.file (r.1.write.toUTF8 ++ more))) ∧ (log? ≠ some l → more = .empty)) ∧
        (e.exit = 0 ↔ ∀ o ∈ r.1.cases, o.status = .passed) ∧
        (e.exit = 1 ↔ ∃ o ∈ r.1.cases, o.status = .failed)) := by
  intro d log? e
  obtain ⟨warning, started⟩ := start_eq b stamp initial disk parsed filtered
  let journal := journalIn stamp log? shown
  let configPath := env.lookup configVariable
  let e' := carryOut b (initial o d) stamp o configPath journal d
  have exit : e.exit = e'.exit := (congrArg Ending.exit started :)
  have trace : e.trace = e'.trace := (congrArg Ending.trace started :)
  have left : e.disk = e'.disk := (congrArg Ending.disk started :)
  have log : journal.map (·.file) = log? := file_journalIn stamp log? shown
  rw [exit, trace, left]
  refine ⟨carryOut_exit_iff b _ stamp configPath journal d, fun barred => ?_, fun s loaded accepted => ?_⟩
  · obtain ⟨-, silent, kept⟩ := carryOut_of_barred b (initial o d) stamp configPath journal barred
    refine ⟨silent, fun l other c => ?_⟩
    rw [kept.others l (by rwa [log])]
    exact opened_files other c
  · intro r
    refine ⟨carryOut_trace b _ stamp configPath journal loaded accepted, fun writable => ?_⟩
    obtain ⟨path, d', saved, code, -, last⟩ :=
      carryOut_of_writable b (initial o d) stamp configPath journal loaded accepted writable
    have consistent := Run.run_consistent b stamp (selection o) s
    have complete := Run.complete_run b stamp (selection o) s
    refine ⟨?_, ?_⟩
    · rw [last, ← log]
      exact Results.find_save saved (Log.kept_journaled ..)
    · rw [code]
      exact exit_of_complete (consistent _) (complete _)

/-- The options of a command line that names a scenario. -/
def plainly (scenario : String) (noLogFile : Bool) : CommandLine.Options :=
  { scenario, config := none, reportsDir := "reports", suite := none, case := none, tag := none
    chrome := none, strict := false, noLogFile, debug := false }

/-- The engine does not start, so the only case fails: it is recorded, and the results are all that is
left. -/
theorem start_exit_of_failing_case :
    let text := "\x7b\"testSuites\":[\x7b\"id\":\"S1\",\"name\":\"Portal\",\"testCases\":[" ++
      "\x7b\"id\":\"C1\",\"name\":\"Look\",\"steps\":[\x7b\"action\":\"clickLoginButton\"\x7d]\x7d]\x7d]\x7d"
    let d : Disk := ⟨[], [(["s.json"], .file text.toUTF8), (["reports"], .folder)]⟩
    let s : Scenario := ⟨[{ id := "S1", name := "Portal", cases := [{
      id := "C1", name := "Look", steps := [{ action := "clickLoginButton" }] }] }]⟩
    let o := plainly "s.json" true
    let b := Scripted.backend
    let broken : Scripted := { faults := [⟨"engine.start", none, none, .driver "no display"⟩] }
    let stamp : Run.Stamp := ⟨.zero, .epoch⟩
    let r := ran b broken stamp o none none d s
    let e := start b (fun _ _ => broken) stamp [] ["s.json", "--no-log-file"] d
    CommandLine.parse [] ["s.json", "--no-log-file"] = .ok o ∧ filter o [] = .ok (.upTo .info) ∧
      Scenario.load d o.scenario = .ok s ∧ r.1.cases.map (·.status) = [.failed] ∧ e.exit = 1 ∧
      e.trace.map (·.call) = [.startEngine 1] ∧
      ∃ l, e.disk.find "reports/test-results.json" = .ok (.present l (.file r.1.write.toUTF8)) := by
  intro text d s o b broken stamp r e
  have parsed : CommandLine.parse [] ["s.json", "--no-log-file"] = .ok o := rfl
  have filtered : filter o [] = .ok (.upTo .info) := rfl
  have scenario : Disk.Single "s.json" := by decide
  have reports : Disk.Single "reports" := by decide
  have file : Disk.Ordinary "test-results.json" := by decide
  have folder : d.entry? ["reports"] = some .folder := rfl
  have settled : d.Settled o.reportsDir := reports.settled folder
  have loaded : Scenario.load d o.scenario = .ok s :=
    load_of_find (scenario.find_file (c := text.toUTF8) rfl) (by decide +kernel)
  have path : Disk.join o.reportsDir Results.fileName = "reports/test-results.json" := by decide
  have writable : Results.Writable d o.reportsDir := by
    have free : d.entry? ["reports", "test-results.json"] = none := rfl
    have spelled : Disk.Path.ofText "reports/test-results.json" = ⟨false, ["reports", "test-results.json"]⟩ := by
      decide
    have found : d.find "reports/test-results.json" .make = .ok (.vacant ["reports", "test-results.json"]) :=
      Disk.find_of_route (by decide) spelled
        (.enter reports.ordinary (by decide) folder (.vacant 40 file (by decide) free rfl))
    have written := Disk.write_eq_ok found (.inl rfl) .empty
    rw [← path] at written
    exact ⟨d, _, settled, written⟩
  obtain ⟨-, -, goes⟩ := start_exit b stamp (fun _ _ => broken) d parsed filtered
  obtain ⟨trace, written⟩ := goes s loaded nofun
  obtain ⟨⟨l, more, found, alone⟩, -, one⟩ := written writable
  rw [alone nofun, ByteArray.append_empty, path] at found
  have statuses : r.1.cases.map (·.status) = [.failed] := by decide +kernel
  have calls : r.2.trace.map (·.call) = [.startEngine 1] := by decide +kernel
  refine ⟨parsed, filtered, loaded, statuses, one.mpr ?_, ?_, l, found⟩
  · exact List.mem_map.mp (statuses ▸ List.mem_singleton_self _)
  · rw [trace]
    exact calls

/-- A log file that is a link to the results file gets the last line of the log behind the results, so that
no summary can be read from it. -/
theorem results_lost_in_log :
    let text := "\x7b\"testSuites\":[]\x7d"
    let d : Disk := ⟨[], [(["e.json"], .file text.toUTF8), (["reports"], .folder),
      (["reports", "run.log"], .link "test-results.json")]⟩
    let e := unequipped ⟨.zero, .epoch⟩ [] ["e.json"] d
    e.exit = 0 ∧ ∃ there, e.disk.readText "reports/test-results.json" = .ok there ∧
      ∀ m, Summary.parse there ≠ .ok m := by
  intro text d e
  let o := plainly "e.json" false
  have parsed : CommandLine.parse [] ["e.json"] = .ok o := rfl
  have filtered : filter o [] = .ok (.upTo .info) := rfl
  let results : Disk.Location := ["reports", "test-results.json"]
  let d₁ := d.set results (.file .empty)
  have scenario : Disk.Single "e.json" := by decide
  have reports : Disk.Single "reports" := by decide
  have file : Disk.Single "test-results.json" := by decide
  have folder : d.entry? ["reports"] = some .folder := rfl
  have folder₁ : d₁.entry? ["reports"] = some .folder := rfl
  have opens : opened o d = (d₁, some results) := by
    have link : d.entry? ["reports", "run.log"] = some (.link "test-results.json") := rfl
    have free : d.entry? results = none := rfl
    have spelled : Disk.Path.ofText "reports/run.log" = ⟨false, ["reports", "run.log"]⟩ := by decide
    have path : Disk.join o.reportsDir logName = "reports/run.log" := by decide
    refine opened_of_vacant rfl (reports.settled folder) ?_
    rw [path]
    refine Disk.find_of_route (by decide) spelled ?_
    refine .enter reports.ordinary (by decide) folder (.follow (by decide) (by decide) (by decide) link ?_)
    rw [file.spelled]
    exact .vacant 39 file.ordinary (by decide) free rfl
  have loaded : Scenario.load d₁ o.scenario = .ok ⟨[]⟩ :=
    load_of_find (scenario.find_file (c := text.toUTF8) rfl) (by decide +kernel)
  have path : Disk.join o.reportsDir Results.fileName = "reports/test-results.json" := by decide
  have there : d₁.find (Disk.join o.reportsDir Results.fileName) .make =
      .ok (.present results (.file .empty)) := by
    rw [path]
    have content : d₁.entry? results = some (.file .empty) := rfl
    have spelled : Disk.Path.ofText "reports/test-results.json" = ⟨false, results⟩ := by decide
    exact Disk.find_of_route (by decide) spelled
      (.enter reports.ordinary (by decide) folder₁ (.file 40 file.ordinary content))
  let stamp : Run.Stamp := ⟨.zero, .epoch⟩
  let j : Log.Journal := ⟨results, .upTo .info, .epoch⟩
  obtain ⟨warning, started⟩ := start_eq Unequipped.backend stamp (fun o d => .onDisk d o.chrome) d
    parsed filtered
  rw [opens] at started
  have summary : (ran Unequipped.backend (.onDisk d₁ none) stamp o none (some j) d₁ ⟨[]⟩).1 =
    Run.tally stamp 0 [] := rfl
  obtain ⟨code, -⟩ := carryOut_of_shared Unequipped.backend (.onDisk d₁ none) stamp none (j := j)
    loaded nofun (reports.settled folder₁) there
  rw [summary] at code
  have fits : (Run.tally stamp 0 []).Fits :=
    ⟨by decide, by decide, by decide, by decide, by decide, nofun⟩
  rw [← summary] at fits
  obtain ⟨text, whole, unreadable⟩ := not_parse_of_shared Unequipped.backend (.onDisk d₁ none) stamp none
    (j := j) loaded nofun (reports.settled folder₁) there rfl rfl fits
  rw [path] at whole
  have exit : e.exit = 0 := (congrArg Ending.exit started).trans code
  have left := congrArg (·.disk.readText "reports/test-results.json") started
  exact ⟨exit, text, left.trans whole, unreadable⟩

end Program

end Rehearsal
