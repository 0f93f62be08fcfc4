import Rehearsal.Config

/-!
# Reading the configuration

To load the configuration gives the table that is there, or reads it. Where that succeeds the table is
there afterwards, and where it fails nothing has changed.
-/
namespace Rehearsal.Config

variable {around : Surroundings} {c : Config}

theorem load_of_table {table : Ini} (h : c.table = some table) :
    c.load around = (.ok table, c, []) := by
  rw [load, h]

theorem load_of_read_ok (unread : c.table = none) {table : Ini}
    (h : read around c.injected = .ok table) : c.load around =
      (.ok table, { c with table := some table },
        [.configLoaded (path around.configPath c.injected), .configParsed table.sectionCount]) := by
  simp only [load, unread, h]

theorem load_of_read_error (unread : c.table = none) {f : Failure}
    (h : read around c.injected = .error f) : c.load around = (.error f, c, []) := by
  simp only [load, unread, h]

/-- The three things that loading can come to. -/
theorem load_cases (around : Surroundings) (c : Config) :
    (∃ table, c.table = some table ∧ c.load around = (.ok table, c, [])) ∨
    (∃ table, c.table = none ∧ read around c.injected = .ok table ∧ c.load around =
      (.ok table, { c with table := some table },
        [.configLoaded (path around.configPath c.injected), .configParsed table.sectionCount])) ∨
    ∃ f, c.table = none ∧ read around c.injected = .error f ∧ c.load around = (.error f, c, []) := by
  cases h : c.table with
  | some table => exact .inl ⟨table, rfl, load_of_table h⟩
  | none =>
    cases hread : read around c.injected with
    | ok table => exact .inr (.inl ⟨table, rfl, rfl, load_of_read_ok h hread⟩)
    | error f => exact .inr (.inr ⟨f, rfl, rfl, load_of_read_error h hread⟩)

theorem read_error {injected : Option String} {f : Failure} (h : read around injected = .error f) :
    (∃ what, f = .configMissing what) ∨ ∃ fault, f = .io fault := by
  simp only [read] at h
  split at h
  · split at h
    · cases h
    · cases h
      exact .inr ⟨_, rfl⟩
  · cases h
    exact .inl ⟨_, rfl⟩

theorem value_error {table : Ini} {name key : String} {f : Failure}
    (h : value table name key = .error f) : ∃ what, f = .configMissing what := by
  unfold value at h
  split at h
  · cases h
  · cases h
    exact ⟨_, rfl⟩

/-- A look-up fails if the file or the key is missing, or if the file cannot be read. -/
theorem lookup_error {name key : String} {f : Failure}
    (h : (c.lookup around name key).1 = .error f) :
    (∃ what, f = .configMissing what) ∨ ∃ fault, f = .io fault := by
  change (c.load around).1.bind (fun t => value t name key) = .error f at h
  rcases load_cases around c with ⟨t, _, hl⟩ | ⟨t, _, _, hl⟩ | ⟨g, _, hread, hl⟩
  all_goals rw [hl] at h
  · exact .inl (value_error h)
  · exact .inl (value_error h)
  · cases h
    exact read_error hread

/-- After a look-up that succeeds the configuration is loaded. -/
theorem isLoaded_of_lookup {name key v : String} (h : (c.lookup around name key).1 = .ok v) :
    (c.lookup around name key).2.1.isLoaded := by
  change (c.load around).1.bind (fun t => value t name key) = .ok v at h
  change (c.load around).2.1.isLoaded
  rcases load_cases around c with ⟨t, there, hl⟩ | ⟨t, _, _, hl⟩ | ⟨g, _, _, hl⟩
  all_goals rw [hl] at h ⊢
  · simp [isLoaded, there]
  · rfl
  · cases h

/-- A look-up hangs on what is loaded only. -/
theorem lookup_congr {here there : Surroundings} (h : c.load here = c.load there)
    (name key : String) : c.lookup here name key = c.lookup there name key := by
  rw [lookup, lookup, h]

/-- A configuration that is loaded stays as it is, wherever it is. -/
theorem load_congr_of_isLoaded (h : c.isLoaded) (here there : Surroundings) :
    c.load here = c.load there := by
  obtain ⟨table, read⟩ := Option.isSome_iff_exists.mp h
  rw [load_of_table read, load_of_table read]

theorem lookup_config (around : Surroundings) (c : Config) (name key : String) :
    (c.lookup around name key).2.1 = c ∨ (c.lookup around name key).2.1.isLoaded := by
  change (c.load around).2.1 = c ∨ (c.load around).2.1.isLoaded
  rcases load_cases around c with ⟨t, _, hl⟩ | ⟨t, _, _, hl⟩ | ⟨g, _, _, hl⟩
  all_goals rw [hl]
  · exact .inl rfl
  · exact .inr rfl
  · exact .inl rfl

end Rehearsal.Config
