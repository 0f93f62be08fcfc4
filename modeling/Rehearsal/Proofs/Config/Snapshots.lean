import Rehearsal.Proofs.Config.Reading

/-!
# A configuration is a snapshot

The file of a configuration and the variable for its path may change at any moment. From the first look-up
that can read the file on, all look-ups are answered from what was read then, until the configuration is
reset. Look-ups before that try again each time.
-/
namespace Rehearsal.Config

/-- What can happen to a configuration and around it. -/
inductive Happening
  | lookup (name key : String)
  /-- Somebody asks whether the configuration is loaded. -/
  | inquiry
  | reset
  /-- Files are edited or removed. -/
  | edit (change : Disk → Disk)
  /-- The variable for the path is set or unset. -/
  | override (path : Option String)

/-- A configuration and what there is around it. -/
structure Moment where
  around : Surroundings
  config : Config

namespace Moment

def next (m : Moment) : Happening → Moment
  | .lookup name key => { m with config := (m.config.lookup m.around name key).2.1 }
  | .inquiry => m
  | .reset => { m with config := m.config.reset }
  | .edit change => { m with around := { m.around with disk := change m.around.disk } }
  | .override path => { m with around := { m.around with configPath := path } }

/-- The moment after a history, whose latest happening stands first. -/
def after (m : Moment) : List Happening → Moment
  | [] => m
  | latest :: earlier => (m.after earlier).next latest

/-- The path of the file as it is resolved now. -/
def path (m : Moment) : String := Config.path m.around.configPath m.config.injected

/-- A look-up now reads the file, and finds this text in it. -/
structure Reads (m : Moment) (text : String) : Prop where
  unloaded : ¬ m.config.isLoaded
  there : m.around.disk.has m.path
  content : m.around.disk.readText m.path = .ok text

/-- After the history there is a table since the last reset: it was there from the start, or some look-up
read it. -/
inductive Kept (m : Moment) : List Happening → Ini → Prop
  | given {history : List Happening} {t : Ini} (start : m.config.table = some t)
    (no_reset : .reset ∉ history) : Kept m history t
  | read {later earlier : List Happening} {name key text : String}
    (reads : (m.after earlier).Reads text) (no_reset : .reset ∉ later) :
    Kept m (later ++ .lookup name key :: earlier) (Ini.ofText text)

theorem read_eq_ok {m : Moment} {t : Ini} (h : Config.read m.around m.config.injected = .ok t) :
    m.around.disk.has m.path ∧ ∃ text, m.around.disk.readText m.path = .ok text ∧ t = Ini.ofText text := by
  change m.around.disk.has (Config.path m.around.configPath m.config.injected) ∧
    ∃ text, m.around.disk.readText (Config.path m.around.configPath m.config.injected) = .ok text ∧ _
  simp only [Config.read] at h
  split at h
  · rename_i there
    split at h
    · rename_i text content
      cases h
      exact ⟨there, text, content, rfl⟩
    · cases h
  · cases h

theorem Reads.read_eq {m : Moment} {text : String} (h : m.Reads text) :
    Config.read m.around m.config.injected = .ok (Ini.ofText text) := by
  have there := h.there
  have content := h.content
  rw [path] at there content
  simp only [Config.read, there, if_true, content]

theorem injected_after (m : Moment) (history : List Happening) :
    (m.after history).config.injected = m.config.injected := by
  induction history with
  | nil => rfl
  | cons latest earlier ih =>
    cases latest with
    | lookup name key =>
      change ((m.after earlier).config.load (m.after earlier).around).2.1.injected = _
      rcases load_cases (m.after earlier).around (m.after earlier).config with
        ⟨t, _, hl⟩ | ⟨t, _, _, hl⟩ | ⟨f, _, _, hl⟩
      all_goals rw [hl, ← ih]
    | _ => exact ih

/-- What is held stays as long as there is no reset. -/
theorem table_next {m : Moment} {t : Ini} (held : m.config.table = some t) {h : Happening}
    (other : h ≠ .reset) : (m.next h).config.table = some t := by
  cases h with
  | lookup name key =>
    change (m.config.load m.around).2.1.table = some t
    rw [load_of_table held, held]
  | reset => exact absurd rfl other
  | _ => exact held

theorem table_after {m : Moment} {t : Ini} (later earlier : List Happening)
    (held : (m.after earlier).config.table = some t) (no_reset : .reset ∉ later) :
    (m.after (later ++ earlier)).config.table = some t := by
  induction later with
  | nil => exact held
  | cons latest later ih =>
    rw [List.mem_cons, not_or] at no_reset
    exact table_next (ih no_reset.2) (Ne.symm no_reset.1)

theorem Reads.table_next {m : Moment} {text : String} (h : m.Reads text) (name key : String) :
    (m.next (.lookup name key)).config.table = some (Ini.ofText text) := by
  have unread : m.config.table = none := by simpa [isLoaded] using h.unloaded
  change (m.config.load m.around).2.1.table = some (Ini.ofText text)
  rw [load_of_read_ok unread h.read_eq]

theorem Kept.cons {m : Moment} {history : List Happening} {t : Ini} (h : Kept m history t)
    {latest : Happening} (other : latest ≠ .reset) : Kept m (latest :: history) t := by
  cases h with
  | given start no_reset => exact .given start (by simp [no_reset, other.symm])
  | read reads no_reset =>
    rw [← List.cons_append]
    exact .read reads (by simp [no_reset, other.symm])

/-- The table after a history is the one that is kept since the last reset. By induction on the history. -/
theorem table_after_eq_some_iff {m : Moment} {history : List Happening} {t : Ini} :
    (m.after history).config.table = some t ↔ Kept m history t := by
  constructor
  · intro held
    induction history with
    | nil => exact .given held (by simp)
    | cons latest earlier ih =>
      cases latest with
      | lookup name key =>
        change ((m.after earlier).config.load (m.after earlier).around).2.1.table = some t at held
        rcases load_cases (m.after earlier).around (m.after earlier).config with
          ⟨t, there, hl⟩ | ⟨t, unread, reads, hl⟩ | ⟨f, unread, _, hl⟩
        all_goals rw [hl] at held
        · exact (ih held).cons (by simp)
        · cases held
          obtain ⟨there, text, content, rfl⟩ := read_eq_ok reads
          have now : (m.after earlier).Reads text := ⟨by simp [isLoaded, unread], there, content⟩
          exact @Kept.read m [] earlier name key text now (by simp)
        · rw [unread] at held
          cases held
      | reset => cases held
      | inquiry => exact (ih held).cons (by simp)
      | edit change => exact (ih held).cons (by simp)
      | override path => exact (ih held).cons (by simp)
  · intro kept
    cases kept with
    | given start no_reset =>
      rw [← List.append_nil history]
      exact table_after history [] start no_reset
    | @read later earlier name key text reads no_reset =>
      exact table_after later (.lookup name key :: earlier) (reads.table_next name key) no_reset

end Moment

/-- Every look-up is answered from this table, whatever there is around, and changes nothing. -/
structure AnswersFrom (c : Config) (t : Ini) : Prop where
  found : ∀ around name key v, t.get? name key = some v → c.lookup around name key = (.ok v, c, [])
  missing : ∀ around name key, t.get? name key = none → c.lookup around name key =
    (.error (.configMissing ("no key '" ++ key ++ "' in section [" ++ name ++ "]")), c, [])

/-- Every look-up tries to read the file at this path, and leaves the configuration as it is where that
fails. -/
structure Tries (c : Config) (around : Surroundings) (path : String) : Prop where
  absent : around.disk.has path = false → ∀ name key, c.lookup around name key =
    (.error (.configMissing ("configuration file not found: " ++ path)), c, [])
  unreadable : around.disk.has path → ∀ fault, around.disk.readText path = .error fault →
    ∀ name key, c.lookup around name key = (.error (.io fault), c, [])
  readable : around.disk.has path → ∀ text, around.disk.readText path = .ok text →
    ∀ name key, (c.lookup around name key).1 = value (Ini.ofText text) name key ∧
      (c.lookup around name key).2.1 = { c with table := some (Ini.ofText text) }

theorem answersFrom_of_table {c : Config} {t : Ini} (h : c.table = some t) : c.AnswersFrom t where
  found around name key v there := by
    rw [lookup, load_of_table h]
    simp [Except.bind, value, there]
  missing around name key absent := by
    rw [lookup, load_of_table h]
    simp [Except.bind, value, absent]

theorem lookup_of_read_error {c : Config} {around : Surroundings} (unread : c.table = none) {f : Failure}
    (h : read around c.injected = .error f) (name key : String) :
    c.lookup around name key = (.error f, c, []) := by
  rw [lookup, load_of_read_error unread h]
  rfl

theorem tries_of_table {c : Config} (unread : c.table = none) (around : Surroundings) :
    c.Tries around (path around.configPath c.injected) where
  absent none := lookup_of_read_error unread (by simp [read, none])
  unreadable there fault content := lookup_of_read_error unread (by simp [read, there, content])
  readable there text content name key := by
    have reads : read around c.injected = .ok (Ini.ofText text) := by simp [read, there, content]
    rw [lookup, load_of_read_ok unread reads]
    exact ⟨rfl, rfl⟩

/-- A configuration is loaded exactly if some look-up since the last reset has read its file, or if it was
loaded from the start and never reset. Then all look-ups are answered from what was read then, whatever has
happened since. Until then every look-up resolves the path anew and tries to read the file there. -/
theorem snapshot_after (m : Moment) (history : List Happening) :
    let now := m.after history
    (now.config.isLoaded ↔ ∃ t, m.Kept history t) ∧
      (∀ t, m.Kept history t → now.config.AnswersFrom t) ∧
      (now.config.isLoaded = false →
        now.config.Tries now.around (path now.around.configPath m.config.injected)) := by
  intro now
  refine ⟨?_, fun t kept => ?_, fun unloaded => ?_⟩
  · rw [isLoaded, Option.isSome_iff_exists]
    exact exists_congr fun t => Moment.table_after_eq_some_iff
  · exact answersFrom_of_table (Moment.table_after_eq_some_iff.mpr kept)
  · rw [← m.injected_after history]
    exact tries_of_table (by simpa [isLoaded] using unloaded) now.around

end Rehearsal.Config
