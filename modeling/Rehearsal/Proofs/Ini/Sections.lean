import Rehearsal.Proofs.Ini.Lines

/-!
# The last section and the last assignment count

A section is what stands behind the last header with its name, up to the next header, and a key of it has
the value that the last line of the section gives it. The table that is filled line by line, with sections
started over and values replaced on the way, holds just that.
-/
namespace Rehearsal.Ini

section
variable {α β : Type} {g : α → List α → Option β}

/-- What the last element gives that gives something, from itself and what follows it. -/
def lastOf? (g : α → List α → Option β) : List α → Option β
  | [] => none
  | a :: rest => (lastOf? g rest).or (g a rest)

theorem lastOf?_eq_some_iff {xs : List α} {b : β} : lastOf? g xs = some b ↔
    ∃ before a after, xs = before ++ a :: after ∧ g a after = some b ∧ lastOf? g after = none := by
  induction xs with
  | nil => simp [lastOf?]
  | cons x rest ih =>
    rw [lastOf?, Option.or_eq_some_iff, ih]
    constructor
    · rintro (⟨before, a, after, rfl, given, last⟩ | ⟨last, given⟩)
      · exact ⟨x :: before, a, after, rfl, given, last⟩
      · exact ⟨[], x, rest, rfl, given, last⟩
    · rintro ⟨_ | ⟨y, before⟩, a, after, eq, given, last⟩
      · cases eq
        exact .inr ⟨last, given⟩
      · cases eq
        exact .inl ⟨before, a, after, rfl, given, last⟩

theorem lastOf?_eq_none_iff {P : α → Prop} (gives : ∀ a rest, g a rest = none ↔ ¬ P a) {xs : List α} :
    lastOf? g xs = none ↔ ∀ a ∈ xs, ¬ P a := by
  induction xs with
  | nil => simp [lastOf?]
  | cons x rest ih => rw [lastOf?, Option.or_eq_none_iff, ih, gives, List.forall_mem_cons, and_comm]

theorem lastOf?_map {γ : Type} (f : γ → α) (xs : List γ) :
    lastOf? g (xs.map f) = lastOf? (fun c rest => g (f c) (rest.map f)) xs := by
  induction xs with
  | nil => rfl
  | cons x rest ih => rw [List.map_cons, lastOf?, lastOf?, ih]

/-- Nothing in front counts if there is something behind. -/
theorem lastOf?_append_of_some (xs : List α) {ys : List α} {b : β} (h : lastOf? g ys = some b) :
    lastOf? g (xs ++ ys) = some b := by
  induction xs with
  | nil => exact h
  | cons x rest ih => rw [List.cons_append, lastOf?, ih, Option.some_or]

/-- If what follows makes no difference to the elements of the first list, the second list goes first. -/
theorem lastOf?_append (xs : List α) {ys : List α} (same : ∀ a rest, g a (rest ++ ys) = g a rest) :
    lastOf? g (xs ++ ys) = (lastOf? g ys).or (lastOf? g xs) := by
  induction xs with
  | nil => simp [lastOf?]
  | cons x rest ih => rw [List.cons_append, lastOf?, lastOf?, ih, same, Option.or_assoc]

end

theorem takeWhile_eq_iff {α : Type} {p : α → Bool} {xs taken : List α} : xs.takeWhile p = taken ↔
    ∃ rest, xs = taken ++ rest ∧ (∀ a ∈ taken, p a) ∧ ∀ a, rest.head? = some a → p a = false := by
  constructor
  · rintro rfl
    refine ⟨xs.dropWhile p, List.takeWhile_append_dropWhile.symm, List.all_eq_true.mp List.all_takeWhile, ?_⟩
    intro a first
    have stops := List.head?_dropWhile_not p xs
    rwa [first] at stops
  · rintro ⟨rest, rfl, all, stops⟩
    rw [List.takeWhile_append_of_pos all]
    cases rest with
    | nil => simp
    | cons a rest => simp [stops a rfl]

theorem takeWhile_append_of_stop {α : Type} {p : α → Bool} {ys : List α} (stop : ys.takeWhile p = [])
    (xs : List α) : (xs ++ ys).takeWhile p = xs.takeWhile p := by
  induction xs with
  | nil => exact stop
  | cons x rest ih => by_cases h : p x <;> simp [h, ih]

theorem lookup_entry {α : Type} (key name : String) (a : α) (xs : List (String × α)) :
    ((key, a) :: xs).lookup name = if key = name then some a else xs.lookup name := by
  by_cases h : key = name
  · simp [h]
  · rw [List.lookup_cons, beq_false_of_ne (Ne.symm h), if_neg h]

theorem lookup_put {α : Type} (key name : String) (a : α) (xs : List (String × α)) :
    (put key a xs).lookup name = if key = name then some a else xs.lookup name := by
  induction xs with
  | nil => exact lookup_entry key name a []
  | cons x rest ih =>
    obtain ⟨k, v⟩ := x
    by_cases h : k = key
    · subst h
      simp only [put, if_true, lookup_entry]
      split <;> rfl
    · by_cases own : k = name
      · subst own
        simp [put, h, Ne.symm h]
      · simp [put, h, own, lookup_entry, ih]

def Line.opens : Line → Bool
  | .header _ => true
  | .assignment .. | .other => false

/-- The value that a line gives to a key. -/
def Line.value? (key : String) : Line → Option String
  | .assignment k v => if k = key then some v else none
  | .header _ | .other => none

/-- The lines behind the last header of a name, up to the next header. -/
def blockOf? (name : String) : List Line → Option (List Line) :=
  lastOf? fun line rest => if line = .header name then some (rest.takeWhile (!·.opens)) else none

/-- The value of a key in the lines of a section. -/
def valueOf? (key : String) : List Line → Option String := lastOf? fun line _ => line.value? key

theorem blockOf?_cons (name : String) (line : Line) (rest : List Line) :
    blockOf? name (line :: rest) = (blockOf? name rest).or
      (if line = .header name then some (rest.takeWhile (!·.opens)) else none) := rfl

theorem blockOf?_eq_none_iff {name : String} {lines : List Line} :
    blockOf? name lines = none ↔ .header name ∉ lines := by
  rw [blockOf?, lastOf?_eq_none_iff (P := (· = .header name)) (by simp)]
  exact ⟨fun others here => others _ here rfl, fun absent line here same => absent (same ▸ here)⟩

/-- Lines that begin with a header have their own sections. -/
theorem blockOf?_append (name : String) (xs : List Line) {ys : List Line}
    (opens : ∀ line, ys.head? = some line → line.opens) :
    blockOf? name (xs ++ ys) = (blockOf? name ys).or (blockOf? name xs) := by
  have stop : ys.takeWhile (!·.opens) = [] := by
    cases ys with
    | nil => rfl
    | cons line rest => simp [opens line rfl]
  refine lastOf?_append xs fun line rest => ?_
  rw [takeWhile_append_of_stop stop]

/-- What stands before a header says nothing about its section. -/
theorem blockOf?_append_header (name : String) (earlier later : List Line) :
    blockOf? name (earlier ++ .header name :: later) = blockOf? name (.header name :: later) := by
  cases found : blockOf? name (.header name :: later) with
  | none => exact absurd List.mem_cons_self (blockOf?_eq_none_iff.mp found)
  | some block => exact lastOf?_append_of_some earlier found

theorem valueOf?_cons (key : String) (line : Line) (rest : List Line) :
    valueOf? key (line :: rest) = (valueOf? key rest).or (line.value? key) := rfl

/-- The section that is open is in the table. -/
def Reading.Sound (r : Reading) : Prop :=
  ∀ name, r.current = some name → r.table.hasSection name

theorem get?_eq (t : Ini) (name key : String) :
    t.get? name key = (t.blocks.lookup name).bind (·.lookup key) := rfl

/-- What a line does to the sections. -/
theorem lookup_step {r : Reading} (sound : r.Sound) (line : Line) (name : String) :
    (r.step line).table.blocks.lookup name = match line with
      | .header other => if other = name then some [] else r.table.blocks.lookup name
      | .assignment key value =>
        if r.current = some name then (r.table.blocks.lookup name).map (put key value)
        else r.table.blocks.lookup name
      | .other => r.table.blocks.lookup name := by
  cases line with
  | header other => exact lookup_put other name [] r.table.blocks
  | other => rfl
  | assignment key value =>
    cases current : r.current with
    | none => simp [Reading.step, current]
    | some here =>
      obtain ⟨block, there⟩ := Option.isSome_iff_exists.mp (sound here current)
      have stepped : (r.step (.assignment key value)).table.blocks =
          put here (put key value block) r.table.blocks := by
        simp [Reading.step, current, there]
      simp only [stepped, lookup_put, Option.some.injEq]
      split
      · rename_i same
        rw [← same, there]
        rfl
      · rfl

theorem hasSection_step {r : Reading} (sound : r.Sound) (line : Line) (name : String) :
    (r.step line).table.hasSection name ↔ line = .header name ∨ r.table.hasSection name := by
  rw [hasSection, hasSection, lookup_step sound]
  cases line with
  | header other =>
    by_cases h : other = name <;> simp [h]
  | assignment key value =>
    by_cases h : r.current = some name <;> simp [h]
  | other => simp

theorem current_step (r : Reading) (line : Line) :
    (r.step line).current = match line with
      | .header name => some name
      | .assignment .. | .other => r.current := by
  cases line with
  | header name => rfl
  | other => rfl
  | assignment key value =>
    simp only [Reading.step]
    split
    · rfl
    · split <;> rfl

theorem Reading.Sound.step {r : Reading} (sound : r.Sound) (line : Line) : (r.step line).Sound := by
  intro name current
  rw [hasSection_step sound]
  rw [current_step] at current
  cases line with
  | header other => exact .inl (congrArg Line.header (Option.some.inj current))
  | assignment key value => exact .inr (sound name current)
  | other => exact .inr (sound name current)

theorem get?_step {r : Reading} (sound : r.Sound) (line : Line) (name key : String) :
    (r.step line).table.get? name key = match line with
      | .header other => if other = name then none else r.table.get? name key
      | .assignment k v => if r.current = some name ∧ k = key then some v else r.table.get? name key
      | .other => r.table.get? name key := by
  rw [get?_eq, get?_eq, lookup_step sound]
  cases line with
  | header other =>
    by_cases h : other = name <;> simp [h]
  | other => rfl
  | assignment k v =>
    by_cases h : r.current = some name
    · obtain ⟨block, there⟩ := Option.isSome_iff_exists.mp (sound name h)
      simp [h, there, lookup_put]
    · simp [h]

/-- By induction on the lines. What was read before counts as long as the section is not started over. -/
theorem get?_foldl (lines : List Line) {r : Reading} (sound : r.Sound) (name key : String) :
    (lines.foldl Reading.step r).table.get? name key = match blockOf? name lines with
      | some block => valueOf? key block
      | none => ((if r.current = some name then valueOf? key (lines.takeWhile (!·.opens)) else none).or
          (r.table.get? name key)) := by
  induction lines generalizing r with
  | nil => simp [blockOf?, lastOf?, valueOf?]
  | cons line rest ih =>
    rw [List.foldl_cons, ih (sound.step line), get?_step sound, current_step, blockOf?_cons]
    cases later : blockOf? name rest with
    | some block => rfl
    | none =>
      cases line with
      | header other =>
        by_cases h : other = name
        · simp [h]
        · simp [h, Line.opens, valueOf?, lastOf?]
      | assignment k v =>
        by_cases h : r.current = some name
        · by_cases own : k = key
          · simp [h, own, Line.opens, valueOf?_cons, Line.value?]
          · simp [h, own, Line.opens, valueOf?_cons, Line.value?]
        · simp [h]
      | other => simp [Line.opens, valueOf?_cons, Line.value?]

theorem hasSection_foldl (lines : List Line) {r : Reading} (sound : r.Sound) (name : String) :
    (lines.foldl Reading.step r).table.hasSection name ↔
      .header name ∈ lines ∨ r.table.hasSection name := by
  induction lines generalizing r with
  | nil => simp
  | cons line rest ih =>
    rw [List.foldl_cons, ih (sound.step line), hasSection_step sound, List.mem_cons]
    rw [or_left_comm, or_assoc, eq_comm]

theorem sound_start : Reading.Sound ⟨⟨[]⟩, none⟩ := by
  intro name current
  cases current

/-- As long as no section is open nothing is read. -/
theorem foldl_step_of_closed (t : Ini) {lines : List Line} (closed : ∀ line ∈ lines, line.opens = false) :
    lines.foldl Reading.step ⟨t, none⟩ = ⟨t, none⟩ := by
  induction lines with
  | nil => rfl
  | cons line rest ih =>
    obtain ⟨first, others⟩ := List.forall_mem_cons.mp closed
    have skipped : Reading.step ⟨t, none⟩ line = ⟨t, none⟩ := by
      cases line with
      | header name => cases first
      | _ => rfl
    rw [List.foldl_cons, skipped, ih others]

theorem get?_ofText (text name key : String) :
    (ofText text).get? name key = (blockOf? name (statements text)).bind (valueOf? key) := by
  rw [ofText_eq, get?_foldl _ sound_start]
  cases blockOf? name (statements text) <;> rfl

theorem hasSection_ofText (text name : String) :
    (ofText text).hasSection name ↔ .header name ∈ statements text := by
  rw [ofText_eq, hasSection_foldl _ sound_start]
  simp [hasSection]

/-- The lines stand in the section of a name: right behind its last header, up to the next header. -/
def Stands (lines : List (List Char)) (name : String) (own : List (List Char)) : Prop :=
  ∃ before after, lines = before ++ header name :: (own ++ after) ∧ (∀ line ∈ own, ¬ Opens line) ∧
    (∀ line, after.head? = some line → Opens line) ∧ header name ∉ after

/-- The last of the lines that set the key sets it to the value. -/
def Settles (lines : List (List Char)) (key value : String) : Prop :=
  ∃ earlier line later, lines = earlier ++ line :: later ∧ Sets line key value ∧
    ∀ other ∈ later, ∀ v, ¬ Sets other key v

theorem opens_ofChars {line : List Char} : (Line.ofChars line).opens = true ↔ Opens line := by
  rw [opens_iff]
  cases said : Line.ofChars line with
  | header name =>
    exact iff_of_true rfl ⟨name, ofChars_eq_header_iff.mp said⟩
  | _ =>
    refine iff_of_false (by simp [Line.opens]) ?_
    rintro ⟨name, rfl⟩
    rw [ofChars_header] at said
    cases said

theorem closed_iff {line : List Char} : (!(Line.ofChars line).opens) = true ↔ ¬ Opens line := by
  rw [← opens_ofChars, Bool.not_eq_true', Bool.not_eq_true]

/-- What is read as a section is what stands in it. -/
theorem blockOf?_eq_some_iff {lines : List (List Char)} {name : String} {block : List Line} :
    blockOf? name (lines.map Line.ofChars) = some block ↔
      ∃ own, Stands lines name own ∧ own.map Line.ofChars = block := by
  have unnamed (g : List (List Char) → List Line) (after : List (List Char)) :
      lastOf? (fun c rest => if Line.ofChars c = .header name then some (g rest) else none) after = none ↔
        header name ∉ after := by
    rw [lastOf?_eq_none_iff (P := fun c => Line.ofChars c = .header name) (by simp)]
    simp only [ofChars_eq_header_iff]
    exact ⟨fun others here => others _ here rfl, fun absent line here same => absent (same ▸ here)⟩
  rw [blockOf?, lastOf?_map, lastOf?_eq_some_iff]
  constructor
  · rintro ⟨before, line, after, rfl, given, last⟩
    split at given
    · rename_i named
      obtain rfl := ofChars_eq_header_iff.mp named
      rw [List.takeWhile_map] at given
      obtain ⟨rest, eq, closed, stops⟩ := takeWhile_eq_iff.mp (Eq.refl (after.takeWhile _))
      refine ⟨_, ⟨before, rest, congrArg _ (congrArg _ eq), ?_, ?_, ?_⟩, Option.some.inj given⟩
      · exact fun line here => closed_iff.mp (closed line here)
      · exact fun line first => opens_ofChars.mp (by simpa using stops line first)
      · exact fun here => (unnamed _ _).mp last (eq ▸ List.mem_append_right _ here)
    · cases given
  · rintro ⟨own, ⟨before, after, rfl, closed, stops, last⟩, rfl⟩
    refine ⟨before, header name, own ++ after, rfl, ?_, (unnamed _ _).mpr ?_⟩
    · rw [if_pos (ofChars_header name), List.takeWhile_map, takeWhile_eq_iff.mpr ⟨after, rfl, ?_, ?_⟩]
      · exact fun line here => closed_iff.mpr (closed line here)
      · exact fun line first => by simpa using opens_ofChars.mpr (stops line first)
    · rw [List.mem_append, not_or]
      exact ⟨fun here => closed _ here (opens_header name), last⟩

theorem value?_eq_some_iff {line : List Char} (counted : counts line) (closed : ¬ Opens line)
    {key value : String} :
    (Line.ofChars line).value? key = some value ↔ key ≠ "" ∧ Sets line key value := by
  have assigns : (Line.ofChars line).value? key = some value ↔
      Line.ofChars line = .assignment key value := by
    cases Line.ofChars line with
    | assignment k v => by_cases h : k = key <;> simp [Line.value?, h]
    | _ => simp [Line.value?]
  rw [assigns, ofChars_eq_assignment_iff]
  simp [counted, closed]

theorem valueOf?_eq_some_iff {lines : List (List Char)} {key value : String}
    (counted : ∀ line ∈ lines, counts line) (closed : ∀ line ∈ lines, ¬ Opens line) :
    valueOf? key (lines.map Line.ofChars) = some value ↔ key ≠ "" ∧ Settles lines key value := by
  have value {line : List Char} (here : line ∈ lines) (v : String) :
      (Line.ofChars line).value? key = some v ↔ key ≠ "" ∧ Sets line key v :=
    value?_eq_some_iff (counted line here) (closed line here)
  have unset (named : key ≠ "") {later : List (List Char)} (among : ∀ line ∈ later, line ∈ lines) :
      lastOf? (fun c _ => (Line.ofChars c).value? key) later = none ↔
        ∀ other ∈ later, ∀ v, ¬ Sets other key v := by
    rw [lastOf?_eq_none_iff (P := fun c => ∃ v, (Line.ofChars c).value? key = some v)
      fun a _ => Option.eq_none_iff_forall_ne_some.trans not_exists.symm]
    refine forall₂_congr fun other here => not_exists.trans (forall_congr' fun v => not_congr ?_)
    rw [value (among other here), and_iff_right named]
  rw [valueOf?, lastOf?_map, lastOf?_eq_some_iff]
  constructor
  · rintro ⟨earlier, line, later, rfl, given, last⟩
    obtain ⟨named, sets⟩ := (value (by simp) _).mp given
    exact ⟨named, earlier, line, later, rfl, sets, (unset named (by simp +contextual)).mp last⟩
  · rintro ⟨named, earlier, line, later, rfl, sets, last⟩
    have here : line ∈ earlier ++ line :: later := by simp
    have given := (value here _).mpr ⟨named, sets⟩
    exact ⟨earlier, line, later, rfl, given, (unset named (by simp +contextual)).mpr last⟩

theorem Stands.subset {lines own : List (List Char)} {name : String} (stands : Stands lines name own) :
    own ⊆ lines := by
  obtain ⟨before, after, rfl, -⟩ := stands
  exact fun line here => by simp [here]

theorem header_mem_statements {text name : String} :
    .header name ∈ statements text ↔ header name ∈ contents text := by
  rw [statements, List.mem_map]
  constructor
  · rintro ⟨line, here, said⟩
    exact ofChars_eq_header_iff.mp said ▸ here
  · exact fun here => ⟨_, here, ofChars_header name⟩

theorem get?_ofText_eq_some_iff {text name key value : String} :
    (ofText text).get? name key = some value ↔
      key ≠ "" ∧ ∃ own, Stands (contents text) name own ∧ Settles own key value := by
  have reads {own : List (List Char)} (stands : Stands (contents text) name own) :
      valueOf? key (own.map Line.ofChars) = some value ↔ key ≠ "" ∧ Settles own key value := by
    refine valueOf?_eq_some_iff (fun line here => (List.mem_filter.mp (stands.subset here)).2) ?_
    obtain ⟨before, after, -, closed, -⟩ := stands
    exact closed
  rw [get?_ofText, Option.bind_eq_some_iff]
  constructor
  · rintro ⟨block, found, given⟩
    obtain ⟨own, stands, rfl⟩ := blockOf?_eq_some_iff.mp found
    obtain ⟨named, settles⟩ := (reads stands).mp given
    exact ⟨named, own, stands, settles⟩
  · rintro ⟨named, own, stands, settles⟩
    exact ⟨_, blockOf?_eq_some_iff.mpr ⟨own, stands, rfl⟩, (reads stands).mpr ⟨named, settles⟩⟩

/-- A text has the sections that it has headers of, and a key has the value that it is given last in what
stands behind the last header of its section. What stands before all headers says nothing, and what stands
before a header says nothing about its section. -/
theorem last_assignment_counts (text : String) :
    (∀ name, (ofText text).hasSection name ↔ header name ∈ contents text) ∧
    (∀ name key value, (ofText text).get? name key = some value ↔
      key ≠ "" ∧ ∃ own, Stands (contents text) name own ∧ Settles own key value) ∧
    (∀ other loose, contents text = loose ++ contents other → (∀ line ∈ loose, ¬ Opens line) →
      ofText text = ofText other) ∧
    (∀ other earlier later name, contents text = earlier ++ header name :: later →
      contents other = header name :: later → ∀ key,
      (ofText text).get? name key = (ofText other).get? name key) := by
  refine ⟨fun name => ?_, fun name key value => get?_ofText_eq_some_iff, ?_, ?_⟩
  · rw [hasSection_ofText, header_mem_statements]
  · intro other loose eq closed
    have skipped : ∀ line ∈ loose.map Line.ofChars, line.opens = false :=
      List.forall_mem_map.mpr fun line here => by simpa using closed_iff.mpr (closed line here)
    rw [ofText_eq, ofText_eq, statements, eq, List.map_append, List.foldl_append,
      foldl_step_of_closed _ skipped]
    rfl
  · intro other earlier later name eq eq' key
    rw [get?_ofText, get?_ofText, statements, statements, eq, eq', List.map_append, List.map_cons,
      ofChars_header, blockOf?_append_header]

/-- Behind a line feed a text that begins with a header replaces the sections that it has, whole, and
leaves the others as they are. -/
theorem append_overrides {a b : String} (opens : ∀ line, (contents b).head? = some line → Opens line) :
    let joined := ofText (a ++ "\n" ++ b)
    (∀ name, joined.hasSection name ↔ (ofText a).hasSection name ∨ (ofText b).hasSection name) ∧
    ∀ name key, joined.get? name key =
      if (ofText b).hasSection name then (ofText b).get? name key else (ofText a).get? name key := by
  have first : ∀ line, (statements b).head? = some line → line.opens := by
    intro line here
    rw [statements, List.head?_map, Option.map_eq_some_iff] at here
    obtain ⟨raw, here, rfl⟩ := here
    exact opens_ofChars.mpr (opens raw here)
  refine ⟨fun name => ?_, fun name key => ?_⟩
  · rw [hasSection_ofText, hasSection_ofText, hasSection_ofText, statements_append, List.mem_append]
  · simp only [get?_ofText, hasSection_ofText, statements_append, blockOf?_append name _ first]
    by_cases there : .header name ∈ statements b
    · obtain ⟨block, found⟩ := Option.ne_none_iff_exists'.mp fun none => blockOf?_eq_none_iff.mp none there
      rw [if_pos there, found, Option.some_or]
    · rw [if_neg there, blockOf?_eq_none_iff.mpr there, Option.none_or]

/-- Both texts have carriage returns, and the first leaves a section open that the second starts over. -/
theorem append_overrides_of_restart :
    let a := "[API]\r\ntoken = x\r\n[UI]\r\nemail = a\r\nport = 1\r"
    let b := " # local\r\n[UI]\r\nemail = b\r\n"
    let joined := ofText (a ++ "\n" ++ b)
    (∀ line, (contents b).head? = some line → Opens line) ∧
    joined.get? "UI" "email" = some "b" ∧ joined.get? "UI" "port" = none ∧
    joined.get? "API" "token" = (ofText a).get? "API" "token" := by
  intro a b joined
  have opens : ∀ line, (contents b).head? = some line → Opens line := by
    have first : (contents b).head? = some (header "UI") := by decide
    intro line here
    obtain rfl := Option.some.inj (first.symm.trans here)
    exact opens_header "UI"
  obtain ⟨-, values⟩ := append_overrides (a := a) opens
  refine ⟨opens, ?_, ?_, ?_⟩
  · exact (values "UI" "email").trans (by decide)
  · exact (values "UI" "port").trans (by decide)
  · exact (values "API" "token").trans (by decide)

end Rehearsal.Ini
