import Rehearsal.Log.Journal
import Rehearsal.Proofs.Disk.Files

/-!
# Disks that differ in what is in their files

Where a path leads and what can be made does not hang on what is in files. So a log that is kept on the disk
decides nothing, however long it gets.
-/
namespace Rehearsal.Disk

variable {d d' : Disk} {path : String} {aim : Aim} {l : Location} {p : Place}

def Entry.shape : Entry → Entry
  | .file _ => .file .empty
  | e => e

def Place.shape : Place → Place
  | .present l e => .present l e.shape
  | .vacant l => .vacant l

@[simp] theorem Entry.shape_eq_folder {e : Entry} : e.shape = .folder ↔ e = .folder := by
  cases e <;> simp [shape]

@[simp] theorem Place.shape_eq_vacant : p.shape = .vacant l ↔ p = .vacant l := by
  cases p <;> simp [shape]

theorem Place.Takes.of_shape {p' : Place} (takes : p.Takes l) (shape : p'.shape = p.shape) :
    p'.Takes l := by
  rcases takes with rfl | ⟨c, rfl⟩
  · exact .inl (shape_eq_vacant.mp shape)
  · rcases p' with ⟨_, _ | _ | _⟩ | _ <;> cases shape
    exact .inr ⟨_, rfl⟩

@[simp] theorem Place.shape_eq_folder : p.shape = .present l .folder ↔ p = .present l .folder := by
  cases p <;> simp [shape]

/-- The same entries are at the same locations, whatever is in the files. -/
structure SameShape (d d' : Disk) : Prop where
  home : d'.home = d.home
  entry? : ∀ l, (d'.entry? l).map Entry.shape = (d.entry? l).map Entry.shape

namespace SameShape

theorem refl (d : Disk) : SameShape d d := ⟨rfl, fun _ => rfl⟩

theorem symm (same : SameShape d d') : SameShape d' d := ⟨same.home.symm, fun l => (same.entry? l).symm⟩

theorem trans {d'' : Disk} (same : SameShape d d') (same' : SameShape d' d'') : SameShape d d'' :=
  ⟨same'.home.trans same.home, fun l => (same'.entry? l).trans (same.entry? l)⟩

theorem entry?_eq_none (same : SameShape d d') (h : d.entry? l = none) : d'.entry? l = none := by
  simpa [h] using same.entry? l

theorem entry?_eq_some (same : SameShape d d') {e : Entry} (h : d.entry? l = some e)
    (on : ∀ c, e ≠ .file c) : d'.entry? l = some e := by
  have there := same.entry? l
  rw [h, Option.map_some, Option.map_eq_some_iff] at there
  obtain ⟨e', he, shape⟩ := there
  cases e with
  | file c => exact absurd rfl (on c)
  | folder | link =>
    cases e' <;> cases shape
    exact he

theorem entry?_eq_file {c : ByteArray} (same : SameShape d d') (h : d.entry? l = some (.file c)) :
    ∃ c', d'.entry? l = some (.file c') := by
  have there := same.entry? l
  rw [h, Option.map_some, Option.map_eq_some_iff] at there
  obtain ⟨e, he, shape⟩ := there
  cases e <;> cases shape
  exact ⟨_, he⟩

/-- A path leads to the same place on both disks, or is refused for the same reason. -/
theorem walk_eq (same : SameShape d d') (aim : Aim) (links : Nat) (here : Location)
    (names : List String) : (d'.walk aim links here names).map Place.shape =
      (d.walk aim links here names).map Place.shape := by
  fun_induction walk d aim links here names with
  | case1 => rw [walk]
  | case2 links here name rest dot ih => rw [walk, if_pos dot, ih]
  | case3 links here rest _ ih => rw [walk, if_neg (by decide), if_pos rfl, ih]
  | case4 links here name rest moves down slash => rw [walk, if_neg moves, if_neg down, if_pos slash]
  | case5 links here name rest moves down opens long =>
    rw [walk, if_neg moves, if_neg down, if_neg opens, if_pos long]
  | case6 links here name rest moves down opens short free last =>
    rw [walk, if_neg moves, if_neg down, if_neg opens, if_neg short, same.entry?_eq_none free]
    simp only [last, if_true]
  | case7 links here name rest moves down opens short free more =>
    rw [walk, if_neg moves, if_neg down, if_neg opens, if_neg short, same.entry?_eq_none free]
    simp only [more, if_false, Bool.false_eq_true]
  | case8 links here name rest moves down opens short folder ih =>
    rw [walk, if_neg moves, if_neg down, if_neg opens, if_neg short, same.entry?_eq_some folder (by simp)]
    exact ih
  | case9 links here name moves down short content there opens =>
    obtain ⟨content', there'⟩ := same.entry?_eq_file there
    rw [walk, if_neg moves, if_neg down, if_neg opens, if_neg short, there']
    rfl
  | case10 links here name rest moves down opens short content there more =>
    obtain ⟨content', there'⟩ := same.entry?_eq_file there
    rw [walk, if_neg moves, if_neg down, if_neg opens, if_neg short, there']
    simp only [more, if_false]
  | case11 links here name rest moves down opens short target there grasps =>
    rw [walk, if_neg moves, if_neg down, if_neg opens, if_neg short, same.entry?_eq_some there (by simp)]
    simp only [grasps, and_self, if_true]
  | case12 here name rest moves down opens short target there follows =>
    rw [walk, if_neg moves, if_neg down, if_neg opens, if_neg short, same.entry?_eq_some there (by simp)]
    simp only [follows, if_false]
  | case13 here name rest moves down opens short target there follows links p ih =>
    rw [walk, if_neg moves, if_neg down, if_neg opens, if_neg short, same.entry?_eq_some there (by simp)]
    simp only [follows, if_false]
    exact ih

/-- Where a route leads on one disk a route leads on the other. -/
theorem route (same : SameShape d d') {links : Nat} {here : Location} {names : List String}
    (h : Route d aim links here names p) : ∃ p', Route d' aim links here names p' ∧ p'.shape = p.shape := by
  have walks := same.walk_eq aim links here names
  rw [h.walk_eq] at walks
  cases found : d'.walk aim links here names with
  | error r => rw [found] at walks; cases walks
  | ok p' =>
    rw [found] at walks
    exact ⟨p', .of_walk found, Except.ok.inj walks⟩

theorem start_eq (same : SameShape d d') (p : Path) : d'.start p = d.start p := by
  rw [Disk.start, Disk.start, same.home]

/-- A path is refused for the same reason on both disks, or leads to the same place. -/
theorem follow_cases (same : SameShape d d') (aim : Aim) (p : Path) :
    (∃ r, d.follow aim p = .error r ∧ d'.follow aim p = .error r) ∨
    ∃ q q', d.follow aim p = .ok q ∧ d'.follow aim p = .ok q' ∧ q'.shape = q.shape := by
  have walks := same.walk_eq aim 40 (d.start p) p.names
  have there : d'.follow aim p = d'.walk aim 40 (d.start p) p.names := by
    rw [← same.start_eq]
    rfl
  have here : d.follow aim p = d.walk aim 40 (d.start p) p.names := rfl
  rw [← here, ← there] at walks
  cases left : d.follow aim p with
  | error r =>
    rw [left] at walks
    cases right : d'.follow aim p with
    | error r' => rw [right] at walks; cases walks; exact .inl ⟨r, rfl, rfl⟩
    | ok q' => rw [right] at walks; cases walks
  | ok q =>
    rw [left] at walks
    cases right : d'.follow aim p with
    | error r' => rw [right] at walks; cases walks
    | ok q' => rw [right] at walks; exact .inr ⟨q, q', rfl, rfl, Except.ok.inj walks⟩

theorem set (same : SameShape d d') (inner : l ≠ []) {e e' : Entry} (shape : e'.shape = e.shape) :
    SameShape (d.set l e) (d'.set l e') where
  home := same.home
  entry? k := by
    rw [entry?_set d inner, entry?_set d' inner]
    by_cases here : k = l
    · simp [here, shape]
    · simpa [here] using same.entry? k

end SameShape

theorem append_sameShape (d : Disk) (l : Location) (text : String) : SameShape d (d.append l text) := by
  unfold append
  split
  · rename_i content there
    refine ⟨rfl, fun k => ?_⟩
    rw [entry?_set d (loose_of_entry?_eq_file there).ne_nil]
    by_cases here : k = l
    · simp [here, there, Entry.shape]
    · simp [here]
  · exact SameShape.refl d

/-- The operations fail in the same way, or end in disks of the same shape. -/
def Alike {ε : Type} (r r' : Except ε Disk) : Prop :=
  (∃ f, r = .error f ∧ r' = .error f) ∨ ∃ e e', r = .ok e ∧ r' = .ok e' ∧ SameShape e e'

namespace SameShape

theorem leadsToFolder_eq (same : SameShape d d') (p : Path) :
    d'.leadsToFolder p = d.leadsToFolder p := by
  have leads {d d' : Disk} (same : SameShape d d') (h : d.leadsToFolder p) : d'.leadsToFolder p := by
    obtain ⟨k, route⟩ := leadsToFolder_iff.mp h
    obtain ⟨p', route', shape⟩ := same.route route
    obtain rfl : p' = .present k .folder := Place.shape_eq_folder.mp shape
    rw [leadsToFolder_iff, same.start_eq]
    exact ⟨k, route'⟩
  exact Bool.eq_iff_iff.mpr ⟨leads same.symm, leads same⟩

theorem makeFolder_alike (same : SameShape d d') (p : Path) :
    Alike (d.makeFolder p) (d'.makeFolder p) := by
  unfold makeFolder
  dsimp only
  rcases same.follow_cases .grasp { p with names := (p.names.reverse.dropWhile (· = "")).reverse } with
    ⟨r, here, there⟩ | ⟨q, q', here, there, shape⟩
  all_goals rw [here, there]
  · exact .inl ⟨r, rfl, rfl⟩
  · cases q with
    | present k e =>
      cases q' with
      | present k' e' => exact .inl ⟨.exists, rfl, rfl⟩
      | vacant k' => cases shape
    | vacant k =>
      obtain rfl : q' = .vacant k := Place.shape_eq_vacant.mp shape
      have free := (follow_eq_ok_iff.mp here).entry?_eq.1 rfl
      exact .inr ⟨_, _, rfl, rfl, same.set (loose_of_entry?_eq_none free).ne_nil rfl⟩

theorem settle_alike (same : SameShape d d') (p : Path) : Alike (d.settle p) (d'.settle p) := by
  have leads := same.leadsToFolder_eq p
  unfold settle
  rcases same.makeFolder_alike p with ⟨r, here, there⟩ | ⟨e, e', here, there, made⟩
  all_goals simp only [here, there]
  · rw [leads]
    split
    · exact .inr ⟨d, d', rfl, rfl, same⟩
    · exact .inl ⟨r, rfl, rfl⟩
  · exact .inr ⟨e, e', rfl, rfl, made⟩

/-- By induction on the names, from the last one up. -/
theorem makeFoldersAt_alike (same : SameShape d d') (absolute : Bool) (written names : List String) :
    Alike (d.makeFoldersAt absolute written names) (d'.makeFoldersAt absolute written names) := by
  induction names generalizing written with
  | nil => exact .inr ⟨d, d', rfl, rfl, same⟩
  | cons name above ih =>
    have made := same.makeFolder_alike ⟨absolute, written⟩
    by_cases parent : d.makeFolder ⟨absolute, written⟩ = .error .notFound
    · have parent' : d'.makeFolder ⟨absolute, written⟩ = .error .notFound := by
        rcases made with ⟨r, here, there⟩ | ⟨_, _, here, _⟩
        · rw [there, ← here, parent]
        · cases parent.symm.trans here
      rw [makeFoldersAt_of_notFound parent, makeFoldersAt_of_notFound parent']
      rcases ih above.reverse with ⟨r, here, there⟩ | ⟨e, e', here, there, above⟩
      all_goals rw [here, there]
      · exact .inl ⟨r, rfl, rfl⟩
      · exact above.settle_alike _
    · have parent' : d'.makeFolder ⟨absolute, written⟩ ≠ .error .notFound := by
        intro h
        rcases made with ⟨r, here, there⟩ | ⟨_, _, _, there, _⟩
        · exact parent (by rw [here, ← there, h])
        · cases h.symm.trans there
      rw [makeFoldersAt_of_ne parent, makeFoldersAt_of_ne parent']
      exact same.settle_alike _

theorem makeFolders_alike (same : SameShape d d') (path : String) :
    Alike (d.makeFolders path) (d'.makeFolders path) := by
  unfold makeFolders
  split
  · exact .inl ⟨_, rfl, rfl⟩
  split
  · exact .inl ⟨_, rfl, rfl⟩
  dsimp only
  rcases same.makeFoldersAt_alike (Path.ofText path).absolute (Path.ofText path).names
    (Path.ofText path).normal.reverse with ⟨r, here, there⟩ | ⟨e, e', here, there, made⟩
  all_goals rw [here, there]
  · exact .inl ⟨_, rfl, rfl⟩
  · exact .inr ⟨e, e', rfl, rfl, made⟩

/-- A file is found at the same location on both disks. -/
theorem find_file (same : SameShape d d') {c : ByteArray} (h : d.find path aim = .ok (.present l (.file c))) :
    ∃ c', d'.find path aim = .ok (.present l (.file c')) := by
  obtain ⟨sought, route⟩ := find_eq_ok_iff.mp h
  obtain ⟨p', route', shape⟩ := same.route route
  have file : ∃ c', p' = .present l (.file c') := by
    rcases p' with ⟨_, _ | _ | _⟩ | _ <;> cases shape
    exact ⟨_, rfl⟩
  obtain ⟨c', rfl⟩ := file
  refine ⟨c', find_eq_ok_iff.mpr ⟨sought, ?_⟩⟩
  rwa [same.start_eq]

/-- Where a file can be written, a file with any content can be. -/
theorem write_ok (same : SameShape d d') {c : ByteArray} {e : Disk} (h : d.write path c = .ok e)
    (c' : ByteArray) : ∃ e', d'.write path c' = .ok e' := by
  obtain ⟨p, l, found, takes, -⟩ := write_parts h
  obtain ⟨sought, route⟩ := find_eq_ok_iff.mp found
  obtain ⟨p', route', shape⟩ := same.route route
  have found' : d'.find path .make = .ok p' := by
    rw [find_eq_ok_iff, same.start_eq]
    exact ⟨sought, route'⟩
  exact ⟨_, write_eq_ok found' (takes.of_shape shape) c'⟩

end SameShape

/-- A text that is written at the end of a file is read behind the text that was there. -/
theorem readText_append {text : String} (h : d.find path = .ok (.present l (.file text.toUTF8)))
    (more : String) : (d.append l more).readText path = .ok (text ++ more) := by
  obtain ⟨c, found⟩ := (d.append_sameShape l more).find_file h
  have content := entry?_append (entry?_of_find h) more
  have whole : c = (text ++ more).toUTF8 :=
    Entry.file.inj (Option.some.inj ((entry?_of_find found).symm.trans content))
  rw [readText_of_find found, whole, decode_toUTF8]

end Rehearsal.Disk
