import Mathlib.Order.Defs.Unbundled
import Rehearsal.Proofs.Disk.Paths

/-!
# Files that are written

What was written to a file is read from it, and no other file is touched. Folders that were made are there
when they are to be made again.
-/
namespace Rehearsal.Disk

variable {d d' : Disk} {path : String} {aim : Aim} {p : Place} {l : Location} {c : ByteArray}

/-- Where the names of a path are followed from. -/
def start (d : Disk) (p : Path) : Location := if p.absolute then [] else d.home

theorem follow_eq_ok_iff {path : Path} :
    d.follow aim path = .ok p ↔ Route d aim 40 (d.start path) path.names p := walk_eq_ok_iff

theorem mapError_eq_ok_iff {ε ε' α : Type} {f : ε → ε'} {r : Except ε α} {a : α} :
    r.mapError f = .ok a ↔ r = .ok a := by
  constructor
  · intro h
    cases r <;> cases h
    rfl
  · rintro rfl
    rfl

/-- The path can be looked for at all. -/
structure Sought (path : String) : Prop where
  named : ¬ path.toList.contains '\x00'
  given : path ≠ ""
  short : ¬ pathLimit ≤ path.utf8ByteSize

instance : DecidablePred Sought := fun path =>
  decidable_of_iff (¬ path.toList.contains '\x00' ∧ path ≠ "" ∧ ¬ pathLimit ≤ path.utf8ByteSize)
    ⟨fun ⟨named, given, short⟩ => ⟨named, given, short⟩, fun h => ⟨h.named, h.given, h.short⟩⟩

theorem find_eq_ok_iff : d.find path aim = .ok p ↔
    Sought path ∧ Route d aim 40 (d.start (.ofText path)) (Path.ofText path).names p := by
  rw [← follow_eq_ok_iff]
  unfold find
  split
  · exact iff_of_false nofun fun h => h.1.named ‹_›
  split
  · exact iff_of_false nofun fun h => h.1.given ‹_›
  split
  · exact iff_of_false nofun fun h => h.1.short ‹_›
  have sought : Sought path := ⟨‹_›, ‹_›, ‹_›⟩
  exact mapError_eq_ok_iff.trans (and_iff_right sought).symm

/-- A path that does not start at the root is followed from the home folder. -/
theorem find_of_route {names : List String} (sought : Sought path)
    (spelled : Path.ofText path = ⟨false, names⟩) (route : Route d aim 40 d.home names p) :
    d.find path aim = .ok p := by
  refine find_eq_ok_iff.mpr ⟨sought, ?_⟩
  rw [spelled]
  exact route

/-- The text is one name, and that of an entry of a folder. -/
structure Single (name : String) : Prop where
  sought : Sought name
  ordinary : Ordinary name
  spelled : Path.ofText name = ⟨false, [name]⟩

instance : DecidablePred Single := fun name =>
  decidable_of_iff (Sought name ∧ Ordinary name ∧ Path.ofText name = ⟨false, [name]⟩)
    ⟨fun ⟨sought, ordinary, spelled⟩ => ⟨sought, ordinary, spelled⟩,
      fun h => ⟨h.sought, h.ordinary, h.spelled⟩⟩

theorem Single.find_file {name : String} (single : Single name)
    (there : d.entry? (d.home ++ [name]) = some (.file c)) :
    d.find name aim = .ok (.present (d.home ++ [name]) (.file c)) :=
  find_of_route single.sought single.spelled (.file 40 single.ordinary there)

theorem SameBut.start_eq (same : SameBut l d d') (p : Path) : d'.start p = d.start p := by
  rw [Disk.start, Disk.start, same.home]

/-! ## Reading what was written -/

@[simp] theorem decode_toUTF8 (s : String) : decode s.toUTF8 = .ok s := by
  have valid : s.toUTF8.IsValidUTF8 := s.isValidUTF8
  rw [decode, String.fromUTF8?, dif_pos valid]
  rfl

theorem entry?_of_find (h : d.find path aim = .ok (.present l (.file c))) :
    d.entry? l = some (.file c) :=
  (find_eq_ok_iff.mp h).2.entry?_eq.2 c rfl

theorem readText_of_find (h : d.find path = .ok (.present l (.file c))) :
    d.readText path = decode c := by
  rw [readText, h]
  rfl

/-- The place is that of a file, or free for one. -/
def Place.Takes (p : Place) (l : Location) : Prop := p = .vacant l ∨ ∃ c, p = .present l (.file c)

theorem Route.loose {links : Nat} {here : Location} {names : List String}
    (h : Route d aim links here names p) (takes : p.Takes l) : d.Loose l := by
  rcases takes with rfl | ⟨c, rfl⟩
  · exact loose_of_entry?_eq_none (h.entry?_eq.1 rfl)
  · exact loose_of_entry?_eq_file (h.entry?_eq.2 c rfl)

/-- A file is written where its path leads to. -/
theorem write_parts (h : d.write path c = .ok d') : ∃ p l,
    d.find path .make = .ok p ∧ p.Takes l ∧ d' = d.set l (.file c) := by
  unfold write at h
  cases found : d.find path .make with
  | error f => rw [found] at h; cases h
  | ok p =>
    rw [found] at h
    rcases p with ⟨l, _ | _ | _⟩ | l <;> cases h
    · exact ⟨_, l, rfl, .inr ⟨_, rfl⟩, rfl⟩
    · exact ⟨_, l, rfl, .inl rfl, rfl⟩

theorem write_eq_ok (h : d.find path .make = .ok p) (takes : p.Takes l) (c : ByteArray) :
    d.write path c = .ok (d.set l (.file c)) := by
  rw [write, h]
  rcases takes with rfl | ⟨there, rfl⟩ <;> rfl

/-- A file that is put where a path leads to is found there. -/
theorem find_set (h : d.find path .make = .ok p) (takes : p.Takes l) (c : ByteArray) (walks : aim ≠ .grasp) :
    (d.set l (.file c)).find path aim = .ok (.present l (.file c)) := by
  obtain ⟨sought, route⟩ := find_eq_ok_iff.mp h
  have inner := (route.loose takes).ne_nil
  have same := d.sameBut_set inner (.file c)
  have made : entry? (d.set l (.file c)) l = some (.file c) := by rw [entry?_set d inner, if_pos rfl]
  refine find_eq_ok_iff.mpr ⟨sought, ?_⟩
  rw [same.start_eq]
  exact route.to_file same takes made walks

/-- The file that was written is found at its path. -/
theorem find_of_write (h : d.write path c = .ok d') : ∃ l, d' = d.set l (.file c) ∧ d.Loose l ∧
    ∀ aim, aim ≠ .grasp → d'.find path aim = .ok (.present l (.file c)) := by
  obtain ⟨p, l, found, takes, rfl⟩ := write_parts h
  obtain ⟨-, route⟩ := find_eq_ok_iff.mp found
  exact ⟨l, rfl, route.loose takes, fun aim walks => find_set found takes c walks⟩

theorem openToAppend_sameBut (h : d.openToAppend path = .ok (l, d')) : SameBut l d d' := by
  unfold openToAppend at h
  cases found : d.find path .make with
  | error f => rw [found] at h; cases h
  | ok p =>
    rw [found] at h
    rcases p with ⟨k, _ | _ | _⟩ | k <;> cases h
    · exact ⟨rfl, fun _ _ => rfl⟩
    · obtain ⟨-, route⟩ := find_eq_ok_iff.mp found
      exact d.sameBut_set (loose_of_entry?_eq_none (route.entry?_eq.1 rfl)).ne_nil _

theorem append_sameBut (d : Disk) (l : Location) (text : String) : SameBut l d (d.append l text) := by
  unfold append
  split
  · exact d.sameBut_set (loose_of_entry?_eq_file ‹_›).ne_nil _
  · exact ⟨rfl, fun _ _ => rfl⟩

theorem entry?_append (h : d.entry? l = some (.file c)) (text : String) :
    entry? (d.append l text) l = some (.file (c ++ text.toUTF8)) := by
  rw [append, h]
  dsimp only
  rw [entry?_set d (loose_of_entry?_eq_file h).ne_nil, if_pos rfl]

/-! ## Folders that are made -/

theorem exists_cut (names : List String) : ∃ more : List String,
    names = (names.reverse.dropWhile (· = "")).reverse ++ more ∧ more.all (· = "") := by
  refine ⟨(names.reverse.takeWhile (· = "")).reverse, ?_, ?_⟩
  · rw [← List.reverse_append, List.takeWhile_append_dropWhile, List.reverse_reverse]
  · rw [List.all_reverse]
    exact List.all_takeWhile

theorem leadsToFolder_iff {p : Path} :
    d.leadsToFolder p ↔ ∃ k, Route d .see 40 (d.start p) p.names (.present k .folder) := by
  simp only [← follow_eq_ok_iff, leadsToFolder]
  split
  · exact iff_of_true rfl ⟨_, ‹_›⟩
  · refine iff_of_false Bool.false_ne_true ?_
    rintro ⟨k, h⟩
    exact absurd h (by rename_i other; exact other k)

/-- A folder is made where there is nothing, and its path leads to it then. -/
theorem makeFolder_parts {p : Path} (h : d.makeFolder p = .ok d') : ∃ l,
    d.entry? l = none ∧ d' = d.set l .folder ∧ d'.leadsToFolder p := by
  obtain ⟨more, cut, slashes⟩ := exists_cut p.names
  unfold makeFolder at h
  cases found : d.follow .grasp { p with names := (p.names.reverse.dropWhile (· = "")).reverse } with
  | error r => simp only [found] at h; cases h
  | ok place =>
    simp only [found] at h
    rcases place with _ | l <;> cases h
    have route := follow_eq_ok_iff.mp found
    have free := route.entry?_eq.1 rfl
    have inner := (loose_of_entry?_eq_none free).ne_nil
    have same := d.sameBut_set inner .folder
    have made : entry? (d.set l .folder) l = some .folder := by rw [entry?_set d inner, if_pos rfl]
    refine ⟨l, free, rfl, leadsToFolder_iff.mpr ⟨l, ?_⟩⟩
    rw [same.start_eq, cut]
    exact route.to_folder same made slashes

theorem makeFolder_of_leadsToFolder {p : Path} (h : d.leadsToFolder p) :
    d.makeFolder p = .error .exists := by
  obtain ⟨more, cut, -⟩ := exists_cut p.names
  obtain ⟨k, route⟩ := leadsToFolder_iff.mp h
  obtain ⟨k', e, grasped⟩ := route.grasped cut
  have found : d.follow .grasp { p with names := (p.names.reverse.dropWhile (· = "")).reverse } =
      .ok (.present k' e) := follow_eq_ok_iff.mpr grasped
  unfold makeFolder
  simp only [found]
  rfl

/-- Makes a folder whose parent is there, unless it is there itself. -/
def settle (d : Disk) (p : Path) : Except Refusal Disk :=
  match d.makeFolder p with
  | .ok d => .ok d
  | .error r => if d.leadsToFolder p then .ok d else .error r

theorem makeFoldersAt_of_notFound {absolute : Bool} {written : List String} {name : String}
    {above : List String} (h : d.makeFolder ⟨absolute, written⟩ = .error .notFound) :
    d.makeFoldersAt absolute written (name :: above) =
      (do (← d.makeFoldersAt absolute above.reverse above).settle ⟨absolute, written⟩) := by
  rw [makeFoldersAt, h]
  rfl

theorem makeFoldersAt_of_ne {absolute : Bool} {written : List String} {name : String}
    {above : List String} (h : d.makeFolder ⟨absolute, written⟩ ≠ .error .notFound) :
    d.makeFoldersAt absolute written (name :: above) = d.settle ⟨absolute, written⟩ := by
  rw [makeFoldersAt, settle]
  cases made : d.makeFolder ⟨absolute, written⟩ with
  | ok d' => rfl
  | error r =>
    cases r with
    | notFound => exact absurd made h
    | _ => rfl

theorem settle_of_leadsToFolder {p : Path} (h : d.leadsToFolder p) : d.settle p = .ok d := by
  simp only [settle, makeFolder_of_leadsToFolder h, h, if_true]

theorem leadsToFolder_of_settle {p : Path} (h : d.settle p = .ok d') : d'.leadsToFolder p := by
  unfold settle at h
  cases made : d.makeFolder p with
  | ok e =>
    rw [made] at h
    cases h
    obtain ⟨_, _, _, there⟩ := makeFolder_parts made
    exact there
  | error r =>
    simp only [made] at h
    split at h
    · cases h
      assumption
    · cases h

theorem makeFoldersAt_of_leadsToFolder {absolute : Bool} {written : List String}
    (h : d.leadsToFolder ⟨absolute, written⟩) (names : List String) :
    d.makeFoldersAt absolute written names = .ok d := by
  cases names with
  | nil => rfl
  | cons name above =>
    rw [makeFoldersAt_of_ne (by simp [makeFolder_of_leadsToFolder h]), settle_of_leadsToFolder h]

theorem leadsToFolder_of_makeFoldersAt {absolute : Bool} {written names : List String}
    (h : d.makeFoldersAt absolute written names = .ok d') :
    names = [] ∨ d'.leadsToFolder ⟨absolute, written⟩ := by
  cases names with
  | nil => exact .inl rfl
  | cons name above =>
    right
    by_cases parent : d.makeFolder ⟨absolute, written⟩ = .error .notFound
    · rw [makeFoldersAt_of_notFound parent] at h
      cases made : d.makeFoldersAt absolute above.reverse above with
      | ok e => rw [made] at h; exact leadsToFolder_of_settle h
      | error r => rw [made] at h; cases h
    · rw [makeFoldersAt_of_ne parent] at h
      exact leadsToFolder_of_settle h

theorem makeFolders_eq_ok_iff : d.makeFolders path = .ok d' ↔
    (¬ path.toList.contains '\x00' ∧ ¬ pathLimit ≤ path.utf8ByteSize) ∧
      d.makeFoldersAt (Path.ofText path).absolute (Path.ofText path).names
        (Path.ofText path).normal.reverse = .ok d' := by
  unfold makeFolders
  split
  · exact iff_of_false nofun fun h => h.1.1 ‹_›
  split
  · exact iff_of_false nofun fun h => h.1.2 ‹_›
  have short : ¬ path.toList.contains '\x00' ∧ ¬ pathLimit ≤ path.utf8ByteSize := ⟨‹_›, ‹_›⟩
  exact mapError_eq_ok_iff.trans (and_iff_right short).symm

/-- The folders of a path are there, so there is none to make. -/
def Settled (d : Disk) (path : String) : Prop := d.makeFolders path = .ok d

theorem Single.settled {name : String} (single : Single name)
    (there : d.entry? (d.home ++ [name]) = some .folder) : d.Settled name := by
  refine makeFolders_eq_ok_iff.mpr ⟨⟨single.sought.named, single.sought.short⟩, ?_⟩
  refine makeFoldersAt_of_leadsToFolder (leadsToFolder_iff.mpr ⟨d.home ++ [name], ?_⟩) _
  rw [single.spelled]
  exact .enter single.ordinary (fun slash => nomatch slash.1) there (.done 40 _)

theorem leadsToFolder_of_sameBut {p : Path} (h : d.leadsToFolder p) (loose : d.Loose l)
    (same : SameBut l d d') : d'.leadsToFolder p := by
  obtain ⟨k, route⟩ := leadsToFolder_iff.mp h
  rw [leadsToFolder_iff, same.start_eq]
  exact ⟨k, route.sameBut loose same ⟨nofun, nofun⟩⟩

/-- Folders are still there after a file was written. -/
theorem Settled.sameBut (h : d.Settled path) (loose : d.Loose l) (same : SameBut l d d') :
    d'.Settled path := by
  obtain ⟨short, made⟩ := makeFolders_eq_ok_iff.mp h
  refine makeFolders_eq_ok_iff.mpr ⟨short, ?_⟩
  rcases leadsToFolder_of_makeFoldersAt made with none | there
  · rw [none, makeFoldersAt]
  · exact makeFoldersAt_of_leadsToFolder (leadsToFolder_of_sameBut there loose same) _

/-! ## Files that are not written -/

/-- The same files with the same contents are on both disks. -/
def SameFiles (d d' : Disk) : Prop :=
  ∀ l c, d'.entry? l = some (.file c) ↔ d.entry? l = some (.file c)

instance : IsPreorder Disk SameFiles where
  refl _ _ _ := Iff.rfl
  trans _ _ _ h h' l c := (h' l c).trans (h l c)

theorem makeFolder_sameFiles {p : Path} (h : d.makeFolder p = .ok d') : SameFiles d d' := by
  obtain ⟨l, free, rfl, -⟩ := makeFolder_parts h
  intro k c
  rw [entry?_set d (loose_of_entry?_eq_none free).ne_nil]
  by_cases here : k = l
  · simp [here, free]
  · simp [here]

theorem settle_sameFiles {p : Path} (h : d.settle p = .ok d') : SameFiles d d' := by
  unfold settle at h
  cases made : d.makeFolder p with
  | ok e =>
    rw [made] at h
    cases h
    exact makeFolder_sameFiles made
  | error r =>
    simp only [made] at h
    split at h
    · cases h
      exact Std.Refl.refl d
    · cases h

/-- By induction on the names, from the last one up. -/
theorem makeFoldersAt_sameFiles {absolute : Bool} {written names : List String}
    (h : d.makeFoldersAt absolute written names = .ok d') : SameFiles d d' := by
  induction names generalizing written d' with
  | nil =>
    cases h
    exact Std.Refl.refl d
  | cons name above ih =>
    by_cases parent : d.makeFolder ⟨absolute, written⟩ = .error .notFound
    · rw [makeFoldersAt_of_notFound parent] at h
      cases made : d.makeFoldersAt absolute above.reverse above with
      | ok e =>
        rw [made] at h
        exact IsTrans.trans _ _ _ (ih made) (settle_sameFiles h)
      | error r => rw [made] at h; cases h
    · rw [makeFoldersAt_of_ne parent] at h
      exact settle_sameFiles h

theorem makeFolders_sameFiles (h : d.makeFolders path = .ok d') : SameFiles d d' :=
  makeFoldersAt_sameFiles (makeFolders_eq_ok_iff.mp h).2

end Rehearsal.Disk
