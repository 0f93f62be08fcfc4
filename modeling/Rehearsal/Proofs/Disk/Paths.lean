import Rehearsal.Disk

/-!
# Where paths lead

A route is a way that a path takes to a place. It goes through folders and links only: what is in a file has
no part in it, and a file that is new lies on no other route.
-/
namespace Rehearsal.Disk

variable {d d' : Disk} {l : Location} {aim : Aim} {links : Nat} {here : Location} {names : List String}
  {p : Place}

theorem lookup_put (l l' : Location) (e : Entry) (entries : List (Location × Entry)) :
    (put l e entries).lookup l' = if l' = l then some e else entries.lookup l' := by
  induction entries with
  | nil => by_cases same : l' = l <;> simp [put, List.lookup_cons, same, beq_false_of_ne]
  | cons head rest ih =>
    obtain ⟨k, f⟩ := head
    by_cases there : k = l
    · by_cases same : l' = l <;> simp [put, there, List.lookup_cons, same, beq_false_of_ne]
    · by_cases same : l' = k
      · simp [put, there, same]
      · simp [put, there, List.lookup_cons, beq_false_of_ne same, ih]

theorem entry?_of_ne_nil (d : Disk) {l : Location} (inner : l ≠ []) :
    d.entry? l = d.entries.lookup l :=
  if_neg inner

theorem entry?_set (d : Disk) {l : Location} (inner : l ≠ []) (l' : Location) (e : Entry) :
    entry? (d.set l e) l' = if l' = l then some e else d.entry? l' := by
  by_cases root : l' = []
  · subst root
    rw [if_neg (Ne.symm inner)]
    rfl
  · rw [entry?_of_ne_nil _ root, entry?_of_ne_nil _ root, set, lookup_put]

/-- A name that stands for an entry of a folder. -/
structure Ordinary (name : String) : Prop where
  moves : ¬ (name = "" ∨ name = ".")
  down : name ≠ ".."
  short : ¬ 255 < name.utf8ByteSize

instance : DecidablePred Ordinary := fun name =>
  decidable_of_iff (¬ (name = "" ∨ name = ".") ∧ name ≠ ".." ∧ ¬ 255 < name.utf8ByteSize)
    ⟨fun ⟨moves, down, short⟩ => ⟨moves, down, short⟩, fun h => ⟨h.moves, h.down, h.short⟩⟩

/-- Behind a file that is made there is no slash. -/
def Opens (aim : Aim) (rest : List String) : Prop := ¬ (aim = .make ∧ rest ≠ [] ∧ rest.all (· = ""))

instance (aim : Aim) : DecidablePred (Opens aim) := fun rest =>
  inferInstanceAs (Decidable (¬ (aim = .make ∧ rest ≠ [] ∧ rest.all (· = ""))))

/-- Names lead from a folder to a place, through so many links at most. -/
inductive Route (d : Disk) (aim : Aim) : Nat → Location → List String → Place → Prop
  | done (links : Nat) (here : Location) : Route d aim links here [] (.present here .folder)
  | stay {links : Nat} {here : Location} {name : String} {rest : List String} {p : Place}
    (dot : name = "" ∨ name = ".") (on : Route d aim links here rest p) :
    Route d aim links here (name :: rest) p
  | up {links : Nat} {here : Location} {rest : List String} {p : Place}
    (on : Route d aim links here.dropLast rest p) : Route d aim links here (".." :: rest) p
  | vacant {here : Location} {name : String} {rest : List String} (links : Nat) (ordinary : Ordinary name)
    (opens : Opens aim rest) (free : d.entry? (here ++ [name]) = none) (last : rest.all (· = "")) :
    Route d aim links here (name :: rest) (.vacant (here ++ [name]))
  | enter {links : Nat} {here : Location} {name : String} {rest : List String} {p : Place}
    (ordinary : Ordinary name) (opens : Opens aim rest) (folder : d.entry? (here ++ [name]) = some .folder)
    (on : Route d aim links (here ++ [name]) rest p) : Route d aim links here (name :: rest) p
  | file {here : Location} {name : String} {content : ByteArray} (links : Nat) (ordinary : Ordinary name)
    (there : d.entry? (here ++ [name]) = some (.file content)) :
    Route d aim links here [name] (.present (here ++ [name]) (.file content))
  | grasp {here : Location} {name target : String} (links : Nat) (ordinary : Ordinary name)
    (grasps : aim = .grasp) (there : d.entry? (here ++ [name]) = some (.link target)) :
    Route d aim links here [name] (.present (here ++ [name]) (.link target))
  | follow {links : Nat} {here : Location} {name target : String} {rest : List String} {p : Place}
    (ordinary : Ordinary name) (opens : Opens aim rest) (follows : ¬ (rest = [] ∧ aim = .grasp))
    (there : d.entry? (here ++ [name]) = some (.link target))
    (on : Route d aim links (if (Path.ofText target).absolute then [] else here)
      ((Path.ofText target).names ++ rest) p) :
    Route d aim (links + 1) here (name :: rest) p

theorem Route.of_walk (h : d.walk aim links here names = .ok p) : Route d aim links here names p := by
  fun_induction walk d aim links here names with
  | case1 links here => cases h; exact .done links here
  | case2 links here name rest dot ih => exact .stay dot (ih h)
  | case3 links here rest _ ih => exact .up (ih h)
  | case4 => cases h
  | case5 => cases h
  | case6 links here name rest moves down opens short free last =>
    cases h
    exact .vacant links ⟨moves, down, short⟩ opens free last
  | case7 => cases h
  | case8 links here name rest moves down opens short folder ih =>
    exact .enter ⟨moves, down, short⟩ opens folder (ih h)
  | case9 links here name moves down short content there =>
    cases h
    exact .file links ⟨moves, down, short⟩ there
  | case10 => cases h
  | case11 links here name rest moves down opens short target there grasps =>
    obtain ⟨rfl, grasps⟩ := grasps
    cases h
    exact .grasp links ⟨moves, down, short⟩ grasps there
  | case12 => cases h
  | case13 here name rest moves down opens short target there follows links p ih =>
    exact .follow ⟨moves, down, short⟩ opens follows there (ih h)

theorem Route.walk_eq (h : Route d aim links here names p) : d.walk aim links here names = .ok p := by
  induction h with
  | done => rw [walk]
  | stay dot _ ih => rw [walk, if_pos dot, ih]
  | up _ ih => rw [walk, if_neg (by decide), if_pos rfl, ih]
  | vacant _ ordinary opens free last =>
    rw [walk, if_neg ordinary.moves, if_neg ordinary.down, if_neg opens, if_neg ordinary.short, free]
    exact if_pos last
  | enter ordinary opens folder _ ih =>
    rw [walk, if_neg ordinary.moves, if_neg ordinary.down, if_neg opens, if_neg ordinary.short, folder]
    exact ih
  | file _ ordinary there =>
    rw [walk, if_neg ordinary.moves, if_neg ordinary.down, if_neg (by simp), if_neg ordinary.short, there]
    exact if_pos rfl
  | grasp _ ordinary grasps there =>
    rw [walk, if_neg ordinary.moves, if_neg ordinary.down, if_neg (by simp), if_neg ordinary.short, there]
    exact if_pos ⟨rfl, grasps⟩
  | follow ordinary opens follows there _ ih =>
    rw [walk, if_neg ordinary.moves, if_neg ordinary.down, if_neg opens, if_neg ordinary.short, there]
    simp only [if_neg follows, ih]

theorem walk_eq_ok_iff : d.walk aim links here names = .ok p ↔ Route d aim links here names p :=
  ⟨.of_walk, Route.walk_eq⟩

/-- The entry of a place, a folder aside, is the one at its location. -/
theorem Route.entry?_eq (h : Route d aim links here names p) :
    (p = .vacant l → d.entry? l = none) ∧ ∀ c, p = .present l (.file c) → d.entry? l = some (.file c) := by
  induction h with
  | done => exact ⟨nofun, nofun⟩
  | stay _ _ ih | up _ ih | enter _ _ _ _ ih | follow _ _ _ _ _ ih => exact ih
  | vacant _ _ _ free _ => exact ⟨fun same => by cases same; exact free, nofun⟩
  | file _ _ there => exact ⟨nofun, fun c same => by cases same; exact there⟩
  | grasp => exact ⟨nofun, nofun⟩

/-- Nothing leads on from the location: there is a file at most. -/
def Loose (d : Disk) (l : Location) : Prop := ∀ e, d.entry? l = some e → ∃ c, e = .file c

theorem Loose.ne_nil (h : d.Loose l) : l ≠ [] := by
  rintro rfl
  obtain ⟨c, hc⟩ := h .folder rfl
  cases hc

theorem loose_of_entry?_eq_none (h : d.entry? l = none) : d.Loose l := by simp [Loose, h]

theorem loose_of_entry?_eq_file {c : ByteArray} (h : d.entry? l = some (.file c)) : d.Loose l := by
  simp [Loose, h]

/-- The disks differ at the location at most. -/
structure SameBut (l : Location) (d d' : Disk) : Prop where
  home : d'.home = d.home
  entry? : ∀ l', l' ≠ l → d'.entry? l' = d.entry? l'

theorem sameBut_set (d : Disk) (inner : l ≠ []) (e : Entry) : SameBut l d (d.set l e) :=
  ⟨rfl, fun l' other => by rw [entry?_set d inner, if_neg other]⟩

/-- An entry that leads on is at another location. -/
theorem Loose.entry?_of_sameBut (loose : d.Loose l) (same : SameBut l d d') {k : Location} {e : Entry}
    (there : d.entry? k = some e) (on : ∀ c, e ≠ .file c) : d'.entry? k = some e := by
  have other : k ≠ l := by
    rintro rfl
    obtain ⟨c, hc⟩ := loose e there
    exact on c hc
  rw [same.entry? k other, there]

/-- A path leads to the same place on both disks, unless that is at the location where they differ. -/
theorem Route.sameBut (h : Route d aim links here names p) (loose : d.Loose l) (same : SameBut l d d')
    (away : p ≠ .vacant l ∧ ∀ c, p ≠ .present l (.file c)) : Route d' aim links here names p := by
  induction h with
  | done links here => exact .done links here
  | stay dot _ ih => exact .stay dot (ih away)
  | up _ ih => exact .up (ih away)
  | vacant links ordinary opens free last =>
    refine .vacant links ordinary opens ?_ last
    rw [same.entry? _ fun here => away.1 (congrArg _ here), free]
  | enter ordinary opens folder _ ih =>
    exact .enter ordinary opens (loose.entry?_of_sameBut same folder nofun) (ih away)
  | file links ordinary there =>
    refine .file links ordinary ?_
    rw [same.entry? _ fun here => away.2 _ (congrArg (Place.present · _) here), there]
  | grasp links ordinary grasps there =>
    exact .grasp links ordinary grasps (loose.entry?_of_sameBut same there nofun)
  | follow ordinary opens follows there _ ih =>
    exact .follow ordinary opens follows (loose.entry?_of_sameBut same there nofun) (ih away)

theorem Opens.of_make {rest : List String} (h : Opens .make rest) (aim : Aim) : Opens aim rest :=
  fun ⟨_, slash⟩ => h ⟨rfl, slash⟩

theorem Opens.eq_nil {rest : List String} (h : Opens .make rest) (last : rest.all (· = "")) : rest = [] :=
  Decidable.byContradiction fun more => h ⟨rfl, more, last⟩

/-- A route to where a file is or may be made leads to the file once it is there. -/
theorem Route.to_file (h : Route d .make links here names p) (same : SameBut l d d')
    (at_l : p = .vacant l ∨ ∃ c, p = .present l (.file c)) {c : ByteArray}
    (made : d'.entry? l = some (.file c)) (walks : aim ≠ .grasp) :
    Route d' aim links here names (.present l (.file c)) := by
  have loose : d.Loose l := by
    rcases at_l with rfl | ⟨c, rfl⟩
    · exact loose_of_entry?_eq_none (h.entry?_eq.1 rfl)
    · exact loose_of_entry?_eq_file (h.entry?_eq.2 c rfl)
  induction h with
  | done => rcases at_l with h | ⟨c, h⟩ <;> cases h
  | stay dot _ ih => exact .stay dot (ih at_l)
  | up _ ih => exact .up (ih at_l)
  | @vacant here name rest links ordinary opens _ last =>
    obtain rfl := opens.eq_nil last
    obtain rfl : here ++ [name] = l := by
      rcases at_l with h | ⟨c, h⟩ <;> cases h
      rfl
    exact .file links ordinary made
  | enter ordinary opens folder _ ih =>
    exact .enter ordinary (opens.of_make aim) (loose.entry?_of_sameBut same folder nofun) (ih at_l)
  | @file here name content links ordinary _ =>
    obtain rfl : here ++ [name] = l := by
      rcases at_l with h | ⟨c, h⟩ <;> cases h
      rfl
    exact .file links ordinary made
  | grasp _ _ grasps => cases grasps
  | follow ordinary opens _ there _ ih =>
    exact .follow ordinary (opens.of_make aim) (fun grasps => walks grasps.2)
      (loose.entry?_of_sameBut same there nofun) (ih at_l)

theorem Route.slashes (links : Nat) (here : Location) {more : List String} (slashes : more.all (· = "")) :
    Route d aim links here more (.present here .folder) := by
  induction more with
  | nil => exact .done links here
  | cons name more ih =>
    simp only [List.all_cons, Bool.and_eq_true, decide_eq_true_eq] at slashes
    exact .stay (.inl slashes.1) (ih slashes.2)

/-- A route to a free location leads to the folder once it is made, also with slashes behind it. -/
theorem Route.to_folder (h : Route d .grasp links here names (.vacant l)) (same : SameBut l d d')
    (made : d'.entry? l = some .folder) {more : List String} (slashes : more.all (· = "")) :
    Route d' .see links here (names ++ more) (.present l .folder) := by
  have loose : d.Loose l := loose_of_entry?_eq_none (h.entry?_eq.1 rfl)
  have opens (rest : List String) : Opens .see rest := by simp [Opens]
  generalize place : Place.vacant l = p at h
  induction h with
  | done | file | grasp => cases place
  | stay dot _ ih => exact .stay dot (ih place)
  | up _ ih => exact .up (ih place)
  | @vacant here name rest links ordinary _ _ last =>
    cases place
    have both : (rest ++ more).all (· = "") := by rw [List.all_append, last, slashes]; rfl
    exact .enter ordinary (opens _) made (.slashes links _ both)
  | enter ordinary _ folder _ ih =>
    exact .enter ordinary (opens _) (loose.entry?_of_sameBut same folder nofun) (ih place)
  | follow ordinary _ _ there _ ih =>
    rw [List.cons_append]
    refine .follow ordinary (opens _) (by simp) (loose.entry?_of_sameBut same there nofun) ?_
    rw [← List.append_assoc]
    exact ih place

/-- What leads to a folder leads to something also if the last of its names is only grasped. -/
theorem Route.grasped {k : Location} (h : Route d .see links here names (.present k .folder))
    {core more : List String} (cut : names = core ++ more) :
    ∃ k' e, Route d .grasp links here core (.present k' e) := by
  have opens (rest : List String) : Opens .grasp rest := by simp [Opens]
  generalize place : Place.present k .folder = p at h
  induction h generalizing core with
  | done links here =>
    obtain ⟨rfl, _⟩ := List.append_eq_nil_iff.mp cut.symm
    exact ⟨_, _, .done links here⟩
  | vacant | file => cases place
  | grasp _ _ grasps => cases grasps
  | stay dot _ ih =>
    rcases List.cons_eq_append_iff.mp cut with ⟨rfl, _⟩ | ⟨core, rfl, tail⟩
    · exact ⟨_, _, .done _ _⟩
    · obtain ⟨k', e, on⟩ := ih tail place
      exact ⟨k', e, .stay dot on⟩
  | up _ ih =>
    rcases List.cons_eq_append_iff.mp cut with ⟨rfl, _⟩ | ⟨core, rfl, tail⟩
    · exact ⟨_, _, .done _ _⟩
    · obtain ⟨k', e, on⟩ := ih tail place
      exact ⟨k', e, .up on⟩
  | enter ordinary _ folder _ ih =>
    rcases List.cons_eq_append_iff.mp cut with ⟨rfl, _⟩ | ⟨core, rfl, tail⟩
    · exact ⟨_, _, .done _ _⟩
    · obtain ⟨k', e, on⟩ := ih tail place
      exact ⟨k', e, .enter ordinary (opens _) folder on⟩
  | follow ordinary _ _ there _ ih =>
    rcases List.cons_eq_append_iff.mp cut with ⟨rfl, _⟩ | ⟨core, rfl, tail⟩
    · exact ⟨_, _, .done _ _⟩
    · by_cases last : core = []
      · subst last
        exact ⟨_, _, .grasp _ ordinary rfl there⟩
      · obtain ⟨k', e, on⟩ := ih (by rw [tail, List.append_assoc]) place
        exact ⟨k', e, .follow ordinary (opens _) (fun grasps => last grasps.1) there on⟩

end Rehearsal.Disk
