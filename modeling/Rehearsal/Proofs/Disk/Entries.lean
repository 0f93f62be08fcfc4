import Mathlib.Data.List.Basic
import Rehearsal.Proofs.Disk.Files

/-!
# What is on a disk

A disk lists its entries in an order of its own. As long as it lists no location twice, the order does not
count: what is found at a location, and which files are below a folder, hangs on the entries alone. Entries
that are added leave every path where it led, unless it led nowhere.
-/
namespace Rehearsal.Disk

variable {d d' : Disk} {l k : Location} {e : Entry} {content : ByteArray}

/-- No location is listed twice. -/
def Unambiguous (d : Disk) : Prop := (d.entries.map Prod.fst).Nodup

instance : DecidablePred Unambiguous := fun d =>
  inferInstanceAs (Decidable (d.entries.map Prod.fst).Nodup)

theorem entry?_eq_some_iff (once : d.Unambiguous) (inner : l ≠ []) :
    d.entry? l = some e ↔ (l, e) ∈ d.entries := by
  rw [entry?_of_ne_nil d inner, List.lookup_eq_some_iff]
  constructor
  · rintro ⟨before, after, whole, -⟩
    rw [whole]
    simp
  · intro listed
    obtain ⟨before, after, whole⟩ := List.append_of_mem listed
    refine ⟨before, after, whole, fun other among => ?_⟩
    rw [Unambiguous, whole, List.map_append, List.map_cons] at once
    have apart := (List.nodup_append.mp once).2.2 other.1 (List.mem_map_of_mem among) l (by simp)
    simpa using Ne.symm apart

/-- The names and the content of an entry that is a file below a folder. -/
def below? (l : Location) : Location × Entry → Option (List String × ByteArray)
  | (k, .file content) => if l <+: k ∧ k ≠ l then some (k.drop l.length, content) else none
  | _ => none

theorem filesBelow_eq (d : Disk) (l : Location) : d.filesBelow l = d.entries.filterMap (below? l) := by
  refine List.filterMap_congr fun (k, e) _ => ?_
  cases e <;> rfl

theorem below?_eq_some_iff {names : List String} : below? l (k, e) = some (names, content) ↔
    names ≠ [] ∧ k = l ++ names ∧ e = .file content := by
  constructor
  · intro found
    cases e with
    | folder | link => cases found
    | file c =>
      rw [below?] at found
      split at found
      · rename_i proper
        obtain ⟨⟨rest, rfl⟩, other⟩ := proper
        cases found
        rw [List.drop_left]
        exact ⟨by simpa using other, rfl, rfl⟩
      · cases found
  · rintro ⟨inner, rfl, rfl⟩
    simp [below?, inner]

/-- The files below a folder are the files at the locations that go on from it. -/
theorem mem_filesBelow_iff {names : List String} (once : d.Unambiguous) :
    (names, content) ∈ d.filesBelow l ↔ names ≠ [] ∧ d.entry? (l ++ names) = some (.file content) := by
  rw [filesBelow_eq, List.mem_filterMap]
  constructor
  · rintro ⟨⟨k, e⟩, listed, found⟩
    obtain ⟨inner, rfl, rfl⟩ := below?_eq_some_iff.mp found
    exact ⟨inner, (entry?_eq_some_iff once (by simp [inner])).mpr listed⟩
  · rintro ⟨inner, there⟩
    have listed := (entry?_eq_some_iff once (by simp [inner])).mp there
    exact ⟨_, listed, below?_eq_some_iff.mpr ⟨inner, rfl, rfl⟩⟩

theorem nodup_filesBelow (once : d.Unambiguous) (l : Location) :
    ((d.filesBelow l).map Prod.fst).Nodup := by
  have apart := List.pairwise_map.mp once
  rw [filesBelow_eq]
  refine List.pairwise_map.mpr (List.pairwise_filterMap.mpr (apart.imp ?_))
  intro (k, e) (k', e') other (names, content) found (names', content') found'
  obtain ⟨-, rfl, -⟩ := below?_eq_some_iff.mp found
  obtain ⟨-, rfl, -⟩ := below?_eq_some_iff.mp found'
  rintro rfl
  exact other rfl

/-- All that is on the first disk is on the second. -/
structure Within (d d' : Disk) : Prop where
  home : d'.home = d.home
  keeps : ∀ k e, d.entry? k = some e → d'.entry? k = some e

theorem within_of_subset (once : d.Unambiguous) (once' : d'.Unambiguous) (home : d'.home = d.home)
    (among : d.entries ⊆ d'.entries) : Within d d' := by
  refine ⟨home, fun k e there => ?_⟩
  by_cases root : k = []
  · subst root
    exact there
  · rw [entry?_eq_some_iff once root] at there
    exact (entry?_eq_some_iff once' root).mpr (among there)

theorem Route.within {aim : Aim} {links : Nat} {here : Location} {names : List String}
    (h : Route d aim links here names (.present k e)) (within : Within d d') :
    Route d' aim links here names (.present k e) := by
  generalize place : Place.present k e = p at h ⊢
  induction h with
  | done links here => exact .done links here
  | stay dot _ ih => exact .stay dot (ih place)
  | up _ ih => exact .up (ih place)
  | vacant => cases place
  | enter ordinary opens folder _ ih => exact .enter ordinary opens (within.keeps _ _ folder) (ih place)
  | file links ordinary there => exact .file links ordinary (within.keeps _ _ there)
  | grasp links ordinary grasps there => exact .grasp links ordinary grasps (within.keeps _ _ there)
  | follow ordinary opens follows there _ ih =>
    exact .follow ordinary opens follows (within.keeps _ _ there) (ih place)

/-- A path that leads to something leads there on a disk with more entries. -/
theorem Within.find_eq {path : String} {aim : Aim} (within : Within d d')
    (leads : d.find path aim = .ok (.present k e)) : d'.find path aim = .ok (.present k e) := by
  obtain ⟨sought, route⟩ := find_eq_ok_iff.mp leads
  refine find_eq_ok_iff.mpr ⟨sought, ?_⟩
  rw [start, within.home]
  exact route.within within

end Rehearsal.Disk
