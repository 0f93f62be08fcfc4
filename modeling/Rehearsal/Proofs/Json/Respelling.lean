import Rehearsal.Proofs.Json.Records

/-!
# Ways of writing a record

The members of an object may come in any order and among foreign ones, a field may have several names,
and one that is optional may be `null` or left out. Which of these a record is written with does not
decide what is read.
-/
namespace Rehearsal.Json

/-- The ways in which a record may be written. -/
structure Leeway (F : Type) where
  /-- The fields in the order in which an array holds them. -/
  order : List F
  names : F → List String
  /-- The fields that may be `null` or not written at all. -/
  optional : F → Prop
  /-- Values of a field that mean the same. -/
  inner : F → Tree → Tree → Prop

/-- Two trees are one record, written in two ways. What is said of a first member holds of all, since the
order of the members is free. -/
inductive Leeway.Respells {F : Type} (w : Leeway F) : Tree → Tree → Prop
  | reordered {ms ms' : List (Option String × Tree)} (same : ms.Perm ms') :
    w.Respells (.object ms) (.object ms')
  /-- A member whose name no field has. -/
  | added {key : String} (foreign : ∀ f, key ∉ w.names f) (v : Tree)
    (ms : List (Option String × Tree)) :
    w.Respells (.object ms) (.object ((some key, v) :: ms))
  | renamed {key key' : String} {f : F} (names : key ∈ w.names f) (names' : key' ∈ w.names f)
    (v : Tree) (ms : List (Option String × Tree)) :
    w.Respells (.object ((some key, v) :: ms)) (.object ((some key', v) :: ms))
  /-- An optional field that is not there under any name. -/
  | nulled {key : String} {f : F} (names : key ∈ w.names f) (optional : w.optional f)
    {ms : List (Option String × Tree)} (absent : ∀ key' ∈ w.names f, ∀ v, (some key', v) ∉ ms) :
    w.Respells (.object ms) (.object ((some key, .null) :: ms))
  | inside {key : String} {f : F} (names : key ∈ w.names f) {v v' : Tree} (same : w.inner f v v')
    (ms : List (Option String × Tree)) :
    w.Respells (.object ((some key, v) :: ms)) (.object ((some key, v') :: ms))
  /-- The record is an array of its fields, and the values of one of them mean the same. -/
  | element {i : Nat} {f : F} (field : w.order[i]? = some f) {vs : List Tree} {v v' : Tree}
    (there : vs[i]? = some v) (same : w.inner f v v') :
    w.Respells (.array vs) (.array (vs.set i v'))
  | refl (v : Tree) : w.Respells v v
  | symm {v v' : Tree} (same : w.Respells v v') : w.Respells v' v
  | trans {v v' v'' : Tree} (first : w.Respells v v') (second : w.Respells v' v'') :
    w.Respells v v''

/-- Arrays whose elements are the same one by one. -/
inductive Tree.Pairwise (same : Tree → Tree → Prop) : Tree → Tree → Prop
  | array {vs vs' : List Tree} (each : List.Forall₂ same vs vs') :
    Tree.Pairwise same (.array vs) (.array vs')

/-- The layout reads the same in whatever way the record is written. -/
structure Layout.Permits {F α : Type} (l : Layout F α) (w : Leeway F) : Prop where
  order : w.order = l.fields
  named : ∀ {key f}, l.field? key = some f ↔ key ∈ w.names f
  null : ∀ {f}, w.optional f → ∃ x, l.absent .object f = some x ∧ l.see f .null = some x
  inner : ∀ {f v v'}, w.inner f v v' → l.see f v = l.see f v'

/-- The field of a name, if each field has one. -/
theorem find?_eq_some_iff_of_names {F : Type} {all : List F} {name : F → String}
    {names : F → List String} (single : ∀ f, names f = [name f])
    (found : ∀ f, all.find? (fun g => name g = name f) = some f) {key : String} {f : F} :
    all.find? (fun g => name g = key) = some f ↔ key ∈ names f := by
  rw [single, List.mem_singleton]
  constructor
  · intro there
    have same : name f = key := by simpa using List.find?_some there
    exact same.symm
  · rintro rfl
    exact found f

namespace Layout.Permits

variable {F : Type} [DecidableEq F] {α : Type} {l : Layout F α} {w : Leeway F}

theorem entry_added (p : l.Permits w) {key : String} (foreign : ∀ f, key ∉ w.names f) (v : Tree)
    (ms : List (Option String × Tree)) (f : F) : l.entry f ((some key, v) :: ms) = l.entry f ms := by
  have elsewhere : (some key).bind l.field? ≠ some f := fun names => foreign f (p.named.mp names)
  rw [entry, given_cons, if_neg elsewhere, entry]

theorem entry_cons_congr (p : l.Permits w) {key key' : String} {g : F} (names : key ∈ w.names g)
    (names' : key' ∈ w.names g) {v v' : Tree} (alike : l.see g v = l.see g v')
    (ms : List (Option String × Tree)) (f : F) :
    l.entry f ((some key, v) :: ms) = l.entry f ((some key', v') :: ms) := by
  rw [entry, entry, given_cons, given_cons, Option.bind_some, Option.bind_some, p.named.mpr names,
    p.named.mpr names']
  by_cases same : g = f
  · subst same
    rw [alike]
  · rw [if_neg (by simpa using same), if_neg (by simpa using same)]

theorem entry_nulled (p : l.Permits w) {key : String} {g : F} (names : key ∈ w.names g)
    (optional : w.optional g) {ms : List (Option String × Tree)}
    (absent : ∀ key' ∈ w.names g, ∀ v, (some key', v) ∉ ms) (f : F) :
    l.entry f ms = l.entry f ((some key, .null) :: ms) := by
  rw [entry, entry, given_cons, Option.bind_some, p.named.mpr names]
  by_cases same : g = f
  · subst same
    have nothing : l.given g ms = [] := by
      rw [given, List.filterMap_eq_nil_iff]
      rintro ⟨key', v⟩ member
      refine if_neg fun names' => ?_
      obtain ⟨key', rfl, names'⟩ := Option.bind_eq_some_iff.mp names'
      exact absent key' (p.named.mp names') v member
    obtain ⟨x, default, seen⟩ := p.null optional
    rw [if_pos rfl, nothing, sole, sole, default, seen]
  · rw [if_neg (by simpa using same)]

/-- Whatever the way in which a record is written, the same is read. -/
theorem look_eq (p : l.Permits w) (h : l.Placeless) {v v' : Tree} (same : w.Respells v v') :
    v.look l.ofNode = v'.look l.ofNode := by
  induction same with
  | reordered same =>
    refine h.look_object_congr ?_ fun f => sole_perm _ (same.filterMap _)
    simp only [same.mem_iff]
  | added foreign v ms =>
    refine h.look_object_congr ?_ fun f => (p.entry_added foreign v ms f).symm
    simp
  | renamed names names' v ms =>
    refine h.look_object_congr ?_ (p.entry_cons_congr names names' rfl ms)
    simp
  | nulled names optional absent =>
    refine h.look_object_congr ?_ (p.entry_nulled names optional absent)
    simp
  | inside names same ms =>
    refine h.look_object_congr ?_ (p.entry_cons_congr names names (p.inner same) ms)
    simp
  | element field there same =>
    rw [p.order] at field
    rw [h.look_array, h.look_array, place_set field there (p.inner same)]
  | refl v => rfl
  | symm _ ih => exact ih.symm
  | trans _ _ first second => exact first.trans second

/-- Lists of records are read the same in whatever way the records are written. -/
theorem look_list_eq (p : l.Permits w) (h : l.Placeless) {v v' : Tree}
    (same : Tree.Pairwise w.Respells v v') :
    v.look (Node.list l.ofNode) = v'.look (Node.list l.ofNode) := by
  obtain ⟨each⟩ := same
  exact h.ofNode.look_array_congr (each.imp fun _ _ => p.look_eq h)

end Layout.Permits

end Rehearsal.Json
