import Rehearsal.Json.Layout
import Rehearsal.Proofs.Json.Trees

/-!
# What a record is read from

An object is read field by field. A field takes the one value that the members give it, or its default
if they give none. So what is read depends neither on the order of the members nor on those that belong
to no field.
-/
namespace Rehearsal.Json

/-- The only one of some values, or the default if there is none. -/
def sole {V : Type} (default : Option V) : List (Option V) → Option V
  | [] => default
  | [x] => x
  | _ => none

/-- What a field holds behind the values that are given to it, if it can take them. -/
def take {V : Type} : Option V → List (Option V) → Option (Option V)
  | held, [] => some held
  | none, some x :: xs => take (some x) xs
  | _, _ :: _ => none

section Sole

variable {V : Type}

theorem sole_perm (default : Option V) {xs ys : List (Option V)} (same : xs.Perm ys) :
    sole default xs = sole default ys := by
  match xs, ys, same.length_eq with
  | [], [], _ => rfl
  | [x], [y], _ => rw [List.singleton_perm_singleton.mp same]
  | _ :: _ :: _, _ :: _ :: _, _ => rfl

theorem sole_eq_some_iff {default : Option V} {xs : List (Option V)} {x : V} :
    sole default xs = some x ↔ ∃ held, take none xs = some held ∧ held.or default = some x := by
  match xs with
  | [] => simp [sole, take]
  | [none] => simp [sole, take]
  | [some y] => simp [sole, take]
  | none :: _ :: _ | some _ :: _ :: _ => simp [sole, take]

end Sole

namespace Layout

variable {F : Type} [DecidableEq F] {α : Type} {l : Layout F α}

theorem Draft.set_self (d : l.Draft) (f : F) (x : l.Value f) : d.set f x f = some x := dif_pos rfl

theorem Draft.set_of_ne (d : l.Draft) {f g : F} (x : l.Value f) (apart : f ≠ g) : d.set f x g = d g :=
  dif_neg apart

variable (l)

/-- What a field makes of a value. -/
def see (f : F) (v : Tree) : Option (l.Value f) := v.look fun node => l.read f node 0

/-- What the members of an object give a field. -/
def given (f : F) (ms : List (Option String × Tree)) : List (Option (l.Value f)) :=
  ms.filterMap fun (key, v) => if key.bind l.field? = some f then some (l.see f v) else none

/-- The value of a field in an object. -/
def entry (f : F) (ms : List (Option String × Tree)) : Option (l.Value f) :=
  sole (l.absent .object f) (l.given f ms)

/-- The values of an array, taken by the fields in order. -/
def place : List F → List Tree → l.Draft → Option l.Draft
  | _, [], d => some d
  | [], _ :: _, _ => none
  | f :: fs, v :: vs, d => do place fs vs (d.set f (← l.see f v))

/-- The fields are read without regard to places, and a record needs them all. -/
structure Placeless : Prop where
  read : ∀ f settled node v, node.tree? = some v → (l.read f node settled).toOption = l.see f v
  needs : ∀ {get a}, l.build get = .ok a → ∀ f, ∃ x, get f = .ok x

variable {l}

theorem given_cons (f : F) (key : Option String) (v : Tree) (ms : List (Option String × Tree)) :
    l.given f ((key, v) :: ms) =
      if key.bind l.field? = some f then l.see f v :: l.given f ms else l.given f ms := by
  unfold given
  rw [List.filterMap_cons]
  split <;> simp_all

omit [DecidableEq F] in
theorem Placeless.finish_eq_ok_iff (h : l.Placeless) {form : Form} {d : l.Draft} {a : α} :
    l.finish form d = .ok a ↔ ∃ x : (f : F) → l.Value f,
      (∀ f, (d f).or (l.absent form f) = some (x f)) ∧ l.build (fun f => .ok (x f)) = .ok a := by
  constructor
  · intro built
    choose x found using h.needs built
    have whole : ∀ f, (d f).or (l.absent form f) = some (x f) := by
      intro f
      have here := found f
      split at here
      · rename_i eq
        cases here
        exact eq
      · cases here
    refine ⟨x, whole, ?_⟩
    rw [finish, funext found] at built
    exact built
  · rintro ⟨x, whole, built⟩
    simp only [finish, whole]
    exact built

/-- A member of a field is taken if the field is free and reads it. -/
theorem Placeless.gather_next_iff (h : l.Placeless) {key : String} {f : F}
    (names : l.field? key = some f) {node : Node} {v : Tree} (told : node.tree? = some v)
    {named settled : Nat} {rest : Members} {d d' : l.Draft} {stop : Nat} :
    l.gather (.next (.ok key) named node settled rest) d = .ok (d', stop) ↔
      d f = none ∧ ∃ x, l.see f v = some x ∧ l.gather rest (d.set f x) = .ok (d', stop) := by
  rw [← h.read f settled node v told]
  simp only [gather, bind, Except.bind, names]
  cases held : d f with
  | some y => simp
  | none => cases l.read f node settled <;> simp

theorem take_given_cons_iff {key : String} {f : F} (names : l.field? key = some f) (v : Tree)
    (ms : List (Option String × Tree)) (d d' : l.Draft) :
    (∀ g, take (d g) (l.given g ((some key, v) :: ms)) = some (d' g)) ↔
      d f = none ∧ ∃ x, l.see f v = some x ∧
        ∀ g, take (d.set f x g) (l.given g ms) = some (d' g) := by
  have own : l.given f ((some key, v) :: ms) = l.see f v :: l.given f ms := by
    simp [given_cons, names]
  have others : ∀ g, f ≠ g → l.given g ((some key, v) :: ms) = l.given g ms := by
    intro g apart
    simp [given_cons, names, apart]
  constructor
  · intro taken
    have here := taken f
    rw [own] at here
    cases held : d f with
    | some y => simp [held, take] at here
    | none =>
      cases seen : l.see f v with
      | none => simp [held, seen, take] at here
      | some x =>
        refine ⟨rfl, x, rfl, fun g => ?_⟩
        by_cases same : f = g
        · subst same
          rw [held, seen] at here
          rw [Draft.set_self]
          exact here
        · rw [Draft.set_of_ne d x same, ← others g same]
          exact taken g
  · rintro ⟨held, x, seen, taken⟩ g
    have here := taken g
    by_cases same : f = g
    · subst same
      rw [Draft.set_self] at here
      rw [own, held, seen]
      exact here
    · rw [Draft.set_of_ne d x same] at here
      rw [others g same]
      exact here

/-- The members fill in a draft if all keys are names and each field can take what they give it. -/
theorem Placeless.gather_eq_ok_iff (h : l.Placeless) {members : Members}
    {ms : List (Option String × Tree)} (told : members.trees? = some ms) {d d' : l.Draft} :
    (∃ stop, l.gather members d = .ok (d', stop)) ↔
      (∀ m ∈ ms, m.1.isSome) ∧ ∀ f, take (d f) (l.given f ms) = some (d' f) := by
  induction ms generalizing members d with
  | nil =>
    obtain ⟨stop, rfl⟩ := Members.closed_of_trees? told
    simp [gather, given, take, funext_iff]
  | cons m ms ih =>
    obtain ⟨key, v⟩ := m
    obtain ⟨content, _, node, _, rest, rfl, rfl, head, tail⟩ := Members.next_of_trees? told
    rw [List.forall_mem_cons]
    cases content with
    | error fault => simp [gather, bind, Except.bind]
    | ok key =>
      cases names : l.field? key with
      | none =>
        have foreign : ∀ f, l.given f ((some key, v) :: ms) = l.given f ms := by
          intro f
          simp [given_cons, names]
        simp only [gather, bind, Except.bind, names, node.skim_of_tree? head, toOption_ok, foreign,
          Option.isSome_some, true_and]
        exact ih tail
      | some f =>
        rw [toOption_ok, take_given_cons_iff names]
        simp only [h.gather_next_iff names head, Option.isSome_some, true_and]
        constructor
        · rintro ⟨stop, free, x, seen, gathered⟩
          obtain ⟨keys, taken⟩ := (ih tail).mp ⟨stop, gathered⟩
          exact ⟨keys, free, x, seen, taken⟩
        · rintro ⟨keys, free, x, seen, taken⟩
          obtain ⟨stop, gathered⟩ := (ih tail).mpr ⟨keys, taken⟩
          exact ⟨stop, free, x, seen, gathered⟩

theorem entry_eq_some_iff {f : F} {ms : List (Option String × Tree)} {x : l.Value f} :
    l.entry f ms = some x ↔
      ∃ held, take none (l.given f ms) = some held ∧ held.or (l.absent .object f) = some x :=
  sole_eq_some_iff

/-- A record is read from an object if all keys are names and each field has a value. -/
theorem Placeless.ofNode_object_iff (h : l.Placeless) {start : Nat} {members : Members}
    {ms : List (Option String × Tree)} (told : members.trees? = some ms) {a : α} :
    l.ofNode (.object start members) = .ok a ↔ (∀ m ∈ ms, m.1.isSome) ∧
      ∃ x : (f : F) → l.Value f,
        (∀ f, l.entry f ms = some (x f)) ∧ l.build (fun f => .ok (x f)) = .ok a := by
  have parts : l.ofNode (.object start members) = .ok a ↔
      ∃ d, (∃ stop, l.gather members (Draft.empty l) = .ok (d, stop)) ∧ l.finish .object d = .ok a := by
    simp only [ofNode, bind, Except.bind]
    cases l.gather members (Draft.empty l) with
    | error f => simp
    | ok r => cases finished : l.finish .object r.1 <;> simp [Prod.ext_iff, finished]
  rw [parts]
  simp only [h.gather_eq_ok_iff told, h.finish_eq_ok_iff, entry_eq_some_iff]
  constructor
  · rintro ⟨d, ⟨keys, taken⟩, x, whole, built⟩
    exact ⟨keys, x, fun f => ⟨d f, taken f, whole f⟩, built⟩
  · rintro ⟨keys, x, entries, built⟩
    choose d taken whole using entries
    exact ⟨d, ⟨keys, taken⟩, x, whole, built⟩

/-- The elements fill in a draft if there are not too many and each field reads its own. -/
theorem Placeless.fill_eq_place (h : l.Placeless) {elements : Elements} {vs : List Tree}
    (told : elements.trees? = some vs) (fs : List F) (d : l.Draft) :
    (l.fill fs elements d).toOption.map (·.1) = l.place fs vs d := by
  induction vs generalizing elements fs d with
  | nil =>
    obtain ⟨stop, rfl⟩ := Elements.closed_of_trees? told
    cases fs <;> rfl
  | cons v vs ih =>
    obtain ⟨_, node, settled, rest, rfl, head, tail⟩ := Elements.next_of_trees? told
    cases fs with
    | nil => rfl
    | cons f fs =>
      rw [place, ← h.read f settled node v head]
      cases read : l.read f node settled with
      | error fault => simp [fill, read, bind, Except.bind]
      | ok x =>
        have others := ih tail fs (d.set f x)
        simpa [fill, read, bind, Except.bind] using others

theorem Placeless.ofNode_array (h : l.Placeless) {start : Nat} {elements : Elements} {vs : List Tree}
    (told : elements.trees? = some vs) :
    (l.ofNode (.array start elements)).toOption =
      (l.place l.fields vs (Draft.empty l)).bind fun d => (l.finish .array d).toOption := by
  rw [← h.fill_eq_place told l.fields (Draft.empty l)]
  simp only [ofNode, bind, Except.bind]
  cases l.fill l.fields elements (Draft.empty l) with
  | error f => rfl
  | ok r => cases finished : l.finish .array r.1 <;> simp [finished]

theorem Placeless.look_object_eq_some_iff (h : l.Placeless) {ms : List (Option String × Tree)} {a : α} :
    (Tree.object ms).look l.ofNode = some a ↔ (∀ m ∈ ms, m.1.isSome) ∧
      ∃ x : (f : F) → l.Value f,
        (∀ f, l.entry f ms = some (x f)) ∧ l.build (fun f => .ok (x f)) = .ok a :=
  toOption_eq_some_iff.trans (h.ofNode_object_iff (Tree.trees?_nodeMembers ms))

theorem Placeless.look_array (h : l.Placeless) (vs : List Tree) :
    (Tree.array vs).look l.ofNode =
      (l.place l.fields vs (Draft.empty l)).bind fun d => (l.finish .array d).toOption :=
  h.ofNode_array (Tree.trees?_nodes vs)

/-- The tree of a record decides what is read. -/
theorem Placeless.ofNode (h : l.Placeless) : Json.Placeless l.ofNode := by
  intro node v told
  cases node with
  | array _ elements =>
    obtain ⟨vs, within, rfl⟩ := Option.map_eq_some_iff.mp told
    rw [h.ofNode_array within, h.look_array]
  | object _ members =>
    obtain ⟨ms, within, rfl⟩ := Option.map_eq_some_iff.mp told
    apply Option.ext
    intro a
    rw [toOption_eq_some_iff, h.ofNode_object_iff within, h.look_object_eq_some_iff]
  | number content | string content => cases told; cases content <;> rfl
  | broken => cases told
  | _ => cases told; rfl

/-- Objects that give the fields the same values are the same record. -/
theorem Placeless.look_object_congr (h : l.Placeless) {ms ms' : List (Option String × Tree)}
    (keys : (∀ m ∈ ms, m.1.isSome) ↔ ∀ m ∈ ms', m.1.isSome)
    (entries : ∀ f, l.entry f ms = l.entry f ms') :
    (Tree.object ms).look l.ofNode = (Tree.object ms').look l.ofNode := by
  apply Option.ext
  intro a
  rw [h.look_object_eq_some_iff, h.look_object_eq_some_iff, keys]
  simp only [entries]

theorem place_set {i : Nat} {f : F} {fs : List F} {vs : List Tree} {v v' : Tree}
    (field : fs[i]? = some f) (there : vs[i]? = some v) (alike : l.see f v = l.see f v') (d : l.Draft) :
    l.place fs (vs.set i v') d = l.place fs vs d := by
  induction fs generalizing i vs d with
  | nil => simp at field
  | cons g fs ih =>
    cases vs with
    | nil => simp at there
    | cons w vs =>
      cases i with
      | zero =>
        simp only [List.getElem?_cons_zero, Option.some.injEq] at field there
        subst field there
        rw [List.set_cons_zero, place, place, alike]
      | succ i =>
        rw [List.getElem?_cons_succ] at field there
        simp only [List.set_cons_succ, place, ih field there]

end Layout

end Rehearsal.Json
