import Rehearsal.Json.Layout
import Rehearsal.Proofs.Json.Writing

/-!
# Readers undo writers

A reader undoes a writer if it gives back every value from each node that holds what was written for the
value. Readers of lists, of values that may be absent and of records do if those of their parts do.
-/
namespace Rehearsal.Json

variable {α : Type} {read : Node → Except Fault α} {write : α → Document}

theorem Document.string_ne_null (s : String) : Document.string s ≠ .null := by simp

theorem Document.object_ne_null (ms : List (String × Document)) : Document.object ms ≠ .null := by simp

/-- The value is read from every node that holds the document. -/
def Reads (read : Node → Except Fault α) (d : Document) (a : α) : Prop :=
  ∀ node : Node, node.Holds d → read node = .ok a

namespace Reads

theorem text (s : String) : Reads Node.text? (.string s) s := by
  intro node holds
  cases holds
  rfl

theorem word64 (n : Nat) : Reads Node.word64 (.nat n) n := by
  intro node holds
  cases holds
  simp [Node.word64]

theorem collect {xs : List α} (h : ∀ a ∈ xs, Reads read (write a) a) {elements : Elements}
    (hold : elements.Hold (xs.map write)) : elements.collect read = .ok xs := by
  induction xs generalizing elements with
  | nil =>
    cases hold
    rfl
  | cons a xs ih =>
    obtain ⟨here, others⟩ := List.forall_mem_cons.mp h
    cases hold with
    | next _ _ head tail =>
      rw [Elements.collect, here _ head, ih others tail]
      rfl

theorem list {xs : List α} (h : ∀ a ∈ xs, Reads read (write a) a) :
    Reads (Node.list read) (Document.ofList write xs) xs := by
  intro node holds
  cases holds with
  | array _ hold => exact collect h hold

/-- What is written for a value must not be the `null` that is written for none. -/
theorem nullable {o : Option α} (h : ∀ a ∈ o, Reads read (write a) a) (present : ∀ a, write a ≠ .null) :
    Reads (Node.nullable read) (Document.ofOption write o) o := by
  intro node holds
  cases o with
  | none =>
    cases holds
    rfl
  | some a =>
    have value := h a rfl node holds
    have there := present a
    rw [Document.ofOption] at holds
    generalize write a = d at holds there
    cases holds with
    | null => exact absurd rfl there
    | _ => rw [Node.nullable, value] <;> first | rfl | nofun

/-- A text that spells the document is read as the value. -/
theorem parse {d : Document} {a : α} (h : Reads read d a) {s : List Char} (spelled : Spelled d s) :
    Reading.parse read (String.ofList s) = .ok a := by
  obtain ⟨node, found, holds⟩ := Reading.ofText_of_spelled spelled
  simp only [Reading.parse, String.toList_ofList, found, h node holds]

end Reads

/-- Reading gives back what was written, wherever it stands. -/
def Undoes (read : Node → Except Fault α) (write : α → Document) : Prop :=
  ∀ a node, node.Holds (write a) → read node = .ok a

namespace Undoes

theorem text : Undoes Node.text? .string := Reads.text

theorem word64 : Undoes (fun node => UInt64.ofNat <$> node.word64) fun n => .nat n.toNat := by
  intro n node holds
  simp [Reads.word64 n.toNat node holds]

theorem list (h : Undoes read write) : Undoes (Node.list read) (Document.ofList write) :=
  fun _ => Reads.list fun a _ => h a

theorem nullable (h : Undoes read write) (present : ∀ a, write a ≠ .null) :
    Undoes (Node.nullable read) (Document.ofOption write) :=
  fun _ => Reads.nullable (fun a _ => h a) present

end Undoes

/-- At most `room` brackets of the document are open at a time. -/
inductive Document.Fits : Nat → Document → Prop
  | null (room : Nat) : Fits room .null
  | bool (room : Nat) (b : Bool) : Fits room (.bool b)
  | number (room : Nat) (n : Number) : Fits room (.number n)
  | string (room : Nat) (s : String) : Fits room (.string s)
  | array {room : Nat} {xs : List Document} (items : ∀ x ∈ xs, Fits room x) :
    Fits (room + 1) (.array xs)
  | object {room : Nat} {ms : List (String × Document)} (items : ∀ m ∈ ms, Fits room m.2) :
    Fits (room + 1) (.object ms)

theorem Document.Fits.ofList {room : Nat} {xs : List α} (h : ∀ a ∈ xs, (write a).Fits room) :
    (Document.ofList write xs).Fits (room + 1) := by
  refine .array fun x hx => ?_
  obtain ⟨a, ha, rfl⟩ := List.mem_map.mp hx
  exact h a ha

theorem Document.Fits.ofOption {room : Nat} (h : ∀ a, (write a).Fits room) (o : Option α) :
    (Document.ofOption write o).Fits room := by
  cases o with
  | none => exact .null room
  | some a => exact h a

theorem Elements.documents_of_hold {room : Nat} {xs : List Document}
    (h : ∀ x ∈ xs, ∀ node : Node, node.Holds x → node.document room = .ok x) {elements : Elements}
    (hold : elements.Hold xs) : elements.documents room = .ok xs := by
  induction xs generalizing elements with
  | nil =>
    cases hold
    rfl
  | cons x xs ih =>
    cases hold with
    | next _ _ head tail =>
      have others := ih (fun y hy => h y (List.mem_cons_of_mem x hy)) tail
      rw [documents, h x List.mem_cons_self _ head, others]
      rfl

theorem Members.documents_of_hold {room : Nat} {ms : List (String × Document)}
    (h : ∀ m ∈ ms, ∀ node : Node, node.Holds m.2 → node.document room = .ok m.2) {members : Members}
    (hold : members.Hold ms) : members.documents room = .ok ms := by
  induction ms generalizing members with
  | nil =>
    cases hold
    rfl
  | cons m ms ih =>
    cases hold with
    | next _ _ _ head tail =>
      have others := ih (fun n hn => h n (List.mem_cons_of_mem _ hn)) tail
      rw [documents, h _ List.mem_cons_self _ head, others]
      rfl

/-- A document that does not nest too deep is read whole. -/
theorem Document.Fits.document_of_holds {room : Nat} {d : Document} (h : d.Fits room) :
    ∀ node : Node, node.Holds d → node.document room = .ok d := by
  induction h with
  | array _ ih =>
    intro node holds
    cases holds with
    | array _ hold => simp [Node.document, Elements.documents_of_hold ih hold]
  | object _ ih =>
    intro node holds
    cases holds with
    | object _ hold => simp [Node.document, Members.documents_of_hold ih hold]
  | _ =>
    intro node holds
    cases holds
    rfl

/-- A record as it is written: all fields in their order, each with a document that its value is read
from. -/
structure Layout.Copy {F : Type} (l : Layout F α) (a : α) where
  value : (f : F) → l.Value f
  write : F → Document
  all : ∀ f, f ∈ l.fields
  once : l.fields.Nodup
  named : ∀ f, l.field? (l.name f) = some f
  read : ∀ f settled, Reads (fun node => l.read f node settled) (write f) (value f)
  built : (l.build fun f => .ok (value f)) = .ok a

namespace Layout.Copy

variable {F : Type} [DecidableEq F] {l : Layout F α} {a : α} (c : l.Copy a)

def members (fs : List F) : List (String × Document) := fs.map fun f => (l.name f, c.write f)

def document : Document := .object (c.members l.fields)

omit [DecidableEq F] in
theorem document_plain (plain : ∀ f, (c.write f).Plain) : c.document.Plain := by
  refine .object fun m hm => ?_
  obtain ⟨f, _, rfl⟩ := List.mem_map.mp hm
  exact plain f

omit [DecidableEq F] in
theorem document_fits {room : Nat} (fits : ∀ f, (c.write f).Fits room) : c.document.Fits (room + 1) := by
  refine .object fun m hm => ?_
  obtain ⟨f, _, rfl⟩ := List.mem_map.mp hm
  exact fits f

/-- Gathering fills in the fields that are still to come. -/
theorem gather_members {fs : List F} (once : fs.Nodup) {members : Members}
    (hold : members.Hold (c.members fs)) {d : l.Draft} (empty : ∀ f ∈ fs, d f = none) :
    ∃ d' stop, l.gather members d = .ok (d', stop) ∧
      ∀ f, d' f = if f ∈ fs then some (c.value f) else d f := by
  induction fs generalizing members d with
  | nil =>
    cases hold with
    | closed stop => exact ⟨d, stop, rfl, fun f => by simp⟩
  | cons f fs ih =>
    obtain ⟨fresh, once⟩ := List.nodup_cons.mp once
    cases hold with
    | next _ named settled head tail =>
      have there := c.read f settled _ head
      have others : ∀ g ∈ fs, (d.set f (c.value f)) g = none := by
        intro g hg
        have apart : f ≠ g := fun same => fresh (same ▸ hg)
        rw [Draft.set, dif_neg apart, empty g (List.mem_cons_of_mem f hg)]
      obtain ⟨d', stop, rest, filled⟩ := ih once tail others
      refine ⟨d', stop, ?_, fun g => ?_⟩
      · simp only [gather, bind, Except.bind, c.named, empty f List.mem_cons_self, there]
        exact rest
      · rw [filled g]
        by_cases same : g = f
        · subst same
          rw [if_neg fresh, if_pos List.mem_cons_self, Draft.set, dif_pos rfl]
        · rw [Draft.set, dif_neg (Ne.symm same)]
          simp only [List.mem_cons, same, false_or]

/-- A record is read back from what was written for its fields. -/
theorem reads : Reads l.ofNode c.document a := by
  intro node holds
  cases holds with
  | object _ hold =>
    obtain ⟨d, stop, gathered, filled⟩ :=
      c.gather_members c.once hold (d := Draft.empty l) fun _ _ => rfl
    have complete : l.finish .object d = .ok a := by
      simp only [finish, filled, if_pos (c.all _), Option.some_or]
      exact c.built
    simp only [ofNode, bind, Except.bind, gathered, complete]

end Layout.Copy

/-- A writer of the records of a layout, which writes all fields in their order. -/
structure Layout.Writer {F : Type} (l : Layout F α) where
  value : α → (f : F) → l.Value f
  write : (f : F) → l.Value f → Document
  all : ∀ f, f ∈ l.fields
  once : l.fields.Nodup
  named : ∀ f, l.field? (l.name f) = some f
  plain : ∀ f v, (write f v).Plain
  undone : ∀ f settled, Undoes (fun node => l.read f node settled) (write f)
  built : ∀ a, (l.build fun f => .ok (value a f)) = .ok a

namespace Layout.Writer

variable {F : Type} [DecidableEq F] {l : Layout F α} (w : l.Writer)

def members (a : α) (fs : List F) : List (String × Document) :=
  fs.map fun f => (l.name f, w.write f (w.value a f))

def document (a : α) : Document := .object (w.members a l.fields)

def copy (a : α) : l.Copy a where
  value := w.value a
  write f := w.write f (w.value a f)
  all := w.all
  once := w.once
  named := w.named
  read f settled := w.undone f settled (w.value a f)
  built := w.built a

omit [DecidableEq F] in
theorem document_plain (a : α) : (w.document a).Plain :=
  (w.copy a).document_plain fun f => w.plain f (w.value a f)

/-- Every record is read back from what was written for its fields. -/
theorem undoes : Undoes l.ofNode w.document := fun a => (w.copy a).reads

/-- A text with one record is read back. -/
theorem parse_compact (a : α) :
    Reading.parse l.ofNode (String.ofList (w.document a).compact) = .ok a :=
  (w.copy a).reads.parse (w.document_plain a).spelled

end Layout.Writer

end Rehearsal.Json
