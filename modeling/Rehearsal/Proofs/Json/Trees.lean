import Rehearsal.Json.Reader
import Rehearsal.Proofs.Json.Spelling
import Mathlib.Data.List.Forall2

/-!
# Values without places

A tree is what a text tells when the places of its values are left out. A reader is placeless if the
tree alone decides whether it succeeds and with what, while its faults may tell places.
-/
namespace Rehearsal.Json

variable {ε α β : Type}

@[simp] theorem toOption_ok (a : α) : (Except.ok a : Except ε α).toOption = some a := rfl

@[simp] theorem toOption_error (e : ε) : (Except.error e : Except ε α).toOption = none := rfl

@[simp] theorem toOption_map (f : α → β) (e : Except ε α) :
    (f <$> e).toOption = f <$> e.toOption := by
  cases e <;> rfl

@[simp] theorem toOption_bind (e : Except ε α) (k : α → Except ε β) :
    (e >>= k).toOption = e.toOption >>= fun a => (k a).toOption := by
  cases e <;> rfl

theorem toOption_eq_some_iff {e : Except ε α} {a : α} : e.toOption = some a ↔ e = .ok a := by
  cases e <;> simp

/-- A value of a text without its place. A number beyond the range of numbers has no content, and
neither has a string with a lone surrogate, be it a value or a key. -/
inductive Tree
  | null
  | bool (b : Bool)
  | number (content : Option Number)
  | string (content : Option String)
  | array (elements : List Tree)
  | object (members : List (Option String × Tree))

mutual

/-- The tree of a node, unless it is broken somewhere. -/
def Node.tree? : Node → Option Tree
  | .null _ => some .null
  | .bool b _ => some (.bool b)
  | .number content _ => some (.number content.toOption)
  | .string content _ => some (.string content.toOption)
  | .array _ elements => Tree.array <$> elements.trees?
  | .object _ members => Tree.object <$> members.trees?
  | .broken _ _ => none

def Elements.trees? : Elements → Option (List Tree)
  | .closed _ => some []
  | .torn _ _ _ => none
  | .next _ node _ rest => return (← node.tree?) :: (← rest.trees?)

def Members.trees? : Members → Option (List (Option String × Tree))
  | .closed _ => some []
  | .torn _ _ => none
  | .next key _ node _ rest => return (key.toOption, ← node.tree?) :: (← rest.trees?)

end

/-- The tree of a text that is one value and nothing else. -/
def Tree.ofText? (text : String) : Option Tree :=
  let r := Reading.ofText text.toList
  match r.trailing with
  | none => r.root.tree?
  | some _ => none

mutual

/-- The tree of a document, in which everything has a content. -/
def Document.tree : Document → Tree
  | .null => .null
  | .bool b => .bool b
  | .number n => .number (some n)
  | .string s => .string (some s)
  | .array xs => .array (trees xs)
  | .object ms => .object (memberTrees ms)

def Document.trees : List Document → List Tree
  | [] => []
  | x :: xs => x.tree :: trees xs

def Document.memberTrees : List (String × Document) → List (Option String × Tree)
  | [] => []
  | (key, x) :: ms => (some key, x.tree) :: memberTrees ms

end

mutual

theorem Node.Holds.tree?_eq {node : Node} {d : Document} : node.Holds d → node.tree? = some d.tree
  | .null _ => rfl
  | .bool _ _ => rfl
  | .number _ _ => rfl
  | .string _ _ => rfl
  | .array _ items => by rw [Node.tree?, items.trees?_eq]; rfl
  | .object _ items => by rw [Node.tree?, items.trees?_eq]; rfl

theorem Elements.Hold.trees?_eq {elements : Elements} {xs : List Document} :
    elements.Hold xs → elements.trees? = some (Document.trees xs)
  | .closed _ => rfl
  | .next _ _ head tail => by rw [Elements.trees?, head.tree?_eq, tail.trees?_eq]; rfl

theorem Members.Hold.trees?_eq {members : Members} {ms : List (String × Document)} :
    members.Hold ms → members.trees? = some (Document.memberTrees ms)
  | .closed _ => rfl
  | .next _ _ _ head tail => by rw [Members.trees?, head.tree?_eq, tail.trees?_eq]; rfl

end

mutual

/-- A node with the tree, with all places at the start of a text. -/
def Tree.node : Tree → Node
  | .null => .null 0
  | .bool b => .bool b 0
  | .number content => .number (content.elim (.error ⟨.numberTooLarge, 0⟩) .ok) 0
  | .string content => .string (content.elim (.error ⟨.loneSurrogate, 0⟩) .ok) 0
  | .array vs => .array 0 (nodes vs)
  | .object ms => .object 0 (nodeMembers ms)

def Tree.nodes : List Tree → Elements
  | [] => .closed 0
  | v :: vs => .next 0 v.node 0 (nodes vs)

def Tree.nodeMembers : List (Option String × Tree) → Members
  | [] => .closed 0
  | (key, v) :: ms =>
    .next (key.elim (.error ⟨.loneSurrogate, 0⟩) .ok) 0 v.node 0 (nodeMembers ms)

end

mutual

theorem Tree.tree?_node : (v : Tree) → v.node.tree? = some v
  | .null => rfl
  | .bool _ => rfl
  | .number content => by cases content <;> rfl
  | .string content => by cases content <;> rfl
  | .array vs => by rw [node, Node.tree?, trees?_nodes vs]; rfl
  | .object ms => by rw [node, Node.tree?, trees?_nodeMembers ms]; rfl

theorem Tree.trees?_nodes : (vs : List Tree) → (nodes vs).trees? = some vs
  | [] => rfl
  | v :: vs => by rw [nodes, Elements.trees?, tree?_node v, trees?_nodes vs]; rfl

theorem Tree.trees?_nodeMembers :
    (ms : List (Option String × Tree)) → (nodeMembers ms).trees? = some ms
  | [] => rfl
  | (key, v) :: ms => by
    rw [nodeMembers, Members.trees?, tree?_node v, trees?_nodeMembers ms]
    cases key <;> rfl

end

/-- What a reader makes of a tree, wherever it stands. -/
def Tree.look (read : Node → Except Fault α) (v : Tree) : Option α := (read v.node).toOption

/-- What is read does not depend on the place. -/
def Placeless (read : Node → Except Fault α) : Prop :=
  ∀ node v, node.tree? = some v → (read node).toOption = v.look read

theorem Elements.trees?_next_eq_some_iff {start settled : Nat} {node : Node} {rest : Elements}
    {vs : List Tree} : (Elements.next start node settled rest).trees? = some vs ↔
      ∃ v, node.tree? = some v ∧ ∃ others, rest.trees? = some others ∧ v :: others = vs := by
  simp [trees?, Option.bind_eq_some_iff]

theorem Members.trees?_next_eq_some_iff {key : Except Fault String} {named settled : Nat} {node : Node}
    {rest : Members} {ms : List (Option String × Tree)} :
    (Members.next key named node settled rest).trees? = some ms ↔
      ∃ v, node.tree? = some v ∧ ∃ others, rest.trees? = some others ∧
        (key.toOption, v) :: others = ms := by
  simp [trees?, Option.bind_eq_some_iff]

theorem Elements.closed_of_trees? {elements : Elements} (told : elements.trees? = some []) :
    ∃ stop, elements = .closed stop := by
  cases elements with
  | closed stop => exact ⟨stop, rfl⟩
  | torn => cases told
  | next => simp [trees?_next_eq_some_iff] at told

theorem Elements.next_of_trees? {elements : Elements} {v : Tree} {vs : List Tree}
    (told : elements.trees? = some (v :: vs)) :
    ∃ start node settled rest, elements = .next start node settled rest ∧
      node.tree? = some v ∧ rest.trees? = some vs := by
  cases elements with
  | closed => cases told
  | torn => cases told
  | next start node settled rest =>
    obtain ⟨_, head, _, tail, same⟩ := trees?_next_eq_some_iff.mp told
    cases same
    exact ⟨start, node, settled, rest, rfl, head, tail⟩

theorem Members.closed_of_trees? {members : Members} (told : members.trees? = some []) :
    ∃ stop, members = .closed stop := by
  cases members with
  | closed stop => exact ⟨stop, rfl⟩
  | torn => cases told
  | next => simp [trees?_next_eq_some_iff] at told

theorem Members.next_of_trees? {members : Members} {key : Option String} {v : Tree}
    {ms : List (Option String × Tree)} (told : members.trees? = some ((key, v) :: ms)) :
    ∃ content named node settled rest, members = .next content named node settled rest ∧
      content.toOption = key ∧ node.tree? = some v ∧ rest.trees? = some ms := by
  cases members with
  | closed => cases told
  | torn => cases told
  | next content named node settled rest =>
    obtain ⟨_, head, _, tail, same⟩ := trees?_next_eq_some_iff.mp told
    cases same
    exact ⟨content, named, node, settled, rest, rfl, rfl, head, tail⟩

mutual

/-- Whoever skips a value minds none that has a tree. -/
theorem Node.skim_of_tree? {v : Tree} : (node : Node) → node.tree? = some v → node.skim = .ok ()
  | .null _ | .bool _ _ | .number _ _ | .string _ _ => fun _ => rfl
  | .array _ elements => fun told => by
    obtain ⟨_, within, _⟩ := Option.map_eq_some_iff.mp told
    exact elements.skim_of_trees? within
  | .object _ members => fun told => by
    obtain ⟨_, within, _⟩ := Option.map_eq_some_iff.mp told
    exact members.skim_of_trees? within
  | .broken _ _ => nofun

theorem Elements.skim_of_trees? {vs : List Tree} :
    (elements : Elements) → elements.trees? = some vs → elements.skim = .ok ()
  | .closed _ => fun _ => rfl
  | .torn _ _ _ => nofun
  | .next _ node _ rest => fun told => by
    obtain ⟨_, head, _, tail, _⟩ := Elements.trees?_next_eq_some_iff.mp told
    rw [Elements.skim, node.skim_of_tree? head]
    exact rest.skim_of_trees? tail

theorem Members.skim_of_trees? {ms : List (Option String × Tree)} :
    (members : Members) → members.trees? = some ms → members.skim = .ok ()
  | .closed _ => fun _ => rfl
  | .torn _ _ => nofun
  | .next _ _ node _ rest => fun told => by
    obtain ⟨_, head, _, tail, _⟩ := Members.trees?_next_eq_some_iff.mp told
    rw [Members.skim, node.skim_of_tree? head]
    exact rest.skim_of_trees? tail

end

mutual

/-- How deep a value is nested does not depend on its place. -/
theorem Node.document_of_tree? (room : Nat) {v : Tree} : (node : Node) → node.tree? = some v →
    (node.document room).toOption = v.look (Node.document room)
  | .null _ | .bool _ _ => fun told => by cases told; rfl
  | .number content _ | .string content _ => fun told => by cases told; cases content <;> rfl
  | .array _ elements => fun told => by
    obtain ⟨vs, within, rfl⟩ := Option.map_eq_some_iff.mp told
    rw [Tree.look, Tree.node, Node.document, Node.document]
    split
    · rfl
    · simp only [toOption_map, elements.documents_of_trees? _ within]
  | .object _ members => fun told => by
    obtain ⟨ms, within, rfl⟩ := Option.map_eq_some_iff.mp told
    rw [Tree.look, Tree.node, Node.document, Node.document]
    split
    · rfl
    · simp only [toOption_map, members.documents_of_trees? _ within]
  | .broken _ _ => nofun

theorem Elements.documents_of_trees? (room : Nat) {vs : List Tree} :
    (elements : Elements) → elements.trees? = some vs →
      (elements.documents room).toOption = ((Tree.nodes vs).documents room).toOption
  | .closed _ => fun told => by cases told; rfl
  | .torn _ _ _ => nofun
  | .next _ node _ rest => fun told => by
    obtain ⟨v, head, vs, tail, rfl⟩ := Elements.trees?_next_eq_some_iff.mp told
    simp only [Elements.documents, Tree.nodes, toOption_bind, node.document_of_tree? room head,
      rest.documents_of_trees? room tail, Tree.look]

theorem Members.documents_of_trees? (room : Nat) {ms : List (Option String × Tree)} :
    (members : Members) → members.trees? = some ms →
      (members.documents room).toOption = ((Tree.nodeMembers ms).documents room).toOption
  | .closed _ => fun told => by cases told; rfl
  | .torn _ _ => nofun
  | .next key _ node _ rest => fun told => by
    obtain ⟨v, head, ms, tail, rfl⟩ := Members.trees?_next_eq_some_iff.mp told
    cases key <;>
      simp only [Members.documents, Tree.nodeMembers, toOption_bind, node.document_of_tree? room head,
        rest.documents_of_trees? room tail, Tree.look, toOption_error, toOption_ok, Option.elim]

end

theorem Node.nullable_congr {read read' : Node → Except Fault α}
    (same : ∀ node, (read node).toOption = (read' node).toOption) (node : Node) :
    (node.nullable read).toOption = (node.nullable read').toOption := by
  cases node <;> simp [Node.nullable, same]

namespace Placeless

variable {read : Node → Except Fault α}

theorem text : Placeless Node.text? := by
  intro node v told
  cases node with
  | string content => cases told; cases content <;> rfl
  | array | object =>
    obtain ⟨_, _, rfl⟩ := Option.map_eq_some_iff.mp told
    rfl
  | broken => cases told
  | _ => cases told; rfl

theorem word64 : Placeless Node.word64 := by
  intro node v told
  cases node with
  | number content stop =>
    cases told
    match content with
    | .ok (.integer n) =>
      by_cases positive : 0 ≤ n <;> simp [Tree.look, Tree.node, Node.word64, positive]
    | .ok (.double _) | .error _ => rfl
  | array | object =>
    obtain ⟨_, _, rfl⟩ := Option.map_eq_some_iff.mp told
    rfl
  | broken => cases told
  | _ => cases told; rfl

theorem map (h : Placeless read) (f : α → β) : Placeless fun node => f <$> read node := by
  intro node v told
  rw [toOption_map, h node v told, Tree.look, Tree.look, toOption_map]

theorem nullable (h : Placeless read) : Placeless (Node.nullable read) := by
  intro node v told
  have same := h.map some node v told
  cases node with
  | null => cases told; rfl
  | array | object =>
    obtain ⟨_, _, rfl⟩ := Option.map_eq_some_iff.mp told
    exact same
  | broken => cases told
  | _ => cases told; exact same

theorem collect (h : Placeless read) {elements : Elements} {vs : List Tree}
    (told : elements.trees? = some vs) : (elements.collect read).toOption = vs.mapM (·.look read) := by
  induction vs generalizing elements with
  | nil =>
    obtain ⟨stop, rfl⟩ := Elements.closed_of_trees? told
    rfl
  | cons v vs ih =>
    obtain ⟨_, node, _, rest, rfl, head, tail⟩ := Elements.next_of_trees? told
    simp only [Elements.collect, toOption_bind, h node v head, ih tail, List.mapM_cons]
    rfl

theorem look_array (h : Placeless read) (vs : List Tree) :
    (Tree.array vs).look (Node.list read) = vs.mapM (·.look read) :=
  h.collect (Tree.trees?_nodes vs)

theorem list (h : Placeless read) : Placeless (Node.list read) := by
  intro node v told
  cases node with
  | array _ elements =>
    obtain ⟨vs, within, rfl⟩ := Option.map_eq_some_iff.mp told
    rw [h.look_array]
    exact h.collect within
  | object =>
    obtain ⟨_, _, rfl⟩ := Option.map_eq_some_iff.mp told
    rfl
  | number content | string content => cases told; cases content <;> rfl
  | broken => cases told
  | _ => cases told; rfl

theorem document (room : Nat) : Placeless (Node.document room) :=
  fun node _ told => node.document_of_tree? room told

/-- Lists look alike whose elements do. -/
theorem look_array_congr (h : Placeless read) {vs vs' : List Tree}
    (alike : List.Forall₂ (fun v v' => v.look read = v'.look read) vs vs') :
    (Tree.array vs).look (Node.list read) = (Tree.array vs').look (Node.list read) := by
  rw [h.look_array, h.look_array]
  induction alike with
  | nil => rfl
  | cons head _ ih => rw [List.mapM_cons, List.mapM_cons, head, ih]

/-- The tree of a text decides what is read from the text. -/
theorem parse (h : Placeless read) {text : String} {v : Tree} (told : Tree.ofText? text = some v) :
    (Reading.parse read text).toOption = v.look read := by
  unfold Tree.ofText? at told
  cases trailing : (Reading.ofText text.toList).trailing with
  | some f => simp [trailing] at told
  | none =>
    simp only [trailing] at told
    rw [← h _ v told, Reading.parse]
    cases found : read (Reading.ofText text.toList).root with
    | ok a => simp [trailing]
    | error f => simp

end Placeless

end Rehearsal.Json
