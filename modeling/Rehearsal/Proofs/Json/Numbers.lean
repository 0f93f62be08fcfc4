import Rehearsal.Json.Layout

/-!
# Numbers that were read

An integer fits 64 bits wherever it is read in a text, and so do those that records are made of.
-/
namespace Rehearsal.Json

mutual

/-- The integers in the value fit 64 bits. -/
def Node.Narrow : Node → Prop
  | .number (.ok (.integer n)) _ => n < UInt64.size
  | .array _ elements => elements.Narrow
  | .object _ members => members.Narrow
  | _ => True

def Elements.Narrow : Elements → Prop
  | .next _ node _ rest => node.Narrow ∧ rest.Narrow
  | _ => True

def Members.Narrow : Members → Prop
  | .next _ _ node _ rest => node.Narrow ∧ rest.Narrow
  | _ => True

end

theorem Numeral.takeDigits_lt {start : Nat} (h : start < UInt64.size) (ds : List Char) :
    (takeDigits start ds).1 < UInt64.size := by
  induction ds generalizing start with
  | nil => exact h
  | cons d ds ih =>
    rw [takeDigits]
    split
    · exact ih ‹_›
    · exact h

/-- What is not kept as an integer is kept as a double. -/
theorem Numeral.value_integer_lt {n : Numeral} {stop : Nat} {k : Int}
    (h : n.value stop = .ok (.integer k)) : k < UInt64.size := by
  have fits := takeDigits_lt (by decide : 0 < UInt64.size) n.whole
  unfold value at h
  dsimp only at h
  split at h
  · cases h
    omega
  split at h
  · cases h
    omega
  split at h
  · split at h <;> cases h
  · split at h
    · split at h <;> cases h
    · split at h <;> cases h

theorem Node.numeral_narrow (c : Cursor) : (numeral c).1.Narrow := by
  unfold numeral
  split
  · rename_i n c' _
    rcases value : n.value c'.offset with _ | ⟨k | _⟩
    · trivial
    · exact Numeral.value_integer_lt value
    · trivial
  · trivial

theorem Node.word_narrow (c : Cursor) (w : String) {node : Nat → Node} (h : ∀ stop, (node stop).Narrow) :
    (word c w node).1.Narrow := by
  unfold word
  split
  · exact h _
  · trivial

theorem Node.text_narrow (c : Cursor) : (text c).1.Narrow := by
  unfold text
  split <;> trivial

/-- With so much fuel, what is read has narrow integers only. -/
structure ReadsNarrow (fuel : Nat) : Prop where
  node : ∀ c, (readNode fuel c).1.Narrow
  elements : ∀ c first, (readElements fuel c first).1.Narrow
  element : ∀ c, (readElement fuel c).1.Narrow
  members : ∀ c first, (readMembers fuel c first).1.Narrow
  member : ∀ c, (readMember fuel c).1.Narrow

namespace ReadsNarrow

variable {fuel : Nat} (h : ReadsNarrow fuel)

theorem zero : ReadsNarrow 0 := by
  constructor <;> intros <;> simp [readNode, readElements, readElement, readMembers, readMember, Node.both,
    Node.Narrow, Elements.Narrow, Members.Narrow]

include h

theorem node_succ (c : Cursor) : (readNode (fuel + 1) c).1.Narrow := by
  rw [readNode]
  dsimp only
  split
  · trivial
  · exact Node.word_narrow _ _ fun _ => trivial
  · exact Node.word_narrow _ _ fun _ => trivial
  · exact Node.word_narrow _ _ fun _ => trivial
  · exact Node.text_narrow _
  · exact h.elements _ true
  · exact h.members _ true
  · split
    · exact Node.numeral_narrow _
    · trivial

theorem elements_succ (c : Cursor) (first : Bool) : (readElements (fuel + 1) c first).1.Narrow := by
  rw [readElements.eq_def]
  dsimp only
  split
  · trivial
  · trivial
  · exact h.element _
  · split
    · trivial
    · trivial
    · exact h.element _
  · trivial

theorem element_succ (c : Cursor) : (readElement (fuel + 1) c).1.Narrow := by
  have node := h.node c
  rw [readElement]
  split
  · exact ⟨trivial, trivial⟩
  · rename_i there
    rw [there] at node
    exact ⟨node, h.elements _ false⟩

theorem members_succ (c : Cursor) (first : Bool) : (readMembers (fuel + 1) c first).1.Narrow := by
  rw [readMembers.eq_def]
  dsimp only
  split
  · trivial
  · trivial
  · exact h.member _
  · trivial
  · split
    · trivial
    · exact h.member _
    · trivial
    · trivial
  · trivial

theorem member_succ (c : Cursor) : (readMember (fuel + 1) c).1.Narrow := by
  rw [readMember]
  split
  · trivial
  · dsimp only
    split
    · exact ⟨trivial, trivial⟩
    · rename_i value _
      have node := h.node value
      split
      · exact ⟨trivial, trivial⟩
      · rename_i there
        rw [there] at node
        exact ⟨node, h.members _ false⟩

end ReadsNarrow

/-- By induction on the fuel, which the five readers spend together. -/
theorem readsNarrow (fuel : Nat) : ReadsNarrow fuel := by
  induction fuel with
  | zero => exact .zero
  | succ fuel ih =>
    exact ⟨ih.node_succ, ih.elements_succ, ih.element_succ, ih.members_succ, ih.member_succ⟩

theorem Reading.root_narrow (s : List Char) : (ofText s).root.Narrow :=
  (readsNarrow (3 * s.length + 3)).node (.ofText s)

/-! ## What readers take from such values -/

variable {α : Type} {read : Node → Except Fault α} {P : α → Prop}

theorem exists_of_bind_ok {ε β : Type} {m : Except ε α} {f : α → Except ε β} {b : β}
    (h : m >>= f = .ok b) : ∃ a, m = .ok a ∧ f a = .ok b := by
  cases m with
  | error e => cases h
  | ok a => exact ⟨a, rfl, h⟩

/-- What the reader takes from a value with narrow integers has the property. -/
def Gives (read : Node → Except Fault α) (P : α → Prop) : Prop :=
  ∀ node : Node, node.Narrow → ∀ a, read node = .ok a → P a

namespace Gives

theorem parse (h : Gives read P) {text : String} {a : α} (parsed : Reading.parse read text = .ok a) :
    P a := by
  unfold Reading.parse at parsed
  dsimp only at parsed
  split at parsed
  · cases parsed
  · cases parsed
  · rename_i there _
    cases parsed
    exact h _ (Reading.root_narrow _) _ there

theorem word64 : Gives Node.word64 (· < UInt64.size) := by
  intro node narrow n h
  unfold Node.word64 at h
  split at h
  · rename_i k stop
    have small : k < UInt64.size := narrow
    split at h
    · cases h
      omega
    · cases h
  · cases h

theorem collect (h : Gives read P) : ∀ elements : Elements, elements.Narrow → ∀ as,
    elements.collect read = .ok as → ∀ a ∈ as, P a
  | .closed _, _, as, collected => by
    cases collected
    simp
  | .torn .., _, as, collected => by cases collected
  | .next _ node _ rest, narrow, as, collected => by
    obtain ⟨here, others⟩ := narrow
    obtain ⟨a, head, collected⟩ := exists_of_bind_ok collected
    obtain ⟨as, tail, collected⟩ := exists_of_bind_ok collected
    cases collected
    exact List.forall_mem_cons.mpr ⟨h node here a head, collect h rest others as tail⟩

theorem list (h : Gives read P) : Gives (Node.list read) fun as => ∀ a ∈ as, P a := by
  intro node narrow as listed
  unfold Node.list at listed
  split at listed
  · exact h.collect _ narrow as listed
  · cases listed

end Gives

/-- The fields of a record have their properties wherever they come from, and so the record has its own. -/
structure Layout.Keeps {F : Type} (l : Layout F α) (good : (f : F) → l.Value f → Prop) (P : α → Prop) :
    Prop where
  read : ∀ f settled, Gives (fun node => l.read f node settled) (good f)
  absent : ∀ form f v, l.absent form f = some v → good f v
  build : ∀ get a, l.build get = .ok a → (∀ f v, get f = .ok v → good f v) → P a

namespace Layout

variable {F : Type} {l : Layout F α} {good : (f : F) → l.Value f → Prop}

/-- The fields that were read have their properties. -/
def Draft.All (good : (f : F) → l.Value f → Prop) (d : l.Draft) : Prop := ∀ f v, d f = some v → good f v

namespace Keeps

theorem finish (keeps : l.Keeps good P) {form : Form} {d : l.Draft} (h : d.All good) {a : α}
    (finished : l.finish form d = .ok a) : P a := by
  refine keeps.build _ a finished fun f v there => ?_
  split at there
  · rename_i u found
    cases there
    rcases written : d f with _ | u
    · rw [written] at found
      exact keeps.absent form f v found
    · rw [written] at found
      cases found
      exact h f v written
  · cases there

variable [DecidableEq F]

theorem set {d : l.Draft} (h : d.All good) {f : F} {v : l.Value f} (hv : good f v) :
    (d.set f v).All good := by
  intro g u there
  by_cases same : f = g
  · subst same
    rw [Draft.set, dif_pos rfl] at there
    cases there
    exact hv
  · rw [Draft.set, dif_neg same] at there
    exact h g u there

variable (keeps : l.Keeps good P)

include keeps

theorem gather : ∀ (members : Members) (d : l.Draft), members.Narrow → d.All good →
    ∀ d' stop, l.gather members d = .ok (d', stop) → d'.All good
  | .closed _, d, _, start, d', stop, gathered => by
    cases gathered
    exact start
  | .torn .., _, _, _, _, _, gathered => by cases gathered
  | .next key named node settled rest, d, narrow, start, d', stop, gathered => by
    obtain ⟨here, others⟩ := narrow
    rw [Layout.gather] at gathered
    obtain ⟨name, -, gathered⟩ := exists_of_bind_ok gathered
    split at gathered
    · obtain ⟨_, -, gathered⟩ := exists_of_bind_ok gathered
      exact gather rest d others start d' stop gathered
    · rename_i f _
      split at gathered
      · cases gathered
      · obtain ⟨v, there, gathered⟩ := exists_of_bind_ok gathered
        have more := set start (keeps.read f settled node here v there)
        exact gather rest _ others more d' stop gathered

theorem fill : ∀ (fs : List F) (elements : Elements) (d : l.Draft), elements.Narrow → d.All good →
    ∀ d' stop, l.fill fs elements d = .ok (d', stop) → d'.All good
  | fs, .closed _, d, _, start, d', stop, filled => by
    cases fs <;> cases filled <;> exact start
  | [], .torn .., _, _, _, _, _, filled => by cases filled
  | [], .next .., _, _, _, _, _, filled => by cases filled
  | _ :: _, .torn .., _, _, _, _, _, filled => by cases filled
  | f :: fs, .next _ node settled rest, d, narrow, start, d', stop, filled => by
    obtain ⟨here, others⟩ := narrow
    obtain ⟨v, there, filled⟩ := exists_of_bind_ok filled
    have more := set start (keeps.read f settled node here v there)
    exact fill fs rest _ others more d' stop filled

/-- A record has its property whichever form it is read from. -/
theorem gives : Gives l.ofNode P := by
  have empty : (Draft.empty l).All good := fun _ _ => nofun
  intro node narrow a read
  unfold ofNode at read
  split at read
  · obtain ⟨⟨d, stop⟩, gathered, read⟩ := exists_of_bind_ok read
    dsimp only at read
    split at read
    · cases read
      exact keeps.finish (keeps.gather _ _ narrow empty d stop gathered) ‹_›
    · cases read
  · obtain ⟨⟨d, stop⟩, filled, read⟩ := exists_of_bind_ok read
    dsimp only at read
    split at read
    · cases read
      exact keeps.finish (keeps.fill _ _ _ narrow empty d stop filled) ‹_›
    · cases read
  · cases read

end Keeps

end Layout

end Rehearsal.Json
