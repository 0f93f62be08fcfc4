import Rehearsal.Proofs.Session.Handles

/-!
# The ledger of a session

What a session holds and which numbers it gave out change with each exchange in one of three ways.
The rules do not mention how a session decides what to ask for. Any run under them is nested, and
the handles that it obtained are those that are held and those that were released once.
-/
namespace Rehearsal

namespace Session

/-- What is held of a layer. -/
def slot (s : Session) : Layer → Option Nat
  | .engine => s.engine
  | .browser => s.browser
  | .context => s.context
  | .page => s.page

def put (s : Session) (l : Layer) (n : Option Nat) : Session :=
  match l with
  | .engine => { s with engine := n }
  | .browser => { s with browser := n }
  | .context => { s with context := n }
  | .page => { s with page := n }

def Holds (s : Session) (h : Handle) : Prop := s.slot h.layer = some h.number

instance (s : Session) (h : Handle) : Decidable (s.Holds h) :=
  inferInstanceAs (Decidable (s.slot h.layer = some h.number))

/-- The handle that is held of a layer. -/
def handle? (s : Session) (l : Layer) : Option Handle := (s.slot l).map (⟨l, ·⟩)

/-- The handle from which a layer is opened. -/
def under (s : Session) : Layer → Option Handle
  | .engine => none
  | .browser => s.handle? .engine
  | .context => s.handle? .browser
  | .page => s.handle? .context

@[simp] theorem slot_put_self (s : Session) (l : Layer) (n : Option Nat) :
    (s.put l n).slot l = n := by
  cases l <;> rfl

theorem slot_put_of_ne (s : Session) {l k : Layer} (n : Option Nat) (h : k ≠ l) :
    (s.put l n).slot k = s.slot k := by
  cases l <;> cases k <;> first | rfl | exact absurd rfl h

theorem put_none_of_slot_eq_none {s : Session} {l : Layer} (vacant : s.slot l = none) :
    s.put l none = s := by
  cases s
  cases l <;> simp_all [slot, put]

theorem under_put (s : Session) {l k : Layer} (n : Option Nat) (h : k.depth ≠ l.depth + 1) :
    (s.put l n).under k = s.under k := by
  cases l <;> cases k <;> first | rfl | exact absurd rfl h

theorem under_eq_none (s : Session) {l k : Layer} (vacant : s.slot l = none)
    (h : k.depth = l.depth + 1) : s.under k = none := by
  cases l <;> cases k <;> simp_all [Layer.depth, slot, under, handle?]

theorem under_eq_some {s : Session} {l k : Layer} {n : Nat} (held : s.slot l = some n)
    (h : k.depth = l.depth + 1) : s.under k = some ⟨l, n⟩ := by
  cases l <;> cases k <;> simp_all [Layer.depth, slot, under, handle?]

theorem holds_of_under {s : Session} {l : Layer} {h : Handle} (below : s.under l = some h) :
    s.Holds h := by
  cases l <;> simp_all [under, handle?, Holds] <;> obtain ⟨n, hn, rfl⟩ := below <;> exact hn

theorem holds_put_some {s : Session} {l : Layer} {n : Nat} (vacant : s.slot l = none)
    (h : Handle) : (s.put l (some n)).Holds h ↔ h = ⟨l, n⟩ ∨ s.Holds h := by
  obtain ⟨k, m⟩ := h
  by_cases hk : k = l
  · subst hk
    simp [Holds, vacant, eq_comm]
  · simp [Holds, slot_put_of_ne s _ hk, hk]

theorem holds_put_none {s : Session} {l : Layer} {n : Nat} (held : s.slot l = some n)
    (h : Handle) : (s.put l none).Holds h ↔ h ≠ ⟨l, n⟩ ∧ s.Holds h := by
  obtain ⟨k, m⟩ := h
  by_cases hk : k = l
  · subst hk
    simp [Holds, held, eq_comm]
  · simp [Holds, slot_put_of_ne s _ hk, hk]

end Session

namespace Issued

/-- The last number given out to a layer. Contexts and pages are numbered together. -/
def last (i : Issued) : Layer → Nat
  | .engine => i.engine
  | .browser => i.browser
  | .context | .page => i.tab

def put (i : Issued) (l : Layer) (n : Nat) : Issued :=
  match l with
  | .engine => { i with engine := n }
  | .browser => { i with browser := n }
  | .context | .page => { i with tab := n }

@[simp] theorem last_put_self (i : Issued) (l : Layer) (n : Nat) : (i.put l n).last l = n := by
  cases l <;> rfl

theorem last_le_last_put {i : Issued} {l : Layer} {n : Nat} (new : i.last l < n) (k : Layer) :
    i.last k ≤ (i.put l n).last k := by
  cases l <;> cases k <;> simp_all [last, put] <;> omega

end Issued

structure Ledger where
  session : Session
  issued : Issued

def World.ledger {σ : Type} (w : World σ) : Ledger := ⟨w.session, w.issued⟩

/-- How an exchange changes the ledger. -/
inductive Ledger.Turn : Ledger → Exchange → Ledger → Prop
  /-- A layer that was vacant is opened, from the handle held below it and under a new number. -/
  | gain {a : Ledger} {x : Exchange} {l : Layer} {n : Nat} (got : x.obtained? = some ⟨l, n⟩)
      (vacant : a.session.slot l = none) (below : x.call.on? = a.session.under l)
      (new : a.issued.last l < n) :
      Turn a x ⟨a.session.put l (some n), a.issued.put l n⟩
  /-- A handle that is held is used, or nothing could be opened. -/
  | keep {a : Ledger} {x : Exchange} (got : x.obtained? = none)
      (kept : x.call.releases? = none) (held : ∀ h, x.call.on? = some h → a.session.Holds h) :
      Turn a x a
  /-- The uppermost handle is released. -/
  | lose {a : Ledger} {x : Exchange} {l : Layer} {n : Nat} (given : x.call.releases? = some ⟨l, n⟩)
      (held : a.session.slot l = some n)
      (top : ∀ k, l.depth < k.depth → a.session.slot k = none) :
      Turn a x ⟨a.session.put l none, a.issued⟩

inductive Ledger.Turns : Ledger → List Exchange → Ledger → Prop
  | nil (a : Ledger) : Turns a [] a
  | cons {a a' a'' : Ledger} {x : Exchange} {t : List Exchange} :
      Turn a x a' → Turns a' t a'' → Turns a (x :: t) a''

theorem Ledger.Turns.append {a a' a'' : Ledger} {s t : List Exchange} (hs : Turns a s a')
    (ht : Turns a' t a'') : Turns a (s ++ t) a'' := by
  induction hs with
  | nil => exact ht
  | cons turn _ ih => exact .cons turn (ih ht)

theorem Ledger.Turn.turns {a a' : Ledger} {x : Exchange} (h : Turn a x a') : Turns a [x] a' :=
  .cons h (.nil a')

/-- The ledger is that of a session that began empty and made the calls of the trace. -/
structure Ledger.Sound (t : List Exchange) (a : Ledger) : Prop where
  nested : Nested t
  /-- What is held was opened from what is held below. -/
  linked : ∀ l n, a.session.slot l = some n →
    ∃ x ∈ t, x.obtained? = some ⟨l, n⟩ ∧ x.call.on? = a.session.under l
  numbered : ∀ h ∈ obtained t, h.number ≤ a.issued.last h.layer
  /-- What was obtained is held or was released once. -/
  settled : ∀ h ∈ obtained t, (released t).count h = if a.session.Holds h then 0 else 1

namespace Ledger

theorem sound_nil : Sound [] ⟨{}, {}⟩ where
  nested := nested_nil
  linked := by intro l n h; cases l <;> cases h
  numbered := by intro h hh; cases hh
  settled := by intro h hh; cases hh

theorem Sound.obtained_of_holds {t : List Exchange} {a : Ledger} (sound : Sound t a) {h : Handle}
    (held : a.session.Holds h) : h ∈ obtained t := by
  obtain ⟨x, hx, got, _⟩ := sound.linked h.layer h.number held
  exact mem_obtained.mpr ⟨x, hx, got⟩

theorem Sound.alive {t : List Exchange} {a : Ledger} (sound : Sound t a) {h : Handle}
    (held : a.session.Holds h) : h ∈ obtained t ∧ h ∉ released t := by
  have hobt := sound.obtained_of_holds held
  have hcount := sound.settled h hobt
  rw [if_pos held] at hcount
  exact ⟨hobt, List.count_eq_zero.mp hcount⟩

theorem Sound.released_of_not_holds {t : List Exchange} {a : Ledger} (sound : Sound t a)
    {h : Handle} (hobt : h ∈ obtained t) (free : ¬ a.session.Holds h) : h ∈ released t := by
  have hcount := sound.settled h hobt
  rw [if_neg free] at hcount
  exact List.count_pos_iff.mp (by omega)

/-- With a layer vacant, nothing is held above it. -/
theorem Sound.slot_above {t : List Exchange} {a : Ledger} (sound : Sound t a) {l k : Layer}
    (vacant : a.session.slot l = none) (h : k.depth = l.depth + 1) : a.session.slot k = none := by
  cases hk : a.session.slot k with
  | none => rfl
  | some m =>
    obtain ⟨x, _, got, on⟩ := sound.linked k m hk
    rw [a.session.under_eq_none vacant h] at on
    have hengine := Call.engine_of_on?_eq_none on (Exchange.opens?_of_obtained? got)
    change k = .engine at hengine
    subst hengine
    simp [Layer.depth] at h

theorem Sound.gain {t : List Exchange} {a : Ledger} (sound : Sound t a) {x : Exchange} {l : Layer}
    {n : Nat} (got : x.obtained? = some ⟨l, n⟩) (vacant : a.session.slot l = none)
    (below : x.call.on? = a.session.under l) (new : a.issued.last l < n) :
    Sound (t ++ [x]) ⟨a.session.put l (some n), a.issued.put l n⟩ := by
  have opening := Exchange.opens?_of_obtained? got
  have kept := Call.releases?_of_opens? opening
  have fresh : (⟨l, n⟩ : Handle) ∉ obtained t := by
    intro h
    have hle := sound.numbered _ h
    exact absurd hle (Nat.not_le_of_lt new)
  have same := obtained_concat_of_some t got
  have rest := released_concat_of_none t kept
  refine ⟨sound.nested.snoc ?_ ?_ ?_, ?_, ?_, ?_⟩
  · intro h hh
    rw [got] at hh
    cases hh
    exact fresh
  · intro h on
    exact sound.alive (Session.holds_of_under (below ▸ on))
  · intro h release
    rw [kept] at release
    cases release
  · intro k m hk
    by_cases hkl : k = l
    · subst hkl
      rw [Session.slot_put_self] at hk
      cases hk
      exact ⟨x, by simp, got, by rw [below, Session.under_put _ _ (by omega)]⟩
    · rw [Session.slot_put_of_ne _ _ hkl] at hk
      obtain ⟨y, hy, ygot, yon⟩ := sound.linked k m hk
      have hdepth : k.depth ≠ l.depth + 1 := by
        intro h
        rw [sound.slot_above vacant h] at hk
        cases hk
      exact ⟨y, List.mem_append_left _ hy, ygot, by rw [yon, Session.under_put _ _ hdepth]⟩
  · intro h hh
    rw [same] at hh
    rcases List.mem_append.mp hh with hh | hh
    · exact (sound.numbered h hh).trans (Issued.last_le_last_put new _)
    · obtain rfl := List.mem_singleton.mp hh
      simp
  · intro h hh
    rw [rest]
    simp only [Session.holds_put_some vacant]
    rw [same] at hh
    rcases List.mem_append.mp hh with hh | hh
    · have hne : h ≠ ⟨l, n⟩ := fun heq => fresh (heq ▸ hh)
      simpa [hne] using sound.settled h hh
    · obtain rfl := List.mem_singleton.mp hh
      have unreleased : (⟨l, n⟩ : Handle) ∉ released t :=
        fun hr => fresh (sound.nested.obtained_of_released hr)
      simpa using List.count_eq_zero.mpr unreleased

theorem Sound.keep {t : List Exchange} {a : Ledger} (sound : Sound t a) {x : Exchange}
    (got : x.obtained? = none) (kept : x.call.releases? = none)
    (held : ∀ h, x.call.on? = some h → a.session.Holds h) : Sound (t ++ [x]) a := by
  have same := obtained_concat_of_none t got
  have rest := released_concat_of_none t kept
  refine ⟨sound.nested.snoc ?_ ?_ ?_, ?_, ?_, ?_⟩
  · intro h hh
    rw [got] at hh
    cases hh
  · intro h on
    exact sound.alive (held h on)
  · intro h release
    rw [kept] at release
    cases release
  · intro l n hl
    obtain ⟨y, hy, link⟩ := sound.linked l n hl
    exact ⟨y, List.mem_append_left _ hy, link⟩
  · rw [same]
    exact sound.numbered
  · rw [same, rest]
    exact sound.settled

theorem Sound.lose {t : List Exchange} {a : Ledger} (sound : Sound t a) {x : Exchange} {l : Layer}
    {n : Nat} (given : x.call.releases? = some ⟨l, n⟩) (held : a.session.slot l = some n)
    (top : ∀ k, l.depth < k.depth → a.session.slot k = none) :
    Sound (t ++ [x]) ⟨a.session.put l none, a.issued⟩ := by
  have got := Exchange.obtained?_of_opens?_eq_none (Call.opens?_of_releases? given)
  have same := obtained_concat_of_none t got
  have rest := released_concat_of_some t given
  refine ⟨sound.nested.snoc ?_ ?_ ?_, ?_, ?_, ?_⟩
  · intro h hh
    rw [got] at hh
    cases hh
  · intro h on
    rw [Call.on?_of_releases? given] at on
    cases on
    exact sound.alive held
  · intro h release y hy on k ygot
    rw [given] at release
    cases release
    have hdepth := Call.depth_of_opens? on (Exchange.opens?_of_obtained? ygot)
    have vacant := top k.layer (by simp only at hdepth; omega)
    refine sound.released_of_not_holds (mem_obtained.mpr ⟨y, hy, ygot⟩) ?_
    intro h
    rw [Session.Holds, vacant] at h
    cases h
  · intro k m hk
    by_cases hkl : k = l
    · subst hkl
      rw [Session.slot_put_self] at hk
      cases hk
    · rw [Session.slot_put_of_ne _ _ hkl] at hk
      obtain ⟨y, hy, ygot, yon⟩ := sound.linked k m hk
      have hdepth : k.depth ≠ l.depth + 1 := by
        intro h
        rw [top k (by omega)] at hk
        cases hk
      exact ⟨y, List.mem_append_left _ hy, ygot, by rw [yon, Session.under_put _ _ hdepth]⟩
  · rw [same]
    exact sound.numbered
  · intro h hh
    rw [same] at hh
    have hcount := sound.settled h hh
    rw [rest, List.count_append, hcount]
    simp only [Session.holds_put_none held]
    by_cases heq : h = ⟨l, n⟩
    · subst heq
      simp [Session.Holds, held]
    · have hne : (⟨l, n⟩ : Handle) ≠ h := fun h' => heq h'.symm
      simp [heq, hne]

/-- What one exchange preserves. -/
theorem Turn.sound {t : List Exchange} {a a' : Ledger} {x : Exchange} (turn : Turn a x a')
    (sound : Sound t a) : Sound (t ++ [x]) a' := by
  cases turn with
  | gain got vacant below new => exact sound.gain got vacant below new
  | keep got kept held => exact sound.keep got kept held
  | lose given held top => exact sound.lose given held top

/-- What a run preserves, by induction on its exchanges. -/
theorem Turns.sound {s t : List Exchange} {a a' : Ledger} (turns : Turns a t a')
    (sound : Sound s a) : Sound (s ++ t) a' := by
  induction turns generalizing s with
  | nil => simpa using sound
  | cons turn _ ih => simpa using ih (turn.sound sound)

end Ledger

end Rehearsal
