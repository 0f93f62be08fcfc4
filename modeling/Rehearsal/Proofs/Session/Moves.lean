import Mathlib.Order.Defs.Unbundled
import Rehearsal.Proofs.Session.Ledger

/-!
# Moves of the world within the rules of the ledger

`World.Moves P` relates two worlds if exchanges that the ledger allows lead from one to the other and
all their calls are of the kind `P`. The kinds say which layers a computation asks for and which it
releases.
-/
namespace Rehearsal

namespace Call

/-- The call asks for a layer, at most this one. -/
def Asks (l : Layer) (c : Call) : Prop := ∃ h, c.opens? = some h ∧ h.layer.depth ≤ l.depth

/-- The call releases a layer, at least this one. -/
def Frees (l : Layer) (c : Call) : Prop := ∃ h, c.releases? = some h ∧ l.depth ≤ h.layer.depth

/-- The call releases no layer below this one. -/
def Spares (l : Layer) (c : Call) : Prop := ∀ h, c.releases? = some h → l.depth ≤ h.layer.depth

theorem Asks.mono {l k : Layer} {c : Call} (hlk : l.depth ≤ k.depth) (h : c.Asks l) : c.Asks k := by
  obtain ⟨a, opening, ha⟩ := h
  exact ⟨a, opening, ha.trans hlk⟩

theorem Asks.spares {l k : Layer} {c : Call} (h : c.Asks l) : c.Spares k := by
  obtain ⟨a, opening, _⟩ := h
  intro r release
  rw [releases?_of_opens? opening] at release
  cases release

theorem Frees.spares {l : Layer} {c : Call} (h : c.Frees l) : c.Spares l := by
  obtain ⟨a, release, ha⟩ := h
  intro r hr
  rw [release] at hr
  cases hr
  exact ha

theorem Frees.mono {l k : Layer} {c : Call} (hkl : k.depth ≤ l.depth) (h : c.Frees l) :
    c.Frees k := by
  obtain ⟨a, release, ha⟩ := h
  exact ⟨a, release, hkl.trans ha⟩

theorem Spares.mono {l k : Layer} {c : Call} (hkl : k.depth ≤ l.depth) (h : c.Spares l) :
    c.Spares k := fun r hr => hkl.trans (h r hr)

theorem spares_of_page? {l : Layer} {c : Call} {p : Nat} (h : c.page? = some p) : c.Spares l := by
  intro r hr
  rw [releases?_of_page? h] at hr
  cases hr

end Call

theorem Ledger.Turns.slot_eq {a a' : Ledger} {t : List Exchange} {l k : Layer}
    (turns : Ledger.Turns a t a') (asks : ∀ x ∈ t, x.call.Asks l) (h : l.depth < k.depth) :
    a'.session.slot k = a.session.slot k := by
  induction turns with
  | nil => rfl
  | cons turn _ ih =>
    rename_i x t _
    rw [ih fun y hy => asks y (List.mem_cons_of_mem x hy)]
    obtain ⟨r, opening, hr⟩ := asks x List.mem_cons_self
    cases turn with
    | gain got _ _ _ =>
      rw [Exchange.opens?_of_obtained? got] at opening
      cases opening
      exact Session.slot_put_of_ne _ _ (by intro hk; subst hk; simp only at hr; omega)
    | keep _ _ _ => rfl
    | lose given _ _ =>
      rw [Call.releases?_of_opens? opening] at given
      cases given

variable {σ : Type}

namespace World

/-- The world moved on by exchanges that the ledger allows, whose calls are of one kind. -/
def Moves (P : Call → Prop) (w w' : World σ) : Prop :=
  ∃ t, w'.trace = w.trace ++ t ∧ (∀ x ∈ t, P x.call) ∧ Ledger.Turns w.ledger t w'.ledger

variable {P Q : Call → Prop} {w w' : World σ}

theorem moves_of_eq (ledger : w'.ledger = w.ledger) (trace : w'.trace = w.trace) :
    Moves P w w' :=
  ⟨[], by simpa using trace, by simp, ledger ▸ .nil _⟩

instance : IsPreorder (World σ) (Moves P) where
  refl _ := moves_of_eq rfl rfl
  trans u v w := by
    rintro ⟨s, hs, hP, turns⟩ ⟨t, ht, hP', turns'⟩
    refine ⟨s ++ t, by rw [ht, hs, List.append_assoc], ?_, turns.append turns'⟩
    intro x hx
    rcases List.mem_append.mp hx with hx | hx
    · exact hP x hx
    · exact hP' x hx

theorem Moves.mono (h : Moves P w w') (hPQ : ∀ c, P c → Q c) : Moves Q w w' := by
  obtain ⟨t, ht, hP, turns⟩ := h
  exact ⟨t, ht, fun x hx => hPQ _ (hP x hx), turns⟩

theorem moves_of_turn {x : Exchange} (allowed : P x.call) (turn : Ledger.Turn w.ledger x w'.ledger)
    (trace : w'.trace = w.trace ++ [x]) : Moves P w w' :=
  ⟨[x], trace, by simpa using allowed, turn.turns⟩

/-- A layer is asked for. Unless that failed, it is held afterwards. -/
theorem moves_of_open {c : Call} {r : Except Failure c.Answer} {l : Layer} {n : Nat}
    (opening : c.opens? = some ⟨l, n⟩) (vacant : w.session.slot l = none)
    (below : c.on? = w.session.under l) (new : w.issued.last l < n)
    (trace : w'.trace = w.trace ++ [⟨c, r⟩])
    (ledger : w'.ledger =
      if r.isOk then ⟨w.session.put l (some n), w.issued.put l n⟩ else w.ledger) :
    Moves (Call.Asks l) w w' := by
  refine moves_of_turn ⟨_, opening, le_rfl⟩ ?_ trace
  rw [ledger]
  cases r with
  | ok a => exact .gain opening vacant below new
  | error f =>
    exact .keep rfl (Call.releases?_of_opens? opening)
      fun h on => Session.holds_of_under (below ▸ on)

theorem Moves.slot_eq {l k : Layer} (h : Moves (Call.Asks l) w w') (hk : l.depth < k.depth) :
    w'.session.slot k = w.session.slot k := by
  obtain ⟨t, _, asks, turns⟩ := h
  exact turns.slot_eq asks hk

end World

end Rehearsal
