import Rehearsal.Proofs.Session.Acquisition

/-!
# Sessions open and release their layers like brackets

The operations of a session are put together in any order and number. The backend decides which of
their calls fail, and with what. Handles are told apart by their layer and number.
-/
namespace Rehearsal

variable {σ : Type} (b : Backend σ)

namespace World

/-- The same world with a new session: nothing is held, and nothing was asked of the backend. -/
def unused (w : World σ) : World σ := { w with session := {}, issued := {}, trace := [] }

/-- What was obtained is held and was not released, or is not held and was released once. -/
def Settled (w : World σ) : Prop :=
  ∀ h ∈ obtained w.trace, (released w.trace).count h = if w.session.Holds h then 0 else 1

/-- What is held was opened from what is held of the layer below. -/
structure Stacked (w : World σ) : Prop where
  page : ∀ p, w.session.page = some p →
    ∃ c, w.session.context = some c ∧ ⟨.openPage c p, .ok ()⟩ ∈ w.trace
  context : ∀ c, w.session.context = some c →
    ∃ h, w.session.browser = some h ∧ ⟨.openContext h c, .ok ()⟩ ∈ w.trace
  browser : ∀ h, w.session.browser = some h →
    ∃ e kind, w.session.engine = some e ∧ ⟨.launch e h kind, .ok ()⟩ ∈ w.trace
  engine : ∀ e, w.session.engine = some e → ⟨.startEngine e, .ok ()⟩ ∈ w.trace

/-- The books agree with the trace. -/
def Sound (w : World σ) : Prop := w.ledger.Sound w.trace

theorem sound_unused (w : World σ) : w.unused.Sound := Ledger.sound_nil

theorem Moves.sound {P : Call → Prop} {w w' : World σ} (moves : Moves P w w') (sound : w.Sound) :
    w'.Sound := by
  obtain ⟨t, trace, _, turns⟩ := moves
  rw [Sound, trace]
  exact turns.sound sound

theorem Sound.stacked {w : World σ} (sound : w.Sound) : w.Stacked where
  page := by
    intro p hp
    obtain ⟨x, hx, got, on⟩ := sound.linked .page p hp
    obtain ⟨c, rfl⟩ := Exchange.opened got
    exact ⟨c, Session.holds_of_under on.symm, hx⟩
  context := by
    intro c hc
    obtain ⟨x, hx, got, on⟩ := sound.linked .context c hc
    obtain ⟨h, rfl⟩ := Exchange.opened got
    exact ⟨h, Session.holds_of_under on.symm, hx⟩
  browser := by
    intro h hh
    obtain ⟨x, hx, got, on⟩ := sound.linked .browser h hh
    obtain ⟨e, kind, rfl⟩ := Exchange.opened got
    exact ⟨e, kind, Session.holds_of_under on.symm, hx⟩
  engine := by
    intro e he
    obtain ⟨x, hx, got, _⟩ := sound.linked .engine e he
    obtain rfl := Exchange.opened got
    exact hx

/-- If no handle is held of a layer, all that were obtained of it have been released once. -/
theorem Sound.count_released {w : World σ} (sound : w.Sound) {h : Handle}
    (hobt : h ∈ obtained w.trace) (vacant : w.session.slot h.layer = none) :
    (released w.trace).count h = 1 := by
  have hcount : (released w.trace).count h = if w.session.Holds h then 0 else 1 :=
    sound.settled h hobt
  rw [hcount, if_neg]
  rw [Session.Holds, vacant]
  exact Option.some_ne_none _ ∘ Eq.symm

end World

namespace Session

inductive Op
  | ensureEngine
  | ensureBrowser
  | ensureContext
  | ensurePage
  | current
  | create
  | finish
  | close
deriving DecidableEq, Repr

/-- The world after an operation, whatever it gives. -/
def Op.after (op : Op) (w : World σ) : World σ :=
  match op with
  | .ensureEngine => ((Session.ensureEngine b).run w).2
  | .ensureBrowser => ((Session.ensureBrowser b).run w).2
  | .ensureContext => ((Session.ensureContext b).run w).2
  | .ensurePage => ((Session.ensurePage b).run w).2
  | .current => ((Session.current b).run w).2
  | .create => ((Session.create b).run w).2
  | .finish => ((Session.finish b).run w).2
  | .close => ((Session.close b).run w).2

/-- The world after operations, one after the other. -/
def after (ops : List Op) (w : World σ) : World σ := ops.foldl (fun w op => op.after b w) w

theorem Op.after_moves (op : Op) (w : World σ) :
    World.Moves (fun _ => True) w (op.after b w) := by
  cases op with
  | ensureEngine => exact (ensureEngine_moves b w).mono fun _ _ => trivial
  | ensureBrowser => exact (ensureBrowser_moves b w).mono fun _ _ => trivial
  | ensureContext => exact (ensureContext_moves b w).mono fun _ _ => trivial
  | ensurePage => exact (ensurePage_moves b w).mono fun _ _ => trivial
  | current => exact (current_moves b w).mono fun _ _ => trivial
  | create => exact (create_moves b w).mono fun _ _ => trivial
  | finish => exact (finish_moves b w).mono fun _ _ => trivial
  | close => exact (close_moves b w).mono fun _ _ => trivial

theorem after_sound (ops : List Op) {w : World σ} (sound : w.Sound) : (after b ops w).Sound := by
  induction ops generalizing w with
  | nil => exact sound
  | cons op rest ih => exact ih ((op.after_moves b w).sound sound)

theorem close_session (w : World σ) : ((close b).run w).2.session = {} :=
  congrArg Ledger.session (close_ledger b w)

/-- After any operations on a new session the handles are nested, what was obtained is held or was
released once, and what is held was opened from what is held below. To close the session then
releases what is held, from the top, and leaves no handle unreleased, whatever the releases give. -/
theorem handles_nested_after (w₀ : World σ) (ops : List Op) :
    let w := after b ops w₀.unused
    let v := ((close b).run w).2
    Nested w.trace ∧ w.Settled ∧ w.Stacked ∧
    (∃ t, v.trace = w.trace ++ t ∧ t.map (·.call) =
      (w.session.handles [.page, .context, .browser, .engine]).map Handle.closing) ∧
    v.session.isEmpty ∧ Nested v.trace ∧
    ∀ h ∈ obtained v.trace, (released v.trace).count h = 1 := by
  intro w v
  have sound : w.Sound := after_sound b ops (World.sound_unused w₀)
  have sound' : v.Sound := (close_moves b w).sound sound
  have empty : v.session = {} := close_session b w
  refine ⟨sound.nested, sound.settled, sound.stacked, close_calls b w, ?_, sound'.nested, ?_⟩
  · rw [empty]
    rfl
  · intro h hobt
    exact sound'.count_released hobt (by rw [empty]; cases h.layer <;> rfl)

end Session

end Rehearsal
