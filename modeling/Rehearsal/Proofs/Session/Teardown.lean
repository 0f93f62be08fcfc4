import Rehearsal.Proofs.Effects
import Rehearsal.Proofs.Session.Moves
import Rehearsal.Session

/-!
# Teardown

Releasing goes through the layers from the top, and each one is given up in the same way. What was
held decides the calls; their results decide nothing.
-/
namespace Rehearsal

/-- The call that releases a handle. -/
def Handle.closing : Handle → Call
  | ⟨.engine, n⟩ => .stopEngine n
  | ⟨.browser, n⟩ => .closeBrowser n
  | ⟨.context, n⟩ => .closeContext n
  | ⟨.page, n⟩ => .closePage n

@[simp] theorem Handle.releases?_closing (h : Handle) : h.closing.releases? = some h := by
  rcases h with ⟨_ | _ | _ | _, n⟩ <;> rfl

theorem exists_closing {t : List Exchange} {hs : List Handle}
    (calls : t.map (·.call) = hs.map Handle.closing) : ∀ x ∈ t, ∃ h : Handle, x.call = h.closing := by
  intro x hx
  have hmem : x.call ∈ t.map (·.call) := List.mem_map_of_mem hx
  rw [calls] at hmem
  obtain ⟨h, _, hcall⟩ := List.mem_map.mp hmem
  exact ⟨h, hcall.symm⟩

theorem obtained_of_closings {t : List Exchange} {hs : List Handle}
    (calls : t.map (·.call) = hs.map Handle.closing) : obtained t = [] := by
  refine obtained_eq_nil fun x hx => ?_
  obtain ⟨h, hcall⟩ := exists_closing calls x hx
  exact ⟨h, by rw [hcall, Handle.releases?_closing]⟩

namespace Session

variable {σ : Type} (b : Backend σ)

/-- What is held of a layer is given up, if anything is: the slot is cleared and then the handle is
released, whatever comes of that. -/
def surrender (name : String) (l : Layer) : Task σ Unit := do
  match (← World.layers).slot l with
  | none => pure ()
  | some n =>
    World.setLayers fun s => s.put l none
    release b name (Handle.closing ⟨l, n⟩)

theorem run_surrender_of_none (name : String) {l : Layer} {w : World σ}
    (h : w.session.slot l = none) : (surrender b name l).run w = ((), w) := by
  rw [surrender, Task.run_bind, Task.run_layers, h]
  rfl

theorem run_surrender_of_some (name : String) {l : Layer} {n : Nat} {w : World σ}
    (h : w.session.slot l = some n) : (surrender b name l).run w =
      (release b name (Handle.closing ⟨l, n⟩)).run { w with session := w.session.put l none } := by
  rw [surrender, Task.run_bind, Task.run_layers, h]
  rfl

/-- To look at the layers and give up what is held of one of them is to surrender it. -/
theorem layers_bind_eq_surrender {name : String} {l : Layer} {f : Session → Task σ Unit}
    (vacant : ∀ s : Session, s.slot l = none → f s = pure ())
    (held : ∀ (s : Session) n, s.slot l = some n → f s = (do
      World.setLayers fun s => s.put l none
      release b name (Handle.closing ⟨l, n⟩))) :
    (World.layers >>= f) = surrender b name l := by
  rw [surrender]
  refine bind_congr fun s => ?_
  cases h : s.slot l with
  | none => exact vacant s h
  | some n => exact held s n h

/-- The same where something else is done afterwards. -/
theorem layers_bind_eq_surrender_bind {name : String} {l : Layer} {f : Session → Task σ Unit}
    {rest : Task σ Unit} (vacant : ∀ s : Session, s.slot l = none → f s = rest)
    (held : ∀ (s : Session) n, s.slot l = some n → f s = (do
      World.setLayers fun s => s.put l none
      release b name (Handle.closing ⟨l, n⟩)
      rest)) :
    (World.layers >>= f) = (do surrender b name l; rest) := by
  rw [surrender, bind_assoc]
  refine bind_congr fun s => ?_
  cases h : s.slot l with
  | none => exact vacant s h
  | some n => exact held s n h

theorem finish_eq :
    finish b = (do surrender b "page" .page; surrender b "context" .context) := by
  unfold finish
  apply (layers_bind_eq_surrender_bind b ?vacant ?held).trans (bind_congr fun _ => ?rest)
  case vacant =>
    rintro ⟨_, _, _, _ | p⟩ h
    · dsimp only
    · cases h
  case held =>
    rintro ⟨_, _, _, _ | p⟩ n h
    · cases h
    · cases h
      rfl
  case rest =>
    apply layers_bind_eq_surrender b
    · rintro ⟨_, _, _ | c, _⟩ h
      · rfl
      · cases h
    · rintro ⟨_, _, _ | c, _⟩ n h
      · cases h
      · cases h
        rfl

theorem close_eq : close b =
    (do finish b; surrender b "browser" .browser; surrender b "engine" .engine) := by
  unfold close
  refine bind_congr fun _ => ?_
  apply (layers_bind_eq_surrender_bind b ?vacant ?held).trans (bind_congr fun _ => ?rest)
  case vacant =>
    rintro ⟨_, _ | h, _, _⟩ none
    · dsimp only
    · cases none
  case held =>
    rintro ⟨_, _ | h, _, _⟩ n some
    · cases some
    · cases some
      rfl
  case rest =>
    apply layers_bind_eq_surrender b
    · rintro ⟨_ | e, _, _, _⟩ h
      · rfl
      · cases h
    · rintro ⟨_ | e, _, _, _⟩ n h
      · cases h
      · cases h
        rfl

/-- A release leaves the books alone. -/
theorem release_ledger (name : String) (c : Call) (w : World σ) :
    ((release b name c).run w).2.ledger = w.ledger := by
  rw [release, Task.run_bind, Act.run_attempt, Act.run_ask]
  rcases (b.answer c w.backend).1 with f | a
  all_goals rfl

theorem release_trace (name : String) (c : Call) (w : World σ) :
    ((release b name c).run w).2.trace = w.trace ++ [⟨c, (b.answer c w.backend).1⟩] := by
  rw [release, Task.run_bind, Act.run_attempt, Act.run_ask]
  rcases (b.answer c w.backend).1 with f | a
  all_goals rfl

/-- The handle of a layer is released, after its slot was cleared and no layer above is held. -/
theorem release_moves (name : String) {l : Layer} {n : Nat} {w v : World σ}
    (held : w.session.slot l = some n) (top : ∀ k, l.depth < k.depth → w.session.slot k = none)
    (trace : v.trace = w.trace) (ledger : v.ledger = ⟨w.session.put l none, w.issued⟩) :
    World.Moves (Call.Frees l) w ((release b name (Handle.closing ⟨l, n⟩)).run v).2 := by
  refine World.moves_of_turn (x := ⟨Handle.closing ⟨l, n⟩, (b.answer _ v.backend).1⟩)
    ⟨_, Handle.releases?_closing _, le_rfl⟩ ?_ ?_
  · rw [release_ledger, ledger]
    exact .lose (Handle.releases?_closing _) held top
  · rw [release_trace, trace]

theorem surrender_moves (name : String) {l : Layer} {w : World σ}
    (top : ∀ k, l.depth < k.depth → w.session.slot k = none) :
    World.Moves (Call.Frees l) w ((surrender b name l).run w).2 := by
  cases h : w.session.slot l with
  | none =>
    rw [run_surrender_of_none b name h]
    exact World.moves_of_eq rfl rfl
  | some n =>
    rw [run_surrender_of_some b name h]
    exact release_moves b name h top rfl rfl

theorem surrender_ledger (name : String) (l : Layer) (w : World σ) :
    ((surrender b name l).run w).2.ledger = ⟨w.session.put l none, w.issued⟩ := by
  cases h : w.session.slot l with
  | none =>
    rw [run_surrender_of_none b name h, Session.put_none_of_slot_eq_none h]
    rfl
  | some n =>
    rw [run_surrender_of_some b name h, release_ledger]
    rfl

theorem surrender_session (name : String) (l : Layer) (w : World σ) :
    ((surrender b name l).run w).2.session = w.session.put l none :=
  congrArg Ledger.session (surrender_ledger b name l w)

/-- The release of a handle is called once, and only if the layer is held. -/
theorem surrender_calls (name : String) (l : Layer) (w : World σ) :
    ∃ t, ((surrender b name l).run w).2.trace = w.trace ++ t ∧
      t.map (·.call) = (w.session.handle? l).toList.map Handle.closing := by
  cases h : w.session.slot l with
  | none =>
    rw [run_surrender_of_none b name h]
    exact ⟨[], by simp, by simp [Session.handle?, h]⟩
  | some n =>
    rw [run_surrender_of_some b name h, release_trace]
    exact ⟨_, rfl, by simp [Session.handle?, h]⟩

/-- The handles that are held of some layers. -/
def handles (s : Session) (ls : List Layer) : List Handle := ls.filterMap s.handle?

@[simp] theorem handles_nil (s : Session) : s.handles [] = [] := rfl

theorem handles_cons (s : Session) (l : Layer) (ls : List Layer) :
    s.handles (l :: ls) = (s.handle? l).toList ++ s.handles ls := by
  cases h : s.handle? l <;> simp [handles, h]

theorem handles_append (s : Session) (ls ks : List Layer) :
    s.handles (ls ++ ks) = s.handles ls ++ s.handles ks := List.filterMap_append

/-- One more layer is given up after the layers above it. -/
theorem teardown_step (name : String) {l : Layer} (ls : List Layer) {w v : World σ}
    (others : ∀ k, k ∉ ls → v.session.slot k = w.session.slot k) (fresh : l ∉ ls)
    (calls : ∃ t, v.trace = w.trace ++ t ∧
      t.map (·.call) = (w.session.handles ls).map Handle.closing) :
    ∃ t, ((surrender b name l).run v).2.trace = w.trace ++ t ∧
      t.map (·.call) = (w.session.handles (ls ++ [l])).map Handle.closing := by
  obtain ⟨s, hs, first⟩ := calls
  obtain ⟨t, ht, second⟩ := surrender_calls b name l v
  refine ⟨s ++ t, by rw [ht, hs, List.append_assoc], ?_⟩
  have same : v.session.handle? l = w.session.handle? l := by
    rw [handle?, handle?, others l fresh]
  rw [List.map_append, first, second, same, handles_append, List.map_append, handles_cons,
    handles_nil, List.append_nil]

theorem finish_ledger (w : World σ) : ((finish b).run w).2.ledger =
    ⟨{ w.session with page := none, context := none }, w.issued⟩ := by
  rw [finish_eq, Task.run_bind, surrender_ledger, surrender_session]
  exact congrArg (Ledger.mk _) (congrArg Ledger.issued (surrender_ledger b "page" .page w))

theorem finish_session (w : World σ) : ((finish b).run w).2.session =
    { w.session with page := none, context := none } :=
  congrArg Ledger.session (finish_ledger b w)

theorem finish_moves : (finish b).Ensures (World.Moves (Call.Frees .context)) := by
  intro w
  rw [finish_eq, Task.run_bind]
  refine IsTrans.trans _ _ _ ((surrender_moves b "page" ?_).mono fun c =>
    Call.Frees.mono (by decide)) (surrender_moves b "context" ?_)
  · intro k hk
    cases k <;> simp [Layer.depth] at hk
  · intro k hk
    rw [surrender_session]
    cases k <;> first | rfl | simp [Layer.depth] at hk

/-- The page is released before the context. -/
theorem finish_calls (w : World σ) : ∃ t, ((finish b).run w).2.trace = w.trace ++ t ∧
    t.map (·.call) = (w.session.handles [.page, .context]).map Handle.closing := by
  rw [finish_eq, Task.run_bind]
  refine teardown_step b "context" [.page] ?_ (by decide) ?_
  · intro k hk
    rw [surrender_session, slot_put_of_ne _ _ (by simpa using hk)]
  · simpa [handles_cons] using surrender_calls b "page" .page w

theorem close_ledger (w : World σ) : ((close b).run w).2.ledger = ⟨{}, w.issued⟩ := by
  rw [close_eq, Task.run_bind, Task.run_bind, surrender_ledger, surrender_session, finish_session]
  have issued := congrArg Ledger.issued (surrender_ledger b "browser" .browser ((finish b).run w).2)
  exact congrArg (Ledger.mk _) (issued.trans (congrArg Ledger.issued (finish_ledger b w)))

theorem close_moves : (close b).Ensures (World.Moves (Call.Frees .engine)) := by
  intro w
  rw [close_eq, Task.run_bind, Task.run_bind]
  have first : World.Moves (Call.Frees .engine) w ((finish b).run w).2 :=
    (finish_moves b w).mono fun c => Call.Frees.mono (by decide)
  refine IsTrans.trans _ _ _ first (IsTrans.trans _ _ _ ((surrender_moves b "browser" ?_).mono
    fun c => Call.Frees.mono (by decide)) (surrender_moves b "engine" ?_))
  · intro k hk
    rw [finish_session]
    cases k <;> first | rfl | simp [Layer.depth] at hk
  · intro k hk
    rw [surrender_session, finish_session]
    cases k <;> first | rfl | simp [Layer.depth] at hk

/-- Whatever is held is released, newest first. -/
theorem close_calls (w : World σ) : ∃ t, ((close b).run w).2.trace = w.trace ++ t ∧
    t.map (·.call) = (w.session.handles [.page, .context, .browser, .engine]).map
      Handle.closing := by
  rw [close_eq, Task.run_bind, Task.run_bind]
  refine teardown_step b "engine" [.page, .context, .browser] ?_ (by decide)
    (teardown_step b "browser" [.page, .context] ?_ (by decide) (finish_calls b w))
  · intro k hk
    rw [surrender_session, finish_session]
    cases k <;> first | rfl | simp at hk
  · intro k hk
    rw [finish_session]
    cases k <;> first | rfl | simp at hk

end Session

end Rehearsal
