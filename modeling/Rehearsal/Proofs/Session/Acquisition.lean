import Rehearsal.Proofs.Session.Teardown

/-!
# Acquisition

Each operation that acquires a layer moves the world within the rules of the ledger, from any world,
for any backend and wherever it fails. It asks only for layers up to the one it is for, and
acquiring a page releases nothing but pages.
-/
namespace Rehearsal.Session

variable {σ : Type} (b : Backend σ)

/-- A layer is asked for, and entered into the books unless that failed. -/
theorem acquire_moves {c : Call} {l : Layer} {n : Nat} {w : World σ} {rest : Act σ Unit}
    (opening : c.opens? = some ⟨l, n⟩) (vacant : w.session.slot l = none)
    (below : c.on? = w.session.under l) (new : w.issued.last l < n)
    (entered : ∀ v, (rest.run v).2.trace = v.trace ∧
      (rest.run v).2.ledger = ⟨v.session.put l (some n), v.issued.put l n⟩) :
    World.Moves (Call.Asks l) w
      (((Act.ask b c).mapFailure notAcquired >>= fun _ => rest).run w).2 := by
  rw [Act.run_bind, Act.run_mapFailure, Act.run_ask]
  rcases b.answer c w.backend with ⟨f | a, s⟩
  · exact World.moves_of_open opening vacant below new rfl rfl
  · obtain ⟨trace, ledger⟩ := entered { w with backend := s, trace := w.trace ++ [⟨c, .ok a⟩] }
    exact World.moves_of_open opening vacant below new trace ledger

theorem ensureEngine_moves : (ensureEngine b).Ensures (World.Moves (Call.Asks .engine)) := by
  intro w
  rw [ensureEngine, Act.run_bind_of_ok (Act.run_layers w)]
  cases vacant : w.session.engine with
  | some e => exact Std.Refl.refl (r := World.Moves (Call.Asks .engine)) w
  | none =>
    rw [if_neg (by simp), Act.run_bind_of_ok (Act.run_say _ w),
      Act.run_bind_of_ok (Act.run_numbers _)]
    exact acquire_moves b rfl vacant rfl (Nat.lt_succ_self _) fun v => ⟨rfl, rfl⟩

/-- The layers above are as before, also where acquiring the layer failed. -/
theorem slot_eq_of_moves {α : Type} {m : Act σ α} {l k : Layer} {w v : World σ}
    {r : Except Failure α} (moves : m.Ensures (World.Moves (Call.Asks l))) (run : m.run w = (r, v))
    (hk : l.depth < k.depth) : v.session.slot k = w.session.slot k := by
  have h := (moves w).slot_eq hk
  rwa [run] at h

theorem held_eq_ok {layer : String} {handle : Option Nat} {h : Nat} {w w' : World σ}
    (run : (held layer handle : Act σ Nat).run w = (.ok h, w')) : handle = some h ∧ w' = w := by
  cases handle with
  | none => cases run
  | some n => cases run; exact ⟨rfl, rfl⟩

/-- What follows a layer that has to be held need only be looked at where it is held. -/
theorem held_bind_moves {P : Call → Prop} {layer : String} {handle : Option Nat} {w : World σ}
    {f : Nat → Act σ Unit} (moves : ∀ h, handle = some h → World.Moves P w ((f h).run w).2) :
    World.Moves P w ((held layer handle >>= f).run w).2 := by
  cases handle with
  | none => exact World.moves_of_eq rfl rfl
  | some h => exact moves h rfl

theorem held_moves (P : Call → Prop) (layer : String) (handle : Option Nat) :
    (held layer handle : Act σ Nat).Ensures (World.Moves P) := by
  cases handle with
  | none => exact Act.ensures_fail _
  | some n => exact Act.ensures_pure _

theorem ensureBrowser_moves : (ensureBrowser b).Ensures (World.Moves (Call.Asks .browser)) := by
  intro w
  rw [ensureBrowser, Act.run_bind_of_ok (Act.run_layers w)]
  cases vacant : w.session.browser with
  | some h => exact Std.Refl.refl (r := World.Moves (Call.Asks .browser)) w
  | none =>
    rw [if_neg (by simp)]
    refine Act.bind_ensures ((ensureEngine_moves b w).mono fun c => Call.Asks.mono (by decide))
      fun _ v hv => ?_
    have still : v.session.browser = none :=
      (slot_eq_of_moves (k := .browser) (ensureEngine_moves b) hv (by decide)).trans vacant
    refine Act.bind_ensures (World.moves_of_eq rfl rfl) fun name v₁ h₁ => ?_
    have still₁ : v₁.session.browser = none :=
      (congrArg (·.2.session.browser) h₁).symm.trans still
    refine Act.bind_ensures (World.moves_of_eq rfl rfl) fun kind v₂ h₂ => ?_
    obtain rfl : v₁ = v₂ := congrArg Prod.snd h₂
    rw [Act.run_bind_of_ok (Act.run_layers _)]
    refine held_bind_moves fun e held => ?_
    rw [Act.run_bind_of_ok (Act.run_numbers _)]
    have below := Session.under_eq_some (l := .engine) (k := .browser) held rfl
    exact acquire_moves b rfl still₁ below.symm (Nat.lt_succ_self _) fun u => ⟨rfl, rfl⟩

theorem ensureContext_moves : (ensureContext b).Ensures (World.Moves (Call.Asks .context)) := by
  intro w
  rw [ensureContext, Act.run_bind_of_ok (Act.run_layers w)]
  cases vacant : w.session.context with
  | some h => exact Std.Refl.refl (r := World.Moves (Call.Asks .context)) w
  | none =>
    rw [if_neg (by simp)]
    refine Act.bind_ensures ((ensureBrowser_moves b w).mono fun c => Call.Asks.mono (by decide))
      fun _ v hv => ?_
    have still : v.session.context = none :=
      (slot_eq_of_moves (k := .context) (ensureBrowser_moves b) hv (by decide)).trans vacant
    rw [Act.run_bind_of_ok (Act.run_layers _)]
    refine held_bind_moves fun h held => ?_
    rw [Act.run_bind_of_ok (Act.run_numbers _)]
    have below := Session.under_eq_some (l := .browser) (k := .context) held rfl
    exact acquire_moves b rfl still below.symm (Nat.lt_succ_self _) fun u => ⟨rfl, rfl⟩

/-- The page that is held is asked for its title. -/
theorem pageAnswers_moves : (pageAnswers b).Ensures (World.Moves (Call.Spares .page)) := by
  intro w
  rw [pageAnswers, Task.run_bind, Task.run_layers]
  cases held : w.session.page with
  | none => exact World.moves_of_eq rfl rfl
  | some p =>
    refine World.moves_of_turn (x := ⟨.title p, (b.answer (.title p) w.backend).1⟩)
      (Call.spares_of_page? rfl) ?_ rfl
    refine .keep (Exchange.obtained?_of_opens?_eq_none rfl) rfl ?_
    intro h on
    cases on
    exact held

theorem dropPage_moves : (dropPage b).Ensures (World.Moves (Call.Frees .page)) := by
  intro w
  rw [dropPage, Task.run_bind, Task.run_layers]
  cases held : w.session.page with
  | none => exact World.moves_of_eq rfl rfl
  | some p =>
    refine release_moves b "page" (l := .page) held ?_ rfl rfl
    intro k hk
    cases k <;> simp [Layer.depth] at hk

theorem dropPage_session (w : World σ) :
    ((dropPage b).run w).2.session = { w.session with page := none } := by
  rw [dropPage, Task.run_bind, Task.run_layers]
  cases held : w.session.page with
  | none => exact (put_none_of_slot_eq_none (l := .page) held).symm
  | some p => exact congrArg Ledger.session (release_ledger b "page" (.closePage p) _)

theorem ensurePage_moves : (ensurePage b).Ensures (World.Moves (Call.Spares .page)) := by
  intro w
  refine Act.bind_ensures (pageAnswers_moves b w) fun alive v _ => ?_
  cases alive with
  | true => exact World.moves_of_eq rfl rfl
  | false =>
    refine Act.bind_ensures ((dropPage_moves b v).mono fun c => Call.Frees.spares) fun _ v₁ h₁ => ?_
    have vacant : v₁.session.page = none :=
      (congrArg (·.2.session.page) h₁).symm.trans (congrArg Session.page (dropPage_session b v))
    refine Act.bind_ensures ((ensureContext_moves b v₁).mono fun c => Call.Asks.spares)
      fun _ v₂ h₂ => ?_
    have still : v₂.session.page = none :=
      (slot_eq_of_moves (k := .page) (ensureContext_moves b) h₂ (by decide)).trans vacant
    rw [Act.run_bind_of_ok (Act.run_layers _)]
    refine held_bind_moves fun c held => ?_
    rw [Act.run_bind_of_ok (Act.run_numbers _)]
    have below := Session.under_eq_some (l := .context) (k := .page) held rfl
    refine World.Moves.mono ?_ fun c => Call.Asks.spares (l := .page)
    exact acquire_moves b rfl still below.symm (Nat.lt_succ_self _) fun u => ⟨rfl, rfl⟩

theorem current_moves : (current b).Ensures (World.Moves (Call.Spares .page)) := by
  refine (ensurePage_moves b).bind fun _ => ?_
  intro w
  exact held_moves _ "page" w.session.page w

/-- The page that is given out is the one that is held. -/
theorem page_of_current {p : Nat} {w v : World σ} (run : (current b).run w = (.ok p, v)) :
    v.session.page = some p := by
  obtain ⟨_, u, _, given⟩ := Act.exists_of_run_bind_ok run
  rw [Act.run_bind_of_ok (Act.run_layers u)] at given
  obtain ⟨held, rfl⟩ := held_eq_ok given
  exact held

theorem create_moves : (create b).Ensures (World.Moves (Call.Spares .context)) := by
  have first : (finish b).Ensures (World.Moves (Call.Spares .context)) :=
    (finish_moves b).mono fun _ _ h => h.mono fun c => Call.Frees.spares
  have second : (ensurePage b).Ensures (World.Moves (Call.Spares .context)) :=
    (ensurePage_moves b).mono fun _ _ h => h.mono fun c => Call.Spares.mono (by decide)
  exact first.lift.bind fun _ => second

end Rehearsal.Session
