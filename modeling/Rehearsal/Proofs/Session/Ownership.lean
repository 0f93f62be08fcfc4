import Rehearsal.Proofs.Session.Moves

/-!
# Handles that belong to a stretch of a trace

A stretch that begins without a context and a page can use only those that it opened itself. What a
stretch obtained of a layer that it never releases is what is held of the layer at its end.
-/
namespace Rehearsal

/-- Contexts and pages come and go with cases; engines and browsers are shared by them. -/
def Handle.OfCase (h : Handle) : Prop := h.layer = .context ∨ h.layer = .page

/-- If the handle is a context, it was opened by one of these exchanges, and if it is a page, both it
and the context below it were. -/
def Handle.OpenedIn (t : List Exchange) : Handle → Prop
  | ⟨.engine, _⟩ | ⟨.browser, _⟩ => True
  | ⟨.context, c⟩ => ∃ h, ⟨.openContext h c, .ok ()⟩ ∈ t
  | ⟨.page, p⟩ => ∃ h c, ⟨.openContext h c, .ok ()⟩ ∈ t ∧ ⟨.openPage c p, .ok ()⟩ ∈ t

/-- The exchanges obtain a handle or call it. -/
def Touches (t : List Exchange) (h : Handle) : Prop :=
  ∃ x ∈ t, x.obtained? = some h ∨ x.call.on? = some h

theorem Handle.ofCase_of_depth {h : Handle} (depth : Layer.context.depth ≤ h.layer.depth) :
    h.OfCase := by
  rcases h with ⟨_ | _ | _ | _, n⟩ <;> simp_all [Layer.depth, OfCase]

theorem Touches.mono {s t : List Exchange} (hst : ∀ x ∈ s, x ∈ t) {h : Handle}
    (touched : Touches s h) : Touches t h := by
  obtain ⟨x, hx, use⟩ := touched
  exact ⟨x, hst x hx, use⟩

theorem Handle.OpenedIn.append {s : List Exchange} {h : Handle} (opened : h.OpenedIn s)
    (t : List Exchange) : h.OpenedIn (s ++ t) := by
  rcases h with ⟨_ | _ | _ | _, n⟩
  · trivial
  · trivial
  · obtain ⟨b, hb⟩ := opened
    exact ⟨b, List.mem_append_left t hb⟩
  · obtain ⟨b, c, hb, hc⟩ := opened
    exact ⟨b, c, List.mem_append_left t hb, List.mem_append_left t hc⟩

namespace Ledger

variable {a a' : Ledger} {x : Exchange} {s t : List Exchange}

/-- A call is made on a handle that is held. -/
theorem Turn.holds (turn : Turn a x a') {h : Handle} (on : x.call.on? = some h) :
    a.session.Holds h := by
  cases turn with
  | gain _ _ below _ => exact Session.holds_of_under (below ▸ on)
  | keep _ _ held => exact held h on
  | lose given held _ =>
    rw [Call.on?_of_releases? given] at on
    cases on
    exact held

theorem Turn.openedIn (turn : Turn a x a') (own : ∀ h, a.session.Holds h → h.OpenedIn s) {h : Handle}
    (held : a'.session.Holds h) : h.OpenedIn (s ++ [x]) := by
  cases turn with
  | @gain l n got vacant below new =>
    rcases (Session.holds_put_some vacant h).mp held with rfl | held
    · have opened := Exchange.opened got
      cases l with
      | engine => trivial
      | browser => trivial
      | context =>
        obtain ⟨b, rfl⟩ := opened
        exact ⟨b, by simp⟩
      | page =>
        obtain ⟨c, rfl⟩ := opened
        have context : a.session.Holds ⟨.context, c⟩ := Session.holds_of_under below.symm
        obtain ⟨b, hb⟩ := own _ context
        exact ⟨b, c, List.mem_append_left _ hb, by simp⟩
    · exact (own h held).append [x]
  | keep _ _ _ => exact (own h held).append [x]
  | lose given had _ => exact (own h ((Session.holds_put_none had h).mp held).2).append [x]

/-- By induction on the exchanges: what is held was opened in them, and so is what is called. -/
theorem Turns.openedIn (turns : Turns a t a') (own : ∀ h, a.session.Holds h → h.OpenedIn s) :
    ∀ r y, r ++ [y] <+: t → ∀ h, y.call.on? = some h → h.OpenedIn (s ++ r) := by
  induction turns generalizing s with
  | nil => intro r y hr; simp at hr
  | @cons a a₁ a₂ x t turn _ ih =>
    intro r y hr h on
    cases r with
    | nil =>
      obtain ⟨rfl, _⟩ := List.cons_prefix_cons.mp hr
      simpa using own h (turn.holds on)
    | cons z r =>
      obtain ⟨rfl, rest⟩ := List.cons_prefix_cons.mp hr
      simpa using ih (fun _ => turn.openedIn own) r y rest h on

/-- By induction on the exchanges: a handle of the layer is obtained only while none is held, and then
is held for the rest of them. -/
theorem Turns.obtained_of_layer {l : Layer} (turns : Turns a t a')
    (kept : ∀ x ∈ t, ∀ h, x.call.releases? = some h → h.layer ≠ l) :
    (a.session.handle? l).toList ++ (obtained t).filter (·.layer = l) =
      (a'.session.handle? l).toList := by
  induction turns with
  | nil => simp
  | @cons a a₁ a₂ x t turn _ ih =>
    rw [← ih fun y hy => kept y (List.mem_cons_of_mem x hy), ← List.singleton_append,
      obtained_append, obtained_singleton, List.filter_append, ← List.append_assoc]
    congr 1
    cases turn with
    | @gain k n got vacant _ _ =>
      rw [got]
      by_cases hk : k = l
      · subst hk
        simp [Session.handle?, vacant]
      · have other : l ≠ k := fun h => hk h.symm
        simp [Session.handle?, Session.slot_put_of_ne _ _ other, hk]
    | keep got _ _ => simp [got]
    | @lose k n given _ _ =>
      have other : l ≠ k := fun h => kept x List.mem_cons_self _ given h.symm
      rw [Exchange.obtained?_of_opens?_eq_none (Call.opens?_of_releases? given)]
      simp [Session.handle?, Session.slot_put_of_ne _ _ other]

/-- With no context and no page held, all that is called on them is opened first. -/
theorem Turns.opened_of_vacant {a a' : Ledger} {t : List Exchange} (turns : Turns a t a')
    (vacant : ∀ h : Handle, h.OfCase → ¬ a.session.Holds h) :
    ∀ q x, q ++ [x] <+: t → ∀ h, x.call.on? = some h → h.OpenedIn q := by
  have own : ∀ h, a.session.Holds h → h.OpenedIn [] := by
    intro h held
    rcases h with ⟨_ | _ | _ | _, n⟩
    · trivial
    · trivial
    · exact absurd held (vacant _ (.inl rfl))
    · exact absurd held (vacant _ (.inr rfl))
  simpa using turns.openedIn own

/-- A layer that is never released is obtained at most once. -/
theorem Turns.countP_le_one {a a' : Ledger} {t : List Exchange} {l : Layer}
    (turns : Turns a t a') (kept : ∀ x ∈ t, ∀ h, x.call.releases? = some h → h.layer ≠ l) :
    (obtained t).countP (·.layer = l) ≤ 1 := by
  have same := congrArg List.length (turns.obtained_of_layer kept)
  have final : (a'.session.handle? l).toList.length ≤ 1 := by
    cases a'.session.handle? l <;> simp
  rw [List.length_append] at same
  rw [List.countP_eq_length_filter]
  omega

end Ledger

/-- What a stretch of a nested trace touches was obtained by the end of it. -/
theorem Nested.obtained_of_touches {s t : List Exchange} (nested : Nested (s ++ t)) {h : Handle}
    (touched : Touches t h) : h ∈ obtained (s ++ t) := by
  obtain ⟨x, hx, got | on⟩ := touched
  · exact mem_obtained.mpr ⟨x, List.mem_append_right s hx, got⟩
  · obtain ⟨t₁, t₂, rfl⟩ := List.append_of_mem hx
    have before := (nested.alive (s ++ t₁) x ⟨t₂, by simp⟩ h on).1
    rw [← List.append_assoc, obtained_append]
    exact List.mem_append_left _ before

theorem Nested.of_append {s t : List Exchange} (nested : Nested (s ++ t)) : Nested s where
  distinct := by
    have distinct := nested.distinct
    rw [obtained_append] at distinct
    exact distinct.of_append_left
  alive := fun r x hr => nested.alive r x (hr.trans (List.prefix_append s t))
  innermost := fun r x hr => nested.innermost r x (hr.trans (List.prefix_append s t))

/-- What was released is never touched again. -/
theorem Nested.not_touches {s t : List Exchange} (nested : Nested (s ++ t)) {h : Handle}
    (gone : h ∈ released s) : ¬ Touches t h := by
  have hs : h ∈ obtained s := nested.of_append.obtained_of_released gone
  rintro ⟨x, hx, got | on⟩
  · have distinct := nested.distinct
    rw [obtained_append] at distinct
    exact (List.disjoint_of_nodup_append distinct) hs (mem_obtained.mpr ⟨x, hx, got⟩)
  · obtain ⟨t₁, t₂, rfl⟩ := List.append_of_mem hx
    refine (nested.alive (s ++ t₁) x ⟨t₂, by simp⟩ h on).2 ?_
    rw [released_append]
    exact List.mem_append_left _ gone

end Rehearsal
