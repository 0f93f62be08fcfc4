import Mathlib.Data.List.Infix
import Mathlib.Data.List.Nodup
import Rehearsal.Session.World

/-!
# Handles in a trace of calls

A handle is obtained by a call that opened a layer, and released by the call that closes it, whether
or not closing succeeds. `Nested` says what a trace of any session has to look like; it does not
mention what the session holds.
-/
namespace Rehearsal

/-- The layers of a session. Each is opened from the one before it. -/
inductive Layer
  | engine
  | browser
  | context
  | page
deriving DecidableEq, Repr

/-- How many layers lie below. -/
def Layer.depth : Layer → Nat
  | engine => 0
  | browser => 1
  | context => 2
  | page => 3

structure Handle where
  layer : Layer
  number : Nat
deriving DecidableEq, Repr

namespace Call

/-- The handle that a call asks for. -/
def opens? : Call → Option Handle
  | .startEngine e => some ⟨.engine, e⟩
  | .launch _ b _ => some ⟨.browser, b⟩
  | .openContext _ c => some ⟨.context, c⟩
  | .openPage _ p => some ⟨.page, p⟩
  | _ => none

/-- The handle that a call is made on. -/
def on? : Call → Option Handle
  | .startEngine _ => none
  | .launch e _ _ | .stopEngine e => some ⟨.engine, e⟩
  | .openContext b _ | .closeBrowser b => some ⟨.browser, b⟩
  | .openPage c _ | .closeContext c => some ⟨.context, c⟩
  | .title p | .url p | .goto p _ | .ready p _ | .texts p _ | .click p _ | .fill p _ _
  | .closePage p => some ⟨.page, p⟩

/-- The handle that a call releases. -/
def releases? : Call → Option Handle
  | .stopEngine e => some ⟨.engine, e⟩
  | .closeBrowser b => some ⟨.browser, b⟩
  | .closeContext c => some ⟨.context, c⟩
  | .closePage p => some ⟨.page, p⟩
  | _ => none

theorem on?_of_releases? {c : Call} {h : Handle} (release : c.releases? = some h) :
    c.on? = some h := by
  cases c <;> simp_all [releases?, on?]

theorem opens?_of_releases? {c : Call} {h : Handle} (release : c.releases? = some h) :
    c.opens? = none := by
  cases c <;> simp_all [releases?, opens?]

theorem releases?_of_opens? {c : Call} {h : Handle} (opening : c.opens? = some h) :
    c.releases? = none := by
  cases c <;> simp_all [releases?, opens?]

/-- A handle is opened from one of the layer right below. -/
theorem depth_of_opens? {c : Call} {h k : Handle} (on : c.on? = some h)
    (opening : c.opens? = some k) : k.layer.depth = h.layer.depth + 1 := by
  cases c <;> simp_all [on?, opens?] <;> subst_vars <;> rfl

/-- Only an engine is opened from nothing. -/
theorem engine_of_on?_eq_none {c : Call} {h : Handle} (on : c.on? = none)
    (opening : c.opens? = some h) : h.layer = .engine := by
  cases c <;> simp_all [on?, opens?]
  subst_vars
  rfl

theorem on?_of_page? {c : Call} {p : Nat} (h : c.page? = some p) : c.on? = some ⟨.page, p⟩ := by
  cases c <;> simp_all [page?, on?]

theorem opens?_of_page? {c : Call} {p : Nat} (h : c.page? = some p) : c.opens? = none := by
  cases c <;> simp_all [page?, opens?]

theorem releases?_of_page? {c : Call} {p : Nat} (h : c.page? = some p) : c.releases? = none := by
  cases c <;> simp_all [page?, releases?]

end Call

/-- The handle that an exchange obtained: the one that was asked for, unless that failed. -/
def Exchange.obtained? (x : Exchange) : Option Handle :=
  if x.result.isOk then x.call.opens? else none

theorem Exchange.opens?_of_obtained? {x : Exchange} {h : Handle} (got : x.obtained? = some h) :
    x.call.opens? = some h := by
  unfold obtained? at got
  split at got
  · exact got
  · cases got

theorem Exchange.obtained?_of_opens?_eq_none {x : Exchange} (h : x.call.opens? = none) :
    x.obtained? = none := by
  simp [obtained?, h]

/-- The exchange that opened a handle. -/
def Handle.OpenedBy : Handle → Exchange → Prop
  | ⟨.engine, e⟩, x => x = ⟨.startEngine e, .ok ()⟩
  | ⟨.browser, h⟩, x => ∃ e kind, x = ⟨.launch e h kind, .ok ()⟩
  | ⟨.context, c⟩, x => ∃ h, x = ⟨.openContext h c, .ok ()⟩
  | ⟨.page, p⟩, x => ∃ c, x = ⟨.openPage c p, .ok ()⟩

theorem Exchange.opened {x : Exchange} {h : Handle} (got : x.obtained? = some h) :
    h.OpenedBy x := by
  rcases x with ⟨c, f | a⟩
  · cases got
  · rcases h with ⟨_ | _ | _ | _, n⟩
    all_goals
      cases c <;>
        simp_all [obtained?, Except.isOk, Except.toBool, Call.opens?, Handle.OpenedBy]

/-- All handles that were obtained, in order. -/
def obtained (t : List Exchange) : List Handle := t.filterMap Exchange.obtained?

/-- All handles that were released, in order. -/
def released (t : List Exchange) : List Handle := t.filterMap (·.call.releases?)

@[simp] theorem obtained_nil : obtained [] = [] := rfl

@[simp] theorem released_nil : released [] = [] := rfl

@[simp] theorem obtained_append (s t : List Exchange) :
    obtained (s ++ t) = obtained s ++ obtained t := List.filterMap_append

@[simp] theorem released_append (s t : List Exchange) :
    released (s ++ t) = released s ++ released t := List.filterMap_append

theorem obtained_singleton (x : Exchange) : obtained [x] = x.obtained?.toList := by
  cases h : x.obtained? <;> simp [obtained, h]

theorem released_singleton (x : Exchange) : released [x] = x.call.releases?.toList := by
  cases h : x.call.releases? <;> simp [released, h]

theorem obtained_concat_of_some (t : List Exchange) {x : Exchange} {h : Handle}
    (got : x.obtained? = some h) : obtained (t ++ [x]) = obtained t ++ [h] := by
  rw [obtained_append, obtained_singleton, got]
  rfl

theorem obtained_concat_of_none (t : List Exchange) {x : Exchange} (got : x.obtained? = none) :
    obtained (t ++ [x]) = obtained t := by
  rw [obtained_append, obtained_singleton, got]
  simp

theorem released_concat_of_some (t : List Exchange) {x : Exchange} {h : Handle}
    (given : x.call.releases? = some h) : released (t ++ [x]) = released t ++ [h] := by
  rw [released_append, released_singleton, given]
  rfl

theorem released_concat_of_none (t : List Exchange) {x : Exchange}
    (kept : x.call.releases? = none) : released (t ++ [x]) = released t := by
  rw [released_append, released_singleton, kept]
  simp

theorem mem_obtained {t : List Exchange} {h : Handle} :
    h ∈ obtained t ↔ ∃ x ∈ t, x.obtained? = some h := List.mem_filterMap

theorem mem_released {t : List Exchange} {h : Handle} :
    h ∈ released t ↔ ∃ x ∈ t, x.call.releases? = some h := List.mem_filterMap

/-- Where only releases are called, nothing is obtained. -/
theorem obtained_eq_nil {t : List Exchange} (h : ∀ x ∈ t, ∃ k, x.call.releases? = some k) :
    obtained t = [] := by
  refine List.filterMap_eq_nil_iff.mpr fun x hx => ?_
  obtain ⟨k, release⟩ := h x hx
  exact Exchange.obtained?_of_opens?_eq_none (Call.opens?_of_releases? release)

/-- The handles of a trace are used like brackets. -/
structure Nested (t : List Exchange) : Prop where
  /-- No handle is obtained twice. -/
  distinct : (obtained t).Nodup
  /-- A call is made only on a handle that was obtained before and is not released yet. -/
  alive : ∀ s x, s ++ [x] <+: t → ∀ h, x.call.on? = some h → h ∈ obtained s ∧ h ∉ released s
  /-- Once a handle is released, so are all handles that were opened from it. -/
  innermost : ∀ s x, s ++ [x] <+: t → ∀ h, x.call.releases? = some h →
    ∀ y ∈ s, y.call.on? = some h → ∀ k, y.obtained? = some k → k ∈ released s

theorem nested_nil : Nested [] where
  distinct := List.nodup_nil
  alive := by intro s x h; simp at h
  innermost := by intro s x h; simp at h

/-- A trace grows by an exchange that is right after all the others. -/
theorem Nested.snoc {t : List Exchange} {x : Exchange} (nested : Nested t)
    (distinct : ∀ h, x.obtained? = some h → h ∉ obtained t)
    (alive : ∀ h, x.call.on? = some h → h ∈ obtained t ∧ h ∉ released t)
    (innermost : ∀ h, x.call.releases? = some h → ∀ y ∈ t, y.call.on? = some h →
      ∀ k, y.obtained? = some k → k ∈ released t) : Nested (t ++ [x]) where
  distinct := by
    cases got : x.obtained? with
    | none => simpa [obtained_concat_of_none t got] using nested.distinct
    | some h =>
      rw [obtained_concat_of_some t got]
      refine List.nodup_append.mpr ⟨nested.distinct, List.nodup_singleton h, ?_⟩
      intro a ha k hk heq
      have hkh : k = h := List.mem_singleton.mp hk
      subst hkh heq
      exact distinct a got ha
  alive := by
    intro s y hpre
    rcases List.prefix_concat_iff.mp hpre with heq | hpre
    · obtain ⟨rfl, hyx⟩ := List.append_inj' heq rfl
      obtain rfl := List.singleton_inj.mp hyx
      exact alive
    · exact nested.alive s y hpre
  innermost := by
    intro s y hpre
    rcases List.prefix_concat_iff.mp hpre with heq | hpre
    · obtain ⟨rfl, hyx⟩ := List.append_inj' heq rfl
      obtain rfl := List.singleton_inj.mp hyx
      exact innermost
    · exact nested.innermost s y hpre

/-- Nothing is released that was not obtained. -/
theorem Nested.obtained_of_released {t : List Exchange} (nested : Nested t) {h : Handle}
    (hr : h ∈ released t) : h ∈ obtained t := by
  obtain ⟨x, hx, release⟩ := mem_released.mp hr
  obtain ⟨s, rest, rfl⟩ := List.append_of_mem hx
  have hpre : s ++ [x] <+: s ++ x :: rest := ⟨rest, by simp⟩
  have before := (nested.alive s x hpre h (Call.on?_of_releases? release)).1
  rw [obtained_append]
  exact List.mem_append_left _ before

end Rehearsal
