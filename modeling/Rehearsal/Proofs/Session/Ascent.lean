import Mathlib.Data.List.DropRight
import Rehearsal.Proofs.Session.Ledger
import Rehearsal.Session

/-!
# Ascents

Layers are acquired from the lowest that is missing on: each is asked for from what is held below, up to
the first that is not given. What was given until then is kept, and the layers that are left over are
those for which one has to ask the next time.
-/
namespace Rehearsal

namespace Layer

/-- The layers up to this one, lowest first. -/
def upTo (l : Layer) : List Layer := [engine, browser, context, page].filter (·.depth ≤ l.depth)

theorem mem_upTo {k l : Layer} : k ∈ l.upTo ↔ k.depth ≤ l.depth := by
  cases k <;> cases l <;> decide

theorem upTo_of_depth {k l : Layer} (h : k.depth = l.depth + 1) : k.upTo = l.upTo ++ [k] := by
  cases k <;> cases l <;> first | rfl | cases h

theorem exists_upTo_eq (l : Layer) : ∃ below, l.upTo = below ++ [l] := by
  cases l
  exacts [⟨[], rfl⟩, ⟨_, upTo_of_depth (l := engine) rfl⟩, ⟨_, upTo_of_depth (l := browser) rfl⟩,
    ⟨_, upTo_of_depth (l := context) rfl⟩]

end Layer

namespace Session

/-- What is missing for a layer, lowest first: itself and what is vacant right below, if it is vacant. -/
def missing (s : Session) (l : Layer) : List Layer := l.upTo.rtakeWhile fun k => (s.slot k).isNone

theorem missing_engine {s : Session} (vacant : s.slot .engine = none) : s.missing .engine = [.engine] := by
  have own : Layer.engine.upTo = [] ++ [.engine] := rfl
  simp [missing, own, vacant]

theorem missing_of_held {s : Session} {l : Layer} {n : Nat} (held : s.slot l = some n) :
    s.missing l = [] := by
  obtain ⟨below, eq⟩ := l.exists_upTo_eq
  simp [missing, eq, held]

theorem missing_of_vacant {s : Session} {k l : Layer} (h : k.depth = l.depth + 1)
    (vacant : s.slot k = none) : s.missing k = s.missing l ++ [k] := by
  simp [missing, Layer.upTo_of_depth h, vacant]

/-- The call that asks for a layer under a number, from what is held below. -/
inductive Opening (s : Session) (kind : Except Failure BrowserKind) : Layer → Nat → Call → Prop
  | engine {n : Nat} : Opening s kind .engine n (.startEngine n)
  | browser {e n : Nat} {k : BrowserKind} :
      s.engine = some e → kind = .ok k → Opening s kind .browser n (.launch e n k)
  | context {h n : Nat} : s.browser = some h → Opening s kind .context n (.openContext h n)
  | page {c n : Nat} : s.context = some c → Opening s kind .page n (.openPage c n)

/-- Layers are asked for one after the other, up to the first that is not given. No browser can be asked
for if there is none of the kind that is wanted. -/
inductive Ascent (kind : Except Failure BrowserKind) :
    Session → List Layer → List Exchange → Except Failure Unit → Session → Prop
  | done (s : Session) : Ascent kind s [] [] (.ok ()) s
  | given {s s' : Session} {k : Layer} {ks : List Layer} {n : Nat} {c : Call} {a : c.Answer}
      {t : List Exchange} {r : Except Failure Unit} : Opening s kind k n c →
      Ascent kind (s.put k (some n)) ks t r s' → Ascent kind s (k :: ks) (⟨c, .ok a⟩ :: t) r s'
  | refused {s : Session} {k : Layer} {ks : List Layer} {n : Nat} {c : Call} {f : Failure} :
      Opening s kind k n c → Ascent kind s (k :: ks) [⟨c, .error f⟩] (.error (notAcquired f)) s
  | unsupported {s : Session} {ks : List Layer} {f : Failure} : kind = .error f →
      Ascent kind s (.browser :: ks) [] (.error f) s

theorem Opening.opens? {s : Session} {kind : Except Failure BrowserKind} {k : Layer} {n : Nat} {c : Call}
    (opening : Opening s kind k n c) : c.opens? = some ⟨k, n⟩ := by
  cases opening <;> rfl

theorem Opening.obtained_cons {s : Session} {kind : Except Failure BrowserKind} {k : Layer} {n : Nat}
    {c : Call} (opening : Opening s kind k n c) (a : c.Answer) (t : List Exchange) :
    obtained (⟨c, .ok a⟩ :: t) = ⟨k, n⟩ :: obtained t := by
  have got : (⟨c, .ok a⟩ : Exchange).obtained? = some ⟨k, n⟩ := opening.opens?
  simp [obtained, got]

namespace Ascent

variable {kind : Except Failure BrowserKind} {s s' s'' : Session} {k : Layer} {ks ls : List Layer}
  {t t' : List Exchange} {r : Except Failure Unit} {f : Failure}

theorem append (first : Ascent kind s ks t (.ok ()) s') (second : Ascent kind s' ls t' r s'') :
    Ascent kind s (ks ++ ls) (t ++ t') r s'' := by
  generalize ok : Except.ok () = r₁ at first
  induction first with
  | done s => exact second
  | given opening _ ih => exact .given opening (ih second ok)
  | refused _ => cases ok
  | unsupported _ => cases ok

theorem append_of_error (first : Ascent kind s ks t (.error f) s') (ls : List Layer) :
    Ascent kind s (ks ++ ls) t (.error f) s' := by
  generalize error : Except.error f = r₁ at first
  induction first with
  | done s => cases error
  | given opening _ ih => exact .given opening (ih error)
  | refused opening => exact .refused opening
  | unsupported none => exact .unsupported none

/-- What is held is kept. -/
theorem isSome_of_isSome (ascent : Ascent kind s ks t r s') (held : (s.slot k).isSome) :
    (s'.slot k).isSome := by
  induction ascent with
  | done s => exact held
  | given _ _ ih =>
    rename_i s s' l ks n c a t r opening more
    refine ih ?_
    by_cases same : k = l
    · rw [same, slot_put_self]
      rfl
    · rwa [slot_put_of_ne s _ same]
  | refused _ => exact held
  | unsupported _ => exact held

/-- An ascent to its end holds every layer that was missing. -/
theorem isSome_of_mem (ascent : Ascent kind s ks t (.ok ()) s') (hk : k ∈ ks) : (s'.slot k).isSome := by
  generalize ok : Except.ok () = r at ascent
  induction ascent with
  | done s => cases hk
  | given opening more ih =>
    rcases List.mem_cons.mp hk with rfl | hk
    · exact more.isSome_of_isSome (by rw [slot_put_self]; rfl)
    · exact ih hk ok
  | refused _ => cases ok
  | unsupported _ => cases ok

/-- The layer itself is held if what was missing for it was acquired. -/
theorem exists_slot {l : Layer} (ascent : Ascent kind s (s.missing l) t (.ok ()) s') :
    ∃ n, s'.slot l = some n := by
  refine Option.isSome_iff_exists.mp ?_
  cases held : s.slot l with
  | some n => exact ascent.isSome_of_isSome (held ▸ rfl)
  | none =>
    refine ascent.isSome_of_mem ?_
    obtain ⟨below, eq⟩ := l.exists_upTo_eq
    simp [missing, eq, held]

/-- Nothing is called but what asks for one of the layers. -/
theorem exists_opens? (ascent : Ascent kind s ks t r s') {x : Exchange} (hx : x ∈ t) :
    ∃ h, x.call.opens? = some h ∧ h.layer ∈ ks := by
  induction ascent with
  | done s => cases hx
  | given opening _ ih =>
    rcases List.mem_cons.mp hx with rfl | hx
    · exact ⟨_, opening.opens?, List.mem_cons_self⟩
    · obtain ⟨h, opens, hl⟩ := ih hx
      exact ⟨h, opens, List.mem_cons_of_mem _ hl⟩
  | refused opening =>
    obtain rfl := List.mem_singleton.mp hx
    exact ⟨_, opening.opens?, List.mem_cons_self⟩
  | unsupported _ => cases hx

/-- Why layers are left over: the last call was for the lowest of them and failed, or that is a browser
of no kind that there is. -/
inductive Stops (kind : Except Failure BrowserKind) (t : List Exchange) : Layer → Failure → Prop
  | refused {k : Layer} {n : Nat} {c : Call} {f : Failure} : t.getLast? = some ⟨c, .error f⟩ →
      c.opens? = some ⟨k, n⟩ → Stops kind t k (notAcquired f)
  | unsupported {f : Failure} : kind = .error f → Stops kind t .browser f

theorem Stops.cons {x : Exchange} (stops : Stops kind t k f) : Stops kind (x :: t) k f := by
  cases stops with
  | refused last opens => exact .refused (by simp [List.getLast?_cons, last]) opens
  | unsupported none => exact .unsupported none

/-- The layers are those that were obtained and, above them, those that are left over. -/
theorem exists_rest (ascent : Ascent kind s ks t r s') : ∃ rest,
    ks = (obtained t).map (·.layer) ++ rest ∧ (r = .ok () → rest = []) ∧
    ∀ f, r = .error f → ∃ k more, rest = k :: more ∧ Stops kind t k f := by
  induction ascent with
  | done s => exact ⟨[], rfl, fun _ => rfl, nofun⟩
  | given opening more ih =>
    obtain ⟨rest, eq, ok, error⟩ := ih
    refine ⟨rest, ?_, ok, fun f hf => ?_⟩
    · rw [opening.obtained_cons, eq]
      rfl
    · obtain ⟨k, more, left, stops⟩ := error f hf
      exact ⟨k, more, left, stops.cons⟩
  | refused opening =>
    rename_i s k ks n c f
    refine ⟨k :: ks, rfl, nofun, ?_⟩
    rintro _ ⟨⟩
    exact ⟨k, ks, rfl, .refused rfl opening.opens?⟩
  | unsupported none =>
    rename_i s ks f
    refine ⟨.browser :: ks, rfl, nofun, ?_⟩
    rintro _ ⟨⟩
    exact ⟨.browser, ks, rfl, .unsupported none⟩

/-- No other layers change than those that were obtained. -/
theorem slot_eq (ascent : Ascent kind s ks t r s') (hk : k ∉ (obtained t).map (·.layer)) :
    s'.slot k = s.slot k := by
  induction ascent with
  | given opening _ ih =>
    rw [opening.obtained_cons, List.map_cons, List.mem_cons, not_or] at hk
    exact (ih hk.2).trans (slot_put_of_ne _ _ hk.1)
  | _ => rfl

/-- What was obtained is held at the end, also if the ascent came to none. -/
theorem holds_of_obtained (ascent : Ascent kind s ks t r s') (distinct : ks.Nodup) {h : Handle}
    (got : h ∈ obtained t) : s'.Holds h := by
  induction ascent with
  | done s => cases got
  | given opening more ih =>
    obtain ⟨own, distinct⟩ := List.nodup_cons.mp distinct
    rw [opening.obtained_cons] at got
    rcases List.mem_cons.mp got with rfl | got
    · obtain ⟨rest, eq, _⟩ := more.exists_rest
      refine (more.slot_eq fun again => own ?_).trans (slot_put_self ..)
      rw [eq]
      exact List.mem_append_left _ again
    · exact ih distinct got
  | refused _ => cases got
  | unsupported _ => cases got

/-- An ascent ends early for no other reasons. -/
theorem eq_ok (ascent : Ascent kind s ks t r s') (supported : kind.isOk)
    (given : ∀ x ∈ t, x.result.isOk) : r = .ok () := by
  induction ascent with
  | done s => rfl
  | given _ _ ih => exact ih fun x hx => given x (List.mem_cons_of_mem _ hx)
  | refused _ => cases given _ List.mem_cons_self
  | unsupported none => subst none; cases supported

end Ascent

end Session

end Rehearsal
