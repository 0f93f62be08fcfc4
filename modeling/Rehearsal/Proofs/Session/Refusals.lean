import Rehearsal.Proofs.Session.Attempts
import Rehearsal.Proofs.Session.Failures
import Rehearsal.Session.Scripted

/-!
# Why a session is not acquired

To acquire layers fails for a reason that can be seen: the type of the browser cannot be looked up, it is
not supported, or the last exchange with the backend has asked for a layer and was refused. What the backend
gave as a reason is told once, on whatever layer it came up. How a page answers that is given up, and whether
it can be closed, is never told, and no layer is missed that should be held.
-/
namespace Rehearsal

variable {σ α : Type}

namespace Text

/-- Messages begin with a capital. -/
def Capitalised (s : String) : Prop := s.toList.head?.any Char.isUpper

instance (s : String) : Decidable (Capitalised s) := inferInstanceAs (Decidable (_ = true))

theorem Capitalised.append {s : String} (h : Capitalised s) (rest : String) : Capitalised (s ++ rest) := by
  unfold Capitalised at h ⊢
  rw [String.toList_append, List.head?_append]
  cases head : s.toList.head? with
  | none => simp [head] at h
  | some c => simpa [head] using h

end Text

namespace Failure

theorem capitalised_message (f : Failure) : Text.Capitalised f.message := by
  cases f with
  | elementNotFound | elementNotInteractable => exact .append (.append (.append (by decide) _) _) _
  | sectionNotFound | itemNotFound | missingField =>
    exact .append (.append (.append (.append (by decide) _) _) _) _
  | unknownSection => exact .append (.append (by decide) _) _
  | _ => exact .append (by decide) _

/-- How the refusal of a layer is told: as it is, if it says already that no session was acquired, and
otherwise with its message as the reason. -/
inductive ToldAs : Failure → Failure → Prop
  | itself (reason : String) : ToldAs (.sessionNotAcquired reason) (.sessionNotAcquired reason)
  | wrapped {f : Failure} : (∀ reason, f ≠ .sessionNotAcquired reason) →
      ToldAs f (.sessionNotAcquired f.message)

theorem toldAs_notAcquired (f : Failure) : f.ToldAs (Session.notAcquired f) := by
  cases f with
  | sessionNotAcquired reason => exact .itself reason
  | _ => exact .wrapped (by simp)

end Failure

/-- What a layer is called in messages. -/
def Layer.name : Layer → String
  | .engine => "engine"
  | .browser => "browser"
  | .context => "context"
  | .page => "page"

namespace Failure

/-- The failure to find a layer held that is needed now. -/
def unavailable (l : Layer) : Failure := .sessionNotAcquired (l.name ++ " layer unavailable")

/-- No refusal is told like that unless it says so itself, for messages begin with a capital. -/
theorem ToldAs.eq_unavailable {f : Failure} {l : Layer} (told : f.ToldAs (unavailable l)) :
    f = unavailable l := by
  generalize eq : unavailable l = g at told
  cases told with
  | itself reason => rfl
  | wrapped _ =>
    have message : l.name ++ " layer unavailable" = f.message := Failure.sessionNotAcquired.inj eq
    have small : ¬ Text.Capitalised (l.name ++ " layer unavailable") := by cases l <;> decide
    exact absurd (message ▸ f.capitalised_message) small

end Failure

namespace Session

open World

/-- To find a layer missing would be told so. -/
theorem run_held_none (l : Layer) (w : World σ) :
    (held l.name none : Act σ Nat).run w = (.error (.unavailable l), w) := by
  cases l <;> rfl

theorem Ascent.Stops.append {kind : Except Failure BrowserKind} {t : List Exchange} {k : Layer}
    {f : Failure} (stops : Ascent.Stops kind t k f) (before : List Exchange) :
    Ascent.Stops kind (before ++ t) k f := by
  induction before with
  | nil => exact stops
  | cons x before ih => exact ih.cons

/-- A layer that is not given ends the ascent, and is told. -/
theorem Ascent.eq_notAcquired {kind : Except Failure BrowserKind} {s s' : Session} {ks : List Layer}
    {t : List Exchange} {r : Except Failure Unit} (ascent : Ascent kind s ks t r s') {c : Call}
    {f : Failure} (hx : ⟨c, .error f⟩ ∈ t) : r = .error (notAcquired f) := by
  induction ascent with
  | done s => cases hx
  | given _ _ ih =>
    rcases List.mem_cons.mp hx with same | hx
    · cases same
    · exact ih hx
  | refused _ =>
    cases List.mem_singleton.mp hx
    rfl
  | unsupported _ => cases hx

end Session

namespace World

variable {w : World σ} {kind : Except Failure BrowserKind} {t : List Exchange} {r : Except Failure α}

/-- The type of browser that the configuration gives when the log is as given. It may be read for that,
and the log may be on the same disk. -/
def browserType (w : World σ) (log : List Log.Entry) : Except Failure String :=
  (w.config.lookup ({ w with log } : World σ).surroundings Config.uiSection "browserType").1

/-- The reasons not to acquire layers that these exchanges were for. More may have been logged when the
type of the browser was looked up. -/
inductive Withheld (w : World σ) (t : List Exchange) : Failure → Prop
  | missing {log : List Log.Entry} {what : String} : w.log <+: log →
      w.browserType log = .error (.configMissing what) → Withheld w t (.configMissing what)
  | unreadable {log : List Log.Entry} {fault : Disk.Fault} : w.log <+: log →
      w.browserType log = .error (.io fault) → Withheld w t (.io fault)
  | unsupported {log : List Log.Entry} {name other : String} : w.log <+: log →
      w.browserType log = .ok name → BrowserKind.ofName name = .error (.unsupportedBrowser other) →
      Withheld w t (.unsupportedBrowser other)
  | refused {c : Call} {f g : Failure} : t.getLast? = some ⟨c, .error f⟩ → c.opens?.isSome →
      f.ToldAs g → Withheld w t g

/-- There is no kind of browser if its type cannot be looked up or is none that is supported. -/
theorem Wants.withheld {f : Failure} (wants : w.Wants (.error f)) (t : List Exchange) :
    w.Withheld t f := by
  obtain ⟨log, more, none⟩ := wants
  change (w.browserType log).bind BrowserKind.ofName = .error f at none
  cases type : w.browserType log with
  | error g =>
    rw [type] at none
    cases none
    rcases Config.lookup_error type with ⟨what, rfl⟩ | ⟨fault, rfl⟩
    · exact .missing more type
    · exact .unreadable more type
  | ok name =>
    -- How names are read does not matter here, and looking into it is slow.
    have parsed (parse : String → Except Failure BrowserKind)
        (h : (Except.ok name).bind parse = .error f) : parse name = .error f := h
    rw [type] at none
    have unsupported := parsed BrowserKind.ofName none
    obtain ⟨other, rfl⟩ := BrowserKind.ofName_error unsupported
    exact .unsupported more type unsupported

theorem Withheld.ofAcquisition {f : Failure} (withheld : w.Withheld t f) : f.OfAcquisition := by
  cases withheld with
  | missing _ _ => exact .configMissing _
  | unreadable _ _ => exact .io _
  | unsupported _ _ _ => exact .unsupportedBrowser _
  | refused _ _ told => cases told <;> exact .sessionNotAcquired _

/-- What came of acquiring layers, and the exchanges with the backend that were made for it: every
failure has its reason, every layer that was refused is told, and no layer was found missing. -/
structure Accounted (w : World σ) (t : List Exchange) (r : Except Failure α) : Prop where
  reason : ∀ f, r = .error f → w.Withheld t f
  refusal : ∀ c f, ⟨c, .error f⟩ ∈ t → c.opens?.isSome → ∃ g, r = .error g ∧ f.ToldAs g
  /-- That a layer is unavailable is told only if the backend has said so itself, when it refused one. -/
  internal : ∀ l, r = .error (.unavailable l) →
    ∃ c, t.getLast? = some ⟨c, .error (.unavailable l)⟩ ∧ c.opens?.isSome

theorem accounted (reason : ∀ f, r = .error f → w.Withheld t f)
    (refusal : ∀ c f, ⟨c, .error f⟩ ∈ t → c.opens?.isSome → ∃ g, r = .error g ∧ f.ToldAs g) :
    w.Accounted t r where
  reason := reason
  refusal := refusal
  internal := by
    intro l failed
    generalize eq : Failure.unavailable l = g at failed
    cases reason g failed with
    | refused last opens told =>
      subst eq
      rw [told.eq_unavailable] at last
      exact ⟨_, last, opens⟩
    | _ => cases eq

/-- An ascent accounts for all that was done, if no layers were asked for before. -/
theorem accounted_of_ascent {before : List Exchange} {s s' : Session} {ks : List Layer}
    {r : Except Failure Unit} (wants : w.Wants kind) (idle : ∀ x ∈ before, x.call.opens? = none)
    (ascent : Session.Ascent kind s ks t r s') : w.Accounted (before ++ t) r := by
  refine accounted ?_ ?_
  · intro f failed
    obtain ⟨rest, _, _, stops⟩ := ascent.exists_rest
    obtain ⟨k, more, _, stops⟩ := stops f failed
    cases stops.append before with
    | refused last opens =>
      exact .refused last (Option.isSome_of_eq_some opens) (Failure.toldAs_notAcquired _)
    | unsupported none =>
      subst none
      exact wants.withheld _
  · intro c f hx opens
    rcases List.mem_append.mp hx with hx | hx
    · rw [idle _ hx] at opens
      cases opens
    · exact ⟨_, ascent.eq_notAcquired hx, Failure.toldAs_notAcquired f⟩

theorem Accounted.congr {β : Type} {r' : Except Failure β} (h : w.Accounted t r)
    (same : ∀ f, r' = .error f ↔ r = .error f) : w.Accounted t r' := by
  refine accounted (fun f failed => h.reason f ((same f).mp failed)) fun c f hx opens => ?_
  obtain ⟨g, failed, told⟩ := h.refusal c f hx opens
  exact ⟨g, (same g).mpr failed, told⟩

/-- What was run accounts for the exchanges that it made. -/
def Accounts (w : World σ) (run : Except Failure α × World σ) : Prop :=
  ∃ t, run.2.trace = w.trace ++ t ∧ w.Accounted t run.1

end World

namespace Session

open World

variable (b : Backend σ)

theorem Probed.opens?_eq_none {s s' : Session} {l : Layer} {probes : List Exchange}
    (probed : Probed s l probes s') : ∀ x ∈ probes, x.call.opens? = none := by
  cases probed with
  | unasked _ => simp
  | alive _ | dead _ => simp [Call.opens?]

theorem ensure_accounts (l : Layer) (w : World σ) : w.Accounts ((ensure b l).run w) := by
  obtain ⟨kind, probes, s, t, wants, probed, trace, ascent⟩ := ensure_ascends b l w
  exact ⟨probes ++ t, trace, accounted_of_ascent wants probed.opens?_eq_none ascent⟩

/-- Of a page that has crashed, cannot be closed and cannot be replaced, only the last is told. -/
example :
    let w : World Scripted := {
      backend := { deadPages := [2], faults := [⟨"page.open", none, none, .driver "no memory"⟩] }
      session := ⟨some 1, some 1, some 1, some 2⟩, config := .unread none, around := ⟨⟨[], []⟩, none⟩ }
    ((ensure Scripted.backend .page).run w).1 =
      .error (.sessionNotAcquired "Browser automation error: no memory") := by
  decide

/-- A layer that was acquired without a failure is there. -/
theorem exists_slot_of_ensured {l : Layer} {w v : World σ} (ensured : (ensure b l).run w = (.ok (), v)) :
    ∃ n, v.session.slot l = some n := by
  obtain ⟨kind, probes, s, t, _, _, _, ascent⟩ := ensure_ascends b l w
  rw [ensured] at ascent
  exact ascent.exists_slot

theorem current_accounts (w : World σ) : w.Accounts ((current b).run w) := by
  obtain ⟨t, trace, accounted⟩ := ensure_accounts b .page w
  change ((ensurePage b).run w).2.trace = _ at trace
  change w.Accounted t ((ensurePage b).run w).1 at accounted
  rcases ensured : (ensurePage b).run w with ⟨f | _, v⟩ <;> rw [ensured] at trace accounted
  · rw [run_current_of_error b ensured]
    exact ⟨t, trace, accounted.congr (by simp)⟩
  · obtain ⟨p, there⟩ := exists_slot_of_ensured b (l := .page) ensured
    rw [run_current_of_ok b ensured there]
    exact ⟨t, trace, accounted.congr (by simp)⟩

theorem surrender_unread (name : String) (l : Layer) (w : World σ) :
    w.Unread ((surrender b name l).run w).2 := by
  cases held : w.session.slot l with
  | none =>
    rw [run_surrender_of_none b name held]
    exact .refl w
  | some n =>
    rw [run_surrender_of_some b name held]
    obtain ⟨_, _, unread⟩ := release_unread b name (Handle.closing ⟨l, n⟩)
      { w with session := w.session.put l none }
    exact ⟨unread.config, unread.around, unread.journal, unread.log⟩

theorem finish_unread (w : World σ) : w.Unread ((finish b).run w).2 := by
  rw [finish_eq, Task.run_bind]
  exact (surrender_unread b "page" .page w).trans (surrender_unread b "context" .context _)

theorem create_accounts (w : World σ) : w.Accounts ((create b).run w) := by
  let v := ((finish b).run w).2
  have run : (create b).run w = (ensurePage b).run v := by
    rw [create, Act.run_bind, Act.run_liftM]
  obtain ⟨closings, closed, calls⟩ := finish_calls b w
  have idle : ∀ x ∈ closings, x.call.opens? = none := by
    intro x hx
    obtain ⟨h, closing⟩ := exists_closing calls x hx
    rw [closing]
    exact Call.opens?_of_releases? (Handle.releases?_closing h)
  obtain ⟨kind, probes, s, t, wants, probed, trace, ascent⟩ := ensure_ascends b .page v
  have idle' : ∀ x ∈ closings ++ probes, x.call.opens? = none := by
    simpa [or_imp, forall_and] using And.intro idle probed.opens?_eq_none
  rw [run]
  refine ⟨closings ++ probes ++ t, ?_, ?_⟩
  · rw [List.append_assoc, ← List.append_assoc, ← closed]
    exact trace
  · exact accounted_of_ascent ((finish_unread b w).wants wants) idle' ascent

end Session

end Rehearsal
