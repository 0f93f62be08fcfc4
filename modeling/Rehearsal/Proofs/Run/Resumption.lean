import Rehearsal.Proofs.Run.Isolation
import Rehearsal.Proofs.Session.Attempts
import Rehearsal.Proofs.Session.Contexts

/-!
# Acquisition resumes where it stopped

Nothing is held above a vacant layer in a session that was only used as sessions are. So what is missing
for a layer is all that is vacant up to it. An attempt to acquire it asks for just that, and what it
leaves vacant is what the next attempt asks for.
-/
namespace Rehearsal

variable {σ : Type}

namespace Layer

theorem pairwise_upTo (l : Layer) : l.upTo.Pairwise (·.depth < ·.depth) := by
  cases l <;> decide

end Layer

namespace Session

/-- The vacant layers up to one, lowest first. -/
def vacant (s : Session) (l : Layer) : List Layer := l.upTo.filter fun k => (s.slot k).isNone

/-- Nothing is held above a vacant layer. -/
def Grounded (s : Session) : Prop :=
  ∀ j k : Layer, j.depth ≤ k.depth → s.slot j = none → s.slot k = none

variable {s s' : Session} {k l : Layer} {kind : Except Failure BrowserKind} {t : List Exchange}
  {r : Except Failure Unit}

theorem mem_vacant : k ∈ s.vacant l ↔ k.depth ≤ l.depth ∧ s.slot k = none := by
  simp [vacant, Layer.mem_upTo]

theorem pairwise_vacant (s : Session) (l : Layer) : (s.vacant l).Pairwise (·.depth < ·.depth) :=
  l.pairwise_upTo.filter _

theorem nodup_vacant (s : Session) (l : Layer) : (s.vacant l).Nodup :=
  (s.pairwise_vacant l).imp fun less same => by rw [same] at less; exact lt_irrefl _ less

theorem Grounded.missing_eq_vacant (grounded : s.Grounded) (l : Layer) : s.missing l = s.vacant l := by
  have step {k l : Layer} (h : k.depth = l.depth + 1) (below : s.missing l = s.vacant l) :
      s.missing k = s.vacant k := by
    cases held : s.slot k with
    | none =>
      rw [missing_of_vacant h held, below]
      simp [vacant, Layer.upTo_of_depth h, held]
    | some n =>
      rw [missing_of_held held]
      refine (List.filter_eq_nil_iff.mpr fun j hj free => ?_).symm
      rw [grounded j k (Layer.mem_upTo.mp hj) (Option.isNone_iff_eq_none.mp free)] at held
      cases held
  have engine : s.missing .engine = s.vacant .engine := by
    cases held : s.slot .engine with
    | none => simp [missing_engine held, vacant, Layer.upTo, Layer.depth, held]
    | some n => simp [missing_of_held held, vacant, Layer.upTo, Layer.depth, held]
  have browser : s.missing .browser = s.vacant .browser := step rfl engine
  have context : s.missing .context = s.vacant .context := step rfl browser
  cases l
  exacts [engine, browser, context, step rfl context]

/-- If the vacant layers up to one begin with a layer, the session is held right up to it. -/
theorem Grounded.slot_eq_none_iff (grounded : s.Grounded) {more : List Layer}
    (first : s.vacant l = k :: more) (j : Layer) : s.slot j = none ↔ k.depth ≤ j.depth := by
  have hk : k.depth ≤ l.depth ∧ s.slot k = none := mem_vacant.mp (first ▸ List.mem_cons_self)
  refine ⟨fun free => ?_, fun above => grounded k j above hk.2⟩
  by_contra below
  have hj : j ∈ s.vacant l := mem_vacant.mpr ⟨by omega, free⟩
  have sorted := s.pairwise_vacant l
  rw [first] at hj sorted
  rcases List.mem_cons.mp hj with rfl | hj
  · exact below le_rfl
  · have := List.rel_of_pairwise_cons sorted hj
    omega

theorem exists_vacant_eq_cons (free : ∀ j : Layer, s.slot j = none ↔ k.depth ≤ j.depth)
    (h : k.depth ≤ l.depth) : ∃ more, s.vacant l = k :: more := by
  have eq : s.vacant l = l.upTo.filter fun j => k.depth ≤ j.depth :=
    List.filter_congr fun j _ => by
      rw [Bool.eq_iff_iff, Option.isNone_iff_eq_none, decide_eq_true_iff]
      exact free j
  rw [eq]
  revert h
  cases k <;> cases l <;> first | exact fun _ => ⟨_, rfl⟩ | exact fun h => absurd h (by decide)

/-- What an ascent leaves over is what is still vacant. -/
theorem Ascent.vacant_eq (ascent : Ascent kind s (s.vacant l) t r s') {rest : List Layer}
    (eq : s.vacant l = (obtained t).map (·.layer) ++ rest) : s'.vacant l = rest := by
  have kept : s'.vacant l = (s.vacant l).filter fun k => (s'.slot k).isNone := by
    rw [vacant, vacant, List.filter_filter]
    refine List.filter_congr fun k _ => ?_
    cases held : s.slot k with
    | none => rw [Option.isNone_none, Bool.and_true]
    | some n =>
      have had : (s.slot k).isSome := held ▸ rfl
      obtain ⟨m, still⟩ := Option.isSome_iff_exists.mp (ascent.isSome_of_isSome had)
      rw [still, Option.isNone_some, Bool.false_and]
  have distinct := s.nodup_vacant l
  have given : ((obtained t).map (·.layer)).filter (fun k => (s'.slot k).isNone) = [] := by
    refine List.filter_eq_nil_iff.mpr fun k hk free => ?_
    obtain ⟨h, got, rfl⟩ := List.mem_map.mp hk
    rw [ascent.holds_of_obtained distinct got] at free
    cases free
  have left : rest.filter (fun k => (s'.slot k).isNone) = rest := by
    refine List.filter_eq_self.mpr fun k hk => Option.isNone_iff_eq_none.mpr ?_
    rw [eq] at distinct
    rw [ascent.slot_eq fun got => List.disjoint_of_nodup_append distinct got hk]
    exact (mem_vacant.mp (eq ▸ List.mem_append_right _ hk)).2
  rw [kept, eq, List.filter_append, given, left, List.nil_append]

/-- What was held below and what was obtained is held, as far as the vacant layers were asked for. -/
theorem Ascent.holds (ascent : Ascent kind s (s.vacant l) t r s') {h : Handle}
    (had : s.Holds h ∨ h ∈ obtained t) : s'.Holds h := by
  rcases had with held | got
  · obtain ⟨rest, eq, _⟩ := ascent.exists_rest
    refine (ascent.slot_eq fun got => ?_).trans held
    have free := (mem_vacant.mp (eq ▸ List.mem_append_left rest got)).2
    rw [Holds, free] at held
    cases held
  · exact ascent.holds_of_obtained (s.nodup_vacant l) got

/-- The page that was given up is replaced by a page of the context that is still held. -/
theorem Ascent.page_only {c : Nat} (ascent : Ascent kind s [.page] t r s')
    (context : s.context = some c) : ∃ p r, t = [⟨.openPage c p, r⟩] := by
  cases ascent with
  | given opening more =>
    cases opening with
    | page held =>
      obtain rfl := Option.some.inj (held.symm.trans context)
      cases more
      exact ⟨_, _, rfl⟩
  | refused opening =>
    cases opening with
    | page held =>
      obtain rfl := Option.some.inj (held.symm.trans context)
      exact ⟨_, _, rfl⟩

theorem Probed.grounded (probed : Probed s l t s') (grounded : s.Grounded) : s'.Grounded := by
  cases probed with
  | unasked _ => exact grounded
  | alive _ => exact grounded
  | dead _ =>
    intro j k h free
    by_cases top : k = .page
    · rw [top, slot_put_self]
    · have low : j ≠ .page := by
        rintro rfl
        exact top (by revert h; cases k <;> decide)
      rw [slot_put_of_ne s none low] at free
      rw [slot_put_of_ne s none top]
      exact grounded j k h free

theorem Probed.context_eq (probed : Probed s l t s') : s'.context = s.context := by
  cases probed <;> rfl

/-- With the page given up, only the page is vacant. -/
theorem Probed.vacant_of_given (probed : Probed s l t s') (grounded : s.Grounded) {p : Nat}
    (held : s.page = some p) (given : s'.page = none) : ∃ c, s.context = some c ∧ s'.vacant l = [.page] := by
  have below {j : Layer} : (s.slot j).isSome := by
    refine Option.isSome_iff_ne_none.mpr fun free => ?_
    have up : s.page = none := grounded j .page (by cases j <;> decide) free
    rw [held] at up
    cases up
  cases probed with
  | unasked _ => rw [held] at given; cases given
  | alive _ => rw [held] at given; cases given
  | dead _ =>
    obtain ⟨e, engine⟩ := Option.isSome_iff_exists.mp (below (j := .engine))
    obtain ⟨h, browser⟩ := Option.isSome_iff_exists.mp (below (j := .browser))
    obtain ⟨c, context⟩ := Option.isSome_iff_exists.mp (below (j := .context))
    refine ⟨c, context, ?_⟩
    simp [vacant, Layer.upTo, Layer.depth, slot_put_of_ne, engine, browser, context]

end Session

namespace World

theorem Sound.grounded {w : World σ} (sound : w.Sound) : w.session.Grounded := by
  have up {l k : Layer} (h : k.depth = l.depth + 1) (free : w.session.slot l = none) :
      w.session.slot k = none := Ledger.Sound.slot_above sound free h
  have browser := up (l := .engine) (k := .browser) rfl
  have context := up (l := .browser) (k := .context) rfl
  have page := up (l := .context) (k := .page) rfl
  intro j k h free
  cases j <;> cases k <;> simp_all [Layer.depth]

/-- A configuration in memory asks for one kind of browser, whatever is logged. -/
theorem wants_iff_of_table {w : World σ} {t : Ini} (config : w.config.table = some t)
    (kind : Except Failure BrowserKind) : w.Wants kind ↔ kind = Config.browserKind t := by
  have wanted (log : List Log.Entry) : w.wantedKind log = Config.browserKind t := by
    rw [wantedKind, Config.lookup, Config.load_of_table config]
    rfl
  refine ⟨?_, fun h => h ▸ wanted w.log ▸ w.wants_now⟩
  rintro ⟨log, _, rfl⟩
  exact wanted log

end World

open Session in
/-- What an attempt to acquire a layer comes to. Some exchanges show whether the page answers, and leave
the session `s`; by the others layers are asked for. -/
structure Attempt (b : Backend σ) (l : Layer) (w : World σ) (kind : Except Failure BrowserKind)
    (probes : List Exchange) (s : Session) (t : List Exchange) (r : Except Failure Unit) (v : World σ) :
    Prop where
  trace : v.trace = w.trace ++ (probes ++ t)
  probed : Probed w.session l probes s
  wants : w.Wants kind
  /-- The vacant layers are asked for in order, up to the first that is not given. -/
  ascent : Ascent kind s (s.vacant l) t r v.session
  opens : ∀ x ∈ t, ∃ h, x.call.opens? = some h ∧ h.layer ∈ s.vacant l
  /-- A page that was given up is replaced by one of the same context. -/
  replaced : ∀ p, w.session.page = some p → s.page = none →
    ∃ c p' r', w.session.context = some c ∧ t = [⟨.openPage c p', r'⟩]
  kept : ∀ h, s.Holds h ∨ h ∈ obtained t → v.session.Holds h
  /-- What was vacant was obtained, or is above that and still vacant. -/
  left : s.vacant l = (obtained t).map (·.layer) ++ v.session.vacant l
  ok : r = .ok () → ∀ k : Layer, k.depth ≤ l.depth → (v.session.slot k).isSome
  /-- A layer that is held, with all below, is not acquired again. -/
  again : r = .ok () → l ≠ .page → (ensure b l).run v = (.ok (), v)
  /-- Neither is a page, which is only asked for its title, if it gives that. -/
  answered : ∀ p, l = .page → v.session.page = some p → (b.answer (.title p) v.backend).1.isOk →
      (ensure b l).run v = (.ok (), ((Act.ask b (.title p)).run v).2)
  /-- The layer that failed is vacant with all above, and what is below is held. So every later attempt
  that needs the layer starts with it. -/
  error : ∀ f, r = .error f → ∃ k, Ascent.Stops kind t k f ∧ k.depth ≤ l.depth ∧
    (∀ j, v.session.slot j = none ↔ k.depth ≤ j.depth) ∧
    ∀ l' : Layer, k.depth ≤ l'.depth → ∃ kind' more t', v.Wants kind' ∧
      ((ensure b l').run v).2.trace = v.trace ++ t' ∧
      Ascent kind' v.session (k :: more) t' ((ensure b l').run v).1
        ((ensure b l').run v).2.session
  succeeds : (∀ kind, w.Wants kind → kind.isOk) → (∀ x ∈ t, x.result.isOk) → r = .ok ()

open Session in
/-- What becomes of attempts to acquire a layer or the page of a session. -/
structure Acquires (b : Backend σ) (w : World σ) : Prop where
  attempts : ∀ l, ∃ kind probes s t,
    Attempt b l w kind probes s t ((ensure b l).run w).1 ((ensure b l).run w).2
  /-- The page that is given out is the one that was acquired. -/
  ok : ((ensurePage b).run w).1 = .ok () → ∃ p, ((ensurePage b).run w).2.session.page = some p ∧
    (current b).run w = (.ok p, ((ensurePage b).run w).2)
  error : ∀ f, ((ensurePage b).run w).1 = .error f →
    (current b).run w = (.error f, ((ensurePage b).run w).2)
  /-- There is no other reason for a failure than a layer that was refused or a kind of browser that is
  not supported. -/
  succeeds : (∀ kind, w.Wants kind → kind.isOk) → ∀ t, ((current b).run w).2.trace = w.trace ++ t →
    (∀ x ∈ t, x.call.opens?.isSome → x.result.isOk) → ∃ p, ((current b).run w).1 = .ok p

namespace Session

variable (b : Backend σ)

/-- If everything is vacant from a layer on, an attempt starts with that layer. -/
theorem ensure_ascends_from {w : World σ} (grounded : w.session.Grounded) {k l : Layer}
    (vacant : ∀ j, w.session.slot j = none ↔ k.depth ≤ j.depth) (h : k.depth ≤ l.depth) :
    ∃ kind more t, w.Wants kind ∧ ((ensure b l).run w).2.trace = w.trace ++ t ∧
      Ascent kind w.session (k :: more) t ((ensure b l).run w).1 ((ensure b l).run w).2.session := by
  obtain ⟨kind, probes, s, t, wants, probed, trace, ascent⟩ := ensure_ascends b l w
  have page : w.session.page = none := (vacant .page).mpr (by cases k <;> decide)
  obtain ⟨more, first⟩ := exists_vacant_eq_cons vacant h
  cases probed with
  | unasked _ =>
    rw [grounded.missing_eq_vacant, first] at ascent
    exact ⟨kind, more, t, wants, trace, ascent⟩
  | alive held => rw [page] at held; cases held
  | dead held => rw [page] at held; cases held

theorem attempt_of_sound (l : Layer) {w : World σ} (sound : w.Sound) : ∃ kind probes s t,
    Attempt b l w kind probes s t ((ensure b l).run w).1 ((ensure b l).run w).2 := by
  obtain ⟨kind, probes, s, t, wants, probed, trace, ascent⟩ := ensure_ascends b l w
  have grounded : s.Grounded := probed.grounded sound.grounded
  generalize run : (ensure b l).run w = result at trace ascent
  obtain ⟨r, v⟩ := result
  have sound' : v.Sound := by
    have moves := ensure_moves b l w
    rw [run] at moves
    exact moves.sound sound
  rw [grounded.missing_eq_vacant] at ascent
  obtain ⟨rest, eq, ok, error⟩ := ascent.exists_rest
  have left : v.session.vacant l = rest := ascent.vacant_eq eq
  have complete (h : r = .ok ()) (k : Layer) (hk : k.depth ≤ l.depth) : (v.session.slot k).isSome := by
    refine Option.isSome_iff_ne_none.mpr fun free => ?_
    have unheld : k ∈ v.session.vacant l := mem_vacant.mpr ⟨hk, free⟩
    rw [left, ok h] at unheld
    cases unheld
  refine ⟨kind, probes, s, t, ?_⟩
  exact {
    trace, probed, wants, ascent, ok := complete
    opens := fun x => ascent.exists_opens?
    replaced := fun p held given => by
      obtain ⟨c, context, only⟩ := probed.vacant_of_given sound.grounded held given
      obtain ⟨p', r', eq⟩ := (only ▸ ascent).page_only (probed.context_eq.trans context)
      exact ⟨c, p', r', context, eq⟩
    kept := fun h => ascent.holds
    left := left ▸ eq
    again := fun h other => run_ensure_of_held b (complete h l le_rfl) other
    answered := by
      rintro p rfl held alive
      exact run_ensurePage_of_alive b held alive
    error := fun f h => by
      obtain ⟨k, more, rfl, stops⟩ := error f h
      have vacant := sound'.grounded.slot_eq_none_iff left
      have low : k.depth ≤ l.depth := (mem_vacant.mp (left ▸ List.mem_cons_self)).1
      exact ⟨k, stops, low, vacant, fun l' hl => ensure_ascends_from b sound'.grounded vacant hl⟩
    succeeds := fun supported given => ascent.eq_ok (supported kind wants) given }

/-- Whatever a session was used for, an attempt to acquire a layer asks for what is vacant up to it and
resumes where another has stopped, and the page that is given out is the one that was acquired. -/
theorem acquires_of_reachable {w : World σ} (reachable : Reachable b w) : Acquires b w := by
  have attempts (l : Layer) := attempt_of_sound b l reachable.sound
  obtain ⟨kind, probes, s, t, attempt⟩ := attempts .page
  have failed (f : Failure) (h : ((ensurePage b).run w).1 = .error f) :
      (current b).run w = (.error f, ((ensurePage b).run w).2) :=
    run_current_of_error b (Prod.ext h rfl)
  have given (h : ((ensurePage b).run w).1 = .ok ()) : ∃ p,
      ((ensurePage b).run w).2.session.page = some p ∧
      (current b).run w = (.ok p, ((ensurePage b).run w).2) := by
    obtain ⟨p, there⟩ := Option.isSome_iff_exists.mp (attempt.ok h .page le_rfl)
    exact ⟨p, there, run_current_of_ok b (Prod.ext h rfl) there⟩
  refine ⟨attempts, given, failed, fun supported u trace acquired => ?_⟩
  cases h : ((ensurePage b).run w).1 with
  | ok _ =>
    obtain ⟨p, _, run⟩ := given h
    exact ⟨p, by rw [run]⟩
  | error f =>
    -- An error would have a reason among the exchanges, which are those of the attempt.
    rw [failed f h] at trace
    obtain rfl : probes ++ t = u := List.append_cancel_left (attempt.trace.symm.trans trace)
    have ok : ((ensurePage b).run w).1 = .ok () := attempt.succeeds supported fun x hx => by
      obtain ⟨k, opens, _⟩ := attempt.opens x hx
      exact acquired x (List.mem_append_right _ hx) (by rw [opens]; rfl)
    rw [h] at ok
    cases ok

/-- A page has crashed since it was opened. -/
theorem acquires_of_page_crashed :
    let start : World Scripted :=
      { backend := {}, config := .ofIni "[UI]\nbrowserType=Chromium\n", around := ⟨⟨[], []⟩, none⟩ }
    let used := Op.ensurePage.after Scripted.backend start.unused
    let w := { used with backend := { used.backend with deadPages := [2] } }
    w.session.page = some 2 ∧ (∀ kind, w.Wants kind → kind.isOk) ∧
    ((current Scripted.backend).run w).1.toOption = some 3 ∧ Acquires Scripted.backend w := by
  intro start used w
  have reachable : Reachable Scripted.backend w := .elsewhere (.op .ensurePage (.new start)) rfl rfl rfl
  refine ⟨by decide, fun kind wants => ?_, by decide, acquires_of_reachable Scripted.backend reachable⟩
  rw [(World.wants_iff_of_table rfl kind).mp wants]
  decide

end Session

end Rehearsal
