import Rehearsal.Proofs.Failures
import Rehearsal.Proofs.Session.Teardown

/-!
# How acquisition fails

To acquire layers fails in four ways: the browser that is wanted cannot be looked up, for want of the
key or of the file, it is not supported, or a layer was refused.
-/
namespace Rehearsal

inductive Failure.OfAcquisition : Failure → Prop
  | configMissing (what : String) : OfAcquisition (.configMissing what)
  | io (fault : Disk.Fault) : OfAcquisition (.io fault)
  | unsupportedBrowser (name : String) : OfAcquisition (.unsupportedBrowser name)
  | sessionNotAcquired (reason : String) : OfAcquisition (.sessionNotAcquired reason)

theorem BrowserKind.ofName_error {name : String} {f : Failure} (h : ofName name = .error f) :
    ∃ other, f = .unsupportedBrowser other := by
  unfold ofName at h
  split at h
  · cases h
  · cases h
  · cases h
    exact ⟨_, rfl⟩

namespace Session

variable {σ : Type} {b : Backend σ} {J : σ → Prop} (keeps : b.Keeps J)

theorem notAcquired_ofAcquisition (f : Failure) : (notAcquired f).OfAcquisition := by
  cases f <;> exact .sessionNotAcquired _

theorem held_fails (layer : String) (handle : Option Nat) :
    (held layer handle : Act σ Nat).Fails J Failure.OfAcquisition := by
  cases handle with
  | none => exact Act.fails_fail (.sessionNotAcquired _)
  | some n => exact Act.fails_pure n

include keeps

/-- Whatever the backend says when it is asked for a layer. -/
theorem acquire_fails (c : Call) :
    ((Act.ask b c).mapFailure notAcquired).Fails J Failure.OfAcquisition := by
  have asked : (Act.ask b c).Fails J fun _ => True := Act.fails_ask keeps (fun _ _ _ _ _ => trivial) c
  exact asked.mapFailure fun f _ => notAcquired_ofAcquisition f

theorem ensureEngine_fails : (ensureEngine b).Fails J Failure.OfAcquisition := by
  refine Act.fails_layers.bind fun s => ?_
  split
  · exact Act.fails_pure ()
  · refine (Act.fails_say _).bind fun _ => Act.fails_numbers.bind fun _ => ?_
    refine (acquire_fails keeps _).bind fun _ => ?_
    exact (Act.fails_setNumbers _).bind fun _ => Act.fails_setLayers _

theorem ensureBrowser_fails : (ensureBrowser b).Fails J Failure.OfAcquisition := by
  refine Act.fails_layers.bind fun s => ?_
  split
  · exact Act.fails_pure ()
  · refine (ensureEngine_fails keeps).bind fun _ => ?_
    refine (Act.fails_lookup .configMissing .io _ _).bind fun name => ?_
    refine (Act.fails_ofExcept ?supported).bind fun kind => ?_
    case supported =>
      intro f h
      obtain ⟨other, rfl⟩ := BrowserKind.ofName_error h
      exact .unsupportedBrowser other
    refine Act.fails_layers.bind fun s => (held_fails _ _).bind fun _ => ?_
    refine Act.fails_numbers.bind fun _ => ?_
    refine (acquire_fails keeps _).bind fun _ => (Act.fails_say _).bind fun _ => ?_
    exact (Act.fails_setNumbers _).bind fun _ => Act.fails_setLayers _

theorem ensureContext_fails : (ensureContext b).Fails J Failure.OfAcquisition := by
  refine Act.fails_layers.bind fun s => ?_
  split
  · exact Act.fails_pure ()
  · refine (ensureBrowser_fails keeps).bind fun _ => ?_
    refine Act.fails_layers.bind fun s => (held_fails _ _).bind fun _ => ?_
    refine Act.fails_numbers.bind fun _ => ?_
    refine (acquire_fails keeps _).bind fun _ => (Act.fails_setNumbers _).bind fun _ => ?_
    exact (Act.fails_setLayers _).bind fun _ => Act.fails_say _

theorem release_keeps (layer : String) (c : Call) : (release b layer c).Keeps J := by
  intro w known
  have asked := Act.keeps_attempt_ask keeps c w known
  rw [release, Task.run_bind]
  cases ((Act.ask b c).attempt.run w).1 with
  | ok _ => exact asked
  | error f => exact asked

theorem pageAnswers_keeps : (pageAnswers b).Keeps J := by
  intro w known
  rw [pageAnswers, Task.run_bind, Task.run_layers]
  cases w.session.page with
  | none => exact known
  | some p => exact Act.keeps_attempt_ask keeps (.title p) w known

theorem dropPage_keeps : (dropPage b).Keeps J := by
  intro w known
  rw [dropPage, Task.run_bind, Task.run_layers]
  cases w.session.page with
  | none => exact known
  | some p => exact release_keeps keeps "page" (.closePage p) _ known

theorem ensurePage_fails : (ensurePage b).Fails J Failure.OfAcquisition := by
  refine (pageAnswers_keeps keeps).lift.bind fun alive => ?_
  cases alive with
  | true => exact Act.fails_pure ()
  | false =>
    refine (dropPage_keeps keeps).lift.bind fun _ => (ensureContext_fails keeps).bind fun _ => ?_
    refine Act.fails_layers.bind fun s => (held_fails _ _).bind fun _ => ?_
    refine Act.fails_numbers.bind fun _ => ?_
    refine (acquire_fails keeps _).bind fun _ => (Act.fails_setNumbers _).bind fun _ => ?_
    exact (Act.fails_setLayers _).bind fun _ => Act.fails_say _

theorem current_fails : (current b).Fails J Failure.OfAcquisition :=
  (ensurePage_fails keeps).bind fun _ => Act.fails_layers.bind fun _ => held_fails _ _

theorem surrender_keeps (name : String) (l : Layer) : (surrender b name l).Keeps J := by
  intro w known
  cases h : w.session.slot l with
  | none =>
    rw [run_surrender_of_none b name h]
    exact known
  | some n =>
    rw [run_surrender_of_some b name h]
    exact release_keeps keeps name _ _ known

theorem finish_keeps : (finish b).Keeps J := by
  rw [finish_eq]
  exact (surrender_keeps keeps "page" .page).bind fun _ => surrender_keeps keeps "context" .context

theorem create_fails : (create b).Fails J Failure.OfAcquisition :=
  (finish_keeps keeps).lift.bind fun _ => ensurePage_fails keeps

end Session

end Rehearsal
