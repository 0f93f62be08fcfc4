import Rehearsal.Proofs.Failures
import Rehearsal.Proofs.Session.Contexts
import Rehearsal.Session.Scripted

/-!
# What scripted backends can do

The faults of a scripted backend stay as they were scripted, so what it fails with is known beforehand.
If besides nothing but the address ever changes, its contexts do not hear of each other.
-/
namespace Rehearsal.Scripted

theorem faults_answer (c : Call) (s : Scripted) : (backend.answer c s).2.faults = s.faults := by
  have fire (s : Scripted) (rules : List Rule) (trigger : String) :
      (s.fire rules trigger).faults = s.faults := by
    unfold Scripted.fire
    split <;> rfl
  have forget (s : Scripted) : (s.forget c).faults = s.faults := by cases c <;> rfl
  have succeed (s : Scripted) : (s.succeed c).2.faults = s.faults := by
    cases c with
    | goto p url => exact fire _ _ _
    | click p l => exact fire _ _ _
    | _ => rfl
  have counted : ((s.count c).2.forget c).faults = s.faults := forget _
  simp only [backend]
  split
  · exact counted
  · exact (succeed _).trans counted

/-- It fails in the ways of its faults, and where a page is dead. -/
theorem never_of_faults {P : Failure → Prop} {s : Scripted} (faults : ∀ f ∈ s.faults, ¬ P f.failure)
    (dead : ¬ P (.driver "Target closed")) : backend.Never P s := by
  refine Backend.never_of_keeps (J := fun s => ∀ f ∈ s.faults, ¬ P f.failure) ?_ ?_ faults
  · intro c s safe
    rw [faults_answer]
    exact safe
  · intro c s f safe h
    simp only [backend] at h
    split at h
    · rename_i g failure
      cases h
      simp only [failure?] at failure
      split at failure
      · cases failure
        exact dead
      · obtain ⟨fault, found, rfl⟩ := Option.map_eq_some_iff.mp failure
        exact safe fault (List.mem_of_find?_eq_some found)
    · cases h

/-- Clicks and visits change nothing but the address, what fails does so each time, and all layers can be
opened. -/
structure Steady (s : Scripted) : Prop where
  rules : ∀ r ∈ s.onClick ++ s.onGoto, r.effects.texts = [] ∧ r.effects.crash = false
  faults : ∀ f ∈ s.faults, f.counts = none ∧
    f.call ∉ ["engine.start", "browser.launch", "context.open", "page.open"]
  dead : s.deadPages = []

/-- The address may have changed, and what was opened and counted. -/
def SameScript (s s' : Scripted) : Prop :=
  ∃ url counts openContexts openPages, s' = { s with url, counts, openContexts, openPages }

variable {s s' : Scripted}

instance : IsPreorder Scripted SameScript where
  refl s := ⟨s.url, s.counts, s.openContexts, s.openPages, rfl⟩
  trans s s' s'' := by
    rintro ⟨_, _, _, _, rfl⟩ ⟨_, _, _, _, rfl⟩
    exact ⟨_, _, _, _, rfl⟩

theorem Steady.of_sameScript (steady : s.Steady) (same : SameScript s s') : s'.Steady := by
  obtain ⟨_, _, _, _, rfl⟩ := same
  exact { steady with }

theorem sameScript_fire {rules : List Rule} (trigger : String)
    (harmless : ∀ r ∈ rules, r.effects.texts = [] ∧ r.effects.crash = false) :
    SameScript s (s.fire rules trigger) := by
  unfold fire
  split
  next r found =>
    obtain ⟨texts, crash⟩ := harmless r (List.mem_of_find?_eq_some found)
    rw [apply, texts, crash]
    exact ⟨_, _, _, _, rfl⟩
  next => exact Std.Refl.refl s

namespace Steady

variable (steady : s.Steady)

include steady

theorem answer (c : Call) : SameScript s (backend.answer c s).2 := by
  have counted : SameScript s ((s.count c).2.forget c) := by
    cases c <;> exact ⟨_, _, _, _, rfl⟩
  have rules := (steady.of_sameScript counted).rules
  have succeed : SameScript ((s.count c).2.forget c) (((s.count c).2.forget c).succeed c).2 := by
    cases c with
    | click p l => exact sameScript_fire l.text fun r hr => rules r (List.mem_append_left _ hr)
    | goto p url => 
      refine IsTrans.trans _ _ _ ?_ (sameScript_fire url fun r hr => rules r (List.mem_append_right _ hr))
      exact ⟨_, _, _, _, rfl⟩
    | _ => exact ⟨_, _, _, _, rfl⟩
  simp only [backend]
  split
  · exact counted
  · exact IsTrans.trans _ _ _ counted succeed

theorem after (cs : List Call) : SameScript s (backend.after cs s) := by
  induction cs generalizing s with
  | nil => exact Std.Refl.refl s
  | cons c cs ih =>
    have first := steady.answer c
    exact IsTrans.trans _ _ _ first (ih (steady.of_sameScript first))

end Steady

/-- What a call fails with, however often it was made. -/
def fails (s : Scripted) (c : Call) : Option Failure :=
  (s.faults.find? (·.hits c 0)).map (·.failure)

theorem failure?_eq_fails (steady : s.Steady) (c : Call) (n : Nat) : s.failure? c n = s.fails c := by
  have hits : ∀ f ∈ s.faults, f.hits c n = f.hits c 0 := by
    intro f hf
    rw [Fault.hits, Fault.hits, (steady.faults f hf).1]
    rfl
  have alive : (c.page?.any fun p => s.deadPages.contains p) = false := by
    rw [steady.dead]
    cases c.page? <;> rfl
  rw [failure?, alive, if_neg Bool.false_ne_true, fails, ← List.head?_filter, ← List.head?_filter,
    List.filter_congr hits]

theorem answer_eq (steady : s.Steady) (c : Call) : (backend.answer c s).1 =
    (s.fails c).elim (.ok (((s.count c).2.forget c).succeed c).1) .error := by
  have failure : (s.count c).2.failure? c (s.count c).1 = s.fails c :=
    failure?_eq_fails (steady.of_sameScript ⟨_, _, _, _, rfl⟩) c _
  simp only [backend]
  rw [failure]
  cases s.fails c <;> rfl

theorem provides (steady : s.Steady) : backend.Provides s := by
  intro cs c opens
  obtain ⟨url, counts, openContexts, openPages, after⟩ := steady.after cs
  have fine : s.fails c = none := by
    rw [fails, Option.map_eq_none_iff, List.find?_eq_none]
    intro f hf hits
    have other := (steady.faults f hf).2
    have name : f.call = c.name := by
      simp only [Fault.hits, Bool.and_eq_true, beq_iff_eq] at hits
      exact hits.1.1
    rw [name] at other
    cases c <;> first | cases opens; done | exact other (by simp [Call.name])
  rw [after, answer_eq (steady.of_sameScript ⟨_, _, _, _, rfl⟩)]
  simp only [fails] at fine ⊢
  rw [fine]
  rfl

/-- A steady script knows one address, but apart from that it keeps contexts apart. -/
theorem isolates (steady : s.Steady) : backend.Isolates s False := by
  have answer (cs : List Call) (c : Call) := answer_eq (steady.of_sameScript (steady.after cs)) c
  have title (cs : List Call) (p : Nat) :
      (backend.answer (.title p) (backend.after cs s)).1.isOk = (s.fails (.title 0)).isNone := by
    obtain ⟨_, _, _, _, after⟩ := steady.after cs
    have fails : (backend.after cs s).fails (.title p) = s.fails (.title 0) := by
      rw [after]
      rfl
    rw [answer, fails]
    cases s.fails (.title 0) <;> rfl
  refine ⟨fun v readsNot cs cs' p p' _ _ _ => ?_, fun cs cs' p p' _ _ _ => by rw [title, title]⟩
  obtain ⟨_, _, _, _, after⟩ := steady.after cs
  obtain ⟨_, _, _, _, after'⟩ := steady.after cs'
  cases v with
  | url => exact (readsNot trivial).elim
  | _ =>
    rw [Visit.answer, Visit.answer, answer, answer, after, after']
    rfl

end Rehearsal.Scripted
