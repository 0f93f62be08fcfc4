import Rehearsal.Session.World

/-!
Computations over a world. A `Task` always gives a result; an `Act` may fail, and what follows a failure
is left out. Both record every exchange with the backend and every log event.
-/
namespace Rehearsal

structure Task (σ α : Type) where
  run : World σ → α × World σ

@[ext] structure Act (σ α : Type) where
  run : World σ → Except Failure α × World σ

variable {σ α β : Type}

instance : Monad (Task σ) where
  pure a := ⟨fun w => (a, w)⟩
  bind m f := ⟨fun w => let (a, w') := m.run w; (f a).run w'⟩

instance : MonadStateOf (World σ) (Task σ) where
  get := ⟨fun w => (w, w)⟩
  set w := ⟨fun _ => ((), w)⟩
  modifyGet f := ⟨f⟩

instance : Monad (Act σ) where
  pure a := ⟨fun w => (.ok a, w)⟩
  bind m f := ⟨fun w =>
    match m.run w with
    | (.ok a, w') => (f a).run w'
    | (.error e, w') => (.error e, w')⟩

instance : MonadLift (Task σ) (Act σ) where
  monadLift m := ⟨fun w => let (a, w') := m.run w; (.ok a, w')⟩

instance : MonadStateOf (World σ) (Act σ) where
  get := ⟨fun w => (.ok w, w)⟩
  set w := ⟨fun _ => (.ok (), w)⟩
  modifyGet f := ⟨fun w => let (a, w') := f w; (.ok a, w')⟩

namespace World

variable {m : Type → Type} [Monad m] [MonadState (World σ) m]

def say (e : Log.Event) : m Unit :=
  modify fun w => { w with log := w.log ++ [⟨e, w.span⟩] }

/-- The layers that are held now. -/
def layers : m Session := do return (← get).session

def setLayers (f : Session → Session) : m Unit :=
  modify fun w => { w with session := f w.session }

/-- The numbers given out so far. -/
def numbers : m Issued := do return (← get).issued

def setNumbers (f : Issued → Issued) : m Unit :=
  modify fun w => { w with issued := f w.issued }

/-- Milliseconds spent waiting so far. -/
def clock : m Nat := do return (← get).waitedMs

/-- The milliseconds of thirty years, the longest wait there is. -/
def longestWaitMs : Nat := 30 * 365 * 24 * 60 * 60 * 1000

/-- Waits as long as asked for, or for the longest wait if that is shorter. -/
def sleep (ms : Nat) : m Unit :=
  modify fun w => { w with waitedMs := w.waitedMs + min ms longestWaitMs }

def resetConfig : m Unit := do
  modify fun w => { w with config := w.config.reset }
  say .configReset

end World

namespace Task

/-- Runs a task inside of a span. -/
def within (span : Log.Span) (m : Task σ α) : Task σ α :=
  ⟨fun w =>
    let (a, w') := m.run { w with span := some span }
    (a, { w' with span := w.span })⟩

@[simp] theorem run_pure (a : α) (w : World σ) : (pure a : Task σ α).run w = (a, w) := rfl

@[simp] theorem run_bind (m : Task σ α) (f : α → Task σ β) (w : World σ) :
    (m >>= f).run w = (f (m.run w).1).run (m.run w).2 := rfl

@[simp] theorem run_get (w : World σ) : (get : Task σ (World σ)).run w = (w, w) := rfl

@[simp] theorem run_modify (f : World σ → World σ) (w : World σ) :
    (modify f : Task σ Unit).run w = ((), f w) := rfl

@[simp] theorem run_within (span : Log.Span) (m : Task σ α) (w : World σ) :
    (within span m).run w = ((m.run { w with span := some span }).1,
      { (m.run { w with span := some span }).2 with span := w.span }) := rfl

instance : LawfulMonad (Task σ) :=
  LawfulMonad.mk' (Task σ) (fun _ => rfl) (fun _ _ => rfl) (fun _ _ _ => rfl)

end Task

namespace Act

/-- Makes the failure a part of the result. -/
def attempt (m : Act σ α) : Task σ (Except Failure α) := ⟨m.run⟩

def fail (f : Failure) : Act σ α := ⟨fun w => (.error f, w)⟩

def ofExcept (r : Except Failure α) : Act σ α := ⟨fun w => (r, w)⟩

def mapFailure (f : Failure → Failure) (m : Act σ α) : Act σ α :=
  ⟨fun w => let (r, w') := m.run w; (r.mapError f, w')⟩

/-- Asks the backend. -/
def ask (b : Backend σ) (c : Call) : Act σ c.Answer :=
  ⟨fun w =>
    let (result, backend) := b.answer c w.backend
    (result, { w with backend, trace := w.trace ++ [⟨c, result⟩] })⟩

/-- Looks up a key, which reads the configuration if that was not done yet. -/
def lookup (name key : String) : Act σ String :=
  ⟨fun w =>
    let (result, config, events) := w.config.lookup w.surroundings name key
    (result, { w with config, log := w.log ++ events.map (⟨·, w.span⟩) })⟩

def lookupUi (key : String) : Act σ String := lookup Config.uiSection key

@[simp] theorem run_pure (a : α) (w : World σ) : (pure a : Act σ α).run w = (.ok a, w) := rfl

@[simp] theorem run_bind (m : Act σ α) (f : α → Act σ β) (w : World σ) :
    (m >>= f).run w = match m.run w with
      | (.ok a, w') => (f a).run w'
      | (.error e, w') => (.error e, w') := rfl

@[simp] theorem run_get (w : World σ) : (get : Act σ (World σ)).run w = (.ok w, w) := rfl

@[simp] theorem run_modify (f : World σ → World σ) (w : World σ) :
    (modify f : Act σ Unit).run w = (.ok (), f w) := rfl

@[simp] theorem run_liftM (m : Task σ α) (w : World σ) :
    (liftM m : Act σ α).run w = (.ok (m.run w).1, (m.run w).2) := rfl

@[simp] theorem run_attempt (m : Act σ α) (w : World σ) : m.attempt.run w = m.run w := rfl

@[simp] theorem run_fail (f : Failure) (w : World σ) : (fail f : Act σ α).run w = (.error f, w) := rfl

@[simp] theorem run_ofExcept (r : Except Failure α) (w : World σ) : (ofExcept r).run w = (r, w) := rfl

@[simp] theorem run_mapFailure (f : Failure → Failure) (m : Act σ α) (w : World σ) :
    (m.mapFailure f).run w = ((m.run w).1.mapError f, (m.run w).2) := rfl

private theorem id_map (m : Act σ α) : id <$> m = m := by
  refine Act.ext (funext fun w => ?_)
  change (m >>= pure).run w = m.run w
  rw [run_bind]
  rcases m.run w with ⟨_ | _, _⟩ <;> rfl

private theorem bind_assoc {γ : Type} (m : Act σ α) (f : α → Act σ β) (g : β → Act σ γ) :
    m >>= f >>= g = m >>= fun a => f a >>= g := by
  refine Act.ext (funext fun w => ?_)
  simp only [run_bind]
  rcases m.run w with ⟨_ | _, _⟩ <;> rfl

instance : LawfulMonad (Act σ) :=
  LawfulMonad.mk' (Act σ) id_map (fun _ _ => rfl) bind_assoc

end Act

end Rehearsal
