import Rehearsal.Proofs.Session.Agreement

/-!
# Sessions in tandem

Two sessions may go through the same operations on different pages and at different times. What it takes
for the operations to give the same is collected here: both get at a page in the same way, and visits to the
two pages give the same.
-/
namespace Rehearsal

variable {σ τ α : Type}

/-- A call of a page that is left open. -/
inductive Visit : Type → Type
  | url : Visit String
  | goto (address : String) : Visit Unit
  | ready (timeoutMs : Nat) : Visit Unit
  | texts (l : Locator) : Visit (List String)
  | click (l : Locator) : Visit Unit
  | fill (l : Locator) (text : String) : Visit Unit

namespace Visit

def call (p : Nat) : Visit α → Call
  | .url => .url p
  | .goto address => .goto p address
  | .ready timeoutMs => .ready p timeoutMs
  | .texts l => .texts p l
  | .click l => .click p l
  | .fill l text => .fill p l text

/-- What a page gives. -/
def answer (b : Backend σ) (p : Nat) (s : σ) : Visit α → Except Failure α
  | .url => (b.answer (.url p) s).1
  | .goto address => (b.answer (.goto p address) s).1
  | .ready timeoutMs => (b.answer (.ready p timeoutMs) s).1
  | .texts l => (b.answer (.texts p l) s).1
  | .click l => (b.answer (.click p l) s).1
  | .fill l text => (b.answer (.fill p l text) s).1

def ask (b : Backend σ) (p : Nat) : Visit α → Act σ α
  | .url => Act.ask b (.url p)
  | .goto address => Act.ask b (.goto p address)
  | .ready timeoutMs => Act.ask b (.ready p timeoutMs)
  | .texts l => Act.ask b (.texts p l)
  | .click l => Act.ask b (.click p l)
  | .fill l text => Act.ask b (.fill p l text)

theorem run_ask (v : Visit α) (b : Backend σ) (p : Nat) (w : World σ) : (v.ask b p).run w =
    (v.answer b p w.backend, ((Act.ask b (v.call p)).run w).2) := by
  cases v <;> rfl

theorem page?_call (v : Visit α) (p : Nat) : (v.call p).page? = some p := by cases v <;> rfl

/-- The visit asks for the address that the page is at. -/
def ReadsUrl : Visit α → Prop
  | .url => True
  | _ => False

end Visit

/-- Relations between the worlds of two sessions that operations on pages keep. The pages have handles of
their own, and each session has a clock that started when it liked. -/
structure Tandem (b : Backend σ) (b' : Backend τ) where
  Rel : World σ → World τ → Prop
  /-- The sessions are on these pages. -/
  On : Nat → Nat → World σ → World τ → Prop
  /-- The addresses that pages are at may be asked for. -/
  urls : Prop
  start : Nat
  start' : Nat
  rel {p p' : Nat} {w : World σ} {w' : World τ} : On p p' w w' → Rel w w'
  clock {w : World σ} {w' : World τ} : Rel w w' → w.waitedMs + start' = w'.waitedMs + start
  say {w : World σ} {w' : World τ} (e : Log.Event) : Rel w w' →
    Rel { w with log := w.log ++ [⟨e, w.span⟩] } { w' with log := w'.log ++ [⟨e, w'.span⟩] }
  sayOn {p p' : Nat} {w : World σ} {w' : World τ} (e : Log.Event) : On p p' w w' →
    On p p' { w with log := w.log ++ [⟨e, w.span⟩] } { w' with log := w'.log ++ [⟨e, w'.span⟩] }
  sleep {w : World σ} {w' : World τ} (ms : Nat) : Rel w w' →
    Rel { w with waitedMs := w.waitedMs + ms } { w' with waitedMs := w'.waitedMs + ms }
  current {w : World σ} {w' : World τ} : Rel w w' →
    (∃ p p' v v', (Session.current b).run w = (.ok p, v) ∧ (Session.current b').run w' = (.ok p', v') ∧
      On p p' v v') ∨
    ∃ f v v', (Session.current b).run w = (.error f, v) ∧
      (Session.current b').run w' = (.error f, v') ∧ Rel v v'
  visit {p p' : Nat} {α : Type} (v : Visit α) : (v.ReadsUrl → urls) →
    (v.ask b p).Agree Rel (On p p') (On p p') (v.ask b' p')
  lookupUrl : (Act.lookupUi "baseUrlPortal" : Act σ String).Agree Rel Rel Rel
    (Act.lookupUi "baseUrlPortal")

/-- What is coupled goes on in tandem, on the same page and by the same clock. -/
def Coupling.tandem {b : Backend σ} {b' : Backend τ} (pair : Coupling b b') : Tandem b b' where
  Rel := pair.Rel .starting
  On p p' w w' := p = p' ∧ pair.Rel .settled w w'
  urls := True
  start := 0
  start' := 0
  rel on := pair.starting on.2
  clock := pair.waitedMs
  say := pair.say
  sayOn e on := ⟨on.1, pair.say e on.2⟩
  sleep := pair.sleep
  current start := by
    rcases (Session.current_agree pair).cases start with ⟨p, v, v', h, h', settled⟩ | failed
    · exact .inl ⟨p, p, v, v', h, h', rfl, settled⟩
    · exact .inr failed
  visit v _ := by
    rintro w w' ⟨rfl, settled⟩
    cases v
    all_goals
      refine (pair.ask_agree .settled rfl).mono (fun _ _ => id) (fun _ _ => And.intro rfl) w w' settled
  lookupUrl := (pair.lookupUi (.inr rfl)).mono (fun _ _ => id) fun _ _ => pair.starting

namespace Tandem

variable {b : Backend σ} {b' : Backend τ} (pair : Tandem b b')

/-- Computations that agree, also where they fail. -/
abbrev Agree (P Q : World σ → World τ → Prop) (m : Act σ α) (m' : Act τ α) : Prop :=
  m.Agree pair.Rel P Q m'

/-- What only visits the page of the session, once it is acquired. -/
theorem current_bind {f : Nat → Act σ α} {f' : Nat → Act τ α}
    (h : ∀ p p', pair.Agree (pair.On p p') (pair.On p p') (f p) (f' p')) :
    pair.Agree pair.Rel pair.Rel (Session.current b >>= f) (Session.current b' >>= f') := by
  intro w w' start
  rcases pair.current start with ⟨p, p', v, v', run, run', on⟩ | ⟨g, v, v', run, run', final⟩
  · rw [Act.run_bind_of_ok run, Act.run_bind_of_ok run']
    exact (h p p').mono (fun _ _ => id) (fun _ _ => pair.rel) v v' on
  · rw [Act.run_bind, Act.run_bind, run, run']
    exact ⟨rfl, final⟩

theorem visit_agree (v : Visit α) (h : ¬ v.ReadsUrl) (p p' : Nat) :
    pair.Agree (pair.On p p') (pair.On p p') (v.ask b p) (v.ask b' p') :=
  pair.visit v fun reads => absurd reads h

theorem sayOn_agree (e : Log.Event) (p p' : Nat) :
    pair.Agree (pair.On p p') (pair.On p p') (World.say e) (World.say e) :=
  fun _ _ start => ⟨rfl, pair.sayOn e start⟩

end Tandem

end Rehearsal
