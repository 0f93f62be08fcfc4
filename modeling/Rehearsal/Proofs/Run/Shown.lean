import Rehearsal.Proofs.Effects
import Rehearsal.Run

/-!
# What a page shows

Steps that verify a column of the board ask the page of the session for texts. As long as there is a page and
it answers, they judge by these texts alone, whatever the backend is like otherwise.
-/
namespace Rehearsal

variable {σ : Type}

/-- From a state on, the backend answers these queries to a page, one after the other, with these texts. -/
def Backend.Answers (b : Backend σ) (page : Nat) : σ → List (Locator × List String) → Prop
  | _, [] => True
  | s, (l, texts) :: rest =>
    (b.answer (.texts page l) s).1 = .ok texts ∧ b.Answers page (b.answer (.texts page l) s).2 rest

/-- The session has a page or gets one, and these queries find these texts on it. -/
def World.Shows (b : Backend σ) (w : World σ) (found : List (Locator × List String)) : Prop :=
  ∃ page v, (Session.current b).run w = (.ok page, v) ∧ b.Answers page v.backend found

/-- What a step comes to, apart from the message. -/
def Run.outcome (b : Backend σ) (s : Step) (w : World σ) : Except String Unit :=
  ((execute b s).run w).1.mapError Failure.code

variable {b : Backend σ} {w : World σ}

/-- After a query that is answered, the rest are still to come. -/
theorem Act.exists_run_texts {page : Nat} {l : Locator} {texts : List String}
    {rest : List (Locator × List String)} (answers : b.Answers page w.backend ((l, texts) :: rest)) :
    ∃ v, (Act.ask b (.texts page l)).run w = (.ok texts, v) ∧ b.Answers page v.backend rest :=
  ⟨_, Prod.ext answers.1 rfl, answers.2⟩

theorem World.Shows.first {l : Locator} {texts : List String} {rest : List (Locator × List String)}
    (shows : w.Shows b ((l, texts) :: rest)) : w.Shows b [(l, texts)] := by
  obtain ⟨page, v, got, found, -⟩ := shows
  exact ⟨page, v, got, found, trivial⟩

namespace Page

variable {column : String} {c : Column}

/-- What is done in a column is done on the page of the session. -/
theorem run_inColumn {α : Type} (known : Column.ofName column = .ok c) {page : Nat} {v : World σ}
    (got : (Session.current b).run w = (.ok page, v)) (next : Column → Nat → Act σ α) :
    (do next (← Act.ofExcept (Column.ofName column)) (← Session.current b)).run w =
      (next c page).run v := by
  have named : (Act.ofExcept (Column.ofName column)).run w = (.ok c, w) := by
    rw [Act.run_ofExcept, known]
  rw [Act.run_bind_of_ok named, Act.run_bind_of_ok got]

theorem run_items (known : Column.ofName column = .ok c) {shown : List String}
    (shows : w.Shows b [(c.titles, shown)]) :
    ∃ v, (items b column).run w = (.ok (shown.map Text.collapse), v) := by
  obtain ⟨page, v, got, answers⟩ := shows
  obtain ⟨u, asked, -⟩ := Act.exists_run_texts answers
  rw [items, run_inColumn known got, Act.run_bind_of_ok asked]
  exact ⟨u, rfl⟩

theorem run_tagsOf_of_nil (known : Column.ofName column = .ok c) {title : String}
    (shows : w.Shows b [(c.title title, [])]) :
    ∃ v, (tagsOf b column title).run w = (.error (.itemNotFound c.heading title), v) := by
  obtain ⟨page, v, got, answers⟩ := shows
  obtain ⟨u, asked, -⟩ := Act.exists_run_texts answers
  rw [tagsOf, run_inColumn known got, Act.run_bind_of_ok asked]
  exact ⟨u, rfl⟩

theorem run_tagsOf (known : Column.ofName column = .ok c) {title : String} {titles shown : List String}
    (there : titles ≠ []) (shows : w.Shows b [(c.title title, titles), (c.tags title, shown)]) :
    ∃ v, (tagsOf b column title).run w = (.ok (cleanTags shown), v) := by
  obtain ⟨page, v, got, answers⟩ := shows
  obtain ⟨u, asked, answers⟩ := Act.exists_run_texts answers
  obtain ⟨t, asked', -⟩ := Act.exists_run_texts answers
  rw [tagsOf, run_inColumn known got, Act.run_bind_of_ok asked, if_neg (by simpa using there)]
  dsimp only
  rw [Act.run_bind_of_ok asked']
  exact ⟨t, rfl⟩

end Page

end Rehearsal
