import Rehearsal.Session.Backend

/-!
# Histories of backends

What a backend answers hangs on the calls that were made before. What is assumed of a backend is stated
over these histories, whatever it keeps of them.
-/
namespace Rehearsal.Backend

variable {σ : Type} (b : Backend σ)

/-- The state of the backend after some calls. -/
def after (b : Backend σ) (calls : List Call) (s : σ) : σ :=
  calls.foldl (fun s c => (b.answer c s).2) s

/-- A call and what is answered to it. -/
def exchange (c : Call) (s : σ) : Exchange := ⟨c, (b.answer c s).1⟩

theorem after_append (cs ds : List Call) (s : σ) :
    b.after (cs ++ ds) s = b.after ds (b.after cs s) := List.foldl_append

theorem after_concat (cs : List Call) (c : Call) (s : σ) :
    b.after (cs ++ [c]) s = (b.answer c (b.after cs s)).2 := b.after_append cs [c] s

end Rehearsal.Backend
