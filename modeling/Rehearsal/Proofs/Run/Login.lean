import Mathlib.Data.List.Forall2
import Rehearsal.Run

/-!
# Logging in is a composite step

A step is carried out by decoding it and performing the action; one that does not decode does nothing.
Logging in has an action of its own, which is that of the four steps of the login form in a row.
-/
namespace Rehearsal.Run

variable {σ : Type} (b : Backend σ)

theorem execute_of_decode_ok {s : Step} {a : Action} (h : s.decode = .ok a) :
    execute b s = perform b a := by
  rw [execute, h]
  rfl

theorem execute_of_decode_error {s : Step} {f : Failure} (h : s.decode = .error f) :
    execute b s = Act.fail f := by
  rw [execute, h]
  rfl

/-- Steps in a row do what their actions do in a row. -/
theorem forM_execute {ss : List Step} {as : List Action}
    (decoded : List.Forall₂ (fun s a => s.decode = .ok a) ss as) :
    forM ss (execute b) = forM as (perform b) := by
  induction decoded with
  | nil => rfl
  | cons head _ ih => rw [List.forM_cons, List.forM_cons, execute_of_decode_ok b head, ih]

theorem perform_logIn (username password : Source) : perform b (.logIn username password) =
    forM [.openLoginPage, .fillUsername username, .fillPassword password, .clickLogin]
      (perform b) := by
  simp only [List.forM_cons, List.forM_nil, perform, bind_assoc, bind_pure_unit]

/-- To log in is to open the login page, to fill in the user name and the password and to click, up to
the first of these that fails. A value that the step does not give is looked up. What the steps hold
besides does not matter. -/
theorem execute_logIn (s s₁ s₂ s₃ s₄ : Step) :
    execute b { s with action := "logIn" } = forM [
      { s₁ with action := "navigateToLoginPage" },
      { s₂ with action := "fillUsername", value := some (s.value.getD "ConfigReader") },
      { s₃ with action := "fillPassword", value := some (s.password.getD "ConfigReader") },
      { s₄ with action := "clickLoginButton" }] (execute b) := by
  let username : Source := .ofText (s.value.getD "ConfigReader") "email"
  let password : Source := .ofText (s.password.getD "ConfigReader") "password"
  have whole : ({ s with action := "logIn" } : Step).decode = .ok (.logIn username password) := rfl
  rw [execute_of_decode_ok b whole, perform_logIn]
  exact (forM_execute b (.cons rfl (.cons rfl (.cons rfl (.cons rfl .nil))))).symm

end Rehearsal.Run
