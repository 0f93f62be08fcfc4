import Rehearsal.Proofs.Run.Elements
import Rehearsal.Proofs.Run.Guarding
import Rehearsal.Proofs.Session.Scripted

/-!
# Faulty inputs

A step whose input is at fault fails before it does anything: it does not decode, it names no column of
the board, or it needs a value or an address that cannot be looked up. The configuration may be read for
that, but the backend is not asked and the session is not changed. Values for logging in are looked up when
they are needed, so a login goes as far as it can without the first that is missing. What they are is fixed
before that: the address has been looked up, so the configuration is there and is not read again.
-/
namespace Rehearsal

variable {σ : Type}

namespace Source

/-- The value according to a table. -/
def valueIn (t : Ini) : Source → Except Failure String
  | .literal text => .ok text
  | .configured name key => Config.value t name key

end Source

namespace World

/-- The value that a source has now. -/
def value (w : World σ) (source : Source) : Except Failure String := ((Run.resolve source).run w).1

/-- Nothing has changed but what is known of the configuration, and the log of that. -/
def Untouched (w v : World σ) : Prop := ∃ config log, v = { w with config, log }

instance : IsPreorder (World σ) Untouched where
  refl w := ⟨w.config, w.log, rfl⟩
  trans u v w := by
    rintro ⟨_, _, rfl⟩ ⟨config, log, rfl⟩
    exact ⟨config, log, rfl⟩

/-- A table that is there is kept. -/
def KeepsTable (w v : World σ) : Prop := ∀ t, w.config.table = some t → v.config.table = some t

instance : IsPreorder (World σ) KeepsTable where
  refl _ _ := id
  trans _ _ _ first second t := second t ∘ first t

/-- A configuration that was read is not read again while steps are carried out. -/
theorem elements_keepsTable (b : Backend σ) : Elements b KeepsTable where
  logs _ _ _ _ := id
  calls _ _ _ := id
  looksUp name key w t there := by rw [Act.run_lookup_of_table there, there]
  holds _ _ _ := id
  issues _ _ _ := id
  waits _ _ _ := id

/-- The configuration is there, and gives the values that it would have given at first. -/
def Fixed (w v : World σ) : Prop :=
  ∃ t, v.config.table = some t ∧ ∀ source, w.value source = source.valueIn t

variable {w v u : World σ}

theorem Fixed.trans (fixed : w.Fixed v) (kept : v.KeepsTable u) : w.Fixed u := by
  obtain ⟨t, there, values⟩ := fixed
  exact ⟨t, kept t there, values⟩

theorem Fixed.run_resolve (fixed : w.Fixed v) (source : Source) :
    (Run.resolve source).run v = (w.value source, v) := by
  obtain ⟨t, there, values⟩ := fixed
  rw [values]
  cases source with
  | literal text => rfl
  | configured name key => exact Act.run_lookup_of_table there name key

/-- After one look-up has succeeded, all others find what they would have found. -/
theorem fixed_of_lookup {name key x : String} (found : (Act.lookup name key).run w = (.ok x, v)) :
    w.Fixed v := by
  obtain ⟨result, after⟩ := Prod.mk.inj found
  have same (t : Ini) (loaded : (w.config.load w.surroundings).1 = .ok t) (source : Source) :
      w.value source = source.valueIn t := by
    cases source with
    | literal text => rfl
    | configured name key =>
      change (w.config.load w.surroundings).1.bind (fun t => Config.value t name key) = _
      rw [loaded]
      rfl
  have table : v.config = (w.config.load w.surroundings).2.1 := after ▸ rfl
  rcases Config.load_cases w.surroundings w.config with ⟨t, there, load⟩ | ⟨t, _, _, load⟩ | ⟨f, _, _, load⟩
  · exact ⟨t, by rw [table, load, there], same t (by rw [load])⟩
  · exact ⟨t, by rw [table, load], same t (by rw [load])⟩
  · change (w.config.load w.surroundings).1.bind (fun t => Config.value t name key) = _ at result
    rw [load] at result
    cases result

end World

/-- What can be wrong with the input of an action, and the failure that says so. -/
inductive Action.Faulty (w : World σ) : Action → Failure → Prop
  | items {column : String} {expected : List String} {f : Failure} : Column.ofName column = .error f →
      Faulty w (.verifyItems column expected) f
  | tags {column task : String} {tags : TextSet} {f : Failure} : Column.ofName column = .error f →
      Faulty w (.confirmTags column task tags) f
  | username {source : Source} {f : Failure} : w.value source = .error f →
      Faulty w (.fillUsername source) f
  | password {source : Source} {f : Failure} : w.value source = .error f →
      Faulty w (.fillPassword source) f
  | openLoginPage {f : Failure} : w.portal = .error f → Faulty w .openLoginPage f
  | logIn {username password : Source} {f : Failure} : w.portal = .error f →
      Faulty w (.logIn username password) f

/-- The same for a step, which may not decode either. -/
inductive Step.Faulty (s : Step) (w : World σ) : Failure → Prop
  | undecoded {f : Failure} : s.decode = .error f → Faulty s w f
  | decoded {a : Action} {f : Failure} : s.decode = .ok a → a.Faulty w f → Faulty s w f

variable {b : Backend σ} {w : World σ} {f : Failure}

namespace Act

theorem lookup_untouched (name key : String) :
    (lookup name key : Act σ String).Ensures World.Untouched :=
  fun _ => ⟨_, _, rfl⟩

/-- Where a look at the configuration fails, what follows it is left out. -/
theorem run_bind_untouched {α β : Type} {m : Act σ α} (looks : m.Ensures World.Untouched)
    (failed : (m.run w).1 = .error f) (next : α → Act σ β) :
    ∃ v, (m >>= next).run w = (.error f, v) ∧ w.Untouched v :=
  ⟨_, run_bind_of_error (Prod.ext failed rfl), looks w⟩

end Act

namespace Page

theorem run_items_of_error {column : String} (none : Column.ofName column = .error f) :
    (items b column).run w = (.error f, w) := by
  rw [items, Act.run_bind, Act.run_ofExcept, none]

theorem run_tagsOf_of_error {column : String} (none : Column.ofName column = .error f) (title : String) :
    (tagsOf b column title).run w = (.error f, w) := by
  rw [tagsOf, Act.run_bind, Act.run_ofExcept, none]

theorem run_openLogin_of_error (none : w.portal = .error f) :
    ∃ v, (openLogin b).run w = (.error f, v) ∧ w.Untouched v := by
  have looks : (loginAddress : Act σ String).Ensures World.Untouched :=
    (Act.lookup_untouched Config.uiSection "baseUrlPortal").bind fun _ => Act.ensures_pure _
  have failed := run_loginAddress w
  rw [none] at failed
  exact Act.run_bind_untouched looks failed _

theorem run_openLogin_of_ok {base : String} (portal : w.portal = .ok base) : (openLogin b).run w =
    (navigate b (base ++ "/") true).run ((Act.lookupUi "baseUrlPortal").run w).2 := by
  have looked : (Act.lookupUi "baseUrlPortal").run w =
      (.ok base, ((Act.lookupUi "baseUrlPortal").run w).2) := Prod.ext portal rfl
  rw [openLogin, loginAddress, bind_assoc, Act.run_bind_of_ok looked]
  rfl

/-- The address was looked up, so the values are fixed. -/
theorem fixed_of_openLogin {v : World σ} (ok : (openLogin b).run w = (.ok (), v)) : w.Fixed v := by
  obtain ⟨url, u, address, visited⟩ := Act.exists_of_run_bind_ok ok
  obtain ⟨base, u', looked, given⟩ := Act.exists_of_run_bind_ok address
  obtain rfl : u' = u := congrArg Prod.snd given
  have kept := (World.elements_keepsTable b).navigate url true u'
  rw [visited] at kept
  exact (World.fixed_of_lookup looked).trans kept

end Page

namespace Run

theorem run_fill_of_error {source : Source} (none : w.value source = .error f)
    (next : String → Act σ Unit) :
    ∃ v, (resolve source >>= next).run w = (.error f, v) ∧ w.Untouched v := by
  have looks : (resolve source : Act σ String).Ensures World.Untouched := by
    cases source with
    | literal text => exact Act.ensures_pure text
    | configured name key => exact Act.lookup_untouched name key
  exact Act.run_bind_untouched looks none next

/-- By the kinds of action whose input can be at fault. -/
theorem run_perform_of_faulty {a : Action} (faulty : a.Faulty w f) :
    ∃ v, (perform b a).run w = (.error f, v) ∧ w.Untouched v := by
  cases faulty with
  | items none =>
    refine ⟨w, ?_, Std.Refl.refl w⟩
    rw [perform]
    exact Act.run_bind_of_error (Page.run_items_of_error none)
  | tags none =>
    refine ⟨w, ?_, Std.Refl.refl w⟩
    rw [perform]
    exact Act.run_bind_of_error (Page.run_tagsOf_of_error none _)
  | username none => exact run_fill_of_error none _
  | password none => exact run_fill_of_error none _
  | openLoginPage none => exact Page.run_openLogin_of_error none
  | logIn none =>
    obtain ⟨v, failed, untouched⟩ := Page.run_openLogin_of_error (b := b) none
    exact ⟨v, Act.run_bind_of_error failed, untouched⟩

theorem run_execute_of_faulty {s : Step} (faulty : s.Faulty w f) :
    ∃ v, (execute b s).run w = (.error f, v) ∧ w.Untouched v := by
  cases faulty with
  | undecoded none =>
    rw [execute_of_decode_error b none]
    exact ⟨w, rfl, Std.Refl.refl w⟩
  | decoded decoded faulty =>
    rw [execute_of_decode_ok b decoded]
    exact run_perform_of_faulty faulty

/-- What follows a value that cannot be resolved is left out. -/
theorem run_fill_of_fixed {v : World σ} {source : Source} (fixed : w.Fixed v)
    (none : w.value source = .error f) (next : String → Act σ Unit) :
    (resolve source >>= next).run v = (.error f, v) := by
  refine Act.run_bind_of_error ?_
  rw [fixed.run_resolve, none]

theorem run_logIn_of_username {username : Source} (password : Source)
    (none : w.value username = .error f) :
    (perform b (.logIn username password)).run w = (do perform b .openLoginPage; Act.fail f).run w :=
  Act.run_bind_congr fun _ _ opened => run_fill_of_fixed (Page.fixed_of_openLogin opened) none _

theorem run_logIn_of_password (username : Source) {password : Source}
    (none : w.value password = .error f) : (perform b (.logIn username password)).run w =
      (do perform b .openLoginPage; perform b (.fillUsername username); Act.fail f).run w := by
  have whole : perform b (.logIn username password) = (do
      perform b .openLoginPage
      perform b (.fillUsername username)
      perform b (.fillPassword password)
      perform b .clickLogin) := by
    simp only [perform, bind_assoc]
  rw [whole]
  refine Act.run_bind_congr fun _ v opened => Act.run_bind_congr fun _ u filled => ?_
  have kept := (World.elements_keepsTable b).perform (.fillUsername username) v
  rw [filled] at kept
  have fixed := (Page.fixed_of_openLogin opened).trans kept
  exact Act.run_bind_of_error (run_fill_of_fixed fixed none _)

/-- Whatever the session and the backend, a step whose input is at fault fails with the fault, asks nothing
of the backend and leaves the session as it is. To log in without a user name is to open the login page, and
without a password to fill in the user name as well, as far as that succeeds, and then to fail. -/
theorem input_errors (b : Backend σ) (s : Step) (w : World σ) :
    (∀ f, s.Faulty w f → ∃ v, (execute b s).run w = (.error f, v) ∧ w.Untouched v) ∧
    ∀ username password, s.decode = .ok (.logIn username password) →
      ∀ s₁ s₂ : Step, s₁.decode = .ok .openLoginPage → s₂.decode = .ok (.fillUsername username) →
        ∀ f, (w.value username = .error f →
            (execute b s).run w = (do execute b s₁; Act.fail f).run w) ∧
          (w.value password = .error f →
            (execute b s).run w = (do execute b s₁; execute b s₂; Act.fail f).run w) := by
  refine ⟨fun f => run_execute_of_faulty, fun username password decoded s₁ s₂ first second f => ?_⟩
  rw [execute_of_decode_ok b decoded, execute_of_decode_ok b first, execute_of_decode_ok b second]
  exact ⟨run_logIn_of_username password, run_logIn_of_password username⟩

/-- A configuration that has no password. -/
theorem input_errors_of_no_password :
    let w : World Scripted := {
      backend := { texts := [("css=#username", [""])] }, around := ⟨⟨[], []⟩, none⟩
      config := .ofIni "[UI]\nbrowserType=Chromium\nbaseUrlPortal=https://portal\nemail=user\n" }
    let s : Step := { action := "logIn" }
    let s₁ : Step := { action := "navigateToLoginPage" }
    let s₂ : Step := { action := "fillUsername", value := some "ConfigReader" }
    let f : Failure := .configMissing "no key 'password' in section [UI]"
    s.decode = .ok (.logIn (.configured "UI" "email") (.configured "UI" "password")) ∧
    s₁.decode = .ok .openLoginPage ∧ s₂.decode = .ok (.fillUsername (.configured "UI" "email")) ∧
    w.value (.configured "UI" "password") = .error f ∧
    (execute Scripted.backend s).run w =
      (do execute Scripted.backend s₁; execute Scripted.backend s₂; Act.fail f).run w ∧
    ((execute Scripted.backend s).run w).2.trace.getLast?.map (·.call) =
      some (.fill 2 LoginForm.username "user") := by
  intro w s s₁ s₂ f
  have password : w.value (.configured "UI" "password") = .error f := by decide
  have login : s.decode = .ok (.logIn (.configured "UI" "email") (.configured "UI" "password")) := by
    decide
  have fill : s₂.decode = .ok (.fillUsername (.configured "UI" "email")) := by decide
  refine ⟨login, rfl, fill, password, ?_, by decide⟩
  exact ((input_errors Scripted.backend s w).2 _ _ login s₁ s₂ rfl fill f).2 password

end Run

end Rehearsal
