import Rehearsal.Proofs.Run.FailFast
import Rehearsal.Proofs.Run.Login
import Rehearsal.Proofs.Scenario.Problems
import Rehearsal.Proofs.Session.Failures

/-!
# Validation agrees with runs

A step that does not decode fails with the failure that validation finds, and asks nothing of the
backend. No other step fails in such a way, and neither does the acquisition of a session, unless the
backend says so itself.
-/
namespace Rehearsal

variable {σ α : Type}

/-- The code is that of a step that does not decode. -/
def FailureNote.OfDecoding (n : FailureNote) : Prop :=
  n.code = "UNKNOWN_ACTION" ∨ n.code = "MISSING_FIELD"

def Failure.OfDecoding (f : Failure) : Prop := f.note.OfDecoding

@[simp] theorem Failure.ofDecoding_iff {f : Failure} :
    f.OfDecoding ↔ f.code = "UNKNOWN_ACTION" ∨ f.code = "MISSING_FIELD" := Iff.rfl

theorem Failure.OfAcquisition.not_ofDecoding {f : Failure} (h : f.OfAcquisition) :
    ¬ f.OfDecoding := by
  cases h <;> simp [code]

/-- With a backend that gives no such failure, the computation fails in other ways only. -/
abbrev Act.Decoded (b : Backend σ) (m : Act σ α) : Prop :=
  m.Fails (b.Never Failure.OfDecoding) fun f => ¬ f.OfDecoding

variable {b : Backend σ}

theorem Act.ask_decoded (c : Call) : (Act.ask b c).Decoded b :=
  Act.fails_ask (b.never_keeps _) (fun _ _ _ never => never.not_of_error) c

theorem Session.current_decoded : (Session.current b).Decoded b :=
  (Session.current_fails (b.never_keeps _)).mono fun _ h => h.not_ofDecoding

theorem Act.lookup_decoded (name key : String) : (Act.lookup name key : Act σ String).Decoded b :=
  Act.fails_lookup (by simp [Failure.code]) (by simp [Failure.code]) name key

theorem Act.fail_decoded {f : Failure} (h : ¬ f.OfDecoding := by simp [Failure.code]) :
    (Act.fail f : Act σ α).Decoded b :=
  Act.fails_fail h

namespace Page

theorem interact_decoded (l : Locator) (c : Call) :
    ((Act.ask b c).mapFailure (notInteractable l)).Decoded b := by
  refine (Act.ask_decoded c).mapFailure fun f h => ?_
  cases f with
  | driver reason => simp [notInteractable, Failure.code]
  | _ => exact h

theorem navigate_decoded (url : String) (wait : Bool) : (navigate b url wait).Decoded b := by
  refine Session.current_decoded.bind fun p => (Act.fails_say _).bind fun _ => ?_
  refine (Act.ask_decoded _).bind fun _ => ?_
  split
  · exact Act.ask_decoded _
  · exact Act.fails_pure _

theorem resolveOne_decoded (p : Nat) (l : Locator) : (resolveOne b p l).Decoded b := by
  refine (Act.ask_decoded _).bind fun texts => ?_
  dsimp only
  split
  · exact Act.fail_decoded
  · exact Act.fails_pure _

theorem fillField_decoded (l : Locator) (text : String) : (fillField b l text).Decoded b :=
  Session.current_decoded.bind fun p => (resolveOne_decoded p l).bind fun _ => interact_decoded l _

theorem click_decoded (l : Locator) : (click b l).Decoded b :=
  Session.current_decoded.bind fun p => (resolveOne_decoded p l).bind fun _ => interact_decoded l _

theorem currentUrl_decoded : (currentUrl b).Decoded b :=
  Session.current_decoded.bind fun _ => Act.ask_decoded _

theorem openSection_decoded (name : String) : (openSection b name).Decoded b := by
  refine Session.current_decoded.bind fun p => ?_
  refine (Act.ask_decoded (.texts p (sectionButton name))).bind fun texts => ?_
  dsimp only
  split
  · exact Act.Fails.bind Act.fail_decoded fun _ => interact_decoded _ _
  · exact interact_decoded _ _

theorem column_decoded (name : String) :
    (Act.ofExcept (Column.ofName name) : Act σ Column).Decoded b := by
  refine Act.fails_ofExcept fun f h => ?_
  unfold Column.ofName at h
  split at h <;> cases h
  simp [Failure.code]

theorem items_decoded (column : String) : (items b column).Decoded b := by
  refine (column_decoded column).bind fun c => Session.current_decoded.bind fun p => ?_
  exact (Act.ask_decoded (.texts p c.titles)).bind fun _ => Act.fails_pure _

theorem tagsOf_decoded (column title : String) : (tagsOf b column title).Decoded b := by
  refine (column_decoded column).bind fun c => Session.current_decoded.bind fun p => ?_
  have tags : (do return cleanTags (← Act.ask b (.texts p (c.tags title)))).Decoded b :=
    (Act.ask_decoded (.texts p (c.tags title))).bind fun _ => Act.fails_pure _
  refine (Act.ask_decoded (.texts p (c.title title))).bind fun found => ?_
  dsimp only
  split
  · exact Act.Fails.bind Act.fail_decoded fun _ => tags
  · exact tags

theorem openLogin_decoded : (openLogin b).Decoded b := by
  have address : (loginAddress : Act σ String).Decoded b :=
    (Act.lookup_decoded _ _).bind fun _ => Act.fails_pure _
  exact address.bind fun url => navigate_decoded url true

end Page

namespace Run

theorem resolve_decoded (source : Source) : (resolve source : Act σ String).Decoded b := by
  cases source with
  | literal text => exact Act.fails_pure text
  | configured name key => exact Act.lookup_decoded name key

/-- An action is past decoding, so it fails in other ways. -/
theorem perform_decoded (a : Action) : (perform b a).Decoded b := by
  cases a with
  | openLoginPage => exact Page.openLogin_decoded
  | fillUsername source => exact (resolve_decoded source).bind fun _ => Page.fillField_decoded _ _
  | fillPassword source => exact (resolve_decoded source).bind fun _ => Page.fillField_decoded _ _
  | clickLogin => exact Page.click_decoded _
  | logIn username password =>
    refine Page.openLogin_decoded.bind fun _ => ?_
    refine (resolve_decoded username).bind fun _ => (Page.fillField_decoded _ _).bind fun _ => ?_
    refine (resolve_decoded password).bind fun _ => (Page.fillField_decoded _ _).bind fun _ => ?_
    exact Page.click_decoded _
  | verifyLogin waitMs =>
    have sleep : (World.sleep waitMs : Act σ Unit).Decoded b :=
      Act.fails_of_eq (fun _ => ⟨(), rfl⟩) fun _ => rfl
    refine sleep.bind fun _ => Page.currentUrl_decoded.bind fun url => ?_
    split
    · exact Act.fail_decoded
    · exact Act.fails_pure ()
  | openSection name => exact Page.openSection_decoded name
  | verifyItems column expected =>
    refine (Page.items_decoded column).bind fun items => ?_
    dsimp only
    split
    · exact Act.fail_decoded
    · exact Act.fails_pure ()
  | confirmTags column task tags =>
    refine (Page.tagsOf_decoded column task).bind fun actual => ?_
    split
    · exact Act.fail_decoded
    · exact Act.fails_pure ()

end Run

end Rehearsal
