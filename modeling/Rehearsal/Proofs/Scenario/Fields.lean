import Rehearsal.Proofs.Scenario.Roundtrip

/-!
# The fields that a step decodes by

An action needs some of the fields of its step, and takes others if they are there. The first field that is
needed and absent, in the order in which the action asks for them, is the one that a step which does not decode
is reported to lack. No other field of a step has a part in what it decodes to.
-/
namespace Rehearsal.Step

/-- What a step can tell to do. -/
inductive Verb
  | openLoginPage
  | fillUsername
  | fillPassword
  | clickLogin
  | logIn
  | verifyLogin
  | openSection
  | verifyItems
  | confirmTags
deriving DecidableEq, Repr

namespace Verb

/-- The word for it in a step. -/
def name : Verb → String
  | openLoginPage => "navigateToLoginPage"
  | fillUsername => "fillUsername"
  | fillPassword => "fillPassword"
  | clickLogin => "clickLoginButton"
  | logIn => "logIn"
  | verifyLogin => "verifySuccessfulLogin"
  | openSection => "navigateToSection"
  | verifyItems => "verifyItemsInSection"
  | confirmTags => "confirmTags"

/-- The fields that have to be there, in the order in which they are asked for. -/
def needs : Verb → List Field
  | openLoginPage | clickLogin | logIn | verifyLogin => []
  | fillUsername | fillPassword => [.value]
  | openSection => [.sectionName]
  | verifyItems => [.column, .expected]
  | confirmTags => [.column, .task, .tags]

/-- The fields that may be there. -/
def takes : Verb → List Field
  | logIn => [.value, .password]
  | verifyLogin => [.timeoutMs]
  | openLoginPage | clickLogin | fillUsername | fillPassword | openSection | verifyItems | confirmTags => []

theorem eq_of_name_eq {v v' : Verb} (same : v.name = v'.name) : v = v' := by
  cases v <;> cases v' <;> first | rfl | exact absurd same (by decide)

end Verb

/-- Whether the value of a field is one that was given. -/
def Field.given : (f : Field) → f.Value → Bool
  | .action, _ => true
  | .expected, v => v.isSome
  | .tags, v => v.isSome
  | .timeoutMs, v => v.isSome
  | .description, v | .value, v | .password, v | .sectionName, v | .column, v | .task, v => v.isSome

/-- The first field that the step would need to do it and does not have. -/
def missing (s : Step) (v : Verb) : Option Field :=
  v.needs.find? fun f => !f.given (Field.of s f)

variable {s t : Step} {v : Verb}

theorem decode_of_unknown (unknown : ∀ v : Verb, v.name ≠ s.action) :
    s.decode = .error (.unknownAction s.action) := by
  unfold decode
  split
  · exact absurd (Eq.symm ‹_›) (unknown .openLoginPage)
  · exact absurd (Eq.symm ‹_›) (unknown .fillUsername)
  · exact absurd (Eq.symm ‹_›) (unknown .fillPassword)
  · exact absurd (Eq.symm ‹_›) (unknown .clickLogin)
  · exact absurd (Eq.symm ‹_›) (unknown .logIn)
  · exact absurd (Eq.symm ‹_›) (unknown .verifyLogin)
  · exact absurd (Eq.symm ‹_›) (unknown .openSection)
  · exact absurd (Eq.symm ‹_›) (unknown .verifyItems)
  · exact absurd (Eq.symm ‹_›) (unknown .confirmTags)
  · rfl

/-- By cases on what is asked for: of each field, only whether it is there decides how the step goes on. -/
theorem decode_of_verb (named : v.name = s.action) :
    match s.missing v with
    | some f => s.decode = .error (.missingField s.action f.name)
    | none => ∃ a, s.decode = .ok a := by
  obtain ⟨action, description, value, password, sectionName, column, task, expected, tags, timeoutMs⟩ := s
  obtain rfl : v.name = action := named
  cases v with
  | openLoginPage | clickLogin | logIn | verifyLogin => exact ⟨_, rfl⟩
  | fillUsername | fillPassword =>
    cases value with
    | none => rfl
    | some text => exact ⟨_, rfl⟩
  | openSection =>
    cases sectionName with
    | none => rfl
    | some name => exact ⟨_, rfl⟩
  | verifyItems =>
    cases column with
    | none => rfl
    | some name =>
      cases expected with
      | none => rfl
      | some titles => exact ⟨_, rfl⟩
  | confirmTags =>
    cases column with
    | none => rfl
    | some name =>
      cases task with
      | none => rfl
      | some title =>
        cases tags with
        | none => rfl
        | some texts => exact ⟨_, rfl⟩

theorem decode_congr (named : v.name = s.action) (action : t.action = s.action)
    (agree : ∀ f ∈ v.needs ++ v.takes, Field.of t f = Field.of s f) : t.decode = s.decode := by
  obtain ⟨_, _, value, password, sectionName, column, task, expected, tags, timeoutMs⟩ := s
  obtain ⟨_, _, value', password', sectionName', column', task', expected', tags', timeoutMs'⟩ := t
  obtain rfl := action
  obtain rfl := named
  cases v with
  | openLoginPage | clickLogin => rfl
  | fillUsername | fillPassword =>
    obtain rfl : value' = value := agree .value (by decide)
    rfl
  | logIn =>
    obtain rfl : value' = value := agree .value (by decide)
    obtain rfl : password' = password := agree .password (by decide)
    rfl
  | verifyLogin =>
    obtain rfl : timeoutMs' = timeoutMs := agree .timeoutMs (by decide)
    rfl
  | openSection =>
    obtain rfl : sectionName' = sectionName := agree .sectionName (by decide)
    rfl
  | verifyItems =>
    obtain rfl : column' = column := agree .column (by decide)
    obtain rfl : expected' = expected := agree .expected (by decide)
    rfl
  | confirmTags =>
    obtain rfl : column' = column := agree .column (by decide)
    obtain rfl : task' = task := agree .task (by decide)
    obtain rfl : tags' = tags := agree .tags (by decide)
    rfl

theorem decode_of_missing {f : Field} (named : v.name = s.action) (lacks : s.missing v = some f) :
    s.decode = .error (.missingField s.action f.name) := by
  simpa only [lacks] using decode_of_verb named

theorem exists_decode_of_verb (named : v.name = s.action) (whole : s.missing v = none) :
    ∃ a, s.decode = .ok a := by
  simpa only [whole] using decode_of_verb named

/-- The action of a step is unknown, or the step lacks a field that it needs to do it, or it lacks none. -/
theorem unknown_or_verb (s : Step) : (∀ v : Verb, v.name ≠ s.action) ∨
    ∃ v : Verb, v.name = s.action ∧ ((∃ f, s.missing v = some f) ∨ s.missing v = none) := by
  by_cases known : ∃ v : Verb, v.name = s.action
  · obtain ⟨v, named⟩ := known
    refine .inr ⟨v, named, ?_⟩
    cases s.missing v with
    | none => exact .inr rfl
    | some f => exact .inl ⟨f, rfl⟩
  · exact .inl (not_exists.mp known)

theorem decode_eq_unknown_iff {a : String} :
    s.decode = .error (.unknownAction a) ↔ a = s.action ∧ ∀ v : Verb, v.name ≠ s.action := by
  constructor
  · intro decoded
    rcases unknown_or_verb s with unknown | ⟨v, named, ⟨f, lacks⟩ | whole⟩
    · rw [decode_of_unknown unknown] at decoded
      cases decoded
      exact ⟨rfl, unknown⟩
    · cases (decode_of_missing named lacks).symm.trans decoded
    · obtain ⟨_, ok⟩ := exists_decode_of_verb named whole
      cases ok.symm.trans decoded
  · rintro ⟨rfl, unknown⟩
    exact decode_of_unknown unknown

theorem decode_eq_missing_iff {a name : String} : s.decode = .error (.missingField a name) ↔
    a = s.action ∧ ∃ v f, v.name = s.action ∧ s.missing v = some f ∧ f.name = name := by
  constructor
  · intro decoded
    rcases unknown_or_verb s with unknown | ⟨v, named, ⟨f, lacks⟩ | whole⟩
    · cases (decode_of_unknown unknown).symm.trans decoded
    · rw [decode_of_missing named lacks] at decoded
      cases decoded
      exact ⟨rfl, v, f, named, lacks, rfl⟩
    · obtain ⟨_, ok⟩ := exists_decode_of_verb named whole
      cases ok.symm.trans decoded
  · rintro ⟨rfl, v, f, named, lacks, rfl⟩
    exact decode_of_missing named lacks

theorem exists_decode_iff : (∃ a, s.decode = .ok a) ↔ ∃ v, v.name = s.action ∧ s.missing v = none := by
  constructor
  · rintro ⟨a, decoded⟩
    rcases unknown_or_verb s with unknown | ⟨v, named, ⟨f, lacks⟩ | whole⟩
    · cases (decode_of_unknown unknown).symm.trans decoded
    · cases (decode_of_missing named lacks).symm.trans decoded
    · exact ⟨v, named, whole⟩
  · rintro ⟨v, named, whole⟩
    exact exists_decode_of_verb named whole

/-- A step is refused for its action exactly if there is none of that name, and for a field exactly if that
is the first one that its action needs and it does not have; it decodes in all other cases. Steps of the same
action that agree on the fields that it needs or takes decode to the same. -/
theorem decodes_by_fields (s : Step) :
    (∀ a, s.decode = .error (.unknownAction a) ↔ a = s.action ∧ ∀ v : Verb, v.name ≠ s.action) ∧
    (∀ a name, s.decode = .error (.missingField a name) ↔
      a = s.action ∧ ∃ v f, v.name = s.action ∧ s.missing v = some f ∧ f.name = name) ∧
    ((∃ a, s.decode = .ok a) ↔ ∃ v, v.name = s.action ∧ s.missing v = none) ∧
    ∀ t : Step, t.action = s.action →
      (∀ v : Verb, v.name = s.action → ∀ f ∈ v.needs ++ v.takes, Field.of t f = Field.of s f) →
      t.decode = s.decode := by
  refine ⟨fun _ => decode_eq_unknown_iff, fun _ _ => decode_eq_missing_iff, exists_decode_iff, ?_⟩
  intro t action agree
  rcases unknown_or_verb s with unknown | ⟨v, named, -⟩
  · have unknown' : ∀ v : Verb, v.name ≠ t.action := by rwa [action]
    rw [decode_of_unknown unknown, decode_of_unknown unknown', action]
  · exact decode_congr named action (agree v named)

/-- What else the step holds does not count, and a list of tags that is there may be empty. -/
theorem decodes_by_fields_of_tags :
    let s : Step := { action := "confirmTags", column := some "done", task := some "Ship it", tags := some [] }
    let t : Step := { s with value := some "x", expected := some (.one "Fix it"), timeoutMs := some 5 }
    t.action = s.action ∧
    (∀ v : Verb, v.name = s.action → ∀ f ∈ v.needs ++ v.takes, Field.of t f = Field.of s f) ∧
    t.decode = s.decode ∧ { s with task := none }.decode = .error (.missingField "confirmTags" "task") := by
  intro s t
  have agree (v : Verb) (named : v.name = s.action) :
      ∀ f ∈ v.needs ++ v.takes, Field.of t f = Field.of s f := by
    obtain rfl : v = .confirmTags := Verb.eq_of_name_eq named
    intro f counts
    cases f <;> first | rfl | exact absurd counts (by decide)
  refine ⟨rfl, agree, (decodes_by_fields s).2.2.2 t rfl agree, ?_⟩
  exact ((decodes_by_fields { s with task := none }).2.1 _ _).mpr
    ⟨rfl, .confirmTags, .task, rfl, rfl, rfl⟩

end Rehearsal.Step
