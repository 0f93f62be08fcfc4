import Rehearsal.Board
import Rehearsal.Proofs.Json.Tokens
import Rehearsal.Proofs.XPath.Literals
import Rehearsal.Script

/-!
# Titles in locators in scripts

A script holds a locator as a string literal, and a locator may hold a title as a string expression. Each
is read back where it stands, and its end is found there whatever follows. So neither a locator nor a
title gets out of its place.
-/
namespace Rehearsal

namespace Script

/-- What follows a string literal of a script, from behind its first quote on. It ends at the next quote
that is not escaped, and on the line on which it began. -/
def behind? : List Char → Option (List Char)
  | [] => none
  | '"' :: rest => some rest
  | '\\' :: _ :: rest => behind? rest
  | c :: rest => if c = '\n' ∨ c = '\r' then none else behind? rest

/-- The string literal at the front of a script, with the content that it has in JSON, and what follows
it. Script and JSON have to agree where it ends. -/
def literal? : List Char → Option (List Char × List Char)
  | '"' :: s =>
    match Json.Quotation.read s 0, behind? s with
    | .ok (content, after), some rest => if after.rest = rest then some (content, rest) else none
    | _, _ => none
  | _ => none

/-- The text is made of two given ends and, between them, one thing that is read whatever follows it. -/
def Embeds {α : Type} (read : List Char → Option (α × List Char)) (opening closing s : String) (a : α) :
    Prop :=
  ∃ part : String, s = opening ++ part ++ closing ∧
    ∀ rest, read (part.toList ++ rest) = some (a, rest)

/-- How the texts of the matches are collected. -/
def collecting : String := ".map(n => n.innerText ?? n.textContent ?? '')"

theorem behind?_cons {c : Char} (plain : c ∉ ['"', '\\', '\n', '\r']) (rest : List Char) :
    behind? (c :: rest) = behind? rest := by
  simp only [List.mem_cons, List.not_mem_nil, or_false, not_or] at plain
  rw [behind?.eq_def]
  split <;> simp_all

theorem hexDigit_plain : ∀ n < 0x10, Json.Quotation.hexDigit n ∉ ['"', '\\', '\n', '\r'] := by
  decide

theorem behind?_escape (c : Char) (rest : List Char) :
    behind? (Json.Quotation.escape c ++ rest) = behind? rest := by
  unfold Json.Quotation.escape
  split
  -- An escape of two characters is skipped as a whole.
  all_goals try rfl
  split
  · rename_i control
    have high := behind?_cons (hexDigit_plain (c.toNat / 16) (by omega))
    have low := behind?_cons (hexDigit_plain (c.toNat % 16) (by omega)) rest
    exact (high _).trans low
  · exact behind?_cons (by simp_all) rest

theorem behind?_flatMap_escape (s rest : List Char) :
    behind? (s.flatMap Json.Quotation.escape ++ '"' :: rest) = some rest := by
  induction s with
  | nil => rfl
  | cons c s ih => rw [List.flatMap_cons, List.append_assoc, behind?_escape, ih]

/-- What is written for a text is one literal, and its content is the text. -/
theorem literal?_stringLiteral (s : String) (rest : List Char) :
    literal? ((stringLiteral s).toList ++ rest) = some (s.toList, rest) := by
  obtain ⟨stop, read⟩ := Json.Quotation.read_flatMap_escape s.toList rest 0
  have written : (stringLiteral s).toList ++ rest =
      '"' :: (s.toList.flatMap Json.Quotation.escape ++ '"' :: rest) := by
    simp [stringLiteral, Json.Quotation.write]
  rw [written, literal?, read, behind?_flatMap_escape]
  exact if_pos rfl

theorem texts_css (selector : String) :
    Embeds literal? cssOpening (cssClosing ++ collecting) (texts (.css selector)) selector.toList :=
  ⟨stringLiteral selector, String.append_assoc, literal?_stringLiteral selector⟩

theorem texts_xpath (path : String) :
    Embeds literal? xpathOpening (xpathClosing ++ collecting) (texts (.xpath path)) path.toList :=
  ⟨stringLiteral path, String.append_assoc, literal?_stringLiteral path⟩

end Script

/-- The locators that name an element by a title: that of a card, its tags, and the control of a
section. -/
inductive Titled
  | title (c : Column)
  | tags (c : Column)
  | sectionButton
deriving DecidableEq, Repr

namespace Titled

def locator : Titled → String → Locator
  | .title c, text => c.title text
  | .tags c, text => c.tags text
  | .sectionButton, text => Rehearsal.sectionButton text

/-- What stands before the title in a path. -/
def opening : Titled → String
  | .title c | .tags c =>
    "//div[h2[normalize-space(text())='" ++ c.heading ++ "']]//h3[normalize-space(text())="
  | .sectionButton => "//button[.//h2[normalize-space(text())="

/-- What stands behind it. -/
def closing : Titled → String
  | .title _ => "]"
  | .tags _ => "]/following-sibling::*[1][self::div]//span"
  | .sectionButton => "]]"

theorem container_eq (c : Column) :
    c.container = "//div[h2[normalize-space(text())='" ++ c.heading ++ "']]" := by
  cases c <;> decide

/-- The text of a card's heading is the last thing that its path needs. -/
theorem heading_then_title (front text : String) :
    front ++ "']]" ++ "//h3[" ++ ("normalize-space(text())=" ++ text) =
      front ++ "']]//h3[normalize-space(text())=" ++ text := by
  have joint : "']]" ++ "//h3[" ++ "normalize-space(text())=" = "']]//h3[normalize-space(text())=" := by
    decide
  rw [← joint]
  simp only [String.append_assoc]

theorem titlePath_eq (c : Column) (text : String) :
    c.titlePath text = (Titled.title c).opening ++ XPath.literal (Text.collapse text) ++ "]" := by
  unfold Column.titlePath XPath.textEquals
  rw [container_eq, heading_then_title]
  unfold opening
  dsimp only

theorem path_of_tags (front : String) :
    front ++ "]" ++ "/following-sibling::*[1][self::div]//span" =
      front ++ "]/following-sibling::*[1][self::div]//span" := by
  rw [String.append_assoc]
  exact congrArg (front ++ ·) (by decide)

theorem path_of_sectionButton (text : String) :
    "//button[.//h2[" ++ ("normalize-space(text())=" ++ text) ++ "]]" =
      "//button[.//h2[normalize-space(text())=" ++ text ++ "]]" := by
  rw [← String.append_assoc]
  exact congrArg (· ++ text ++ "]]") (by decide)

theorem locator_eq (k : Titled) (text : String) :
    k.locator text = .xpath (k.opening ++ XPath.literal (Text.collapse text) ++ k.closing) := by
  cases k with
  | title c =>
    unfold locator Column.title closing
    exact congrArg Locator.xpath (titlePath_eq c text)
  | tags c =>
    unfold locator Column.tags closing
    refine congrArg Locator.xpath ?_
    rw [titlePath_eq, path_of_tags]
    unfold opening
    dsimp only
  | sectionButton =>
    unfold locator Rehearsal.sectionButton closing opening XPath.textEquals
    exact congrArg Locator.xpath (path_of_sectionButton _)

end Titled

open Script XPath in
/-- In the script for a locator the locator is the only thing that is not given beforehand, and stands
there as one string literal. In a locator that names an element by a title, so does the title, which
stands there as one string expression. Whatever characters they have, they are read back: the literal
has the locator as its content, and the expression has the title as its value, with the blanks
collapsed. -/
theorem titles_embedded :
    (∀ selector : String, Embeds Script.literal? cssOpening (cssClosing ++ collecting)
      (texts (.css selector)) selector.toList) ∧
    ∀ (k : Titled) (text : String), ∃ (path : String) (e : StringExpr), k.locator text = .xpath path ∧
      Embeds Script.literal? xpathOpening (xpathClosing ++ collecting) (texts (k.locator text))
        path.toList ∧
      Embeds readExpression? k.opening k.closing path e ∧ e.value = (Text.collapse text).toList := by
  refine ⟨texts_css, fun k text => ?_⟩
  obtain ⟨e, spelled, value⟩ := spelled_literalChars (Text.collapse text).toList
  let path := k.opening ++ XPath.literal (Text.collapse text) ++ k.closing
  have located : k.locator text = .xpath path := k.locator_eq text
  refine ⟨path, e, located, located ▸ texts_xpath path, ⟨_, rfl, fun rest => ?_⟩, value⟩
  rw [XPath.literal, String.toList_ofList]
  exact readExpression?_eq_some_iff.mpr ⟨_, spelled, rfl⟩

end Rehearsal
