import Rehearsal.Decimal.Digits
import Rehearsal.Log
import Rehearsal.Log.Pattern
import Rehearsal.Text.Alphanumeric
import Rehearsal.Text.Blank
import Rehearsal.Text.Cut

/-!
Filters of a log. A filter is a list of directives separated by commas. A directive says how much is
shown of what it is about: of everything, of a part of the program, of events with a certain field, or
of what happens in certain spans. It is written `target[span{field=text}]=level`, where each piece
may be left out. Of the directives that are about the same event the most specific one prevails.
-/
namespace Rehearsal.Log

/-- How much is shown: nothing, or the events of a level and of all graver ones. -/
inductive Verbosity
  | off
  | error
  | warn
  | info
  | debug
  | trace
deriving DecidableEq, Repr

def Level.verbosity : Level → Verbosity
  | .debug => .debug
  | .info => .info
  | .warn => .warn
  | .error => .error

namespace Verbosity

/-- From the least to the most. -/
def all : List Verbosity := [.off, .error, .warn, .info, .debug, .trace]

def rank (v : Verbosity) : Nat := all.idxOf v

def shows (v : Verbosity) (l : Level) : Bool := l.verbosity.rank ≤ v.rank

def name : Verbosity → String
  | .off => "off"
  | .error => "error"
  | .warn => "warn"
  | .info => "info"
  | .debug => "debug"
  | .trace => "trace"

/-- A verbosity is given by its rank or by its name in either case. -/
def ofChars? (s : List Char) : Option Verbosity :=
  let digits := (Text.dropFront? ['+'] s).getD s
  if digits ≠ [] ∧ digits.all Char.isDigit then all[Decimal.valueOf digits]?
  else all.find? fun v => v.name.toList = s.map Char.toLower

end Verbosity

/-- Why a directive cannot be read. -/
inductive Trouble
  | malformed
  /-- A piece begins or ends inside of a character. -/
  | splitCharacter
deriving DecidableEq, Repr

/-- A field that an event or a span must have; the text, if given, is that of the span's field. -/
structure FieldPattern where
  name : String
  text : Option String
deriving DecidableEq, Repr

namespace FieldPattern

/-- Whether a text is a number in decimal digits, with a point and an exponent if need be, or a word for
a number that has no digits. -/
def isNumeral (s : List Char) : Bool :=
  let (whole, s') := s.span Char.isDigit
  let (places, rest) := match s' with
    | '.' :: s' => s'.span Char.isDigit
    | s' => ([], s')
  let isExponent : Bool := match rest with
    | [] => true
    | e :: rest =>
      let digits := if ['+', '-'].contains (rest.headD '0') then rest.drop 1 else rest
      e.toLower = 'e' && digits ≠ [] && digits.all Char.isDigit
  (whole ++ places ≠ [] && isExponent) ||
    ["inf", "infinity", "nan"].contains (String.ofList (s.map Char.toLower))

/-- The text of a field is a number or a regular expression. -/
def isText (s : List Char) : Bool :=
  ((Text.dropFront? ['+'] s).any isNumeral) || Pattern.isWellFormed s

/-- The text stands between the first `=` and a second one. -/
def ofChars? (s : List Char) : Option FieldPattern :=
  if s.isEmpty then none
  else match Text.splitAll '=' s with
    | name :: rest =>
      if rest.head?.all isText then some ⟨String.ofList name, rest.head?.map String.ofList⟩ else none
    | [] => none

end FieldPattern

structure Directive where
  target : Option String := none
  span : Option String := none
  field : Option FieldPattern := none
  verbosity : Verbosity := .trace
deriving DecidableEq, Repr

namespace Directive

/-- Characters, each with the number of bytes before it. -/
abbrev Marks := List (Nat × Char)

/-- The characters of a text that stands behind `n` bytes. -/
def marksFrom (n : Nat) : List Char → Marks
  | [] => []
  | c :: s => (n, c) :: marksFrom (n + c.utf8Size) s

/-- The marks from the first on that is one of some characters. -/
def seek (cs : List Char) (marks : Marks) : Marks := marks.dropWhile fun (_, c) => !cs.contains c

variable (text : List Char)

/-- What stands behind `start` bytes of a text. -/
def tailFrom (start : Nat) : Except Trouble (List Char) :=
  match Text.splitBytes? start text with
  | some (_, rest) => .ok rest
  | none => .error .splitCharacter

/-- What stands between two numbers of bytes of a text. -/
def piece (start stop : Nat) : Except Trouble (List Char) := do
  match Text.splitBytes? (stop - start) (← tailFrom text start) with
  | some (piece, _) => return piece
  | none => .error .splitCharacter

/-! A directive is read from its text and from the marks that are left of the text without the blanks
around it. Its pieces are cut from the text with the blanks at as many bytes as the marks have before
them without. -/

/-- The verbosity behind `=`, which is the last piece. -/
def readVerbosity (start : Nat) (d : Directive) : Except Trouble Directive := do
  let rest ← tailFrom text start
  if rest.isEmpty then return d
  else match Verbosity.ofChars? rest with
    | some v => return { d with verbosity := v }
    | none => .error .malformed

/-- What follows a span. -/
def readRest (d : Directive) : Marks → Except Trouble Directive
  | [] => .ok d
  | (n, '=') :: _ => readVerbosity text (n + 1) d
  | _ => .error .malformed

/-- A span from `start` on, of which the name may be missing if a field is given. -/
def readSpan (start : Nat) (d : Directive) (marks : Marks) : Except Trouble Directive :=
  match seek [']', '\x7b'] marks with
  | (n, ']') :: rest => do
    let name ← piece text start n
    readRest text { d with span := some (String.ofList name) } rest
  | (n, _) :: rest => do
    let name ← piece text start n
    match seek ['\x7d'] rest with
    | (stop, _) :: rest =>
      match FieldPattern.ofChars? (← piece text (n + 1) stop), rest with
      | some field, (_, ']') :: rest =>
        let span := if name.isEmpty then none else some (String.ofList name)
        readRest text { d with span, field := some field } rest
      | _, _ => .error .malformed
    | [] => .error .malformed
  | [] => .error .malformed

/-- A directive of one word is a verbosity or, if it is none, a target. -/
def readWord : Directive :=
  match Verbosity.ofChars? text with
  | some v => { verbosity := v }
  | none => { target := some (String.ofList text) }

/-- The characters that a target or a verbosity may begin with. -/
def opensWord (c : Char) : Bool :=
  Text.isAlphanumeric c || ['-', ':', '_'].contains c

def read (marks : Marks) : Except Trouble Directive :=
  match marks with
  | [] => .error .malformed
  | (_, '[') :: rest => readSpan text 1 {} rest
  | (_, c) :: _ =>
    if opensWord c then
      match seek ['=', '['] marks with
      | [] => .ok (readWord text)
      | (n, c) :: rest => do
        let d : Directive := { target := some (String.ofList (← piece text 0 n)) }
        if c = '=' then readVerbosity text (n + 1) d else readSpan text (n + 1) d rest
    else .error .malformed

def ofChars (s : List Char) : Except Trouble Directive := read s (marksFrom 0 (Text.trim s))

/-- Directives about spans: about what happens in them, and about whether they are shown. -/
def isAboutSpans (d : Directive) : Bool := d.span.isSome || d.field.isSome

/-- Directives that need not know a span to be about an event. -/
def isGeneral (d : Directive) : Bool := d.span.isNone && d.field.all (·.text.isNone)

def covers (d : Directive) (p : Speaker) : Bool :=
  d.target.all fun target => target.toList.isPrefixOf p.target.toList

/-- The message counts as a field. -/
def concerns (d : Directive) (e : Event) : Bool :=
  d.covers e.speaker && d.field.all fun f => f.name = "message" || (e.fields.lookup f.name).isSome

/-- Whether a directive is about spans of cases, whatever their fields hold. -/
def concernsCases (d : Directive) : Bool :=
  d.isAboutSpans && d.covers Span.speaker && d.span.all (· = Span.name) &&
    d.field.all fun f => ["suite", "case"].contains f.name

def concernsSpan (d : Directive) (s : Span) : Bool :=
  d.concernsCases && d.field.all fun f => f.text.all fun text => s.fields.lookup f.name = some text

/-- A directive is the more specific the longer its target is, and then if it has a field. -/
def outranks (d e : Directive) : Bool :=
  let size (d : Directive) := (d.target.map String.length).getD 0
  ((compare (size d) (size e)).then (compare (d.field.map (·.name)) (e.field.map (·.name)))).isGT

/-- The most specific directive, the last of several that are equally so. -/
def prevailing (ds : List Directive) : Option Directive :=
  ds.foldl (fun best d => some (best.elim d fun b => if b.outranks d then b else d)) none

end Directive

/-- A filter without directives shows nothing. -/
structure Filter where
  directives : List Directive
deriving DecidableEq, Repr

namespace Filter

/-- The filter that shows as much everywhere. -/
def upTo (v : Verbosity) : Filter := ⟨[{ verbosity := v }]⟩

/-- Empty directives do not count; the first one that cannot be read spoils the filter. -/
def parse (text : String) : Except Trouble Filter := do
  return ⟨← ((Text.splitAll ',' text.toList).filter (!·.isEmpty)).mapM Directive.ofChars⟩

/-- Whether the prevailing one of some general directives shows a level. -/
def permits (f : Filter) (selects : Directive → Bool) (l : Level) : Bool :=
  (Directive.prevailing (f.directives.filter fun d => d.isGeneral && selects d)).any
    (·.verbosity.shows l)

/-- Whether some directive may show the level somewhere. A text of a field is not known before the span
is there, so a directive with one may show everything. -/
def reaches (f : Filter) (l : Level) : Bool :=
  f.directives.any fun d => d.verbosity.shows l || d.field.any (·.text.isSome)

/-- Spans of cases are shown if an event of their level would be, or if a directive is about them. -/
def showsCases (f : Filter) : Bool :=
  f.permits (·.covers Span.speaker) Span.level ||
    (f.reaches Span.level && f.directives.any (·.concernsCases))

/-- An event is shown if its general directive shows it or a directive about the span that it
happened in does. -/
def shows (f : Filter) (e : Event) (span : Option Span) : Bool :=
  f.permits (·.concerns e) e.level ||
    span.any fun s => f.directives.any fun d => d.concernsSpan s && d.verbosity.shows e.level

/-- The entries that are shown. What happened in a span that is not shown happened in none. -/
def apply (f : Filter) (log : List Entry) : List Entry :=
  (log.map fun e => { e with span := if f.showsCases then e.span else none }).filter fun e =>
    f.shows e.event e.span

theorem shows_upTo (v : Verbosity) (e : Event) (span : Option Span) :
    (upTo v).shows e span = v.shows e.level := by
  cases span <;>
    simp [shows, permits, upTo, Directive.isGeneral, Directive.concerns, Directive.covers,
      Directive.prevailing, Directive.concernsSpan, Directive.concernsCases, Directive.isAboutSpans]

theorem showsCases_upTo (v : Verbosity) : (upTo v).showsCases = v.shows .info := by
  simp [showsCases, permits, upTo, Directive.isGeneral, Directive.covers, Directive.prevailing,
    Directive.concernsCases, Directive.isAboutSpans, Span.level]

/-- A filter that shows spans and is the same everywhere only drops what is not grave enough. -/
theorem apply_upTo {v : Verbosity} (h : v.shows .info) (log : List Entry) :
    (upTo v).apply log = log.filter fun e => v.shows e.event.level := by
  simp [apply, shows_upTo, showsCases_upTo, h]

end Filter

end Rehearsal.Log
