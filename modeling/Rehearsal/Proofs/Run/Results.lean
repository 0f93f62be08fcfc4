import Rehearsal.Proofs.Disk.Files
import Rehearsal.Proofs.Json.Decoding
import Rehearsal.Proofs.Json.Numbers
import Rehearsal.Proofs.Run.Stamps
import Rehearsal.Run.Results

/-!
# The results file loses nothing

Each level of a summary is a record that is read back from what is written for it, and the file holds what
is written for the summary. Counts have to fit 64 bits and the time has to be one of the calendar; whatever
is read from a text is so.
-/
namespace Rehearsal

open Json

theorem Json.Reads.worded {α : Type} {read? : String → Option α} {a : α} {word : String}
    (h : read? word = some a) (expected : String) : Reads (Node.worded read? expected) (.string word) a := by
  intro node holds
  cases holds
  simp [Node.worded, Node.text?, bind, Except.bind, h]

theorem Json.Reads.choice {α : Type} {read? : String → Option α} {a : α} {word : String}
    (h : read? word = some a) (expected : String) : Reads (Node.choice read? expected) (.string word) a := by
  intro node holds
  have worded := Reads.worded h expected node holds
  cases holds
  exact worded

theorem Json.Gives.worded {α : Type} {read? : String → Option α} {P : α → Prop} {expected : String}
    (h : ∀ s a, read? s = some a → P a) : Gives (Node.worded read? expected) P := by
  intro node _ a read
  obtain ⟨s, -, read⟩ := exists_of_bind_ok read
  split at read
  · cases read
    exact h s _ ‹_›
  · cases read
  · cases read

namespace FailureNote

def copy (n : FailureNote) : layout.Copy n where
  value
    | .code => n.code
    | .message => n.message
  write
    | .code => .string n.code
    | .message => .string n.message
  all f := by cases f <;> decide
  once := by decide
  named f := by cases f <;> decide
  read f _ := by
    cases f with
    | code => exact .text n.code
    | message => exact .text n.message
  built := rfl

theorem reads (n : FailureNote) : Reads layout.ofNode n.document n := n.copy.reads

theorem document_plain (n : FailureNote) : n.document.Plain :=
  n.copy.document_plain fun f => by cases f <;> exact .string _

theorem document_fits (n : FailureNote) (room : Nat) : n.document.Fits (room + 1) :=
  n.copy.document_fits fun f => by cases f <;> exact .string room _

end FailureNote

theorem StepStatus.ofWord?_word (s : StepStatus) : ofWord? s.word = some s := by
  cases s <;> rfl

theorem CaseStatus.ofWord?_word (s : CaseStatus) : ofWord? s.word = some s := by
  cases s <;> rfl

namespace StepOutcome

def copy (s : StepOutcome) : layout.Copy s where
  value
    | .index => s.index
    | .action => s.action
    | .description => s.description
    | .status => s.status
    | .durationMs => s.durationMs
    | .error => s.error
  write
    | .index => .nat s.index
    | .action => .string s.action
    | .description => .ofOption .string s.description
    | .status => .string s.status.word
    | .durationMs => .nat s.durationMs
    | .error => .ofOption FailureNote.document s.error
  all f := by cases f <;> decide
  once := by decide
  named f := by cases f <;> decide
  read f _ := by
    cases f with
    | index => exact .word64 s.index
    | action => exact .text s.action
    | description => exact .nullable (fun d _ => .text d) Document.string_ne_null
    | status => exact .choice s.status.ofWord?_word _
    | durationMs => exact .word64 s.durationMs
    | error => exact .nullable (fun n _ => n.reads) fun _ => Document.object_ne_null _
  built := rfl

theorem reads (s : StepOutcome) : Reads layout.ofNode s.document s := s.copy.reads

theorem document_fits (s : StepOutcome) (room : Nat) : s.document.Fits (room + 2) := by
  refine s.copy.document_fits fun f => ?_
  cases f with
  | index => exact .number _ _
  | action => exact .string _ s.action
  | description => exact .ofOption (.string _) s.description
  | status => exact .string _ s.status.word
  | durationMs => exact .number _ _
  | error => exact .ofOption (·.document_fits room) s.error

/-- The numbers are of 64 bits. -/
structure Fits (s : StepOutcome) : Prop where
  index : s.index < UInt64.size
  durationMs : s.durationMs < UInt64.size

theorem Fits.document_plain {s : StepOutcome} (h : s.Fits) : s.document.Plain := by
  refine s.copy.document_plain fun f => ?_
  cases f with
  | index => exact .nat h.index
  | action => exact .string s.action
  | description => exact .ofOption .string s.description
  | status => exact .string s.status.word
  | durationMs => exact .nat h.durationMs
  | error => exact .ofOption FailureNote.document_plain s.error

/-- What makes a step outcome fit. -/
def Field.Fits : (f : Field) → f.Value → Prop
  | .index, n | .durationMs, n => n < UInt64.size
  | _, _ => True

theorem keeps : layout.Keeps Field.Fits Fits where
  read f settled := by
    cases f with
    | index | durationMs => exact .word64
    | _ => exact fun _ _ _ _ => trivial
  absent form f v h := by
    cases f with
    | index | durationMs => cases form <;> cases h
    | _ => trivial
  build get s h fields := by
    obtain ⟨index, hindex, h⟩ := exists_of_bind_ok h
    obtain ⟨action, -, h⟩ := exists_of_bind_ok h
    obtain ⟨description, -, h⟩ := exists_of_bind_ok h
    obtain ⟨status, -, h⟩ := exists_of_bind_ok h
    obtain ⟨durationMs, hdurationMs, h⟩ := exists_of_bind_ok h
    obtain ⟨error, -, h⟩ := exists_of_bind_ok h
    cases h
    exact ⟨fields .index index hindex, fields .durationMs durationMs hdurationMs⟩

end StepOutcome

namespace CaseOutcome

def copy (c : CaseOutcome) : layout.Copy c where
  value
    | .suiteId => c.suiteId
    | .caseId => c.caseId
    | .name => c.name
    | .status => c.status
    | .durationMs => c.durationMs
    | .steps => c.steps
    | .error => c.error
  write
    | .suiteId => .string c.suiteId
    | .caseId => .string c.caseId
    | .name => .string c.name
    | .status => .string c.status.word
    | .durationMs => .nat c.durationMs
    | .steps => .ofList StepOutcome.document c.steps
    | .error => .ofOption FailureNote.document c.error
  all f := by cases f <;> decide
  once := by decide
  named f := by cases f <;> decide
  read f _ := by
    cases f with
    | suiteId => exact .text c.suiteId
    | caseId => exact .text c.caseId
    | name => exact .text c.name
    | status => exact .choice c.status.ofWord?_word _
    | durationMs => exact .word64 c.durationMs
    | steps => exact .list fun s _ => s.reads
    | error => exact .nullable (fun n _ => n.reads) fun _ => Document.object_ne_null _
  built := rfl

theorem reads (c : CaseOutcome) : Reads layout.ofNode c.document c := c.copy.reads

theorem document_fits (c : CaseOutcome) (room : Nat) : c.document.Fits (room + 4) := by
  refine c.copy.document_fits fun f => ?_
  cases f with
  | suiteId => exact .string _ c.suiteId
  | caseId => exact .string _ c.caseId
  | name => exact .string _ c.name
  | status => exact .string _ c.status.word
  | durationMs => exact .number _ _
  | steps => exact .ofList fun s _ => s.document_fits room
  | error => exact .ofOption (·.document_fits (room + 2)) c.error

/-- The numbers are of 64 bits. -/
structure Fits (c : CaseOutcome) : Prop where
  durationMs : c.durationMs < UInt64.size
  steps : ∀ s ∈ c.steps, s.Fits

theorem Fits.document_plain {c : CaseOutcome} (h : c.Fits) : c.document.Plain := by
  refine c.copy.document_plain fun f => ?_
  cases f with
  | suiteId => exact .string c.suiteId
  | caseId => exact .string c.caseId
  | name => exact .string c.name
  | status => exact .string c.status.word
  | durationMs => exact .nat h.durationMs
  | steps => exact .ofList_of_mem fun s hs => (h.steps s hs).document_plain
  | error => exact .ofOption FailureNote.document_plain c.error

def Field.Fits : (f : Field) → f.Value → Prop
  | .durationMs, n => n < UInt64.size
  | .steps, ss => ∀ s ∈ ss, s.Fits
  | _, _ => True

theorem keeps : layout.Keeps Field.Fits Fits where
  read f settled := by
    cases f with
    | durationMs => exact .word64
    | steps => exact .list StepOutcome.keeps.gives
    | _ => exact fun _ _ _ _ => trivial
  absent form f v h := by
    cases f with
    | durationMs | steps => cases form <;> cases h
    | _ => trivial
  build get c h fields := by
    obtain ⟨suiteId, -, h⟩ := exists_of_bind_ok h
    obtain ⟨caseId, -, h⟩ := exists_of_bind_ok h
    obtain ⟨name, -, h⟩ := exists_of_bind_ok h
    obtain ⟨status, -, h⟩ := exists_of_bind_ok h
    obtain ⟨durationMs, hdurationMs, h⟩ := exists_of_bind_ok h
    obtain ⟨steps, hsteps, h⟩ := exists_of_bind_ok h
    obtain ⟨error, -, h⟩ := exists_of_bind_ok h
    cases h
    exact ⟨fields .durationMs durationMs hdurationMs, fields .steps steps hsteps⟩

end CaseOutcome

namespace Summary

/-- The numbers are of 64 bits, and the time is one of the calendar. -/
structure Fits (s : Summary) : Prop where
  startedAt : s.startedAt.valid
  total : s.total < UInt64.size
  passed : s.passed < UInt64.size
  failed : s.failed < UInt64.size
  durationMs : s.durationMs < UInt64.size
  cases : ∀ c ∈ s.cases, c.Fits

def copy {s : Summary} (valid : s.startedAt.valid) : layout.Copy s where
  value
    | .runId => s.runId
    | .startedAt => s.startedAt
    | .total => s.total
    | .passed => s.passed
    | .failed => s.failed
    | .durationMs => s.durationMs
    | .cases => s.cases
  write
    | .runId => .string s.runId.text
    | .startedAt => .string s.startedAt.text
    | .total => .nat s.total
    | .passed => .nat s.passed
    | .failed => .nat s.failed
    | .durationMs => .nat s.durationMs
    | .cases => .ofList CaseOutcome.document s.cases
  all f := by cases f <;> decide
  once := by decide
  named f := by cases f <;> decide
  read f _ := by
    cases f with
    | runId => exact .worded s.runId.ofText?_text _
    | startedAt => exact .worded (Timestamp.ofText?_text valid) _
    | total => exact .word64 s.total
    | passed => exact .word64 s.passed
    | failed => exact .word64 s.failed
    | durationMs => exact .word64 s.durationMs
    | cases => exact .list fun c _ => c.reads
  built := rfl

theorem reads {s : Summary} (valid : s.startedAt.valid) : Reads layout.ofNode s.document s :=
  (copy valid).reads

theorem document_fits {s : Summary} (valid : s.startedAt.valid) (room : Nat) :
    s.document.Fits (room + 6) := by
  refine (copy valid).document_fits fun f => ?_
  cases f with
  | runId => exact .string _ s.runId.text
  | startedAt => exact .string _ s.startedAt.text
  | cases => exact .ofList fun c _ => c.document_fits room
  | _ => exact .number _ _

theorem Fits.document_plain {s : Summary} (h : s.Fits) : s.document.Plain := by
  refine (copy h.startedAt).document_plain fun f => ?_
  cases f with
  | runId => exact .string s.runId.text
  | startedAt => exact .string s.startedAt.text
  | total => exact .nat h.total
  | passed => exact .nat h.passed
  | failed => exact .nat h.failed
  | durationMs => exact .nat h.durationMs
  | cases => exact .ofList_of_mem fun c hc => (h.cases c hc).document_plain

def Field.Fits : (f : Field) → f.Value → Prop
  | .runId, _ => True
  | .startedAt, t => t.valid
  | .total, n | .passed, n | .failed, n | .durationMs, n => n < UInt64.size
  | .cases, cs => ∀ c ∈ cs, c.Fits

theorem keeps : layout.Keeps Field.Fits Fits where
  read f settled := by
    cases f with
    | runId => exact fun _ _ _ _ => trivial
    | startedAt => exact .worded fun _ _ => Timestamp.valid_of_ofText?
    | cases => exact .list CaseOutcome.keeps.gives
    | _ => exact .word64
  absent _ _ _ h := by cases h
  build get s h fields := by
    obtain ⟨runId, -, h⟩ := exists_of_bind_ok h
    obtain ⟨startedAt, hstartedAt, h⟩ := exists_of_bind_ok h
    obtain ⟨total, htotal, h⟩ := exists_of_bind_ok h
    obtain ⟨passed, hpassed, h⟩ := exists_of_bind_ok h
    obtain ⟨failed, hfailed, h⟩ := exists_of_bind_ok h
    obtain ⟨durationMs, hdurationMs, h⟩ := exists_of_bind_ok h
    obtain ⟨cases, hcases, h⟩ := exists_of_bind_ok h
    cases h
    exact ⟨fields .startedAt _ hstartedAt, fields .total _ htotal, fields .passed _ hpassed,
      fields .failed _ hfailed, fields .durationMs _ hdurationMs, fields .cases _ hcases⟩

/-- A text that goes on behind a summary is none of a summary. -/
theorem not_parse_append {s : Summary} (h : s.Fits) {text : String} {c : Char}
    (starts : text.toList.head? = some c) (more : ¬ Cursor.isGap c) (t : Summary) :
    parse (s.write ++ text) ≠ .ok t := by
  obtain ⟨rest, characters⟩ := List.head?_eq_some_iff.mp starts
  have trailing := Reading.trailing_of_spelled (h.document_plain.spelled_pretty 0) more rest
  obtain ⟨f, trails⟩ := Option.isSome_iff_exists.mp trailing
  have whole : (s.write ++ text).toList = s.document.pretty 0 ++ c :: rest := by
    rw [String.toList_append, write, String.toList_ofList, characters]
  intro parsed
  rw [parse, Reading.parse, whole] at parsed
  cases read : layout.ofNode (Reading.ofText (s.document.pretty 0 ++ c :: rest)).root with
  | error g => simp only [read] at parsed; cases parsed
  | ok u => simp only [read, trails] at parsed; cases parsed

end Summary

namespace Results

variable {d d' : Disk} {folder path : String} {s : Summary}

theorem save_parts (h : save d folder s = .ok (path, d')) : ∃ e, d.makeFolders folder = .ok e ∧
    e.write (Disk.join folder fileName) s.write.toUTF8 = .ok d' ∧ path = Disk.join folder fileName := by
  obtain ⟨e, made, h⟩ := exists_of_bind_ok h
  obtain ⟨e', written, h⟩ := exists_of_bind_ok h
  cases h
  exact ⟨e, Disk.mapError_eq_ok_iff.mp made, Disk.mapError_eq_ok_iff.mp written, rfl⟩

theorem save_eq_ok {e : Disk} (made : d.makeFolders folder = .ok e)
    (written : e.write (Disk.join folder fileName) s.write.toUTF8 = .ok d') :
    save d folder s = .ok (Disk.join folder fileName, d') := by
  have first : (d.makeFolders folder).mapError Failure.io = .ok e := Disk.mapError_eq_ok_iff.mpr made
  have second : (e.write (Disk.join folder fileName) s.write.toUTF8).mapError Failure.io = .ok d' :=
    Disk.mapError_eq_ok_iff.mpr written
  simp only [save, first, bind, Except.bind, second]
  rfl

end Results

end Rehearsal
