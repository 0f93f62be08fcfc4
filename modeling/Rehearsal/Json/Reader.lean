import Rehearsal.Json.Node

/-!
Readers of nodes. A reader gives a value or the first fault, in the order of the text, that stands in
its way. `skim` is the reader that skips, `document` the one that wants everything.
-/
namespace Rehearsal.Json

namespace Node

/-- The fault of a node where `expected` should stand. -/
def refuse (node : Node) (expected : String) : Fault :=
  match node with
  | .null stop => ⟨.wrongType .null expected, stop⟩
  | .bool b stop => ⟨.wrongType (.bool b) expected, stop⟩
  | .number (.ok n) stop => ⟨.wrongType n.found expected, stop⟩
  | .string (.ok s) stop => ⟨.wrongType (.text s) expected, stop⟩
  | .number (.error f) _ => f
  | .string (.error f) _ => f
  | .array start _ => ⟨.wrongType .sequence expected, start⟩
  | .object start _ => ⟨.wrongType .map expected, start⟩
  | .broken wanted _ => wanted

def text? : Node → Except Fault String
  | .string content _ => content
  | node => .error (node.refuse "a string")

/-- An unsigned number of 64 bits. -/
def word64 : Node → Except Fault Nat
  | .number (.ok (.integer n)) stop =>
    if 0 ≤ n then .ok n.toNat else .error ⟨.wrongValue (.integer n) "u64", stop⟩
  | node => .error (node.refuse "u64")

def nullable (read : Node → Except Fault α) : Node → Except Fault (Option α)
  | .null _ => .ok none
  | node => some <$> read node

end Node

def Elements.collect (read : Node → Except Fault α) : Elements → Except Fault (List α)
  | .closed _ => .ok []
  | .torn wanted _ _ => .error wanted
  | .next _ node _ rest => do
    let a ← read node
    return a :: (← rest.collect read)

def Node.list (read : Node → Except Fault α) : Node → Except Fault (List α)
  | .array _ elements => elements.collect read
  | node => .error (node.refuse "a sequence")

mutual

/-- Skips a value. -/
def Node.skim : Node → Except Fault Unit
  | .array _ elements => elements.skim
  | .object _ members => members.skim
  | .broken _ skipped => .error skipped
  | _ => .ok ()

def Elements.skim : Elements → Except Fault Unit
  | .closed _ => .ok ()
  | .torn _ skipped _ => .error skipped
  | .next _ node _ rest => do node.skim; rest.skim

def Members.skim : Members → Except Fault Unit
  | .closed _ => .ok ()
  | .torn _ skipped => .error skipped
  | .next _ _ node _ rest => do node.skim; rest.skim

end

mutual

/-- The whole value, with at most `room` brackets open at a time. -/
def Node.document (room : Nat) : Node → Except Fault Document
  | .null _ => .ok .null
  | .bool b _ => .ok (.bool b)
  | .number content _ => Document.number <$> content
  | .string content _ => Document.string <$> content
  | .array start elements =>
    if room = 0 then .error ⟨.tooDeep, start + 1⟩
    else Document.array <$> elements.documents (room - 1)
  | .object start members =>
    if room = 0 then .error ⟨.tooDeep, start + 1⟩
    else Document.object <$> members.documents (room - 1)
  | .broken wanted _ => .error wanted

def Elements.documents (room : Nat) : Elements → Except Fault (List Document)
  | .closed _ => .ok []
  | .torn wanted _ _ => .error wanted
  | .next _ node _ rest => do
    let d ← node.document room
    return d :: (← rest.documents room)

def Members.documents (room : Nat) : Members → Except Fault (List (String × Document))
  | .closed _ => .ok []
  | .torn wanted _ => .error wanted
  | .next key _ node _ rest => do
    let k ← key
    let d ← node.document room
    return (k, d) :: (← rest.documents room)

end

/-- How many brackets may be open at a time. -/
def maxDepth : Nat := 127

/-- A text as a document of any shape. -/
def parseDocument (text : String) : Except Report Document :=
  Reading.parse (Node.document maxDepth) text

end Rehearsal.Json
