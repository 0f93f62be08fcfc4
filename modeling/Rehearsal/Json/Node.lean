import Rehearsal.Json.Document

/-!
JSON texts read with their places and their faults. Which faults count depends on the reader: one
who wants a value stops at the first fault in it, while one who skips a value does not mind lone
surrogates, numbers without range or deep nesting, and words some faults differently. So a node
keeps, where something is wrong, what it means to either reader, and no reading of a text fails.
-/
namespace Rehearsal.Json

mutual

/-- A value as it stands in the text. -/
inductive Node
  | null (stop : Nat)
  | bool (b : Bool) (stop : Nat)
  /-- The content counts only for those who want the value. -/
  | number (content : Except Fault Number) (stop : Nat)
  | string (content : Except Fault String) (stop : Nat)
  | array (start : Nat) (elements : Elements)
  | object (start : Nat) (members : Members)
  /-- No value: the fault for those who want one and for those who skip one. -/
  | broken (wanted skipped : Fault)

inductive Elements
  | closed (stop : Nat)
  /-- No further element; `finished` is the fault for those who want no more of them. -/
  | torn (wanted skipped finished : Fault)
  /-- `settled` is the place for complaints about the element that have none of their own. -/
  | next (start : Nat) (node : Node) (settled : Nat) (rest : Elements)

inductive Members
  | closed (stop : Nat)
  | torn (wanted skipped : Fault)
  /-- `named` and `settled` are the places for complaints about the key and about the value. -/
  | next (key : Except Fault String) (named : Nat) (node : Node) (settled : Nat) (rest : Members)

end

namespace Cursor

/-- Where complaints about a member land: behind the gap, and behind a closing brace that is next. -/
def settleMember (c : Cursor) : Nat :=
  (c.skipGaps.pass '\x7d').offset

/-- Where complaints about an element land: behind a closing bracket, or a comma and its gap. -/
def settleElement (c : Cursor) : Nat :=
  let c := c.skipGaps
  match c.eat? ',' with
  | some c => c.skipGaps.offset
  | none => (c.pass ']').offset

end Cursor

namespace Node

def both (f : Fault) : Node := .broken f f

/-- One of the words `null`, `true` and `false`, whose first letter is next. -/
def readWord (c : Cursor) : List Char → Except Fault Cursor
  | [] => .ok c
  | x :: xs =>
    match c.eat? x with
    | some c => readWord c xs
    | none => .error (c.fault (if c.rest.isEmpty then .endInValue else .wordExpected))

def word (c : Cursor) (w : String) (node : Nat → Node) : Node × Cursor :=
  match readWord c w.toList with
  | .ok c => (node c.offset, c)
  | .error f => (both f, c)

def numeral (c : Cursor) : Node × Cursor :=
  match Numeral.read c with
  | .ok (n, c) => (.number (n.value c.offset) c.offset, c)
  | .error c => (.broken (Numeral.slip c) (c.fault .badNumber), c)

/-- A string behind its opening quote: its content, and its end for those who skip it. -/
def quotation (c : Cursor) : Except Fault String × Except Fault Cursor :=
  match Quotation.read c.rest c.offset with
  | .ok (s, c) => (.ok (String.ofList s), .ok c)
  | .error f => (.error f, Quotation.skip c.rest c.offset)

/-- The fault that those who want a string and those who skip it see in a broken one. -/
def wantedFault (content : Except Fault String) (skipped : Fault) : Fault :=
  match content with
  | .error f => f
  | .ok _ => skipped

def text (c : Cursor) : Node × Cursor :=
  match quotation c with
  | (content, .ok c) => (.string content c.offset, c)
  | (content, .error f) => (.broken (wantedFault content f) f, c)

end Node

mutual

/-- Reads a value. The fuel bounds the depth of the recursion. -/
def readNode : Nat → Cursor → Node × Cursor
  | 0, c => (Node.both (c.fault .valueExpected), c)
  | fuel + 1, c =>
    let c := c.skipGaps
    match c.rest with
    | [] => (Node.both (c.fault .endInValue), c)
    | 'n' :: _ => Node.word c "null" .null
    | 't' :: _ => Node.word c "true" (.bool true)
    | 'f' :: _ => Node.word c "false" (.bool false)
    | '"' :: _ => Node.text (c.pass '"')
    | '[' :: _ =>
      let (elements, rest) := readElements fuel (c.pass '[') true
      (.array c.offset elements, rest)
    | '\x7b' :: _ =>
      let (members, rest) := readMembers fuel (c.pass '\x7b') true
      (.object c.offset members, rest)
    | x :: _ =>
      if x = '-' || x.isDigit then Node.numeral c else (Node.both (c.fault .valueExpected), c)

/-- Reads the elements of an array from behind the bracket or behind an element. -/
def readElements : Nat → Cursor → Bool → Elements × Cursor
  | 0, c, _ => let f := c.fault .valueExpected; (.torn f f f, c)
  | fuel + 1, c, first =>
    let c := c.skipGaps
    match c.rest, first with
    | [], _ => let f := c.fault .endInList; (.torn f f f, c)
    | ']' :: _, _ => let c := c.pass ']'; (.closed c.offset, c)
    | _, true => readElement fuel c
    | ',' :: _, false =>
      let c := (c.pass ',').skipGaps
      match c.rest with
      | [] =>
        let f := c.fault .endInValue
        (.torn f f (c.fault .trailingCharacters), c)
      | ']' :: _ =>
        (.torn (c.fault .trailingComma) (c.fault .valueExpected) (c.fault .trailingComma), c)
      | _ => readElement fuel c
    | _, false =>
      let f := c.fault .listGoesOn
      (.torn f f (c.fault .trailingCharacters), c)

def readElement : Nat → Cursor → Elements × Cursor
  | 0, c => let f := c.fault .valueExpected; (.torn f f f, c)
  | fuel + 1, c =>
    match readNode fuel c with
    | (.broken wanted skipped, c') =>
      (.next c.offset (.broken wanted skipped) c'.offset (.torn wanted skipped wanted), c')
    | (node, c') =>
      let (rest, c'') := readElements fuel c' false
      (.next c.offset node c'.settleElement rest, c'')

def readMembers : Nat → Cursor → Bool → Members × Cursor
  | 0, c, _ => let f := c.fault .valueExpected; (.torn f f, c)
  | fuel + 1, c, first =>
    let c := c.skipGaps
    match c.rest, first with
    | [], _ => let f := c.fault .endInObject; (.torn f f, c)
    | '\x7d' :: _, _ => let c := c.pass '\x7d'; (.closed c.offset, c)
    | '"' :: _, true => readMember fuel c
    | _, true => let f := c.fault .keyExpected; (.torn f f, c)
    | ',' :: _, false =>
      let c := (c.pass ',').skipGaps
      match c.rest with
      | [] => (.torn (c.fault .endInValue) (c.fault .endInObject), c)
      | '"' :: _ => readMember fuel c
      | '\x7d' :: _ => (.torn (c.fault .trailingComma) (c.fault .keyExpected), c)
      | _ => let f := c.fault .keyExpected; (.torn f f, c)
    | _, false => let f := c.fault .objectGoesOn; (.torn f f, c)

def readMember : Nat → Cursor → Members × Cursor
  | 0, c => let f := c.fault .valueExpected; (.torn f f, c)
  | fuel + 1, c =>
    match Node.quotation (c.pass '"') with
    | (content, .error f) => (.torn (Node.wantedFault content f) f, c)
    | (content, .ok c) =>
      let named := c.settleMember
      let c := c.skipGaps
      match c.eat? ':' with
      | none =>
        let f := c.fault (if c.rest.isEmpty then .endInObject else .colonExpected)
        (.next content named (Node.both f) c.offset (.torn f f), c)
      | some c =>
        match readNode fuel c with
        | (.broken wanted skipped, c') =>
          (.next content named (.broken wanted skipped) c'.offset (.torn wanted skipped), c')
        | (node, c') =>
          let (rest, c'') := readMembers fuel c' false
          (.next content named node c'.settleMember rest, c'')

end

/-- A whole text: its value, and the fault of what follows the value if anything does. -/
structure Reading where
  root : Node
  trailing : Option Fault

/-- Three levels of the recursion read a nested value, and each bracket takes a character. -/
def Reading.ofText (s : List Char) : Reading :=
  let (root, c) := readNode (3 * s.length + 3) (.ofText s)
  let c := c.skipGaps
  ⟨root, if c.rest.isEmpty then none else some (c.fault .trailingCharacters)⟩

/-- What a reader makes of a whole text: the value has to end the text. -/
def Reading.parse (read : Node → Except Fault α) (text : String) : Except Report α :=
  let r := Reading.ofText text.toList
  match read r.root, r.trailing with
  | .error f, _ => .error (f.locate text.toList)
  | .ok _, some f => .error (f.locate text.toList)
  | .ok a, none => .ok a

end Rehearsal.Json
