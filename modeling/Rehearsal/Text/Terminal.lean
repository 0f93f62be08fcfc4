import Rehearsal.Text.Quoted

/-!
Texts that are shown on a terminal. The characters with which a terminal can be told to do something
else than to show a character are written as escapes; line feeds and tabulators stay.
-/
namespace Rehearsal.Text.Terminal

/-- Controls of one byte that a terminal acts on: bell, backspace, form feed, escape, delete. -/
def controls : List Char := ['\x07', '\x08', '\x0c', '\x1b', '\x7f']

/-- Controls of the second block, some of which begin a sequence like an escape does. -/
def isLateControl (c : Char) : Bool := 0x80 ≤ c.toNat && c.toNat ≤ 0x9F

def escape (c : Char) : List Char :=
  if controls.contains c then
    ['\\', 'x', Nat.digitChar (c.toNat / 16), Nat.digitChar (c.toNat % 16)]
  else if isLateControl c then ['\\', 'u', '\x7b'] ++ Quoted.hex c.toNat ++ ['\x7d']
  else [c]

end Rehearsal.Text.Terminal

namespace Rehearsal.Text

def onTerminal (s : String) : String :=
  String.ofList (s.toList.flatMap Terminal.escape)

end Rehearsal.Text
