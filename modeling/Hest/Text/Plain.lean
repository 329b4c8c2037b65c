/-!
# Plain text

A text that is written where no terminal shows it leaves out what only a terminal understands:
control characters other than white space, and the sequences that an escape character begins.

White space shows in the midst of an escape sequence too, and then so does the text after it, up to
the next character that does not show.  What happens there is a choice: either the sequence is over,
or it resumes.
-/

namespace Hest.Text

/-- Where a reader of terminal text is. -/
inductive Mode where
  /-- In text that shows. -/
  | ground
  /-- After an escape character. -/
  | escape
  /-- In the intermediate characters of an escape sequence. -/
  | intermediate
  /-- In a control sequence. -/
  | control
  /-- In an order to the system around the terminal: to a bell. -/
  | order
  /-- At the start of a string for a device. -/
  | device
  /-- In the parameters of a string for a device. -/
  | deviceParameter
  /-- In the intermediate characters of a string for a device. -/
  | deviceIntermediate
  /-- In a string that says nothing to a reader: to the byte that ends strings. -/
  | ignored
deriving DecidableEq

/-- White space that shows even in an escape sequence. -/
def blank (c : Char) : Bool := c = '\t' || c = '\n' || c = '\r' || c = '\x0c'

/-- Whether a character holds, among its bytes, the one that ends strings. -/
def endsString (c : Char) : Bool := (String.utf8EncodeChar c).contains 0x9c

/-- Whether the code point of a character lies in a range. -/
def within (first last : Nat) (c : Char) : Bool := first ≤ c.toNat && c.toNat ≤ last

/-- The mode after a character that does not show in this mode.  An escape character begins a
sequence, and two other control characters end one, in any mode. -/
def Mode.next (mode : Mode) (c : Char) : Mode :=
  if c = '\x1b' then .escape
  else if c = '\x18' || c = '\x1a' then .ground
  else match mode with
  | .ground => .ground
  | .escape =>
    if within 0x20 0x2f c then .intermediate
    else if c = '[' then .control
    else if c = ']' then .order
    else if c = 'P' then .device
    else if c = 'X' || c = '^' || c = '_' then .ignored
    else if within 0x30 0x7e c then .ground
    else .escape
  | .intermediate => if within 0x30 0x7e c then .ground else .intermediate
  | .control => if within 0x40 0x7e c then .ground else .control
  | .order => if c = '\x07' then .ground else .order
  | .device =>
    if within 0x20 0x2f c then .deviceIntermediate
    else if within 0x30 0x3f c then .deviceParameter
    else if within 0x40 0x7e c then .ignored
    else .device
  | .deviceParameter =>
    if within 0x20 0x2f c then .deviceIntermediate
    else if within 0x3c 0x7e c then .ignored
    else .deviceParameter
  | .deviceIntermediate => if within 0x30 0x7e c then .ignored else .deviceIntermediate
  | .ignored => if endsString c then .ground else .ignored

/-- Whether a character shows in a mode. -/
def Mode.shows (mode : Mode) (c : Char) : Bool :=
  match mode with
  | .ground => (0x20 ≤ c.toNat && c ≠ '\x7f') || blank c
  | .escape | .intermediate | .control => blank c
  | _ => false

/-- The characters that show, from a mode on; `shown` tells whether the character before did.  With
`resumes` a sequence that text interrupts goes on after it, unless the text is more than ASCII. -/
def visible (resumes : Bool) (mode : Mode) (shown : Bool) : List Char → List Char
  | [] => []
  | c :: cs =>
    if (if shown then Mode.ground else mode).shows c then
      c :: visible resumes (if resumes && c.toNat < 0x80 then mode else .ground) true cs
    else visible resumes (mode.next c) false cs

/-- The text without what only a terminal understands; `resumes` tells whether a sequence that text
interrupts goes on after it. -/
def plain (resumes : Bool) (s : String) : String :=
  String.ofList (visible resumes .ground false s.toList)

end Hest.Text
