/-!
# Texts without control sequences

A text that comes from outside may hold control characters and the sequences with
which a terminal is steered.  Before it is shown they are taken out, so that it
can do no more than be read.  What is left are the characters that show something
and the tab, the line feed, the form feed and the carriage return.

A sequence begins with the escape character, and what follows tells how far it
goes.  Another escape character begins a new sequence wherever it stands, and two
control characters, cancel and substitute, end any.  The four blanks that are left
in a text show inside a short sequence too.  What follows them shows as well, but the
sequence has not ended: the next control character takes it up again, and the
characters behind that belong to it.

## Main definitions

* `Sequence` — the kinds of sequences, and what they are read as so far.
* `Terminal` — what comes next: text, or the rest of a sequence.
* `Terminal.next` — one more character.
* `withoutControls` — what shows of a text.
-/

namespace Retrograde.Text

/-! ### Characters -/

/-- The character that begins a sequence. -/
def escapeCharacter : Char := '\x1b'

/-- The control characters that end any sequence. -/
def isCancel (c : Char) : Bool := c == '\x18' || c == '\x1a'

/-- The control characters that show: the tab, the line feed, the form feed and the
carriage return. -/
def isShownControl (c : Char) : Bool := c == '\t' || c == '\n' || c == '\x0c' || c == '\r'

/-- Whether a character shows where it stands in no sequence. -/
def isShown (c : Char) : Bool := (0x20 ≤ c.toNat && c.toNat != 0x7F) || isShownControl c

/-- Whether a character is beyond ASCII. -/
def isWide (c : Char) : Bool := 0x80 ≤ c.toNat

/-- Whether the byte `9C`, which ends some sequences, is in the encoded form of a
character. -/
def holdsTerminator (c : Char) : Bool := (String.utf8EncodeChar c).contains 0x9C

/-! ### Sequences -/

/-- What a sequence is read as so far. -/
inductive Sequence where
  /-- The escape character has come. -/
  | escape
  /-- An escape sequence with something between its first character and its last. -/
  | intermediate
  /-- A control sequence, up to its final letter. -/
  | control
  /-- A device control string has begun. -/
  | deviceStart
  /-- A device control string in its parameters. -/
  | deviceParameters
  /-- A device control string in the marks behind its parameters. -/
  | deviceMarks
  /-- The body of a device control string, behind its letter or behind what does not
  belong in front of one. -/
  | deviceBody
  /-- A command to the system, which a bell ends. -/
  | command
  /-- A message to an application. -/
  | message
  deriving DecidableEq, Repr, Inhabited

/-- What the next character belongs to. -/
inductive Terminal where
  /-- The text. -/
  | ground
  /-- A sequence. -/
  | inside (q : Sequence)
  /-- The text, but the sequence before it has not come to its end. -/
  | interrupted (q : Sequence)
  deriving DecidableEq, Repr, Inhabited

namespace Sequence

/-- Whether the control characters that show do so inside the sequence. -/
def isShort : Sequence → Bool
  | escape => true
  | intermediate => true
  | control => true
  | deviceStart => false
  | deviceParameters => false
  | deviceMarks => false
  | deviceBody => false
  | command => false
  | message => false

/-- The sequence that an escape character and a further one begin. -/
def opened (c : Char) : Terminal :=
  if c = '[' then .inside control
  else if c = ']' then .inside command
  else if c = 'P' then .inside deviceStart
  else if c = 'X' ∨ c = '^' ∨ c = '_' then .inside message
  else if c.toNat < 0x20 ∨ c.toNat = 0x7F then .inside escape
  else if c.toNat < 0x30 then .inside intermediate
  else .ground

/-- What follows a character of ASCII in the head of a device control string.  There
are digits, colons and semicolons first, before which one of the signs `<`, `=`, `>` and
`?` may stand, then marks, then a letter; anything else already belongs to the body. -/
def afterInHead (q : Sequence) (c : Char) : Sequence :=
  if c.toNat < 0x20 ∨ c.toNat = 0x7F then q
  else if c.toNat < 0x30 then deviceMarks
  else if q ≠ deviceMarks ∧ 0x30 ≤ c.toNat ∧ c.toNat < 0x3C then deviceParameters
  else if q = deviceStart ∧ 0x3C ≤ c.toNat ∧ c.toNat < 0x40 then deviceParameters
  else deviceBody

/-- What follows a character of ASCII in a sequence. -/
def after (q : Sequence) (c : Char) : Terminal :=
  match q with
  | escape => opened c
  | intermediate => if 0x30 ≤ c.toNat ∧ c.toNat < 0x7F then .ground else .inside intermediate
  | control => if 0x40 ≤ c.toNat ∧ c.toNat < 0x7F then .ground else .inside control
  | deviceStart => .inside (q.afterInHead c)
  | deviceParameters => .inside (q.afterInHead c)
  | deviceMarks => .inside (q.afterInHead c)
  | deviceBody => .inside deviceBody
  | command => if c = '\x07' then .ground else .inside command
  | message => .inside message

/-- What follows a character beyond ASCII in a sequence. -/
def afterWide (q : Sequence) (c : Char) : Terminal :=
  if (q = deviceBody ∨ q = message) ∧ holdsTerminator c then .ground else .inside q

end Sequence

/-! ### One character after another -/

namespace Terminal

/-- What follows a character, and whether the character shows. -/
def next (t : Terminal) (c : Char) : Terminal × Bool :=
  if c = escapeCharacter then (.inside .escape, false)
  else if isCancel c then (.ground, false)
  else match t with
    | ground => (.ground, isShown c)
    | interrupted q =>
      if isWide c then (.ground, true)
      else if isShown c then (.interrupted q, true)
      else (.inside q, false)
    | inside q =>
      if isWide c then (q.afterWide c, false)
      else if q.isShort && isShownControl c then (.interrupted q, true)
      else (q.after c, false)

/-- What shows of the characters that come. -/
def shown (t : Terminal) : List Char → List Char
  | [] => []
  | c :: cs =>
    let n := t.next c
    if n.2 then c :: n.1.shown cs else n.1.shown cs

end Terminal

/-- What shows of a text. -/
def withoutControls (s : String) : String := String.ofList (Terminal.ground.shown s.toList)

end Retrograde.Text
