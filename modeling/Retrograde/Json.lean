/-!
# JSON documents and their indented form

A JSON value and its text over several lines: each item of an array and each
member of an object stands on a line of its own, two blanks further in than what
holds it, and an array or an object without anything in it is closed where it was
opened.  In a text the quotation mark, the backslash and the control characters
are escaped and everything else stands as it is.  The text is made in pieces, in
the order in which they are written, so that a writer may refuse any of them.

## Main definitions

* `Json` — a JSON value; the members of an object keep their order.
* `Json.quote` — a text as JSON.
* `Json.pieces` — the pieces of the indented form.
-/

namespace Retrograde

/-- A JSON value.  A number is kept as it is written. -/
inductive Json where
  /-- No value. -/
  | null
  /-- A truth value. -/
  | bool (b : Bool)
  /-- A number, by its digits. -/
  | number (literal : String)
  /-- A text. -/
  | string (s : String)
  /-- Values in a row. -/
  | array (items : List Json)
  /-- Named values in a row. -/
  | object (members : List (String × Json))
  deriving Repr, Inhabited

namespace Json

/-! ### Texts -/

/-- A character inside the quotation marks. -/
def escape (c : Char) : List Char :=
  if c = '"' then ['\\', '"']
  else if c = '\\' then ['\\', '\\']
  else if c = '\x08' then ['\\', 'b']
  else if c = '\t' then ['\\', 't']
  else if c = '\n' then ['\\', 'n']
  else if c = '\x0c' then ['\\', 'f']
  else if c = '\r' then ['\\', 'r']
  else if c.toNat < 0x20 then
    ['\\', 'u', '0', '0', Nat.digitChar (c.toNat / 16), Nat.digitChar (c.toNat % 16)]
  else [c]

/-- A text between quotation marks. -/
def quote (s : String) : String :=
  String.ofList ('"' :: s.toList.flatMap escape ++ ['"'])

/-! ### The indented form -/

/-- The end of a line and the blanks before the next one. -/
def newline (depth : Nat) : String :=
  String.ofList ('\n' :: List.replicate (2 * depth) ' ')

mutual

/-- The pieces of the indented form of a value that stands at a depth. -/
def pieces (depth : Nat) : Json → List String
  | null => ["null"]
  | bool true => ["true"]
  | bool false => ["false"]
  | number literal => [literal]
  | string s => [quote s]
  | array [] => ["[]"]
  | array (v :: vs) =>
    "[" :: newline (depth + 1) :: pieces (depth + 1) v ++ itemPieces (depth + 1) vs ++
      [newline depth, "]"]
  | object [] => ["\x7b\x7d"]
  | object ((name, v) :: ms) =>
    "\x7b" :: newline (depth + 1) :: quote name :: ": " :: pieces (depth + 1) v ++
      memberPieces (depth + 1) ms ++ [newline depth, "\x7d"]

/-- The pieces of the further items of an array. -/
def itemPieces (depth : Nat) : List Json → List String
  | [] => []
  | v :: vs => "," :: newline depth :: pieces depth v ++ itemPieces depth vs

/-- The pieces of the further members of an object. -/
def memberPieces (depth : Nat) : List (String × Json) → List String
  | [] => []
  | (name, v) :: ms =>
    "," :: newline depth :: quote name :: ": " :: pieces depth v ++ memberPieces depth ms

end

end Json

end Retrograde
