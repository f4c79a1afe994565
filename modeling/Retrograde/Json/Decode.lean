import Retrograde.Json
import Retrograde.Text.Hexadecimal

/-!
# Reading JSON

A decoder for any JSON text, whatever blanks stand between its parts and however
its texts are escaped.  It knows nothing of the indented form, so what it reads
from a document is what the document says to everyone.

## Main definitions

* `Json.decode?` — the value that a text writes, nothing if it is not JSON.
-/

namespace Retrograde.Json

/-- The characters that may stand between the parts of a document. -/
def isSpace (c : Char) : Bool := c == ' ' || c == '\n' || c == '\r' || c == '\t'

/-- The text behind the blanks at its start. -/
def skipSpace (cs : List Char) : List Char := cs.dropWhile isSpace

/-! ### Texts -/

/-- The number that four hexadecimal digits write. -/
def hexValue4? (a b c d : Char) : Option Nat :=
  match Text.hexValue? a, Text.hexValue? b, Text.hexValue? c, Text.hexValue? d with
  | some a, some b, some c, some d => some (((a * 16 + b) * 16 + c) * 16 + d)
  | _, _, _, _ => none

/-- The character that a backslash and a letter stand for. -/
def unescape? : Char → Option Char
  | '"' => some '"'
  | '\\' => some '\\'
  | '/' => some '/'
  | 'b' => some '\x08'
  | 'f' => some '\x0c'
  | 'n' => some '\n'
  | 'r' => some '\r'
  | 't' => some '\t'
  | _ => none

/-- Whether a number is the first half of a surrogate pair. -/
def isHighSurrogate (n : Nat) : Bool := 0xD800 ≤ n && n < 0xDC00

/-- Whether a number is the second half of a surrogate pair. -/
def isLowSurrogate (n : Nat) : Bool := 0xDC00 ≤ n && n < 0xE000

/-- The rest of a text behind its opening quotation mark, and what follows its
closing one. -/
def textBody : List Char → Option (List Char × List Char)
  | [] => none
  | '"' :: rest => some ([], rest)
  | '\\' :: 'u' :: a :: b :: c :: d :: rest =>
    match hexValue4? a b c d with
    | none => none
    | some n =>
      if isHighSurrogate n then
        match rest with
        | '\\' :: 'u' :: e :: f :: g :: h :: rest =>
          match hexValue4? e f g h with
          | none => none
          | some m =>
            if isLowSurrogate m then
              (textBody rest).map fun p =>
                (Char.ofNat ((n - 0xD800) * 0x400 + (m - 0xDC00) + 0x10000) :: p.1, p.2)
            else none
        | _ => none
      else if isLowSurrogate n then none
      else (textBody rest).map fun p => (Char.ofNat n :: p.1, p.2)
  | '\\' :: e :: rest =>
    match unescape? e with
    | none => none
    | some c => (textBody rest).map fun p => (c :: p.1, p.2)
  | c :: rest =>
    if c = '\\' ∨ c.toNat < 0x20 then none
    else (textBody rest).map fun p => (c :: p.1, p.2)

/-! ### Numbers -/

/-- Digits, at least one, and what follows them. -/
def digits? (cs : List Char) : Option (List Char × List Char) :=
  match cs.takeWhile Char.isDigit with
  | [] => none
  | d :: ds => some (d :: ds, cs.dropWhile Char.isDigit)

/-- The whole part of a number: a zero alone, or digits that begin with another. -/
def wholePart? : List Char → Option (List Char × List Char)
  | '0' :: rest => some (['0'], rest)
  | cs => digits? cs

/-- The decimal part of a number, if a point begins one. -/
def decimalPart? : List Char → Option (List Char × List Char)
  | '.' :: rest => (digits? rest).map fun p => ('.' :: p.1, p.2)
  | cs => some ([], cs)

/-- The exponent of a number, if a letter begins one. -/
def exponent? : List Char → Option (List Char × List Char)
  | e :: s :: rest =>
    if e = 'e' ∨ e = 'E' then
      if s = '+' ∨ s = '-' then (digits? rest).map fun p => (e :: s :: p.1, p.2)
      else (digits? (s :: rest)).map fun p => (e :: p.1, p.2)
    else some ([], e :: s :: rest)
  | cs => some ([], cs)

/-- A number and what follows it. -/
def number? (cs : List Char) : Option (List Char × List Char) := do
  let sign := cs.takeWhile (· == '-') |>.take 1
  let (whole, rest) ← wholePart? (cs.drop sign.length)
  let (decimal, rest) ← decimalPart? rest
  let (exponent, rest) ← exponent? rest
  return (sign ++ whole ++ decimal ++ exponent, rest)

/-! ### Values -/

mutual

/-- A value and what follows it; `fuel` bounds how deep it is nested. -/
def value? (fuel : Nat) (cs : List Char) : Option (Json × List Char) :=
  match fuel with
  | 0 => none
  | fuel + 1 =>
    match skipSpace cs with
    | '"' :: rest => (textBody rest).map fun p => (.string (String.ofList p.1), p.2)
    | '[' :: rest =>
      match skipSpace rest with
      | ']' :: rest => some (.array [], rest)
      | rest => (items? fuel rest).map fun p => (.array p.1, p.2)
    | '\x7b' :: rest =>
      match skipSpace rest with
      | '\x7d' :: rest => some (.object [], rest)
      | rest => (members? fuel rest).map fun p => (.object p.1, p.2)
    | 'n' :: 'u' :: 'l' :: 'l' :: rest => some (.null, rest)
    | 't' :: 'r' :: 'u' :: 'e' :: rest => some (.bool true, rest)
    | 'f' :: 'a' :: 'l' :: 's' :: 'e' :: rest => some (.bool false, rest)
    | cs => (number? cs).map fun p => (.number (String.ofList p.1), p.2)

/-- The items of an array up to its end, at least one. -/
def items? (fuel : Nat) (cs : List Char) : Option (List Json × List Char) :=
  match fuel with
  | 0 => none
  | fuel + 1 =>
    match value? fuel cs with
    | none => none
    | some (v, rest) =>
      match skipSpace rest with
      | ',' :: rest => (items? fuel rest).map fun p => (v :: p.1, p.2)
      | ']' :: rest => some ([v], rest)
      | _ => none

/-- The members of an object up to its end, at least one. -/
def members? (fuel : Nat) (cs : List Char) : Option (List (String × Json) × List Char) :=
  match fuel with
  | 0 => none
  | fuel + 1 =>
    match skipSpace cs with
    | '"' :: rest =>
      match textBody rest with
      | none => none
      | some (name, rest) =>
        match skipSpace rest with
        | ':' :: rest =>
          match value? fuel rest with
          | none => none
          | some (v, rest) =>
            match skipSpace rest with
            | ',' :: rest =>
              (members? fuel rest).map fun p => ((String.ofList name, v) :: p.1, p.2)
            | '\x7d' :: rest => some ([(String.ofList name, v)], rest)
            | _ => none
        | _ => none
    | _ => none

end

/-- The value that a text writes.  A value is no deeper nested than its text is
long, so the length of the text is fuel enough. -/
def decode? (s : String) : Option Json :=
  match value? (s.length + 1) s.toList with
  | none => none
  | some (v, rest) => if (skipSpace rest).isEmpty then some v else none

end Retrograde.Json
