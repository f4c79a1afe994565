import Retrograde.Log.Event
import Retrograde.Log.Pattern
import Retrograde.Text.Utf8

/-!
# Directives

A directive says how much some modules show.  It is written as a threshold, which
holds everywhere, or as a target, which holds for the modules whose path begins
with it, or as a target, an equals sign and a threshold; a target without a
threshold shows everything.

Between the target and the threshold there may be brackets with the name of a span
and, in braces, the name of a datum.  With a datum the directive holds for the
events that have it and for no others.  With a span, or with a value that the datum
should have, it is about spans; of those a run has none, so such a directive holds
for no event.

Blanks around a directive are passed over to find its parts, but a part is then taken
from the whole text, from as many bytes behind its start as the part has in front of
it without the blanks.  So blanks in front of a directive displace its parts.

## Main definitions

* `Directive` — what shows how much.
* `Directive.read?` — the directive that a text writes.
* `Directive.holdsFor` — the events that the directive is about.
* `Directive.isCloser` — which of two directives says more about an event.
-/

namespace Retrograde.Log

/-- A threshold for some events. -/
structure Directive where
  /-- What the paths of the modules begin with, nothing for all modules. -/
  target : Option String
  /-- The datum that the events have, nothing for all events. -/
  datum : Option String
  /-- Whether the directive is about spans and not about events. -/
  aboutSpans : Bool
  /-- The finest severity that is shown. -/
  threshold : Threshold
  deriving DecidableEq, Repr, Inhabited

namespace Directive

/-- A threshold for all events. -/
def ofThreshold (t : Threshold) : Directive := ⟨none, none, false, t⟩

/-! ### What a directive is about -/

/-- Whether the path of a module begins with the target. -/
def holdsForModule (d : Directive) (module : String) : Bool :=
  match d.target with
  | none => true
  | some target => target.toList.isPrefixOf module.toList

/-- Whether the datum is among some. -/
def holdsForData (d : Directive) (names : List String) : Bool :=
  match d.datum with
  | none => true
  | some name => names.contains name

/-- Whether the directive holds for an event. -/
def holdsFor (d : Directive) (e : Event) : Bool :=
  !d.aboutSpans && d.holdsForModule e.module && d.holdsForData e.dataNames

/-- How closely the directive names a module; all modules are named least closely. -/
def closeness (d : Directive) : Nat :=
  match d.target with
  | none => 0
  | some target => target.length + 1

/-- Whether the datum of one directive comes before that of another; none comes before
any. -/
def datumBefore (d e : Directive) : Bool :=
  match d.datum, e.datum with
  | none, none => false
  | none, some _ => true
  | some _, none => false
  | some a, some b => decide (a < b)

/-- Whether a directive says more about an event than another that holds for it too:
it names the module more closely or, if they name it alike, its datum comes later. -/
def isCloser (d e : Directive) : Bool :=
  decide (e.closeness < d.closeness) || (e.closeness == d.closeness && e.datumBefore d)

/-! ### Reading -/

/-- The characters that a target may begin with. -/
def isTargetStart (c : Char) : Bool :=
  Text.isAlphanumeric c || c == '-' || c == ':' || c == '_'

/-- Whether some characters are a number of any kind behind a plus sign, which no
pattern begins with. -/
def isPlusNumber : List Char → Bool
  | '+' :: cs =>
    let word := String.ofList (cs.map Char.toLower)
    if word ∈ ["inf", "infinity", "nan"] then true
    else
      let exponent := cs.dropWhile fun c => c != 'e' && c != 'E'
      let mantissa := cs.takeWhile fun c => c != 'e' && c != 'E'
      let digits := match exponent.drop 1 with
        | '+' :: ds => ds
        | '-' :: ds => ds
        | ds => ds
      mantissa.any Char.isDigit && (mantissa.filter (· != '.')).all Char.isDigit &&
        Nat.ble (mantissa.count '.') 1 &&
        (exponent.isEmpty || (!digits.isEmpty && digits.all Char.isDigit))
  | _ => false

/-- How many bytes some characters have. -/
def size (cs : List Char) : Nat := (Text.Utf8.encode cs).length

/-- The text of some bytes, which have to be whole characters. -/
def text? (bytes : List UInt8) : Option String := (Text.Utf8.decode bytes).map String.ofList

/-- The threshold in the bytes behind an equals sign.  If none is written all is shown. -/
def threshold? (bytes : List UInt8) : Option Threshold :=
  if bytes.isEmpty then some (some .trace) else (text? bytes).bind Threshold.read?

/-- The threshold behind the brackets, if there may be one; `start` is the place of the
characters. -/
def bracketThreshold? (whole : List UInt8) (start : Nat) : List Char → Option Threshold
  | '=' :: _ => threshold? (whole.drop (start + 1))
  | cs => if cs.all Text.isBlank then some (some .trace) else none

/-- The name in the braces, and whether a value is asked for.  The value has to be a
pattern. -/
def datum? (s : String) : Option (String × Bool) :=
  let cs := s.toList
  let name := String.ofList (cs.takeWhile (· != '='))
  match cs.dropWhile (· != '=') with
  | [] => if cs.isEmpty then none else some (name, false)
  | _ :: rest =>
    let value := rest.takeWhile (· != '=')
    if isPlusNumber value || Pattern.isPattern value then some (name, true) else none

/-- The directive with a target, if there is one, and brackets, of which the opening one
has been read; `start` is the place of the characters. -/
def brackets? (whole : List UInt8) (target : Option String) (start : Nat) (cs : List Char) :
    Option Directive :=
  let span := cs.takeWhile fun c => c != ']' && c != '\x7b'
  let start := start + size span + 1
  match cs.dropWhile fun c => c != ']' && c != '\x7b' with
  | ']' :: rest => (bracketThreshold? whole start rest).map (⟨target, none, true, ·⟩)
  | '\x7b' :: rest =>
    let field := rest.takeWhile (· != '\x7d')
    let datum := (text? ((whole.drop start).take (size field))).bind datum?
    match datum, rest.dropWhile (· != '\x7d') with
    | some (name, hasValue), '\x7d' :: ']' :: rest =>
      (bracketThreshold? whole (start + size field + 2) rest).map
        (⟨target, some name, !span.isEmpty || hasValue, ·⟩)
    | _, _ => none
  | _ => none

/-- Whether a target ends before the character. -/
def isTargetEnd (c : Char) : Bool := c == '=' || c == '['

/-- The directive that a text writes. -/
def read? (s : String) : Option Directive :=
  let whole := Text.Utf8.encode s.toList
  match s.toList.dropWhile Text.isBlank with
  | [] => none
  | '[' :: rest => brackets? whole none 1 rest
  | c :: cs =>
    let name := (c :: cs).takeWhile (!isTargetEnd ·)
    if isTargetStart c then
      match (c :: cs).dropWhile (!isTargetEnd ·) with
      | [] =>
        match Threshold.read? s with
        | some t => some (ofThreshold t)
        | none => some ⟨some s, none, false, some .trace⟩
      | '[' :: rest =>
        (text? (whole.take (size name))).bind fun target =>
          brackets? whole (some target) (size name + 1) rest
      | _ =>
        (text? (whole.take (size name))).bind fun target =>
          (threshold? (whole.drop (size name + 1))).map (⟨some target, none, false, ·⟩)
    else none

end Directive

end Retrograde.Log
