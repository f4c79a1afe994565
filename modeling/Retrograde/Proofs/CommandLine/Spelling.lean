import Mathlib.Algebra.GroupWithZero.Nat
import Mathlib.Data.List.Induction
import Retrograde.Run

/-!
# Spellings of a command line

What a command is asked for can be written in many ways.  The two paths stand without a name,
the dictionary before the affixes; everything else is named, by a word or by a letter, and its
value stands in a word of its own, behind an equals sign or directly behind the letter; and
more details are asked for by a word or by a cluster of letters, as often as one likes.  All
these items may come in any order and with the paths anywhere between them.

The words are read from left to right, and a value that has a word of its own is only looked
at when the next item begins.  So what holds between two items is not what has been looked at
but what would be found if no more came: the values of all the items so far, none of them
twice, and nothing that waits for a value.

## Main definitions

* `NamedSlot`, `Style`, `Item` — what can be written, and how.
* `Item.words` — the words of an item.
* `Spells`, `Arguments.Spelled` — items and words that ask for some arguments.
* `Given.ofItems` — what some items of them have given.
* `Scan.Holds` — what has been given between two items.

## Main results

* `Scan.Holds.named`, `Scan.Holds.path`, `Scan.Holds.letters` — one more item.
* `Spells.exists_holds` — all items up to some place.
* `parse_of_spelled` — all spellings of some arguments are read as these.
-/

namespace Retrograde

namespace CommandLine

/-! ### Items -/

/-- What takes a value behind a name. -/
inductive NamedSlot where
  /-- The length of the endings. -/
  | length
  /-- The form of the report. -/
  | format
  /-- The order of its tags. -/
  | tagOrder
  /-- The path that takes the report. -/
  | output
  deriving DecidableEq, Repr, Inhabited

namespace NamedSlot

/-- The slot. -/
def slot : NamedSlot → Slot
  | length => .length
  | format => .format
  | tagOrder => .tagOrder
  | output => .output

/-- Its name behind two dashes. -/
def name : NamedSlot → String
  | length => "length"
  | format => "format"
  | tagOrder => "tag-order"
  | output => "output"

/-- Its letter behind one dash. -/
def letter : NamedSlot → Char
  | length => 'l'
  | format => 'f'
  | tagOrder => 't'
  | output => 'o'

theorem ofLong?_name (k : NamedSlot) : Name.ofLong? k.name = some (.slot k.slot) := by
  cases k <;> rfl

theorem ofShort?_letter (k : NamedSlot) : Name.ofShort? k.letter = some (.slot k.slot) := by
  cases k <;> rfl

theorem letter_ne_dash (k : NamedSlot) : k.letter ≠ '-' := by
  cases k <;> decide

end NamedSlot

/-- How a value is given to a name. -/
inductive Style where
  /-- In the word behind the name, `--name value`. -/
  | longApart
  /-- Behind an equals sign, `--name=value`. -/
  | longEquals
  /-- In the word behind the letter, `-x value`. -/
  | shortApart
  /-- Behind the letter and an equals sign, `-x=value`. -/
  | shortEquals
  /-- Directly behind the letter, `-xvalue`. -/
  | shortAttached
  deriving DecidableEq, Repr, Inhabited

/-- A part of a command line that stands for itself. -/
inductive Item where
  /-- A path without a name. -/
  | path (word : String)
  /-- A value for a name. -/
  | named (k : NamedSlot) (style : Style) (value : String)
  /-- A cluster of one letter and some more that each ask for more details. -/
  | letters (more : Nat)
  /-- The word that asks for more details. -/
  | verbose
  deriving DecidableEq, Repr, Inhabited

namespace Item

/-- The words of an item. -/
def words : Item → List String
  | path word => [word]
  | named k .longApart value => ["--" ++ k.name, value]
  | named k .longEquals value => ["--" ++ k.name ++ "=" ++ value]
  | named k .shortApart value => [String.ofList ['-', k.letter], value]
  | named k .shortEquals value => [String.ofList ('-' :: k.letter :: '=' :: value.toList)]
  | named k .shortAttached value => [String.ofList ('-' :: k.letter :: value.toList)]
  | letters more => [String.ofList ('-' :: List.replicate (more + 1) 'v')]
  | verbose => ["--verbose"]

/-- The path that an item gives. -/
def path? : Item → Option String
  | path word => some word
  | _ => none

/-- The value that an item gives to a name. -/
def value? (k : NamedSlot) : Item → Option String
  | named k' _ value => if k' = k then some value else none
  | _ => none

/-- How often an item asks for more details. -/
def details : Item → Nat
  | letters more => more + 1
  | verbose => 1
  | _ => 0

@[simp] theorem path?_path (word : String) : (path word).path? = some word := rfl

@[simp] theorem path?_named (k : NamedSlot) (style : Style) (value : String) :
    (named k style value).path? = none := rfl

@[simp] theorem value?_path (k : NamedSlot) (word : String) : (path word).value? k = none := rfl

@[simp] theorem value?_named_self (k : NamedSlot) (style : Style) (value : String) :
    (named k style value).value? k = some value := if_pos rfl

@[simp] theorem value?_named_of_ne {k k' : NamedSlot} (h : k' ≠ k) (style : Style)
    (value : String) : (named k' style value).value? k = none := if_neg h

end Item

/-! ### Items that ask for some arguments -/

/-- A path that can stand anywhere on a command line: it is not empty, and it does not look
like a name. -/
def IsPlain (path : String) : Prop := path ≠ "" ∧ path.toList.head? ≠ some '-'

end CommandLine

open CommandLine (NamedSlot Item IsPlain)

namespace Arguments

/-- Arguments that can be asked for: the paths are plain, and the length fits. -/
structure Expressible (a : Arguments) : Prop where
  /-- The path of the dictionary is plain. -/
  dictionary : IsPlain a.dictionary
  /-- So is the path of the affixes. -/
  affixes : IsPlain a.affixes
  /-- And the path of the output, if there is one. -/
  output : ∀ path, a.output = some path → IsPlain path
  /-- The length has at most sixty-four bits. -/
  length : a.length < Text.Decimal.limit

/-- A value behind a name asks for what the arguments have there. -/
def Gives (a : Arguments) : NamedSlot → String → Prop
  | .length, value => Text.Decimal.Writes a.length value
  | .format, value => value = a.format.name
  | .tagOrder, value => value = a.tagOrder.name
  | .output, value => a.output = some value

/-- The arguments have what no value asks for. -/
def HasDefault (a : Arguments) : NamedSlot → Prop
  | .length => a.length = 1
  | .format => a.format = .text
  | .tagOrder => a.tagOrder = .alpha
  | .output => a.output = none

end Arguments

namespace CommandLine

/-- Items, in their order on the command line, that ask for some arguments. -/
structure Spells (items : List Item) (a : Arguments) : Prop where
  /-- The paths without a name are those of the dictionary and of the affixes. -/
  paths : items.filterMap Item.path? = [a.dictionary, a.affixes]
  /-- A name is given one value, or none if the arguments have the default there. -/
  named : ∀ k, (∃ value, items.filterMap (Item.value? k) = [value] ∧ a.Gives k value) ∨
    items.filterMap (Item.value? k) = [] ∧ a.HasDefault k
  /-- More details are asked for as often as the arguments say. -/
  verbosity : (items.map Item.details).sum = a.verbosity
  /-- A value directly behind its letter does not begin with an equals sign. -/
  attached : ∀ k value, Item.named k .shortAttached value ∈ items →
    value.toList.head? ≠ some '='

end CommandLine

/-- Words of a command line that ask for some arguments. -/
def Arguments.Spelled (a : Arguments) (words : List String) : Prop :=
  ∃ items, words = items.flatMap Item.words ∧ CommandLine.Spells items a

namespace CommandLine

/-! ### What the words look like -/

theorem ofString_plain {s : String} (h : s.toList.head? ≠ some '-') :
    Word.ofString s = .plain s := by
  unfold Word.ofString
  split
  · next hs => exact absurd (by rw [hs]; rfl) h
  · next hs => exact absurd (by rw [hs]; rfl) h
  · next hs => exact absurd (by rw [hs]; rfl) h
  · rfl

theorem ofString_long (k : NamedSlot) : Word.ofString ("--" ++ k.name) = .long k.name none := by
  cases k <;> rfl

theorem ofString_longEquals (k : NamedSlot) (value : String) :
    Word.ofString ("--" ++ k.name ++ "=" ++ value) = .long k.name (some value) := by
  cases k <;> simp [Word.ofString, NamedSlot.name, behindEquals?]

theorem ofString_letters {c : Char} (cs : List Char) (h : c ≠ '-') :
    Word.ofString (String.ofList ('-' :: c :: cs)) = .letters (c :: cs) := by
  simp [Word.ofString, h]

/-! ### What holds between two items -/

namespace Given

/-- Asking for more details some times more. -/
def moreVerboseBy (g : Given) (count : Nat) : Given :=
  { g with verbosity := min (g.verbosity + count) verbosityLimit }

theorem moreVerboseBy_moreVerbose (g : Given) (count : Nat) :
    g.moreVerbose.moreVerboseBy count = g.moreVerboseBy (count + 1) := by
  have hmin : min (min (g.verbosity + 1) verbosityLimit + count) verbosityLimit =
      min (g.verbosity + (count + 1)) verbosityLimit := by omega
  simp only [moreVerbose, moreVerboseBy, hmin]

end Given

namespace Scan

variable {s : Scan} {g g' : Given} {n : Nat}

/-- Between two items: these are the values that would be found if no more items came, and
nothing waits for a value. -/
def Holds (s : Scan) (g : Given) (n : Nat) : Prop := s.settle = .ok ⟨g, none, n, false⟩

theorem holds_mk (g : Given) (n : Nat) : Holds ⟨g, none, n, false⟩ g n := rfl

/-- A value that nobody has looked at is found to be right when somebody does. -/
theorem holds_of_take {slot : Slot} {value : String} (h : g.take slot value = .ok g') (n : Nat) :
    Holds ⟨g, some (slot, some value), n, false⟩ g' n := by
  simp only [Holds, settle, h]

/-- Looking at a value changes nothing else, and it needs a value to look at. -/
theorem of_settle_eq_ok {s' : Scan} (h : s.settle = .ok s') : s.paths = s'.paths ∧
    s.pathsOnly = s'.pathsOnly ∧ ∀ slot, s.pending ≠ some (slot, none) := by
  unfold settle at h
  split at h
  · next hnone =>
    obtain rfl := Except.ok.inj h
    exact ⟨rfl, rfl, fun slot hsome => nomatch hnone.symm.trans hsome⟩
  · exact nomatch h
  · next slot value hvalue =>
    split at h
    · exact nomatch h
    · obtain rfl := Except.ok.inj h
      exact ⟨rfl, rfl, fun slot hsome => nomatch hvalue.symm.trans hsome⟩

/-- What begins with no dash is looked at as the value of whatever waits for one, and else as
a path. -/
theorem step_plain {word : String} (hword : IsPlain word) (hs : s.pathsOnly = false) :
    s.step word = s.plain word := by
  unfold step
  rw [hs, ofString_plain hword.2]
  rfl

/-! ### One more item -/

theorem foldlM_step_singleton {s' : Scan} {word : String} (h : s.step word = .ok s') :
    [word].foldlM step s = .ok s' := by
  rw [List.foldlM_cons, h]
  rfl

theorem foldlM_step_pair {s' s'' : Scan} {word word' : String} (h : s.step word = .ok s')
    (h' : s'.step word' = .ok s'') : [word, word'].foldlM step s = .ok s'' := by
  rw [List.foldlM_cons, h]
  exact foldlM_step_singleton h'

theorem Holds.slot_some {slot : Slot} {value : String} (h : s.Holds g n)
    (htake : g.take slot value = .ok g') :
    s.slot slot (some value) = .ok ⟨g', none, n, false⟩ := by
  unfold Holds at h
  simp only [Scan.slot, h, htake]

/-- A name that waits for its value gets it from the next word. -/
theorem Holds.slot_none {slot : Slot} {value : String} (h : s.Holds g n)
    (htake : g.take slot value = .ok g') (hvalue : IsPlain value) :
    ∃ s' s'', s.slot slot none = .ok s' ∧ s'.step value = .ok s'' ∧ s''.Holds g' n := by
  refine ⟨⟨g, some (slot, none), n, false⟩, ⟨g, some (slot, some value), n, false⟩, ?_, ?_,
    holds_of_take htake n⟩
  · unfold Holds at h
    simp only [Scan.slot, h]
  · rw [step_plain hvalue rfl]
    rfl

theorem step_long {word : String} {k : NamedSlot} {value : Option String}
    (hword : Word.ofString word = .long k.name value) (hs : s.pathsOnly = false) :
    s.step word = s.slot k.slot value := by
  unfold step
  rw [hs, hword]
  simp only [Bool.false_eq_true, if_false, long, k.ofLong?_name]

theorem step_letter (k : NamedSlot) (rest : List Char) (hs : s.pathsOnly = false) :
    s.step (String.ofList ('-' :: k.letter :: rest)) = s.slot k.slot (attached? rest) := by
  unfold step
  rw [hs, ofString_letters rest k.letter_ne_dash]
  simp only [Bool.false_eq_true, if_false, letters, k.ofShort?_letter]

/-- However a value is given to its name, it is the value of the slot. -/
theorem Holds.named (h : s.Holds g n) {k : NamedSlot} {value : String} (style : Style)
    (htake : g.take k.slot value = .ok g') (hvalue : IsPlain value)
    (hattached : style = .shortAttached → value.toList.head? ≠ some '=') :
    ∃ s', (Item.named k style value).words.foldlM step s = .ok s' ∧ s'.Holds g' n := by
  obtain ⟨-, hs, -⟩ := of_settle_eq_ok h
  cases style with
  | longApart =>
    obtain ⟨s', s'', hname, hstep, hholds⟩ := h.slot_none htake hvalue
    exact ⟨s'', foldlM_step_pair ((step_long (ofString_long k) hs).trans hname) hstep, hholds⟩
  | longEquals =>
    have hstep := (step_long (ofString_longEquals k value) hs).trans (h.slot_some htake)
    exact ⟨_, foldlM_step_singleton hstep, holds_mk g' n⟩
  | shortApart =>
    obtain ⟨s', s'', hname, hstep, hholds⟩ := h.slot_none htake hvalue
    exact ⟨s'', foldlM_step_pair ((step_letter k [] hs).trans hname) hstep, hholds⟩
  | shortEquals =>
    have hbehind : attached? ('=' :: value.toList) = some value := by
      rw [attached?, String.ofList_toList]
    have hstep := step_letter k ('=' :: value.toList) hs
    rw [hbehind, h.slot_some htake] at hstep
    exact ⟨_, foldlM_step_singleton hstep, holds_mk g' n⟩
  | shortAttached =>
    have hbehind : attached? value.toList = some value := by
      unfold attached?
      split
      · next hnil => exact absurd (String.toList_eq_nil_iff.mp hnil) hvalue.1
      · next hequals => exact absurd (by rw [hequals]; rfl) (hattached rfl)
      · rw [String.ofList_toList]
    have hstep := step_letter k value.toList hs
    rw [hbehind, h.slot_some htake] at hstep
    exact ⟨_, foldlM_step_singleton hstep, holds_mk g' n⟩

/-- A word without a name is the next path. -/
theorem Holds.path (h : s.Holds g n) {slot : Slot} {word : String}
    (hslot : n = 0 ∧ slot = .dictionary ∨ n = 1 ∧ slot = .affixes)
    (htake : g.take slot word = .ok g') (hword : IsPlain word) :
    ∃ s', (Item.path word).words.foldlM step s = .ok s' ∧ s'.Holds g' (n + 1) := by
  obtain ⟨hpaths, hs, hwaits⟩ := of_settle_eq_ok h
  have hpath : s.step word = .ok ⟨g, some (slot, some word), n + 1, false⟩ := by
    have hplain : s.plain word = s.path word := by
      unfold Scan.plain
      split
      · next slot' hpending => exact absurd hpending (hwaits slot')
      · rfl
    rw [step_plain hword hs, hplain]
    unfold Holds at h
    rcases hslot with ⟨rfl, rfl⟩ | ⟨rfl, rfl⟩
    · simp only [Scan.path, hpaths, h]
      rfl
    · simp only [Scan.path, hpaths, h]
      rfl
  exact ⟨_, foldlM_step_singleton hpath, holds_of_take htake (n + 1)⟩

theorem Holds.switch_verbose (h : s.Holds g n) :
    s.switch .verbose = .ok ⟨g.moreVerbose, none, n, false⟩ := by
  unfold Holds at h
  simp only [Scan.switch, h]

/-- Each letter of a cluster asks for more details. -/
theorem Holds.letters_replicate (h : s.Holds g n) (more : Nat) :
    s.letters (List.replicate (more + 1) 'v') =
      .ok ⟨g.moreVerboseBy (more + 1), none, n, false⟩ := by
  have hname : Name.ofShort? 'v' = some (.switch .verbose) := rfl
  induction more generalizing s g with
  | zero =>
    rw [List.replicate_succ, letters, hname]
    simp only [h.switch_verbose]
    rfl
  | succ more ih =>
    have hrest := ih (holds_mk g.moreVerbose n)
    rw [Given.moreVerboseBy_moreVerbose] at hrest
    rw [List.replicate_succ, letters, hname]
    simp only [h.switch_verbose, hrest]

/-- A cluster asks for more details as often as it has letters. -/
theorem Holds.letters (h : s.Holds g n) (more : Nat) : ∃ s',
    (Item.letters more).words.foldlM step s = .ok s' ∧ s'.Holds (g.moreVerboseBy (more + 1)) n := by
  obtain ⟨-, hs, -⟩ := of_settle_eq_ok h
  have hword := ofString_letters (List.replicate more 'v') (c := 'v') (by decide)
  refine ⟨_, foldlM_step_singleton ?_, holds_mk _ n⟩
  unfold step
  rw [hs, List.replicate_succ, hword]
  exact h.letters_replicate more

/-- The word for more details asks for them once. -/
theorem Holds.verbose (h : s.Holds g n) : ∃ s',
    Item.verbose.words.foldlM step s = .ok s' ∧ s'.Holds (g.moreVerboseBy 1) n := by
  obtain ⟨-, hs, -⟩ := of_settle_eq_ok h
  have hword : Word.ofString "--verbose" = .long "verbose" none := rfl
  refine ⟨_, foldlM_step_singleton ?_, holds_mk _ n⟩
  unfold step
  rw [hs, hword]
  exact h.switch_verbose

end Scan

/-! ### What the items give -/

variable {a : Arguments} {items : List Item} {item : Item}

namespace Given

/-- What the arguments have for a name, once some items have given it a value. -/
def whenGiven {α : Type} (items : List Item) (k : NamedSlot) (x : Option α) : Option α :=
  if items.filterMap (Item.value? k) = [] then none else x

theorem whenGiven_concat_named {α : Type} (items : List Item) (k : NamedSlot) (style : Style)
    (value : String) (x : Option α) : whenGiven (items ++ [.named k style value]) k x = x := by
  simp [whenGiven, Item.value?]

theorem whenGiven_concat {α : Type} {k : NamedSlot} (h : item.value? k = none)
    (items : List Item) (x : Option α) : whenGiven (items ++ [item]) k x = whenGiven items k x := by
  simp [whenGiven, h]

/-- What some of the items have given that ask for some arguments. -/
def ofItems (a : Arguments) (items : List Item) : Given where
  dictionary := (items.filterMap Item.path?)[0]?
  affixes := (items.filterMap Item.path?)[1]?
  length := whenGiven items .length (some a.length)
  format := whenGiven items .format (some a.format)
  tagOrder := whenGiven items .tagOrder (some a.tagOrder)
  output := whenGiven items .output a.output
  verbosity := min (items.map Item.details).sum verbosityLimit

/-- What the arguments have for a name is given too. -/
def give (g : Given) (a : Arguments) : NamedSlot → Given
  | .length => { g with length := some a.length }
  | .format => { g with format := some a.format }
  | .tagOrder => { g with tagOrder := some a.tagOrder }
  | .output => { g with output := a.output }

/-- A value for a name adds what the arguments have there. -/
theorem ofItems_concat_named (a : Arguments) (items : List Item) (k : NamedSlot) (style : Style)
    (value : String) :
    ofItems a (items ++ [.named k style value]) = (ofItems a items).give a k := by
  have hother : ∀ {α : Type} {k'} (x : Option α), k ≠ k' →
      whenGiven (items ++ [.named k style value]) k' x = whenGiven items k' x :=
    fun x hne => whenGiven_concat (Item.value?_named_of_ne hne style value) items x
  cases k <;>
    simp [ofItems, give, whenGiven_concat_named, hother, List.filterMap_cons, Item.details]

/-- What gives no value at all asks for more details. -/
theorem ofItems_concat_details (a : Arguments) (items : List Item) (hpath : item.path? = none)
    (hvalue : ∀ k, item.value? k = none) :
    ofItems a (items ++ [item]) = (ofItems a items).moreVerboseBy item.details := by
  have hmin : ∀ m, min (min m verbosityLimit + item.details) verbosityLimit =
      min (m + item.details) verbosityLimit := by omega
  simp [ofItems, moreVerboseBy, whenGiven_concat (hvalue _), hpath, hmin]

/-- The value that arguments give to a name is taken for what they have there. -/
theorem take_of_gives {g : Given} {k : NamedSlot} {value : String} (ha : a.Expressible)
    (h : a.Gives k value) (hg : g.has k.slot = false) :
    g.take k.slot value = .ok (g.give a k) := by
  unfold take
  rw [hg]
  cases k with
  | length =>
    have hread := Text.Decimal.read_of_writes h ha.length
    simp only [Bool.false_eq_true, if_false, NamedSlot.slot, number, hread]
    rfl
  | format =>
    obtain rfl : value = a.format.name := h
    simp only [Bool.false_eq_true, if_false, NamedSlot.slot, choice, Format.ofName?_name]
    rfl
  | tagOrder =>
    obtain rfl : value = a.tagOrder.name := h
    simp only [Bool.false_eq_true, if_false, NamedSlot.slot, choice, TagOrder.ofName?_name]
    rfl
  | output =>
    have hvalue : a.output = some value := h
    have hplain := ha.output value hvalue
    simp only [Bool.false_eq_true, if_false, NamedSlot.slot, path, if_neg hplain.1, give, hvalue]
    rfl

/-- One more path, behind none or one, is taken for that of the dictionary or of the affixes. -/
theorem take_path {slot : Slot} {word : String} (hword : word ≠ "")
    (hslot : items.filterMap Item.path? = [] ∧ slot = .dictionary ∨
      (∃ p, items.filterMap Item.path? = [p]) ∧ slot = .affixes) :
    (ofItems a items).take slot word = .ok (ofItems a (items ++ [.path word])) := by
  have hconcat : ∀ {α : Type} k (x : Option α),
      whenGiven (items ++ [.path word]) k x = whenGiven items k x :=
    fun k x => whenGiven_concat (Item.value?_path k word) items x
  rcases hslot with ⟨hnone, rfl⟩ | ⟨⟨p, hone⟩, rfl⟩
  · have hhas : (ofItems a items).has .dictionary = false := by simp [has, ofItems, hnone]
    rw [take, hhas]
    simp [path, hword, Except.map, ofItems, hconcat, hnone, Item.details]
  · have hhas : (ofItems a items).has .affixes = false := by simp [has, ofItems, hone]
    rw [take, hhas]
    simp [path, hword, Except.map, ofItems, hconcat, hone, Item.details]

/-- A name that no item has been seen with has no value. -/
theorem has_ofItems {k : NamedSlot} (h : items.filterMap (Item.value? k) = []) :
    (ofItems a items).has k.slot = false := by
  cases k <;> simp [NamedSlot.slot, has, ofItems, whenGiven, h]

end Given

/-- Such a value looks like none of the names. -/
theorem isPlain_of_gives {k : NamedSlot} {value : String} (ha : a.Expressible)
    (h : a.Gives k value) : IsPlain value := by
  cases k with
  | length =>
    obtain ⟨digits, hvalue, hne, hdigits, -⟩ := Text.Decimal.Writes.exists_toList h
    obtain ⟨c, cs, rfl⟩ := List.exists_cons_of_ne_nil hne
    have hc : c ≠ '-' := by
      rintro rfl
      exact absurd (hdigits '-' List.mem_cons_self) (by decide)
    refine ⟨?_, ?_⟩
    · rintro rfl
      simp at hvalue
    · rcases hvalue with hvalue | hvalue
      · rw [hvalue, List.head?_cons]
        simpa using hc
      · rw [hvalue, List.head?_cons]
        decide
  | format =>
    obtain rfl : value = a.format.name := h
    cases a.format <;> exact ⟨by decide, by decide⟩
  | tagOrder =>
    obtain rfl : value = a.tagOrder.name := h
    cases a.tagOrder <;> exact ⟨by decide, by decide⟩
  | output => exact ha.output value h

namespace Spells

/-- The first value that the items give to a name is the one that the arguments ask for. -/
theorem gives_of_eq_append {k : NamedSlot} {style : Style} {value : String}
    {done rest : List Item} (h : Spells (done ++ .named k style value :: rest) a) :
    a.Gives k value ∧ done.filterMap (Item.value? k) = [] := by
  have hvalues : (done ++ .named k style value :: rest).filterMap (Item.value? k) =
      done.filterMap (Item.value? k) ++ value :: rest.filterMap (Item.value? k) := by
    rw [List.filterMap_append, List.filterMap_cons, Item.value?_named_self]
  rcases h.named k with ⟨value', hone, hgives⟩ | ⟨hnone, -⟩
  · rw [hvalues] at hone
    obtain ⟨hdone, hvalue⟩ | ⟨-, hvalue⟩ := List.append_eq_singleton_iff.mp hone
    · rw [(List.cons.inj hvalue).1]
      exact ⟨hgives, hdone⟩
    · exact nomatch hvalue
  · rw [hvalues] at hnone
    exact absurd hnone (by simp)

/-- A path comes first or second, and is that of the dictionary or of the affixes. -/
theorem path_of_eq_append {word : String} {done rest : List Item}
    (h : Spells (done ++ .path word :: rest) a) :
    done.filterMap Item.path? = [] ∧ word = a.dictionary ∨
      done.filterMap Item.path? = [a.dictionary] ∧ word = a.affixes := by
  have hpaths := h.paths
  rw [List.filterMap_append, List.filterMap_cons, Item.path?_path] at hpaths
  rcases List.append_eq_cons_iff.mp hpaths with ⟨hdone, hword⟩ | ⟨ps, hdone, hrest⟩
  · exact .inl ⟨hdone, (List.cons.inj hword).1⟩
  · right
    rcases List.append_eq_singleton_iff.mp hrest.symm with ⟨rfl, hword⟩ | ⟨-, hword⟩
    · exact ⟨hdone, (List.cons.inj hword).1⟩
    · exact nomatch hword

/-- Up to any place between two items, these are read to what they give. -/
theorem exists_holds (ha : a.Expressible) (done : List Item) :
    ∀ {rest : List Item}, Spells (done ++ rest) a → ∃ s,
      (done.flatMap Item.words).foldlM Scan.step .start = .ok s ∧
        s.Holds (.ofItems a done) (done.filterMap Item.path?).length := by
  induction done using List.reverseRecOn with
  | nil =>
    intro rest _
    exact ⟨.start, rfl, Scan.holds_mk _ 0⟩
  | append_singleton done item ih =>
    intro rest h
    rw [List.append_assoc, List.singleton_append] at h
    obtain ⟨s, hdone, hholds⟩ := ih h
    -- one more item is read behind the others
    suffices hitem : ∃ s', item.words.foldlM Scan.step s = .ok s' ∧
        s'.Holds (.ofItems a (done ++ [item])) ((done ++ [item]).filterMap Item.path?).length by
      obtain ⟨s', hs', hholds'⟩ := hitem
      refine ⟨s', ?_, hholds'⟩
      rw [List.flatMap_append, List.flatMap_singleton, List.foldlM_append, hdone]
      exact hs'
    cases item with
    | path word =>
      rw [List.filterMap_append, List.length_append, List.filterMap_cons, Item.path?_path]
      rcases h.path_of_eq_append with ⟨hpaths, rfl⟩ | ⟨hpaths, rfl⟩
      · have htake := Given.take_path (a := a) ha.dictionary.1 (.inl ⟨hpaths, rfl⟩)
        exact hholds.path (.inl ⟨by rw [hpaths]; rfl, rfl⟩) htake ha.dictionary
      · have htake := Given.take_path (a := a) ha.affixes.1 (.inr ⟨⟨_, hpaths⟩, rfl⟩)
        exact hholds.path (.inr ⟨by rw [hpaths]; rfl, rfl⟩) htake ha.affixes
    | named k style value =>
      obtain ⟨hgives, hfirst⟩ := h.gives_of_eq_append
      have htake := Given.take_of_gives ha hgives (Given.has_ofItems (a := a) hfirst)
      rw [← Given.ofItems_concat_named a done k style value] at htake
      have hattached : style = .shortAttached → value.toList.head? ≠ some '=' := by
        rintro rfl
        exact h.attached k value (by simp)
      simpa [List.filterMap_cons] using
        hholds.named style htake (isPlain_of_gives ha hgives) hattached
    | letters more =>
      rw [Given.ofItems_concat_details a done rfl fun _ => rfl]
      simpa [List.filterMap_cons, Item.path?, Item.details] using hholds.letters more
    | verbose =>
      rw [Given.ofItems_concat_details a done rfl fun _ => rfl]
      simpa [List.filterMap_cons, Item.path?, Item.details] using hholds.verbose

/-- A name has been given what the arguments have there, or they have the default. -/
theorem whenGiven_eq {α : Type} (h : Spells items a) (k : NamedSlot) (x : Option α) :
    Given.whenGiven items k x = x ∨ Given.whenGiven items k x = none ∧ a.HasDefault k := by
  unfold Given.whenGiven
  split
  · next hnone =>
    rcases h.named k with ⟨value, hone, -⟩ | ⟨-, hdefault⟩
    · exact nomatch hnone.symm.trans hone
    · exact .inr ⟨rfl, hdefault⟩
  · exact .inl rfl

theorem getD_whenGiven {α : Type} {k : NamedSlot} {x y : α} (h : Spells items a)
    (hdefault : a.HasDefault k → x = y) : (Given.whenGiven items k (some x)).getD y = x := by
  rcases h.whenGiven_eq k (some x) with hx | ⟨hx, hk⟩
  · rw [hx, Option.getD_some]
  · rw [hx, Option.getD_none, hdefault hk]

theorem whenGiven_output (h : Spells items a) :
    Given.whenGiven items .output a.output = a.output := by
  rcases h.whenGiven_eq .output a.output with hx | ⟨hx, hk⟩
  · exact hx
  · exact hx.trans (Eq.symm hk)

/-- All items together give the arguments that they ask for. -/
theorem arguments_ofItems (h : Spells items a) : (Given.ofItems a items).arguments =
    .ok { a with verbosity := min a.verbosity Given.verbosityLimit } := by
  have hlength := h.getD_whenGiven (k := .length) (x := a.length) id
  have hformat := h.getD_whenGiven (k := .format) (x := a.format) id
  have htagOrder := h.getD_whenGiven (k := .tagOrder) (x := a.tagOrder) id
  simp [Given.arguments, Given.ofItems, h.paths, h.verbosity, h.whenGiven_output, hlength, hformat,
    htagOrder]

end Spells

/-! ### All the words -/

/-- The words are read one after another, and then no more come. -/
theorem Scan.run_eq_foldlM (s : Scan) (words : List String) :
    s.run words = (words.foldlM Scan.step s).bind Scan.finish := by
  induction words generalizing s with
  | nil => rfl
  | cons word words ih =>
    rw [Scan.run, List.foldlM_cons]
    cases hstep : s.step word with
    | error e => rfl
    | ok s' => exact ih s'

/-- All spellings of some arguments are read as these, asking for more details being counted to
255 and no further.  So any two of them make the command do the same: whatever its files and
the setting of the log are, the exit code is the same, and so are what is printed, the lines
of the log, what is written and the tree that is left behind. -/
theorem parse_of_spelled {words : List String} (ha : a.Expressible) (h : a.Spelled words) :
    parse words = .ok { a with verbosity := min a.verbosity 255 } ∧
      ∀ words', a.Spelled words' →
        (∀ files setting, command files setting words' = command files setting words) ∧
        ∀ (t : Files.Tree) setting, t.command setting words' = t.command setting words := by
  have hparse : ∀ {words}, a.Spelled words →
      parse words = .ok { a with verbosity := min a.verbosity 255 } := by
    rintro _ ⟨items, rfl, hitems⟩
    have hall : Spells (items ++ []) a := by rwa [List.append_nil]
    obtain ⟨s, hwords, hholds⟩ := Spells.exists_holds ha items hall
    have harguments := hitems.arguments_ofItems
    unfold Scan.Holds at hholds
    rw [parse, Scan.run_eq_foldlM, hwords]
    simp only [Except.bind, Scan.finish, hholds, harguments, Given.verbosityLimit]
  have hcommand : ∀ {words'}, a.Spelled words' → ∀ files setting,
      command files setting words' = command files setting words := by
    intro words' h' files setting
    rw [command, command, hparse h', hparse h]
  refine ⟨hparse h, fun words' h' => ⟨hcommand h', fun t setting => ?_⟩⟩
  rw [Files.Tree.command, Files.Tree.command, hcommand h']

/-- Every item once, with the paths among them. -/
theorem parse_of_spelled_all_items :
    let a : Arguments := ⟨"words.dic", "words.aff", 3, .json, .firstSeen, some "=out", 5⟩
    let words := ["-vv", "-l+03", "words.dic", "--format=json", "--verbose", "-t", "first-seen",
      "words.aff", "-o==out", "-vv"]
    a.Expressible ∧ a.Spelled words ∧ parse words = .ok a := by
  intro a words
  have ha : a.Expressible := {
    dictionary := ⟨by decide, by decide⟩
    affixes := ⟨by decide, by decide⟩
    output := by
      rintro path h
      obtain rfl := Option.some.inj h
      exact ⟨by decide, by decide⟩
    length := by decide }
  have hspelled : a.Spelled words := by
    refine ⟨[.letters 1, .named .length .shortAttached "+03", .path "words.dic",
      .named .format .longEquals "json", .verbose, .named .tagOrder .shortApart "first-seen",
      .path "words.aff", .named .output .shortEquals "=out", .letters 1], rfl, rfl, ?_, rfl, ?_⟩
    · rintro (_ | _ | _ | _)
      · exact .inl ⟨"+03", rfl, "+", 1, .inr rfl, by decide⟩
      · exact .inl ⟨"json", rfl, rfl⟩
      · exact .inl ⟨"first-seen", rfl, rfl⟩
      · exact .inl ⟨"=out", rfl, rfl⟩
    · intro k value h
      simp at h
      obtain ⟨-, rfl⟩ := h
      decide
  exact ⟨ha, hspelled, (parse_of_spelled ha hspelled).1⟩

end CommandLine

end Retrograde
