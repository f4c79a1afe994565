import Retrograde.Cause
import Retrograde.Writer

/-!
# Directory trees

Directories, regular files, symbolic links and devices, each at its location, and
where a path leads among them.  A path is walked name by name from the root or the
working directory; an empty name and `.` stay, `..` goes up, and a link is replaced
by its target, at most forty times on one path.  Everything but the last name has
to be a directory, and so has the last if a slash follows it.

A path that is opened for writing may lead to a name that is not there, in a
directory that is: the file will be made.  No slash may follow that name, and some
directories are sealed, so that nothing can be made in them.

## Main definitions

* `Tree` — what stands at which location.
* `Tree.resolve` — the place that a path leads to.
* `Tree.file?`, `Tree.target` — a path that is read and a path that is written.
* `Tree.store` — the tree after bytes have been written to a path.
-/

namespace Retrograde.Files

/-- The names from the root down. -/
abbrev Location := List String

/-- Devices that take bytes and keep none. -/
inductive Device where
  /-- Takes every byte. -/
  | null
  /-- Takes no byte. -/
  | full
  /-- The standard output of whoever opens it. -/
  | standardOutput
  /-- The standard error of whoever opens it. -/
  | standardError
  /-- The terminal of whoever opens it, which cannot be opened where there is none. -/
  | terminal
  deriving DecidableEq, Repr, Inhabited

/-- What stands at a location. -/
inductive Node where
  /-- A directory. -/
  | directory
  /-- A directory in which nothing can be made. -/
  | sealedDirectory
  /-- A regular file with its bytes. -/
  | file (content : List UInt8)
  /-- A symbolic link with its target. -/
  | link (target : String)
  /-- A device. -/
  | device (d : Device)
  deriving DecidableEq, Repr, Inhabited

/-- What stands at which location, and the location from which relative paths are
walked.  The root is always a directory. -/
structure Tree where
  /-- The nodes below the root. -/
  nodes : List (Location × Node)
  /-- The working directory. -/
  working : Location
  deriving DecidableEq, Repr, Inhabited

/-! ### Paths -/

/-- The names of a path.  Two slashes in a row have an empty name between them, and
so has a slash at an end. -/
def names (path : String) : List String := (path.toList.splitOn '/').map String.ofList

/-- Whether a path is walked from the root. -/
def isAbsolute (path : String) : Bool := path.toList.head? = some '/'

/-- How many bytes a name may have. -/
def nameLimit : Nat := 255

/-- How many bytes a path has to be short of. -/
def pathLimit : Nat := 4096

/-- How many links are followed on one path. -/
def linkLimit : Nat := 40

/-- Where a path leads. -/
inductive Place where
  /-- Something stands there, and it is no link. -/
  | existing (location : Location) (node : Node)
  /-- The directory is there and the name in it is not. -/
  | vacant (location : Location)
  deriving DecidableEq, Repr, Inhabited

namespace Tree

/-- What stands at a location. -/
def get? (t : Tree) (location : Location) : Option Node :=
  if location.isEmpty then some .directory else t.nodes.lookup location

/-- The nodes with another one at a location, which comes last if it is new. -/
def putNode (location : Location) (node : Node) : List (Location × Node) → List (Location × Node)
  | [] => [(location, node)]
  | n :: ns => if n.1 = location then (location, node) :: ns else n :: putNode location node ns

/-- The tree with a node at a location. -/
def put (t : Tree) (location : Location) (node : Node) : Tree :=
  { t with nodes := putNode location node t.nodes }

/-! ### Walking -/

/-- The walk along some names from a directory, with `follow` for the rest of the
way behind a link.  If the path is to be created, no slash may follow its last
name, whatever stands there. -/
def walkNames (t : Tree) (creating : Bool)
    (follow : Location → List String → Except OsError Place) (here : Location) :
    List String → Except OsError Place
  | [] => .ok (.existing here .directory)
  | name :: rest =>
    if name = "" ∨ name = "." then walkNames t creating follow here rest
    else if name = ".." then walkNames t creating follow here.dropLast rest
    else if creating ∧ rest ≠ [] ∧ rest.all (· = "") then .error .isADirectory
    else if nameLimit < name.utf8ByteSize then .error .nameTooLong
    else
      match t.get? (here ++ [name]) with
      | none =>
        if rest = [] ∧ t.get? here ≠ some .sealedDirectory then .ok (.vacant (here ++ [name]))
        else .error .notFound
      | some .directory => walkNames t creating follow (here ++ [name]) rest
      | some .sealedDirectory => walkNames t creating follow (here ++ [name]) rest
      | some (.link target) =>
        follow (if isAbsolute target then [] else here) (names target ++ rest)
      | some node =>
        if rest = [] then .ok (.existing (here ++ [name]) node) else .error .notADirectory

/-- The walk along some names that follows at most so many links. -/
def walk (t : Tree) (creating : Bool) : Nat → Location → List String → Except OsError Place
  | 0 => walkNames t creating fun _ _ => .error .tooManyLinks
  | links + 1 => walkNames t creating (walk t creating links)

/-- The place that a path leads to. -/
def resolve (t : Tree) (creating : Bool) (path : String) : Except OsError Place :=
  if path = "" ∨ '\x00' ∈ path.toList then .error .notFound
  else if pathLimit ≤ path.utf8ByteSize then .error .nameTooLong
  else walk t creating linkLimit (if isAbsolute path then [] else t.working) (names path)

/-! ### Reading and writing -/

/-- The bytes of the regular file that a path leads to. -/
def file? (t : Tree) (path : String) : Option (List UInt8) :=
  match t.resolve false path with
  | .ok (.existing _ (.file content)) => some content
  | _ => none

/-- Whether a path leads to a regular file. -/
def isFile (t : Tree) (path : String) : Bool := (t.file? path).isSome

end Tree

/-- What a path that is opened for writing leads to. -/
inductive Target where
  /-- A regular file, which need not be there yet. -/
  | file (location : Location)
  /-- A device. -/
  | device (d : Device)
  deriving DecidableEq, Repr, Inhabited

/-- The writer that a target is. -/
def Target.writer : Target → Writer
  | file _ => .unbounded
  | device .full => .full
  | device _ => .unbounded

namespace Tree

/-- What a path leads to that is opened for writing. -/
def target (t : Tree) (path : String) : Except OsError Target :=
  match t.resolve true path with
  | .error e => .error e
  | .ok (.vacant location) => .ok (.file location)
  | .ok (.existing location (.file _)) => .ok (.file location)
  | .ok (.existing _ (.device .terminal)) => .error .noDevice
  | .ok (.existing _ (.device d)) => .ok (.device d)
  | .ok (.existing _ .directory) => .error .isADirectory
  | .ok (.existing _ .sealedDirectory) => .error .isADirectory
  | .ok (.existing _ (.link _)) => .error .tooManyLinks

/-- The tree after a path has been opened for writing and has taken the bytes: they
are all that the file holds, and a device keeps none. -/
def store (t : Tree) (path : String) (content : List UInt8) : Tree :=
  match t.target path with
  | .ok (.file location) => t.put location (.file content)
  | _ => t

/-! ### What stands where -/

theorem lookup_putNode (location l : Location) (node : Node) (ns : List (Location × Node)) :
    (putNode location node ns).lookup l = if l = location then some node else ns.lookup l := by
  induction ns with
  | nil =>
    by_cases h : l = location
    · simp [putNode, h]
    · simp [putNode, List.lookup_cons, h, beq_eq_false_iff_ne.mpr h]
  | cons n ns ih =>
    obtain ⟨k, m⟩ := n
    by_cases hk : k = location
    · subst hk
      by_cases h : l = k
      · simp [putNode, h]
      · simp [putNode, List.lookup_cons, h, beq_eq_false_iff_ne.mpr h]
    · by_cases hl : l = k
      · subst hl; simp [putNode, hk]
      · simp [putNode, hk, List.lookup_cons, beq_eq_false_iff_ne.mpr hl, ih]

/-- A node that is put at a location stands there, and the others stay. -/
theorem get?_put (t : Tree) {location : Location} (hl : location ≠ []) (l : Location)
    (node : Node) :
    (t.put location node).get? l = if l = location then some node else t.get? l := by
  cases l with
  | nil => simp [get?, Ne.symm hl]
  | cons n ns => simp [get?, put, lookup_putNode]

end Tree

end Retrograde.Files
