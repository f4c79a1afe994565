import Retrograde.Files.Tree

/-!
# Making trees and comparing them

A small tree with a working directory and what the system keeps in every tree, to
which directories, files and links can be added at paths below the working directory,
and the files in which a later tree differs from an earlier one.

## Main definitions

* `Tree.bare` — an empty working directory.
* `Tree.add`, `Tree.addDirectory` — a node at a path, with the directories above it.
* `Tree.changedFiles` — the files that are new or hold other bytes.
-/

namespace Retrograde.Files.Tree

/-- The directories that stand at the root. -/
def rootDirectories : List String :=
  ["bin", "boot", "etc", "home", "lib", "media", "mnt", "opt", "root", "run", "sbin", "srv",
    "usr", "var"]

/-- What stands below `/dev`. -/
def devices : List (String × Node) :=
  [("null", .device .null), ("zero", .device .null), ("random", .device .null),
    ("urandom", .device .null), ("full", .device .full), ("tty", .device .terminal),
    ("shm", .directory), ("pts", .directory), ("fd", .link "/proc/self/fd"),
    ("stdin", .link "/proc/self/fd/0"), ("stdout", .link "/proc/self/fd/1"),
    ("stderr", .link "/proc/self/fd/2")]

/-- What is known of the process itself: its root, its working directory and its open
files, of which there are three. -/
def processNodes : List (Location × Node) :=
  [(["proc"], .sealedDirectory), (["proc", "self"], .sealedDirectory),
    (["proc", "self", "root"], .link "/"), (["proc", "self", "cwd"], .link "/tmp/work"),
    (["proc", "self", "fd"], .sealedDirectory), (["proc", "self", "fd", "0"], .device .null),
    (["proc", "self", "fd", "1"], .device .standardOutput),
    (["proc", "self", "fd", "2"], .device .standardError)]

/-- An empty working directory some way below the root, and what the system keeps. -/
def bare : Tree where
  nodes :=
    rootDirectories.map (fun name => ([name], .directory)) ++
      (["dev"], .directory) :: devices.map (fun d => (["dev", d.1], d.2)) ++
      processNodes ++ [(["tmp"], .directory), (["tmp", "work"], .directory)]
  working := ["tmp", "work"]

/-- The location that a path names below the working directory, read as it is
written: no link is followed. -/
def locate (t : Tree) (path : String) : Location :=
  (names path).foldl
    (fun here name =>
      if name = "" ∨ name = "." then here
      else if name = ".." then here.dropLast
      else here ++ [name])
    (if isAbsolute path then [] else t.working)

/-- The tree with directories wherever nothing stands above a location; `above` are
the names on the way to it. -/
def addAbove (t : Tree) (above : Location) : List String → Tree
  | [] => t
  | [_] => t
  | name :: rest =>
    let here := above ++ [name]
    let next := if (t.get? here).isSome then t else t.put here .directory
    next.addAbove here rest

/-- The tree with a node at a path and directories above it. -/
def add (t : Tree) (path : String) (node : Node) : Tree :=
  (t.addAbove [] (t.locate path)).put (t.locate path) node

/-- The tree with a directory at a path, unless something stands there. -/
def addDirectory (t : Tree) (path : String) : Tree :=
  if (t.get? (t.locate path)).isSome then t else t.add path .directory

/-- The path of a location from the working directory down. -/
def pathBelow? (t : Tree) (location : Location) : Option String :=
  if t.working.isPrefixOf location then
    some (String.intercalate "/" (location.drop t.working.length))
  else none

/-- The regular files below the working directory that an earlier tree does not
have or that hold other bytes there, with their paths. -/
def changedFiles (t earlier : Tree) : List (String × List UInt8) :=
  t.nodes.filterMap fun n =>
    match n.2 with
    | .file content =>
      if earlier.get? n.1 = some (.file content) then none
      else (t.pathBelow? n.1).map (·, content)
    | _ => none

end Retrograde.Files.Tree
