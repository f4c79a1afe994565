import Retrograde.Files.Tree

/-!
# What a run asks of its surroundings

A run looks whether a regular file stands at a path, opens it, opens another path
for writing, and writes to standard output.  The answers to these questions are
all that it knows of the files around it.

## Main definitions

* `Access` — the answers.
* `Tree.access` — the answers of a directory tree.
-/

namespace Retrograde.Files

/-- What a run learns of the files around it. -/
structure Access where
  /-- The regular file at a path, if there is one: its bytes, or why it cannot be
  opened. -/
  file? : String → Option (Except Cause (List UInt8))
  /-- The writer that a path is, once what stood there has been emptied. -/
  create : String → Except Cause Writer
  /-- Standard output. -/
  console : Writer

/-- The answers of a directory tree, with a standard output that takes everything. -/
def Tree.access (t : Tree) : Access where
  file? path := (t.file? path).map .ok
  create path :=
    match t.target path with
    | .error e => .error (.os e)
    | .ok target => .ok target.writer
  console := .unbounded

end Retrograde.Files
