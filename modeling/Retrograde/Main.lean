import Retrograde.Run

/-!
# The command

Asks the system what the command line is about, lets `command` decide, and shows
and writes what it answers.  Whether a path can be written is known only when it
has been tried, which is after everything else: if that fails, or standard output
does, the command is asked once more with this failure known.

## Main definitions

* `main` — the command.
-/

namespace Retrograde.Main

open Files

/-- The number of a system error, if the system gave one. -/
def errorCode? : IO.Error → Option Nat
  | .alreadyExists _ n _ => some n.toNat
  | .otherError n _ => some n.toNat
  | .resourceBusy n _ => some n.toNat
  | .resourceVanished n _ => some n.toNat
  | .unsupportedOperation n _ => some n.toNat
  | .hardwareFault n _ => some n.toNat
  | .unsatisfiedConstraints n _ => some n.toNat
  | .illegalOperation n _ => some n.toNat
  | .protocolError n _ => some n.toNat
  | .timeExpired n _ => some n.toNat
  | .interrupted _ n _ => some n.toNat
  | .noFileOrDirectory _ n _ => some n.toNat
  | .invalidArgument _ n _ => some n.toNat
  | .permissionDenied _ n _ => some n.toNat
  | .resourceExhausted _ n _ => some n.toNat
  | .inappropriateType _ n _ => some n.toNat
  | .noSuchThing _ n _ => some n.toNat
  | .unexpectedEof => none
  | .userError _ => none

/-- A system error as a cause. -/
def cause (e : IO.Error) : Cause :=
  match errorCode? e with
  | some code => .os ⟨code⟩
  | none => .other (toString e)

/-- The bytes of the file at a path.  What stands below `/dev` is taken for a device
and not for a file, whether the path leads there at once or through links, and so is
what the process itself has open. -/
def readFile? (path : String) : IO (Option (Except Cause (List UInt8))) := do
  if path.startsWith "/dev/" || path.startsWith "/proc/self/fd/" then
    return none
  try
    if (← IO.FS.realPath path).toString.startsWith "/dev/" then
      return none
    return some (.ok (← IO.FS.readBinFile path).toList)
  catch e =>
    match cause e with
    | .os .permissionDenied => return some (.error (cause e))
    | .os .tooManyOpenFiles => return some (.error (cause e))
    | _ => return none

/-- What can be known before anything is written. -/
def survey (words : List String) : IO Access := do
  match CommandLine.parse words with
  | .error _ => return ⟨fun _ => none, fun _ => .ok .unbounded, .unbounded⟩
  | .ok a =>
    let dictionary ← readFile? a.dictionary
    let affixes ← readFile? a.affixes
    return {
      file? := fun path => if path = a.dictionary then dictionary else affixes
      create := fun _ => .ok .unbounded
      console := .unbounded }

/-- Bytes as the system takes them. -/
def toBytes (content : List UInt8) : ByteArray := ByteArray.mk content.toArray

/-- Empties or makes the file at a path and writes bytes to it, down to the device. -/
def writeFile (path : String) (content : List UInt8) : IO Unit := do
  let file ← IO.FS.Handle.mk path .write
  file.write (toBytes content)
  file.flush

/-- Shows lines on standard error. -/
def tell (lines : List String) : IO Unit := do
  for line in lines do
    IO.eprintln line

/-- Shows and writes what the command answers, and answers with the exit code.  What it
tells comes before what it writes, and a failure to write last. -/
def perform (files : Access) (setting : Option String) (words : List String) : IO Nat := do
  let o := command files setting words
  tell o.stderr
  try
    match o.written with
    | some (path, content) => writeFile path content
    | none =>
      let console ← IO.getStdout
      console.write (toBytes o.stdout)
      console.flush
    return o.code
  catch e =>
    let refused : Writer := ⟨some 0, cause e, none⟩
    let failed := command { files with create := fun _ => .error (cause e), console := refused }
      setting words
    tell (failed.stderr.drop o.stderr.length)
    return failed.code

end Retrograde.Main

/-- The command. -/
def main (words : List String) : IO UInt32 := do
  let setting ← IO.getEnv "RUST_LOG"
  let code ← Retrograde.Main.perform (← Retrograde.Main.survey words) setting words
  return code.toUInt32
