import PacketProtection.Process.Clock
import PacketProtection.Tool.Program
import Std.Time.DateTime.Timestamp

/-!
# The command line program

The tool, run on the system: its files, its random bytes, and its two output
streams.
-/

namespace PacketProtection.System

/-- The error number of the system; some libraries negate it. -/
def errorNumber (code : UInt32) : Nat :=
  if 2 * code.toNat < UInt32.size then code.toNat else UInt32.size - code.toNat

/-- The fault of an error of the system. -/
def faultOf : IO.Error → FileFault
  | .alreadyExists _ code text | .invalidArgument _ code text | .permissionDenied _ code text
  | .resourceExhausted _ code text | .inappropriateType _ code text | .noSuchThing _ code text =>
      .ofCode (errorNumber code) text
  | .noFileOrDirectory _ code text | .interrupted _ code text => .ofCode (errorNumber code) text
  | .otherError code text | .resourceBusy code text | .resourceVanished code text
  | .unsupportedOperation code text | .hardwareFault code text
  | .unsatisfiedConstraints code text | .illegalOperation code text | .protocolError code text
  | .timeExpired code text => .ofCode (errorNumber code) text
  | .unexpectedEof => .other "end of file"
  | .userError text => .other text

/-- The answer of an action on a file. -/
def attempt {α : Type} (action : IO α) : IO (Except FileFault α) := do
  try
    return .ok (← action)
  catch error => return .error (faultOf error)

/-- The contents of a file. -/
def readFile (path : String) : IO (Except FileFault Bytes) :=
  attempt do return (← IO.FS.readBinFile path).data.toList

/-- What the acts of a program do on the system. -/
def surroundings : Process.Surroundings IO where
  readFile := readFile
  writeFile path contents := attempt (IO.FS.writeBinFile path ⟨contents.toArray⟩)
  isDirectory path := do
    match ← readFile path with
    | .error .isADirectory => return true
    | _ => return false
  random count := do
    let bytes ← IO.getRandomBytes count.toUSize
    match Octets.ofList? bytes.data.toList with
    | some octets => return octets
    | none => throw (IO.userError "not enough random bytes")
  print text := do
    let out ← IO.getStdout
    out.putStr text
    out.flush
  report timed text := do
    let out ← IO.getStderr
    if timed then
      let now := (← Std.Time.Timestamp.now).toNanosecondsSinceUnixEpoch.val
      out.putStr (Clock.timeOfDay (now.toNat / 1000) ++ " ")
    out.putStr text

end PacketProtection.System

/-- Runs the tool; its exit code is that of the run. -/
def main (words : List String) : IO UInt32 := do
  let code ← (PacketProtection.Tool.run words).run PacketProtection.System.surroundings
  return UInt32.ofNat code
