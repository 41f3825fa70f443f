import Metasearch.Command.Transcript
import Metasearch.Settings.Place
import Std.Time.DateTime.Timestamp

/-!
The program `searchmux-soak`. It only asks the system for what it needs to know, and plays the transcript
that answers the command line.
-/

namespace Metasearch.Command

/-- The bytes of a file, if it can be read. -/
def fileBytes (path : String) : IO (Option (List UInt8)) := do
  match ← (IO.FS.readBinFile path).toBaseIO with
  | .ok bytes => return some bytes.toList
  | .error _ => return none

/-- What decides where the settings file is. -/
def environment : IO Settings.Environment := do
  return {
    ownDirectory := ← IO.getEnv "SEARCHMUX_CONFIG_DIR"
    configHome := ← IO.getEnv "XDG_CONFIG_HOME"
    home := ← IO.getEnv "HOME" }

/-- The present moment. -/
def present : IO Moment := do
  let nanos := (← Std.Time.Timestamp.now).toNanosecondsSinceUnixEpoch.val.toNat
  return ⟨nanos / Duration.nanosPerSec, nanos % Duration.nanosPerSec⟩

/-- A number that cannot be foretold, and others after it. -/
def freshEntropy : IO (Nat → UInt64) := do
  let first := UInt64.ofNat (← IO.rand 0 (UInt64.size - 1))
  return fun i => first + UInt64.ofNat i

/-- Play a transcript, and give the code it ends with. -/
def play (transcript : Transcript) : IO UInt32 := do
  for act in transcript.acts do
    match act with
    | .print line => IO.println line
    | .pause ms => IO.sleep (UInt32.ofNat (min ms (UInt32.size - 1)))
  if !transcript.complaint.isEmpty then
    IO.eprintln transcript.complaint
  return UInt32.ofNat transcript.code

end Metasearch.Command

/-- Answer the command line. -/
def main (arguments : List String) : IO UInt32 := do
  let request := Metasearch.Command.Request.ofArguments arguments
  let path ← match request with
    | .soak { config := some path, .. } => pure path
    | _ => pure (← Metasearch.Command.environment).defaultPath
  let content ← Metasearch.Command.fileBytes path
  let entropy ← Metasearch.Command.freshEntropy
  let startedAt ← Metasearch.Command.present
  Metasearch.Command.play
    (Metasearch.Command.answer request (fun _ => content) entropy startedAt)
