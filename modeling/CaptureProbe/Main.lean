import CaptureProbe.CommandLine
import CaptureProbe.Machine

/-!
The program: the command line on the arguments and the environment of a process. What an execution
leaves behind is worked out over a picture of the directory tree, and then left behind as it is. A fault
of the system on the way ends the process.
-/

namespace CaptureProbe.Main

/-- The tree around the directory of the process, with the directories in it. -/
def surroundings : IO Directory := do
  let here ← IO.currentDir
  let folders ← (← here.readDir).toList.filterM fun entry => entry.path.isDir
  let home := (Directory.components here.toString).filter (· ≠ "")
  return Machine.directory home (folders.map (·.fileName))

def writeBytes (stream : IO.FS.Stream) (bytes : List UInt8) : IO Unit := do
  stream.write (ByteArray.mk bytes.toArray)
  stream.flush

def carryOut (ending : CommandLine.Ending) : IO UInt32 := do
  writeBytes (← IO.getStdout) ending.output
  for file in ending.directory.files do
    IO.FS.writeFile ("/" ++ String.intercalate "/" file.1) file.2
  writeBytes (← IO.getStderr) ending.errors
  return ending.code.toUInt32

end CaptureProbe.Main

def main (arguments : List String) : IO UInt32 := do
  CaptureProbe.Main.carryOut (CaptureProbe.CommandLine.execute
    { arguments := arguments.map CaptureProbe.Text.bytes
      flags := ← IO.getEnv "PROBE_FLAGS"
      filter := ← IO.getEnv "PROBE_LOG"
      directory := ← CaptureProbe.Main.surroundings })
