import VirtualRadio.CommandLine
import VirtualRadio.Program
import VirtualRadio.Relay

/-!
# The command line

The outer layer: it reads the settings and whatever is there of the file for
the samples, hands everything on, and prints what comes back.
-/

namespace VirtualRadio.Shell

/-- What a path leads to: a file, a directory or nothing. -/
def entryAt (path : String) : IO (Option DiskEntry) := do
  try
    let contents ← IO.FS.readBinFile path
    return some (.file contents.toList)
  catch
    | .noFileOrDirectory _ _ _ => return none
    | .inappropriateType _ _ _ => return some .directory
    | fault => throw fault

/-- A disk with what some paths lead to, and with the directories of those that
lead to nothing. -/
def readDisk (paths : List String) : IO Disk := do
  let here ← IO.currentDir
  let mut entries := []
  for path in paths do
    match ← entryAt path with
    | some found => entries := entries ++ [(Disk.plainName path, found)]
    | none =>
      match (here / path).parent with
      | some directory =>
        if ← directory.isDir then
          entries := entries ++ [((Disk.plainName path).dropLast, .directory)]
      | none => pure ()
  return ⟨entries⟩

/-- Write what was appended to a file. -/
def writeAdded (path : String) (before after : Disk) : IO Unit := do
  match after.read path with
  | .error _ => return ()
  | .ok contents =>
    let earlier := ((before.read path).toOption.getD []).length
    IO.FS.withFile path .append (fun file => file.write ⟨(contents.drop earlier).toArray⟩)

/-- Tell the relay what went out. -/
def tell (before after : Program) : IO Unit := do
  for line in RelayLine.outgoing before.transport.network after.transport.network do
    IO.println line
  (← IO.getStdout).flush

/-- Do what the relay says until it has no more to say or the program is
over. -/
partial def relay (input : IO.FS.Stream) (program : Program) : IO Program := do
  if program.isOver then
    return program
  let line ← input.getLine
  if line.isEmpty then
    return program.stop
  let next := match RelayLine.parse? line.trimAscii.copy with
    | some (.wait millis) => program.advance millis
    | some (.event event) => program.receive event
    | none => program
  tell program next
  relay input next

/-- Run the program. -/
def run (settings : Settings) : IO UInt32 := do
  let disk ← readDisk [settings.sink.path]
  let program ← relay (← IO.getStdin) (.start settings disk ⟨settings.network.port, none, none⟩)
  let (ended, result) := program.finish
  tell program ended
  if let some after := ended.disk? then
    writeAdded settings.sink.path disk after
  match result with
  | .ok () => return 0
  | .error fault =>
    match fault.message? with
    | some message =>
      IO.eprintln s!"Error: {message}"
      return 1
    | none => return 101

/-- Act on a command line. -/
def main (arguments : List String) : IO UInt32 := do
  match CommandLine.parse arguments with
  | .error .helpRequested =>
    IO.println "options: --config --emulation --bind --port --output --verbose"
    IO.println "commands: run profiles show-config"
    return 0
  | .error .versionRequested => return 0
  | .error _ =>
    IO.eprintln "error: the command line is not understood"
    return 2
  | .ok invocation =>
    let disk ← readDisk [invocation.configPath]
    match CommandLine.effectiveSettings Yaml.reader disk invocation with
    | .error fault =>
      let reason := fault.message?.getD ("loading " ++ invocation.configPath)
      IO.eprintln s!"Error: {reason}"
      return 1
    | .ok settings =>
      match invocation.command with
      | .run => run settings
      | .profiles =>
        IO.print CommandLine.profileTable
        return 0
      | .showConfig =>
        IO.print settings.render
        return 0

end VirtualRadio.Shell

/-- The program. -/
def main (arguments : List String) : IO UInt32 :=
  VirtualRadio.Shell.main arguments
