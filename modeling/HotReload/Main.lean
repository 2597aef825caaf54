import HotReload.Command
/-!
The program: it copies the files that a command may look at to a disk, carries the
command out there, and copies back what has changed.
-/

namespace HotReload

/-- Copies what stands at each step of a path to the disk. -/
def loadPath (disk : Disk) (path : Path) : IO Disk := do
  let here ← IO.currentDir
  (List.range (path.parts.length + 1)).foldlM (fun disk n => do
    let step : Path := ⟨path.root, path.parts.take n⟩
    match disk.locate step with
    | .error _ => return disk
    | .ok location =>
        let place := here / String.ofList step.text
        if ← place.isDir then return disk.put location .directory
        else if ← place.pathExists then
          let content ← IO.FS.readBinFile place
          return disk.put location (.file content.toList)
        else return disk) disk

/-- Copies an entry of the disk to the file system. -/
def storeEntry (location : Location) (entry : Entry) : IO Unit := do
  let place := String.ofList ('/' :: Text.join ['/'] location)
  match entry with
  | .directory => IO.FS.createDirAll place
  | .file content => IO.FS.writeBinFile place ⟨content.toArray⟩

/-- Copies the entries that have changed, the oldest first. -/
def storeChanges (before after : Disk) : IO Unit :=
  after.entries.reverse.forM fun (location, entry) => do
    if before.entryAt location ≠ some entry then storeEntry location entry

/-- An event as a line. -/
def Event.line (event : Event) : Text := consoleLines (event.channel.name ++ ": " ++ event.message)

/-- Carries a command out on the file system. -/
def Invocation.run (invocation : Invocation) : IO UInt32 := do
  let here ← IO.currentDir
  let disk := Disk.empty (Path.ofText (toString here).toList).parts
  let disk ← (invocation.command.sources disk).foldlM loadPath disk
  let disk ← (invocation.command.templateSources disk).foldlM loadPath disk
  let outcome := invocation.command.execute disk {} .plain
  storeChanges disk outcome.disk
  if invocation.verbose then
    outcome.events.forM fun event => IO.eprint (String.ofList event.line)
  IO.print (String.ofList outcome.out)
  IO.eprint (String.ofList outcome.err)
  if outcome.stopped.isSome then IO.eprintln "The command met a value that it cannot handle."
  return outcome.status.toUInt32

end HotReload

/-- Reads the arguments and carries the command out. -/
def main (args : List String) : IO UInt32 :=
  match HotReload.Invocation.ofArguments? (args.map String.toList) with
  | some invocation => invocation.run
  | none => do
      IO.eprintln (String.ofList HotReload.usageText)
      return 2
