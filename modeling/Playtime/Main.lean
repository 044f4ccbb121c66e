import Playtime.Daemon

namespace Playtime.Main

def readVariables : List String → IO Variables
  | [] => pure ∅
  | name :: rest => do
    let others ← readVariables rest
    match ← IO.getEnv name with
    | some value => pure (others.insert name (Text.toUtf8 value))
    | none => pure others

def absolute (path : List String) : String := "/" ++ "/".intercalate path

def readFiles (disk : Disk) : List (List String) → IO Disk
  | [] => pure disk
  | path :: rest => do
    try
      let bytes ← IO.FS.readBinFile (absolute path)
      readFiles ((disk.createDirectories path.dropLast).2.put path (.file bytes.toList)) rest
    catch _ => readFiles disk rest

/-- Brings the files from one state to another in which nothing is gone. -/
def writeBack (before : Disk) : List (Place × Entry) → IO Unit
  | [] => pure ()
  | (place, entry) :: rest => do
    let path := absolute place
    match entry with
    | .directory => IO.FS.createDirAll path
    | .file bytes =>
      if before.entries[place]? ≠ some entry then IO.FS.writeBinFile path ⟨bytes.toArray⟩
    | .database _ => pure ()
    writeBack before rest

/-- The wall clock is not read: nothing that the daemon does by itself depends on it. -/
def clock : Int64 := 0

def run : IO UInt32 := do
  let environment ← readVariables Settings.variableNames
  let surroundings : Surroundings := ⟨(← IO.currentDir).toString, fun _ => .memory⟩
  let disk ← readFiles .empty ((Path.upward (Path.ofText surroundings.home)).map (· ++ [".env"]))
  let settings := Settings.load surroundings environment disk
  let directory := settings.directory surroundings
  let disk ← readFiles disk [NameFile.path directory settings.stem, TimeFile.path directory settings.stem]
  match Daemon.start surroundings .ascending environment ⟨disk, [], clock⟩ with
  | (.error error, host) =>
    writeBack disk host.disk.entries.toList
    (← IO.getStderr).putStr error.report
    pure 1
  | (.ok daemon, host) =>
    writeBack disk host.disk.entries.toList
    match daemon.total with
    | .ok total => IO.println ("Total recorded online time: " ++ toString total.toInt ++ "s")
    | .error error => IO.println ("Could not compute total online time: " ++ error.message)
    (← IO.getStdout).flush
    let _ ← (← IO.getStdin).getLine
    writeBack disk daemon.stop.disk.entries.toList
    pure 0

end Playtime.Main

def main : IO UInt32 := Playtime.Main.run
