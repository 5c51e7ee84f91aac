import HatReel.Command.Program

/-!
The program: runs a command with the files that its words name, and prints what it says.
-/

open HatReel

/-- The files that words name, alone or behind an equals sign. -/
def readNamedFiles (words : List String) : IO Files.Store := do
  let mut store : Files.Store := {}
  for word in words do
    let name := String.ofList ((word.toList.dropWhile (· != '=')).drop 1)
    for path in [word, name] do
      match ← (IO.FS.readBinFile path).toBaseIO with
      | .error _ => pure ()
      | .ok content =>
        let path := Files.Path.ofText path
        store := (store.ensureDirectory path.parent).1
        match store.write path content.toList with
        | .ok next => store := next
        | .error _ => pure ()
  return store

def main (words : List String) : IO UInt32 := do
  let files ← readNamedFiles words
  let ended := Command.start words { files, journal := ⟨0, []⟩ }
  IO.print ended.world.console
  match ended.failure with
  | some (.settings fault) => IO.eprintln fault.message
  | some (.step fault) => IO.eprintln fault.message
  | none => pure ()
  return UInt32.ofNat ended.exitCode
