import SeverityLog.CommandLine.Run

/-!
# The program

The command line program on the real environment and file system. It opens no window.
-/

namespace SeverityLog

def environment : IO Environment := do
  let home ← IO.getEnv "HOME"
  let xdgConfigHome ← IO.getEnv "XDG_CONFIG_HOME"
  let logFilter ← IO.getEnv "RUST_LOG"
  pure { home, xdgConfigHome, logFilter }

def ReadFailure.ofError : IO.Error → ReadFailure
  | .noFileOrDirectory _ _ _ => .noSuchFile
  | .inappropriateType _ 21 _ => .isDirectory
  | .inappropriateType _ _ _ => .notDirectory
  | .otherError 36 _ => .nameTooLong
  | .permissionDenied _ _ _ => .other "Permission denied (os error 13)"
  | e => .other (toString e)

def isPresent (path : String) : IO Bool := do
  try
    let _ ← IO.FS.realPath path
    pure true
  catch _ => pure false

def lookup (path : String) : IO Lookup := do
  if path.contains (Char.ofNat 0) then pure (.failed .nulInName)
  else
    try
      let bytes ← IO.FS.readBinFile path
      pure (.file bytes)
    catch e =>
      match ReadFailure.ofError e with
      | .isDirectory => pure .directory
      | cause => if ← isPresent path then pure (.unreadable cause) else pure (.failed cause)

end SeverityLog

open SeverityLog CommandLine in
def main (words : List String) : IO UInt32 := do
  let e ← environment
  let found ← match configFile? words e with
    | some path => lookup path
    | none => pure (.failed .noSuchFile)
  let output := program "invalid document" words e (fun _ => found) (.error "no display")
  IO.print output.printed
  output.errors.forM IO.eprintln
  if output.exit = 2 then IO.eprintln usage
  pure output.exit.toUInt32
