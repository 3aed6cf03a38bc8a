import Tether.Api.Routes
import Tether.Settings
/-!
# Main — the host as a program

The program finds its settings directory in `$DEVLINK_HOME`, else `.devlink` in the home
directory, and its settings file in `$DEVLINK_CONFIG`, else `devlink.json` in that
directory; a missing file means the default settings.  It keeps its documents (the last
selected device) in the settings directory, starts a host with the built-in plugins and
connects to the device selected last.

It then serves the web interface on its standard streams: every input line is one request,
`METHOD PATH`, optionally followed by a blank and a JSON body, and every answer is one
line, the status followed by the body.  At the end of the input the host stops.

Everything here is input and output around the pure host: reading the environment and
files, writing back the documents the host changed, and moving the host's clock along with
the time that passes.
-/

open Tether Tether.Json

set_option autoImplicit false

namespace Tether.Program

/-- The settings directory. -/
def settingsDir : IO String := do
  match ← IO.getEnv "DEVLINK_HOME" with
  | some dir => pure dir
  | none => pure (((← IO.getEnv "HOME").getD ".") ++ "/.devlink")

/-- The settings file of a settings directory. -/
def settingsPath (dir : String) : IO String := do
  pure ((← IO.getEnv "DEVLINK_CONFIG").getD (pathIn dir "devlink.json"))

/-- The text of a file, or none when there is no file at the path. -/
def readIfPresent (path : String) : IO (Option String) := do
  try
    pure (some (← IO.FS.readFile path))
  catch e =>
    match e with
    | .noFileOrDirectory _ _ _ => pure none
    | e => throw e

/-- The store of documents kept in a directory, with the last session if one is saved. -/
def loadStore (dir : String) : IO ConfigStore := do
  let store : ConfigStore := { kind := .files dir }
  let slot := store.kind.slot lastSessionKey
  match ← readIfPresent (pathIn dir slot) with
  | some text => pure (store.insert lastSessionKey text)
  | none => pure store

/-- Writes back the documents that changed between two states of a store, and removes
the files of the documents that went away. -/
def syncStore (dir : String) (before after : ConfigStore) : IO Unit := do
  for (slot, text) in after.docs do
    if before.docs.lookup slot != some text then
      IO.FS.createDirAll dir
      IO.FS.writeFile (pathIn dir slot) text
  for (slot, _) in before.docs do
    if (after.docs.lookup slot).isNone then
      try IO.FS.removeFile (pathIn dir slot) catch _ => pure ()

/-- Reads a request line: the method, the path and the rest as the body. -/
def requestOf (line : String) : Option HttpRequest :=
  match line.splitOn " " with
  | method :: path :: rest =>
    let body := " ".intercalate rest
    if body.isEmpty then some { method, path }
    else some { method, path, body := some body, contentType := some "application/json" }
  | _ => none

/-- The answer line of a response. -/
def responseLine (r : HttpResponse) : String :=
  let body := match r.body with
    | .json j => render j
    | .text t => t
    | .empty => ""
  if body.isEmpty then toString r.status else toString r.status ++ " " ++ body

/-- The microseconds since the program started. -/
def elapsed (start : Nat) : IO Nat := do
  pure (((← IO.monoNanosNow) - start) / 1000)

/-- Serves request lines until the input ends, and gives the host as it is then. -/
partial def serveLines (stdin stdout : IO.FS.Stream) (dir : String) (start : Nat) (h : Host) :
    IO Host := do
  let line ← stdin.getLine
  if line.isEmpty then return h
  let line := (line.dropEndWhile (fun c => c = '\n' ∨ c = '\r')).toString
  let h := h.advanceTo (← elapsed start)
  match requestOf line with
  | none =>
    stdout.putStrLn "400 expected METHOD PATH [BODY]"
    stdout.flush
    serveLines stdin stdout dir start h
  | some req =>
    let before := h.sessions.store
    let (r, h) := h.serve req
    let h := h.settle
    syncStore dir before h.sessions.store
    stdout.putStrLn (responseLine r)
    stdout.flush
    serveLines stdin stdout dir start h

end Tether.Program

open Tether.Program in
/-- Starts the host from its settings, serves requests from the standard input, and
stops it at the end. -/
def main : IO UInt32 := do
  let stderr ← IO.getStderr
  stderr.putStrLn "devlink starting..."
  let dir ← settingsDir
  let path ← settingsPath dir
  let content := match ← readIfPresent path with
    | some text => PathContent.file text
    | none => PathContent.missing
  match AppConfig.load path content with
  | .error e =>
    stderr.putStrLn ("Error: " ++ e.message)
    pure 1
  | .ok app =>
    let store ← loadStore dir
    match Host.start { config := app.runtime, store, origin := default } with
    | .error e =>
      stderr.putStrLn ("Error: " ++ e.message)
      pure 1
    | .ok h =>
      let start ← IO.monoNanosNow
      let before := h.sessions.store
      let (r, h) := h.settle.reconnectLast
      syncStore dir before h.sessions.store
      match r with
      | .ok (some id) => stderr.putStrLn ("Connected to " ++ id.val)
      | .ok none => stderr.putStrLn "No device selected yet"
      | .error e => stderr.putStrLn ("Could not reach last device: " ++ e.message)
      let h ← serveLines (← IO.getStdin) (← IO.getStdout) dir start h.settle
      let before := h.sessions.store
      let h := h.shutdown
      syncStore dir before h.sessions.store
      stderr.putStrLn "Shutdown complete"
      pure 0
