import SocksProxy.Launch

/-!
The command line program: it reads its arguments and the settings file, and reports the server that
they describe. Sockets are not its business; the server is driven by whoever holds them.
-/

open SocksProxy

def usageText : String :=
  "Usage: socksproxy [OPTIONS]\n\n" ++
  "  -p, --port <PORT>      port to listen on [default: 1080]\n" ++
  "  -l, --listen <IPADDR>  address to listen on [default: 0.0.0.0]\n" ++
  "  -u, --user <USERS>     a user who may authenticate, as name:pass; repeatable\n" ++
  "  -N, --no-sniffer       do not look for mail logins\n" ++
  "  -c, --config <CONFIG>  settings file in YAML\n" ++
  "  -h, --help             print this\n" ++
  "  -V, --version          print the version"

/-- The text of the settings file, if the line names one that can be read. -/
def readSettings (arguments : List String) : IO (Option String) := do
  match CommandLine.parse arguments with
  | .ok options =>
      match options.config with
      | some path =>
          try pure (some (← IO.FS.readFile path))
          catch _ => pure none
      | none => pure none
  | .error _ => pure none

def main (arguments : List String) : IO UInt32 := do
  let text ← readSettings arguments
  let launch := Launch.run arguments fun _ => text
  launch.log.forM fun entry => IO.eprintln entry.text
  match launch with
  | .stopped .help => IO.println usageText
  | .stopped .version => IO.println "socksproxy 0.1.0"
  | .stopped (.usage fault) => IO.eprintln fault.message
  | .failed during failure =>
      IO.eprintln ("Error: " ++ during ++ "\n\nCaused by:\n    " ++ failure.cause.message)
  | .started _ _ => pure ()
  pure launch.exitCode.toUInt32
