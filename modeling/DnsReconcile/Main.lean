import DnsReconcile.Cli

/-!
The program itself: reads the environment and the configuration file, and
writes what `Cli.main` decides. There is no network here, so the G-Core
provider reaches nobody.
-/

namespace DnsReconcile.Cli

def readConfigFile (path : String) : IO (Except Error String) := do
  try
    let bytes ← IO.FS.readBinFile path
    match String.fromUTF8? bytes with
    | some text => return .ok text
    | none => return .error (.io "stream did not contain valid UTF-8")
  catch e => return .error (.io (toString e))

def readEnvironment : IO (List (String × String)) := do
  let names := ["ZONESYNC_CONFIG", "ZONESYNC_MODE", "ZONESYNC_LOG_LEVEL",
    "ZONESYNC_PROVIDER_API_KEY"]
  let found ← names.mapM (fun name => do return (name, ← IO.getEnv name))
  return found.filterMap (fun (name, value) => value.map (name, ·))

end DnsReconcile.Cli

open DnsReconcile

def main : IO UInt32 := do
  let environment ← Cli.readEnvironment
  match Cli.Settings.ofEnvironment (fun name => List.lookup name environment) with
  | .error fault =>
    IO.eprintln s!"Configuration error: {fault.message}"
    return 1
  | .ok settings =>
    let file ← Cli.readConfigFile settings.configPath
    let (out, status, _) := Cli.main .offline settings file ()
    IO.print out.printed
    for message in out.log do
      if settings.logLevel.isWritten message.level then
        IO.eprintln message.line
    return status.code.toUInt32
