import AnalystQuery.Command.Line
import AnalystQuery.Http.Message
import AnalystQuery.Pipeline.Network
import Std.Async.DNS
import Std.Async.TCP
import Std.Async.Timer
import Std.Time.DateTime.Timestamp

/-! The program. It reads the command line, the files and the clock, makes connections for the
requests of a command, and prints how the command ends. Only plain connections are made: a
server that wants a secure one counts as one that does not listen. -/

namespace AnalystQuery.Main

open Std.Async
open Std.Net (IPAddr SocketAddress)

private def socketAddress (host : IPAddr) (port : Nat) : SocketAddress :=
  match host with
  | .v4 host => .v4 ⟨host, port.toUInt16⟩
  | .v6 host => .v6 ⟨host, port.toUInt16⟩

private def connectFirst? (port : Nat) : List IPAddr → Async (Option TCP.Socket.Client)
  | [] => pure none
  | host :: others => do
    let client ← TCP.Socket.Client.mk
    let connected ← try
        client.connect (socketAddress host port)
        pure true
      catch _ => pure false
    if connected then pure (some client) else connectFirst? port others

private def connect? (address : Http.Address) : Async (Option TCP.Socket.Client) := do
  if address.isSecure then pure none
  else
    let host := address.host.elim [] Http.Host.render
    let name := String.ofList (host.filter fun c => c != '[' && c != ']')
    let hosts ← try DNS.getAddrInfo name (toString address.portNumber) catch _ => pure #[]
    connectFirst? address.portNumber hosts.toList

private partial def receiveAll (client : TCP.Socket.Client) (received : ByteArray) :
    Async ByteArray := do
  match ← client.recv? 65536 with
  | some bytes => receiveAll client (received ++ bytes)
  | none => pure received

private def talk (request : Http.Request) (address : Http.Address) : Async Http.Reply := do
  match ← connect? address with
  | none => pure .refused
  | some client =>
    try
      client.send (request.bytes address)
      pure (.ofBytes (← receiveAll client .empty))
    catch _ => pure .dropped

private def waitFor (millis : Nat) : Async Http.Reply := do
  sleep (.ofNat millis)
  pure .late

private def post (request : Http.Request) (patience : Nat) : IO Pipeline.Exchange := do
  match Http.Address.read? request.url with
  | none => pure ⟨0, .refused⟩
  | some address =>
    let start ← IO.monoMsNow
    let reply ← Async.block (Async.race (talk request address) (waitFor patience))
    let delay := (← IO.monoMsNow) - start
    pure ⟨if reply == .late then max patience delay else delay, reply⟩

/-- The cause with a code of the system, which may come with a sign. -/
private def systemError (text : String) (code : UInt32) : FileError :=
  match (min code (0 - code)).toNat with
  | 2 => .missing
  | 20 => .notDirectory
  | 21 => .isDirectory
  | 36 => .nameTooLong
  | code => .system text code

private def fileError (cause : IO.Error) : FileError :=
  match cause with
  | .noFileOrDirectory _ code text => systemError text code
  | .inappropriateType _ code text => systemError text code
  | .invalidArgument _ code text => systemError text code
  | .permissionDenied _ code text => systemError text code
  | .userError _ => .notText
  | other => systemError (toString other) 0

private def readText (path : String) : IO (Except FileError String) := do
  try
    let text ← IO.FS.readFile path
    pure (.ok text)
  catch cause => pure (.error (fileError cause))

private def pathIn (place : Settings.Place) (name : String) : IO String := do
  let home := (← IO.getEnv "HOME").getD ""
  match place with
  | .workingDirectory => pure name
  | .home => pure (home ++ "/" ++ name)
  | .configuration =>
    match (← IO.getEnv "XDG_CONFIG_HOME").filter (·.startsWith "/") with
    | some directory => pure (directory ++ "/" ++ name)
    | none => pure (home ++ "/.config/" ++ name)

private def readUsualFiles :
    IO (List ((Settings.Place × String) × Except FileError String)) :=
  Settings.usualFiles.mapM fun (place, name) => do
    pure ((place, name), ← readText (← pathIn place name))

private def readSettings (invocation : Command.Invocation) :
    IO (Except SettingsError Settings) := do
  match invocation.config with
  | some path =>
    let text ← readText path
    pure (invocation.settings (fun _ => text) fun _ _ => .error .missing)
  | none =>
    let files ← readUsualFiles
    pure (invocation.settings (fun _ => .error .missing) fun place name =>
      (files.lookup (place, name)).getD (.error .missing))

private def presentInstant : IO Calendar.Instant := do
  let now ← Std.Time.Timestamp.now
  match Calendar.Instant.ofEpochMillis? now.toMillisecondsSinceUnixEpoch.val with
  | some instant => pure instant
  | none => throw (IO.userError "the clock is beyond the calendar")

private def runCommand (settings : Settings) (command : Command) : IO Command.Ending := do
  let text ← match command.file? with
    | some path => readText path
    | none => pure (.error .missing)
  let surroundings : Command.Surroundings := ⟨fun _ => text, ← presentInstant⟩
  let plan := command.run surroundings settings
  let output ← plan.performOverNetwork post settings (← IO.getEnv "REASONING_API_KEY")
  pure output.ending

private def runLine (arguments : List String) : IO Command.Ending := do
  match Command.readLine arguments with
  | .error lineEnd => pure lineEnd.ending
  | .ok invocation =>
    match ← readSettings invocation with
    | .error cause => pure (Command.settingsEnding cause)
    | .ok settings => runCommand settings invocation.command

end AnalystQuery.Main

/-- Runs a command line. Results go to the standard output, everything else to the standard
error. -/
def main (arguments : List String) : IO UInt32 := do
  let ending ← AnalystQuery.Main.runLine arguments
  IO.print ending.printed
  if let some metrics := ending.metrics then IO.eprint metrics
  if let some message := ending.message then IO.eprintln ("Error: " ++ message)
  pure ending.exitCode.toUInt32
