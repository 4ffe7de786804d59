import FleetWatch.CommandLine
import FleetWatch.Gateway.HttpMessage
import Std.Async.DNS
import Std.Async.TCP
import Std.Async.Timer
import Std.Internal.UV.System

/-! # The program

Carries out what the command line asks for: reads the settings, talks to the gateway, and prints or
saves what came of it.
-/

namespace FleetWatch.Program

open Std.Async (Async)

/-- Why a file could not be used. -/
def reason : IO.Error → String
  | .noFileOrDirectory .. => "No such file or directory (os error 2)"
  | .permissionDenied .. => "Permission denied (os error 13)"
  | .inappropriateType .. => "Is a directory (os error 21)"
  | e => toString e

def settingsText (path : String) : IO (Except SettingsError (Option String)) := do
  try
    match String.fromUTF8? (← IO.FS.readBinFile path) with
    | some text => return .ok (some text)
    | none => return .error .malformed
  catch
    | .noFileOrDirectory .. => return .ok none
    | _ => return .error .malformed

/-- Reads from a connection until the answer is complete or the connection ends. -/
partial def receive (socket : Std.Async.TCP.Socket.Client) (bytes : Bytes) : Async Exchange := do
  match HttpAnswer.exchange? false bytes with
  | some exchange => return exchange
  | none =>
    match ← socket.recv? 65536 with
    | some more => receive socket (bytes ++ more.toList)
    | none => return (HttpAnswer.exchange? true bytes).getD .brokenOff

/-- Sends a request to a host and waits for the answer. -/
def converse (request : HttpRequest) : Async Exchange := do
  let host := String.ofList ((request.url.host.getD []).filter fun c => c ≠ '[' && c ≠ ']')
  let port := request.url.port.getD 80
  let socket ← Std.Async.TCP.Socket.Client.mk
  try
    let addresses ← Std.Async.DNS.getAddrInfo host port.repr
    match addresses.toList with
    | .v4 address :: _ => socket.connect (.v4 ⟨address, port.toUInt16⟩)
    | .v6 address :: _ => socket.connect (.v6 ⟨address, port.toUInt16⟩)
    | [] => return .unreachable
  catch _ => return .unreachable
  try
    socket.send ⟨request.message.toArray⟩
    receive socket []
  catch _ => return .brokenOff

/-- How the exchange of a request ends. Only plain connections can be made. -/
def exchange (timeout : Duration) (request : HttpRequest) : IO Exchange := do
  if request.url.scheme ≠ "http".toList then return .unreachable
  let expire : Async Exchange := do
    Std.Async.sleep (.ofNat (timeout.nanos / 1000000))
    return .timedOut
  (Async.race (converse request) expire).block

def network (gateway : Gateway) (timeout : Duration) (calls : List AdminCall) :
    IO (HttpRequest → Exchange) := do
  let requests := calls.filterMap fun call => (gateway.request? call).toOption
  let ended ← requests.mapM fun request => return (request, ← exchange timeout request)
  return fun request => ((ended.find? (·.1 = request)).map Prod.snd).getD .unreachable

def wallClock : IO Timestamp := do
  let now := (← Std.Time.Timestamp.now).toNanosecondsSinceUnixEpoch.toInt
  return ⟨now.fdiv 1000000000, (now.fmod 1000000000).toNat⟩

def fail (messages : List String) : IO UInt32 := do
  IO.eprintln (CommandLine.failureText messages)
  return 1

/-- Carries out a task under settings. -/
def perform (task : CommandLine.Task) (settings : Settings) (timeout : Duration) : IO UInt32 := do
  let gateway := Gateway.ofEndpoint settings.endpoint
  match task with
  | .watch => fail CommandLine.terminalFailure
  | .check =>
    match CommandLine.checkHealth gateway (← network gateway timeout [.health]) with
    | .error failure => fail failure
    | .ok line =>
      IO.println line
      return 0
  | .save path =>
    let seen ← network gateway timeout [.stats, .clusters]
    match CommandLine.fetchDocument gateway seen (← wallClock) with
    | .error failure => fail failure
    | .ok document =>
      try
        IO.FS.writeBinFile path ⟨document.toArray⟩
        IO.println (CommandLine.savedText path)
        return 0
      catch e => fail (CommandLine.saveFailure path (reason e))

/-- Reads the settings, opens the log and carries out what the arguments ask for. -/
def run (line : CommandLine) : IO UInt32 := do
  let environment := (← Std.Internal.UV.System.osEnviron).toList
  let loaded ← settingsText line.config
  match loaded.bind fun text => line.settings text environment with
  | .error e => fail e.messages
  | .ok settings =>
    if let some path := settings.logFile then
      try
        discard <| IO.FS.Handle.mk path .append
      catch e => return ← fail (CommandLine.logFailure path (reason e))
    match settings.timeout with
    | .error e => fail e.messages
    | .ok timeout => perform line.task settings timeout

end FleetWatch.Program

def main (arguments : List String) : IO UInt32 := do
  match FleetWatch.CommandLine.parse arguments with
  | .ok line => FleetWatch.Program.run line
  | .error refusal =>
    if refusal.exitCode = 0 then IO.print FleetWatch.CommandLine.usage
    else IO.eprint FleetWatch.CommandLine.usage
    return refusal.exitCode
