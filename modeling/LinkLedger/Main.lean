import LinkLedger.Log.Moment
import LinkLedger.Service
import Std.Async.Select
import Std.Async.Signal
import Std.Async.TCP
import Std.Time.DateTime.Timestamp

/-!
# The program

Where the program meets the machine: the environment and the clock are read, one file is read and
written back, lines are printed, and the gateway's connections are accepted. What is done with all
that is decided elsewhere.
-/

set_option autoImplicit false

namespace LinkLedger

open LinkLedger.Address LinkLedger.CommandLine LinkLedger.Http
open Std.Async Std.Async.TCP.Socket

/-! ## The machine -/

/-- The time of the clock as it stands in front of lines of the log. -/
def clockText : IO String := do
  let stamp ← Std.Time.Timestamp.now
  return (Log.Moment.mk (stamp.toNanosecondsSinceUnixEpoch.val.toNat / 1000)).text

def readEnvironment : IO Environment :=
  variableNames.filterMapM fun name => do
    return (← IO.getEnv name).map fun value => (name, value)

/-- The disk as far as it matters under some settings. A missing file is made if opening it makes
it, which shows whether its directory is there. -/
def readDisk (s : Settings) : IO Disk := do
  let some url := databaseOf s | return .bare
  let some path := url.file? | return .bare
  match ← (IO.FS.readBinFile path).toBaseIO with
  | .ok content => return .around path (some content)
  | .error (.noFileOrDirectory _ _ _) =>
    if !url.makesFile then return .around path none
    match ← (IO.FS.Handle.mk path .append).toBaseIO with
    | .ok _ => return .around path none
    | .error _ => return .bare
  | .error _ => return .bare

/-- Writes back what `readDisk` reads. -/
def writeDisk (s : Settings) (disk : Disk) : IO Unit := do
  let some path := (databaseOf s).bind DatabaseUrl.file? | return
  let some database := disk.file? (.ofText path) | return
  IO.FS.writeFile path database.image

def printLines (lines : List String) : IO Unit := do
  let out ← IO.getStdout
  lines.forM out.putStrLn
  out.flush

/-- Prints what a run prints, and gives what it ends with. -/
def print (p : Printed) : IO UInt32 := do
  printLines p.output
  let errors ← IO.getStderr
  p.errors.forM errors.putStrLn
  return p.code.toUInt32

/-! ## The network -/

/-- The address to listen at. Zones are left out. -/
def listenAddress : SocketAddress → Option Std.Net.SocketAddress
  | .v4 [a, b, c, d] port =>
    some (.v4 ⟨.ofParts a.toUInt8 b.toUInt8 c.toUInt8 d.toUInt8, port.toUInt16⟩)
  | .v6 [a, b, c, d, e, f, g, h] _ port =>
    some (.v6 ⟨.ofParts a.toUInt16 b.toUInt16 c.toUInt16 d.toUInt16 e.toUInt16 f.toUInt16
      g.toUInt16 h.toUInt16, port.toUInt16⟩)
  | _ => none

/-- An address that is listened at. -/
def boundAddress : Std.Net.SocketAddress → SocketAddress
  | .v4 a => .v4 (a.addr.octets.toList.map UInt8.toNat) a.port.toNat
  | .v6 a => .v6 (a.addr.segments.toList.map UInt16.toNat) 0 a.port.toNat

/-- Listens at an address; gives the socket and the address with the port that was chosen. -/
def openSocket (address : SocketAddress) : IO (Server × SocketAddress) := do
  let some wanted := listenAddress address | throw (IO.userError noNetwork)
  let socket ← Server.mk
  socket.bind wanted
  socket.listen 128
  return (socket, boundAddress (← socket.getSockName))

/-- Reads a request from a connection, or finds that what comes is none. -/
partial def receive (client : Client) (seen : List UInt8) : Async (Option Request) := do
  match Request.ofBytes seen with
  | .whole request => return some request
  | .malformed => return none
  | .unfinished =>
    match ← client.recv? 65536 with
    | none => return none
    | some bytes => receive client (seen ++ bytes.toList)

/-- Answers the request that comes over a connection. -/
def attend (service : IO.Ref Service) (client : Client) : Async Unit := do
  try
    match ← receive client [] with
    | none => client.send Service.toNonsense.wire.toUTF8
    | some request =>
      let time ← clockText
      let served ← service.modifyGet fun s =>
        let served := s.answer time request
        (served, served.service)
      printLines served.log
      writeDisk served.service.ready.settings (served.service.saveTo .bare)
      client.send served.response.wire.toUTF8
    client.shutdown
  catch _ => return

/-- Accepts connections until the program is interrupted. -/
partial def accept (service : IO.Ref Service) (socket : Server) (interrupt : Signal.Waiter) :
    Async Unit := do
  let client : Option Client ← Selectable.one #[
    .case interrupt.selector fun _ => return none,
    .case socket.acceptSelector fun client => return some client]
  match client with
  | none => return
  | some client =>
    background (attend service client)
    accept service socket interrupt

/-- Runs the gateway. -/
def serve (ready : Ready) (listen : SocketAddress) (base : String) : IO UInt32 := do
  let log (event : Event) : IO Unit := do printLines (ready.logLines (← clockText) [event])
  let fail (failure : RunFailure) : IO UInt32 := print (.ofResult [] (.error failure))
  log (.opening ready.settings.storage.name)
  match Service.start ready base (← readDisk ready.settings) with
  | .error failure => fail failure
  | .ok service =>
    writeDisk ready.settings (service.saveTo .bare)
    match ← (openSocket listen).toBaseIO with
    | .error reason => fail (.cannotListen reason.toString)
    | .ok (socket, address) =>
      log (.serving address.text base)
      let interrupt ← Signal.Waiter.mk .sigint false
      (accept (← IO.mkRef service) socket interrupt).block
      log .stopped
      return 0

end LinkLedger

open LinkLedger in
/-- Reads the command line, runs the program and prints what it prints. -/
def main (arguments : List String) : IO UInt32 := do
  let invocation : Invocation := ⟨arguments, ← readEnvironment⟩
  match invocation.prepare with
  | .error printed => print printed
  | .ok ready =>
    match ready.settings.command with
    | .serve listen base => serve ready listen base
    | .make _ | .resolve _ =>
      let disk ← readDisk ready.settings
      let (printed, disk) := ready.run (← clockText) disk
      writeDisk ready.settings disk
      print printed
