import LoadHarness.CommandLine.Session
import LoadHarness.Http.Wire
import LoadHarness.LoadTest.Live
import Std.Async.DNS
import Std.Async.System
import Std.Async.TCP

/-!
# The program

The outer layer: arguments, environment, files, clock and network. What to do with them is
decided elsewhere.
-/

namespace LoadHarness

namespace Program

open Std.Net
open Std.Async.TCP.Socket (Client Server)

/-! ## Files -/

/-- The message of a failure to read or write. -/
def fileMessage : IO.Error → String
  | .noFileOrDirectory .. => FileError.notFound.message
  | .alreadyExists .. => FileError.alreadyThere.message
  | .inappropriateType _ code _ =>
    if code = 20 then FileError.notADirectory.message else FileError.isADirectory.message
  | e => toString e

/-- The part of the file tree that a path leads to. -/
def lookAt (path : String) : IO FileTree := do
  let parts := (FileTree.partsOf path).filter fun part => part ≠ "" ∧ part ≠ "."
  let above := (List.range parts.length).map fun n => parts.take n
  try
    let contents ← IO.FS.readFile path
    return { directories := above, files := [(parts, contents)] }
  catch
    | .noFileOrDirectory .. => return .empty
    | _ => return { directories := above ++ [parts], files := [] }

/-- Writes a file, with the directories that lead to it. -/
def writeReport (r : RunReport) (path : String) : IO (Option String) := do
  let parent := FileTree.parentOf path
  try
    unless parent.isEmpty do IO.FS.createDirAll parent
  catch e =>
    return some ("failed to create report directory " ++ parent ++ ": " ++ fileMessage e)
  try
    IO.FS.writeFile path r.document
    return none
  catch e => return some ("failed to write run report to " ++ path ++ ": " ++ fileMessage e)

/-- Opens the log file of a day. -/
def openLog (l : LogSettings) (day : String) : IO (Option String) := do
  match l.directory with
  | none => return none
  | some directory =>
    try
      let path := CommandLine.logFile l directory day
      for place in [directory, FileTree.parentOf path] do
        unless place.isEmpty do IO.FS.createDirAll place
      discard <| IO.FS.Handle.mk path .append
      return none
    catch e => return some (fileMessage e)

/-! ## Network -/

def ipv4 (a : Ipv4) : IPv4Addr :=
  let byte (n : Nat) : UInt8 := UInt8.ofNat (a.value >>> (8 * n))
  .ofParts (byte 3) (byte 2) (byte 1) (byte 0)

def ipv6 (a : Ipv6) : IPv6Addr :=
  let group (n : Nat) : UInt16 := UInt16.ofNat (a.groups.getD n 0)
  .ofParts (group 0) (group 1) (group 2) (group 3) (group 4) (group 5) (group 6) (group 7)

def withPort (a : IPAddr) (port : Nat) : Std.Net.SocketAddress :=
  match a with
  | .v4 addr => .v4 ⟨addr, UInt16.ofNat port⟩
  | .v6 addr => .v6 ⟨addr, UInt16.ofNat port⟩

def socketAddress : LoadHarness.SocketAddress → Std.Net.SocketAddress
  | .v4 address port => withPort (.v4 (ipv4 address)) port
  | .v6 address _ port => withPort (.v6 (ipv6 address)) port

/-- The first address of a host. -/
def resolve (a : Url.Authority) : IO IPAddr := do
  match a.host with
  | .v4 address => return .v4 (ipv4 address)
  | .v6 address => return .v6 (ipv6 address)
  | .name text =>
    let found ← (Std.Async.DNS.getAddrInfo text "http").block
    match found[0]? with
    | some address => return address
    | none => throw (IO.userError "no address")

/-- Receives until bytes make a whole. -/
partial def receiveAll {α : Type} (client : Client) (read? : Bool → ByteArray → Option α)
    (bytes : ByteArray) : IO (Option α) := do
  match read? false bytes with
  | some a => return some a
  | none =>
    match ← (client.recv? 65536).block with
    | some more => receiveAll client read? (bytes ++ more)
    | none => return read? true bytes

/-- Sends a request and receives what comes back. -/
def exchange (r : HttpRequest) : IO HttpReply := do
  try
    let some authority := r.url.authority | return .nothing
    if r.url.scheme ≠ "http" then return .nothing
    let address ← resolve authority
    let client ← Client.mk
    (client.connect (withPort address (authority.port.getD 80))).block
    (client.send r.toBytes).block
    return (← receiveAll client HttpReply.ofBytes? .empty).getD .nothing
  catch _ => return .nothing

/-- Serves the page of metrics to one client after another, until it is cancelled. -/
partial def servePage (server : Server) (metrics : IO.Ref RunMetrics) : IO Unit := do
  if ← IO.checkCanceled then return
  match ← server.tryAccept with
  | none => IO.sleep 5
  | some client =>
    let m ← metrics.get
    try
      if let some page ← receiveAll client (fun _ => MetricsPage.ofBytes? m) .empty then
        (client.send page.toBytes).block
        client.shutdown.block
    catch _ => pure ()
  servePage server metrics

/-- Starts to serve the page of metrics; gives what ends it. -/
def startExporter (address : LoadHarness.SocketAddress) (metrics : IO.Ref RunMetrics) :
    IO (Except String (IO Unit)) := do
  try
    let server ← Server.mk
    server.bind (socketAddress address)
    server.listen 128
    let task ← IO.asTask (servePage server metrics) .dedicated
    return .ok (IO.cancel task)
  catch e =>
    return .error
      ("failed to start metrics exporter: " ++ address.bindMessage ++ ": " ++ toString e)

/-! ## Live runs -/

/-- A reply that came in, and the serial number of its request. -/
structure Arrival where
  serial : Nat
  reply : HttpReply
  latency : Duration

/-- A request that waits for its reply, up to a millisecond. -/
structure Outstanding where
  serial : Nat
  sent : Sent
  message : HttpRequest
  deadline : Nat

/-- What the parts of a live run share. -/
structure Shared where
  start : Nat
  arrivals : IO.Ref (List Arrival)
  metrics : IO.Ref RunMetrics

/-- Sends a request in a task of its own. -/
def dispatch (shared : Shared) (serial : Nat) (message : HttpRequest) : IO Unit := do
  discard <| IO.asTask do
    let before ← IO.monoNanosNow
    let reply ← exchange message
    let after ← IO.monoNanosNow
    shared.arrivals.modify (⟨serial, reply, ⟨after - before⟩⟩ :: ·)

/-- Carries out a live run to its end. -/
partial def drive (shared : Shared) (t : LoadTest) (serial : Nat) (waiting : List Outstanding)
    (run : LoadTest.LiveRun) : IO LoadTest.LiveRun := do
  let base := t.profile.target.baseUrl
  let now := ((← IO.monoNanosNow) - shared.start) / 1000000
  let arrivals ← shared.arrivals.modifyGet fun arrivals => (arrivals.reverse, [])
  let mut run := run.moveTo now
  let mut waiting := waiting
  for arrival in arrivals do
    if let some o := waiting.find? (·.serial == arrival.serial) then
      let given := Answer.ofReply base o.sent.request o.message arrival.reply
      run := LoadTest.LiveRun.receive o.sent.iteration given arrival.latency run
      waiting := waiting.filter (·.serial != arrival.serial)
  for o in waiting.filter (·.deadline ≤ now) do
    let given := Answer.ofReply base o.sent.request o.message .nothing
    run := LoadTest.LiveRun.receive o.sent.iteration given t.profile.target.requestTimeout run
  waiting := waiting.filter (now < ·.deadline)
  let (worked, more) := run.work t.liveWorkload
  let (sent, rest) := LoadTest.LiveRun.takeSent worked
  run := rest
  let mut serial := serial
  for s in sent do
    match HttpRequest.ofRequest? base s.request with
    | none => run := LoadTest.LiveRun.receive s.iteration (.unsendable base s.request) .zero run
    | some message =>
      dispatch shared serial message
      waiting := waiting ++ [⟨serial, s, message, now + t.profile.target.requestTimeout.millis⟩]
      serial := serial + 1
  shared.metrics.set run.crew.world.metrics
  if run.isFinished then return run
  unless more do IO.sleep 1
  drive shared t serial waiting run

/-- The present moment. -/
def present : IO Timestamp := do
  let now ← Std.Time.Timestamp.now
  let nanos := now.toNanosecondsSinceUnixEpoch.val
  return ⟨nanos / 1000000000, (nanos % 1000000000).toNat⟩

/-- Runs a profile to its report. -/
def runProfile (p : Profile) : IO CommandLine.Farewell := do
  let start ← present
  if let some message ← openLog p.logging (String.ofList (start.toText.toList.take 10)) then
    return .failed message
  match LoadTest.ofProfile p with
  | .error e => return .failed e.message
  | .ok t =>
    match p.toDocument with
    | .error e => return .failed (e.message ++ ": " ++ e.cause)
    | .ok document =>
      let shared : Shared :=
        { start := ← IO.monoNanosNow
          arrivals := ← IO.mkRef []
          metrics := ← IO.mkRef (.fresh p.scenario.errorSeries) }
      let mut stop : IO Unit := pure ()
      if p.exporter.enabled then
        match ← startExporter p.exporter.listen shared.metrics with
        | .error message => return .failed message
        | .ok action => stop := action
      if let some breakdown := t.executor.breakdown? then
        stop
        return .brokenDown breakdown
      let run ← drive shared t 0 [] t.beginLive
      stop
      let report := t.reportOf document ⟨start, ← present⟩ run
      if let some path := p.summaryPath then
        if let some message ← writeReport report path then
          return .failed message
      return .ofReport report

/-- Carries out what the arguments ask for. -/
def perform (arguments : List String) : IO CommandLine.Farewell := do
  let environment := (← Std.Internal.UV.System.osEnviron).toList
  let files ← match CommandLine.Options.ofArguments environment arguments with
    | .ok { configPath := some path, .. } => lookAt path
    | _ => pure .empty
  match CommandLine.Plan.ofArguments files environment arguments with
  | .finish farewell => return farewell
  | .test p => runProfile p

end Program

end LoadHarness

/-- Runs the program. -/
def main (arguments : List String) : IO UInt32 := do
  let farewell ← LoadHarness.Program.perform arguments
  IO.print farewell.output
  IO.eprint farewell.complaint
  return UInt32.ofNat farewell.status
