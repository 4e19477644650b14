import ModemLink.Daemon
import ModemLink.Port
import ModemLink.Station

/-!
# The command line

Opens the command port, connects one bearer and holds its session until standard input ends.
Everything is decided by the station and the port; here bytes are carried between the port and
the device, and the clock is read.

Source: the specification, sections 10.8 and 10.9.
-/

namespace ModemLink

/-- The words of the operating system for a failure. -/
def failureText : IO.Error → String
  | .noFileOrDirectory _ code details | .interrupted _ code details
  | .alreadyExists _ code details | .invalidArgument _ code details
  | .permissionDenied _ code details | .resourceExhausted _ code details
  | .inappropriateType _ code details | .noSuchThing _ code details
  | .otherError code details | .resourceBusy code details | .resourceVanished code details
  | .unsupportedOperation code details | .hardwareFault code details
  | .unsatisfiedConstraints code details | .illegalOperation code details
  | .protocolError code details | .timeExpired code details =>
    details ++ " (os error " ++ toString code ++ ")"
  | other => toString other

/-- An open device. -/
structure Device where
  /-- Answers are read here. -/
  input : IO.FS.Handle
  /-- Commands are written here. -/
  output : IO.FS.Handle
  /-- The read that has begun and not yet been taken. -/
  reading : IO.Ref (Option (Task (Except IO.Error ByteArray)))

/-- Opens a device. -/
def Device.start (path : String) : IO Device := do
  let output ← IO.FS.Handle.mk path .readWrite
  let input ← IO.FS.Handle.mk path .read
  return { input, output, reading := ← IO.mkRef none }

/-- What a finished read has brought. -/
def inputOf : Except IO.Error ByteArray → List Input
  | .ok bytes => if bytes.isEmpty then [.closed] else bytes.toList.map .byte
  | .error e => [.broken (failureText e)]

/-- Takes what a read has brought, if it has ended, and sees to it that one is under way. -/
def Device.poll (d : Device) : IO (List Input) := do
  match ← d.reading.get with
  | none =>
    d.reading.set (some (← IO.asTask (d.input.read 1) .dedicated))
    return []
  | some task =>
    if ← IO.hasFinished task then
      d.reading.set none
      return inputOf task.get
    else return []

/-- Shows what matters of a log. -/
def showLog (log : List Event) : IO Unit :=
  for e in log do
    if e.level ≠ .debug then IO.println e.line

/-- The present instant in microseconds. -/
def present : IO Nat :=
  return (← IO.monoMsNow) * 1000

/-- Hands the port what has come in. -/
def receive (p : Port) (got : List Input) : IO Port := do
  let now ← present
  let heard := Port.advance
    { p with intake := p.intake.enqueue (got.map fun input => ⟨now, input⟩) } (.upTo now)
  showLog heard.log
  return heard.value

/-- Writes what the port sends. A failure to write is told to the port. -/
def Device.give (d : Device) (p : Port) : IO Port := do
  try
    for text in p.sent do
      d.output.putStr text
    d.output.flush
    return { p with sent := [] }
  catch e =>
    return { p with
      sent := []
      intake := p.intake.enqueue [⟨p.clock, .broken (failureText e)⟩] }

/-- Waits until the calls of the port are over. -/
partial def Device.await (d : Device) (p : Port) : IO (Port × Answer) := do
  let p ← d.give p
  let got ← d.poll
  let p ← receive p got
  match p.ended.getLast? with
  | some ended => return ({ p with ended := [] }, ended.answer.getD (.error .canceled))
  | none =>
    if got.isEmpty then IO.sleep 1
    d.await p

/-- Carries an operation to its end. -/
partial def Device.carry (d : Device) (p : Port) (moved : Logged (Station × Progress)) :
    IO (Station × Port × Ending) := do
  showLog moved.log
  match moved.value with
  | (s, .waits ticket request) =>
    let called := p.call (← present) { ticket, command := request.command }
    showLog called.log
    let (p, answer) ← d.await called.value
    d.carry p (s.answer ticket answer)
  | (s, .ended ending) => return (s, p, ending)
  | (s, .unknown) => return (s, p, .error .canceled)

/-- Waits until standard input ends. -/
partial def untilInputEnds (input : IO.FS.Stream) : IO Unit := do
  unless (← input.getLine).isEmpty do untilInputEnds input

/-- The variable that one text of the form `KEY=VALUE` sets. -/
def variableOf (text : List Char) : String × String :=
  (String.ofList (text.takeWhile (· != '=')), String.ofList ((text.dropWhile (· != '=')).drop 1))

/-- The variables of the process: those that settings are read from, and where the system
lists them the others, to which a variable file may refer. -/
def processVariables : IO Variables := do
  let named ← Settings.variableNames.filterMapM fun key => return (← IO.getEnv key).map (key, ·)
  let all ←
    try
      let bytes ← IO.FS.readBinFile "/proc/self/environ"
      pure (((Text.Utf8.decode bytes.toList).splitOn '\x00').map variableOf)
    catch _ => pure []
  return named ++ all

/-- The variable file of the working directory. -/
def variableFile : IO (Option String) :=
  try return some (← IO.FS.readFile ".env") catch _ => return none

/-- Gives up where a step failed. -/
def orGiveUp {ε α : Type} (fault : ε → DaemonFault) (result : Except ε α) :
    ExceptT DaemonFault IO α :=
  ExceptT.mk (pure (result.mapError fault))

/-- Runs the daemon. -/
def runDaemon (arguments : List String) : ExceptT DaemonFault IO Unit := do
  let settings ← orGiveUp .settings
    (Settings.ofArguments arguments (← processVariables) (← variableFile))
  let device ← orGiveUp (fun e => .device settings.device (failureText e))
    (← (Device.start settings.device).toBaseIO)
  let (s, made) := (Station.create { modem := settings.modem } settings.profile).value
  let id ← orGiveUp .session made
  let (s, p, ending) ← device.carry { name := settings.device } (s.connect id)
  discard (orGiveUp .session ending)
  untilInputEnds (← IO.getStdin)
  let (_, _, ending) ← device.carry p (s.disconnect id)
  discard (orGiveUp .session ending)

end ModemLink

/-- Runs the daemon and reports why it gave up. -/
def main (arguments : List String) : IO UInt32 := do
  match ← ModemLink.runDaemon arguments with
  | .ok () => return 0
  | .error fault =>
    IO.eprint fault.report
    return 1
