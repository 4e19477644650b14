import ModemLink.Bench.Line
import ModemLink.Daemon

/-!
# The daemon on the bench

The daemon is tried out on a host that has no modem. Its root is a directory, its null device
takes whatever is written and has nothing to read, and no other path exists.

Source: the specification, sections 10.9 and 10.10.
-/

namespace ModemLink.Bench

/-- A port to the null device, from which nothing can be read. -/
def nullPort (path : String) : Port :=
  { name := path, intake := { arrivals := [⟨0, .closed⟩] } }

/-- Opens a path of the host. -/
def openPath (path : String) : Except DaemonFault Port :=
  match path with
  | "/dev/null" => .ok (nullPort path)
  | "/" => .error (.device path "Is a directory (os error 21)")
  | _ => .error (.device path "No such file or directory (os error 2)")

/-- Connects one bearer over a port. -/
def connectOver (port : Port) (settings : Settings) : Except DaemonFault Ending :=
  let made := (Station.create { modem := settings.modem } settings.profile).value
  match made.2 with
  | .error fault => .error (.session fault)
  | .ok id =>
    match (Station.driveOn Line.channel (.serial { port }) (made.1.connect id)).value.2.2 with
    | .ended ending => .ok ending
    | _ => .ok (.error .canceled)

/-- Runs the daemon until its bearer is connected. -/
def runDaemon (arguments : List String) (env : List (String × String)) (file : Option String) :
    Except DaemonFault Achievement := do
  let settings ← (Settings.ofArguments arguments env file).mapError .settings
  let port ← openPath settings.device
  let ending ← connectOver port settings
  ending.mapError .session

end ModemLink.Bench
