import ModemLink.Sequence.Dial
import ModemLink.Sequence.Inspect
import ModemLink.Sequence.Teardown

/-!
# Operations

What can be under way on a modem: connecting a bearer, refreshing or ending its session, or
one of the three sequences by itself. Connecting is dialing followed by reading the
configuration; where the latter fails, the session is torn down before the fault is reported.
An operation asks for finitely many commands, and its rank bounds how many are left.

Source: the specification, sections 5 and 10.5.
-/

namespace ModemLink

/-- What an operation that succeeded has achieved. -/
inductive Achievement
  /-- A bearer is connected. -/
  | connected (connection : Connection)
  /-- The configuration of a bearer was read again. -/
  | refreshed (connection : Connection)
  /-- A bearer is disconnected. -/
  | disconnected
  /-- A context is dialed. -/
  | dialed (port : DataPort)
  /-- The configuration of a context was read. -/
  | inspected (connection : Connection)
  /-- A context is torn down. -/
  | tornDown
  deriving DecidableEq, Repr

/-- How an operation ends. -/
abbrev Ending := Except Fault Achievement

/-- An operation that waits for the answer to a command. -/
inductive Operation
  /-- A bearer connects, and its context is being dialed. -/
  | dialing (dial : Dial)
  /-- A bearer connects, and the configuration of its context is being read. -/
  | configuring (inspect : Inspect)
  /-- A bearer could not be connected, and its session is being torn down. -/
  | unwinding (cause : Fault) (teardown : Teardown)
  /-- A connected bearer reads its configuration again. -/
  | refreshing (inspect : Inspect)
  /-- A connected bearer ends its session. -/
  | disconnecting (teardown : Teardown)
  /-- A context is dialed for no bearer. -/
  | dialOnly (dial : Dial)
  /-- The configuration of a context is read for no bearer. -/
  | inspectOnly (inspect : Inspect)
  /-- A context is torn down for no bearer. -/
  | teardownOnly (teardown : Teardown)
  deriving DecidableEq, Repr

/-- What an operation does next. -/
abbrev Turn := Next Operation Ending

namespace Operation

/-- What is logged of one family of a new connection. -/
def familyEvents (family : String) : Option IpConfig → List Event
  | none => []
  | some config =>
    .address family config.address config.prefixLength ::
      (config.dns.zipIdx 1).map fun server => .nameServer family server.2 server.1

/-- What is logged of a new connection. -/
def connectionEvents (c : Connection) : List Event :=
  .connected c.port.name :: (familyEvents "IPv4" c.ipv4 ++ familyEvents "IPv6" c.ipv6)

/-- Ends connecting with a fault. -/
def giveUp (fault : Fault) : Logged Turn := do
  Logged.note (.connectionFailed fault)
  return .done (.error fault)

/-- Connecting, after the configuration has come to a request or to its end. -/
def afterInspect (port : DataPort) (cid : UInt32) :
    Next Inspect (Except Fault Connection) → Logged Turn
  | .ask request i => return .ask request (.configuring i)
  | .done (.ok connection) => do
    Logged.notes (connectionEvents connection)
    return .done (.ok (.connected connection))
  | .done (.error fault) => do
    Logged.note (.tearingDown fault)
    let request ← Teardown.start ⟨port, cid⟩
    return .ask request (.unwinding fault ⟨port, cid⟩)

/-- Connecting, after the dialing of a profile has come to a request or to its end. -/
def afterDial (profile : Profile) (cancelled : Bool) :
    Next Dial (Except Fault DataPort) → Logged Turn
  | .ask request d => return .ask request (.dialing d)
  | .done (.error fault) => giveUp fault
  | .done (.ok port) => do
    let next ← Inspect.start port profile.cid profile.family cancelled
    afterInspect port profile.cid next

/-- Begins to connect a bearer. -/
def connect (modem : Modem) (profile : Profile) : Logged Turn := do
  Logged.note (.connecting profile.cid profile.family)
  match ← Dial.ofModem modem profile with
  | .error fault => giveUp fault
  | .ok d =>
    let next ← d.proceed false
    afterDial profile false next

/-- The second reading of a configuration, after it has come to a request or to its end. -/
def afterRefresh (next : Next Inspect (Except Fault Connection)) : Turn :=
  next.map refreshing (·.map .refreshed)

/-- Begins to read the configuration of a connected bearer again. -/
def refresh (port : DataPort) (profile : Profile) : Logged Turn := do
  let next ← Inspect.start port profile.cid profile.family false
  return afterRefresh next

/-- Begins to end the session of a connected bearer. -/
def disconnect (port : DataPort) (cid : UInt32) : Logged Turn := do
  let request ← Teardown.start ⟨port, cid⟩
  return .ask request (.disconnecting ⟨port, cid⟩)

/-- Dialing for no bearer, after it has come to a request or to its end. -/
def afterDialOnly (next : Next Dial (Except Fault DataPort)) : Turn :=
  next.map dialOnly (·.map .dialed)

/-- Begins to dial for no bearer. -/
def dial (modem : Modem) (profile : Profile) (cancelled : Bool) : Logged Turn := do
  match ← Dial.ofModem modem profile with
  | .error fault => return .done (.error fault)
  | .ok d =>
    let next ← d.proceed cancelled
    return afterDialOnly next

/-- Reading a configuration for no bearer, after it has come to a request or to its end. -/
def afterInspectOnly (next : Next Inspect (Except Fault Connection)) : Turn :=
  next.map inspectOnly (·.map .inspected)

/-- Begins to read the configuration of a context for no bearer. -/
def inspect (port : DataPort) (cid : UInt32) (family : IpFamily) (cancelled : Bool) :
    Logged Turn := do
  let next ← Inspect.start port cid family cancelled
  return afterInspectOnly next

/-- Begins to tear a context down for no bearer. -/
def teardown (port : DataPort) (cid : UInt32) : Logged Turn := do
  let request ← Teardown.start ⟨port, cid⟩
  return .ask request (.teardownOnly ⟨port, cid⟩)

/-- Goes on with the answer to the current command. -/
def resume (cancelled : Bool) (answer : Answer) : Operation → Logged Turn
  | dialing d => do
    let next ← d.resume cancelled answer
    afterDial d.profile cancelled next
  | configuring i => do
    let next ← i.resume cancelled answer
    afterInspect i.found.port i.cid next
  | unwinding cause t => do
    t.finish answer
    giveUp cause
  | refreshing i => do
    let next ← i.resume cancelled answer
    return afterRefresh next
  | disconnecting t => do
    t.finish answer
    Logged.note .disconnected
    return .done (.ok .disconnected)
  | dialOnly d => do
    let next ← d.resume cancelled answer
    return afterDialOnly next
  | inspectOnly i => do
    let next ← i.resume cancelled answer
    return afterInspectOnly next
  | teardownOnly t => do
    t.finish answer
    return .done (.ok .tornDown)

/-- A bound on the commands the operation may still ask for, the current one included. -/
def rank : Operation → Nat
  | dialing d => d.rank + 5
  | configuring i => i.rank + 2
  | unwinding _ _ => 1
  | refreshing i => i.rank
  | disconnecting _ => 1
  | dialOnly d => d.rank
  | inspectOnly i => i.rank
  | teardownOnly _ => 1

private theorem rank_of_afterInspect {port : DataPort} {cid : UInt32}
    {next : Next Inspect (Except Fault Connection)} {request : Request} {after : Operation}
    (h : (afterInspect port cid next).value = .ask request after) :
    after.rank = 1 ∨ ∃ i, next = .ask request i ∧ after.rank = i.rank + 2 := by
  match next with
  | .ask r i =>
    simp only [afterInspect, Logged.value_pure, Next.ask.injEq] at h
    exact .inr ⟨i, by rw [h.1], by rw [← h.2, rank]⟩
  | .done (.ok connection) => simp [afterInspect] at h
  | .done (.error fault) =>
    simp only [afterInspect, Logged.value_bind, Logged.value_pure, Next.ask.injEq] at h
    exact .inl (by rw [← h.2, rank])

private theorem rank_of_afterDial {profile : Profile} {cancelled : Bool}
    {next : Next Dial (Except Fault DataPort)} {request : Request} {after : Operation}
    (h : (afterDial profile cancelled next).value = .ask request after) :
    after.rank ≤ 4 ∨ ∃ d, next = .ask request d ∧ after.rank = d.rank + 5 := by
  match next with
  | .ask r d =>
    simp only [afterDial, Logged.value_pure, Next.ask.injEq] at h
    exact .inr ⟨d, by rw [h.1], by rw [← h.2, rank]⟩
  | .done (.error fault) => simp [afterDial, giveUp] at h
  | .done (.ok port) =>
    simp only [afterDial, Logged.value_bind] at h
    rcases rank_of_afterInspect h with hr | ⟨i, hi, hr⟩
    · omega
    · have := Inspect.rank_le_of_start hi
      omega

/-- An operation asks for fewer commands after every answer. -/
theorem rank_lt_of_resume {op after : Operation} {cancelled : Bool} {answer : Answer}
    {request : Request} (h : (op.resume cancelled answer).value = .ask request after) :
    after.rank < op.rank := by
  have hdial {d d' : Dial} (hn : (d.resume cancelled answer).value = .ask request d') :
      d'.rank < d.rank := Sequence.rank_lt_of_resume Dial.rank_lt_of_advance hn
  have hinspect {i i' : Inspect} (hn : (i.resume cancelled answer).value = .ask request i') :
      i'.rank < i.rank := Sequence.rank_lt_of_resume Inspect.rank_lt_of_advance hn
  cases op with
  | dialing d =>
    simp only [resume, Logged.value_bind] at h
    have hd : rank (dialing d) = d.rank + 5 := rfl
    rcases rank_of_afterDial h with hr | ⟨d', hn, hr⟩
    · omega
    · have := hdial hn
      omega
  | configuring i =>
    simp only [resume, Logged.value_bind] at h
    have hi : rank (configuring i) = i.rank + 2 := rfl
    rcases rank_of_afterInspect h with hr | ⟨i', hn, hr⟩
    · omega
    · have := hinspect hn
      omega
  | unwinding cause t => simp [resume, giveUp] at h
  | refreshing i =>
    obtain ⟨i', hn, rfl⟩ := Next.of_map_eq_ask h
    exact hinspect hn
  | disconnecting t => simp [resume] at h
  | dialOnly d =>
    obtain ⟨d', hn, rfl⟩ := Next.of_map_eq_ask h
    exact hdial hn
  | inspectOnly i =>
    obtain ⟨i', hn, rfl⟩ := Next.of_map_eq_ask h
    exact hinspect hn
  | teardownOnly t => simp [resume] at h

end Operation

end ModemLink
