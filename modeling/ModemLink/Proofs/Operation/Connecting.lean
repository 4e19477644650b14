import ModemLink.Proofs.Sequence.DialPath

/-!
# Connecting, when every command succeeds

Connecting is dialing and then two queries. Where every command succeeds, and the three replies
that are read can be read, connecting puts these commands and no others, and ends with what the
replies tell.

## Main definitions

* `Dial.plan`: the commands of connecting, in order.
* `Connection.assigned`: the connection that addresses and name servers make up.

## Main results

* `Operation.course_connect`: the course of connecting.
-/

namespace ModemLink

/-- The commands of connecting on the port of an attempt to dial, in order. -/
def Dial.plan (d : Dial) (active : Bool) : List Command :=
  (if active then d.shortcut else d.commands) ++ [.addressQuery d.profile.cid, .nameServerQuery]

/-- The connection on a data port that was assigned addresses and name servers: the servers of a
family belong to the address of that family. -/
def Connection.assigned (port : DataPort) (addresses : Reply.Addresses)
    (servers : Reply.NameServers) : Connection where
  port
  ipv4 := addresses.ipv4.map fun address => { address, dns := servers.ipv4 }
  ipv6 := addresses.ipv6.map fun address => { address, dns := servers.ipv6 }

namespace Operation

variable {ω : Type} {reply : Command → String}

/-- The requests of commands that can be interrupted. -/
def interruptible (commands : List Command) : List Request :=
  commands.map fun command => ⟨command, true⟩

/-! ### Dialing -/

section Dialing

variable {d next : Dial} {rounds : List (Round ω)} {stop : Stop Ending ω}

/-- A connecting bearer goes on to the next step of dialing. -/
theorem course_dialing {command : Command} (hcommand : d.command? = some command)
    (hadvance : (d.advance (reply command)).value = .ok next)
    (hrest :
      (afterDial d.profile false (next.proceed false).value).value.Course false rounds stop) :
    (afterDial d.profile false (d.proceed false).value).value.Course false
      (Round.replied reply (interruptible [command]) ++ rounds) stop := by
  rw [Dial.value_proceed_false hcommand]
  refine .answered ?_
  have hresume : (d.resume false (.ok (reply command))).value = (next.proceed false).value :=
    Sequence.value_resume_of_ok hadvance false
  have hturn : ((dialing d).resume false (.ok (reply command))).value =
      (afterDial d.profile false (next.proceed false).value).value := by
    rw [resume, Logged.value_bind, hresume]
  rw [Bool.or_false, hturn]
  exact hrest

/-- Once a context is active, two commands are left. -/
theorem course_active (hstep : d.step = .mapDataChannel)
    (hrest : (afterDial d.profile false (.done (.ok d.port))).value.Course false rounds stop) :
    (afterDial d.profile false (d.proceed false).value).value.Course false
      (Round.replied reply (interruptible [.mapDataChannel d.acm d.ncm d.profile.cid,
        .startFraming d.profile.cid]) ++ rounds) stop := by
  have hmap : (d.advance (reply (.mapDataChannel d.acm d.ncm d.profile.cid))).value =
      .ok { d with step := .startFraming } := by
    simp [Dial.advance, hstep]
  have hdone : (Dial.proceed { d with step := .done } false).value = .done (.ok d.port) :=
    Dial.value_proceed_done (d := { d with step := .done }) rfl
  refine course_dialing (by rw [Dial.command?, hstep]) hmap ?_
  refine course_dialing (d := { d with step := .startFraming }) rfl rfl ?_
  rw [hdone]
  exact hrest

/-- Dialing puts the commands that the reply to the first one calls for. -/
theorem course_dial (hstep : d.step = .checkActive) {contexts : List Reply.Activation}
    (hread : Reply.Activation.read (reply .activationQuery) = .ok contexts)
    (hrest : (afterDial d.profile false (.done (.ok d.port))).value.Course false rounds stop) :
    (afterDial d.profile false (d.proceed false).value).value.Course false
      (Round.replied reply (interruptible
        (if d.isActive contexts then d.shortcut else d.commands)) ++ rounds) stop := by
  have hcommand : d.command? = some .activationQuery := by rw [Dial.command?, hstep]
  cases hactive : d.isActive contexts with
  | true =>
    have hadvance : (d.advance (reply .activationQuery)).value =
        .ok { d with step := .mapDataChannel } := by
      simp [Dial.advance, hstep, hread, hactive]
    exact course_dialing hcommand hadvance
      (course_active (d := { d with step := .mapDataChannel }) rfl hrest)
  | false =>
    have hadvance : (d.advance (reply .activationQuery)).value = .ok { d with step := .auth } := by
      simp [Dial.advance, hstep, hread, hactive]
    refine course_dialing hcommand hadvance ?_
    refine course_dialing (d := { d with step := .auth }) rfl rfl ?_
    refine course_dialing (d := { d with step := .dnsFamily }) rfl rfl ?_
    refine course_dialing (d := { d with step := .activate }) rfl rfl ?_
    exact course_active (d := { d with step := .mapDataChannel }) rfl hrest

end Dialing

/-! ### Reading the configuration -/

/-- After dialing, the configuration is read in two queries. -/
theorem course_inspect (port : DataPort) (profile : Profile) {addresses : Reply.Addresses}
    (haddresses : Reply.Addresses.read (reply (.addressQuery profile.cid)) = .ok addresses)
    {servers : Reply.NameServers}
    (hservers : Reply.NameServers.read (reply .nameServerQuery) profile.cid = .ok servers) :
    (afterDial profile false (.done (.ok port))).value.Course (ω := ω) false
      (Round.replied reply (interruptible [.addressQuery profile.cid, .nameServerQuery]))
      (.ended (.ok (.connected (.assigned port addresses servers)))) := by
  let i : Inspect := { cid := profile.cid, found := { port } }
  let known : Connection :=
    { port
      ipv4 := addresses.ipv4.map fun address => { address }
      ipv6 := addresses.ipv6.map fun address => { address } }
  have hstart : (afterDial profile false (.done (.ok port))).value =
      .ask ⟨.addressQuery profile.cid, true⟩ (.configuring i) := rfl
  have hquery : ((configuring i).resume false (.ok (reply (.addressQuery profile.cid)))).value =
      .ask ⟨.nameServerQuery, true⟩
        (.configuring { i with step := .queryDns, found := known }) := by
    have hadvance : (i.advance (reply (.addressQuery profile.cid))).value =
        .ok { i with step := .queryDns, found := known } := by
      simp [Inspect.advance, haddresses, i, known]
    have hresume : (i.resume false (.ok (reply (.addressQuery profile.cid)))).value =
        (Inspect.proceed { i with step := .queryDns, found := known } false).value :=
      Sequence.value_resume_of_ok hadvance false
    rw [resume, Logged.value_bind, hresume]
    rfl
  have hfound : Connection.assigned port addresses servers =
      { known with
        ipv4 := known.ipv4.map (Inspect.withServers servers.ipv4)
        ipv6 := known.ipv6.map (Inspect.withServers servers.ipv6) } := by
    simp only [Connection.assigned, known, Option.map_map]
    rfl
  have hdone : ((configuring { i with step := .queryDns, found := known }).resume false
      (.ok (reply .nameServerQuery))).value =
        .done (.ok (.connected (.assigned port addresses servers))) := by
    have hadvance : (Inspect.advance { i with step := .queryDns, found := known }
        (reply .nameServerQuery)).value =
          .ok { i with step := .done, found := .assigned port addresses servers } := by
      rw [hfound]
      simp [Inspect.advance, hservers, i]
    have hresume : (Inspect.resume { i with step := .queryDns, found := known } false
        (.ok (reply .nameServerQuery))).value =
          (Inspect.proceed { i with step := .done, found := .assigned port addresses servers }
            false).value :=
      Sequence.value_resume_of_ok hadvance false
    rw [resume, Logged.value_bind, hresume]
    rfl
  rw [hstart]
  refine .answered ?_
  rw [Bool.or_false, hquery]
  refine .answered ?_
  rw [Bool.or_false, hdone]
  exact .done _ false

/-! ### Connecting -/

/-- Where every command succeeds and what is read can be read, connecting puts the commands that
the first reply calls for, and ends with what the others tell. -/
theorem course_connect {modem : Modem} {profile : Profile} {port : DataPort}
    {others : List DataPort} (hports : modem.dataPorts = port :: others) {acm ncm : UInt32}
    (hacm : port.index? DataPort.acmKey = some acm) (hncm : port.index? DataPort.ncmKey = some ncm)
    {contexts : List Reply.Activation}
    (hcontexts : Reply.Activation.read (reply .activationQuery) = .ok contexts)
    {addresses : Reply.Addresses}
    (haddresses : Reply.Addresses.read (reply (.addressQuery profile.cid)) = .ok addresses)
    {servers : Reply.NameServers}
    (hservers : Reply.NameServers.read (reply .nameServerQuery) profile.cid = .ok servers) :
    let d : Dial := { port, charset := modem.charset, profile, acm, ncm }
    (connect modem profile).value.Course (ω := ω) false
      (Round.replied reply (interruptible (d.plan (d.isActive contexts))))
      (.ended (.ok (.connected (.assigned port addresses servers)))) := by
  intro d
  have hconnect : (connect modem profile).value =
      (afterDial d.profile false (d.proceed false).value).value := by
    simp [connect, Dial.ofModem, hports, hacm, hncm, d]
  rw [hconnect, Dial.plan, interruptible, List.map_append, Round.replied_append]
  exact course_dial rfl hcontexts (course_inspect port profile haddresses hservers)

end Operation

end ModemLink
