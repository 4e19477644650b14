import ModemLink.Proofs.Operation.Connecting
import ModemLink.Proofs.Port.Serving
import ModemLink.Proofs.Station.Underway

/-!
# Connecting a bearer over a port

A bearer at rest is connected over a port that nobody else uses, to a modem that fulfils every
command. What the modem tells is an account: which contexts are active, which addresses are assigned
to the context of the bearer, and which name servers belong to which context. How the modem puts
its account into bytes, and how it cuts these into pieces, makes no difference: what is written to
the port, and the connection that the bearer ends up with, are functions of the account.

Source: the specification, sections 4.1, 4.2, 10.2 and 10.5.

## Main definitions

* `Account`: what a modem tells a bearer that connects.
* `Account.ToldBy`: a modem gives the account in its answers.
* `Account.plan`: the commands that the bearer puts.
* `Account.connection`: the connection that the account makes up.

## Main results

* `Account.isLine_plan`: the modem may echo every command as it was written.
* `Station.connect_over_port`: a bearer that connects is connected.
-/

namespace ModemLink

open Reply

/-- What a modem tells a bearer that connects: at least one context, whether active or not; one
address or two, at least one of which can be used; and any name servers. -/
structure Account where
  contexts : List Activation
  first : String
  second : Option String
  servers : List ServerRecord
  contexts_ne_nil : contexts ≠ []
  isPlain_addresses : ∀ f ∈ Addresses.fields first second, f.IsPlain
  /-- The first address is of either family, and the second one of the longer family. -/
  usable : usableIpv4 first.toList ∨ usableIpv6 first.toList ∨
    ∃ address ∈ second, usableIpv6 address.toList
  isPlain_servers : ∀ r ∈ servers, r.IsPlain

namespace Account

variable (a : Account)

/-- The assigned addresses: the second one is preferred where both are of the longer family. -/
def addresses (cid : UInt32) : Addresses where
  cid
  ipv4 := if usableIpv4 a.first.toList then some a.first else none
  ipv6 := (a.second.filter (usableIpv6 ·.toList)).or
    (if usableIpv6 a.first.toList then some a.first else none)

/-- The name servers of a context: each at its first place, and none where the address of the
shorter family is all zeros. -/
def nameServers (cid : UInt32) : NameServers :=
  .ofNamed (ServerRecord.namedFor cid a.servers)

/-- The connection of a context on a data port. -/
def connection (port : DataPort) (cid : UInt32) : Connection :=
  .assigned port (a.addresses cid) (a.nameServers cid)

/-- The commands that a bearer puts when it connects: three of them only where the account does not
say that its context is active. -/
def plan (charset : Charset) (profile : Profile) (acm ncm : UInt32) : List Command :=
  .activationQuery ::
    (if ⟨profile.cid, true⟩ ∈ a.contexts then [] else
      [.credentials charset profile, .requestNameServers profile.cid profile.family,
        .setActivation true profile.cid]) ++
    [.mapDataChannel acm ncm profile.cid, .startFraming profile.cid, .addressQuery profile.cid,
      .nameServerQuery]

/-- The modem gives the account in its answers. Every answer may hold unsolicited messages besides,
and any records may follow the first one that has addresses. -/
structure ToldBy (cid : UInt32) (answers : ∀ c, Fulfilment c) : Prop where
  contexts : Tells Activation.tag Activation.row (answers .activationQuery).info a.contexts
  addresses : ∃ noise more, (∀ row ∈ noise, IsUnsolicited Addresses.tag row) ∧
    (answers (.addressQuery cid)).info =
      noise ++ (Addresses.row cid a.first a.second).toList :: more
  servers : Tells NameServers.tag ServerRecord.row (answers .nameServerQuery).info a.servers

/-- There is an address of one family or the other. -/
theorem isSome_addresses (cid : UInt32) :
    (a.addresses cid).ipv4.isSome = true ∨ (a.addresses cid).ipv6.isSome = true := by
  rcases a.usable with h | h | ⟨second, hsecond, h⟩
  · exact .inl (by simp [addresses, h])
  · exact .inr (by simp [addresses, h])
  · obtain hsecond : a.second = some second := hsecond
    exact .inr (by simp [addresses, hsecond, Option.filter, h])

/-- The addresses are chosen from the two places of the record. -/
theorem select_eq (cid : UInt32) :
    Addresses.select cid (some a.first.toList) (a.second.map String.toList) =
      .ok (a.addresses cid) := by
  have hfirst (p : List Char → Bool) : ((some a.first.toList).filter p).map String.ofList =
      if p a.first.toList then some a.first else none := by
    by_cases h : p a.first.toList = true <;> simp [Option.filter, h]
  have hsecond : ((a.second.map String.toList).filter usableIpv6).map String.ofList =
      a.second.filter (usableIpv6 ·.toList) := by
    cases a.second with
    | none => rfl
    | some second =>
      by_cases h : usableIpv6 second.toList = true <;> simp [Option.filter, h]
  have hipv4 : ((some a.first.toList).filter usableIpv4).map String.ofList =
      (a.addresses cid).ipv4 := hfirst usableIpv4
  have hipv6 : (((a.second.map String.toList).filter usableIpv6).or
      ((some a.first.toList).filter usableIpv6)).map String.ofList = (a.addresses cid).ipv6 := by
    rw [Option.map_or, hsecond, hfirst]
    rfl
  have hnone : (((some a.first.toList).filter usableIpv4).isNone &&
      (((a.second.map String.toList).filter usableIpv6).or
        ((some a.first.toList).filter usableIpv6)).isNone) = false := by
    rw [← Option.isNone_map (f := String.ofList), hipv4, ← Option.isNone_map (f := String.ofList),
      hipv6]
    rcases a.isSome_addresses cid with h | h <;> simp [h, ← Option.not_isSome]
  rw [Addresses.select]
  simp only [hnone, hipv4, hipv6]
  rfl

/-- The commands are those that dialing and reading the configuration come to. -/
theorem plan_eq (d : Dial) :
    a.plan d.charset d.profile d.acm d.ncm = d.plan (d.isActive a.contexts) := by
  by_cases h : ⟨d.profile.cid, true⟩ ∈ a.contexts
  · rw [plan, if_pos h, (d.isActive_iff _).mpr h]
    rfl
  · rw [plan, if_neg h, Bool.eq_false_iff.mpr fun hd => h ((d.isActive_iff _).mp hd)]
    rfl

/-- Without a line break in the credentials, the modem may echo every command as it was written. -/
theorem isLine_plan (charset : Charset) {profile : Profile}
    (huser : ∀ s ∈ profile.user, '\n' ∉ s.toList)
    (hpassword : ∀ s ∈ profile.password, '\n' ∉ s.toList) (acm ncm : UInt32) :
    ∀ c ∈ a.plan charset profile acm ncm, c.IsLine := by
  have hactivation : ∀ c ∈ (if ⟨profile.cid, true⟩ ∈ a.contexts then [] else
      [.credentials charset profile, .requestNameServers profile.cid profile.family,
        .setActivation true profile.cid] : List Command), c.IsLine := by
    split
    · simp
    · simp only [List.forall_mem_cons]
      exact ⟨Command.isLine_credentials charset huser hpassword,
        Command.isLine_requestNameServers .., Command.isLine_setActivation .., by simp⟩
  rw [plan, List.cons_append, List.forall_mem_cons, List.forall_mem_append]
  refine ⟨Command.isLine_activationQuery, hactivation, ?_⟩
  simp only [List.forall_mem_cons]
  exact ⟨Command.isLine_mapDataChannel .., Command.isLine_startFraming ..,
    Command.isLine_addressQuery .., Command.isLine_nameServerQuery, by simp⟩

variable {a} {cid : UInt32} {answers : ∀ c, Fulfilment c}

/-- What the account says is read from the replies. -/
theorem ToldBy.read_contexts (h : a.ToldBy cid answers) :
    Activation.read (answers .activationQuery).text = .ok a.contexts :=
  Activation.read_of_tells (Fulfilment.isRow_info _) h.contexts a.contexts_ne_nil

theorem ToldBy.read_addresses (h : a.ToldBy cid answers) :
    Addresses.read (answers (.addressQuery cid)).text = .ok (a.addresses cid) := by
  obtain ⟨noise, more, hnoise, hinfo⟩ := h.addresses
  rw [← a.select_eq cid]
  exact Addresses.read_of_row (Fulfilment.isRow_info _) hnoise hinfo a.isPlain_addresses

theorem ToldBy.read_servers (h : a.ToldBy cid answers) :
    NameServers.read (answers .nameServerQuery).text cid = .ok (a.nameServers cid) :=
  NameServers.read_of_tells (Fulfilment.isRow_info _) h.servers a.isPlain_servers cid

end Account

/-! ### From end to end -/

namespace Station

/-- A bearer at rest, on a modem whose preferred data port has both indices, is connected over a
free port by a modem that fulfils the commands of connecting: the call returns the connection that
the modem's account makes up, exactly these commands are written, and a bearer that is held keeps
the connection. The commands are all different, so the modem may answer each as it likes. -/
theorem connect_over_port (modem : Modem) (moves : List Move) {id : Nat} {b : Bearer}
    (hb : (Run.after modem moves).station.bearer? id = some b) (hbusy : b.busy = false)
    (hstatus : b.status = .disconnected) {port : DataPort} {others : List DataPort}
    (hports : modem.dataPorts = port :: others) {acm ncm : UInt32}
    (hacm : port.index? DataPort.acmKey = some acm)
    (hncm : port.index? DataPort.ncmKey = some ncm) {p : Port} (hfree : p.Free)
    {answers : ∀ c, Fulfilment c} {a : Account} (htold : a.ToldBy b.profile.cid answers)
    {rest : List Reaction}
    (hreactions : p.reactions = (a.plan modem.charset b.profile acm ncm).map
      (fun c => .sends (answers c).chunks) ++ rest) :
    ∃ s' p', (driveOn Bench.Line.channel (.serial ⟨p, none⟩)
        ((Run.after modem moves).station.connect id)).value =
          (s', .serial ⟨p', none⟩, .ended (.ok (.connected (a.connection port b.profile.cid)))) ∧
      p'.sent = p.sent ++
        (a.plan modem.charset b.profile acm ncm).map (fun c => "AT" ++ c.body ++ "\r") ∧
      (b.held = true → s'.bearer? id =
        some (b.complete .connected (some (a.connection port b.profile.cid)))) := by
  let d : Dial := { port, charset := modem.charset, profile := b.profile, acm, ncm }
  let reply (c : Command) : String := (answers c).text
  have hmodem : (Run.after modem moves).station.modem = modem := Run.modem_eq modem moves
  have hcontexts : Activation.read (reply .activationQuery) = .ok a.contexts := htold.read_contexts
  have hcourse : (Operation.connect modem b.profile).value.Course false
      (Round.replied reply (Operation.interruptible (a.plan modem.charset b.profile acm ncm)))
      (.ended (.ok (.connected (a.connection port b.profile.cid))) : Stop Ending Bench.Hold) := by
    rw [a.plan_eq d]
    exact Operation.course_connect hports hacm hncm hcontexts htold.read_addresses
      htold.read_servers
  have hrequests : p.reactions = (Operation.interruptible
      (a.plan modem.charset b.profile acm ncm)).map
        (fun request => .sends (answers request.command).chunks) ++ rest := by
    rw [hreactions, Operation.interruptible, List.map_map]
    rfl
  obtain ⟨p', -, -, hsent, hplay⟩ := Bench.play_serial hcourse hfree hrequests
  rw [← hmodem] at hplay
  obtain ⟨s', hdriven, hsettled⟩ :=
    driveOn_connect (Run.orderly modem moves) hb hbusy hstatus hplay
  refine ⟨s', p', hdriven, ?_, hsettled⟩
  rw [hsent, Operation.interruptible, List.map_map]
  rfl

/-! ### A context of both families -/

/-- The account of a modem with a context of both families, which is not active yet. -/
def dualStackAccount : Account where
  contexts := [⟨1, false⟩, ⟨2, true⟩]
  first := "10.0.0.1"
  second := some "FE80:0:0:0:0:6B:B43D:6A01"
  servers := [⟨1, "10.0.0.2", "2001:4888:53:FF00:524:D:0:0"⟩, ⟨2, "0.0.0.0", "0.0.0.0"⟩,
    ⟨1, "10.0.0.2", "10.0.0.3"⟩]
  contexts_ne_nil := by decide
  isPlain_addresses := Addresses.isPlain_fields (by decide +kernel) (by decide +kernel)
  usable := by decide +kernel
  isPlain_servers := by
    simp only [List.forall_mem_cons]
    exact ⟨⟨by decide +kernel, by decide +kernel⟩, ⟨by decide +kernel, by decide +kernel⟩,
      ⟨by decide +kernel, by decide +kernel⟩, by simp⟩

/-- The profile of a bearer that has credentials. -/
def dualStackProfile : Profile :=
  { user := some "user", password := some "secret", cid := 1 }

/-- The commands that the bearer puts. -/
def dualStackPlan : List Command :=
  dualStackAccount.plan .ira dualStackProfile 0 1

/-- The lines of information that the modem sends, with messages that nobody asked for. -/
def dualStackInfo (c : Command) : List String :=
  if c = .activationQuery then ["\r", "+CREG: 1\r", "+CGACT: 1,0\r", "+CGACT: 2,1\r", "\r"]
  else if c = .addressQuery 1 then
    ["+CREG: 5\r", "+CGPADDR: 1,\"10.0.0.1\",\"FE80:0:0:0:0:6B:B43D:6A01\"\r"]
  else if c = .nameServerQuery then
    ["+XDNS: 1,\"10.0.0.2\",\"2001:4888:53:FF00:524:D:0:0\"\r",
      "+XDNS: 2,\"0.0.0.0\",\"0.0.0.0\"\r", "+XDNS: 1,\"10.0.0.2\",\"10.0.0.3\"\r"]
  else []

theorem isInfo_dualStackInfo (c : Command) : ∀ text ∈ dualStackInfo c,
    lineFeed ∉ Text.Utf8.encode text.toList ∧ IsInfo (lineOf (Text.Utf8.encode text.toList)) := by
  rw [dualStackInfo]
  split
  · decide +kernel
  split
  · decide +kernel
  split
  · decide +kernel
  · simp

/-- The lines that the modem sends. It echoes what was written. -/
def dualStackLines (c : Command) : List (List UInt8) :=
  (if c ∈ dualStackPlan then [c.written] else []) ++
    (dualStackInfo c).map fun text => Text.Utf8.encode text.toList

theorem known_dualStackLines (c : Command) : ∀ line ∈ dualStackLines c,
    lineFeed ∉ line ∧ (IsEcho c line ∨ IsInfo (lineOf line)) := by
  intro line hline
  rcases List.mem_append.mp hline with hline | hline
  · by_cases hc : c ∈ dualStackPlan
    · rw [if_pos hc, List.mem_singleton] at hline
      subst hline
      have huser : ∀ s ∈ dualStackProfile.user, '\n' ∉ s.toList := by decide
      have hpassword : ∀ s ∈ dualStackProfile.password, '\n' ∉ s.toList := by decide
      have hsingle := dualStackAccount.isLine_plan .ira huser hpassword 0 1 c hc
      exact ⟨hsingle.lineFeed_not_mem_written, .inl hsingle.isEcho⟩
    · rw [if_neg hc] at hline
      cases hline
  · obtain ⟨text, htext, rfl⟩ := List.mem_map.mp hline
    obtain ⟨hfeed, hinfo⟩ := isInfo_dualStackInfo c text htext
    exact ⟨hfeed, .inr hinfo⟩

/-- The answers of the modem. It sends the first few bytes at once, and the others as late as it
may. -/
def dualStackAnswers (c : Command) : Fulfilment c :=
  let final := Text.Utf8.encode "OK\r".toList
  let bytes := (dualStackLines c ++ [final]).flatMap (· ++ [lineFeed])
  { chunks := [⟨0, .bytes (bytes.take 7)⟩, ⟨c.timeout.micros, .bytes (bytes.drop 7)⟩]
    lines := dualStackLines c
    final
    encodes := by
      refine ⟨[bytes.take 7, bytes.drop 7], rfl, by simp [bytes], fun line hline => ?_⟩
      rcases List.mem_append.mp hline with hline | hline
      · exact (known_dualStackLines c line hline).1
      · rw [List.mem_singleton.mp hline]
        decide +kernel
    ok := by decide +kernel
    known := fun line hline => (known_dualStackLines c line hline).2
    inTime := by simp [Chunk.span] }

theorem dualStackAccount_toldBy : dualStackAccount.ToldBy 1 dualStackAnswers where
  contexts := by
    have hinfo : (dualStackAnswers .activationQuery).info =
        ["+CREG: 1".toList, (Activation.row ⟨1, false⟩).toList,
          (Activation.row ⟨2, true⟩).toList] := by decide +kernel
    rw [hinfo]
    exact .unsolicited ⟨by decide +kernel, by decide +kernel⟩ (.value _ (.value _ .nil))
  addresses := by
    refine ⟨["+CREG: 5".toList], [], fun row hrow => ?_, by decide +kernel⟩
    rw [List.mem_singleton.mp hrow]
    exact ⟨by decide +kernel, by decide +kernel⟩
  servers := by
    have hinfo : (dualStackAnswers .nameServerQuery).info =
        dualStackAccount.servers.map fun r => r.row.toList := by decide +kernel
    rw [hinfo]
    exact .value _ (.value _ (.value _ .nil))

/-- The data port of the modem. -/
def dualStackDataPort : DataPort :=
  { name := "wwan0", properties := [(DataPort.acmKey, "0"), (DataPort.ncmKey, "1")] }

/-- A port that nobody has used, to the modem. -/
def dualStackPort : Port :=
  { name := "ttyACM0", reactions := dualStackPlan.map fun c => .sends (dualStackAnswers c).chunks }

/-- The context was not active, so it is activated; its servers are sorted by family, and the one
that is named twice is kept once. -/
theorem connect_over_port_dualStack :
    ∃ s' p', (driveOn Bench.Line.channel (.serial ⟨dualStackPort, none⟩)
        ((Run.after { dataPorts := [dualStackDataPort] }
          [.create dualStackProfile]).station.connect 0)).value =
          (s', .serial ⟨p', none⟩, .ended (.ok (.connected
            { port := dualStackDataPort
              ipv4 := some { address := "10.0.0.1", dns := ["10.0.0.2", "10.0.0.3"] }
              ipv6 := some
                { address := "FE80:0:0:0:0:6B:B43D:6A01"
                  dns := ["2001:4888:53:FF00:524:D:0:0"] } }))) ∧
      p'.sent = ["AT+CGACT?\r", "AT+WPPP=2,1,\"user\",\"secret\"\r", "AT+XDNS=1,3\r",
        "AT+CGACT=1,1\r", "AT+XDATACHANNEL=1,1,\"/USBCDC/0\",\"/USBHS/NCM/1\",2,1\r",
        "AT+CGDATA=\"M-RAW_IP\",1\r", "AT+CGPADDR=1\r", "AT+XDNS?\r"] := by
  have hb : (Run.after { dataPorts := [dualStackDataPort] }
      [.create dualStackProfile]).station.bearer? 0 =
        some { id := 0, profile := dualStackProfile } := by decide +kernel
  have hacm : dualStackDataPort.index? DataPort.acmKey = some 0 := by decide +kernel
  have hncm : dualStackDataPort.index? DataPort.ncmKey = some 1 := by decide +kernel
  have hfree : dualStackPort.Free := ⟨rfl, rfl, rfl, .nil 0⟩
  obtain ⟨s', p', hdriven, hsent, -⟩ := connect_over_port { dataPorts := [dualStackDataPort] }
    [.create dualStackProfile] hb rfl rfl rfl hacm hncm hfree dualStackAccount_toldBy
    (List.append_nil _).symm
  have hconnection : dualStackAccount.connection dualStackDataPort 1 =
      { port := dualStackDataPort
        ipv4 := some { address := "10.0.0.1", dns := ["10.0.0.2", "10.0.0.3"] }
        ipv6 := some
          { address := "FE80:0:0:0:0:6B:B43D:6A01"
            dns := ["2001:4888:53:FF00:524:D:0:0"] } } := by decide +kernel
  refine ⟨s', p', ?_, ?_⟩
  · rw [← hconnection]
    exact hdriven
  · rw [hsent]
    decide +kernel

end Station

end ModemLink
