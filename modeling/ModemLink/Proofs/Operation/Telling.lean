import ModemLink.Proofs.Operation.Requests
import ModemLink.Proofs.Operation.WellFormed

/-!
# Where a connection comes from

An operation that reads the configuration of a context is told twice: the addresses by the answer to
its first query, and the servers by the answer to its second one. The connection that it ends with
is made of these two replies and of nothing else. What the first reply told cannot change any more,
so that it can be said of the operation while it waits for the second one.

## Main definitions

* `Connection.Has`: a connection made of addresses and servers.
* `Operation.Untold`, `Operation.Told`: an operation that no addresses were told, and one that a
  reply was read for.
* `Operation.Brings`: an ending with a connection that two replies told.

## Main results

* `Operation.told_of_resume`: what is read of the reply to the address query stays with the
  operation.
* `Operation.Told.resume`: the connection that an operation ends with.
* `Operation.otherContext_mem_log_resume_iff`: when it is logged that a reply is on another context.
-/

namespace ModemLink

open Reply (Addresses NameServers)

/-- The connection has the addresses, each with the servers of its family, and no others. -/
structure Connection.Has (c : Connection) (addresses : Addresses) (servers : NameServers) :
    Prop where
  ipv4 : c.ipv4 = addresses.ipv4.map fun address => { address, dns := servers.ipv4 }
  ipv6 : c.ipv6 = addresses.ipv6.map fun address => { address, dns := servers.ipv6 }

/-- A connection without servers is given some. -/
theorem Connection.Has.withServers {c : Connection} {addresses : Addresses}
    (h : c.Has addresses {}) (servers : NameServers) :
    Has { c with
      ipv4 := c.ipv4.map (Inspect.withServers servers.ipv4)
      ipv6 := c.ipv6.map (Inspect.withServers servers.ipv6) } addresses servers where
  ipv4 := by
    rw [h.ipv4, Option.map_map]
    rfl
  ipv6 := by
    rw [h.ipv6, Option.map_map]
    rfl

/-! ### Reading the configuration -/

namespace Inspect

variable {i : Inspect} {told : Except ReplyFault Addresses}

/-- The attempt knows the addresses that were told, and waits for the servers. -/
structure Told (told : Except ReplyFault Addresses) (i : Inspect) : Prop where
  step : i.step = .queryDns
  found : ∃ addresses, told = .ok addresses ∧ i.found.Has addresses {}

/-- A result of reading that is made of addresses which were told before, and of the servers that
the last answer told. -/
def Finds (told : Except ReplyFault Addresses) (cid : UInt32) (answer : Answer)
    (result : Except Fault Connection) : Prop :=
  ∀ c, result = .ok c → ∃ addresses listed servers, told = .ok addresses ∧ answer = .ok listed ∧
    NameServers.read listed cid = .ok servers ∧ c.Has addresses servers

theorem finds_error (cid : UInt32) (answer : Answer) (fault : Fault) :
    Finds told cid answer (.error fault) :=
  nofun

/-- What the reply to the first query told is known from then on. -/
theorem told_of_resume (hs : i.step = .queryAddress) (cancelled : Bool) (reply : String) :
    (i.resume cancelled (.ok reply)).value.Meets (Told (Addresses.read reply))
      (∃ fault, · = .error fault) := by
  simp only [resume, Sequence.resume, sequence, advance, hs, Logged.value_bind]
  cases hread : Addresses.read reply with
  | error fault => exact ⟨.reply fault, rfl⟩
  | ok addresses =>
    cases cancelled with
    | true => exact ⟨.canceled, rfl⟩
    | false => exact ⟨rfl, addresses, rfl, rfl, rfl⟩

/-- The second query is the last one, and its reply adds the servers. -/
theorem Told.resume (h : i.Told told) (cancelled : Bool) (answer : Answer) :
    (i.resume cancelled answer).value.Meets (fun _ => False) (Finds told i.cid answer) := by
  match answer with
  | .error fault => exact finds_error _ _ fault
  | .ok listed =>
    obtain ⟨addresses, htold, hfound⟩ := h.found
    simp only [Inspect.resume, Sequence.resume, sequence, advance, h.step, Logged.value_bind]
    cases hread : NameServers.read listed i.cid with
    | error fault => exact finds_error _ _ (.reply fault)
    | ok servers =>
      cases cancelled with
      | true => exact finds_error _ _ .canceled
      | false =>
        intro c hc
        obtain rfl := Except.ok.inj hc
        exact ⟨addresses, listed, servers, htold, rfl, hread, hfound.withServers servers⟩

/-- An attempt begins with the query of the addresses, or ends. -/
theorem step_of_start (port : DataPort) (cid : UInt32) (family : IpFamily) (cancelled : Bool) :
    (start port cid family cancelled).value.Meets (·.step = .queryAddress)
      (∃ fault, · = .error fault) := by
  cases cancelled with
  | true => exact ⟨.canceled, rfl⟩
  | false => rfl

/-- The context of the addresses is compared with the one that was asked for. -/
theorem otherContext_mem_log_resume_iff (hs : i.step = .queryAddress)
    (cancelled : Bool) (reply : String) (expected got : UInt32) :
    .otherContext expected got ∈ (i.resume cancelled (.ok reply)).log ↔
      expected = i.cid ∧ got ≠ i.cid ∧
        ∃ addresses, Addresses.read reply = .ok addresses ∧ addresses.cid = got := by
  cases hread : Addresses.read reply with
  | error fault => simp [resume, Sequence.resume, sequence, advance, hs, hread]
  | ok addresses =>
    have hremarks : .otherContext expected got ∈ (i.resume cancelled (.ok reply)).log ↔
        .otherContext expected got ∈ i.remarks addresses := by
      simp [resume, Sequence.resume, sequence, advance, hs, hread, Logged.notes,
        Sequence.log_proceed]
    rw [hremarks, remarks]
    by_cases hcid : addresses.cid = i.cid
    · rw [if_pos hcid]
      refine iff_of_false List.not_mem_nil ?_
      rintro ⟨-, hne, a, ha, rfl⟩
      obtain rfl := Except.ok.inj ha
      exact hne hcid
    · rw [if_neg hcid, List.mem_singleton]
      constructor
      · rintro ⟨⟩
        exact ⟨rfl, hcid, addresses, rfl, rfl⟩
      · rintro ⟨rfl, -, a, ha, rfl⟩
        obtain rfl := Except.ok.inj ha
        rfl

end Inspect

namespace Operation

variable {told : Except ReplyFault Addresses} {op : Operation}

/-! ### What operations are told -/

/-- Nothing was told of the addresses, or what was told is of no use any more. -/
def Untold : Operation → Prop
  | configuring i | refreshing i => i.step = .queryAddress
  | _ => True

/-- The addresses that were told are known, or nothing came of them. -/
def Told (told : Except ReplyFault Addresses) : Operation → Prop
  | configuring i | refreshing i => i.Told told
  | unwinding _ _ => True
  | _ => False

/-- The ending is a failure, or a connection that is made of addresses which were told before, and
of the servers that the last answer told. -/
def Brings (told : Except ReplyFault Addresses) (cid : UInt32) (answer : Answer)
    (ending : Ending) : Prop :=
  ∀ achievement, ending = .ok achievement →
    ∃ c addresses listed servers, (achievement = .connected c ∨ achievement = .refreshed c) ∧
      told = .ok addresses ∧ answer = .ok listed ∧
      NameServers.read listed cid = .ok servers ∧ c.Has addresses servers

/-- An ending without a connection. -/
def BringsNone (ending : Ending) : Prop :=
  ∀ c, ending ≠ .ok (.connected c) ∧ ending ≠ .ok (.refreshed c)

theorem bringsNone_error (fault : Fault) : BringsNone (.error fault) :=
  fun _ => ⟨nofun, nofun⟩

/-! ### Operations that read a configuration -/

section Lifts

variable {P : Operation → Prop} {Q : Ending → Prop}

/-- What a turn of connecting does follows from what the reading in it does. -/
theorem meets_afterInspect (port : DataPort) (cid : UInt32)
    {next : Next Inspect (Except Fault Connection)} (hfails : ∀ fault t, P (.unwinding fault t))
    (h : next.Meets (fun i => P (.configuring i)) fun result =>
      ∀ c, result = .ok c → Q (.ok (.connected c))) :
    (afterInspect port cid next).value.Meets P Q := by
  match next with
  | .ask request i => exact h
  | .done (.ok c) => exact h c rfl
  | .done (.error fault) => exact hfails fault ⟨port, cid⟩

end Lifts

theorem untold_afterInspect (port : DataPort) (cid : UInt32)
    {next : Next Inspect (Except Fault Connection)}
    (h : next.Meets (·.step = .queryAddress) (∃ fault, · = .error fault)) :
    (afterInspect port cid next).value.Meets Untold BringsNone := by
  refine meets_afterInspect port cid (fun _ _ => trivial) (h.imp (fun _ hs => hs) ?_)
  rintro _ ⟨fault, rfl⟩ c hc
  cases hc

theorem untold_afterDial (profile : Profile) (cancelled : Bool)
    (next : Next Dial (Except Fault DataPort)) :
    (afterDial profile cancelled next).value.Meets Untold BringsNone := by
  match next with
  | .ask request d => trivial
  | .done (.error fault) => exact bringsNone_error fault
  | .done (.ok port) =>
    exact untold_afterInspect port profile.cid (Inspect.step_of_start port _ _ cancelled)

/-- A bearer that connects has been told nothing at first. -/
theorem untold_connect (modem : Modem) (profile : Profile) :
    (connect modem profile).value.Meets Untold BringsNone := by
  simp only [connect, Logged.value_bind]
  cases (Dial.ofModem modem profile).value with
  | error fault => exact bringsNone_error fault
  | ok d => exact untold_afterDial profile false _

/-- A bearer that reads its configuration again has been told nothing at first. -/
theorem untold_refresh (port : DataPort) (profile : Profile) :
    (refresh port profile).value.Meets Untold BringsNone := by
  simp only [refresh, Logged.value_bind, Logged.value_pure]
  refine Next.meets_map_iff.mpr ((Inspect.step_of_start port _ _ false).imp (fun _ hs => hs) ?_)
  rintro _ ⟨fault, rfl⟩
  exact bringsNone_error fault

/-- Nothing that is done for no bearer brings a connection of one. -/
theorem untold_map {σ ρ : Type} {hold : σ → Operation} {achieved : ρ → Achievement}
    (hhold : ∀ s, (hold s).Untold) (hachieved : ∀ r, BringsNone (.ok (achieved r)))
    (next : Next σ (Except Fault ρ)) :
    (next.map hold (·.map achieved)).Meets Untold BringsNone := by
  refine Next.meets_map_iff.mpr (Next.meets_of_forall hhold (fun result => ?_) next)
  cases result with
  | error fault => exact bringsNone_error fault
  | ok r => exact hachieved r

theorem untold_afterDialOnly (next : Next Dial (Except Fault DataPort)) :
    (afterDialOnly next).Meets Untold BringsNone := by
  refine untold_map ?_ ?_ next
  · exact fun _ => trivial
  · exact fun _ _ => ⟨nofun, nofun⟩

theorem untold_afterInspectOnly (next : Next Inspect (Except Fault Connection)) :
    (afterInspectOnly next).Meets Untold BringsNone := by
  refine untold_map ?_ ?_ next
  · exact fun _ => trivial
  · exact fun _ _ => ⟨nofun, nofun⟩

theorem untold_dial (modem : Modem) (profile : Profile) (cancelled : Bool) :
    (dial modem profile cancelled).value.Meets Untold BringsNone := by
  simp only [dial, Logged.value_bind]
  cases (Dial.ofModem modem profile).value with
  | error fault => exact bringsNone_error fault
  | ok d => exact untold_afterDialOnly _

/-- The operation of a bearer waits for the addresses. -/
def Queries (op : Operation) : Prop :=
  ∃ i, (op = .configuring i ∨ op = .refreshing i) ∧ i.step = .queryAddress

/-- What is read of the reply to the address query stays with the operation. -/
theorem told_of_resume (h : op.Queries) (cancelled : Bool) (reply : String) :
    (op.resume cancelled (.ok reply)).value.Meets (Told (Addresses.read reply)) BringsNone := by
  obtain ⟨i, rfl | rfl, hs⟩ := h
  · refine meets_afterInspect _ _ (fun _ _ => trivial)
      ((Inspect.told_of_resume hs cancelled reply).imp (fun _ htold => htold) ?_)
    rintro _ ⟨fault, rfl⟩ c hc
    cases hc
  · refine Next.meets_map_iff.mpr
      ((Inspect.told_of_resume hs cancelled reply).imp (fun _ htold => htold) ?_)
    rintro _ ⟨fault, rfl⟩
    exact bringsNone_error fault

/-- Until it is told, an operation brings no connection. -/
theorem Untold.resume (h : op.Untold) (cancelled : Bool) (answer : Answer) :
    (op.resume cancelled answer).value.Meets
      (fun next => next.Untold ∨
        ∃ reply, answer = .ok reply ∧ next.Told (Addresses.read reply)) BringsNone := by
  have hreads (hqueries : op.Queries) (reply : String) :
      (op.resume cancelled (.ok reply)).value.Meets (fun next => next.Untold ∨
        ∃ reply', (.ok reply : Answer) = .ok reply' ∧ next.Told (Addresses.read reply'))
        BringsNone :=
    (told_of_resume hqueries cancelled reply).imp (fun _ htold => .inr ⟨reply, rfl, htold⟩)
      fun _ hnone => hnone
  cases op with
  | dialing d => exact (untold_afterDial _ _ _).imp (fun _ => .inl) fun _ hnone => hnone
  | configuring i =>
    match answer with
    | .error fault => exact .inl trivial
    | .ok reply => exact hreads ⟨i, .inl rfl, h⟩ reply
  | refreshing i =>
    match answer with
    | .error fault => exact bringsNone_error fault
    | .ok reply => exact hreads ⟨i, .inr rfl, h⟩ reply
  | unwinding cause t => exact bringsNone_error cause
  | disconnecting t | teardownOnly t => exact fun _ => ⟨nofun, nofun⟩
  | dialOnly d => exact (untold_afterDialOnly _).imp (fun _ => .inl) fun _ hnone => hnone
  | inspectOnly i => exact (untold_afterInspectOnly _).imp (fun _ => .inl) fun _ hnone => hnone

/-- An operation that was told addresses keeps them, and ends with a connection that has them or
with none. -/
theorem Told.resume (h : op.Told told) (cancelled : Bool) (answer : Answer) :
    (op.resume cancelled answer).value.Meets (Told told) (Brings told op.cid answer) := by
  cases op with
  | configuring i =>
    refine meets_afterInspect _ _ (fun _ _ => trivial)
      ((Inspect.Told.resume h cancelled answer).imp (fun _ => False.elim) ?_)
    rintro result hfinds c hc achievement hachieved
    exact ⟨c, (hfinds c hc).imp fun _ => .imp fun _ => .imp fun _ hfound =>
      ⟨.inl (Except.ok.inj hachieved).symm, hfound⟩⟩
  | refreshing i =>
    refine Next.meets_map_iff.mpr
      ((Inspect.Told.resume h cancelled answer).imp (fun _ => False.elim) ?_)
    rintro (fault | c) hfinds achievement hachieved
    · cases hachieved
    · exact ⟨c, (hfinds c rfl).imp fun _ => .imp fun _ => .imp fun _ hfound =>
        ⟨.inr (Except.ok.inj hachieved).symm, hfound⟩⟩
  | unwinding cause t => exact nofun
  | dialing | disconnecting | dialOnly | inspectOnly | teardownOnly => exact h.elim

/-! ### Operations that wait for the addresses -/

/-- An address query does not open as any other command does. -/
theorem ne_addressQuery {c : Command} (h : c.body.toList.take 4 ≠ ['+', 'C', 'G', 'P'])
    (cid : UInt32) : c ≠ .addressQuery cid := by
  rintro rfl
  exact h (by simp [Command.addressQuery, String.toList_append])

theorem command?_ne_addressQuery (d : Dial) (cid : UInt32) :
    d.command? ≠ some (.addressQuery cid) := by
  have hopening : ∀ c ∈ d.command?, c.sensitive = false →
      c.body.toList.take 4 ≠ ['+', 'C', 'G', 'P'] := by
    cases hs : d.step with
    | checkActive => simp [Dial.command?, hs, Command.activationQuery]
    | auth => simp [Dial.command?, hs, Command.credentials]
    | dnsFamily => simp [Dial.command?, hs, Command.requestNameServers, String.toList_append]
    | activate => simp [Dial.command?, hs, Command.setActivation, String.toList_append]
    | mapDataChannel =>
      have hbody : (Command.mapDataChannel d.acm d.ncm d.profile.cid).body =
          "+XDATACHANNEL=1,1,\"/USBCDC/" ++ toString d.acm ++ "\",\"/USBHS/NCM/" ++
            toString d.ncm ++ "\",2," ++ toString d.profile.cid := rfl
      simp [Dial.command?, hs, hbody, String.toList_append]
    | startFraming =>
      have hbody : (Command.startFraming d.profile.cid).body =
          "+CGDATA=\"M-RAW_IP\"," ++ toString d.profile.cid := rfl
      simp [Dial.command?, hs, hbody, String.toList_append]
    | done => simp [Dial.command?, hs]
  intro hcommand
  exact ne_addressQuery (hopening _ hcommand rfl) cid rfl

/-- An operation of a bearer that waits for the answer to an address query reads a configuration,
and has been told nothing yet. -/
theorem queries_of_request {request : Request} {cid : UInt32} (h : op.request? = some request)
    (hcommand : request.command = .addressQuery cid) (hp : op.purpose ≠ .free) : op.Queries := by
  have hdeactivation (cid' : UInt32) : Command.setActivation false cid' ≠ .addressQuery cid :=
    ne_addressQuery (by simp [Command.setActivation, String.toList_append]) cid
  have hreads (i : Inspect) (hi : i.command?.map (⟨·, true⟩) = some request) :
      i.step = .queryAddress := by
    obtain ⟨c, hc, rfl⟩ := Option.map_eq_some_iff.mp hi
    cases hs : i.step with
    | queryAddress => rfl
    | queryDns =>
      simp only [Inspect.command?, hs, Option.some.injEq] at hc
      refine absurd (hc.trans hcommand) (ne_addressQuery ?_ cid)
      decide
    | done => simp [Inspect.command?, hs] at hc
  cases op with
  | dialing d =>
    obtain ⟨c, hc, rfl⟩ := Option.map_eq_some_iff.mp h
    exact absurd (hc.trans (congrArg some hcommand)) (command?_ne_addressQuery d cid)
  | configuring i => exact ⟨i, .inl rfl, hreads i h⟩
  | refreshing i => exact ⟨i, .inr rfl, hreads i h⟩
  | unwinding cause t | disconnecting t =>
    obtain rfl := Option.some.inj h
    exact absurd hcommand (hdeactivation t.cid)
  | dialOnly | inspectOnly | teardownOnly => exact absurd rfl hp

/-! ### What is logged of addresses that are told -/

/-- Whatever comes of the reading, nothing more is said of the context that its reply is on. -/
theorem otherContext_not_mem_log_afterInspect (port : DataPort) (cid : UInt32)
    (next : Next Inspect (Except Fault Connection)) (expected got : UInt32) :
    .otherContext expected got ∉ (afterInspect port cid next).log := by
  have hfamily (family : String) (config : Option IpConfig) :
      .otherContext expected got ∉ familyEvents family config := by
    cases config with
    | none => exact List.not_mem_nil
    | some config => simp [familyEvents]
  match next with
  | .ask request i => exact List.not_mem_nil
  | .done (.ok c) => simp [afterInspect, Logged.notes, connectionEvents, hfamily]
  | .done (.error fault) => simp [afterInspect, Teardown.start]

/-- Where an address query is answered for another context than it was about, both are logged, and
the operation goes on all the same. -/
theorem otherContext_mem_log_resume_iff {op : Operation} (h : op.Queries) (cancelled : Bool)
    (reply : String) (expected got : UInt32) :
    .otherContext expected got ∈ (op.resume cancelled (.ok reply)).log ↔
      expected = op.cid ∧ got ≠ op.cid ∧
        ∃ addresses, Addresses.read reply = .ok addresses ∧ addresses.cid = got := by
  obtain ⟨i, rfl | rfl, hs⟩ := h
  · refine Iff.trans ?_ (Inspect.otherContext_mem_log_resume_iff hs cancelled reply expected got)
    simp only [resume, Logged.log_bind, List.mem_append]
    exact or_iff_left (otherContext_not_mem_log_afterInspect _ _ _ expected got)
  · refine Iff.trans ?_ (Inspect.otherContext_mem_log_resume_iff hs cancelled reply expected got)
    simp only [resume, Logged.log_bind, Logged.log_pure, List.append_nil]

end Operation

end ModemLink
