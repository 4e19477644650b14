import ModemLink.Proofs.Operation.Stages
import ModemLink.Proofs.Reply.Usable

/-!
# What a success brings

A connection that an operation ends with runs on the preferred data port of the modem, has an
address, and holds nothing that a reply could not assign. This is so from the answer to the
address query on: before it there is a port only, and after it nothing is added but servers.

## Main definitions

* `Connection.WellFormed`: what a session can be assigned.
* `Operation.Sound`: what an operation knows of its connection is well formed.

## Main results

* `Operation.sound_resume`: an answer leaves an operation sound, or ends it with a connection that
  is well formed.
-/

namespace ModemLink

open Reply (AssignedIpv4 AssignedIpv6 HasColon)

/-- A configuration that tells what the modem assigned and nothing else. Which texts can be its
address and which its servers depends on the family. -/
structure IpConfig.IsAssigned (isAddress isServer : String → Prop) (config : IpConfig) : Prop where
  method : config.method = .static
  prefixLength : config.prefixLength = 0
  address : isAddress config.address
  servers : ∀ server ∈ config.dns, isServer server
  nodup : config.dns.Nodup

/-- A connection that can be assigned to a session of a modem. -/
structure Connection.WellFormed (modem : Modem) (c : Connection) : Prop where
  port : modem.dataPorts.head? = some c.port
  assigned : c.ipv4.isSome = true ∨ c.ipv6.isSome = true
  ipv4 : ∀ config ∈ c.ipv4, config.IsAssigned AssignedIpv4 AssignedIpv4
  ipv6 : ∀ config ∈ c.ipv6, config.IsAssigned AssignedIpv6 HasColon

variable {modem : Modem}

/-! ### Configurations -/

/-- Servers can be given to a configuration of their family. -/
theorem IpConfig.IsAssigned.withServers {isAddress isServer : String → Prop} {config : IpConfig}
    (h : config.IsAssigned isAddress isServer) {servers : List String}
    (hservers : ∀ server ∈ servers, isServer server) (hnodup : servers.Nodup) :
    (Inspect.withServers servers config).IsAssigned isAddress isServer :=
  { h with servers := hservers, nodup := hnodup }

/-- A configuration of an address alone. -/
theorem IpConfig.isAssigned_address {isAddress isServer : String → Prop} {address : String}
    (h : isAddress address) : IsAssigned isAddress isServer { address } where
  method := rfl
  prefixLength := rfl
  address := h
  servers := by simp
  nodup := by simp

namespace Connection

variable {c : Connection}

/-- Addresses that can be used make a connection on the preferred data port. -/
theorem wellFormed_of_addresses (hport : modem.dataPorts.head? = some c.port)
    {addresses : Reply.Addresses} (h : addresses.IsUsable) :
    WellFormed modem { c with
      ipv4 := addresses.ipv4.map fun address => { address }
      ipv6 := addresses.ipv6.map fun address => { address } } where
  port := hport
  assigned := by simpa using h.assigned
  ipv4 := by
    intro config hconfig
    obtain ⟨address, haddress, rfl⟩ := Option.map_eq_some_iff.mp hconfig
    exact IpConfig.isAssigned_address (h.ipv4 address haddress)
  ipv6 := by
    intro config hconfig
    obtain ⟨address, haddress, rfl⟩ := Option.map_eq_some_iff.mp hconfig
    exact IpConfig.isAssigned_address (h.ipv6 address haddress)

/-- Servers that can be used take nothing from a connection. -/
theorem WellFormed.withServers (h : c.WellFormed modem) {servers : Reply.NameServers}
    (hservers : servers.IsUsable) :
    WellFormed modem { c with
      ipv4 := c.ipv4.map (Inspect.withServers servers.ipv4)
      ipv6 := c.ipv6.map (Inspect.withServers servers.ipv6) } where
  port := h.port
  assigned := by simpa using h.assigned
  ipv4 := by
    intro config' hconfig'
    obtain ⟨config, hconfig, rfl⟩ := Option.map_eq_some_iff.mp hconfig'
    exact (h.ipv4 config hconfig).withServers hservers.ipv4 hservers.nodup_ipv4
  ipv6 := by
    intro config' hconfig'
    obtain ⟨config, hconfig, rfl⟩ := Option.map_eq_some_iff.mp hconfig'
    exact (h.ipv6 config hconfig).withServers hservers.ipv6 hservers.nodup_ipv6

end Connection

/-! ### Reading the configuration -/

namespace Inspect

/-- The attempt runs on the preferred data port, and once it knows addresses it knows a connection
that can be assigned. -/
structure Sound (modem : Modem) (i : Inspect) : Prop where
  port : modem.dataPorts.head? = some i.found.port
  found : i.step ≠ .queryAddress → i.found.WellFormed modem

/-- The connection that reading ends with, if it does not fail, can be assigned. -/
def FindsWellFormed (modem : Modem) (result : Except Fault Connection) : Prop :=
  ∀ c, result = .ok c → c.WellFormed modem

variable {i : Inspect}

/-- Either reply leaves what can be assigned, or is not read. -/
theorem Sound.advance (h : i.Sound modem) {next : Inspect} {reply : String}
    (hadvance : (i.advance reply).value = .ok next) : next.Sound modem := by
  have hport : modem.dataPorts.head? = some next.found.port :=
    (eq_of_advance hadvance).2 ▸ h.port
  refine ⟨hport, fun _ => ?_⟩
  cases hs : i.step with
  | queryAddress =>
    simp only [Inspect.advance, hs] at hadvance
    split at hadvance
    · cases hadvance
    · next addresses hread =>
      obtain rfl := Except.ok.inj hadvance
      exact Connection.wellFormed_of_addresses h.port (Reply.Addresses.isUsable_read hread)
  | queryDns =>
    simp only [Inspect.advance, hs] at hadvance
    split at hadvance
    · cases hadvance
    · next servers hread =>
      obtain rfl := Except.ok.inj hadvance
      exact (h.found (by simp [hs])).withServers (Reply.NameServers.isUsable_read hread)
  | done =>
    simp only [Inspect.advance, hs] at hadvance
    obtain rfl := Except.ok.inj hadvance
    exact h.found (by simp [hs])

/-- An attempt ends well only where it has gone through all of its steps. -/
theorem Sound.wellFormed_of_done (i : Inspect) (h : i.Sound modem) (hcommand : i.command? = none) :
    i.found.WellFormed modem :=
  h.found (by simp [(command?_eq_none_iff i).mp hcommand])

theorem Sound.resume (h : i.Sound modem) (cancelled : Bool) (answer : Answer) :
    (i.resume cancelled answer).value.Meets (Sound modem) (FindsWellFormed modem) :=
  Sequence.meets_resume sequence Sound.wellFormed_of_done (fun _ _ => h.advance) cancelled answer

theorem sound_start {port : DataPort} (hport : modem.dataPorts.head? = some port) (cid : UInt32)
    (family : IpFamily) (cancelled : Bool) :
    (start port cid family cancelled).value.Meets (Sound modem) (FindsWellFormed modem) := by
  have h : Sound modem { cid, found := { port } } := ⟨hport, fun hs => absurd rfl hs⟩
  exact Sequence.meets_proceed sequence Sound.wellFormed_of_done h cancelled

end Inspect

/-! ### Dialing -/

namespace Dial

/-- The attempt runs on the preferred data port. -/
def OnPreferred (modem : Modem) (d : Dial) : Prop :=
  modem.dataPorts.head? = some d.port

/-- The port that dialing ends with, if it does not fail, is the preferred one. -/
def FindsPreferred (modem : Modem) (result : Except Fault DataPort) : Prop :=
  ∀ port, result = .ok port → modem.dataPorts.head? = some port

variable {d : Dial}

theorem onPreferred_of_ofModem {profile : Profile} (h : (ofModem modem profile).value = .ok d) :
    d.OnPreferred modem := by
  rw [ofModem] at h
  split at h
  · cases h
  · next hports =>
    simp only [Logged.value_bind] at h
    split at h
    · rw [OnPreferred, hports, ← Except.ok.inj h]
      rfl
    · cases h

theorem OnPreferred.proceed (h : d.OnPreferred modem) (cancelled : Bool) :
    (d.proceed cancelled).value.Meets (OnPreferred modem) (FindsPreferred modem) :=
  Sequence.meets_proceed (P := OnPreferred modem) sequence (fun _ hd _ => hd) h cancelled

theorem OnPreferred.resume (h : d.OnPreferred modem) (cancelled : Bool) (answer : Answer) :
    (d.resume cancelled answer).value.Meets (OnPreferred modem) (FindsPreferred modem) := by
  refine Sequence.meets_resume (P := OnPreferred modem) sequence (fun _ hd _ => hd)
    (fun reply next hadvance => ?_) cancelled answer
  rw [eq_of_advance hadvance]
  exact h

end Dial

/-! ### Operations -/

/-- The connection that a call ends with, if it ends with one, can be assigned. -/
def BringsWellFormed (modem : Modem) (ending : Ending) : Prop :=
  ∀ c, ending = .ok (.connected c) ∨ ending = .ok (.refreshed c) → c.WellFormed modem

theorem bringsWellFormed_error (fault : Fault) : BringsWellFormed modem (.error fault) := by
  rintro c (h | h) <;> cases h

namespace Operation

/-- What an operation of a bearer knows of the connection to come is sound. -/
def Sound (modem : Modem) : Operation → Prop
  | dialing d => d.OnPreferred modem
  | configuring i | refreshing i => i.Sound modem
  | _ => True

/-- A turn goes on with a sound operation, or ends with nothing that cannot be assigned. -/
abbrev TurnSound (modem : Modem) (turn : Turn) : Prop :=
  turn.Meets (Sound modem) (BringsWellFormed modem)

theorem sound_afterInspect (port : DataPort) (cid : UInt32)
    {next : Next Inspect (Except Fault Connection)}
    (h : next.Meets (Inspect.Sound modem) (Inspect.FindsWellFormed modem)) :
    TurnSound modem (afterInspect port cid next).value := by
  match next with
  | .ask request i => exact h
  | .done (.ok connection) =>
    rintro c (hc | hc)
    · cases hc
      exact h connection rfl
    · cases hc
  | .done (.error fault) => trivial

theorem sound_afterDial (profile : Profile) (cancelled : Bool)
    {next : Next Dial (Except Fault DataPort)}
    (h : next.Meets (Dial.OnPreferred modem) (Dial.FindsPreferred modem)) :
    TurnSound modem (afterDial profile cancelled next).value := by
  match next with
  | .ask request d => exact h
  | .done (.error fault) => exact bringsWellFormed_error fault
  | .done (.ok port) =>
    exact sound_afterInspect port profile.cid (Inspect.sound_start (h port rfl) ..)

/-- A sequence that is all of an operation is sound where what it comes to can be assigned. -/
theorem sound_map {σ ρ : Type} {hold : σ → Operation} {achieved : ρ → Achievement}
    {next : Next σ (Except Fault ρ)} (h : next.Meets (fun s => (hold s).Sound modem)
      (∀ r, · = .ok r → BringsWellFormed modem (.ok (achieved r)))) :
    TurnSound modem (next.map hold (·.map achieved)) := by
  match next with
  | .ask request s => exact h
  | .done (.ok r) => exact h r rfl
  | .done (.error fault) => exact bringsWellFormed_error fault

theorem sound_afterRefresh {next : Next Inspect (Except Fault Connection)}
    (h : next.Meets (Inspect.Sound modem) (Inspect.FindsWellFormed modem)) :
    TurnSound modem (afterRefresh next) := by
  refine sound_map (h.imp (fun _ hsound => hsound) fun result hfinds connection hresult => ?_)
  rintro c (hc | hc)
  · cases hc
  · cases hc
    exact hfinds connection hresult

/-- What is done for no bearer ends with no connection of one. -/
theorem sound_afterDialOnly (next : Next Dial (Except Fault DataPort)) :
    TurnSound modem (afterDialOnly next) := by
  refine sound_map (Next.meets_of_forall (fun _ => trivial) (fun _ port _ => ?_) next)
  rintro c (hc | hc) <;> cases hc

theorem sound_afterInspectOnly (next : Next Inspect (Except Fault Connection)) :
    TurnSound modem (afterInspectOnly next) := by
  refine sound_map (Next.meets_of_forall (fun _ => trivial) (fun _ connection _ => ?_) next)
  rintro c (hc | hc) <;> cases hc

theorem sound_connect (modem : Modem) (profile : Profile) :
    TurnSound modem (connect modem profile).value := by
  simp only [connect, Logged.value_bind]
  cases hdial : (Dial.ofModem modem profile).value with
  | error fault => exact bringsWellFormed_error fault
  | ok d => exact sound_afterDial profile false ((Dial.onPreferred_of_ofModem hdial).proceed false)

theorem sound_refresh {port : DataPort} (hport : modem.dataPorts.head? = some port)
    (profile : Profile) : TurnSound modem (refresh port profile).value := by
  simp only [refresh, Logged.value_bind, Logged.value_pure]
  exact sound_afterRefresh (Inspect.sound_start hport ..)

theorem sound_dial (m : Modem) (profile : Profile) (cancelled : Bool) :
    TurnSound modem (dial m profile cancelled).value := by
  simp only [dial, Logged.value_bind]
  cases (Dial.ofModem m profile).value with
  | error fault => exact bringsWellFormed_error fault
  | ok d => exact sound_afterDialOnly _

/-- An answer leaves an operation sound, or ends it with nothing that cannot be assigned. -/
theorem sound_resume {op : Operation} (h : op.Sound modem) (cancelled : Bool) (answer : Answer) :
    TurnSound modem (op.resume cancelled answer).value := by
  cases op with
  | dialing d => exact sound_afterDial _ _ (Dial.OnPreferred.resume h cancelled answer)
  | configuring i => exact sound_afterInspect _ _ (Inspect.Sound.resume h cancelled answer)
  | unwinding cause t => exact bringsWellFormed_error cause
  | refreshing i => exact sound_afterRefresh (Inspect.Sound.resume h cancelled answer)
  | disconnecting t | teardownOnly t => rintro c (hc | hc) <;> cases hc
  | dialOnly d => exact sound_afterDialOnly _
  | inspectOnly i => exact sound_afterInspectOnly _

end Operation

end ModemLink
