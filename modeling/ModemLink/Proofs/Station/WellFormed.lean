import ModemLink.Proofs.Operation.WellFormed
import ModemLink.Proofs.Station.SingleFlight

/-!
# Connections are well formed

In every run of a station, and whatever its operations are answered, what a bearer keeps of a
session is what the modem could assign: the preferred data port, at least one address, and of
either family only texts of that family, each server once. A call that succeeds brings such a
connection, because the operation behind it was sound from its first turn on; and a bearer never
has a connection that no call brought.

Source: the specification, sections 3 and 4.2.

## Main definitions

* `Station.Sound`: every operation under way is sound.

## Main results

* `Station.Sound.step`: what a step does to operations, and what the call it ends brings.
* `Station.Run.connection_wellFormed`: every connection kept in a run is well formed.
-/

namespace ModemLink

open Operation (Purpose TurnSound sound_resume)

namespace Station

variable {s : Station}

/-- Every operation under way knows of its connection only what is well formed. -/
def Sound (s : Station) : Prop :=
  ∀ r ∈ s.running, r.operation.Sound s.modem

/-- The connections of bearers are well formed. -/
def Assigned (s : Station) : Prop :=
  ∀ b ∈ s.bearers, ∀ c, b.connection = some c → c.WellFormed s.modem

/-- Every call that has returned a connection has returned one that is well formed. -/
def ReturnsWellFormed (modem : Modem) (returned : List Return) : Prop :=
  ∀ r ∈ returned, BringsWellFormed modem r.ending

/-! ### What calls bring -/

/-- The latest success of a bearer is among the calls that have returned. -/
theorem exists_return_of_lastConnection {id : Nat} {returned : List Return} {c : Connection}
    (h : lastConnection id returned = some c) :
    ∃ r ∈ returned, r.ending = .ok (.connected c) ∨ r.ending = .ok (.refreshed c) := by
  obtain ⟨a, ha, hc⟩ := Option.bind_eq_some_iff.mp h
  obtain ⟨r, hr, hending⟩ := List.mem_filterMap.mp (List.mem_of_getLast? ha)
  refine ⟨r, hr, ?_⟩
  split at hending
  · cases hr : r.ending with
    | error fault => simp [hr, Except.toOption] at hending
    | ok a' =>
      obtain rfl : a' = a := by simpa [hr, Except.toOption] using hending
      cases a' with
      | connected c' => exact .inl (by rw [Option.some.inj hc])
      | refreshed c' => exact .inr (by rw [Option.some.inj hc])
      | disconnected | dialed _ | inspected _ | tornDown => cases hc
  · cases hending

/-- Where connections are what calls returned, they are as well formed. -/
theorem Reflects.assigned {returned : List Return} (h : s.Reflects returned)
    (hreturned : ReturnsWellFormed s.modem returned) : s.Assigned := by
  intro b hb c hc
  obtain ⟨r, hr, hending⟩ := exists_return_of_lastConnection ((h b hb).symm.trans hc)
  exact hreturned r hr c hending

/-! ### Every step keeps operations sound -/

/-- A call begins with a sound operation: the port to read on again is the one the session has. -/
theorem Assigned.sound_first (h : s.Assigned) (ho : s.Orderly) {b : Bearer} (hb : b ∈ s.bearers)
    {m : Move} {name : String} {p : Purpose} {first : Logged Turn}
    (hbegins : s.Begins b m name p first) (hbusy : b.busy = false)
    (hstatus : b.status = p.required) : TurnSound s.modem first.value := by
  cases hbegins with
  | connect => exact Operation.sound_connect ..
  | refresh =>
    cases hc : b.connection with
    | none =>
      simp only [onPort, hc]
      exact bringsWellFormed_error _
    | some c =>
      simp only [onPort, hc]
      exact Operation.sound_refresh (h b hb c hc).port b.profile
  | disconnect =>
    obtain ⟨port, hport⟩ := ho.exists_port hb hbusy hstatus fun port =>
      Operation.disconnect port b.profile.cid
    rw [hport]
    trivial

theorem BeginsFree.sound_first {m : Move} {cancelled : Bool} {first : Logged Turn}
    (h : s.BeginsFree m cancelled first) : TurnSound s.modem first.value := by
  cases h with
  | dial profile cancelled => exact Operation.sound_dial ..
  | inspect port cid family cancelled => exact Operation.sound_afterInspectOnly _
  | teardown port cid => trivial

namespace Sound

variable (h : s.Sound)
include h

theorem conclude (owner : Option Owner) (f : Owner → Bearer → Bearer) :
    (s.conclude owner f).Sound := by
  have hmodem := ((Continues.refl s).conclude owner f).modem_eq
  cases owner with
  | none => exact h
  | some o =>
    intro r hr
    simp only [Station.conclude, running_reap, running_update] at hr
    rw [hmodem]
    exact h r hr

theorem enter (owner : Option Owner) (cancelled : Bool) {turn : Turn}
    (ht : TurnSound s.modem turn) : (s.enter owner cancelled turn).1.Sound := by
  cases turn with
  | ask request op =>
    intro r hr
    rcases List.mem_append.mp hr with hr | hr
    · exact h r hr
    · obtain rfl := List.mem_singleton.mp hr
      exact ht
  | done ending =>
    exact Sound.conclude (s := { s with nextTicket := s.nextTicket + 1 }) h owner
      fun o b => b.settle o.previous ending

theorem without (ticket : Nat) :
    Sound { s with running := s.running.filter (·.ticket != ticket) } :=
  fun r hr => h r (List.mem_of_mem_filter hr)

/-- An answer leaves its operation sound, or ends it with nothing that cannot be assigned. -/
theorem resume {r : Running} (hr : s.running? r.ticket = some r) (a : Answer) :
    TurnSound s.modem (r.operation.resume r.cancelled a).value :=
  sound_resume (h r (mem_of_running? hr).1) r.cancelled a

/-- Every step leaves the operations under way sound. -/
theorem step (ho : s.Orderly) (ha : s.Assigned) {m : Move} {s' : Station} {ret : Option Return}
    (hs : s.Step m s' ret) : s'.Sound := by
  cases hs with
  | unmoved | created | refused | rested => exact h
  | released id =>
    exact Sound.conclude h (some ⟨id, .disconnected⟩) fun _ b => { b with held := false }
  | @occupied b hb m name p first hbegins hbusy hstatus request op hturn =>
    have hfirst := ha.sound_first ho hb hbegins hbusy hstatus
    rw [hturn] at hfirst
    exact Sound.enter (s := s.update b.id fun _ => b.occupied p s.nextTicket) h _ _ hfirst
  | @finished b hb m name p first hbegins hbusy hstatus ending hturn =>
    exact Sound.conclude (s := { s with nextTicket := s.nextTicket + 1 }) h
      (some ⟨b.id, p.required⟩) fun _ _ => (b.occupied p s.nextTicket).settle p.required ending
  | entered hbegins => exact h.enter none _ hbegins.sound_first
  | @resumed r hr a request op hturn =>
    have hresumed := h.resume hr a
    rw [hturn] at hresumed
    intro r' hr'
    obtain ⟨q, hq, rfl⟩ := List.mem_map.mp hr'
    rw [broughtOn]
    split
    · exact hresumed
    · exact h q hq
  | asked _ ticket =>
    intro r' hr'
    obtain ⟨q, hq, rfl⟩ := List.mem_map.mp hr'
    split
    · exact h q hq
    · exact h q hq
  | @ended r => exact (h.without r.ticket).conclude r.owner _
  | @dropped r => exact (h.without r.ticket).conclude r.owner _

/-- A call that comes to its end brings nothing that cannot be assigned. -/
theorem return_wellFormed (ho : s.Orderly) (ha : s.Assigned) {m : Move} {s' : Station} {r : Return}
    (hs : s.Step m s' (some r)) : BringsWellFormed s.modem r.ending := by
  generalize hret : some r = ret at hs
  cases hs with
  | unmoved | created | released | occupied | entered | resumed | asked | dropped => cases hret
  | refused =>
    cases hret
    exact bringsWellFormed_error _
  | rested =>
    cases hret
    rintro c (hc | hc) <;> cases hc
  | finished hb hbegins hbusy hstatus hturn =>
    cases hret
    have hfirst := ha.sound_first ho hb hbegins hbusy hstatus
    rw [hturn] at hfirst
    exact hfirst
  | @ended r' hr a ending hturn =>
    obtain ⟨o, -, hreturn⟩ := Option.map_eq_some_iff.mp hret.symm
    cases hreturn
    have hresumed := h.resume hr a
    rw [hturn] at hresumed
    exact hresumed

end Sound

/-! ### Every run -/

/-- In every run operations are sound, and calls return nothing that cannot be assigned. -/
theorem Run.sound (modem : Modem) (moves : List Move) :
    (Run.after modem moves).station.Sound ∧
      ReturnsWellFormed modem (Run.after modem moves).returned := by
  induction moves using List.reverseRecOn with
  | nil => exact ⟨by simp [Sound], by simp [ReturnsWellFormed]⟩
  | append_singleton moves m ih =>
    obtain ⟨hsound, hreturned⟩ := ih
    have ho := Run.orderly modem moves
    have hmodem := Run.modem_eq modem moves
    have ha : (Run.after modem moves).station.Assigned :=
      (Run.reflects modem moves).assigned (by rw [hmodem]; exact hreturned)
    have hs := (Run.after modem moves).station.step m
    rw [Run.after_concat]
    refine ⟨hsound.step ho ha hs, fun r hr => ?_⟩
    rcases List.mem_append.mp hr with hr | hr
    · exact hreturned r hr
    · rw [Option.mem_toList.mp hr] at hs
      rw [← hmodem]
      exact hsound.return_wellFormed ho ha hs

/-- In every run, of any moves in any order and with any answers, a connection that a bearer keeps
is one that the modem could assign. -/
theorem Run.connection_wellFormed (modem : Modem) (moves : List Move) :
    ∀ b ∈ (Run.after modem moves).station.bearers, ∀ c, b.connection = some c →
      c.WellFormed modem := by
  have hmodem := Run.modem_eq modem moves
  have hassigned : (Run.after modem moves).station.Assigned :=
    (Run.reflects modem moves).assigned (by rw [hmodem]; exact (Run.sound modem moves).2)
  intro b hb c hc
  rw [← hmodem]
  exact hassigned b hb c hc

/-- Moves that connect a bearer of both families. Of the servers that the modem tells, one is told
twice, one is none, and one is of another context. -/
def dualConnect : List Move :=
  [.create { cid := 1 }, .connect 0, .answer 0 (.ok "+CGACT: 1,1"), .answer 0 (.ok ""),
    .answer 0 (.ok ""), .answer 0 (.ok "+CGPADDR: 1,\"10.0.0.1\",\"fd00:1\""),
    .answer 0 (.ok ("+XDNS: 1,\"9.9.9.9\",\"0.0.0.0\"\r\n+XDNS: 2,\"8.8.8.8\",\"fd00:8\"\r\n" ++
      "+XDNS: 1,\"9.9.9.9\",\"fd00:9\""))]

/-- The connection of a bearer of both families is well formed. -/
theorem Run.connection_wellFormed_dualConnect :
    ∃ b ∈ (Run.after indexedModem dualConnect).station.bearers, ∃ c, b.connection = some c ∧
      c.ipv4 = some { address := "10.0.0.1", dns := ["9.9.9.9"] } ∧
      c.ipv6 = some { address := "fd00:1", dns := ["fd00:9"] } ∧ c.WellFormed indexedModem := by
  have hexists : ∃ b ∈ (Run.after indexedModem dualConnect).station.bearers, ∃ c ∈ b.connection,
      c.ipv4 = some { address := "10.0.0.1", dns := ["9.9.9.9"] } ∧
      c.ipv6 = some { address := "fd00:1", dns := ["fd00:9"] } := by decide +kernel
  obtain ⟨b, hb, c, hc, hipv4, hipv6⟩ := hexists
  exact ⟨b, hb, c, hc, hipv4, hipv6, Run.connection_wellFormed indexedModem dualConnect b hb c hc⟩

end Station

end ModemLink
