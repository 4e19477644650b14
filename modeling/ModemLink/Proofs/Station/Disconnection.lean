import ModemLink.Proofs.Station.Cancellation

/-!
# Ending a session

A bearer that is connected and at rest can always be disconnected. The call puts one command, the
deactivation of its context, and succeeds with the answer, whatever this is and whatever happens at
the station in between; to be asked to stop is nothing to it. An answer that is a fault is logged,
unless it is the one by which the modem says that the link is gone. The bearer is then like a new
one: to disconnect it once more does nothing at all and succeeds, and it can be connected.

Source: the specification, sections 4.3 and 10.5.

## Main definitions

* `Station.AsNew`: a bearer as it was when it was created.
* `Station.Ends`: what comes of the answer to the deactivation.
* `Station.Disconnects`: what comes of it when a bearer is disconnected.

## Main results

* `Station.Orderly.progresses_of_disconnect`: such a call puts no other command.
* `Station.Run.disconnects`: bearers that are disconnected, in every run.
-/

namespace ModemLink

open Operation (Purpose)

theorem Fault.isNoCarrier_iff {f : Fault} : f.isNoCarrier = true ↔ f = .noCarrier := by
  cases f <;> simp [isNoCarrier]

/-- The fault of the answer is logged, unless it says that the link is gone. -/
theorem Teardown.deactivationFailed_mem_remarks {t : Teardown} {a : Answer} {cid : UInt32}
    {port : String} {fault : Fault} :
    .deactivationFailed cid port fault ∈ t.remarks a ↔
      a = .error fault ∧ fault ≠ .noCarrier ∧ cid = t.cid ∧ port = t.port.name := by
  cases a with
  | ok reply => simp [remarks]
  | error f =>
    simp only [remarks, ← Fault.isNoCarrier_iff, ne_eq, Except.error.injEq]
    constructor
    · intro hmem
      split at hmem
      · cases hmem
      · next hgone =>
        obtain ⟨rfl, rfl, rfl⟩ := Event.deactivationFailed.inj (List.mem_singleton.mp hmem)
        exact ⟨rfl, hgone, rfl, rfl⟩
    · rintro ⟨rfl, hgone, rfl, rfl⟩
      rw [if_neg hgone]
      exact List.mem_singleton_self _

namespace Operation

/-- The operation that ends a session ends it with the answer, whatever this is. -/
theorem value_resume_of_disconnect {op : Operation} (h : op.purpose = .disconnect)
    (cancelled : Bool) (a : Answer) :
    (op.resume cancelled a).value = .done (.ok .disconnected) := by
  cases op with
  | disconnecting t => rfl
  | _ => cases h

theorem log_resume_disconnecting (t : Teardown) (cancelled : Bool) (a : Answer) :
    ((disconnecting t).resume cancelled a).log =
      t.remarks a ++ [.stepEntered "disconnect" "Done", .disconnected] :=
  List.append_assoc ..

end Operation

namespace Station

variable {s t : Station} {b : Bearer} {r : Running} {ticket : Nat} {meanwhile : List Move}

/-- The bearer is as it was when it was created, so that there is no session to end and one can be
begun. -/
structure AsNew (t : Station) (b : Bearer) : Prop where
  bearer : t.bearer? b.id = some { id := b.id, profile := b.profile }
  /-- To disconnect it once more succeeds, and neither asks for anything nor changes anything. -/
  rests : t.perform (.disconnect b.id) = pure (t, some (.ended (.ok .disconnected)))
  /-- To connect it is admitted. -/
  admits : (t.perform (.connect b.id)).value.2 =
    some ((Operation.connect t.modem b.profile).value.progress t.nextTicket)

/-- What comes of it when a bearer is disconnected. -/
structure Disconnects (s : Station) (b : Bearer) : Prop where
  /-- The call waits for the deactivation of the context, which nothing interrupts. -/
  asks : (s.perform (.disconnect b.id)).value.2 =
    some (.waits s.nextTicket ⟨.setActivation false b.profile.cid, false⟩)
  body : (Command.setActivation false b.profile.cid).body = "+CGACT=0," ++ toString b.profile.cid
  /-- No fault is logged before the answer. -/
  log_eq : (s.perform (.disconnect b.id)).log = [.stepEntered "disconnect" "Deactivate"]
  /-- Whatever happens, nothing comes of it any more but its success. -/
  once (later : List Move) :
    (s.next (.disconnect b.id)).progresses s.nextTicket later = [] ∨
      (s.next (.disconnect b.id)).progresses s.nextTicket later = [.ended (.ok .disconnected)]
  /-- It succeeds with the answer, whatever this is and whatever has happened in between. -/
  succeeds (meanwhile : List Move) (spared : ∀ m ∈ meanwhile, m.Spares s.nextTicket) (a : Answer) :
    ((s.next (.disconnect b.id)).through meanwhile).returned? (.answer s.nextTicket a) =
      some ⟨b.id, .ok .disconnected⟩
  /-- The answer is logged where it is a fault, but not where it says that the link is gone. -/
  logs (meanwhile : List Move) (spared : ∀ m ∈ meanwhile, m.Spares s.nextTicket) (a : Answer)
    (cid : UInt32) (port : String) (fault : Fault) :
    .deactivationFailed cid port fault ∈
        (((s.next (.disconnect b.id)).through meanwhile).perform (.answer s.nextTicket a)).log ↔
      a = .error fault ∧ fault ≠ .noCarrier ∧ cid = b.profile.cid ∧
        b.connection.map (·.port.name) = some port
  /-- The bearer is like a new one then, or gone if its creator has let go of it. -/
  leaves (meanwhile : List Move) (spared : ∀ m ∈ meanwhile, m.Spares s.nextTicket) (a : Answer) :
    let ended := ((s.next (.disconnect b.id)).through meanwhile).next (.answer s.nextTicket a)
    if .release b.id ∈ meanwhile then ended.bearer? b.id = none else ended.AsNew b

/-- The operation that ends the session of a bearer on a port. -/
def disconnection (s : Station) (b : Bearer) (port : DataPort) : Running where
  ticket := s.nextTicket
  owner := some ⟨b.id, .connected⟩
  operation := .disconnecting ⟨port, b.profile.cid⟩
  request := ⟨.setActivation false b.profile.cid, false⟩

/-- A bearer that shows nothing of a session can be left alone, and can be connected. -/
theorem asNew_of_bearer? (hb : t.bearer? b.id = some { id := b.id, profile := b.profile }) :
    t.AsNew b where
  bearer := hb
  rests := by
    rw [perform, Station.disconnect, hb]
    rfl
  admits := by
    have hbegins : t.Begins { id := b.id, profile := b.profile } (.connect b.id) "connect" .connect
        (Operation.connect t.modem b.profile) := .connect
    exact congrArg Prod.snd (hbegins.value_perform hb rfl)

/-- A bearer that is connected and at rest is disconnected by an operation on its port. -/
theorem disconnect_admitted (hb : s.bearer? b.id = some b) (hidle : b.busy = false)
    (hstatus : b.status = .connected) {c : Connection} (hc : b.connection = some c) :
    (s.perform (.disconnect b.id)).value.2 =
        some (.waits s.nextTicket ⟨.setActivation false b.profile.cid, false⟩) ∧
      (s.perform (.disconnect b.id)).log = [.stepEntered "disconnect" "Deactivate"] ∧
      (s.next (.disconnect b.id)).bearer? b.id = some (b.occupied .disconnect s.nextTicket) ∧
      s.disconnection b c.port ∈ (s.next (.disconnect b.id)).operationsOf b.id := by
  have hbegins : s.Begins b (.disconnect b.id) "disconnect" .disconnect
      (onPort b fun port => Operation.disconnect port b.profile.cid) := .disconnect
  have hadmitted : b.refusal? "disconnect" Purpose.disconnect.required = none :=
    Bearer.refusal?_eq_none_iff.mpr ⟨hidle, hstatus⟩
  have hport : (onPort b fun port => Operation.disconnect port b.profile.cid) =
      Operation.disconnect c.port b.profile.cid := by
    rw [onPort, hc]
  rw [hport] at hbegins
  refine ⟨?_, ?_, hbegins.underway hb hadmitted rfl⟩
  · rw [hbegins.value_perform hb hadmitted]
    rfl
  · rw [hbegins.log_perform hb hadmitted]
    rfl

/-- The fault of a deactivation is logged with the context and the port of the bearer. -/
theorem deactivationFailed_mem_log {cancelled : Bool} {c : Connection} (hc : b.connection = some c)
    (hr : t.running? s.nextTicket = some { s.disconnection b c.port with cancelled }) (a : Answer)
    {cid : UInt32} {port : String} {fault : Fault} :
    .deactivationFailed cid port fault ∈ (t.perform (.answer s.nextTicket a)).log ↔
      a = .error fault ∧ fault ≠ .noCarrier ∧ cid = b.profile.cid ∧
        b.connection.map (·.port.name) = some port := by
  rw [log_perform_answer hr, disconnection, Operation.log_resume_disconnecting, List.mem_append,
    Teardown.deactivationFailed_mem_remarks, hc]
  simp [eq_comm]

namespace Orderly

/-- Nothing comes of a call that ends a session but its success. -/
theorem progresses_of_disconnect (h : s.Orderly) (hr : s.running? ticket = some r)
    (hp : r.operation.purpose = .disconnect) (later : List Move) :
    s.progresses ticket later = [] ∨ s.progresses ticket later = [.ended (.ok .disconnected)] := by
  induction later generalizing s r with
  | nil => exact .inl rfl
  | cons m later ih =>
    obtain ⟨-, rfl⟩ := mem_of_running? hr
    cases hafter : r.after? m with
    | none =>
      have hends := Running.after?_eq_none_iff.mp hafter
      rw [h.progresses_cons_of_endsBy hr hends]
      cases hends with
      | dropped => exact .inl rfl
      | @answered a ending hturn =>
        rw [progress?_answer hr, Operation.value_resume_of_disconnect hp]
        exact .inr rfl
    | some r' =>
      have hnext := (h.running?_next hr m).trans hafter
      rw [progresses]
      rcases Running.after?_cases hafter with
        ⟨hm, asked, rfl⟩ | ⟨a, request, operation, rfl, hturn, rfl⟩
      · rw [progress?_eq_none hm.2]
        exact ih (h.next m) hnext hp
      · cases (Operation.value_resume_of_disconnect hp r.cancelled a).symm.trans hturn

/-- The answer that ends a session leaves the bearer like a new one, or ends it where its creator
has let go of it. -/
theorem leaves_of_disconnect (h : t.Orderly) (hheld : b.held = true)
    (hb : t.bearer? b.id = some ((b.occupied .disconnect ticket).after meanwhile))
    (hr : r ∈ t.operationsOf b.id) (hp : r.operation.purpose = .disconnect) (a : Answer) :
    if .release b.id ∈ meanwhile then (t.next (.answer r.ticket a)).bearer? b.id = none
    else (t.next (.answer r.ticket a)).AsNew b := by
  have hnext := h.bearer?_next_of_done (b := (b.occupied .disconnect ticket).after meanwhile) hb hr
    (Operation.value_resume_of_disconnect hp r.cancelled a)
  have hstays : ((b.occupied .disconnect ticket).after meanwhile).held =
      decide (.release b.id ∉ meanwhile) := by
    simp [Bearer.after, Bearer.occupied, hheld]
  split
  · next hreleased =>
    rw [hstays, decide_eq_false (not_not_intro hreleased)] at hnext
    exact hnext
  · next hkept =>
    rw [hstays, decide_eq_true hkept, if_pos rfl] at hnext
    refine asNew_of_bearer? (hnext.trans (congrArg some ?_))
    rw [Bearer.settle, Bearer.complete, hstays, decide_eq_true hkept]
    rfl

section Admitted

variable (h : s.Orderly) (hb : s.bearer? b.id = some b) (hidle : b.busy = false)
  (hstatus : b.status = .connected)

include h hb hidle hstatus

/-- While the call waits, its bearer stays occupied, whatever happens. -/
theorem disconnecting_through {c : Connection} (hc : b.connection = some c)
    (hspared : ∀ m ∈ meanwhile, m.Spares s.nextTicket) :
    ((s.next (.disconnect b.id)).through meanwhile).bearer? b.id =
        some ((b.occupied .disconnect s.nextTicket).after meanwhile) ∧
      ∃ cancelled, { s.disconnection b c.port with cancelled } ∈
        ((s.next (.disconnect b.id)).through meanwhile).operationsOf b.id := by
  obtain ⟨-, -, hbearer, hr⟩ := disconnect_admitted hb hidle hstatus hc
  obtain ⟨asked, hthrough⟩ := Running.through?_of_spares (r := s.disconnection b c.port) hspared
  obtain ⟨hbearer', hr'⟩ := (h.next (.disconnect b.id)).bearer?_through
    (b := b.occupied .disconnect s.nextTicket) hbearer hr hthrough
  exact ⟨hbearer', _, hr'⟩

/-- A bearer that is connected and at rest can be disconnected, and is like a new one then. -/
theorem disconnects_of_connected (hheld : b.held = true) : s.Disconnects b := by
  have hphase := h.phase_of_idle (mem_of_bearer? hb).1 hidle
  have hconnection := hphase.connection_isSome hidle (p := .disconnect) (by decide) hstatus
  obtain ⟨c, hc⟩ := Option.isSome_iff_exists.mp hconnection
  obtain ⟨hasks, hlog, -, hr⟩ := disconnect_admitted hb hidle hstatus hc
  have hbegun := h.next (.disconnect b.id)
  refine
    { asks := hasks
      body := rfl
      log_eq := hlog
      once := hbegun.progresses_of_disconnect (hbegun.running?_eq (mem_operationsOf.mp hr).1) rfl
      succeeds := fun meanwhile hspared a => ?_
      logs := fun meanwhile hspared a cid port fault => ?_
      leaves := fun meanwhile hspared a => ?_ }
  · obtain ⟨-, cancelled, hr⟩ := disconnecting_through h hb hidle hstatus hc hspared
    exact (hbegun.through meanwhile).returned?_answer_disconnect hr rfl a
  · obtain ⟨-, cancelled, hr⟩ := disconnecting_through h hb hidle hstatus hc hspared
    have hrunning := (hbegun.through meanwhile).running?_eq (mem_operationsOf.mp hr).1
    exact deactivationFailed_mem_log hc hrunning a
  · obtain ⟨hbearer, cancelled, hr⟩ := disconnecting_through h hb hidle hstatus hc hspared
    exact (hbegun.through meanwhile).leaves_of_disconnect hheld hbearer hr rfl a

end Admitted

end Orderly

/-- In every run, a bearer that is connected and for which nothing is under way can be disconnected,
whatever the modem answers. -/
theorem Run.disconnects (modem : Modem) (moves : List Move)
    (hb : b ∈ (after modem moves).station.bearers) (hstatus : b.status = .connected)
    (hnone : (after modem moves).station.operationsOf b.id = []) :
    (after modem moves).station.Disconnects b := by
  have ho := orderly modem moves
  have hidle : b.busy = false := (ho.phase b hb).idle_iff.mpr hnone
  exact ho.disconnects_of_connected (ho.bearer?_eq hb) hidle hstatus (Run.held_of_not_busy hb hidle)

/-- A bearer is like a new one where the modem has not answered the deactivation in time, and where
it was asked to stop twice while it waited. -/
theorem Run.disconnects_unanswered :
    let s := (after indexedModem sessionBegun).station
    let ended := ((s.next (.disconnect 0)).through [.cancel 0, .cancel 0]).next
      (.answer 1 (.error (.timedOut (.ofMillis 30000))))
    ∃ b ∈ s.bearers, b.status = .connected ∧ s.operationsOf b.id = [] ∧ s.Disconnects b ∧
      ended.bearer? 0 = some { id := 0, profile := { cid := 1 } } := by
  intro s ended
  have hb : ∃ b ∈ s.bearers, b.id = 0 ∧ b.status = .connected ∧ s.operationsOf 0 = [] ∧
      b.profile = { cid := 1 } := by decide +kernel
  obtain ⟨b, hb, hid, hstatus, hnone, hprofile⟩ := hb
  rw [← hid] at hnone
  have hdisconnects : s.Disconnects b := Run.disconnects indexedModem sessionBegun hb hstatus hnone
  refine ⟨b, hb, hstatus, hnone, hdisconnects, ?_⟩
  have hticket : s.nextTicket = 1 := by decide +kernel
  have hleaves := hdisconnects.leaves [.cancel 0, .cancel 0] (by simp [Move.Spares])
    (.error (.timedOut (.ofMillis 30000)))
  rw [hid, hticket, if_neg (by simp)] at hleaves
  have hbearer := hleaves.bearer
  rwa [hid, hprofile] at hbearer

end Station

end ModemLink
