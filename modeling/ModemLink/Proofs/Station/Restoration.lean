import ModemLink.Proofs.Station.ContextIds
import ModemLink.Proofs.Station.SingleFlight
import ModemLink.Proofs.Station.Underway

/-!
# Bearers after calls that fail

A call that a bearer admits changes what the bearer shows: it is busy, keeps a ticket, and shows a
status of passage. All of that is taken back if the call does not succeed. It may fail with its
first turn, where there is no port to dial on. Its operation may fail later, on an answer or because
it was asked to stop; or it may be dropped where it waits. In every case the bearer is afterwards
the one from before the call, down to the connection of a session that was only half read again, and
admits the same call once more. Only what its creator did meanwhile stays done: a bearer that was
let go of is gone with its operation.

Source: the specification, section 10.5.

## Main definitions

* `Turn.progress`: how far a first turn brings an operation.
* `Station.Restored`: a bearer is as it was, and a call is admitted as before.
* `Station.Restores`: what a call that does not succeed leaves behind.

## Main results

* `Station.Begins.value_perform`: what a call does that is admitted.
* `Station.Run.restores`: calls that do not succeed, in every run.
-/

namespace ModemLink

open Operation (Purpose)

/-- How far a first turn brings the operation that has the ticket. -/
def Turn.progress (turn : Turn) (ticket : Nat) : Progress :=
  match turn with
  | .ask request _ => .waits ticket request
  | .done ending => .ended ending

namespace Bearer

/-- An idle bearer that was occupied is restored to what it was, if its creator still holds it. -/
theorem restore_after_occupied {b : Bearer} (hphase : b.Phase []) (hheld : b.held = true)
    {p : Purpose} (hstatus : b.status = p.required) (ticket : Nat) {moves : List Station.Move}
    (hmoves : .release b.id ∉ moves) :
    ((b.occupied p ticket).after moves).restore p.required = b := by
  obtain ⟨hbusy, hticket⟩ : b.busy = false ∧ b.ticket = none := by
    cases hphase with
    | disconnected busy ticket | connected busy ticket => exact ⟨busy, ticket⟩
  cases b
  simp_all [after, occupied, restore]

/-- An idle bearer that was occupied is what it was, once its operation has failed. -/
theorem settle_occupied_error {b : Bearer} (hphase : b.Phase []) (hheld : b.held = true)
    {p : Purpose} (hstatus : b.status = p.required) (ticket : Nat) (f : Fault) :
    (b.occupied p ticket).settle p.required (.error f) = b := by
  have hrestored := restore_after_occupied hphase hheld hstatus ticket List.not_mem_nil
  rwa [after_nil] at hrestored

end Bearer

namespace Station

variable {s t : Station} {b : Bearer} {m : Move} {name : String} {p : Purpose}
  {first : Logged Turn}

theorem value_enter_snd (s : Station) (owner : Option Owner) (cancelled : Bool) (turn : Turn) :
    (s.enter owner cancelled turn).2 = turn.progress s.nextTicket := by
  cases turn <;> rfl

/-- A call that is admitted occupies its bearer and enters its first turn. -/
theorem Begins.perform_eq (h : s.Begins b m name p first) (hb : s.bearer? b.id = some b)
    (hadmitted : b.refusal? name p.required = none) :
    s.perform m = advancing do
      let turn ← first
      return (s.update b.id fun _ => b.occupied p s.nextTicket).enter (some ⟨b.id, p.required⟩)
        false turn := by
  have hbegin := begin_eq s b name p first
  rw [hadmitted] at hbegin
  refine Eq.trans ?_ (congrArg advancing hbegin)
  cases h with
  | connect =>
    simp only [perform, Station.connect, hb]
    rfl
  | refresh =>
    simp only [perform, Station.refresh, hb]
    rfl
  | disconnect =>
    -- The bearer has a session to end.
    have hsession : (b.status == .disconnected) = false := by
      rw [(Bearer.refusal?_eq_none_iff.mp hadmitted).2]
      rfl
    simp only [perform, Station.disconnect, hb, hsession, Bool.and_false]
    rfl

theorem Begins.value_perform (h : s.Begins b m name p first) (hb : s.bearer? b.id = some b)
    (hadmitted : b.refusal? name p.required = none) :
    (s.perform m).value =
      (((s.update b.id fun _ => b.occupied p s.nextTicket).enter (some ⟨b.id, p.required⟩) false
        first.value).1, some (first.value.progress s.nextTicket)) := by
  have hprogress := value_enter_snd (s.update b.id fun _ => b.occupied p s.nextTicket)
    (some ⟨b.id, p.required⟩) false first.value
  rw [h.perform_eq hb hadmitted]
  simp only [advancing, Logged.value_bind, Logged.value_pure]
  rw [hprogress]
  rfl

/-- A call that is admitted logs what its first turn logs. -/
theorem Begins.log_perform (h : s.Begins b m name p first) (hb : s.bearer? b.id = some b)
    (hadmitted : b.refusal? name p.required = none) : (s.perform m).log = first.log := by
  rw [h.perform_eq hb hadmitted]
  simp [advancing]

/-- The bearer is as it was, and the same call is admitted again. -/
structure Restored (b : Bearer) (m : Move) (first : Logged Turn) (t : Station) : Prop where
  bearer : t.bearer? b.id = some b
  admitted : (t.perform m).value.2 = some (first.value.progress t.nextTicket)

/-- What a call leaves behind that a bearer has admitted and that does not succeed. -/
structure Restores (s : Station) (b : Bearer) (m : Move) (p : Purpose) (first : Logged Turn) :
    Prop where
  idle : b.busy = false ∧ b.ticket = none
  status : b.status = p.required
  /-- The bearer has a connection from before, unless the call was there to bring one. -/
  connection : b.connection.isSome = (p != .connect)
  /-- The call may fail before it asks for anything. -/
  at_once (f : Fault) (fails : s.returned? m = some ⟨b.id, .error f⟩) :
    Restored b m first (s.next m)
  /-- Or its operation gets under way, and is over with a later move, which is no success. -/
  later (meanwhile : List Move) (last : Move)
    (underway : (((s.next m).through meanwhile).running? s.nextTicket).isSome)
    (done : (((s.next m).through meanwhile).next last).running? s.nextTicket = none)
    (fails : ∀ a, ((s.next m).through meanwhile).returned? last ≠ some ⟨b.id, .ok a⟩) :
    if .release b.id ∈ meanwhile then
      (((s.next m).through meanwhile).next last).bearer? b.id = none
    else Restored b m first (((s.next m).through meanwhile).next last)

/-- A call depends on its bearer and on the modem only. -/
theorem Begins.of_modem_eq (h : s.Begins b m name p first) (hmodem : t.modem = s.modem) :
    t.Begins b m name p first := by
  cases h with
  | connect => exact hmodem ▸ .connect
  | refresh => exact .refresh
  | disconnect => exact .disconnect

/-- A bearer that is listed as it was admits the call that it admitted. -/
theorem Begins.restored (h : s.Begins b m name p first) (hmodem : t.modem = s.modem)
    (hadmitted : b.refusal? name p.required = none) (hb : t.bearer? b.id = some b) :
    Restored b m first t where
  bearer := hb
  admitted := congrArg Prod.snd ((h.of_modem_eq hmodem).value_perform hb hadmitted)

theorem continues_through (s : Station) (moves : List Move) : s.Continues (s.through moves) := by
  induction moves generalizing s with
  | nil => exact .refl s
  | cons m moves ih =>
    have hstep := (s.step m).continues
    have hrest := ih (s.next m)
    exact ⟨hrest.modem_eq.trans hstep.modem_eq,
      Nat.le_trans hstep.nextBearer_le hrest.nextBearer_le⟩

/-- The creator of an idle bearer holds it. -/
theorem Run.held_of_not_busy {modem : Modem} {moves : List Move}
    (hb : b ∈ (after modem moves).station.bearers) (hidle : b.busy = false) : b.held = true := by
  have hnone := ((orderly modem moves).phase b hb).pending_eq_nil hidle
  exact (attended modem moves b.stake (List.mem_map_of_mem hb)).resolve_right
    fun hne => hne hnone

theorem bearer?_occupied (hb : s.bearer? b.id = some b) (p : Purpose) (ticket : Nat) :
    (s.update b.id fun _ => b.occupied p ticket).bearer? b.id = some (b.occupied p ticket) := by
  have hupdate := bearer?_update (s := s) (f := fun _ => b.occupied p ticket)
    fun b' (_ : b'.id = b.id) => rfl
  exact hupdate.trans (by rw [hb]; rfl)

/-- A call that waits has brought the operation of its bearer. -/
theorem Begins.underway (h : s.Begins b m name p first) (hb : s.bearer? b.id = some b)
    (hadmitted : b.refusal? name p.required = none) {request : Request} {op : Operation}
    (hturn : first.value = .ask request op) :
    (s.next m).bearer? b.id = some (b.occupied p s.nextTicket) ∧
      ⟨s.nextTicket, some ⟨b.id, p.required⟩, false, op, request⟩ ∈
        (s.next m).operationsOf b.id := by
  rw [next, h.value_perform hb hadmitted, hturn]
  refine ⟨bearer?_occupied hb p s.nextTicket, mem_operationsOf.mpr ⟨?_, rfl⟩⟩
  exact List.mem_append_right _ (List.mem_singleton_self _)

/-- A call that is admitted uses a ticket. -/
theorem Begins.nextTicket_lt (h : s.Begins b m name p first) (hb : s.bearer? b.id = some b)
    (hadmitted : b.refusal? name p.required = none) :
    s.nextTicket < (s.next m).nextTicket := by
  rw [next, h.value_perform hb hadmitted]
  cases first.value with
  | ask request op => exact Nat.lt_succ_self _
  | done ending =>
    simp only [enter, settle, nextTicket_conclude]
    exact Nat.lt_succ_self _

/-- A call that ends with its first turn brings no operation. -/
theorem Begins.running?_of_done (h : s.Begins b m name p first) (ho : s.Orderly)
    (hb : s.bearer? b.id = some b) (hadmitted : b.refusal? name p.required = none)
    {ending : Ending} (hturn : first.value = .done ending) :
    (s.next m).running? s.nextTicket = none := by
  rw [next, h.value_perform hb hadmitted, hturn]
  simp only [enter, settle, running?_conclude]
  rw [running?, List.find?_eq_none]
  intro r hr hticket
  exact Nat.ne_of_lt (ho.tickets_lt r hr) (by simpa using hticket)

namespace Orderly

variable (h : s.Orderly)
include h

/-- A call that fails with its first turn leaves its bearer as it was. -/
theorem bearer?_of_fails_at_once (hb : s.bearer? b.id = some b) (hheld : b.held = true)
    (hbegins : s.Begins b m name p first) (hadmitted : b.refusal? name p.required = none)
    {f : Fault} (hfails : s.returned? m = some ⟨b.id, .error f⟩) :
    (s.next m).bearer? b.id = some b := by
  obtain ⟨hidle, hstatus⟩ := Bearer.refusal?_eq_none_iff.mp hadmitted
  have hperform := hbegins.value_perform hb hadmitted
  have hphase := h.phase_of_idle (mem_of_bearer? hb).1 hidle
  rw [returned?, hperform] at hfails
  rw [Station.next, hperform]
  cases hturn : first.value with
  | ask request op =>
    rw [hturn] at hfails
    simp [Turn.progress, Progress.ending?] at hfails
  | done ending =>
    rw [hturn] at hfails
    obtain rfl : ending = .error f := by
      obtain ⟨id, -, hreturn⟩ := Option.bind_eq_some_iff.mp hfails
      exact (Return.mk.inj (Option.some.inj hreturn)).2
    let occupied := s.update b.id fun _ => b.occupied p s.nextTicket
    have hsettled := bearer?_settle (s := { occupied with nextTicket := s.nextTicket + 1 })
      (bearer?_occupied hb p s.nextTicket) hheld p.required (.error f)
    exact hsettled.trans
      (congrArg some (Bearer.settle_occupied_error hphase hheld hstatus s.nextTicket f))

/-- An operation that is over without success puts its bearer back, or its bearer is gone. -/
theorem bearer?_next_of_fails {r : Running} {last : Move} (hb : s.bearer? b.id = some b)
    (hr : r ∈ s.operationsOf b.id) (hends : r.EndsBy last)
    (hfails : ∀ a, s.returned? last ≠ some ⟨b.id, .ok a⟩) :
    (s.next last).bearer? b.id =
      if b.held then some (b.restore r.operation.purpose.required) else none := by
  obtain ⟨hmem, howner⟩ := mem_operationsOf.mp hr
  obtain ⟨o, ho, hid⟩ := Option.map_eq_some_iff.mp howner
  cases hends with
  | @answered a ending hturn =>
    have hreturned := returned?_answer (h.running?_eq hmem) ho a
    rw [hturn, hid] at hreturned
    rw [h.bearer?_next_of_done hb hr hturn]
    match ending with
    | .ok achievement => exact absurd hreturned (hfails achievement)
    | .error fault => rfl
  | dropped => exact h.bearer?_next_of_abort hb hr

/-- A call whose operation is over without success leaves its bearer as it was, if the creator has
not let go of it. -/
theorem bearer?_of_fails_later (hb : s.bearer? b.id = some b) (hheld : b.held = true)
    (hbegins : s.Begins b m name p first) (hadmitted : b.refusal? name p.required = none)
    {meanwhile : List Move} {last : Move}
    (hunderway : (((s.next m).through meanwhile).running? s.nextTicket).isSome)
    (hdone : (((s.next m).through meanwhile).next last).running? s.nextTicket = none)
    (hfails : ∀ a, ((s.next m).through meanwhile).returned? last ≠ some ⟨b.id, .ok a⟩) :
    (((s.next m).through meanwhile).next last).bearer? b.id =
      if .release b.id ∈ meanwhile then none else some b := by
  obtain ⟨hidle, hstatus⟩ := Bearer.refusal?_eq_none_iff.mp hadmitted
  have hphase := h.phase_of_idle (mem_of_bearer? hb).1 hidle
  cases hturn : first.value with
  | done ending =>
    have hnone := hbegins.running?_of_done h hb hadmitted hturn
    rw [(h.next m).running?_through (hbegins.nextTicket_lt hb hadmitted), hnone] at hunderway
    cases hunderway
  | ask request op =>
    obtain ⟨hoccupied, hr⟩ := hbegins.underway hb hadmitted hturn
    obtain ⟨r, hcontinues, hr', hends, hthrough⟩ :=
      (h.next m).exists_endsBy (b := b.occupied p s.nextTicket) hoccupied hr hunderway hdone
    have ht := (h.next m).through meanwhile
    have hnext := ht.bearer?_next_of_fails
      (b := (b.occupied p s.nextTicket).after meanwhile) hthrough hr' hends hfails
    have howner := (ht.phase_of_mem
      (b := (b.occupied p s.nextTicket).after meanwhile) (mem_of_bearer? hthrough).1 hr').1
    rw [← (Owner.mk.inj (Option.some.inj (hcontinues.owner_eq.symm.trans howner))).2] at hnext
    refine hnext.trans ?_
    split
    · next hstays =>
      have hkept : .release b.id ∉ meanwhile := by
        have hstays : b.held && decide (.release b.id ∉ meanwhile) := hstays
        simpa [hheld] using hstays
      rw [if_neg hkept, Bearer.restore_after_occupied hphase hheld hstatus _ hkept]
    · next hgone =>
      have hreleased : .release b.id ∈ meanwhile := by
        have hgone : ¬ (b.held && decide (.release b.id ∉ meanwhile)) = true := hgone
        simpa [hheld] using hgone
      rw [if_pos hreleased]

end Orderly

/-- In every run, a call that a bearer admits and that does not succeed leaves the bearer as it was,
so that the bearer admits the same call again. -/
theorem Run.restores (modem : Modem) (moves : List Move)
    (hb : (after modem moves).station.bearer? b.id = some b)
    (hbegins : (after modem moves).station.Begins b m name p first)
    (hadmitted : b.refusal? name p.required = none) :
    (after modem moves).station.Restores b m p first := by
  have ho := orderly modem moves
  generalize hs : (after modem moves).station = s at hb hbegins ho ⊢
  obtain ⟨hmem, -⟩ := mem_of_bearer? hb
  obtain ⟨hidle, hstatus⟩ := Bearer.refusal?_eq_none_iff.mp hadmitted
  have hheld : b.held = true := Run.held_of_not_busy (hs ▸ hmem) hidle
  have hphase := ho.phase_of_idle hmem hidle
  refine
    { idle := ⟨hidle, hphase.ticket_eq⟩
      status := hstatus
      connection := hphase.connection_isSome hidle hbegins.ne_free hstatus
      at_once := fun f hfails => ?_
      later := fun meanwhile last hunderway hdone hfails => ?_ }
  · refine hbegins.restored (s.step m).continues.modem_eq hadmitted ?_
    exact ho.bearer?_of_fails_at_once hb hheld hbegins hadmitted hfails
  have hmodem : (((s.next m).through meanwhile).next last).modem = s.modem := by
    have h₁ := (s.step m).continues.modem_eq
    have h₂ := ((s.next m).continues_through meanwhile).modem_eq
    exact (((s.next m).through meanwhile).step last).continues.modem_eq.trans (h₂.trans h₁)
  have hnext := ho.bearer?_of_fails_later hb hheld hbegins hadmitted hunderway hdone hfails
  split
  · next hreleased => rwa [if_pos hreleased] at hnext
  · next hkept =>
    rw [if_neg hkept] at hnext
    exact hbegins.restored hmodem hadmitted hnext

/-- Moves that connect a bearer on an active context. -/
def sessionBegun : List Move := roundTrip.dropLast

/-- A bearer keeps its address where the call is dropped that has just read another one. -/
theorem Run.restores_dropped :
    let s := (after indexedModem sessionBegun).station
    let dropped := ((s.next (.refresh 0)).next (.answer 1 (.ok "+CGPADDR: 1,\"10.0.0.2\""))).next
      (.abort 1)
    ∃ b, s.bearer? 0 = some b ∧ b.status = .connected ∧
      b.connection.bind (·.ipv4) = some { address := "10.0.0.1" } ∧ dropped.bearer? 0 = some b := by
  intro s dropped
  have hb : ∃ b, s.bearer? 0 = some b ∧ b.id = 0 ∧ b.status = .connected ∧
      b.connection.bind (·.ipv4) = some { address := "10.0.0.1" } ∧
      b.refusal? "get IP config" Purpose.refresh.required = none := by decide +kernel
  obtain ⟨b, hb, hid, hstatus, haddress, hadmitted⟩ := hb
  have hbegins : s.Begins b (.refresh 0) "get IP config" .refresh
      (onPort b fun port => Operation.refresh port b.profile) := hid ▸ .refresh
  have hrestores := Run.restores indexedModem sessionBegun (hid.symm ▸ hb) hbegins hadmitted
  have hunderway : (((s.next (.refresh 0)).through
      [.answer 1 (.ok "+CGPADDR: 1,\"10.0.0.2\"")]).running? s.nextTicket).isSome := by
    decide +kernel
  have hdone : dropped.running? s.nextTicket = none := by decide +kernel
  have hreturned : ((s.next (.refresh 0)).through
      [.answer 1 (.ok "+CGPADDR: 1,\"10.0.0.2\"")]).returned? (.abort 1) = none := rfl
  have hrestored := hrestores.later _ (.abort 1) hunderway hdone fun a => by
    rw [hreturned]
    exact nofun
  rw [if_neg (by simp)] at hrestored
  exact ⟨b, hb, hstatus, haddress, hid ▸ hrestored.bearer⟩

end Station

end ModemLink
