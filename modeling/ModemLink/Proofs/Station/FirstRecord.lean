import ModemLink.Proofs.Operation.Telling
import ModemLink.Proofs.Reply.EmptyTexts
import ModemLink.Proofs.Station.Cancellation

/-!
# The first record of a reply counts

A bearer that connects, or reads its configuration again, asks for the addresses of its own context.
It takes the addresses of the first record that it is answered with. Where this record is on another
context, a warning names both contexts, and the addresses are taken all the same: what the bearer
keeps are the addresses of that other context, whatever records follow. They are its own exactly
where the first record is on its own context.

Source: the specification, sections 4.2 and 4.4.

## Main definitions

* `Station.HeedsFirst`: what an operation makes of the reply to its address query.

## Main results

* `Running.told_of_through?`: what was told of the addresses stays with an operation.
* `Station.Run.heedsFirst`: in every run, the first record of the reply counts and no other one.
-/

namespace ModemLink

open Reply (Addresses)
open Station (Move)

namespace Running

variable {r r' : Running} {told : Except ReplyFault Addresses}

theorem told_of_after? (h : r.operation.Told told) {m : Move} (hr : r.after? m = some r') :
    r'.operation.Told told := by
  rcases after?_cases hr with ⟨-, asked, rfl⟩ | ⟨a, request, operation, -, hturn, rfl⟩
  · exact h
  · have hnext := Operation.Told.resume h r.cancelled a
    rw [hturn] at hnext
    exact hnext

/-- What was told of the addresses stays with an operation as long as it is under way. -/
theorem told_of_through? (h : r.operation.Told told) {moves : List Move}
    (hr : r.through? moves = some r') : r'.operation.Told told := by
  induction moves generalizing r with
  | nil =>
    obtain rfl := Option.some.inj hr
    exact h
  | cons m moves ih =>
    rw [through?_cons, Option.bind_eq_some_iff] at hr
    obtain ⟨q, hq, hr⟩ := hr
    exact ih (told_of_after? h hq) hr

/-- An operation that has been answered its address query, and is under way later on, knows what the
reply told. -/
theorem told_of_answer (hqueries : r.operation.Queries) {reply : String} {later : List Move}
    (hr : r.through? (.answer r.ticket (.ok reply) :: later) = some r') :
    r'.operation.Told (Addresses.read reply) := by
  rw [through?_cons, Option.bind_eq_some_iff] at hr
  obtain ⟨q, hq, hr⟩ := hr
  refine told_of_through? ?_ hr
  have hnext := Operation.told_of_resume hqueries r.cancelled reply
  rw [after?, if_pos rfl] at hq
  split at hq
  · next request operation hturn =>
    obtain rfl := Option.some.inj hq
    rw [hturn] at hnext
    exact hnext
  · cases hq

end Running

namespace Station

variable {s : Station} {b : Bearer} {r : Running}

/-- What an operation of a bearer makes of the reply to its address query. -/
structure HeedsFirst (s : Station) (b : Bearer) (r : Running) (reply : String) : Prop where
  /-- A warning tells exactly where the first record is on another context, and on which. -/
  warned (expected got : UInt32) :
    .otherContext expected got ∈ (s.perform (.answer r.ticket (.ok reply))).log ↔
      expected = b.profile.cid ∧ got ≠ b.profile.cid ∧
        ∃ record addresses, Addresses.record? reply = some record ∧
          Addresses.ofRecord record = .ok addresses ∧ addresses.cid = got
  /-- Where the operation succeeds, the addresses of the first record are the ones that it brings
  and that the bearer keeps. -/
  kept (later : List Move) (a : Answer) (achievement : Achievement)
    (succeeds : ((s.next (.answer r.ticket (.ok reply))).through later).returned?
      (.answer r.ticket a) = some ⟨b.id, .ok achievement⟩) :
    ∃ record addresses c, Addresses.record? reply = some record ∧
      Addresses.ofRecord record = .ok addresses ∧
      c.ipv4.map (·.address) = addresses.ipv4 ∧ c.ipv6.map (·.address) = addresses.ipv6 ∧
      achievement.connection? = some c ∧
      (((s.next (.answer r.ticket (.ok reply))).through later).next
        (.answer r.ticket a)).bearer? b.id =
          if b.held ∧ .release b.id ∉ later then
            some { b with
              busy := false, ticket := none, status := .connected, connection := some c }
          else none

/-- A call that returns with an answer was under way. -/
theorem exists_running?_of_returned? {ticket : Nat} {a : Answer} {ret : Return}
    (h : s.returned? (.answer ticket a) = some ret) : ∃ r, s.running? ticket = some r := by
  cases hr : s.running? ticket with
  | some r => exact ⟨r, rfl⟩
  | none =>
    have hcaller : s.callerOf? (.answer ticket a) = none := by simp [callerOf?, hr]
    cases (returned?_of_callerOf?_eq_none hcaller).symm.trans h

/-- A bearer keeps the connection that its operation succeeds with, which has the addresses that the
operation was told. -/
theorem Orderly.keeps_told (h : s.Orderly) (hb : s.bearer? b.id = some b)
    (hr : r ∈ s.operationsOf b.id) {told : Except ReplyFault Addresses}
    (htold : r.operation.Told told) {a : Answer} {achievement : Achievement}
    (hsucceeds : s.returned? (.answer r.ticket a) = some ⟨b.id, .ok achievement⟩) :
    ∃ c addresses servers, told = .ok addresses ∧ c.Has addresses servers ∧
      achievement.connection? = some c ∧
      (s.next (.answer r.ticket a)).bearer? b.id =
        if b.held then
          some { b with busy := false, ticket := none, status := .connected, connection := some c }
        else none := by
  obtain ⟨hmem, howner⟩ := mem_operationsOf.mp hr
  obtain ⟨o, ho, -⟩ := Option.map_eq_some_iff.mp howner
  rw [returned?_answer (h.running?_eq hmem) ho] at hsucceeds
  split at hsucceeds
  · cases hsucceeds
  · next ending hturn =>
    have hending := congrArg Return.ending (Option.some.inj hsucceeds)
    have hbrings := htold.resume r.cancelled a
    rw [hturn] at hbrings
    obtain ⟨c, addresses, -, servers, hachieved, haddresses, -, -, hhas⟩ :=
      hbrings achievement hending
    obtain rfl : ending = .ok achievement := hending
    refine ⟨c, addresses, servers, haddresses, hhas, ?_, ?_⟩
    · rcases hachieved with rfl | rfl
      · rfl
      · rfl
    · rw [h.bearer?_next_of_done hb hr hturn]
      rcases hachieved with rfl | rfl
      · rfl
      · rfl

/-- An operation that waits for the addresses takes those of the first record. -/
theorem Orderly.heedsFirst_of_queries (h : s.Orderly) (hb : b ∈ s.bearers)
    (hr : r ∈ s.operationsOf b.id) (hcid : r.operation.cid = b.profile.cid)
    (hqueries : r.operation.Queries) (reply : String) : s.HeedsFirst b r reply where
  warned expected got := by
    rw [log_perform_answer (h.running?_eq (mem_operationsOf.mp hr).1),
      Operation.otherContext_mem_log_resume_iff hqueries, hcid]
    refine and_congr_right' (and_congr_right' ⟨?_, ?_⟩)
    · rintro ⟨addresses, hread, hgot⟩
      obtain ⟨record, hrecord, hread⟩ := Addresses.read_eq_ok_iff.mp hread
      exact ⟨record, addresses, hrecord, hread, hgot⟩
    · rintro ⟨record, addresses, hrecord, hread, hgot⟩
      exact ⟨addresses, Addresses.read_eq_ok_iff.mpr ⟨record, hrecord, hread⟩, hgot⟩
  kept later a achievement hsucceeds := by
    have hmem := (mem_operationsOf.mp hr).1
    have hthrough := h.running?_through (h.tickets_lt r hmem)
      (.answer r.ticket (.ok reply) :: later)
    rw [h.running?_eq hmem, Option.bind_some, through_cons] at hthrough
    obtain ⟨r', hr'⟩ := exists_running?_of_returned? hsucceeds
    have hmoves := hthrough.symm.trans hr'
    obtain ⟨hbearer, hr''⟩ := h.bearer?_through (h.bearer?_eq hb) hr hmoves
    have hticket := (Running.continues_of_through? hmoves).ticket_eq
    have ho := h.through (.answer r.ticket (.ok reply) :: later)
    rw [through_cons] at hbearer hr'' ho
    generalize (s.next (.answer r.ticket (.ok reply))).through later = t at *
    rw [← hticket] at hsucceeds ⊢
    obtain ⟨c, addresses, servers, haddresses, hhas, hachieved, hnext⟩ :=
      ho.keeps_told (b := b.after (.answer r.ticket (.ok reply) :: later)) hbearer hr''
        (Running.told_of_answer hqueries hmoves) hsucceeds
    obtain ⟨record, hrecord, hread⟩ := Addresses.read_eq_ok_iff.mp haddresses
    refine ⟨record, addresses, c, hrecord, hread, ?_, ?_, hachieved, ?_⟩
    · rw [hhas.ipv4, Option.map_map]
      exact Option.map_id'
    · rw [hhas.ipv6, Option.map_map]
      exact Option.map_id'
    · refine hnext.trans ?_
      have hstays : (b.after (.answer r.ticket (.ok reply) :: later)).held = true ↔
          b.held = true ∧ .release b.id ∉ later := by simp [Bearer.after]
      by_cases hheld : b.held = true ∧ .release b.id ∉ later
      · rw [if_pos (hstays.mpr hheld), if_pos hheld]
        congr 2
        exact (hstays.mpr hheld).trans hheld.1.symm
      · rw [if_neg (hstays.not.mpr hheld), if_neg hheld]

/-- In every run, and whatever the modem answers, a bearer that asks for its addresses takes those
of the first record, and is told by a warning where that record is on another context. -/
theorem Run.heedsFirst (modem : Modem) (moves : List Move) {b : Bearer}
    (hb : b ∈ (after modem moves).station.bearers) {r : Running}
    (hr : r ∈ (after modem moves).station.operationsOf b.id)
    (hrequest : r.request.command = .addressQuery b.profile.cid) (reply : String) :
    (after modem moves).station.HeedsFirst b r reply := by
  have ho := orderly modem moves
  obtain ⟨hcid, hasks⟩ := fits modem moves b hb r hr
  have hbound : r.operation.purpose ≠ .free := by
    cases (ho.phase_of_mem hb hr).2.2 with
    | occupied _ _ _ _ bound => exact bound
  exact ho.heedsFirst_of_queries hb hr hcid
    (Operation.queries_of_request hasks hrequest hbound) reply

/-- Moves up to the address query of a bearer. -/
def addressesAsked : List Move :=
  [.create { cid := 1 }, .connect 0, .answer 0 (.ok "+CGACT: 1,1"), .answer 0 (.ok ""),
    .answer 0 (.ok "")]

/-- A reply that tells the addresses of another context first. -/
def otherContextFirst : String :=
  "+CGPADDR: 2,\"10.0.0.2\"\r\n+CGPADDR: 1,\"10.0.0.1\""

/-- A bearer is warned that the addresses which it takes are of another context. -/
theorem Run.heedsFirst_otherContextFirst :
    let s := (after indexedModem addressesAsked).station
    ∃ b ∈ s.bearers, ∃ r ∈ s.operationsOf b.id, r.request.command = .addressQuery b.profile.cid ∧
      s.HeedsFirst b r otherContextFirst ∧
      .otherContext 1 2 ∈ (s.perform (.answer r.ticket (.ok otherContextFirst))).log := by
  intro s
  have hexists : ∃ b ∈ s.bearers, b.profile.cid = 1 ∧
      ∃ r ∈ s.operationsOf b.id, r.request.command = .addressQuery b.profile.cid := by
    decide +kernel
  have hrecord : ∃ record ∈ Addresses.record? otherContextFirst,
      Addresses.ofRecord record = .ok ⟨2, some "10.0.0.2", none⟩ := by decide +kernel
  obtain ⟨b, hb, hcid, r, hr, hrequest⟩ := hexists
  obtain ⟨record, hrecord, hread⟩ := hrecord
  have hheeds := Run.heedsFirst indexedModem addressesAsked hb hr hrequest otherContextFirst
  refine ⟨b, hb, r, hr, hrequest, hheeds, (hheeds.warned 1 2).mpr ⟨hcid.symm, ?_, ?_⟩⟩
  · rw [hcid]
    decide
  · exact ⟨record, _, hrecord, hread, rfl⟩

/-- A bearer keeps the address of another context, though the reply has its own one. -/
theorem Run.keeps_other_context :
    let run := after indexedModem (addressesAsked ++
      [.answer 0 (.ok otherContextFirst), .answer 0 (.ok "")])
    Reply.records Addresses.tag otherContextFirst.toList =
      ["2,\"10.0.0.2\"".toList, "1,\"10.0.0.1\"".toList] ∧
    Addresses.ofRecord "2,\"10.0.0.2\"".toList = .ok ⟨2, some "10.0.0.2", none⟩ ∧
    Addresses.ofRecord "1,\"10.0.0.1\"".toList = .ok ⟨1, some "10.0.0.1", none⟩ ∧
    ∃ b ∈ run.station.bearers, b.profile.cid = 1 ∧ b.status = .connected ∧
      b.connection.bind (·.ipv4) = some { address := "10.0.0.2" } := by
  decide +kernel

end Station

end ModemLink
