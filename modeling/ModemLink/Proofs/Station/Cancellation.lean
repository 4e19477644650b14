import ModemLink.Proofs.Station.Restoration
import ModemLink.Proofs.Station.Unheeded

/-!
# Asking a bearer to stop

A bearer can be asked to stop at any time. What comes of it depends on the call that waits there.

* A call that connects the bearer or reads its configuration again winds up. With the next answer
  it fails, whatever the answer is; a call that had dialed its context has the context deactivated
  first, and then fails. It asks for nothing else, and it does not succeed any more. The bearer is
  afterwards what it was before the call.
* A call that ends the session goes on. It waits for the answer to its command and succeeds.
* Where no call waits, nothing happens.

In the last two cases nobody can see that the bearer was asked: not in the call, and not in
anything that is done at the station later on.

Source: the specification, sections 4.1, 5 and 10.5.

## Main definitions

* `Running.Fits`, `Station.Fits`: operations wait for what follows from where they are.
* `Station.progresses`: what comes of an operation while moves are made.
* `Running.WindsUp`: what may come of an operation that was asked to stop.
* `Station.Stops`: what a bearer does that is asked to stop.

## Main results

* `Station.Orderly.windsUp`: an operation that was asked to stop winds up.
* `Station.Run.stops`: bearers that are asked to stop, in every run.
-/

namespace ModemLink

open Operation (Purpose)
open Station (Move)

/-! ### What operations wait for -/

namespace Running

variable {r r' : Running} {cid : UInt32} {m : Move}

/-- The operation is on a context, and waits for what follows from where it is. -/
structure Fits (r : Running) (cid : UInt32) : Prop where
  cid_eq : r.operation.cid = cid
  request_eq : r.operation.request? = some r.request

theorem Fits.after? (h : r.Fits cid) (hr : r.after? m = some r') : r'.Fits cid := by
  rcases after?_cases hr with ⟨-, asked, rfl⟩ | ⟨a, request, operation, -, hturn, rfl⟩
  · exact ⟨h.cid_eq, h.request_eq⟩
  · have hfits := Operation.fits_resume r.operation r.cancelled a
    rw [hturn] at hfits
    exact ⟨hfits.1.trans h.cid_eq, hfits.2⟩

end Running

namespace Station

variable {s : Station} {b : Bearer} {ticket : Nat} {r : Running}

/-- Every operation of a bearer is on the context of the bearer, and waits for what follows from
where it is. -/
def Fits (s : Station) : Prop :=
  ∀ b ∈ s.bearers, ∀ r ∈ s.operationsOf b.id, r.Fits b.profile.cid

/-- The first turn of a call is about the context of its bearer. -/
theorem Begins.fits_first {m : Move} {name : String} {p : Purpose} {first : Logged Turn}
    (h : s.Begins b m name p first) : first.value.Fits b.profile.cid := by
  cases h with
  | connect => exact Operation.fits_connect ..
  | refresh =>
    exact onPort_cases b (fun _ => trivial) fun port => Operation.fits_refresh port b.profile
  | disconnect =>
    exact onPort_cases b (fun _ => trivial) fun port =>
      Operation.fits_disconnect port b.profile.cid

/-- Operations come and go on the context of their bearer. -/
theorem Orderly.fits_next (h : s.Orderly) (hfits : s.Fits) (m : Move) : (s.next m).Fits := by
  intro b' hb' r hr
  obtain ⟨hmem, howner⟩ := mem_operationsOf.mp hr
  have hlisted := (h.next m).bearer?_eq hb'
  rcases h.exists_after? hmem with ⟨q, hq, hafter⟩ | hcomes
  · have howner' : q.owner.map (·.bearer) = some b'.id := by
      rw [← (Running.continues_of_after? hafter).owner_eq]
      exact howner
    obtain ⟨o, ho, hid⟩ := Option.map_eq_some_iff.mp howner'
    obtain ⟨b, hb, hbid⟩ := h.owned q hq o ho
    have hid : b.id = b'.id := hbid.trans hid
    have hq' : q ∈ s.operationsOf b.id := mem_operationsOf.mpr ⟨hq, hid ▸ howner'⟩
    have hstays := h.bearer?_next (h.bearer?_eq hb) hq' fun hends => by
      cases hafter.symm.trans (Running.after?_eq_none_iff.mpr hends)
    rw [hid] at hstays
    obtain rfl := Option.some.inj (hlisted.symm.trans hstays)
    exact (hfits b hb q hq').after? hafter
  · cases hcomes with
    | @called b hb name p first hbegins hbusy hstatus request op hturn =>
      have hid : b.id = b'.id := Option.some.inj howner
      have hadmitted : b.refusal? name p.required = none :=
        Bearer.refusal?_eq_none_iff.mpr ⟨hbusy, hstatus⟩
      have hoccupied := (hbegins.underway (h.bearer?_eq hb) hadmitted hturn).1
      rw [hid] at hoccupied
      obtain rfl := Option.some.inj (hlisted.symm.trans hoccupied)
      have hfirst := hbegins.fits_first
      rw [hturn] at hfirst
      exact ⟨hfirst.1, hfirst.2⟩
    | free => cases howner

theorem Run.fits (modem : Modem) (moves : List Move) : (after modem moves).station.Fits := by
  refine (after_induction (P := fun run => run.station.Orderly ∧ run.station.Fits) modem moves
    ⟨orderly_start modem, by simp [Fits]⟩ ?_).2
  exact fun run m _ ⟨ho, h⟩ => ⟨ho.next m, ho.fits_next h m⟩

/-! ### Operations wind up -/

/-- How far a move brings the operation with a ticket, if it is under way and the move is its
answer. -/
def progress? (s : Station) (ticket : Nat) : Move → Option Progress
  | .answer other a =>
    if other = ticket then (s.running? ticket).map fun _ => (s.answer ticket a).value.2 else none
  | _ => none

/-- What comes of the operation with a ticket while moves are made: the requests it comes to wait
for, and its end. -/
def progresses (s : Station) (ticket : Nat) : List Move → List Progress
  | [] => []
  | m :: later => (s.progress? ticket m).toList ++ (s.next m).progresses ticket later

theorem progress?_answer (hr : s.running? ticket = some r) (a : Answer) :
    s.progress? ticket (.answer ticket a) =
      some ((r.operation.resume r.cancelled a).value.progress ticket) := by
  rw [progress?, if_pos rfl, hr, Option.map_some]
  rcases answer_cases s ticket a with
    ⟨hnone, -⟩ | ⟨r', hr', ⟨request, op, hturn, heq⟩ | ⟨ending, hturn, heq⟩⟩
  · cases hnone.symm.trans hr
  all_goals
    obtain rfl := Option.some.inj (hr.symm.trans hr')
    rw [heq, hturn]
    rfl

theorem progress?_eq_none {m : Move} (hm : ∀ a, m ≠ .answer ticket a) :
    s.progress? ticket m = none := by
  cases m with
  | answer other a =>
    rw [progress?, if_neg]
    rintro rfl
    exact hm a rfl
  | _ => rfl

/-- Nothing comes of an operation that is over. -/
theorem Orderly.progresses_eq_nil (h : s.Orderly) (hlt : ticket < s.nextTicket)
    (hnone : s.running? ticket = none) (later : List Move) : s.progresses ticket later = [] := by
  induction later generalizing s with
  | nil => rfl
  | cons m later ih =>
    have hnow : s.progress? ticket m = none := by
      cases m with
      | answer other a => rw [progress?, hnone, Option.map_none, ite_self]
      | _ => rfl
    have hnext : (s.next m).running? ticket = none := by
      have hthrough := h.running?_through hlt [m]
      rwa [hnone] at hthrough
    rw [progresses, hnow, ih (h.next m) (Nat.lt_of_lt_of_le hlt (s.step m).le_nextTicket) hnext]
    rfl

/-- The move that ends an operation is the last from which anything comes of it. -/
theorem Orderly.progresses_cons_of_endsBy (h : s.Orderly) (hr : s.running? r.ticket = some r)
    {m : Move} (hends : r.EndsBy m) (later : List Move) :
    s.progresses r.ticket (m :: later) = (s.progress? r.ticket m).toList := by
  have hnext : (s.next m).running? r.ticket = none :=
    (h.running?_next hr m).trans (Running.after?_eq_none_iff.mpr hends)
  have hlt : r.ticket < (s.next m).nextTicket :=
    Nat.lt_of_lt_of_le (h.tickets_lt r (mem_of_running? hr).1) (s.step m).le_nextTicket
  rw [progresses, (h.next m).progresses_eq_nil hlt hnext, List.append_nil]

end Station

/-- What may come of an operation that was asked to stop. It fails, and that is all; but if the
configuration of its context was being read, the context is deactivated first. -/
inductive Running.WindsUp (r : Running) (cid : UInt32) : List Progress → Prop
  | waits : WindsUp r cid []
  | fails (fault : Fault) : WindsUp r cid [.ended (.error fault)]
  | undoes {i : Inspect} (configuring : r.operation = .configuring i) :
      WindsUp r cid [.waits r.ticket ⟨.setActivation false cid, false⟩]
  | undone {i : Inspect} (configuring : r.operation = .configuring i) (fault : Fault) :
      WindsUp r cid
        [.waits r.ticket ⟨.setActivation false cid, false⟩, .ended (.error fault)]

namespace Running.WindsUp

variable {r r' : Running} {cid : UInt32} {progresses : List Progress}

/-- How an operation winds up depends on its ticket and on where it is. -/
theorem congr (h : r'.WindsUp cid progresses) (hticket : r'.ticket = r.ticket)
    (hop : r'.operation = r.operation) : r.WindsUp cid progresses := by
  cases h with
  | waits => exact .waits
  | fails fault => exact .fails fault
  | undoes configuring => exact hticket ▸ .undoes (hop ▸ configuring)
  | undone configuring fault => exact hticket ▸ .undone (hop ▸ configuring) fault

/-- An operation whose context is being deactivated only fails any more. -/
theorem of_unwinding {cause : Fault} {t : Teardown} (h : r.WindsUp cid progresses)
    (hop : r.operation = .unwinding cause t) :
    progresses = [] ∨ ∃ fault, progresses = [.ended (.error fault)] := by
  cases h with
  | waits => exact .inl rfl
  | fails fault => exact .inr ⟨fault, rfl⟩
  | undoes configuring | undone configuring => cases hop.symm.trans configuring

end Running.WindsUp

namespace Station

variable {s : Station} {b : Bearer} {ticket : Nat} {r : Running}

/-- An operation that was asked to stop winds up, whatever moves are made. -/
theorem Orderly.windsUp (h : s.Orderly) (hr : s.running? ticket = some r)
    (hcancelled : r.cancelled = true) {cid : UInt32} (hcid : r.operation.cid = cid)
    (hp : r.operation.purpose = .connect ∨ r.operation.purpose = .refresh) (later : List Move) :
    r.WindsUp cid (s.progresses ticket later) := by
  induction later generalizing s r with
  | nil => exact .waits
  | cons m later ih =>
    obtain ⟨-, rfl⟩ := mem_of_running? hr
    cases hafter : r.after? m with
    | none =>
      have hends := Running.after?_eq_none_iff.mp hafter
      rw [h.progresses_cons_of_endsBy hr hends]
      cases hends with
      | dropped => exact .waits
      | @answered a ending hturn =>
        rw [progress?_answer hr, hturn]
        rw [hcancelled] at hturn
        obtain ⟨fault, rfl⟩ := Operation.of_resume_cancelled_eq_done hp hturn
        exact .fails fault
    | some r' =>
      have hnext := (h.running?_next hr m).trans hafter
      rw [progresses]
      rcases Running.after?_cases hafter with
        ⟨hm, asked, rfl⟩ | ⟨a, request, operation, rfl, hturn, rfl⟩
      · rw [progress?_eq_none hm.2]
        exact (ih (h.next m) hnext (by simp [hcancelled]) hcid hp).congr rfl rfl
      · rw [progress?_answer hr, hturn]
        have hserves := Operation.serves_resume r.operation r.cancelled a
        have hfits := Operation.fits_resume r.operation r.cancelled a
        rw [hturn] at hserves hfits
        have hrest := ih (h.next _) hnext hcancelled (hfits.1.trans hcid)
          (hp.imp hserves.trans hserves.trans)
        rw [hcancelled] at hturn
        obtain ⟨i, fault, t, hop, rfl, rfl⟩ := Operation.of_resume_cancelled_eq_ask hp hturn
        have hcid : i.cid = cid := by rw [← hcid, hop]; rfl
        rw [hcid]
        rcases hrest.of_unwinding rfl with hrest | ⟨fault, hrest⟩
        · rw [hrest]
          exact .undoes hop
        · rw [hrest]
          exact .undone hop fault

/-! ### Bearers that are asked to stop -/

/-- What comes of a call that connects a bearer or reads its configuration again, when the bearer is
asked to stop. -/
structure Abandons (s : Station) (b : Bearer) (r : Running) : Prop where
  /-- Nothing comes of it any more but its end, and before that at most the deactivation. -/
  winds_up (later : List Move) :
    r.WindsUp b.profile.cid ((s.cancel b.id).progresses r.ticket later)
  /-- When the call is over, its bearer is what it was before the call. -/
  bearer (later : List Move) (last : Move)
    (underway : (((s.cancel b.id).through later).running? r.ticket).isSome)
    (done : (((s.cancel b.id).through later).next last).running? r.ticket = none) :
    (((s.cancel b.id).through later).next last).bearer? b.id =
      if b.held ∧ .release b.id ∉ later then
        some { b with busy := false, ticket := none, status := r.operation.purpose.required }
      else none
  /-- The connection that the bearer keeps is there if the call was not to bring one. -/
  connection : b.connection.isSome = (r.operation.purpose != .connect)

/-- What comes of a call that ends the session of a bearer, when the bearer is asked to stop. -/
structure Persists (s : Station) (b : Bearer) (r : Running) : Prop where
  /-- The call waits for the deactivation of the context, which nothing interrupts. -/
  request : r.request = ⟨.setActivation false b.profile.cid, false⟩
  /-- Until it gets the answer or is dropped, it waits on. -/
  waits (later : List Move) (spared : ∀ m ∈ later, m.Spares r.ticket) :
    ((s.cancel b.id).through later).running? r.ticket = some { r with cancelled := true }
  /-- It succeeds with the answer. -/
  succeeds (later : List Move) (spared : ∀ m ∈ later, m.Spares r.ticket) (a : Answer) :
    ((s.cancel b.id).through later).returned? (.answer r.ticket a) =
      some ⟨b.id, .ok .disconnected⟩

/-- What comes of it when a bearer is asked to stop. -/
structure Stops (s : Station) (b : Bearer) : Prop where
  /-- A bearer for which nothing is under way stays as it is, and so does everything else. -/
  rests (none : s.operationsOf b.id = []) : s.cancel b.id = s
  abandons (r : Running) (mem : r ∈ s.operationsOf b.id)
    (purpose : r.operation.purpose = .connect ∨ r.operation.purpose = .refresh) : s.Abandons b r
  persists (r : Running) (mem : r ∈ s.operationsOf b.id)
    (purpose : r.operation.purpose = .disconnect) : s.Persists b r
  /-- Unless there is a call to abandon, nobody can see that the bearer was asked. -/
  unseen (unheeding : ∀ r ∈ s.operationsOf b.id, r.operation.purpose = .disconnect)
    (later : List Move) : (s.cancel b.id).sights later = s.sights later

namespace Orderly

variable (h : s.Orderly) (hb : b ∈ s.bearers)
include h hb

theorem cancel_eq_self (hnone : s.operationsOf b.id = []) : s.cancel b.id = s := by
  have hphase := h.phase b hb
  rw [hnone] at hphase
  rw [cancel, h.bearer?_eq hb, Option.bind_some, hphase.ticket_eq]
  rfl

theorem cancel_eq_cancelTicket (hr : r ∈ s.operationsOf b.id) :
    s.cancel b.id = s.cancelTicket r.ticket := by
  obtain ⟨-, -, hphase⟩ := h.phase_of_mem hb hr
  rw [cancel, h.bearer?_eq hb, Option.bind_some, hphase.ticket_eq]
  rfl

/-- Where a bearer is asked to stop, the operation that is under way for it is asked, and the bearer
stays as it is. -/
theorem asked (hr : r ∈ s.operationsOf b.id) :
    (s.cancel b.id).bearer? b.id = some b ∧
      { r with cancelled := true } ∈ (s.cancel b.id).operationsOf b.id := by
  rw [h.cancel_eq_cancelTicket hb hr, operationsOf_cancelTicket]
  refine ⟨h.bearer?_eq hb, List.mem_map.mpr ⟨r, hr, ?_⟩⟩
  rw [if_pos rfl]

omit hb in
/-- An operation that was asked to stop puts its bearer back when it is over, or its bearer is
gone. -/
theorem bearer?_next_of_cancelled (hb : s.bearer? b.id = some b) (hr : r ∈ s.operationsOf b.id)
    (hcancelled : r.cancelled = true)
    (hp : r.operation.purpose = .connect ∨ r.operation.purpose = .refresh) {last : Move}
    (hends : r.EndsBy last) :
    (s.next last).bearer? b.id =
      if b.held then some (b.restore r.operation.purpose.required) else none := by
  cases hends with
  | dropped => exact h.bearer?_next_of_abort hb hr
  | @answered a ending hturn =>
    rw [h.bearer?_next_of_done hb hr hturn]
    rw [hcancelled] at hturn
    obtain ⟨fault, rfl⟩ := Operation.of_resume_cancelled_eq_done hp hturn
    rfl

theorem abandons (hfits : s.Fits) (hr : r ∈ s.operationsOf b.id)
    (hp : r.operation.purpose = .connect ∨ r.operation.purpose = .refresh) : s.Abandons b r := by
  have hasked : (s.cancel b.id).Orderly := h.next (.cancel b.id)
  obtain ⟨hb', hr'⟩ := h.asked hb hr
  have hrunning := hasked.running?_eq (mem_operationsOf.mp hr').1
  refine
    { winds_up := fun later => ?_
      bearer := fun later last hunderway hdone => ?_
      connection := ?_ }
  · exact (hasked.windsUp hrunning rfl (hfits b hb r hr).cid_eq hp later).congr rfl rfl
  · obtain ⟨q, hcontinues, hq, hends, hthrough⟩ := hasked.exists_endsBy hb' hr' hunderway hdone
    have hnext := (hasked.through later).bearer?_next_of_cancelled (b := b.after later) hthrough hq
      (hcontinues.cancelled rfl) (hcontinues.purpose_eq ▸ hp) hends
    rw [hcontinues.purpose_eq] at hnext
    refine hnext.trans ?_
    by_cases hheld : b.held = true ∧ .release b.id ∉ later
    · have hstays : (b.after later).held = true := by simp [Bearer.after, hheld]
      rw [if_pos hstays, if_pos hheld, Bearer.restore]
      congr 2
      exact hstays.trans hheld.1.symm
    · have hgone : ¬ (b.after later).held = true := by
        simpa [Bearer.after] using hheld
      rw [if_neg hgone, if_neg hheld]
  · cases (h.phase_of_mem hb hr).2.2 with
    | occupied _ _ _ _ _ _ connection => exact connection

theorem persists (hfits : s.Fits) (hr : r ∈ s.operationsOf b.id)
    (hp : r.operation.purpose = .disconnect) : s.Persists b r := by
  have hasked : (s.cancel b.id).Orderly := h.next (.cancel b.id)
  obtain ⟨hb', hr'⟩ := h.asked hb hr
  have hrunning := hasked.running?_eq (mem_operationsOf.mp hr').1
  have hlt := hasked.tickets_lt _ (mem_operationsOf.mp hr').1
  have hwaits {later : List Move} (hspared : ∀ m ∈ later, m.Spares r.ticket) :
      { r with cancelled := true }.through? later = some { r with cancelled := true } := by
    obtain ⟨asked, hmoves⟩ :=
      Running.through?_of_spares (r := { r with cancelled := true }) hspared
    simpa using hmoves
  refine
    { request := ?_
      waits := fun later hspared => ?_
      succeeds := fun later hspared a => ?_ }
  · obtain ⟨hcid, hrequest⟩ := hfits b hb r hr
    cases hop : r.operation with
    | disconnecting t =>
      rw [hop] at hcid hrequest
      rw [← hcid]
      exact (Option.some.inj hrequest).symm
    | _ => rw [hop] at hp; cases hp
  · rw [hasked.running?_through hlt, hrunning]
    exact hwaits hspared
  · obtain ⟨-, hr''⟩ := hasked.bearer?_through hb' hr' (hwaits hspared)
    exact (hasked.through later).returned?_answer_disconnect hr'' hp a

theorem unseen (hunheeding : ∀ r ∈ s.operationsOf b.id, r.operation.purpose = .disconnect)
    (later : List Move) : (s.cancel b.id).sights later = s.sights later := by
  cases hops : s.operationsOf b.id with
  | nil => rw [h.cancel_eq_self hb hops]
  | cons r rest =>
    have hr : r ∈ s.operationsOf b.id := hops ▸ List.mem_cons_self
    have hmem := (mem_operationsOf.mp hr).1
    rw [h.cancel_eq_cancelTicket hb hr]
    refine Heedless.sights_cancelTicket ⟨h.tickets_lt r hmem, fun q hq => ?_⟩ h later
    obtain rfl := Option.some.inj (hq.symm.trans (h.running?_eq hmem))
    exact hunheeding q hr

end Orderly

/-- In every run, a bearer that is asked to stop gives up the call that connects it or reads its
configuration again, and does nothing else about it. -/
theorem Run.stops (modem : Modem) (moves : List Move) :
    ∀ b ∈ (after modem moves).station.bearers, (after modem moves).station.Stops b := by
  intro b hb
  have ho := orderly modem moves
  have hfits := fits modem moves
  exact
    { rests := ho.cancel_eq_self hb
      abandons := fun r => ho.abandons hb hfits
      persists := fun r => ho.persists hb hfits
      unseen := ho.unseen hb }

/-- A bearer that is asked to stop while it reads its configuration again keeps its address, also
where the answer tells another one. -/
theorem Run.stops_refreshing :
    let s := (after indexedModem (sessionBegun ++ [.refresh 0])).station
    let stopped := (s.cancel 0).next (.answer 1 (.ok "+CGPADDR: 1,\"10.0.0.2\""))
    ∃ b ∈ s.bearers, b.connection.bind (·.ipv4) = some { address := "10.0.0.1" } ∧ s.Stops b ∧
      stopped.bearer? 0 = some { b with busy := false, ticket := none, status := .connected } := by
  intro s stopped
  have hb : ∃ b ∈ s.bearers, b.id = 0 ∧ b.held = true ∧
      b.connection.bind (·.ipv4) = some { address := "10.0.0.1" } := by decide +kernel
  have hr : ∃ r ∈ s.operationsOf 0, r.ticket = 1 ∧ r.operation.purpose = .refresh := by
    decide +kernel
  obtain ⟨b, hb, hid, hheld, haddress⟩ := hb
  obtain ⟨r, hr, hticket, hp⟩ := hr
  have hstops : s.Stops b := Run.stops indexedModem (sessionBegun ++ [.refresh 0]) b hb
  refine ⟨b, hb, haddress, hstops, ?_⟩
  have hr' : r ∈ s.operationsOf b.id := by rwa [hid]
  have hunderway : ((s.cancel 0).running? 1).isSome := by decide +kernel
  have hdone : stopped.running? 1 = none := by decide +kernel
  have hbearer := (hstops.abandons r hr' (.inr hp)).bearer []
    (.answer 1 (.ok "+CGPADDR: 1,\"10.0.0.2\""))
  rw [hp, if_pos ⟨hheld, List.not_mem_nil⟩, hid, hticket] at hbearer
  exact (hbearer hunderway hdone).trans (by rw [← hid]; rfl)

end Station

end ModemLink
