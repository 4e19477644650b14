import Mathlib.Data.List.Nodup
import ModemLink.Proofs.Operation.Purpose
import ModemLink.Proofs.Station.Moves

/-!
# Order at a station

A bearer is idle, or it is occupied by one operation. An occupied bearer knows the ticket of its
operation, shows the status of passage of the operation's purpose, and has a connection unless
the operation is there to bring one; the operation in turn knows the status the bearer had. At
a station in order every bearer is in one of these two phases with respect to the operations
under way, ids and tickets tell bearers and operations apart, and operations without a bearer
are free ones.

The phases are stated once, as `Bearer.Phase`, and everything that happens at a station is reduced
to a few changes that keep the order: operations are marked or brought on, a bearer is occupied, a
bearer becomes idle, a free operation begins or ends, a bearer goes.

## Main definitions

* `Bearer.Phase`: how a bearer and its operations under way fit together.
* `Station.Orderly`: the order at a station.

## Main results

* `Station.Orderly.phase_of_owner`: the bearer of an operation is occupied by it, and by no other.
* `Station.Orderly.occupy`, `Station.Orderly.vacate`: a bearer is occupied, and becomes idle.
-/

namespace ModemLink

open Operation (Purpose)

/-- How a bearer fits with the operations of it that are under way. -/
inductive Bearer.Phase (b : Bearer) : List Running → Prop
  /-- Nothing is under way, and the bearer is disconnected. -/
  | disconnected (busy : b.busy = false) (ticket : b.ticket = none)
      (status : b.status = .disconnected) (connection : b.connection = none) : Phase b []
  /-- Nothing is under way, and the bearer is connected. -/
  | connected (busy : b.busy = false) (ticket : b.ticket = none)
      (status : b.status = .connected) (connection : b.connection.isSome) : Phase b []
  /-- One operation is under way, and the bearer waits for its end. -/
  | occupied (r : Running) (busy : b.busy = true) (ticket : b.ticket = some r.ticket)
      (owner : r.owner = some ⟨b.id, r.operation.purpose.required⟩)
      (bound : r.operation.purpose ≠ .free) (status : b.status = r.operation.purpose.passage)
      (connection : b.connection.isSome = (r.operation.purpose != .connect)) : Phase b [r]

namespace Bearer.Phase

variable {b : Bearer} {pending : List Running}

theorem pending_eq_nil (h : b.Phase pending) (hb : b.busy = false) : pending = [] := by
  cases h with
  | disconnected | connected => rfl
  | occupied r busy => simp [busy] at hb

/-- A bearer with nothing under way is in a status that lasts. -/
theorem status_of_not_busy (h : b.Phase pending) (hb : b.busy = false) :
    b.status = .disconnected ∨ b.status = .connected := by
  cases h with
  | disconnected _ _ status => exact .inl status
  | connected _ _ status => exact .inr status
  | occupied r busy => simp [busy] at hb

/-- An idle bearer in the status required for a purpose has a connection unless the purpose is
to bring one. -/
theorem connection_isSome (h : b.Phase pending) (hb : b.busy = false) {p : Purpose}
    (hp : p ≠ .free) (hs : b.status = p.required) :
    b.connection.isSome = (p != .connect) := by
  cases h with
  | disconnected _ _ status connection =>
    rw [status] at hs
    cases p with
    | connect => rw [connection]; rfl
    | refresh | disconnect => cases hs
    | free => exact absurd rfl hp
  | connected _ _ status connection =>
    rw [status] at hs
    cases p with
    | connect | free => cases hs
    | refresh | disconnect => exact connection
  | occupied r busy => simp [busy] at hb

/-- The phase depends on what it speaks of only. -/
theorem of_eq {b' : Bearer} (h : b.Phase pending) (hid : b'.id = b.id)
    (hbusy : b'.busy = b.busy) (hticket : b'.ticket = b.ticket) (hstatus : b'.status = b.status)
    (hconnection : b'.connection = b.connection) : b'.Phase pending := by
  cases h with
  | disconnected busy ticket status connection =>
    exact .disconnected (hbusy ▸ busy) (hticket ▸ ticket) (hstatus ▸ status)
      (hconnection ▸ connection)
  | connected busy ticket status connection =>
    exact .connected (hbusy ▸ busy) (hticket ▸ ticket) (hstatus ▸ status)
      (hconnection ▸ connection)
  | occupied r busy ticket owner bound status connection =>
    exact .occupied r (hbusy ▸ busy) (hticket ▸ ticket) (hid ▸ owner) bound (hstatus ▸ status)
      (hconnection ▸ connection)

/-- Marking the operations, or bringing them on, keeps the phase. -/
theorem map (h : b.Phase pending) {f : Running → Running} (hticket : ∀ r, (f r).ticket = r.ticket)
    (howner : ∀ r, (f r).owner = r.owner)
    (hpurpose : ∀ r ∈ pending, (f r).operation.purpose = r.operation.purpose) :
    b.Phase (pending.map f) := by
  cases h with
  | disconnected busy ticket status connection => exact .disconnected busy ticket status connection
  | connected busy ticket status connection => exact .connected busy ticket status connection
  | occupied r busy ticket owner bound status connection =>
    have hp := hpurpose r (List.mem_singleton_self r)
    exact .occupied (f r) busy (by rw [ticket, hticket]) (by rw [howner, owner, hp])
      (by rw [hp]; exact bound) (by rw [hp]; exact status) (by rw [hp]; exact connection)

/-- A bearer whose operation is dropped, or failed, is as it was before. -/
theorem restore {r : Running} (h : b.Phase [r]) :
    (b.restore r.operation.purpose.required).Phase [] := by
  cases h with
  | occupied r busy ticket owner bound status connection =>
    cases hp : r.operation.purpose with
    | connect =>
      refine .disconnected rfl rfl rfl ?_
      simpa [hp, Bearer.restore] using connection
    | refresh | disconnect =>
      refine .connected rfl rfl rfl ?_
      simp [hp, Bearer.restore, connection]
    | free => exact absurd hp bound

/-- A bearer whose operation ended as its purpose admits is idle. -/
theorem settle {r : Running} (h : b.Phase [r]) {ending : Ending}
    (he : r.operation.purpose.Admits ending) :
    (b.settle r.operation.purpose.required ending).Phase [] := by
  match ending with
  | .error fault => exact h.restore
  | .ok (.connected c) | .ok (.refreshed c) => exact .connected rfl rfl rfl rfl
  | .ok .disconnected => exact .disconnected rfl rfl rfl rfl
  | .ok (.dialed _) | .ok (.inspected _) | .ok .tornDown =>
    cases h with
    | occupied r busy ticket owner bound =>
      cases hp : r.operation.purpose <;> simp_all [Operation.Purpose.Admits]

end Bearer.Phase

namespace Station

variable {s : Station}

/-! ### Looking bearers and operations up -/

/-- The operations of a bearer that are under way. -/
def operationsOf (s : Station) (id : Nat) : List Running :=
  s.running.filter fun r => (r.owner.map (·.bearer)) == some id

theorem mem_operationsOf {id : Nat} {r : Running} :
    r ∈ s.operationsOf id ↔ r ∈ s.running ∧ r.owner.map (·.bearer) = some id := by
  simp [operationsOf]

theorem mem_of_bearer? {id : Nat} {b : Bearer} (h : s.bearer? id = some b) :
    b ∈ s.bearers ∧ b.id = id :=
  ⟨List.mem_of_find?_eq_some h, by simpa using List.find?_some h⟩

theorem mem_of_running? {ticket : Nat} {r : Running} (h : s.running? ticket = some r) :
    r ∈ s.running ∧ r.ticket = ticket :=
  ⟨List.mem_of_find?_eq_some h, by simpa using List.find?_some h⟩

theorem mem_bearers_update {id : Nat} {f : Bearer → Bearer} {b' : Bearer} :
    b' ∈ (s.update id f).bearers ↔ ∃ b ∈ s.bearers, (if b.id = id then f b else b) = b' :=
  List.mem_map

@[simp] theorem running_update (id : Nat) (f : Bearer → Bearer) :
    (s.update id f).running = s.running := rfl

@[simp] theorem nextTicket_update (id : Nat) (f : Bearer → Bearer) :
    (s.update id f).nextTicket = s.nextTicket := rfl

@[simp] theorem running_reap (id : Nat) : (s.reap id).running = s.running := by
  simp only [reap]
  split
  · rfl
  · split <;> rfl

@[simp] theorem nextBearer_reap (id : Nat) : (s.reap id).nextBearer = s.nextBearer := by
  simp only [reap]
  split
  · rfl
  · split <;> rfl

@[simp] theorem nextTicket_reap (id : Nat) : (s.reap id).nextTicket = s.nextTicket := by
  simp only [reap]
  split
  · rfl
  · split <;> rfl

theorem bearers_reap_sublist (id : Nat) : (s.reap id).bearers.Sublist s.bearers := by
  simp only [reap]
  split
  · exact List.Sublist.refl _
  · split
    · exact List.Sublist.refl _
    · exact List.filter_sublist

theorem isOperating_eq_false {id : Nat} (h : s.isOperating id = false) :
    s.operationsOf id = [] := by
  rw [isOperating, List.any_eq_false] at h
  rw [operationsOf, List.filter_eq_nil_iff]
  exact h

theorem isOperating_eq_true {id : Nat} (h : s.isOperating id = true) :
    s.operationsOf id ≠ [] := by
  obtain ⟨r, hr, howner⟩ := List.any_eq_true.mp h
  exact List.ne_nil_of_mem (List.mem_filter.mpr ⟨hr, howner⟩)

@[simp] theorem operationsOf_reap (id i : Nat) :
    (s.reap id).operationsOf i = s.operationsOf i := by
  rw [operationsOf, running_reap, operationsOf]

theorem operationsOf_map {f : Running → Running} (howner : ∀ r, (f r).owner = r.owner) (id : Nat) :
    operationsOf { s with running := s.running.map f } id = (s.operationsOf id).map f := by
  simp only [operationsOf, List.filter_map]
  congr 2
  funext r
  simp [howner r]

/-! ### The order -/

/-- The order at a station: ids and tickets tell bearers and operations apart, every operation
of a bearer finds its bearer, and every bearer is in a phase with its operations. -/
structure Orderly (s : Station) : Prop where
  bearerIds : (s.bearers.map (·.id)).Nodup
  bearerIds_lt : ∀ b ∈ s.bearers, b.id < s.nextBearer
  tickets : (s.running.map (·.ticket)).Nodup
  tickets_lt : ∀ r ∈ s.running, r.ticket < s.nextTicket
  owned : ∀ r ∈ s.running, ∀ o, r.owner = some o → ∃ b ∈ s.bearers, b.id = o.bearer
  phase : ∀ b ∈ s.bearers, b.Phase (s.operationsOf b.id)

namespace Orderly

variable (h : s.Orderly)
include h

theorem eq_of_id_eq {b b' : Bearer} (hb : b ∈ s.bearers) (hb' : b' ∈ s.bearers)
    (hid : b.id = b'.id) : b = b' :=
  List.inj_on_of_nodup_map h.bearerIds hb hb' hid

theorem eq_of_ticket_eq {r r' : Running} (hr : r ∈ s.running) (hr' : r' ∈ s.running)
    (ht : r.ticket = r'.ticket) : r = r' :=
  List.inj_on_of_nodup_map h.tickets hr hr' ht

/-- A bearer is the one found under its id. -/
theorem bearer?_eq {b : Bearer} (hb : b ∈ s.bearers) : s.bearer? b.id = some b := by
  cases hf : s.bearer? b.id with
  | none =>
    rw [bearer?, List.find?_eq_none] at hf
    exact absurd (beq_self_eq_true b.id) (hf b hb)
  | some b' =>
    obtain ⟨hb', hid⟩ := mem_of_bearer? hf
    rw [h.eq_of_id_eq hb' hb hid]

/-- An operation is the one found under its ticket. -/
theorem running?_eq {r : Running} (hr : r ∈ s.running) : s.running? r.ticket = some r := by
  cases hf : s.running? r.ticket with
  | none =>
    rw [running?, List.find?_eq_none] at hf
    exact absurd (beq_self_eq_true r.ticket) (hf r hr)
  | some r' =>
    obtain ⟨hr', ht⟩ := mem_of_running? hf
    rw [h.eq_of_ticket_eq hr' hr ht]

/-- A bearer that is idle has nothing under way. -/
theorem phase_of_idle {b : Bearer} (hb : b ∈ s.bearers) (hidle : b.busy = false) : b.Phase [] := by
  have hphase := h.phase b hb
  rwa [hphase.pending_eq_nil hidle] at hphase

/-- A bearer with an operation is occupied by it, and by no other. -/
theorem phase_of_mem {b : Bearer} (hb : b ∈ s.bearers) {r : Running}
    (hr : r ∈ s.operationsOf b.id) :
    r.owner = some ⟨b.id, r.operation.purpose.required⟩ ∧ s.operationsOf b.id = [r] ∧
      b.Phase [r] := by
  have hphase := h.phase b hb
  generalize s.operationsOf b.id = pending at hphase hr
  cases hphase with
  | disconnected | connected => simp at hr
  | occupied r' busy ticket owner bound status connection =>
    obtain rfl := List.mem_singleton.mp hr
    exact ⟨owner, rfl, .occupied r busy ticket owner bound status connection⟩

/-- The bearer of an operation is occupied by it, and by no other. -/
theorem phase_of_owner {r : Running} {o : Owner} (hr : r ∈ s.running) (ho : r.owner = some o) :
    ∃ b ∈ s.bearers, o = ⟨b.id, r.operation.purpose.required⟩ ∧ s.operationsOf b.id = [r] ∧
      b.Phase [r] := by
  obtain ⟨b, hb, hid⟩ := h.owned r hr o ho
  obtain ⟨howner, hpending⟩ := h.phase_of_mem hb (mem_operationsOf.mpr ⟨hr, by simp [ho, hid]⟩)
  exact ⟨b, hb, Option.some.inj (ho.symm.trans howner), hpending⟩

/-! ### Changes that keep the order -/

/-- Operations are marked, or brought on. -/
theorem map_running {f : Running → Running} (hticket : ∀ r, (f r).ticket = r.ticket)
    (howner : ∀ r, (f r).owner = r.owner)
    (hpurpose : ∀ r ∈ s.running, (f r).operation.purpose = r.operation.purpose) :
    Orderly { s with running := s.running.map f } where
  bearerIds := h.bearerIds
  bearerIds_lt := h.bearerIds_lt
  tickets := by
    have hcomp : (s.running.map f).map (·.ticket) = s.running.map (·.ticket) := by
      rw [List.map_map]
      exact List.map_congr_left fun r _ => hticket r
    rw [hcomp]
    exact h.tickets
  tickets_lt := by
    intro r hr
    obtain ⟨r', hr', rfl⟩ := List.mem_map.mp hr
    rw [hticket]
    exact h.tickets_lt r' hr'
  owned := by
    intro r hr o ho
    obtain ⟨r', hr', rfl⟩ := List.mem_map.mp hr
    exact h.owned r' hr' o (howner r' ▸ ho)
  phase := by
    intro b hb
    rw [operationsOf_map howner]
    exact (h.phase b hb).map hticket howner fun r hr =>
      hpurpose r (mem_operationsOf.mp hr).1

/-- A bearer that nobody holds and that nothing is under way of goes. -/
theorem reap (id : Nat) : (s.reap id).Orderly where
  bearerIds := h.bearerIds.sublist ((bearers_reap_sublist id).map _)
  bearerIds_lt := fun b hb => by
    rw [nextBearer_reap]
    exact h.bearerIds_lt b ((bearers_reap_sublist id).subset hb)
  tickets := by rw [running_reap]; exact h.tickets
  tickets_lt := by rw [running_reap, nextTicket_reap]; exact h.tickets_lt
  owned := by
    rw [running_reap]
    intro r hr o ho
    obtain ⟨b, hb, hid⟩ := h.owned r hr o ho
    refine ⟨b, ?_, hid⟩
    simp only [Station.reap]
    split
    · exact hb
    · next b' hb' =>
      split
      · exact hb
      · next hkeep =>
        refine List.mem_filter.mpr ⟨hb, ?_⟩
        rw [bne_iff_ne]
        rintro rfl
        rw [Bool.or_eq_true, not_or, Bool.not_eq_true, Bool.not_eq_true] at hkeep
        have hnone := isOperating_eq_false hkeep.2
        have hmem : r ∈ s.operationsOf b.id := mem_operationsOf.mpr ⟨hr, by simp [ho, hid]⟩
        simp [hnone] at hmem
  phase := by
    intro b hb
    rw [operationsOf_reap]
    exact h.phase b ((bearers_reap_sublist id).subset hb)

/-- A bearer changes, and its operations with it. -/
theorem update_running {id : Nat} {f : Bearer → Bearer} {running : List Running} {n : Nat}
    (hid : ∀ b ∈ s.bearers, b.id = id → (f b).id = b.id)
    (htickets : (running.map (·.ticket)).Nodup) (htickets_lt : ∀ r ∈ running, r.ticket < n)
    (howned : ∀ r ∈ running, ∀ o, r.owner = some o → ∃ b ∈ s.bearers, b.id = o.bearer)
    (hother : ∀ i, i ≠ id →
      operationsOf { s with running } i = s.operationsOf i)
    (hphase : ∀ b ∈ s.bearers, b.id = id → (f b).Phase (operationsOf { s with running } id)) :
    Orderly { s.update id f with running, nextTicket := n } where
  bearerIds := by
    have hcomp : (s.update id f).bearers.map (·.id) = s.bearers.map (·.id) := by
      simp only [Station.update, List.map_map]
      refine List.map_congr_left fun b hb => ?_
      simp only [Function.comp_apply]
      split
      · next hb' => exact hid b hb hb'
      · rfl
    rw [hcomp]
    exact h.bearerIds
  bearerIds_lt := by
    intro b' hb'
    obtain ⟨b, hb, rfl⟩ := mem_bearers_update.mp hb'
    split
    · next hb' => rw [hid b hb hb']; exact h.bearerIds_lt b hb
    · exact h.bearerIds_lt b hb
  tickets := htickets
  tickets_lt := htickets_lt
  owned := by
    intro r hr o ho
    obtain ⟨b, hb, hbo⟩ := howned r hr o ho
    refine ⟨_, mem_bearers_update.mpr ⟨b, hb, rfl⟩, ?_⟩
    split
    · next hb' => rw [hid b hb hb', hbo]
    · exact hbo
  phase := by
    intro b' hb'
    obtain ⟨b, hb, rfl⟩ := mem_bearers_update.mp hb'
    split
    · next hb' =>
      rw [hid b hb hb', hb']
      exact hphase b hb hb'
    · next hb' =>
      have := hother b.id hb'
      simp only [operationsOf] at this ⊢
      rw [this]
      exact h.phase b hb

/-- An operation of a bearer is over, and the bearer idle. -/
theorem vacate {r : Running} {o : Owner} (hr : r ∈ s.running) (ho : r.owner = some o)
    {f : Bearer → Bearer} (hid : ∀ b, (f b).id = b.id)
    (hf : ∀ b, b.Phase [r] → o.previous = r.operation.purpose.required → (f b).Phase []) :
    Orderly ({ s with running := s.running.filter (·.ticket != r.ticket) }.update o.bearer f) := by
  obtain ⟨b, hb, rfl, hops, hphase⟩ := h.phase_of_owner hr ho
  have hgone (i : Nat) :
      operationsOf { s with running := s.running.filter (·.ticket != r.ticket) } i =
        (s.operationsOf i).filter (·.ticket != r.ticket) := by
    simp only [operationsOf, List.filter_filter, Bool.and_comm]
  refine h.update_running (fun b' _ _ => hid b') (h.tickets.sublist (List.filter_sublist.map _))
    (fun r' hr' => h.tickets_lt r' (List.mem_of_mem_filter hr'))
    (fun r' hr' => h.owned r' (List.mem_of_mem_filter hr')) ?_ ?_
  · intro i hi
    rw [hgone, List.filter_eq_self]
    intro r' hr'
    rw [bne_iff_ne]
    intro ht
    obtain ⟨hmem, howner⟩ := mem_operationsOf.mp hr'
    rw [h.eq_of_ticket_eq hmem hr ht, ho, Option.map_some, Option.some.injEq] at howner
    exact hi howner.symm
  · intro b' hb' hbid
    obtain rfl := h.eq_of_id_eq hb' hb hbid
    rw [hgone, hops]
    simpa using hf b' hphase rfl

/-- An operation of no bearer is over. -/
theorem filter_running {r : Running} (hr : r ∈ s.running) (ho : r.owner = none) :
    Orderly { s with running := s.running.filter (·.ticket != r.ticket) } where
  bearerIds := h.bearerIds
  bearerIds_lt := h.bearerIds_lt
  tickets := h.tickets.sublist (List.filter_sublist.map _)
  tickets_lt := fun r' hr' => h.tickets_lt r' (List.mem_of_mem_filter hr')
  owned := fun r' hr' => h.owned r' (List.mem_of_mem_filter hr')
  phase := by
    intro b hb
    have hops : operationsOf { s with running := s.running.filter (·.ticket != r.ticket) } b.id =
        s.operationsOf b.id := by
      rw [operationsOf, List.filter_filter, operationsOf]
      refine List.filter_congr fun r' hr' => ?_
      by_cases ht : r'.ticket = r.ticket
      · simp [h.eq_of_ticket_eq hr' hr ht, ho]
      · simp [ht]
    rw [hops]
    exact h.phase b hb

/-- An operation begins on an idle bearer. -/
theorem occupy {b : Bearer} (hb : b ∈ s.bearers) {op : Operation} (request : Request)
    (hbusy : b.busy = false) (hbound : op.purpose ≠ .free)
    (hstatus : b.status = op.purpose.required) :
    Orderly ((s.update b.id fun _ =>
      { b with busy := true, status := op.purpose.passage, ticket := some s.nextTicket }).enter
        (some ⟨b.id, op.purpose.required⟩) false (.ask request op)).1 := by
  have hnew (r : Running) (hr : r ∈ s.running) : r.ticket ≠ s.nextTicket :=
    Nat.ne_of_lt (h.tickets_lt r hr)
  refine h.update_running (fun b' _ hb' => hb'.symm) ?_ ?_ ?_ ?_ ?_
  · rw [running_update, List.map_append, List.nodup_append]
    refine ⟨h.tickets, List.nodup_singleton _, ?_⟩
    intro t ht t' ht'
    obtain ⟨r, hr, rfl⟩ := List.mem_map.mp ht
    obtain rfl := List.mem_singleton.mp ht'
    exact hnew r hr
  · intro r hr
    rcases List.mem_append.mp hr with hr | hr
    · exact Nat.lt_succ_of_lt (h.tickets_lt r hr)
    · obtain rfl := List.mem_singleton.mp hr
      exact Nat.lt_succ_self _
  · intro r hr o ho
    rcases List.mem_append.mp hr with hr | hr
    · exact h.owned r hr o ho
    · obtain rfl := List.mem_singleton.mp hr
      obtain rfl := Option.some.inj ho
      exact ⟨b, hb, rfl⟩
  · intro i hi
    have hi' : ¬b.id = i := fun hbi => hi hbi.symm
    simp [operationsOf, hi']
  · intro b' hb' hbid
    obtain rfl := h.eq_of_id_eq hb' hb hbid
    have hphase := h.phase b' hb'
    have hnone : s.operationsOf b'.id = [] := hphase.pending_eq_nil hbusy
    have hops : operationsOf { s with
        running := (s.update b'.id fun _ => { b' with
          busy := true, status := op.purpose.passage, ticket := some s.nextTicket }).running ++
          [{ ticket := s.nextTicket, owner := some ⟨b'.id, op.purpose.required⟩,
             cancelled := false, operation := op, request }] } b'.id =
        [{ ticket := s.nextTicket, owner := some ⟨b'.id, op.purpose.required⟩,
           cancelled := false, operation := op, request }] := by
      simp only [operationsOf, running_update, List.filter_append] at hnone ⊢
      rw [hnone]
      simp
    rw [nextTicket_update, hops]
    exact .occupied _ rfl rfl rfl hbound rfl (hphase.connection_isSome hbusy hbound hstatus)

/-- Tickets are given out. -/
theorem skip_tickets {n : Nat} (hn : s.nextTicket ≤ n) : Orderly { s with nextTicket := n } where
  bearerIds := h.bearerIds
  bearerIds_lt := h.bearerIds_lt
  tickets := h.tickets
  tickets_lt := fun r hr => Nat.lt_of_lt_of_le (h.tickets_lt r hr) hn
  owned := h.owned
  phase := h.phase

/-- An operation of no bearer begins. -/
theorem append_running (cancelled : Bool) (request : Request) (op : Operation) :
    Orderly (s.enter none cancelled (.ask request op)).1 where
  bearerIds := h.bearerIds
  bearerIds_lt := h.bearerIds_lt
  tickets := by
    simp only [enter, List.map_append, List.nodup_append]
    refine ⟨h.tickets, List.nodup_singleton _, ?_⟩
    intro t ht t' ht'
    obtain ⟨r, hr, rfl⟩ := List.mem_map.mp ht
    obtain rfl := List.mem_singleton.mp ht'
    exact Nat.ne_of_lt (h.tickets_lt r hr)
  tickets_lt := by
    intro r hr
    rcases List.mem_append.mp hr with hr | hr
    · exact Nat.lt_succ_of_lt (h.tickets_lt r hr)
    · obtain rfl := List.mem_singleton.mp hr
      exact Nat.lt_succ_self _
  owned := by
    intro r hr o ho
    rcases List.mem_append.mp hr with hr | hr
    · exact h.owned r hr o ho
    · obtain rfl := List.mem_singleton.mp hr
      cases ho
  phase := by
    intro b hb
    have hops : operationsOf (s.enter none cancelled (.ask request op)).1 b.id =
        s.operationsOf b.id := by
      simp [operationsOf, enter]
    rw [hops]
    exact h.phase b hb

end Orderly

end Station

end ModemLink
