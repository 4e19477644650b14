import ModemLink.Proofs.Station.Steps

/-!
# Reachable stations

Every step keeps the order at a station, and so no run ever leaves the order. No step takes an id
back that was given out, and the modem stays the same.

## Main definitions

* `Station.Continues`: a station that can come after another one.

## Main results

* `Station.Orderly.step`: every step keeps the order.
* `Station.Run.orderly`: the order holds in every run.
* `Station.Step.continues`: what no step takes back.
-/

namespace ModemLink

open Operation (Purpose)

/-- A bearer occupied by an operation that ends at once is idle again. -/
theorem Bearer.Phase.settle_occupied {b : Bearer} (h : b.Phase []) {p : Purpose} (hp : p ≠ .free)
    (hs : b.status = p.required) (ticket : Nat) {ending : Ending} (he : p.Admits ending) :
    ((b.occupied p ticket).settle p.required ending).Phase [] := by
  match ending with
  | .error fault =>
    cases h with
    | disconnected busy ticket status connection =>
      exact .disconnected rfl rfl (hs ▸ status) connection
    | connected busy ticket status connection =>
      exact .connected rfl rfl (hs ▸ status) connection
  | .ok (.connected c) | .ok (.refreshed c) => exact .connected rfl rfl rfl rfl
  | .ok .disconnected => exact .disconnected rfl rfl rfl rfl
  | .ok (.dialed _) | .ok (.inspected _) | .ok .tornDown =>
    cases p with
    | connect | refresh | disconnect => exact he.elim
    | free => exact absurd rfl hp

namespace Station

variable {s : Station}

/-! ### Every step keeps the order -/

namespace Orderly

variable (h : s.Orderly)
include h

/-- A bearer at rest that is connected has its port, so that an operation on it has one. -/
theorem exists_port {b : Bearer} (hb : b ∈ s.bearers) (hbusy : b.busy = false)
    (hstatus : b.status = .connected) (first : DataPort → Logged Turn) :
    ∃ port, onPort b first = first port := by
  have hc := (h.phase b hb).connection_isSome hbusy (p := .refresh) (by decide) hstatus
  obtain ⟨c, hc⟩ := Option.isSome_iff_exists.mp hc
  exact ⟨c.port, by simp [onPort, hc]⟩

/-- The first turn of a call serves its purpose, where the call is admitted. -/
theorem serves_first {b : Bearer} (hb : b ∈ s.bearers) {m : Move} {name : String} {p : Purpose}
    {first : Logged Turn} (hbegins : s.Begins b m name p first) (hbusy : b.busy = false)
    (hstatus : b.status = p.required) : first.value.Serves p := by
  cases hbegins with
  | connect => exact Operation.serves_connect ..
  | refresh =>
    obtain ⟨port, hport⟩ := h.exists_port hb hbusy hstatus fun port =>
      Operation.refresh port b.profile
    rw [hport]
    exact Operation.serves_refresh ..
  | disconnect =>
    obtain ⟨port, hport⟩ := h.exists_port hb hbusy hstatus fun port =>
      Operation.disconnect port b.profile.cid
    rw [hport]
    rfl

/-- A call that ends with its first turn leaves its bearer idle: it is occupied and idle again
within one step. -/
theorem finish {b : Bearer} (hb : b ∈ s.bearers) {p : Purpose} (hp : p ≠ .free)
    (hbusy : b.busy = false) (hstatus : b.status = p.required) {ending : Ending}
    (hserves : p.Admits ending) :
    ((({ s with nextTicket := s.nextTicket + 1 }).update b.id fun _ =>
      (b.occupied p s.nextTicket).settle p.required ending).reap b.id).Orderly := by
  have hphase := h.phase_of_idle hb hbusy
  refine Orderly.reap ?_ b.id
  refine (h.skip_tickets (Nat.le_succ _)).update_running
    (fun b' _ hid => (Bearer.id_settle ..).trans hid.symm) h.tickets
    (h.skip_tickets (Nat.le_succ _)).tickets_lt h.owned (fun _ _ => rfl) ?_
  intro b' hb' hid
  obtain rfl := h.eq_of_id_eq hb' hb hid
  have hnone : s.operationsOf b'.id = [] := (h.phase b' hb').pending_eq_nil hbusy
  simp only [operationsOf] at hnone ⊢
  rw [hnone]
  exact hphase.settle_occupied hp hstatus _ hserves

/-- An operation that is over leaves its bearer idle, if it leaves it so in every phase. -/
theorem conclude {r : Running} (hr : r ∈ s.running) {f : Owner → Bearer → Bearer}
    (hid : ∀ o b, (f o b).id = b.id)
    (hf : ∀ o b, b.Phase [r] → o.previous = r.operation.purpose.required → (f o b).Phase []) :
    (({ s with running := s.running.filter (·.ticket != r.ticket) }).conclude r.owner
      f).Orderly := by
  simp only [Station.conclude]
  split
  · next ho => exact h.filter_running hr ho
  · next o ho => exact (h.vacate hr ho (hid o) (hf o)).reap o.bearer

/-- An operation that asks for the next command still serves its purpose. -/
theorem resume {r : Running} (hr : r ∈ s.running) {a : Answer} {request : Request}
    {op : Operation} (hturn : (r.operation.resume r.cancelled a).value = .ask request op) :
    Orderly { s with running := s.running.map (broughtOn r.ticket request op) } := by
  have hserves := Operation.serves_resume r.operation r.cancelled a
  rw [hturn] at hserves
  refine h.map_running (fun r' => ticket_broughtOn _ request op r')
    (fun r' => owner_broughtOn _ request op r') fun r' hr' => ?_
  rw [broughtOn]
  split
  · next ht => rw [h.eq_of_ticket_eq hr' hr ht]; exact hserves
  · rfl

/-- An operation that ends settles its bearer as its purpose admits. -/
theorem settle {r : Running} (hr : r ∈ s.running) {a : Answer} {ending : Ending}
    (hturn : (r.operation.resume r.cancelled a).value = .done ending) :
    (({ s with running := s.running.filter (·.ticket != r.ticket) }).settle r.owner
      ending).Orderly := by
  have hserves := Operation.serves_resume r.operation r.cancelled a
  rw [hturn] at hserves
  refine h.conclude hr (fun o b => b.id_settle o.previous ending) fun o b hb ho => ?_
  rw [ho]
  exact hb.settle hserves

theorem cancelTicket (ticket : Nat) : (s.cancelTicket ticket).Orderly := by
  refine h.map_running ?_ ?_ ?_
  · intro r
    split <;> rfl
  · intro r
    split <;> rfl
  · intro r _
    split <;> rfl

theorem enterFree (cancelled : Bool) (turn : Turn) : (s.enter none cancelled turn).1.Orderly := by
  cases turn with
  | ask request op => exact h.append_running cancelled request op
  | done ending => exact h.skip_tickets (Nat.le_succ _)

/-- A bearer that comes is disconnected, and no operation is under way of it. -/
theorem append_bearer (profile : Profile) (cids : List UInt32) :
    Orderly { s with
      bearers := s.bearers ++ [{ id := s.nextBearer, profile }]
      usedCids := cids
      nextBearer := s.nextBearer + 1 } where
  bearerIds := by
    rw [List.map_append, List.nodup_append]
    refine ⟨h.bearerIds, List.nodup_singleton _, ?_⟩
    intro i hi i' hi'
    obtain ⟨b, hb, rfl⟩ := List.mem_map.mp hi
    obtain rfl := List.mem_singleton.mp hi'
    exact Nat.ne_of_lt (h.bearerIds_lt b hb)
  bearerIds_lt := by
    intro b hb
    rcases List.mem_append.mp hb with hb | hb
    · exact Nat.lt_succ_of_lt (h.bearerIds_lt b hb)
    · obtain rfl := List.mem_singleton.mp hb
      exact Nat.lt_succ_self _
  tickets := h.tickets
  tickets_lt := h.tickets_lt
  owned := by
    intro r hr o ho
    obtain ⟨b, hb, hid⟩ := h.owned r hr o ho
    exact ⟨b, List.mem_append_left _ hb, hid⟩
  phase := by
    intro b hb
    rcases List.mem_append.mp hb with hb | hb
    · exact h.phase b hb
    · obtain rfl := List.mem_singleton.mp hb
      have hnone : s.operationsOf s.nextBearer = [] := by
        rw [operationsOf, List.filter_eq_nil_iff]
        intro r hr
        cases ho : r.owner with
        | none => simp
        | some o =>
          obtain ⟨b, hb, hid⟩ := h.owned r hr o ho
          simpa [← hid] using Nat.ne_of_lt (h.bearerIds_lt b hb)
      simp only [operationsOf] at hnone ⊢
      rw [hnone]
      exact .disconnected rfl rfl rfl rfl

/-- A bearer that is let go of keeps its operation. -/
theorem release (id : Nat) : (s.release id).Orderly := by
  refine Orderly.reap ?_ id
  exact h.update_running (fun _ _ _ => rfl) h.tickets h.tickets_lt h.owned (fun _ _ => rfl)
    fun b hb hid => (hid ▸ h.phase b hb).of_eq rfl rfl rfl rfl rfl

/-- Every step keeps the order. -/
theorem step {m : Move} {s' : Station} {ret : Option Return} (hs : s.Step m s' ret) :
    s'.Orderly := by
  cases hs with
  | unmoved | refused | rested => exact h
  | created profile => exact h.append_bearer profile _
  | released id => exact h.release id
  | occupied hb hbegins hbusy hstatus hturn =>
    have hserves := h.serves_first hb hbegins hbusy hstatus
    rw [hturn] at hserves
    obtain rfl := hserves
    exact h.occupy hb _ hbusy hbegins.ne_free hstatus
  | finished hb hbegins hbusy hstatus hturn =>
    have hserves := h.serves_first hb hbegins hbusy hstatus
    rw [hturn] at hserves
    exact h.finish hb hbegins.ne_free hbusy hstatus hserves
  | entered => exact h.enterFree ..
  | resumed hr hturn => exact h.resume (mem_of_running? hr).1 hturn
  | ended hr hturn => exact h.settle (mem_of_running? hr).1 hturn
  | asked _ ticket => exact h.cancelTicket ticket
  | dropped hr =>
    refine h.conclude (mem_of_running? hr).1 (fun o b => rfl) fun o b hb ho => ?_
    rw [ho]
    exact hb.restore

/-- Every move keeps the order. -/
theorem next (m : Move) : (s.next m).Orderly :=
  h.step (s.step m)

end Orderly

/-- A modem without bearers is in order. -/
theorem orderly_start (modem : Modem) : Orderly { modem } := by
  constructor <;> simp

/-- The order holds in every run. -/
theorem Run.orderly (modem : Modem) (moves : List Move) : (Run.after modem moves).station.Orderly :=
  Run.after_induction (P := fun run => run.station.Orderly) modem moves (orderly_start modem)
    fun _ m _ h => h.next m

/-! ### What no step takes back -/

/-- The station has the same modem, and the ids it gave out before. -/
structure Continues (s s' : Station) : Prop where
  modem_eq : s'.modem = s.modem
  nextBearer_le : s.nextBearer ≤ s'.nextBearer

namespace Continues

variable {s' : Station}

theorem refl (s : Station) : s.Continues s := ⟨rfl, Nat.le_refl _⟩

theorem reap (h : s.Continues s') (id : Nat) : s.Continues (s'.reap id) := by
  rw [Station.reap]
  split
  · exact h
  · split
    · exact h
    · exact ⟨h.modem_eq, h.nextBearer_le⟩

theorem conclude (h : s.Continues s') (owner : Option Owner) (f : Owner → Bearer → Bearer) :
    s.Continues (s'.conclude owner f) := by
  cases owner with
  | none => exact h
  | some o =>
    refine Continues.reap ?_ _
    exact ⟨h.modem_eq, h.nextBearer_le⟩

theorem enter (h : s.Continues s') (owner : Option Owner) (cancelled : Bool) (turn : Turn) :
    s.Continues (s'.enter owner cancelled turn).1 := by
  cases turn with
  | ask => exact ⟨h.modem_eq, h.nextBearer_le⟩
  | done =>
    refine Continues.conclude ?_ owner _
    exact ⟨h.modem_eq, h.nextBearer_le⟩

end Continues

/-- The modem stays, and ids are given out and never taken back. -/
theorem Step.continues {m : Move} {s' : Station} {ret : Option Return} (h : s.Step m s' ret) :
    s.Continues s' := by
  cases h with
  | unmoved | refused | rested => exact .refl s
  | created => exact ⟨rfl, Nat.le_succ _⟩
  | released | finished =>
    refine Continues.reap ?_ _
    exact ⟨rfl, Nat.le_refl _⟩
  | occupied | resumed | asked => exact ⟨rfl, Nat.le_refl _⟩
  | entered => exact (Continues.refl s).enter ..
  | ended | dropped =>
    refine Continues.conclude ?_ _ _
    exact ⟨rfl, Nat.le_refl _⟩

/-- A run is one of its modem. -/
theorem Run.modem_eq (modem : Modem) (moves : List Move) :
    (Run.after modem moves).station.modem = modem :=
  Run.after_induction (P := fun run => run.station.modem = modem) modem moves rfl
    fun run m _ h => (run.station.step m).continues.modem_eq.trans h

end Station

end ModemLink
