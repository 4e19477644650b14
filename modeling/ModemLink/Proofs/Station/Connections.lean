import ModemLink.Proofs.Station.Reachable

/-!
# Connections are what calls achieved

A connection is not only there or absent, it is a particular one: what the latest success of the
bearer left behind. The calls of a run are known by what they return, and a move changes the
connection of a bearer exactly where it brings a successful call of that bearer to its end.
Failures, refusals, dropped operations and the calls of other bearers leave it alone.

## Main definitions

* `Station.Reflects`: every bearer has the connection its calls have achieved.

## Main results

* `Station.Reflects.step`: connections are as returned after every step.
* `Station.Run.reflects`: connections are as returned in every run.
-/

namespace ModemLink

open Operation (Purpose)

namespace Station

variable {s : Station}

/-- Every bearer has the connection that its calls have achieved. -/
def Reflects (s : Station) (returned : List Return) : Prop :=
  ∀ b ∈ s.bearers, b.connection = lastConnection b.id returned

namespace Reflects

variable {returned : List Return} (h : s.Reflects returned)
include h

theorem reap (id : Nat) : (s.reap id).Reflects returned :=
  fun b hb => h b ((bearers_reap_sublist id).subset hb)

/-- A change of a bearer that leaves its connection alone. -/
theorem update (id : Nat) {f : Bearer → Bearer} (hid : ∀ b ∈ s.bearers, b.id = id → (f b).id = b.id)
    (hf : ∀ b ∈ s.bearers, b.id = id → (f b).connection = b.connection) :
    (s.update id f).Reflects returned := by
  intro b' hb'
  obtain ⟨b, hb, rfl⟩ := mem_bearers_update.mp hb'
  split
  · next hbid => rw [hf b hb hbid, hid b hb hbid, h b hb]
  · exact h b hb

/-- The end of a call of a bearer reaches the connection of that bearer and no other. -/
theorem update_settle {p : Purpose} (hp : p ≠ .free) {id : Nat} {ending : Ending}
    (he : p.Admits ending) {f : Bearer → Bearer}
    (hid : ∀ b ∈ s.bearers, b.id = id → (f b).id = b.id)
    (hf : ∀ b ∈ s.bearers, b.id = id →
      ∃ (b' : Bearer) (previous : Status),
        b'.connection = b.connection ∧ f b = b'.settle previous ending) :
    (s.update id f).Reflects (returned ++ [⟨id, ending⟩]) := by
  intro b' hb'
  obtain ⟨b, hb, rfl⟩ := mem_bearers_update.mp hb'
  split
  · next hbid =>
    rw [hid b hb hbid]
    obtain ⟨b', previous, hc, heq⟩ := hf b hb hbid
    rw [heq]
    subst hbid
    match ending with
    | .error fault =>
      rw [lastConnection_concat_error]
      exact hc.trans (h b hb)
    | .ok (.connected c) | .ok (.refreshed c) | .ok .disconnected =>
      rw [lastConnection_concat_ok]
      rfl
    | .ok (.dialed _) | .ok (.inspected _) | .ok .tornDown =>
      cases p with
      | connect | refresh | disconnect => exact he.elim
      | free => exact absurd rfl hp
  · next hbid =>
    rw [lastConnection_concat_of_ne fun heq => hbid heq.symm]
    exact h b hb

/-- A call that is refused achieves nothing. -/
theorem concat_error (id : Nat) (f : Fault) :
    s.Reflects (returned ++ [⟨id, .error f⟩]) := by
  intro b hb
  rw [lastConnection_concat_error]
  exact h b hb

/-- A bearer that comes has no connection, and has called nothing. -/
theorem append_bearer (hlt : ∀ r ∈ returned, r.bearer < s.nextBearer) (profile : Profile)
    (cids : List UInt32) :
    Reflects { s with
      bearers := s.bearers ++ [{ id := s.nextBearer, profile }]
      usedCids := cids
      nextBearer := s.nextBearer + 1 } returned := by
  intro b hb
  rcases List.mem_append.mp hb with hb | hb
  · exact h b hb
  · obtain rfl := List.mem_singleton.mp hb
    exact (lastConnection_of_forall_ne fun r hr => Nat.ne_of_lt (hlt r hr)).symm

/-- A session that is already ended has no connection left to lose. -/
theorem rest (ho : s.Orderly) {b : Bearer} (hb : b ∈ s.bearers) (hbusy : b.busy = false)
    (hstatus : b.status = .disconnected) :
    s.Reflects (returned ++ [⟨b.id, .ok .disconnected⟩]) := by
  intro b' hb'
  by_cases hid : b'.id = b.id
  · obtain rfl := ho.eq_of_id_eq hb' hb hid
    have hc := (ho.phase b' hb').connection_isSome hbusy (p := .connect) (by decide) hstatus
    rw [lastConnection_concat_ok]
    change b'.connection = none
    simpa using hc
  · rw [lastConnection_concat_of_ne fun heq => hid heq.symm]
    exact h b' hb'

/-- A call that waits has achieved nothing yet. -/
theorem occupy (ho : s.Orderly) {b : Bearer} (hb : b ∈ s.bearers) (p : Purpose)
    (request : Request) (op : Operation) :
    ((s.update b.id fun _ => b.occupied p s.nextTicket).enter (some ⟨b.id, p.required⟩) false
      (.ask request op)).1.Reflects returned := by
  refine h.update b.id (fun b' _ hid => hid.symm) fun b' hb' hid => ?_
  rw [ho.eq_of_id_eq hb' hb hid]
  rfl

/-- What a call that ends with its first turn does to connections is what it returns. -/
theorem finish (ho : s.Orderly) {b : Bearer} (hb : b ∈ s.bearers) {p : Purpose} (hp : p ≠ .free)
    {ending : Ending} (hserves : p.Admits ending) :
    Reflects ((({ s with nextTicket := s.nextTicket + 1 }).update b.id fun _ =>
      (b.occupied p s.nextTicket).settle p.required ending).reap b.id)
        (returned ++ [⟨b.id, ending⟩]) := by
  refine Reflects.reap ?_ b.id
  refine Reflects.update_settle (s := { s with nextTicket := s.nextTicket + 1 }) h hp hserves
    (fun b' _ hid => (Bearer.id_settle ..).trans hid.symm) fun b' hb' hid => ?_
  rw [ho.eq_of_id_eq hb' hb hid]
  exact ⟨b.occupied p s.nextTicket, p.required, rfl, rfl⟩

/-- An answer that ends an operation of a bearer settles the connection of that bearer. -/
theorem settle (ho : s.Orderly) {r : Running} (hr : r ∈ s.running) {a : Answer} {ending : Ending}
    (hturn : (r.operation.resume r.cancelled a).value = .done ending) :
    Reflects (({ s with running := s.running.filter (·.ticket != r.ticket) }).settle r.owner ending)
      (returned ++ (r.owner.map fun o => ⟨o.bearer, ending⟩).toList) := by
  have hserves := Operation.serves_resume r.operation r.cancelled a
  rw [hturn] at hserves
  cases hown : r.owner with
  | none =>
    simp only [Option.map_none, Option.toList_none, List.append_nil]
    exact h
  | some o =>
    obtain ⟨b, hb, rfl, -, hphase⟩ := ho.phase_of_owner hr hown
    have hbound : r.operation.purpose ≠ .free := by
      cases hphase with
      | occupied _ _ _ _ bound => exact bound
    refine Reflects.reap ?_ b.id
    exact Reflects.update_settle
      (s := { s with running := s.running.filter (·.ticket != r.ticket) }) h hbound hserves
      (fun b' _ _ => Bearer.id_settle ..) fun b' _ _ => ⟨b', _, rfl, rfl⟩

/-- An operation that is dropped leaves the connection of its bearer alone. -/
theorem drop (r : Running) :
    Reflects (({ s with running := s.running.filter (·.ticket != r.ticket) }).conclude r.owner
      fun o b => b.restore o.previous) returned := by
  simp only [conclude]
  split
  · exact h
  · next o _ =>
    exact Reflects.reap (Reflects.update
      (s := { s with running := s.running.filter (·.ticket != r.ticket) })
      (f := fun b => b.restore o.previous) h o.bearer (fun _ _ _ => rfl) fun _ _ _ => rfl) _

theorem enterFree (cancelled : Bool) (turn : Turn) :
    (s.enter none cancelled turn).1.Reflects returned := by
  cases turn with
  | ask request op => exact h
  | done ending => exact h

/-- Connections are as returned after every step. -/
theorem step (ho : s.Orderly) (hlt : ∀ r ∈ returned, r.bearer < s.nextBearer) {m : Move}
    {s' : Station} {ret : Option Return} (hs : s.Step m s' ret) :
    s'.Reflects (returned ++ ret.toList) := by
  have hquiet {s' : Station} (h' : s'.Reflects returned) :
      s'.Reflects (returned ++ (none : Option Return).toList) := by
    simpa using h'
  cases hs with
  | unmoved | resumed | asked => exact hquiet h
  | created profile => exact hquiet (h.append_bearer hlt profile _)
  | released id =>
    exact hquiet ((h.update (f := fun b => { b with held := false }) id (fun _ _ _ => rfl)
      fun _ _ _ => rfl).reap id)
  | refused => exact h.concat_error _ _
  | rested hb hbusy hstatus => exact h.rest ho hb hbusy hstatus
  | occupied hb => exact hquiet (h.occupy ho hb _ _ _)
  | finished hb hbegins hbusy hstatus hturn =>
    have hserves := ho.serves_first hb hbegins hbusy hstatus
    rw [hturn] at hserves
    exact h.finish ho hb hbegins.ne_free hserves
  | entered => exact hquiet (h.enterFree _ _)
  | ended hr hturn => exact h.settle ho (mem_of_running? hr).1 hturn
  | dropped => exact hquiet (h.drop _)

end Reflects

/-! ### Only bearers return -/

/-- A call that returns is one of a bearer that exists. -/
theorem Orderly.bearer_lt_of_step (h : s.Orderly) {m : Move} {s' : Station} {r : Return}
    (hs : s.Step m s' (some r)) : r.bearer < s.nextBearer := by
  generalize hret : some r = ret at hs
  cases hs with
  | unmoved | created | released | occupied | entered | resumed | asked | dropped => cases hret
  | refused hb | rested hb | finished hb =>
    cases hret
    exact h.bearerIds_lt _ hb
  | ended hr =>
    obtain ⟨o, ho, rfl⟩ := Option.map_eq_some_iff.mp hret.symm
    obtain ⟨b, hb, hid⟩ := h.owned _ (mem_of_running? hr).1 o ho
    exact hid ▸ h.bearerIds_lt b hb

/-- The calls of a run are calls of bearers that came on it. -/
theorem Run.returned_bearer_lt (modem : Modem) (moves : List Move) :
    ∀ r ∈ (Run.after modem moves).returned,
      r.bearer < (Run.after modem moves).station.nextBearer := by
  refine (Run.after_induction (P := fun run => run.station.Orderly ∧
    ∀ r ∈ run.returned, r.bearer < run.station.nextBearer) modem moves
    ⟨orderly_start modem, by simp⟩ ?_).2
  intro run m _ ⟨ho, hlt⟩
  have hs := run.station.step m
  refine ⟨ho.next m, fun r hr => Nat.lt_of_lt_of_le ?_ hs.continues.nextBearer_le⟩
  rcases List.mem_append.mp hr with hr | hr
  · exact hlt r hr
  · rw [Option.mem_toList.mp hr] at hs
    exact ho.bearer_lt_of_step hs

/-- The connection of a bearer is what its latest success left behind, in every run. -/
theorem Run.reflects (modem : Modem) (moves : List Move) :
    (Run.after modem moves).station.Reflects (Run.after modem moves).returned := by
  induction moves using List.reverseRecOn with
  | nil => intro b hb; cases hb
  | append_singleton moves m ih =>
    rw [Run.after_concat]
    exact ih.step (Run.orderly modem moves) (Run.returned_bearer_lt modem moves)
      ((Run.after modem moves).station.step m)

end Station

end ModemLink
