import ModemLink.Proofs.Station.Connections

/-!
# One operation at a time

In every run of a station, and whatever its operations are answered, a bearer is busy exactly
while one operation of it is under way, keeps the ticket of that operation and no other, and
shows a status of passage only for it. It has a connection exactly where its status promises
one, and that connection is what its latest success left. A call that comes meanwhile is refused
and changes nothing; so the data port of a session is there whenever it is needed, and ending a
session has no other way to fail.

Source: the specification, sections 5 and 10.5.

## Main definitions

* `Station.Blames`: every fault that an operation is still to report satisfies a predicate.
* `Station.SingleFlight`: how a bearer stands to its operations and to its calls.

## Main results

* `Station.Run.blames_returned`: the faults that calls return are answers, were found on the way, or
  are refusals.
* `Station.Run.single_flight`: what holds of every bearer in every reachable state.
-/

namespace ModemLink

open Operation (Purpose)

/-! ### What a phase tells -/

namespace Bearer.Phase

variable {b : Bearer} {pending : List Running} (h : b.Phase pending)
include h

theorem busy_iff : b.busy = true ↔ ∃ r, pending = [r] := by
  cases h with
  | disconnected busy | connected busy => simp [busy]
  | occupied r busy => simp [busy]

theorem idle_iff : b.busy = false ↔ pending = [] := by
  cases h with
  | disconnected busy | connected busy => simp [busy]
  | occupied r busy => simp [busy]

theorem ticket_eq : b.ticket = pending.head?.map (·.ticket) := by
  cases h with
  | disconnected _ ticket | connected _ ticket => exact ticket
  | occupied r _ ticket => exact ticket

/-- A status of passage tells what is under way. The status of a refresh is one of rest. -/
theorem status_eq_passage_iff {p : Purpose} (hp : p = .connect ∨ p = .disconnect) :
    b.status = p.passage ↔ ∃ r ∈ pending, r.operation.purpose = p := by
  cases h with
  | disconnected _ _ status | connected _ _ status =>
    rcases hp with rfl | rfl <;> simp [status, Purpose.passage]
  | occupied r _ _ _ bound status =>
    rw [status]
    cases hr : r.operation.purpose with
    | free => exact absurd hr bound
    | connect | refresh | disconnect => rcases hp with rfl | rfl <;> simp [Purpose.passage, hr]

theorem connection_isSome_iff :
    b.connection.isSome = true ↔ b.status = .connected ∨ b.status = .disconnecting := by
  cases h with
  | disconnected _ _ status connection => simp [status, connection]
  | connected _ _ status connection => simp [status, connection]
  | occupied r _ _ _ bound status connection =>
    rw [status, connection]
    cases hp : r.operation.purpose with
    | free => exact absurd hp bound
    | connect | refresh | disconnect => simp [Purpose.passage]

end Bearer.Phase

namespace Station

variable {s : Station}

/-! ### Faults -/

/-- Every fault that an operation under way is still to report satisfies `P`. -/
def Blames (s : Station) (P : Fault → Prop) : Prop :=
  ∀ r ∈ s.running, ∀ f, r.operation.cause? = some f → P f

namespace Blames

variable {P : Fault → Prop} (h : s.Blames P)
include h

theorem conclude (owner : Option Owner) (f : Owner → Bearer → Bearer) :
    (s.conclude owner f).Blames P := by
  cases owner with
  | none => exact h
  | some o =>
    intro r hr
    simp only [Station.conclude, running_reap, running_update] at hr
    exact h r hr

/-- A first turn brings its own faults. -/
theorem enter (owner : Option Owner) (cancelled : Bool) {turn : Turn} (ht : turn.Blames P) :
    (s.enter owner cancelled turn).1.Blames P := by
  cases turn with
  | ask request op =>
    intro r hr
    rcases List.mem_append.mp hr with hr | hr
    · exact h r hr
    · obtain rfl := List.mem_singleton.mp hr
      exact ht
  | done ending =>
    exact Blames.conclude (s := { s with nextTicket := s.nextTicket + 1 }) h owner
      fun o b => b.settle o.previous ending

/-- Asking an operation to stop gives it nothing to report. -/
theorem cancelTicket (ticket : Nat) : (s.cancelTicket ticket).Blames P := by
  intro r hr
  obtain ⟨q, hq, rfl⟩ := List.mem_map.mp hr
  split
  · exact h q hq
  · exact h q hq

end Blames

section Faults

variable {P : Fault → Prop} (hown : ∀ f : Fault, f.IsInternal → P f)
include hown

/-- A call brings nothing but faults that are found on the way, where it is admitted. -/
theorem Orderly.blames_first (ho : s.Orderly) {b : Bearer} (hb : b ∈ s.bearers) {m : Move}
    {name : String} {p : Purpose} {first : Logged Turn} (hbegins : s.Begins b m name p first)
    (hbusy : b.busy = false) (hstatus : b.status = p.required) : first.value.Blames P := by
  cases hbegins with
  | connect => exact Operation.blames_connect hown ..
  | refresh =>
    obtain ⟨port, hport⟩ := ho.exists_port hb hbusy hstatus fun port =>
      Operation.refresh port b.profile
    rw [hport]
    exact Operation.blames_refresh hown port b.profile
  | disconnect =>
    obtain ⟨port, hport⟩ := ho.exists_port hb hbusy hstatus fun port =>
      Operation.disconnect port b.profile.cid
    rw [hport]
    exact Operation.blames_disconnect port b.profile.cid

theorem BeginsFree.blames_first {m : Move} {cancelled : Bool} {first : Logged Turn}
    (hbegins : s.BeginsFree m cancelled first) : first.value.Blames P := by
  cases hbegins with
  | dial profile cancelled => exact Operation.blames_dial hown s.modem profile cancelled
  | inspect port cid family cancelled =>
    exact Operation.blames_inspect hown port cid family cancelled
  | teardown port cid => exact Operation.blames_teardown port cid

/-- An operation that is answered has nothing new to report but the answer, and what is found on
the way. -/
theorem Blames.resume (h : s.Blames P) {r : Running} (hr : s.running? r.ticket = some r)
    {a : Answer} (ha : ∀ f, a = .error f → P f) :
    (r.operation.resume r.cancelled a).value.Blames P :=
  Operation.blames_resume hown ha (h r (mem_of_running? hr).1)

/-- A step adds to the faults still to report only what it is told or what is found on the way. -/
theorem Orderly.blames_step (ho : s.Orderly) (h : s.Blames P) {m : Move}
    (hm : ∀ ticket f, m = .answer ticket (.error f) → P f) {s' : Station} {ret : Option Return}
    (hs : s.Step m s' ret) : s'.Blames P := by
  have hrest {r : Running} (f : Owner → Bearer → Bearer) :
      Blames (({ s with running := s.running.filter (·.ticket != r.ticket) }).conclude r.owner f)
        P :=
    Blames.conclude (s := { s with running := s.running.filter (·.ticket != r.ticket) })
      (fun q hq => h q (List.mem_of_mem_filter hq)) r.owner f
  cases hs with
  | unmoved | created | refused | rested => exact h
  | released id =>
    intro r hr
    rw [Station.release, running_reap, running_update] at hr
    exact h r hr
  | occupied hb hbegins hbusy hstatus hturn =>
    have hfirst := ho.blames_first hown hb hbegins hbusy hstatus
    rw [hturn] at hfirst
    exact Blames.enter (s := s.update _ fun _ => _) h _ _ hfirst
  | finished =>
    intro r hr
    rw [running_reap, running_update] at hr
    exact h r hr
  | entered hbegins => exact h.enter none _ (hbegins.blames_first hown)
  | resumed hr hturn =>
    have hblames := h.resume hown hr fun f hf => hm _ f (congrArg _ hf)
    rw [hturn] at hblames
    intro r' hr'
    obtain ⟨q, hq, rfl⟩ := List.mem_map.mp hr'
    simp only [broughtOn]
    split
    · exact hblames
    · exact h q hq
  | asked _ ticket => exact h.cancelTicket ticket
  | ended | dropped => exact hrest _

/-- A call returns a fault that an answer brought, that an operation found, or a refusal. -/
theorem Orderly.blames_return (ho : s.Orderly)
    (hrefused : ∀ (b : Bearer) call required f, b.refusal? call required = some f → P f)
    (h : s.Blames P) {m : Move} (hm : ∀ ticket f, m = .answer ticket (.error f) → P f)
    {s' : Station} {id : Nat} {f : Fault} (hs : s.Step m s' (some ⟨id, .error f⟩)) : P f := by
  generalize hret : some (Return.mk id (.error f)) = ret at hs
  cases hs with
  | unmoved | created | released | rested | occupied | entered | resumed | asked | dropped =>
    cases hret
  | refused _ _ hfault =>
    cases hret
    exact hrefused _ _ _ f hfault
  | finished hb hbegins hbusy hstatus hturn =>
    cases hret
    have hfirst := ho.blames_first hown hb hbegins hbusy hstatus
    rw [hturn] at hfirst
    exact hfirst f rfl
  | ended hr hturn =>
    obtain ⟨o, -, hreturn⟩ := Option.map_eq_some_iff.mp hret.symm
    cases hreturn
    have hblames := h.resume hown hr fun f hf => hm _ f (congrArg _ hf)
    rw [hturn] at hblames
    exact hblames f rfl

end Faults

/-- The faults that the calls of a run return were brought by answers, were found on the way,
or are refusals. -/
theorem Run.blames_returned (modem : Modem) (moves : List Move) {P : Fault → Prop}
    (hown : ∀ f : Fault, f.IsInternal → P f)
    (hrefused : ∀ (b : Bearer) call required f, b.refusal? call required = some f → P f)
    (hmoves : ∀ ticket f, .answer ticket (.error f) ∈ moves → P f) :
    ∀ r ∈ (Run.after modem moves).returned, ∀ f, r.ending = .error f → P f := by
  refine (Run.after_induction
    (P := fun run => run.station.Orderly ∧ run.station.Blames P ∧
      ∀ r ∈ run.returned, ∀ f, r.ending = .error f → P f)
    modem moves ⟨orderly_start modem, by simp [Blames], by simp⟩ ?_).2.2
  intro run m hm ⟨ho, h, hreturned⟩
  have hanswer : ∀ ticket f, m = .answer ticket (.error f) → P f := fun ticket f heq =>
    hmoves ticket f (heq ▸ hm)
  have hs := run.station.step m
  refine ⟨ho.next m, ho.blames_step hown h hanswer hs, fun r hr f hf => ?_⟩
  rcases List.mem_append.mp hr with hr | hr
  · exact hreturned r hr f hf
  · obtain ⟨id, ending⟩ := r
    obtain rfl : ending = .error f := hf
    rw [Option.mem_toList.mp hr] at hs
    exact ho.blames_return hown hrefused h hanswer hs

/-! ### The calls of a bearer -/

/-- The fault of an operation that needs the data port of a bearer without one. -/
def noDataPort : Fault := .wrongState "bearer has no data port"

/-- The fault of a call that comes while an operation of the bearer is under way. -/
def stillBusy (call : String) : Fault :=
  .wrongState ("cannot " ++ call ++ ": another operation is in progress")

/-- The moves by which operations of a bearer begin, with the names of the calls. -/
def calls (id : Nat) : List (Move × String) :=
  [(.connect id, "connect"), (.refresh id, "get IP config"), (.disconnect id, "disconnect")]

theorem cannot_ne_noDataPort (text : String) :
    Fault.wrongState ("cannot " ++ text) ≠ noDataPort := by
  intro h
  have hhead := congrArg (fun t : String => t.toList.head?) (Fault.wrongState.inj h)
  simp at hhead

/-- A bearer refuses calls with faults of its own. -/
theorem ne_noDataPort_of_refusal? {b : Bearer} {call : String} {required : Status} {f : Fault}
    (h : b.refusal? call required = some f) : f ≠ noDataPort := by
  rw [Bearer.refusal?] at h
  split at h
  · rw [← Option.some.inj h, String.append_assoc]
    exact cannot_ne_noDataPort _
  · split at h
    · rw [← Option.some.inj h, String.append_assoc, String.append_assoc]
      exact cannot_ne_noDataPort _
    · cases h

theorem ne_noDataPort_of_isInternal {f : Fault} (h : f.IsInternal) : f ≠ noDataPort := by
  rintro rfl
  rcases h with h | ⟨r, h⟩ | ⟨what, h⟩ <;> cases h

namespace Orderly

variable (h : s.Orderly) {b : Bearer} (hb : b ∈ s.bearers)
include h hb

/-- A call that finds its bearer busy is refused, and nothing else happens. -/
theorem refused_of_busy (hbusy : b.busy = true) :
    ∀ call ∈ calls b.id,
      s.perform call.1 = pure (s, some (.ended (.error (stillBusy call.2)))) := by
  have hbegin (name : String) (p : Purpose) (first : Logged Turn) :
      s.begin b name p.required p.passage first = pure (s, .ended (.error (stillBusy name))) := by
    rw [begin_eq, Bearer.refusal?_of_busy hbusy]
    rfl
  intro call hcall
  simp only [calls, List.mem_cons, List.not_mem_nil, or_false] at hcall
  rcases hcall with rfl | rfl | rfl
  · simp only [perform, Station.connect, h.bearer?_eq hb]
    exact congrArg advancing (hbegin "connect" .connect _)
  · simp only [perform, Station.refresh, h.bearer?_eq hb]
    exact congrArg advancing (hbegin "get IP config" .refresh _)
  · simp only [perform, Station.disconnect, h.bearer?_eq hb, hbusy]
    exact congrArg advancing (hbegin "disconnect" .disconnect _)

/-- Ending a session fails only where another operation is under way. -/
theorem busy_of_disconnect_fails {f : Fault}
    (hf : s.returned? (.disconnect b.id) = some ⟨b.id, .error f⟩) : b.busy = true := by
  rw [returned?_of_advancing rfl] at hf
  change Option.map (Return.mk b.id) (s.disconnect b.id).value.2.ending? = _ at hf
  rw [Station.disconnect, h.bearer?_eq hb] at hf
  cases hbusy : b.busy with
  | true => rfl
  | false =>
    rcases (h.phase b hb).status_of_not_busy hbusy with hstatus | hstatus
    · simp [hbusy, hstatus, Progress.ending?] at hf
    · obtain ⟨port, hport⟩ := h.exists_port hb hbusy hstatus fun port =>
        Operation.disconnect port b.profile.cid
      rcases begin_cases s b "disconnect" .disconnect
        (onPort b fun port => Operation.disconnect port b.profile.cid) with
        ⟨fault, hfault, -⟩ | ⟨-, -, heq⟩
      · have hnone : b.refusal? "disconnect" Purpose.disconnect.required = none :=
          Bearer.refusal?_eq_none_iff.mpr ⟨hbusy, hstatus⟩
        rw [hnone] at hfault
        cases hfault
      · simp only [hbusy, hstatus, Bool.not_false, Bool.true_and] at hf
        change Option.map _ (Progress.ending? (s.begin b "disconnect" Purpose.disconnect.required
          Purpose.disconnect.passage _).value.2) = _ at hf
        rw [heq, hport] at hf
        cases hf

end Orderly

/-- The end of an operation of a bearer is the end of a call of that bearer. -/
theorem returned?_answer {r : Running} {o : Owner} (hr : s.running? r.ticket = some r)
    (ho : r.owner = some o) (a : Answer) :
    s.returned? (.answer r.ticket a) =
      match (r.operation.resume r.cancelled a).value with
      | .ask .. => none
      | .done ending => some ⟨o.bearer, ending⟩ := by
  rw [returned?_of_advancing rfl]
  change ((((s.running? r.ticket).bind (·.owner)).map (·.bearer)).bind fun bearer =>
    (s.answer r.ticket a).value.2.ending?.map (Return.mk bearer)) = _
  rw [hr, Option.bind_some, ho]
  rcases answer_cases s r.ticket a with
    ⟨hnone, -⟩ | ⟨r', hr', ⟨request, op, hturn, heq⟩ | ⟨ending, hturn, heq⟩⟩
  · rw [hr] at hnone
    cases hnone
  · obtain rfl := Option.some.inj (hr.symm.trans hr')
    rw [heq, hturn]
    rfl
  · obtain rfl := Option.some.inj (hr.symm.trans hr')
    rw [heq, hturn]
    rfl

/-- A call to disconnect that waits for its command succeeds with the answer. -/
theorem Orderly.returned?_answer_disconnect (h : s.Orderly) {id : Nat} {r : Running}
    (hr : r ∈ s.operationsOf id) (hp : r.operation.purpose = .disconnect) (a : Answer) :
    s.returned? (.answer r.ticket a) = some ⟨id, .ok .disconnected⟩ := by
  obtain ⟨hmem, howner⟩ := mem_operationsOf.mp hr
  obtain ⟨o, ho, hid⟩ := Option.map_eq_some_iff.mp howner
  rw [returned?_answer (h.running?_eq hmem) ho, hid]
  cases hop : r.operation with
  | disconnecting t => rfl
  | _ => rw [hop] at hp; cases hp

/-! ### One operation at a time -/

/-- How a bearer stands to the operations at its station, to the calls that come next, and to
what its calls have returned in the run so far. -/
structure SingleFlight (moves : List Move) (s : Station) (returned : List Return) (b : Bearer) :
    Prop where
  /-- The bearer is busy exactly while one operation of it is under way. -/
  busy_iff : b.busy = true ↔ ∃ r, s.operationsOf b.id = [r]
  /-- Otherwise none is. -/
  idle_iff : b.busy = false ↔ s.operationsOf b.id = []
  /-- A cancellation reaches the operation under way, and nothing else. -/
  ticket : b.ticket = (s.operationsOf b.id).head?.map (·.ticket)
  connecting : b.status = .connecting ↔
    ∃ r ∈ s.operationsOf b.id, r.operation.purpose = .connect
  disconnecting : b.status = .disconnecting ↔
    ∃ r ∈ s.operationsOf b.id, r.operation.purpose = .disconnect
  connection_isSome : b.connection.isSome = true ↔
    b.status = .connected ∨ b.status = .disconnecting
  /-- The connection is the result of the latest success, unless that ended the session. -/
  connection : b.connection = lastConnection b.id returned
  /-- A call that comes while an operation is under way fails at once; it changes nothing, asks
  for no command and leaves no trace in the log. -/
  refused : b.busy = true → ∀ call ∈ calls b.id,
    s.perform call.1 = pure (s, some (.ended (.error (stillBusy call.2))))
  /-- A call to disconnect that fails at once has found another operation under way. -/
  disconnect_fails : ∀ f, s.returned? (.disconnect b.id) = some ⟨b.id, .error f⟩ → b.busy = true
  /-- A call to disconnect that has been admitted succeeds, whatever its command is answered. -/
  disconnect_ends : ∀ r ∈ s.operationsOf b.id, r.operation.purpose = .disconnect →
    ∀ a, s.returned? (.answer r.ticket a) = some ⟨b.id, .ok .disconnected⟩
  /-- No call has missed the data port, unless an answer said so in its place. -/
  port : ⟨b.id, .error noDataPort⟩ ∈ returned → ∃ ticket, .answer ticket (.error noDataPort) ∈ moves

/-- In every run, of any moves in any order and with any answers, no bearer has more than one
operation under way, and everything a bearer shows follows from that operation and from what
the calls before it have returned. -/
theorem Run.single_flight (modem : Modem) (moves : List Move) :
    ∀ b ∈ (Run.after modem moves).station.bearers,
      SingleFlight moves (Run.after modem moves).station (Run.after modem moves).returned b := by
  intro b hb
  have ho := Run.orderly modem moves
  have hphase := ho.phase b hb
  refine
    { busy_iff := hphase.busy_iff
      idle_iff := hphase.idle_iff
      ticket := hphase.ticket_eq
      connecting := hphase.status_eq_passage_iff (.inl rfl)
      disconnecting := hphase.status_eq_passage_iff (.inr rfl)
      connection_isSome := hphase.connection_isSome_iff
      connection := Run.reflects modem moves b hb
      refused := ho.refused_of_busy hb
      disconnect_fails := fun f => ho.busy_of_disconnect_fails hb
      disconnect_ends := fun r hr => ho.returned?_answer_disconnect hr
      port := fun hport => ?_ }
  -- The faults of a run are not missing ports, unless an answer is one.
  by_contra hnone
  have hne := Run.blames_returned modem moves (P := (· ≠ noDataPort))
    (fun f => ne_noDataPort_of_isInternal) (fun _ _ _ f => ne_noDataPort_of_refusal?)
    fun ticket f hf heq => hnone ⟨ticket, heq ▸ hf⟩
  exact hne _ hport noDataPort rfl rfl

/-- Moves that connect a bearer on an active context and begin to disconnect it. -/
def roundTrip : List Move :=
  [.create { cid := 1 }, .connect 0, .answer 0 (.ok "+CGACT: 1,1"), .answer 0 (.ok ""),
    .answer 0 (.ok ""), .answer 0 (.ok "+CGPADDR: 1,\"10.0.0.1\""), .answer 0 (.ok ""),
    .disconnect 0]

/-- A bearer that is being disconnected still has the connection it was brought. -/
theorem Run.single_flight_disconnecting :
    ∃ b ∈ (Run.after indexedModem roundTrip).station.bearers,
      b.status = .disconnecting ∧ b.connection.isSome = true ∧
        SingleFlight roundTrip (Run.after indexedModem roundTrip).station
          (Run.after indexedModem roundTrip).returned b := by
  have hexists : ∃ b ∈ (Run.after indexedModem roundTrip).station.bearers,
      b.status = .disconnecting ∧ b.connection.isSome = true := by decide +kernel
  obtain ⟨b, hb, hstatus, hconnection⟩ := hexists
  exact ⟨b, hb, hstatus, hconnection, Run.single_flight indexedModem roundTrip b hb⟩

end Station

end ModemLink
