import ModemLink.Proofs.Station.Orderly

/-!
# Steps of a station

What a move can do, said once: which station it leads to, and which call of a bearer comes to its
end by it. Calls of bearers differ in their purpose and in the first turn of the operation that
they begin, and in nothing else; an operation that is answered is brought on or ends.

## Main definitions

* `Station.Begins`, `Station.BeginsFree`: the moves by which operations begin.
* `Station.Step`: what a move can do.

## Main results

* `Station.begin_cases`: a call is refused and changes nothing, or it occupies its bearer.
* `Station.answer_cases`: an answer finds nobody, brings its operation on, or ends it.
* `Station.step`: every move is a step.
-/

namespace ModemLink

open Operation (Purpose)

namespace Bearer

/-- The bearer occupied by an operation of a purpose. -/
def occupied (b : Bearer) (p : Purpose) (ticket : Nat) : Bearer :=
  { b with busy := true, status := p.passage, ticket := some ticket }

/-- Why a bearer refuses an operation, if it does. -/
def refusal? (b : Bearer) (operation : String) (required : Status) : Option Fault :=
  if b.busy then
    some (.wrongState ("cannot " ++ operation ++ ": another operation is in progress"))
  else if b.status ≠ required then
    some (.wrongState ("cannot " ++ operation ++ ": bearer is " ++ b.status.name))
  else none

theorem refusal?_of_busy {b : Bearer} (h : b.busy = true) (operation : String)
    (required : Status) :
    b.refusal? operation required =
      some (.wrongState ("cannot " ++ operation ++ ": another operation is in progress")) := by
  simp [refusal?, h]

theorem refusal?_eq_none_iff {b : Bearer} {operation : String} {required : Status} :
    b.refusal? operation required = none ↔ b.busy = false ∧ b.status = required := by
  cases hb : b.busy <;> simp [refusal?, hb]

@[simp] theorem id_settle (b : Bearer) (previous : Status) (ending : Ending) :
    (b.settle previous ending).id = b.id := by
  match ending with
  | .error _ | .ok (.connected _) | .ok (.refreshed _) | .ok .disconnected
  | .ok (.dialed _) | .ok (.inspected _) | .ok .tornDown => rfl

end Bearer

namespace Station

/-! ### Calls and answers -/

/-- A call is refused and changes nothing, or it occupies its bearer and takes the first turn. -/
theorem begin_eq (s : Station) (b : Bearer) (name : String) (p : Purpose) (first : Logged Turn) :
    s.begin b name p.required p.passage first =
      match b.refusal? name p.required with
      | some fault => pure (s, .ended (.error fault))
      | none => do
        let turn ← first
        return (s.update b.id fun _ => b.occupied p s.nextTicket).enter
          (some ⟨b.id, p.required⟩) false turn := by
  cases hb : b.busy
  · by_cases hs : b.status = p.required
    · simp [begin, Bearer.occupy, Bearer.refusal?, Bearer.occupied, hb, hs]
    · simp [begin, Bearer.occupy, Bearer.refusal?, hb, hs]
  · simp [begin, Bearer.occupy, Bearer.refusal?, hb]

/-- A call of a bearer that does not refuse it has been admitted in the right status. -/
theorem begin_cases (s : Station) (b : Bearer) (name : String) (p : Purpose)
    (first : Logged Turn) :
    (∃ fault, b.refusal? name p.required = some fault ∧
      s.begin b name p.required p.passage first = pure (s, .ended (.error fault))) ∨
    (b.busy = false ∧ b.status = p.required ∧
      (s.begin b name p.required p.passage first).value =
        (s.update b.id fun _ => b.occupied p s.nextTicket).enter (some ⟨b.id, p.required⟩) false
          first.value) := by
  rw [begin_eq]
  cases hr : b.refusal? name p.required with
  | some fault => exact .inl ⟨fault, rfl, rfl⟩
  | none =>
    obtain ⟨hbusy, hstatus⟩ := Bearer.refusal?_eq_none_iff.mp hr
    exact .inr ⟨hbusy, hstatus, rfl⟩

/-- An operation that ends with its first turn leaves its bearer settled, and uses a ticket. -/
theorem enter_done (s : Station) {b busy : Bearer} (hid : busy.id = b.id) (previous : Status)
    (ending : Ending) :
    ((s.update b.id fun _ => busy).enter (some ⟨b.id, previous⟩) false (.done ending)).1 =
      (({ s with nextTicket := s.nextTicket + 1 }).update b.id fun _ =>
        busy.settle previous ending).reap b.id := by
  simp only [enter, Station.settle, conclude, update, List.map_map]
  congr 2
  refine List.map_congr_left fun b' _ => ?_
  by_cases hb : b'.id = b.id
  · simp [hb, hid]
  · simp [hb]

/-- The operation with a ticket, brought on to its next request. -/
def broughtOn (ticket : Nat) (request : Request) (operation : Operation) (r : Running) :
    Running :=
  if r.ticket = ticket then { r with operation, request } else r

@[simp] theorem ticket_broughtOn (ticket : Nat) (request : Request) (op : Operation)
    (r : Running) : (broughtOn ticket request op r).ticket = r.ticket := by
  rw [broughtOn]
  split <;> rfl

@[simp] theorem owner_broughtOn (ticket : Nat) (request : Request) (op : Operation)
    (r : Running) : (broughtOn ticket request op r).owner = r.owner := by
  rw [broughtOn]
  split <;> rfl

theorem broughtOn_of_eq {ticket : Nat} {r : Running} (h : r.ticket = ticket) (request : Request)
    (op : Operation) :
    broughtOn ticket request op r = { r with operation := op, request } :=
  if_pos h

/-- An answer finds nobody, brings its operation on, or ends it. -/
theorem answer_cases (s : Station) (ticket : Nat) (answer : Answer) :
    (s.running? ticket = none ∧ s.answer ticket answer = pure (s, .unknown)) ∨
    ∃ r, s.running? ticket = some r ∧
      ((∃ request op, (r.operation.resume r.cancelled answer).value = .ask request op ∧
        (s.answer ticket answer).value =
          ({ s with running := s.running.map (broughtOn ticket request op) },
            .waits ticket request)) ∨
      ∃ ending, (r.operation.resume r.cancelled answer).value = .done ending ∧
        (s.answer ticket answer).value =
          (({ s with running := s.running.filter (·.ticket != ticket) }).settle r.owner ending,
            .ended ending)) := by
  cases hr : s.running? ticket with
  | none => exact .inl ⟨rfl, by simp [Station.answer, hr]⟩
  | some r =>
    refine .inr ⟨r, rfl, ?_⟩
    cases ht : (r.operation.resume r.cancelled answer).value with
    | ask request op =>
      refine .inl ⟨request, op, rfl, ?_⟩
      simp only [Station.answer, hr, Logged.value_bind, ht, Logged.value_pure]
      rfl
    | done ending =>
      refine .inr ⟨ending, rfl, ?_⟩
      simp only [Station.answer, hr, Logged.value_bind, ht, Logged.value_pure]

/-! ### What a move can do -/

/-- A call of a bearer: the move, the name of the call, the purpose of the operation that it begins,
and the first turn of that operation. -/
inductive Begins (s : Station) (b : Bearer) : Move → String → Purpose → Logged Turn → Prop
  | connect : Begins s b (.connect b.id) "connect" .connect (Operation.connect s.modem b.profile)
  | refresh : Begins s b (.refresh b.id) "get IP config" .refresh
      (onPort b fun port => Operation.refresh port b.profile)
  | disconnect : Begins s b (.disconnect b.id) "disconnect" .disconnect
      (onPort b fun port => Operation.disconnect port b.profile.cid)

/-- A move that begins an operation of no bearer, which may have been asked to stop before. -/
inductive BeginsFree (s : Station) : Move → Bool → Logged Turn → Prop
  | dial (profile : Profile) (cancelled : Bool) :
      BeginsFree s (.dial profile cancelled) cancelled (Operation.dial s.modem profile cancelled)
  | inspect (port : DataPort) (cid : UInt32) (family : IpFamily) (cancelled : Bool) :
      BeginsFree s (.inspect port cid family cancelled) cancelled
        (Operation.inspect port cid family cancelled)
  | teardown (port : DataPort) (cid : UInt32) :
      BeginsFree s (.teardown port cid) false (Operation.teardown port cid)

/-- What a move can do to a station, and the call of a bearer that comes to its end by it. -/
inductive Step (s : Station) : Move → Station → Option Return → Prop
  /-- There is nobody or nothing that the move could reach. -/
  | unmoved (m : Move) : Step s m s none
  /-- A bearer comes. -/
  | created (profile : Profile) : Step s (.create profile)
      { s with
        bearers := s.bearers ++ [{ id := s.nextBearer, profile }]
        usedCids := profile.cid :: s.usedCids
        nextBearer := s.nextBearer + 1 } none
  | released (id : Nat) : Step s (.release id) (s.release id) none
  /-- A bearer refuses a call. -/
  | refused {b : Bearer} (mem : b ∈ s.bearers) {m : Move} {name : String} {p : Purpose}
      {first : Logged Turn} (begins : s.Begins b m name p first) {fault : Fault}
      (refusal : b.refusal? name p.required = some fault) :
      Step s m s (some ⟨b.id, .error fault⟩)
  /-- A bearer has no session to end. -/
  | rested {b : Bearer} (mem : b ∈ s.bearers) (busy : b.busy = false)
      (status : b.status = .disconnected) :
      Step s (.disconnect b.id) s (some ⟨b.id, .ok .disconnected⟩)
  /-- A call occupies its bearer, and waits for the answer to its first command. -/
  | occupied {b : Bearer} (mem : b ∈ s.bearers) {m : Move} {name : String} {p : Purpose}
      {first : Logged Turn} (begins : s.Begins b m name p first) (busy : b.busy = false)
      (status : b.status = p.required) {request : Request} {op : Operation}
      (turn : first.value = .ask request op) :
      Step s m ((s.update b.id fun _ => b.occupied p s.nextTicket).enter
        (some ⟨b.id, p.required⟩) false (.ask request op)).1 none
  /-- A call ends before it asks for anything. -/
  | finished {b : Bearer} (mem : b ∈ s.bearers) {m : Move} {name : String} {p : Purpose}
      {first : Logged Turn} (begins : s.Begins b m name p first) (busy : b.busy = false)
      (status : b.status = p.required) {ending : Ending} (turn : first.value = .done ending) :
      Step s m ((({ s with nextTicket := s.nextTicket + 1 }).update b.id fun _ =>
        (b.occupied p s.nextTicket).settle p.required ending).reap b.id) (some ⟨b.id, ending⟩)
  | entered {m : Move} {cancelled : Bool} {first : Logged Turn}
      (begins : s.BeginsFree m cancelled first) :
      Step s m (s.enter none cancelled first.value).1 none
  /-- An operation gets its answer and asks for the next one. -/
  | resumed {r : Running} (running : s.running? r.ticket = some r) {a : Answer}
      {request : Request} {op : Operation}
      (turn : (r.operation.resume r.cancelled a).value = .ask request op) :
      Step s (.answer r.ticket a)
        { s with running := s.running.map (broughtOn r.ticket request op) } none
  /-- An operation gets its answer and ends. -/
  | ended {r : Running} (running : s.running? r.ticket = some r) {a : Answer} {ending : Ending}
      (turn : (r.operation.resume r.cancelled a).value = .done ending) :
      Step s (.answer r.ticket a)
        ({ s with running := s.running.filter (·.ticket != r.ticket) }.settle r.owner ending)
        (r.owner.map fun o => ⟨o.bearer, ending⟩)
  /-- An operation is asked to stop. -/
  | asked (m : Move) (ticket : Nat) : Step s m (s.cancelTicket ticket) none
  | dropped {r : Running} (running : s.running? r.ticket = some r) :
      Step s (.abort r.ticket)
        ({ s with running := s.running.filter (·.ticket != r.ticket) }.conclude r.owner
          fun o b => b.restore o.previous) none

variable {s : Station}

/-- What begins on the port of a bearer is what begins on any port, or fails at once for the lack of
one. -/
theorem onPort_cases {P : Turn → Prop} (b : Bearer) {call : DataPort → Logged Turn}
    (hfails : ∀ fault, P (.done (.error fault))) (hcall : ∀ port, P (call port).value) :
    P (onPort b call).value := by
  rw [onPort]
  split
  · exact hfails _
  · exact hcall _

/-- No bearer begins a free operation. -/
theorem Begins.ne_free {b : Bearer} {m : Move} {name : String} {p : Purpose}
    {first : Logged Turn} (h : s.Begins b m name p first) : p ≠ .free := by
  cases h <;> decide

/-- A call that is begun is refused, waits, or ends with its first turn. -/
theorem Begins.step {b : Bearer} (hb : b ∈ s.bearers) {m : Move} {name : String} {p : Purpose}
    {first : Logged Turn} (h : s.Begins b m name p first) :
    let begun := (s.begin b name p.required p.passage first).value
    s.Step m begun.1 (begun.2.ending?.map (Return.mk b.id)) := by
  rcases begin_cases s b name p first with ⟨fault, hfault, heq⟩ | ⟨hbusy, hstatus, heq⟩
  · rw [heq]
    exact .refused hb h hfault
  · rw [heq]
    cases hturn : first.value with
    | ask request op => exact .occupied hb h hbusy hstatus hturn
    | done ending =>
      have hid : (b.occupied p s.nextTicket).id = b.id := rfl
      simp only [enter_done s hid]
      exact .finished hb h hbusy hstatus hturn

theorem step_answer (s : Station) (ticket : Nat) (a : Answer) :
    s.Step (.answer ticket a) (s.next (.answer ticket a)) (s.returned? (.answer ticket a)) := by
  rw [returned?_of_advancing rfl]
  change s.Step _ (s.answer ticket a).value.1
    ((((s.running? ticket).bind (·.owner)).map (·.bearer)).bind fun bearer =>
      (s.answer ticket a).value.2.ending?.map (Return.mk bearer))
  rcases answer_cases s ticket a with
    ⟨hr, heq⟩ | ⟨r, hr, ⟨request, op, hturn, heq⟩ | ⟨ending, hturn, heq⟩⟩
  · rw [heq, hr]
    exact .unmoved _
  · rw [heq, hr]
    obtain ⟨-, rfl⟩ := mem_of_running? hr
    simp only [Progress.ending?, Option.map_none, Option.bind_fun_none]
    exact .resumed hr hturn
  · rw [heq, hr]
    obtain ⟨-, rfl⟩ := mem_of_running? hr
    have hreturn : ((((some r).bind (·.owner)).map (·.bearer)).bind fun bearer =>
        (Progress.ended ending).ending?.map (Return.mk bearer)) =
          r.owner.map fun o => ⟨o.bearer, ending⟩ := by
      rw [Option.bind_some]
      cases r.owner <;> rfl
    rw [hreturn]
    exact .ended hr hturn

/-- Every move is a step. -/
theorem step (s : Station) (m : Move) : s.Step m (s.next m) (s.returned? m) := by
  have hquiet {m : Move} {s' : Station} (hm : s.callerOf? m = none) (h : s.Step m s' none) :
      s.Step m s' (s.returned? m) := by
    rwa [returned?_of_callerOf?_eq_none hm]
  cases m with
  | create profile =>
    refine hquiet rfl ?_
    change s.Step _ (s.create profile).value.1 none
    rw [create]
    split
    · exact .unmoved _
    · split
      · exact .unmoved _
      · exact .created profile
  | release id => exact hquiet rfl (.released id)
  | connect id =>
    rw [returned?_of_advancing rfl]
    change s.Step _ (s.connect id).value.1 ((s.connect id).value.2.ending?.map (Return.mk id))
    rw [connect]
    split
    · exact .unmoved _
    · next b hb =>
      obtain ⟨hmem, rfl⟩ := mem_of_bearer? hb
      exact Begins.step hmem .connect
  | refresh id =>
    rw [returned?_of_advancing rfl]
    change s.Step _ (s.refresh id).value.1 ((s.refresh id).value.2.ending?.map (Return.mk id))
    rw [refresh]
    split
    · exact .unmoved _
    · next b hb =>
      obtain ⟨hmem, rfl⟩ := mem_of_bearer? hb
      exact Begins.step hmem .refresh
  | disconnect id =>
    rw [returned?_of_advancing rfl]
    change s.Step _ (s.disconnect id).value.1
      ((s.disconnect id).value.2.ending?.map (Return.mk id))
    rw [disconnect]
    split
    · exact .unmoved _
    · next b hb =>
      obtain ⟨hmem, rfl⟩ := mem_of_bearer? hb
      split
      · next hidle =>
        rw [Bool.and_eq_true, Bool.not_eq_true', beq_iff_eq] at hidle
        exact .rested hmem hidle.1 hidle.2
      · exact Begins.step hmem .disconnect
  | cancel id =>
    refine hquiet rfl ?_
    change s.Step _ (s.cancel id) none
    rw [cancel]
    split
    · exact .unmoved _
    · exact .asked _ _
  | dial profile cancelled => exact hquiet rfl (.entered (.dial profile cancelled))
  | inspect port cid family cancelled =>
    exact hquiet rfl (.entered (.inspect port cid family cancelled))
  | teardown port cid => exact hquiet rfl (.entered (.teardown port cid))
  | answer ticket a => exact step_answer s ticket a
  | cancelTicket ticket => exact hquiet rfl (.asked _ ticket)
  | abort ticket =>
    refine hquiet rfl ?_
    change s.Step _ (s.abort ticket) none
    rw [abort]
    split
    · exact .unmoved _
    · next r hr =>
      obtain ⟨-, rfl⟩ := mem_of_running? hr
      exact .dropped hr

end Station

end ModemLink
