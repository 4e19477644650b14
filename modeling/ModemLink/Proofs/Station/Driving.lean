import ModemLink.Proofs.Operation.Play
import ModemLink.Proofs.Station.Reachable

/-!
# Driving an operation of a station

Driving an operation changes nothing of its station but the entry of the operation, until it
ends and its bearer is settled. So the rounds of the channel and the ending are those of the
operation played out by itself, and the station is left as if the operation had ended at once.

## Main definitions

* `Station.without`: the station where an operation is no longer under way.
* `Station.Stopped`: the station that an operation leaves where it stops.

## Main results

* `Station.drive_eq_play`: driving is playing.
* `Station.driveOn_enter`: what that means for a turn that a move has entered.
-/

namespace ModemLink

namespace Station

variable {σ ω : Type} {s : Station} {ticket : Nat} {r : Running}

/-! ### The entry of the operation -/

/-- The station where an operation is no longer under way. -/
def without (s : Station) (ticket : Nat) : Station :=
  { s with running := s.running.filter (·.ticket != ticket) }

/-- Rewriting the entry of one operation leaves the others. -/
theorem without_map {f : Running → Running} (hticket : ∀ q, (f q).ticket = q.ticket)
    (hf : ∀ q, q.ticket ≠ ticket → f q = q) :
    ({ s with running := s.running.map f } : Station).without ticket = s.without ticket := by
  simp only [without, mk.injEq, true_and, and_true, List.filter_map]
  have hcomp : ((fun q : Running => q.ticket != ticket) ∘ f) = fun q => q.ticket != ticket := by
    funext q
    simp [hticket q]
  rw [hcomp, List.map_congr_left (g := id), List.map_id]
  intro q hq
  exact hf q (by simpa using List.of_mem_filter hq)

theorem running?_map_running {f : Running → Running} (hticket : ∀ q, (f q).ticket = q.ticket) :
    ({ s with running := s.running.map f } : Station).running? ticket =
      (s.running? ticket).map f := by
  have hcomp : ((fun q : Running => q.ticket == ticket) ∘ f) = fun q => q.ticket == ticket := by
    funext q
    simp [hticket q]
  rw [running?, List.find?_map, hcomp]
  rfl

@[simp] theorem without_cancelIf (s : Station) (cancels : Bool) (ticket : Nat) :
    (s.cancelIf cancels ticket).without ticket = s.without ticket := by
  cases cancels with
  | false => rfl
  | true =>
    refine without_map (fun q => ?_) fun q hq => if_neg hq
    split <;> rfl

/-- An operation that is asked to stop remains under way. -/
theorem running?_cancelIf (h : s.running? ticket = some r) (cancels : Bool) :
    (s.cancelIf cancels ticket).running? ticket =
      some { r with cancelled := r.cancelled || cancels } := by
  cases cancels with
  | false => simpa [cancelIf] using h
  | true =>
    have hmap : (s.cancelTicket ticket).running? ticket = (s.running? ticket).map fun q =>
        if q.ticket = ticket then { q with cancelled := true } else q :=
      running?_map_running fun q => by split <;> rfl
    refine hmap.trans ?_
    rw [h, Option.map_some, if_pos (mem_of_running? h).2, Bool.or_true]

theorem isCancelled_eq (h : s.running? ticket = some r) :
    s.isCancelled ticket = r.cancelled := by
  simp [isCancelled, h]

/-! ### One round -/

theorem drive_of_blocked {channel : Channel σ ω} {state after : σ} {request : Request} {hold : ω}
    {log : List Event}
    (h : channel.ask state (s.isCancelled ticket) request = ⟨(after, .blocked hold), log⟩) :
    drive channel s state ticket request = ⟨(s, after, .blocked ticket request hold), log⟩ := by
  rw [drive]
  simp only [h]

theorem drive_of_waits {channel : Channel σ ω} {state after : σ} {request next : Request}
    {answer : Answer} {cancels : Bool} {log : List Event} {s' : Station} {other : Nat}
    (h : channel.ask state (s.isCancelled ticket) request =
      ⟨(after, .answered answer cancels), log⟩)
    (hanswer : ((s.cancelIf cancels ticket).answer ticket answer).value = (s', .waits other next)) :
    drive channel s state ticket request =
      ⟨(drive channel s' after other next).value,
        log ++ ((s.cancelIf cancels ticket).answer ticket answer).log ++
          (drive channel s' after other next).log⟩ := by
  rw [drive]
  simp only [h]
  split
  · next s'' other' next' heq =>
    obtain ⟨rfl, heq⟩ := Prod.mk.inj (heq.symm.trans hanswer)
    cases heq
    rfl
  · next s'' heq => cases heq.symm.trans hanswer
  · next s'' ending heq => cases heq.symm.trans hanswer

theorem drive_of_ended {channel : Channel σ ω} {state after : σ} {request : Request}
    {answer : Answer} {cancels : Bool} {log : List Event} {s' : Station} {ending : Ending}
    (h : channel.ask state (s.isCancelled ticket) request =
      ⟨(after, .answered answer cancels), log⟩)
    (hanswer : ((s.cancelIf cancels ticket).answer ticket answer).value = (s', .ended ending)) :
    drive channel s state ticket request =
      ⟨(s', after, .ended ending),
        log ++ ((s.cancelIf cancels ticket).answer ticket answer).log⟩ := by
  rw [drive]
  simp only [h]
  split
  · next s'' other' next' heq => cases heq.symm.trans hanswer
  · next s'' heq => cases heq.symm.trans hanswer
  · next s'' ending' heq =>
    obtain ⟨rfl, heq⟩ := Prod.mk.inj (heq.symm.trans hanswer)
    cases heq
    rfl

theorem log_answer (h : s.running? ticket = some r) (a : Answer) :
    (s.answer ticket a).log = (r.operation.resume r.cancelled a).log := by
  simp only [Station.answer, h, Logged.log_bind]
  cases (r.operation.resume r.cancelled a).value with
  | ask | done => simp

/-- An answer is logged as the operation logs it that gets it. -/
theorem log_perform_answer (h : s.running? ticket = some r) (a : Answer) :
    (s.perform (.answer ticket a)).log = (r.operation.resume r.cancelled a).log :=
  (List.append_nil _).trans (log_answer h a)

/-! ### Driving is playing -/

/-- What an operation leaves where it stops, given the rest of its station: it waits, or it is
over and its bearer settled. -/
def Stopped (rest : Station) (ticket : Nat) (owner : Option Owner) (s : Station) :
    Stop Ending ω → Prop
  | .blocked .. => s.without ticket = rest
  | .ended ending => s = rest.settle owner ending

/-- Driving an operation is playing it, with its station around it. -/
theorem drive_eq_play (channel : Channel σ ω) (state : σ) (request : Request)
    (h : s.running? ticket = some r) :
    ∃ s', (s.without ticket).Stopped ticket r.owner s'
        (Turn.play channel state r.cancelled (.ask request r.operation)).value.2 ∧
      drive channel s state ticket request =
        ⟨(s', (Turn.play channel state r.cancelled (.ask request r.operation)).value.1,
          ((Turn.play channel state r.cancelled (.ask request r.operation)).value.2.halt ticket)),
          (Turn.play channel state r.cancelled (.ask request r.operation)).log⟩ := by
  -- The induction is on the requests left; the station around the entry stays.
  induction hn : r.operation.rank using Nat.strongRecOn generalizing s r state request with
  | _ n ih =>
    match hask : channel.ask state r.cancelled request with
    | ⟨(after, .blocked hold), log⟩ =>
      refine ⟨s, ?_, ?_⟩
      · rw [Turn.play_ask_blocked hask]
        rfl
      · rw [Turn.play_ask_blocked hask, drive_of_blocked (by rw [isCancelled_eq h, hask])]
        rfl
    | ⟨(after, .answered answer cancels), log⟩ =>
      have hcancel := running?_cancelIf h cancels
      have hlog := log_answer hcancel answer
      have hask' : channel.ask state (s.isCancelled ticket) request =
          ⟨(after, .answered answer cancels), log⟩ := by rw [isCancelled_eq h, hask]
      rw [Turn.play_ask_answered hask]
      rcases answer_cases (s.cancelIf cancels ticket) ticket answer with
        ⟨hnone, -⟩ | ⟨r', hr', ⟨next, op, hturn, heq⟩ | ⟨ending, hturn, heq⟩⟩
      · cases hcancel.symm.trans hnone
      · obtain rfl := Option.some.inj (hcancel.symm.trans hr')
        have hwithout : ({ s.cancelIf cancels ticket with
            running := (s.cancelIf cancels ticket).running.map
              (broughtOn ticket next op) } : Station).without ticket = s.without ticket :=
          (without_map (ticket_broughtOn ticket next op) fun q hq => if_neg hq).trans
            (without_cancelIf ..)
        have hrunning : ({ s.cancelIf cancels ticket with
            running := (s.cancelIf cancels ticket).running.map
              (broughtOn ticket next op) } : Station).running? ticket =
            some { r with
              cancelled := r.cancelled || cancels, operation := op, request := next } := by
          rw [running?_map_running (ticket_broughtOn ticket next op), hcancel, Option.map_some,
            broughtOn_of_eq]
          exact (mem_of_running? h).2
        obtain ⟨s', hs', hdrive⟩ := ih op.rank (hn ▸ Operation.rank_lt_of_resume hturn) after next
          hrunning rfl
        refine ⟨s', ?_, ?_⟩
        · rw [hturn, ← hwithout]
          exact hs'
        · rw [drive_of_waits hask' heq, hdrive, hturn, hlog]
      · obtain rfl := Option.some.inj (hcancel.symm.trans hr')
        refine ⟨(s.without ticket).settle r.owner ending, ?_, ?_⟩
        · rw [hturn, Turn.play_done]
          rfl
        · have hsettle : ((s.cancelIf cancels ticket).answer ticket answer).value =
              ((s.without ticket).settle r.owner ending, .ended ending) := by
            rw [heq, ← without_cancelIf s cancels ticket]
            rfl
          rw [drive_of_ended hask' hsettle, hturn, Turn.play_done, hlog]
          simp [Stop.halt]

/-- Driving a turn that a move has entered is playing it. -/
theorem driveOn_enter (hlt : ∀ r ∈ s.running, r.ticket < s.nextTicket) (channel : Channel σ ω)
    (state : σ) (owner : Option Owner) (cancelled : Bool) (turn : Turn) (log : List Event) :
    ∃ s', ({ s with nextTicket := s.nextTicket + 1 } : Station).Stopped s.nextTicket owner s'
        (Turn.play channel state cancelled turn).value.2 ∧
      driveOn channel state ⟨s.enter owner cancelled turn, log⟩ =
        ⟨(s', (Turn.play channel state cancelled turn).value.1,
          ((Turn.play channel state cancelled turn).value.2.halt s.nextTicket)),
          log ++ (Turn.play channel state cancelled turn).log⟩ := by
  cases turn with
  | done ending =>
    rw [Turn.play_done]
    exact ⟨_, rfl, rfl⟩
  | ask request op =>
    have hne : ∀ r ∈ s.running, (r.ticket == s.nextTicket) = false := fun r hr =>
      beq_eq_false_iff_ne.mpr (Nat.ne_of_lt (hlt r hr))
    have hwithout : (s.enter owner cancelled (.ask request op)).1.without s.nextTicket =
        { s with nextTicket := s.nextTicket + 1 } := by
      have hfilter : s.running.filter (·.ticket != s.nextTicket) = s.running := by
        rw [List.filter_eq_self]
        intro r hr
        rw [bne, hne r hr]
        rfl
      simp [enter, without, List.filter_append, hfilter]
    have hrunning : (s.enter owner cancelled (.ask request op)).1.running? s.nextTicket =
        some { ticket := s.nextTicket, owner, cancelled, operation := op, request } := by
      have hnone : s.running.find? (·.ticket == s.nextTicket) = none := by
        rw [List.find?_eq_none]
        intro r hr
        rw [hne r hr]
        decide
      simp [enter, running?, List.find?_append, hnone]
    obtain ⟨s', hs', hdrive⟩ := drive_eq_play channel state request hrunning
    rw [hwithout] at hs'
    refine ⟨s', hs', ?_⟩
    have hon : driveOn channel state ⟨s.enter owner cancelled (.ask request op), log⟩ =
        ⟨(drive channel (s.enter owner cancelled (.ask request op)).1 state s.nextTicket
            request).value,
          log ++ (drive channel (s.enter owner cancelled (.ask request op)).1 state s.nextTicket
            request).log⟩ := rfl
    rw [hon, hdrive]

/-- A call that a bearer at rest admits enters its first turn. -/
theorem connect_eq_enter {id : Nat} {b : Bearer} (hb : s.bearer? id = some b)
    (hbusy : b.busy = false) (hstatus : b.status = .disconnected) :
    s.connect id =
      ⟨(s.update b.id fun _ => b.occupied .connect s.nextTicket).enter
          (some ⟨b.id, .disconnected⟩) false (Operation.connect s.modem b.profile).value,
        (s.connect id).log⟩ := by
  have hbegin : s.connect id =
      s.begin b "connect" .disconnected .connecting (Operation.connect s.modem b.profile) := by
    rw [connect, hb]
  rcases begin_cases s b "connect" .connect (Operation.connect s.modem b.profile) with
    ⟨fault, hrefusal, -⟩ | ⟨-, -, henter⟩
  · cases hrefusal.symm.trans (Bearer.refusal?_eq_none_iff.mpr ⟨hbusy, hstatus⟩)
  · refine Logged.ext ?_ rfl
    rw [hbegin]
    exact henter

end Station

end ModemLink
