import ModemLink.Proofs.Port.CallOrder
import ModemLink.Proofs.Port.OwnAnswers

/-!
# The time of a command

The time of a command is counted from the instant at which it gets the port, however long it has
waited before. Whatever comes in meanwhile, whether the port is stale or not, the call is over when
this time is, and it times out at no other instant. And on a port that is not stale, a command whose
answer comes in as a whole ends with it at the instant at which the answer is complete.

Source: the specification, section 10.2.

## Main definitions

* `Port.Punctual`: the end of a call is due to its time or to its answer.
* `Port.EachPunctual`: calls on a port one after another, each of which is punctual.

## Main results

* `Port.InTurn.punctual`: calls one after another are punctual.
* `Port.runCalls_punctual`: calls on the bench are punctual.
-/

namespace ModemLink.Port

variable {p p' q : Port} {v : Visit} {visits : List Visit} {e : Ended} {es : List Ended}

/-- The end of a call that gets this port when it is free, or at its own instant if that is
later. -/
structure Punctual (p : Port) (v : Visit) (e : Ended) : Prop where
  /-- A call is over when its time is. -/
  inTime : e.time ≤ v.start p + v.call.command.timeout.micros
  /-- A call is not over before it gets the port, unless it is dropped before. -/
  since : (∀ t, v.droppedAt? = some t → v.start p ≤ t) → v.start p ≤ e.time
  /-- A call times out when its time is over, and says how long it has taken. -/
  timedOut : ∀ d, e.answer = some (.error (.timedOut d)) →
    d = v.call.command.timeout ∧ e.time = v.start p + v.call.command.timeout.micros
  /-- A call whose answer is complete in time, and before its caller withdraws, ends with it at that
  instant. -/
  answered : ∀ (a : OwnAnswer v.call.command) (lines later : List DueLine),
    p.Hears (v.start p) v.call lines later → lines.map DueLine.text = a.texts →
    Intake.HoldsFrom.last (v.start p) lines ≤ v.start p + v.call.command.timeout.micros →
    (∀ x ∈ v.withdrawals, Intake.HoldsFrom.last (v.start p) lines < x.1) →
    e = ⟨v.call.ticket, some a.reply, Intake.HoldsFrom.last (v.start p) lines⟩

/-- Calls are made on a port one after another, and each is punctual. -/
inductive EachPunctual : Port → List Visit → List Ended → Port → Prop
  | nil (p : Port) : EachPunctual p [] [] p
  | cons {p p' q : Port} {v : Visit} {later : List Visit} {e : Ended} {es : List Ended}
      (turn : InTurn p [v] [e] p') (punctual : Punctual p v e)
      (rest : EachPunctual p' later es q) : EachPunctual p (v :: later) (e :: es) q

/-! ### Calls that do not get the port -/

/-- An answer is not complete before the call for which it comes in is made. -/
theorem Hears.le_last {t : Nat} {call : Call} {lines later : List DueLine}
    (h : p.Hears t call lines later) : t ≤ Intake.HoldsFrom.last t lines := by
  obtain ⟨chunks, rest, -, hholds⟩ := h.reads
  refine Intake.HoldsFrom.le_last (Nat.le_refl t) fun line hline => ?_
  exact Nat.le_trans (Nat.le_max_right ..)
    (Intake.HoldsFrom.le_due hholds line (List.mem_append_left _ hline))

/-- A call whose caller withdraws before it gets the port does not end with an answer. -/
theorem Hears.not_withdrawn {call : Call} {t : Nat} {lines later : List DueLine}
    (h : p.Hears t call lines later) {withdrawals : List (Nat × Withdrawal)}
    (hlater : ∀ x ∈ withdrawals, Intake.HoldsFrom.last t lines < x.1) {w : Withdrawal} {u : Nat}
    (hfind : (withdrawals.find? (·.2 == w)).map (·.1) = some u) : t < u :=
  Nat.lt_of_le_of_lt h.le_last (lt_of_find? hlater hfind)

theorem punctual_of_dropped {t : Nat} (hdrop : v.droppedAt? = some t) (hwaits : t ≤ v.start p) :
    Punctual p v ⟨v.call.ticket, none, t⟩ where
  inTime := Nat.le_trans hwaits (Nat.le_add_right ..)
  since h := h t hdrop
  timedOut := by rintro d ⟨⟩
  answered a lines later hhears htexts _ hlater :=
    absurd hwaits (Nat.not_le.mpr (hhears.not_withdrawn hlater hdrop))

theorem punctual_of_cancelled
    (hcancel : v.call.cancelled = true ∨ ∃ t, v.cancelledAt? = some t ∧ t ≤ v.start p) :
    Punctual p v ⟨v.call.ticket, some (.error .canceled), v.start p⟩ where
  inTime := Nat.le_add_right ..
  since _ := Nat.le_refl _
  timedOut := by rintro d ⟨⟩
  answered a lines later hhears htexts _ hlater := by
    rcases hcancel with hcancel | ⟨t, hat, ht⟩
    · cases hhears.asked.symm.trans hcancel
    · exact absurd ht (Nat.not_le.mpr (hhears.not_withdrawn hlater hat))

/-! ### Calls that have the port -/

theorem punctual_of_served (hp : p.Vacant) (hnone : p.ended = []) {answer : Option Answer}
    (hasked : v.call.cancelled = false)
    (hconcludes : Concludes v.call.ticket v.withdrawals (p.call (v.start p) v.call).value p')
    (hended : p'.ended = [⟨v.call.ticket, answer, p'.clock⟩])
    (hinTime : p'.clock ≤ v.start p + v.call.command.timeout.micros) :
    Punctual p v ⟨v.call.ticket, answer, p'.clock⟩ := by
  have hstart : p.clock ≤ v.start p := Nat.le_max_left ..
  have htenure := hconcludes.tenure (hp.tenure_call hnone hstart hasked)
  refine ⟨hinTime, fun _ => htenure.since, ?_, ?_⟩
  · rintro d rfl
    obtain ⟨answer, hover, hgiven⟩ := htenure.ends (htenure.active_eq hended)
    obtain ⟨-, rfl, -⟩ := Ended.mk.inj (List.cons.inj (hended.symm.trans hover)).1
    obtain ⟨-, hfault⟩ := hgiven (.timedOut d) rfl rfl
    rcases hfault with hfault | ⟨hfault, hclock⟩
    · cases hfault
    · exact ⟨Fault.timedOut.inj hfault, hclock⟩
  · intro a lines later hhears htexts hdue hlater
    obtain ⟨intake, hclock, -, hsettle⟩ :=
      hhears.value_settle (htexts.symm ▸ a.completes) a.not_abandons_reply
    have hdeadline : p.deadlineOf (v.start p) v.call =
        v.start p + v.call.command.timeout.micros := by
      rw [deadlineOf, show (p.elapse (v.start p)).clock = v.start p from Nat.max_eq_right hstart]
    rw [hdeadline, Nat.min_eq_left hdue] at hclock hsettle
    rw [if_pos hdue, hnone, List.nil_append] at hsettle
    have hover : p' = settle [(v.start p, .call v.call)] p := by
      refine hp.eq_settle hstart (fun x hx => ?_) hconcludes
      rw [hsettle]
      exact hclock ▸ hlater x hx
    rw [hover, hsettle] at hended
    rw [hover, hsettle]
    exact (List.cons.inj hended).1.symm

/-! ### Calls one after another -/

/-- Calls that are made one after another are punctual. -/
theorem InTurn.punctual (hp : p.Vacant) (hended : p.ended = []) (h : InTurn p visits es q) :
    EachPunctual p visits es q := by
  induction h with
  | nil p => exact .nil p
  | dropped drop waits rest ih =>
    exact .cons (.dropped drop waits (.nil _)) (punctual_of_dropped drop waits) (ih hp hended)
  | cancelled cancel stays rest ih =>
    exact .cons (.cancelled cancel stays (.nil _)) (punctual_of_cancelled cancel)
      (ih ⟨hp.active, hp.queue⟩ hended)
  | served asked stays concludes ended inTime rest ih =>
    have hpunctual := punctual_of_served hp hended asked concludes ended inTime
    have htenure := concludes.tenure (hp.tenure_call hended (Nat.le_max_left ..) asked)
    exact .cons (.served asked stays concludes ended inTime (.nil _)) hpunctual
      (ih ⟨htenure.active_eq ended, rfl⟩ rfl)

/-- Calls that are made on a port that nobody uses, in whichever state it is and whatever comes in,
are punctual, each counted from the instant at which it gets the port. -/
theorem runCalls_punctual (hp : p.Vacant) (attempts : List Bench.Attempt) :
    (Bench.runCalls p attempts).value.Vacant ∧
      ∃ es, EachPunctual p.bare (visitsOf (Bench.schedule p.clock attempts)) es
          (Bench.runCalls p attempts).value.bare ∧
        (Bench.runCalls p attempts).value.ended.Perm (p.ended ++ es) := by
  have hserially := serially_settle hp Bench.le_of_mem_schedule
    (Bench.pairwise_schedule p.clock attempts) (Bench.nodup_ticketsOf p.clock attempts)
  rw [← value_runCalls] at hserially
  obtain ⟨hvacant, es, hturns, hperm⟩ := hserially
  exact ⟨hvacant, es, hturns.punctual ⟨hp.active, rfl⟩ rfl, hperm⟩

/-- A stale port on which a late final result comes in, and a modem that answers once. -/
def sparing : Port where
  name := "ttyACM0"
  stale := true
  intake := { arrivals := [⟨150000, .byte 0x4F⟩, ⟨150000, .byte 0x4B⟩, ⟨150000, .byte 0x0A⟩] }
  reactions := [.sends [⟨100000, .bytes [0x4F, 0x4B, 0x0D, 0x0A]⟩]]

/-- Two queries, the second of which waits for the first. -/
def impatient : List Bench.Attempt :=
  [{ command := ⟨"+CGACT?", .ofMillis 500, false⟩ },
    { command := ⟨"+XDNS?", .ofMillis 300, false⟩, startAt := 100000 }]

/-- The first query is over when its answer is complete. The second times out, as long after that as
its time is. -/
theorem runCalls_punctual_sparing :
    sparing.Vacant ∧
      (∃ es, EachPunctual sparing.bare (visitsOf (Bench.schedule sparing.clock impatient)) es
          (Bench.runCalls sparing impatient).value.bare ∧
        (Bench.runCalls sparing impatient).value.ended.Perm (sparing.ended ++ es)) ∧
      (Bench.runCalls sparing impatient).value.ended =
        [⟨0, some (.ok ""), 250000⟩,
          ⟨1, some (.error (.timedOut (.ofMillis 300))), 550000⟩] :=
  ⟨⟨rfl, rfl⟩, (runCalls_punctual ⟨rfl, rfl⟩ impatient).2, by cbv⟩

end ModemLink.Port
