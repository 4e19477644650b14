import ModemLink.Proofs.Port.CallEnds

/-!
# When a command is written after draining

A stale port writes the next command when draining is over, and not before. Draining is over with a
final result, or when nothing has come in for a while. This module tells the instant for the two
plain cases: lines that come in one soon after the other, of which the last is a final result, and
no input at all.

## Main definitions

* `Prompt`: lines that come in one soon after the other.
* `Concluding`: lines of which the last one, and no other, is a final result.
* `Port.WritesAt`: the command of a call is written at an instant.

## Main results

* `Intake.drain_of_clean`: draining up to any horizon, where it would be over at an instant.
* `Concluding.drainAll`, `Intake.drain_of_quiet`: the two cases.
* `Port.Vacant.writesAt`: a command is written when draining is over.
-/

namespace ModemLink

/-! ### Draining up to a horizon -/

namespace Intake

variable {i after : Intake} {deadline quietAt : Nat} {horizon : Horizon}

/-- Draining that waits beyond a horizon is over beyond it. -/
theorem Halts.not_admits_drain (h : i.Halts horizon (min quietAt deadline)) {far : Horizon}
    {drained : Drained} (hover : drained.limit? deadline = none)
    (hdrain : (i.drain deadline far quietAt).value = (after, drained)) :
    horizon.admits after.clock = false := by
  rw [Bool.eq_false_iff]
  intro hadmits
  have hwithin : (Horizon.before (after.clock + 1)).Within horizon := by
    intro u hu
    simp only [Horizon.admits, decide_eq_true_eq] at hu
    exact Horizon.admits_of_le hadmits (Nat.le_of_lt_succ hu)
  obtain ⟨hlimit, hawaits⟩ := (h.mono hwithin).of_before
  obtain ⟨hquiet, hdeadline⟩ := Nat.le_min.mp hlimit
  have hlater := (hawaits.drain_elapse hdeadline hquiet far).2
  rw [hdrain] at hlater
  exact absurd (hlater hover) (Nat.not_succ_le_self _)

/-- Where draining would find nothing left over at an instant, it does so within every horizon that
admits the instant, and is halted by any other. -/
theorem drain_of_clean (hclock : i.clock ≤ deadline) (hquiet : i.clock ≤ quietAt)
    (hclean : (i.drain deadline .unbounded quietAt).value = (after, .clean)) (horizon : Horizon) :
    (horizon.admits after.clock = true ∧
        (i.drain deadline horizon quietAt).value = (after, .clean)) ∨
      (horizon.admits after.clock = false ∧
        ∃ halted quietAt', (i.drain deadline horizon quietAt).value =
          (halted, .halted quietAt')) := by
  have hgoOn : (i.drain deadline horizon quietAt >>= Drained.goOn deadline .unbounded).value =
      (after, .clean) := by
    rw [drain_goOn horizon.within_unbounded, hclean]
  obtain ⟨-, hreaches⟩ := reaches_drain hclock hquiet horizon
  rw [Logged.value_bind] at hgoOn
  rcases hdrain : (i.drain deadline horizon quietAt).value with ⟨near, drained⟩
  rw [hdrain] at hgoOn hreaches
  cases drained with
  | clean =>
    obtain rfl : near = after := congrArg Prod.fst hgoOn
    exact .inl ⟨hreaches.ends rfl, rfl⟩
  | lost fault => cases hgoOn
  | expired => cases hgoOn
  | halted quietAt' =>
    have hhalts := hreaches.waits (min quietAt' deadline) rfl
    exact .inr ⟨hhalts.not_admits_drain rfl hgoOn, near, quietAt', rfl⟩

/-- Where nothing comes in for a while, draining is over after it. -/
theorem drain_of_quiet (hquiet : quietAt ≤ deadline)
    (hnone : ∀ a ∈ i.arrivals, quietAt < a.due) :
    (i.drain deadline .unbounded quietAt).value = (i.elapse quietAt, .clean) := by
  have hsilent : i.nextLine (drains quietAt deadline .unbounded) = (i, .silent) := by
    obtain ⟨clock, fragment, arrivals⟩ := i
    cases arrivals with
    | nil => rfl
    | cons a rest =>
      have hdue : quietAt < max a.due clock :=
        Nat.lt_of_lt_of_le (hnone a List.mem_cons_self) (Nat.le_max_left ..)
      rw [nextLine, readLine, if_neg]
      simp [drains, Nat.not_le.mpr hdue]
  rw [drain_eq, hsilent]
  simp [hquiet, Horizon.admits]

end Intake

/-! ### Lines in quick succession -/

/-- Each line comes in less than the quiet time after the one before, and the first one after an
instant. -/
def Prompt (t : Nat) : List DueLine → Prop
  | [] => True
  | line :: rest => line.due < t + quietTime ∧ Prompt line.due rest

/-- The last line is a final result, and no other one is. -/
def Concluding (lines : List DueLine) : Prop :=
  ∃ init last, lines = init ++ [last] ∧
    (∀ line ∈ init, FinalResult.ofLine? line.text = none) ∧
    (FinalResult.ofLine? last.text).isSome

namespace Concluding

variable {lines : List DueLine} {t deadline : Nat}

/-- Lines in quick succession are drained up to the final result. -/
theorem drainAll (h : Concluding lines) (hprompt : Prompt t lines)
    (hsorted : lines.Pairwise fun line line' => line.due ≤ line'.due)
    (hdue : Intake.HoldsFrom.last t lines ≤ deadline) :
    drainAll deadline (t + quietTime) lines = some ([], Intake.HoldsFrom.last t lines) := by
  obtain ⟨init, last, rfl, hinit, hlast⟩ := h
  induction init generalizing t with
  | nil =>
    obtain ⟨hsoon, -⟩ := hprompt
    have hdue' : last.due ≤ deadline := hdue
    rw [List.nil_append, ModemLink.drainAll, if_pos ⟨Nat.le_of_lt hsoon, hdue'⟩, if_pos hlast]
    rfl
  | cons line init ih =>
    rw [List.cons_append] at hprompt hsorted hdue ⊢
    obtain ⟨hsoon, hrest⟩ := hprompt
    obtain ⟨hline, hinit⟩ := List.forall_mem_cons.mp hinit
    obtain ⟨hfirst, hsorted⟩ := List.pairwise_cons.mp hsorted
    rw [Intake.HoldsFrom.last_cons] at hdue ⊢
    have hle : line.due ≤ deadline := by
      refine Nat.le_trans (hfirst last (by simp)) ?_
      simpa [Intake.HoldsFrom.last] using hdue
    rw [ModemLink.drainAll, if_pos ⟨Nat.le_of_lt hsoon, hle⟩, if_neg (by simp [hline])]
    exact ih hrest hsorted hdue hinit

end Concluding

/-! ### The instant of the write -/

namespace Port

variable {p : Port} {call : Call} {deadline quietAt : Nat} {horizon : Horizon}

/-- The command of a call that is made at an instant is written at another one, once. -/
def WritesAt (p : Port) (t : Nat) (call : Call) (now : Nat) : Prop :=
  ∀ u, t ≤ u → ((p.call t call).value.advance (.upTo u)).value.sent =
    if now ≤ u then p.sent ++ ["AT" ++ call.command.body ++ "\r"] else p.sent

@[simp] theorem sent_finish (p : Port) (call : Call) (answer : Answer) :
    (p.finish call answer).value.sent = p.sent := by
  rw [value_finish]

theorem sent_listen (p : Port) (horizon : Horizon) (call : Call) (deadline : Nat) (l : Listening) :
    (p.listen horizon call deadline l).value.sent = p.sent := by
  rw [listen, Logged.value_bind]
  rcases (p.intake.listen deadline horizon l).value with ⟨intake, heard⟩
  cases heard with
  | answer _ | expired => exact sent_finish ..
  | halted l => rfl

theorem sent_send {chunks : List Chunk} {rest : List Reaction}
    (hreactions : p.reactions = .sends chunks :: rest) (horizon : Horizon) (call : Call)
    (deadline : Nat) :
    (p.send horizon call deadline).value.sent =
      p.sent ++ ["AT" ++ call.command.body ++ "\r"] := by
  rw [send, hreactions]
  exact sent_listen ..

/-- A command is written when draining is over. -/
theorem sent_drain (hclock : p.clock ≤ deadline) (hquiet : p.clock ≤ quietAt) {chunks : List Chunk}
    {rest : List Reaction} (hreactions : p.reactions = .sends chunks :: rest) {after : Intake}
    (hclean : (p.intake.drain deadline .unbounded quietAt).value = (after, .clean))
    (horizon : Horizon) (call : Call) :
    (p.drain horizon call deadline quietAt).value.sent =
      if horizon.admits after.clock = true then p.sent ++ ["AT" ++ call.command.body ++ "\r"]
      else p.sent := by
  rw [drain, Logged.value_bind]
  rcases Intake.drain_of_clean hclock hquiet hclean horizon with
    ⟨hadmits, hdrain⟩ | ⟨hadmits, halted, quietAt', hdrain⟩
  · rw [hdrain, if_pos hadmits]
    exact sent_send (p := { p with intake := after }) hreactions ..
  · rw [hdrain, if_neg (by simp [hadmits])]
    rfl

/-- A call that gets a stale port drains first. -/
theorem value_take_of_stale (hstale : p.stale = true) (hcall : call.cancelled = false)
    (horizon : Horizon) :
    (p.take horizon call).value =
      (drain { p with stale := false } horizon call (p.clock + call.command.timeout.micros)
        (p.clock + quietTime)).value := by
  simp [take, hcall, hstale]

/-- On a stale port that nobody uses, a command is written when draining is over. -/
theorem Vacant.writesAt (h : p.Vacant) (hstale : p.stale = true) (hcall : call.cancelled = false)
    {t : Nat} (ht : p.clock ≤ t) {chunks : List Chunk} {rest : List Reaction}
    (hreactions : p.reactions = .sends chunks :: rest) {after : Intake}
    (hclean : ((p.elapse t).intake.drain (t + call.command.timeout.micros) .unbounded
      (t + quietTime)).value = (after, .clean)) : p.WritesAt t call after.clock := by
  intro u hu
  have hclock : (p.elapse t).clock = t := Nat.max_eq_right ht
  have hclock' (n : Nat) : Port.clock { p.elapse t with stale := false } ≤ t + n :=
    Nat.le_trans (Nat.le_of_eq hclock) (Nat.le_add_right ..)
  rw [h.value_call_advance call (Horizon.upTo_within_upTo hu),
    value_take_of_stale (p := p.elapse t) hstale hcall, hclock,
    sent_drain (hclock' _) (hclock' _) hreactions hclean]
  simp only [Horizon.admits, decide_eq_true_eq]
  rfl

end Port

end ModemLink
