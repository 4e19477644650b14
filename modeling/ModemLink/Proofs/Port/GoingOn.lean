import ModemLink.Proofs.Port.Halting

/-!
# A port that is halted

A port that is halted at a horizon and advanced from there has done what it would have done at
once: the law for the halves of an exchange carries over to the exchange, to a call that gets the
port, and to the calls that wait behind it. An exchange looks neither at the queue, so that calls
may join it in between, nor at the record of the calls that are over.

## Main definitions

* `Port.goOn`: the port goes on with the exchange it was halted in.
* `Port.among`: a port among other calls, which wait or are over.

## Main results

* `Port.take_goOn`: a call that gets the port, halted and taken up again.
* `Port.goOn_among`, `Port.take_among`: an exchange takes no notice of other calls.
* `Port.serve_advance`, `Port.advance_advance`: a port with its queue, halted and advanced again.
* `Port.active_serve`: a call that is served has the port, or nobody has.
-/

namespace ModemLink

namespace Port

variable {p : Port} {near far : Horizon}

/-- The port goes on with the exchange it was halted in, if there is one. -/
def goOn (horizon : Horizon) (p : Port) : Logged Port :=
  match p.active with
  | none => pure p
  | some x => { p with active := none }.resume horizon x

theorem goOn_of_idle (h : p.active = none) (horizon : Horizon) : p.goOn horizon = pure p := by
  rw [goOn, h]

@[simp] theorem active_record (p : Port) (ticket : Nat) (answer : Option Answer) :
    (p.record ticket answer).active = none := rfl

/-- A call that is over leaves the port idle. -/
theorem finish_goOn (p : Port) (call : Call) (answer : Answer) (horizon : Horizon) :
    p.finish call answer >>= goOn horizon = p.finish call answer := by
  cases answer with
  | ok text =>
    simp only [finish, bind_assoc, pure_bind, goOn_of_idle (active_record ..)]
  | error fault =>
    simp only [finish, bind_assoc, pure_bind, goOn_of_idle (active_record ..)]

/-- A port that is halted in an exchange goes on with that exchange. -/
theorem goOn_halted (h : p.active = none) (x : Exchange) (horizon : Horizon) :
    goOn horizon { p with active := some x } = p.resume horizon x := by
  have hp : { p with active := none } = p := by
    cases p
    cases h
    rfl
  change Port.resume { p with active := none } horizon x = _
  rw [hp]

/-! ### An exchange -/

section Idle

variable (hidle : p.active = none) (hwithin : near.Within far)
include hidle hwithin

theorem listen_goOn (call : Call) (deadline : Nat) (l : Listening) :
    p.listen near call deadline l >>= goOn far = p.listen far call deadline l := by
  simp only [listen, bind_assoc, ← Intake.listen_goOn (i := p.intake) hwithin]
  refine bind_congr fun ⟨intake, heard⟩ => ?_
  cases heard with
  | answer a => simp only [finish_goOn, Listened.goOn, pure_bind]
  | expired => simp only [finish_goOn, Listened.goOn, pure_bind]
  | halted l =>
    simp only [pure_bind, Listened.goOn]
    exact goOn_halted (p := { p with intake }) hidle ⟨call, deadline, .listening l⟩ far

theorem send_goOn (call : Call) (deadline : Nat) :
    p.send near call deadline >>= goOn far = p.send far call deadline := by
  simp only [send]
  split
  · exact listen_goOn (p := p.write call.command.body []) hidle hwithin ..
  · next chunks rest _ =>
    exact listen_goOn (p := { p with reactions := rest }.write call.command.body chunks) hidle
      hwithin ..
  · exact finish_goOn ..

theorem drain_goOn (call : Call) (deadline quietAt : Nat) :
    p.drain near call deadline quietAt >>= goOn far = p.drain far call deadline quietAt := by
  simp only [drain, bind_assoc, ← Intake.drain_goOn (i := p.intake) hwithin]
  refine bind_congr fun ⟨intake, drained⟩ => ?_
  cases drained with
  | clean =>
    simp only [Drained.goOn, pure_bind]
    exact send_goOn (p := { p with intake }) hidle hwithin call deadline
  | lost fault => simp only [finish_goOn, Drained.goOn, pure_bind]
  | expired => simp only [finish_goOn, Drained.goOn, pure_bind]
  | halted quietAt =>
    simp only [pure_bind, Drained.goOn]
    exact goOn_halted (p := { p with intake }) hidle ⟨call, deadline, .draining quietAt⟩ far

/-- An exchange that is halted twice and taken up again is one that is taken up once. -/
theorem resume_goOn (x : Exchange) : p.resume near x >>= goOn far = p.resume far x := by
  rw [resume, resume]
  cases x.stage with
  | draining quietAt => exact drain_goOn hidle hwithin ..
  | listening l => exact listen_goOn hidle hwithin ..

/-- A call that gets the port, halted and taken up again, has the port at once. -/
theorem take_goOn (call : Call) : p.take near call >>= goOn far = p.take far call := by
  simp only [take]
  split
  · rw [pure_bind, goOn_of_idle (active_record ..)]
  · simp only [bind_assoc]
    refine bind_congr fun _ => ?_
    split
    · exact drain_goOn (p := { p with stale := false }) hidle hwithin ..
    · exact send_goOn hidle hwithin call _

end Idle

/-! ### The queue and the record -/

/-- The port with other calls waiting, and with other calls on record before its own. -/
def among (queue : List Call) (es : List Ended) (p : Port) : Port :=
  { p with queue, ended := es ++ p.ended }

/-- The port with other calls waiting. -/
def withQueue (queue : List Call) (p : Port) : Port :=
  { p with queue }

@[simp] theorem active_withQueue (queue : List Call) (p : Port) :
    (p.withQueue queue).active = p.active := rfl

@[simp] theorem withQueue_withQueue (queue other : List Call) (p : Port) :
    (p.withQueue other).withQueue queue = p.withQueue queue := rfl

section Among

variable (queue : List Call) (es : List Ended)

theorem record_among (p : Port) (ticket : Nat) (answer : Option Answer) :
    (p.among queue es).record ticket answer = (p.record ticket answer).among queue es := by
  simp only [record, among, clock, List.append_assoc]

/-- The calls that wait and those that are over have no part in how another one ends. -/
theorem finish_among (p : Port) (call : Call) (answer : Answer) :
    (p.among queue es).finish call answer = among queue es <$> p.finish call answer := by
  cases answer with
  | ok text => exact Logged.ext (record_among queue es p call.ticket _) rfl
  | error fault =>
    exact Logged.ext
      (record_among queue es { p with stale := p.stale || isAbandonment fault } call.ticket _) rfl

theorem listen_among (p : Port) (horizon : Horizon) (call : Call) (deadline : Nat)
    (l : Listening) :
    (p.among queue es).listen horizon call deadline l =
      among queue es <$> p.listen horizon call deadline l := by
  simp only [listen, map_bind]
  refine bind_congr ?_
  rintro ⟨intake, heard⟩
  cases heard with
  | answer a => exact finish_among queue es { p with intake } call a
  | expired => exact finish_among queue es { p with intake } call (timeout call)
  | halted l => rfl

theorem send_among (p : Port) (horizon : Horizon) (call : Call) (deadline : Nat) :
    (p.among queue es).send horizon call deadline =
      among queue es <$> p.send horizon call deadline := by
  have hreactions : (p.among queue es).reactions = p.reactions := rfl
  simp only [send, hreactions]
  split
  · exact listen_among queue es (p.write call.command.body []) ..
  · next chunks rest _ =>
    exact listen_among queue es ({ p with reactions := rest }.write call.command.body chunks) ..
  · next reason rest _ => exact finish_among queue es { p with reactions := rest } ..

theorem drain_among (p : Port) (horizon : Horizon) (call : Call) (deadline quietAt : Nat) :
    (p.among queue es).drain horizon call deadline quietAt =
      among queue es <$> p.drain horizon call deadline quietAt := by
  simp only [drain, map_bind]
  refine bind_congr ?_
  rintro ⟨intake, drained⟩
  cases drained with
  | clean => exact send_among queue es { p with intake } horizon call deadline
  | lost fault => exact finish_among queue es { p with intake } call (.error fault)
  | expired => exact finish_among queue es { p with intake } call (timeout call)
  | halted quietAt => rfl

theorem resume_among (p : Port) (horizon : Horizon) (x : Exchange) :
    (p.among queue es).resume horizon x = among queue es <$> p.resume horizon x := by
  rw [resume, resume]
  cases x.stage with
  | draining quietAt => exact drain_among queue es p ..
  | listening l => exact listen_among queue es p ..

/-- An exchange goes on alike, whoever waits and whatever is on record. -/
theorem goOn_among (p : Port) (horizon : Horizon) :
    (p.among queue es).goOn horizon = among queue es <$> p.goOn horizon := by
  have hactive : (p.among queue es).active = p.active := rfl
  rw [goOn, goOn, hactive]
  cases p.active with
  | none => rfl
  | some x => exact resume_among queue es { p with active := none } horizon x

/-- A call gets the port alike, whoever waits and whatever is on record. -/
theorem take_among (p : Port) (horizon : Horizon) (call : Call) :
    (p.among queue es).take horizon call = among queue es <$> p.take horizon call := by
  simp only [take]
  split
  · exact congrArg pure (record_among queue es p call.ticket _)
  · simp only [map_bind]
    refine bind_congr fun _ => ?_
    have hstale : (p.among queue es).stale = p.stale := rfl
    rw [hstale]
    split
    · exact drain_among queue es { p with stale := false } ..
    · exact send_among queue es p ..

end Among

variable (queue : List Call)

theorem finish_withQueue (p : Port) (call : Call) (answer : Answer) :
    (p.withQueue queue).finish call answer = withQueue queue <$> p.finish call answer :=
  finish_among queue [] p call answer

theorem goOn_withQueue (p : Port) (horizon : Horizon) :
    (p.withQueue queue).goOn horizon = withQueue queue <$> p.goOn horizon :=
  goOn_among queue [] p horizon

theorem take_withQueue (p : Port) (horizon : Horizon) (call : Call) :
    (p.withQueue queue).take horizon call = withQueue queue <$> p.take horizon call :=
  take_among queue [] p horizon call

/-- Calls are served alike whatever else is noted to wait. -/
theorem serve_withQueue (p : Port) (horizon : Horizon) (calls : List Call) :
    serve horizon calls (p.withQueue queue) = serve horizon calls p := by
  induction calls generalizing p with
  | nil => rfl
  | cons call rest ih =>
    simp only [serve, take_withQueue, bind_map_left]
    refine bind_congr fun p' => ?_
    rw [active_withQueue]
    split
    · rfl
    · exact ih p'

/-! ### A port with its queue -/

/-- The port keeps an exchange that has not ended, and otherwise serves the calls that wait. -/
def orServe (horizon : Horizon) (calls : List Call) (p : Port) : Logged Port :=
  if p.active.isSome then pure (p.withQueue calls) else serve horizon calls p

theorem serve_cons (horizon : Horizon) (call : Call) (rest : List Call) (p : Port) :
    serve horizon (call :: rest) p = p.take horizon call >>= orServe horizon rest := rfl

/-- Advancing a port is going on with its exchange, and then with the calls that wait. -/
theorem advance_eq (p : Port) (horizon : Horizon) :
    p.advance horizon = p.goOn horizon >>= orServe horizon p.queue := by
  cases hactive : p.active with
  | none =>
    rw [goOn_of_idle hactive, pure_bind, orServe, advance]
    simp [hactive]
  | some x =>
    have hadvance : p.advance horizon = p.goOn horizon >>= fun p' =>
        if p'.active.isSome then pure p' else serve horizon p'.queue p' := by
      simp only [advance, goOn, hactive]
    -- An exchange leaves the queue as it is.
    have hqueue : p.goOn horizon = withQueue p.queue <$> p.goOn horizon :=
      goOn_withQueue p.queue p horizon
    rw [hadvance, hqueue]
    simp only [bind_map_left]
    refine bind_congr fun p' => ?_
    simp only [orServe, active_withQueue, withQueue_withQueue, serve_withQueue]
    rfl

/-- Calls that wait behind an exchange wait until it is taken up again. -/
theorem orServe_advance {calls : List Call}
    (hserve : p.active = none →
      (serve near calls p >>= fun p' => p'.advance far) = serve far calls p) :
    (orServe near calls p >>= fun p' => p'.advance far) = p.goOn far >>= orServe far calls := by
  by_cases hactive : p.active.isSome = true
  · rw [orServe, if_pos hactive, pure_bind, advance_eq, goOn_withQueue, bind_map_left]
    refine bind_congr fun p' => ?_
    simp only [orServe, active_withQueue, withQueue_withQueue, serve_withQueue]
    rfl
  · have hidle : p.active = none := by simpa using hactive
    rw [goOn_of_idle hidle, pure_bind, orServe, orServe, if_neg hactive, if_neg hactive]
    exact hserve hidle

/-- Calls that are served, halted and taken up again, are served at once. -/
theorem serve_advance (hidle : p.active = none) (hwithin : near.Within far) (calls : List Call) :
    (serve near calls p >>= fun p' => p'.advance far) = serve far calls p := by
  induction calls generalizing p with
  | nil =>
    have hadvance : (p.withQueue []).advance far = pure (p.withQueue []) := by
      rw [advance_eq, goOn_of_idle (p := p.withQueue []) hidle]
      simp [orServe, hidle, serve, withQueue]
    exact (pure_bind ..).trans hadvance
  | cons call rest ih =>
    rw [serve_cons, serve_cons, ← take_goOn hidle hwithin, bind_assoc, bind_assoc]
    exact bind_congr fun p' => orServe_advance ih

/-- What a port comes to does not depend on where it was halted. -/
theorem value_serve_advance (hidle : p.active = none) (hwithin : near.Within far)
    (calls : List Call) :
    ((serve near calls p).value.advance far).value = (serve far calls p).value := by
  rw [← serve_advance hidle hwithin, Logged.value_bind]

/-- A port that is advanced to a horizon, and then to a farther one, is advanced to that. -/
theorem advance_advance (hwithin : near.Within far) :
    (p.advance near >>= fun p' => p'.advance far) = p.advance far := by
  have hgoOn : p.goOn near >>= goOn far = p.goOn far := by
    cases hactive : p.active with
    | none => simp only [goOn_of_idle hactive, pure_bind]
    | some x =>
      simp only [goOn, hactive]
      exact resume_goOn (p := { p with active := none }) rfl hwithin x
  rw [advance_eq, advance_eq p far, bind_assoc, ← hgoOn, bind_assoc]
  exact bind_congr fun p' => orServe_advance fun hidle => serve_advance hidle hwithin p.queue

/-- A port that is free and that nobody waits for stays as it is. -/
theorem advance_of_idle (hidle : p.active = none) (hqueue : p.queue = []) (horizon : Horizon) :
    p.advance horizon = pure p := by
  have hp : p.withQueue [] = p := by rw [withQueue, ← hqueue]
  rw [advance_eq, goOn_of_idle hidle, pure_bind, hqueue, orServe]
  simp only [hidle, Option.isSome_none, Bool.false_eq_true, if_false]
  exact congrArg pure hp

/-- A call that comes when the port is free gets it. -/
theorem value_call_of_idle {t : Nat} {c : Call}
    (hidle : (p.advance (.upTo t)).value.active = none) :
    (p.call t c).value = (serve (.upTo t) [c] ((p.advance (.upTo t)).value.elapse t)).value := by
  have hidle' : ((p.advance (.upTo t)).value.elapse t).active = none := hidle
  rw [call, Logged.value_bind]
  simp only [hidle', Option.isSome_none, Bool.false_eq_true, if_false]

/-- An instant that has come already changes nothing. -/
theorem elapse_clock (p : Port) : p.elapse p.clock = p := by
  have hmax : max p.intake.clock p.intake.clock = p.intake.clock := Nat.max_self _
  simp only [elapse, clock, Intake.elapse, hmax]

/-! ### Who has the port -/

section Holder

variable (horizon : Horizon) (call : Call)

theorem active_finish (p : Port) (answer : Answer) :
    (p.finish call answer).value.active = none := by
  cases answer with
  | ok text => rfl
  | error fault => rfl

theorem active_listen (p : Port) (deadline : Nat) (l : Listening) :
    ∀ x ∈ (p.listen horizon call deadline l).value.active, x.call = call := by
  rw [listen, Logged.value_bind]
  match (p.intake.listen deadline horizon l).value with
  | (intake, .answer a) => simp [active_finish]
  | (intake, .expired) => simp [active_finish]
  | (intake, .halted l) => simp

theorem active_send (p : Port) (deadline : Nat) :
    ∀ x ∈ (p.send horizon call deadline).value.active, x.call = call := by
  rw [send]
  split
  · exact active_listen horizon call _ deadline _
  · exact active_listen horizon call _ deadline _
  · simp [active_finish]

theorem active_drain (p : Port) (deadline quietAt : Nat) :
    ∀ x ∈ (p.drain horizon call deadline quietAt).value.active, x.call = call := by
  rw [drain, Logged.value_bind]
  match (p.intake.drain deadline horizon quietAt).value with
  | (intake, .clean) => exact active_send horizon call { p with intake } deadline
  | (intake, .lost fault) => simp [active_finish]
  | (intake, .expired) => simp [active_finish]
  | (intake, .halted quietAt) => simp

/-- A call that is served has the port, or nobody has. -/
theorem active_serve (p : Port) :
    ∀ x ∈ (serve horizon [call] p).value.active, x.call = call := by
  have htake : ∀ x ∈ (p.take horizon call).value.active, x.call = call := by
    rw [take]
    split
    · simp
    · simp only [Logged.value_bind]
      split
      · exact active_drain horizon call { p with stale := false } _ _
      · exact active_send horizon call p _
  have hactive : (serve horizon [call] p).value.active = (p.take horizon call).value.active := by
    rw [serve_cons, Logged.value_bind, orServe]
    split <;> rfl
  rwa [hactive]

/-- Nobody waits behind a call that is served alone. -/
theorem queue_serve (p : Port) : (serve horizon [call] p).value.queue = [] := by
  rw [serve_cons, Logged.value_bind, orServe]
  split <;> rfl

end Holder

end Port

end ModemLink
