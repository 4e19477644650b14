import ModemLink.Proofs.Port.Serving

/-!
# Commands one after the other

Commands are run on a port one after the other, with any time between them, and the modem answers
each in time. Then each command ends with the answer to it and not with that to another one. What
the answers are, how they are cut into pieces, and whether the modem echoes commands makes no
difference, where a command makes up a single line that does not end with white space, so that the
port knows its echo (`Command.IsLine.isEcho`). What carries this from one command to the next is
that the port is free after each: it has read the whole answer, and nothing else.

Source: the specification, section 10.2.

## Main definitions

* `Dispatch`: a command, and what the modem sends to answer it.
* `Port.dispatch`, `Port.dispatchAll`: a port after commands that were run on it.
* `Port.Answers`, `Port.Pairs`: commands end with their own answers.

## Main results

* `Port.Free.answers_dispatch`: one command on a free port.
* `Port.Free.pairs_dispatchAll`: any number of commands.
-/

namespace ModemLink

/-- A command that is called on a port some time after the one before, with the answer. -/
structure Dispatch where
  pause : Nat
  ticket : Nat
  command : Command
  delivery : Delivery command

namespace Port

/-- The port after a command is called on it, and has come to its end. -/
def dispatch (p : Port) (x : Dispatch) : Port :=
  ((p.call (p.clock + x.pause) ⟨x.ticket, x.command, false⟩).value.advance .unbounded).value

/-- The port after commands are run on it, one after the other. -/
def dispatchAll (p : Port) (xs : List Dispatch) : Port :=
  xs.foldl dispatch p

/-- A command has ended with the answer to it, in time and with nothing of the answer left over. -/
structure Answers (p : Port) (x : Dispatch) (p' : Port) : Prop where
  free : p'.Free
  sent : p'.sent = p.sent ++ ["AT" ++ x.command.body ++ "\r"]
  ended : ∃ time, p.clock + x.pause ≤ time ∧
    time ≤ p.clock + x.pause + x.command.timeout.micros ∧
    p'.ended = p.ended ++ [⟨x.ticket, some x.delivery.outcome, time⟩]

variable {p : Port}

/-- A port stays free while time passes. -/
theorem Free.elapse (h : p.Free) (now : Nat) : (p.elapse now).Free where
  active := h.active
  queue := h.queue
  stale := h.stale
  holds := h.holds.elapse (by simp)

/-- A call that comes later finds the port as if it had come at once. -/
theorem Free.value_call_elapse (h : p.Free) {now : Nat} (hnow : p.clock ≤ now) (c : Call) :
    (p.call now c).value = ((p.elapse now).call (p.elapse now).clock c).value := by
  have hclock : (p.elapse now).clock = now := Nat.max_eq_right hnow
  have hadvance {q : Port} (hq : q.Free) : (q.advance (.upTo now)).value = q := by
    rw [advance_of_idle hq.active hq.queue]
    rfl
  have helapsed : (p.elapse now).elapse now = p.elapse now := by
    have helapse := elapse_clock (p.elapse now)
    rwa [hclock] at helapse
  rw [hclock, value_call_of_idle (by rw [hadvance h]; exact h.active), hadvance h,
    value_call_of_idle (by rw [hadvance (h.elapse now)]; exact h.active), hadvance (h.elapse now),
    helapsed]

/-- A command that is called on a free port ends with the answer to it, and leaves the port free. -/
theorem Free.answers_dispatch (h : p.Free) (x : Dispatch) {rest : List Reaction}
    (hreactions : p.reactions = .sends x.delivery.chunks :: rest) :
    p.Answers x (p.dispatch x) ∧ (p.dispatch x).reactions = rest := by
  have hnow : p.clock ≤ p.clock + x.pause := Nat.le_add_right ..
  have hclock : (p.elapse (p.clock + x.pause)).clock = p.clock + x.pause := Nat.max_eq_right hnow
  let c : Call := ⟨x.ticket, x.command, false⟩
  obtain ⟨intake, hholds, hle, hdeadline, hvalue⟩ :=
    (h.elapse (p.clock + x.pause)).value_call (show c.cancelled = false from rfl) x.delivery
      hreactions
  rw [hclock] at hle hdeadline
  rw [dispatch, h.value_call_elapse hnow, hvalue]
  exact ⟨⟨⟨h.active, h.queue, h.stale, hholds⟩, rfl, intake.clock, hle, hdeadline, rfl⟩, rfl⟩

theorem dispatchAll_concat (p : Port) (xs : List Dispatch) (x : Dispatch) :
    p.dispatchAll (xs ++ [x]) = (p.dispatchAll xs).dispatch x := by
  rw [dispatchAll, List.foldl_append]
  rfl

/-- What a modem does that answers commands one after the other. -/
def reactionsTo (xs : List Dispatch) : List Reaction :=
  xs.map fun x => .sends x.delivery.chunks

/-- A port that commands are run on stays free, and the modem has answered them and no others. -/
theorem Free.dispatchAll (h : p.Free) (xs : List Dispatch) {rest : List Reaction}
    (hreactions : p.reactions = reactionsTo xs ++ rest) :
    (p.dispatchAll xs).Free ∧ (p.dispatchAll xs).reactions = rest := by
  induction xs generalizing p with
  | nil => exact ⟨h, hreactions⟩
  | cons x xs ih =>
    obtain ⟨hanswers, hrest⟩ := h.answers_dispatch x hreactions
    exact ih hanswers.free hrest

/-- What a run returns and writes is what its commands do, in their order. -/
theorem Free.account_dispatchAll (h : p.Free) (xs : List Dispatch) {rest : List Reaction}
    (hreactions : p.reactions = reactionsTo xs ++ rest) :
    ((p.dispatchAll xs).ended.map fun e => (e.ticket, e.answer)) =
        (p.ended.map fun e => (e.ticket, e.answer)) ++
          (xs.map fun x => (x.ticket, some x.delivery.outcome)) ∧
      (p.dispatchAll xs).sent = p.sent ++ xs.map fun x => "AT" ++ x.command.body ++ "\r" := by
  induction xs generalizing p with
  | nil => exact ⟨(List.append_nil _).symm, (List.append_nil _).symm⟩
  | cons x xs ih =>
    obtain ⟨hanswers, hrest⟩ := h.answers_dispatch x hreactions
    obtain ⟨hended, hsent⟩ := ih hanswers.free hrest
    obtain ⟨time, -, -, hlast⟩ := hanswers.ended
    refine ⟨hended.trans ?_, hsent.trans ?_⟩
    · rw [hlast, List.map_append, List.append_assoc]
      rfl
    · rw [hanswers.sent, List.append_assoc]
      rfl

/-- Commands and answers are paired: each command of a run ends with its own answer, and what the
whole run returns and writes is what its commands do, in their order. -/
structure Pairs (p : Port) (xs : List Dispatch) : Prop where
  each : ∀ before x later, xs = before ++ x :: later →
    (p.dispatchAll before).Answers x (p.dispatchAll (before ++ [x]))
  ended : (p.dispatchAll xs).ended.map (fun e => (e.ticket, e.answer)) =
    p.ended.map (fun e => (e.ticket, e.answer)) ++
      xs.map fun x => (x.ticket, some x.delivery.outcome)
  sent : (p.dispatchAll xs).sent =
    p.sent ++ xs.map fun x => "AT" ++ x.command.body ++ "\r"

/-- Commands that are run one after the other on a free port end with the answers that a modem sends
to them in time. -/
theorem Free.pairs_dispatchAll (h : p.Free) (xs : List Dispatch) {rest : List Reaction}
    (hreactions : p.reactions = reactionsTo xs ++ rest) : p.Pairs xs := by
  have heach (before : List Dispatch) (x : Dispatch) (later : List Dispatch)
      (hxs : xs = before ++ x :: later) :
      (p.dispatchAll before).Answers x (p.dispatchAll (before ++ [x])) := by
    rw [hxs, reactionsTo, List.map_append, List.append_assoc] at hreactions
    obtain ⟨hfree, hrest⟩ := h.dispatchAll before hreactions
    rw [dispatchAll_concat]
    exact (hfree.answers_dispatch x hrest).1
  obtain ⟨hended, hsent⟩ := h.account_dispatchAll xs hreactions
  exact ⟨heach, hended, hsent⟩

/-! ### A run of three commands -/

instance : DecidableEq Answer
  | .ok a, .ok b => decidable_of_iff (a = b) ⟨congrArg _, Except.ok.inj⟩
  | .error a, .error b => decidable_of_iff (a = b) ⟨congrArg _, Except.error.inj⟩
  | .ok _, .error _ => isFalse nofun
  | .error _, .ok _ => isFalse nofun

/-- An answer that is sent in two pieces, of which the first is sent at once. -/
def inTwoPieces (c : Command) (lines : List String) (final : String) (cut after : Nat)
    (hlines : ∀ text ∈ lines, lineFeed ∉ Text.Utf8.encode text.toList ∧
      (IsEcho c (Text.Utf8.encode text.toList) ∨ IsInfo (lineOf (Text.Utf8.encode text.toList))))
    (hfinal : lineFeed ∉ Text.Utf8.encode final.toList ∧
      (FinalResult.ofLine? (lineOf (Text.Utf8.encode final.toList))).isSome)
    (hafter : after ≤ c.timeout.micros) : Delivery c :=
  let raw := lines.map fun text => Text.Utf8.encode text.toList
  let bytes := (raw ++ [Text.Utf8.encode final.toList]).flatMap (· ++ [lineFeed])
  { chunks := [⟨0, .bytes (bytes.take cut)⟩, ⟨after, .bytes (bytes.drop cut)⟩]
    lines := raw
    final := Text.Utf8.encode final.toList
    encodes := by
      refine ⟨[bytes.take cut, bytes.drop cut], rfl, by simp [bytes], fun line hline => ?_⟩
      rcases List.mem_append.mp hline with hline | hline
      · obtain ⟨text, htext, rfl⟩ := List.mem_map.mp hline
        exact (hlines text htext).1
      · rw [List.mem_singleton.mp hline]
        exact hfinal.1
    closes := hfinal.2
    known := fun line hline => by
      obtain ⟨text, htext, rfl⟩ := List.mem_map.mp hline
      exact (hlines text htext).2
    inTime := by simpa [Chunk.span] using hafter }

/-- A modem that is asked for its addresses, told to go online, and told to activate a context. It
echoes the first command, and each of the answers ends in another way. -/
def threeDispatches : List Dispatch :=
  [⟨0, 1, .addressQuery 1,
      inTwoPieces (.addressQuery 1)
        ["AT+CGPADDR=1\r", " \r", "  +CREG: 5 \r", "+CGPADDR: 1,\"10.0.0.1\"\r"] " OK \r" 20 3000000
        (by decide +kernel) (by decide +kernel) (by decide +kernel)⟩,
    ⟨500, 2, .startFraming 1,
      inTwoPieces (.startFraming 1) ["\r"] "NO CARRIER\r" 5 7
        (by decide +kernel) (by decide +kernel) (by decide +kernel)⟩,
    ⟨0, 3, .setActivation true 1,
      inTwoPieces (.setActivation true 1) ["+CREG: 1"] "+CME ERROR: 50\r" 0 200
        (by decide +kernel) (by decide +kernel) (by decide +kernel)⟩]

/-- The answer to the first command is read to its end, so the second one does not get it. -/
theorem Free.pairs_dispatchAll_three :
    let p : Port := { name := "ttyACM0", reactions := reactionsTo threeDispatches }
    (p.dispatchAll threeDispatches).ended.map (fun e => (e.ticket, e.answer)) =
        [(1, some (.ok "+CREG: 5\r\n+CGPADDR: 1,\"10.0.0.1\"")), (2, some (.error .noCarrier)),
          (3, some (.error (.failed "+CME ERROR: 50")))] ∧
      (p.dispatchAll threeDispatches).sent =
        ["AT+CGPADDR=1\r", "AT+CGDATA=\"M-RAW_IP\",1\r", "AT+CGACT=1,1\r"] := by
  intro p
  have hpairs := Free.pairs_dispatchAll (p := p) ⟨rfl, rfl, rfl, .nil 0⟩ threeDispatches
    (List.append_nil _).symm
  rw [hpairs.ended, hpairs.sent]
  exact ⟨by decide +kernel, by decide +kernel⟩

end Port

end ModemLink
