import ModemLink.Proofs.Port.Answers
import ModemLink.Proofs.Port.TwoRuns

/-!
# An echo that comes late

A modem echoes a command when its time is over, and another command is called later. The port
discards the echo before it sends the second command, and shows it in the log as a stale line,
whatever the first command carries.

## Main results

* `Port.log_play_lateEcho`: what is logged of the two commands, the echo of the first included.
* `Port.log_play_lateEcho_ne`: the log tells twins apart.
* `Port.modemsAkin_lateEcho`: two modems that echo late the commands of a pair do the same.
-/

namespace ModemLink

variable {pairs : Command → Command → Prop}

/-- Bytes that can be read at once, up to the end of a line, are read as one line. -/
theorem Intake.readLine_of_due {admits : Nat → Bool} {clock due : Nat}
    (hclock : admits clock = true) (hdue : due ≤ clock) {fragment bytes : List UInt8}
    (hbytes : lineFeed ∉ bytes) (rest : List Arrival) :
    Intake.readLine admits clock fragment ((bytes ++ [lineFeed]).map (⟨due, .byte ·⟩) ++ rest) =
      (⟨clock, [], rest⟩, .line (lineOf (fragment ++ bytes))) := by
  induction bytes generalizing fragment with
  | nil => simp [Intake.readLine, Nat.max_eq_right hdue, hclock]
  | cons b bytes ih =>
    rw [List.mem_cons, not_or] at hbytes
    have hrest := @ih (fragment ++ [b]) hbytes.2
    simpa [Intake.readLine, Nat.max_eq_right hdue, hclock, Ne.symm hbytes.1] using hrest

/-- Nobody listens after the deadline. -/
theorem Intake.not_listens {deadline t : Nat} {horizon : Horizon} (h : deadline < t) :
    Intake.listens deadline horizon t ≠ true := by
  simp [Intake.listens, Nat.not_le.mpr h]

namespace Port

/-- What the modem sends: it echoes the command at an instant, and sends nothing else. -/
def lateEcho (due : Nat) (c : Command) : List Chunk :=
  [⟨due, .bytes (c.written ++ [lineFeed])⟩]

/-- The port of such a modem. -/
def lateEchoPort (name : String) (due : Nat) (c : Command) : Port :=
  { name, reactions := [.sends (lateEcho due c)] }

/-- The command is called, and another one later. -/
def lateEchoActs (now : Nat) (c : Command) : List Act :=
  [.move 0 (.call ⟨0, c, false⟩), .move now (.call ⟨1, .activationQuery, false⟩)]

/-- What is unread at an instant before the echo is read. -/
def unreadEcho (clock due : Nat) (c : Command) : Intake :=
  { clock, arrivals := Chunk.arrivals 0 (lateEcho due c) }

/-- The port while it waits for the echo. -/
def awaitingEcho (name : String) (due : Nat) (c : Command) : Port :=
  { name, intake := unreadEcho 0 due c, sent := ["AT" ++ c.body ++ "\r"],
    active := some ⟨⟨0, c, false⟩, c.timeout.micros, .listening (.toCommand c.body)⟩ }

/-- The port at an instant when the time of the command is over. -/
def withoutEcho (name : String) (clock due : Nat) (c : Command) : Port :=
  { name, intake := unreadEcho clock due c, stale := true,
    ended := [⟨0, some (timeout ⟨0, c, false⟩), c.timeout.micros⟩],
    sent := ["AT" ++ c.body ++ "\r"] }

section LateEcho

variable (name : String) {due now : Nat} {c : Command}

/-- Before its instant, the echo is not read. -/
theorem nextLine_unreadEcho {admits : Nat → Bool} {clock : Nat} (hclock : clock ≤ due)
    (h : admits due ≠ true) :
    (unreadEcho clock due c).nextLine admits = (unreadEcho clock due c, .silent) := by
  obtain ⟨b, bytes, hwritten⟩ := List.exists_cons_of_ne_nil c.written_ne_nil
  have harrivals : (unreadEcho clock due c).arrivals =
      ⟨due, .byte b⟩ :: (bytes ++ [lineFeed]).map (⟨due, .byte ·⟩) := by
    simp [unreadEcho, lateEcho, Chunk.arrivals, Content.arrivals, hwritten]
  have hnow : max due (unreadEcho clock due c).clock = due := Nat.max_eq_left hclock
  rw [Intake.nextLine, harrivals, Intake.readLine, hnow, if_neg h, ← harrivals]

/-- The command is sent, and nothing comes in. -/
theorem call_lateEcho (htimeout : 0 < c.timeout.micros) (hdue : c.timeout.micros < due) :
    (lateEchoPort name due c).call 0 ⟨0, c, false⟩ =
      ⟨awaitingEcho name due c, [.commandSent name c.loggable c.timeout]⟩ := by
  have hread : (unreadEcho 0 due c).nextLine (Intake.listens c.timeout.micros (.upTo 0)) =
      (unreadEcho 0 due c, .silent) :=
    nextLine_unreadEcho (Nat.zero_le due) (Intake.not_listens hdue)
  have hdeadline : (Horizon.upTo 0).admits c.timeout.micros = false := by
    simp only [Horizon.admits, decide_eq_false_iff_not]
    omega
  have hlisten : (unreadEcho 0 due c).listen c.timeout.micros (.upTo 0) (.toCommand c.body) =
      pure (unreadEcho 0 due c, .halted (.toCommand c.body)) := by
    rw [Intake.listen_eq, hread]
    simp only [hdeadline]
    rfl
  have henqueue : Intake.enqueue {} (Chunk.arrivals 0 (lateEcho due c)) = unreadEcho 0 due c := by
    simp [Intake.enqueue, unreadEcho]
  have hsend : (lateEchoPort name due c).send (.upTo 0) ⟨0, c, false⟩ c.timeout.micros =
      pure (awaitingEcho name due c) := by
    simp only [send, lateEchoPort, write, clock, henqueue, Port.listen, hlisten, pure_bind]
    rfl
  have hstale : (lateEchoPort name due c).stale = false := rfl
  have hclock : (lateEchoPort name due c).clock = 0 := rfl
  have htake : (lateEchoPort name due c).take (.upTo 0) ⟨0, c, false⟩ =
      ⟨awaitingEcho name due c, [.commandSent name c.loggable c.timeout]⟩ := by
    simp only [take, hstale, hclock, Nat.zero_add, hsend]
    rfl
  rw [Port.call, advance_of_idle rfl rfl, pure_bind]
  change serve (.upTo 0) [⟨0, c, false⟩] (lateEchoPort name due c) = _
  rw [serve_cons, htake]
  rfl

/-- Its time is over before the echo comes in. -/
theorem advance_awaitingEcho (hdue : c.timeout.micros < due) (hnow : due ≤ now) :
    (awaitingEcho name due c).advance (.upTo now) =
      ⟨withoutEcho name c.timeout.micros due c,
        [.commandFailed name c.loggable (.timedOut c.timeout)]⟩ := by
  have hread : (unreadEcho 0 due c).nextLine (Intake.listens c.timeout.micros (.upTo now)) =
      (unreadEcho 0 due c, .silent) :=
    nextLine_unreadEcho (Nat.zero_le due) (Intake.not_listens hdue)
  have hdeadline : (Horizon.upTo now).admits c.timeout.micros = true := by
    simp only [Horizon.admits, decide_eq_true_eq]
    omega
  have helapse : (unreadEcho 0 due c).elapse c.timeout.micros =
      unreadEcho c.timeout.micros due c := by
    simp [Intake.elapse, unreadEcho]
  have hlisten : (unreadEcho 0 due c).listen c.timeout.micros (.upTo now) (.toCommand c.body) =
      pure (unreadEcho c.timeout.micros due c, .expired) := by
    rw [Intake.listen_eq, hread]
    simp only [hdeadline, if_true, helapse]
  have hgoOn : (awaitingEcho name due c).goOn (.upTo now) =
      ⟨withoutEcho name c.timeout.micros due c,
        [.commandFailed name c.loggable (.timedOut c.timeout)]⟩ := by
    simp only [goOn, awaitingEcho, resume, Port.listen, hlisten, pure_bind]
    rfl
  rw [advance_eq, hgoOn]
  rfl

/-- The echo is discarded, and no other line comes in. -/
theorem drain_unreadEcho (hline : lineFeed ∉ c.written) (hnow : due ≤ now) {deadline : Nat}
    (hdeadline : now + quietTime ≤ deadline) :
    (unreadEcho now due c).drain deadline (.upTo now) (now + quietTime) =
      ⟨({ clock := now }, .halted (now + quietTime)), [.staleLine c.echoLine]⟩ := by
  have hdrains : Intake.drains (now + quietTime) deadline (.upTo now) now = true := by
    simp [Intake.drains, Horizon.admits]
    omega
  have hread :
      (unreadEcho now due c).nextLine (Intake.drains (now + quietTime) deadline (.upTo now)) =
        ({ clock := now }, .line c.echoLine) := by
    have harrivals : (unreadEcho now due c).arrivals =
        (c.written ++ [lineFeed]).map (⟨due, .byte ·⟩) ++ [] := by
      simp [unreadEcho, lateEcho, Chunk.arrivals, Content.arrivals]
    rw [Intake.nextLine, harrivals, ← c.lineOf_written]
    exact Intake.readLine_of_due hdrains hnow hline []
  have hresult : (FinalResult.ofLine? c.echoLine).isSome = false := by
    rw [Listening.ofLine?_of_opens c.opensWith_echoLine]
    rfl
  have hrest : ({ clock := now } : Intake).drain deadline (.upTo now) (now + quietTime) =
      pure ({ clock := now }, .halted (now + quietTime)) := by
    have hquiet : (Horizon.upTo now).admits (now + quietTime) = false :=
      decide_eq_false (by rw [quietTime]; omega)
    rw [Intake.drain_eq]
    change (if now + quietTime ≤ deadline then _ else _) = _
    rw [if_pos hdeadline, hquiet]
    rfl
  rw [Intake.drain_eq, hread]
  simp only [hresult, hrest]
  rfl

/-- The next command finds the echo left behind. -/
theorem take_withoutEcho (hline : lineFeed ∉ c.written) (hnow : due ≤ now) :
    ((withoutEcho name now due c).take (.upTo now) ⟨1, .activationQuery, false⟩).log =
        [.commandSent name "+CGACT?" Command.shortTimeout, .staleLine c.echoLine] ∧
      Write.watch.ofTake (withoutEcho name now due c) (.upTo now) ⟨1, .activationQuery, false⟩ =
        [] := by
  have hclock : (withoutEcho name now due c).clock = now := rfl
  have hstale : (withoutEcho name now due c).stale = true := rfl
  have hintake : (withoutEcho name now due c).intake = unreadEcho now due c := rfl
  have hdrain := drain_unreadEcho hline hnow
    (Nat.add_le_add_left (by decide : quietTime ≤ Command.activationQuery.timeout.micros) now)
  constructor
  · simp only [take, hstale, hclock, Port.drain, hintake, hdrain]
    rfl
  · simp only [Watch.ofTake, hstale, hclock, Watch.ofDrain, hintake, hdrain]
    rfl

theorem elapse_withoutEcho (hdue : c.timeout.micros < due) (hnow : due ≤ now) :
    (withoutEcho name c.timeout.micros due c).elapse now = withoutEcho name now due c := by
  have hmax : max c.timeout.micros now = now := by omega
  simp only [elapse, withoutEcho, unreadEcho, Intake.elapse, hmax]

/-- The second call: the first command has failed, and its echo is shown. -/
theorem call_awaitingEcho (hline : lineFeed ∉ c.written) (hdue : c.timeout.micros < due)
    (hnow : due ≤ now) :
    ((awaitingEcho name due c).call now ⟨1, .activationQuery, false⟩).log =
        [.commandFailed name c.loggable (.timedOut c.timeout),
          .commandSent name "+CGACT?" Command.shortTimeout, .staleLine c.echoLine] ∧
      Write.watch.ofCall (awaitingEcho name due c) now ⟨1, .activationQuery, false⟩ = [] := by
  obtain ⟨htake, hwrites⟩ := take_withoutEcho name hline hnow
  have hactive : (withoutEcho name now due c).active.isSome = false := rfl
  constructor
  · have hserve :
        (serve (.upTo now) [⟨1, .activationQuery, false⟩] (withoutEcho name now due c)).log =
          [.commandSent name "+CGACT?" Command.shortTimeout, .staleLine c.echoLine] := by
      rw [serve_cons, Logged.log_bind, htake, orServe]
      split <;> rfl
    rw [Port.call, advance_awaitingEcho name hdue hnow, Logged.log_bind]
    simp only [elapse_withoutEcho name hdue hnow, hactive]
    exact congrArg (_ :: ·) hserve
  · have hgoOn : Write.watch.ofGoOn (awaitingEcho name due c) (.upTo now) = [] :=
      Write.ofListen_eq_nil ..
    have hadvance : Write.watch.ofAdvance (awaitingEcho name due c) (.upTo now) = [] := by
      rw [Watch.ofAdvance, hgoOn, Watch.ofOrServe]
      split <;> rfl
    have hserve : Write.watch.ofServe (.upTo now) [⟨1, .activationQuery, false⟩]
        (withoutEcho name now due c) = [] := by
      rw [Watch.ofServe, hwrites]
      split <;> rfl
    rw [Watch.ofCall, hadvance, advance_awaitingEcho name hdue hnow, Watch.ofOrServe]
    simp only [elapse_withoutEcho name hdue hnow, hactive, hserve]
    rfl

/-- The modem is asked once. -/
theorem ofCall_lateEcho :
    Write.watch.ofCall (lateEchoPort name due c) 0 ⟨0, c, false⟩ = [⟨0, unreadEcho 0 due c⟩] := by
  have hsend (deadline : Nat) :
      Write.watch.ofSend (lateEchoPort name due c) (.upTo 0) ⟨0, c, false⟩ deadline =
        [⟨0, unreadEcho 0 due c⟩] := by
    simp only [Watch.ofSend, lateEchoPort, Write.ofListen_eq_nil, List.append_nil]
    simp [Write.watch, unreadEcho, write, Intake.enqueue, clock]
  have hserve : Write.watch.ofServe (.upTo 0) [⟨0, c, false⟩] (lateEchoPort name due c) =
      [⟨0, unreadEcho 0 due c⟩] := by
    have hstale : (lateEchoPort name due c).stale = false := rfl
    simp [Watch.ofServe, Watch.ofTake, hsend, hstale]
  rw [Watch.ofCall, advance_of_idle rfl rfl]
  exact hserve

/-- The log shows the echo of a command whose time was over. -/
theorem log_play_lateEcho (hline : lineFeed ∉ c.written) (htimeout : 0 < c.timeout.micros)
    (hdue : c.timeout.micros < due) (hnow : due ≤ now) :
    ((lateEchoPort name due c).play (lateEchoActs now c)).log =
      [.commandSent name c.loggable c.timeout,
        .commandFailed name c.loggable (.timedOut c.timeout),
        .commandSent name "+CGACT?" Command.shortTimeout, .staleLine c.echoLine] := by
  have hplay : (lateEchoPort name due c).play (lateEchoActs now c) =
      (lateEchoPort name due c).call 0 ⟨0, c, false⟩ >>= fun p =>
        p.call now ⟨1, .activationQuery, false⟩ >>= pure := rfl
  simp only [hplay, call_lateEcho name htimeout hdue, bind_pure, Logged.log_bind,
    (call_awaitingEcho name hline hdue hnow).1]
  rfl

end LateEcho

/-- The log tells apart any two commands with echoes that differ. -/
theorem log_play_lateEcho_ne (name : String) {due now : Nat} {c c' : Command} (h : c.Twin c')
    (hne : c.echoLine ≠ c'.echoLine) (hline : lineFeed ∉ c.written) (hline' : lineFeed ∉ c'.written)
    (htimeout : 0 < c.timeout.micros) (hdue : c.timeout.micros < due) (hnow : due ≤ now) :
    ((lateEchoPort name due c).play (lateEchoActs now c)).log ≠
      ((lateEchoPort name due c').play (lateEchoActs now c')).log := by
  rw [log_play_lateEcho name hline htimeout hdue hnow,
    log_play_lateEcho name hline' (h.timeout_eq ▸ htimeout) (h.timeout_eq ▸ hdue) hnow]
  intro hlog
  simp only [List.cons.injEq, Event.staleLine.injEq] at hlog
  exact hne hlog.2.2.2.1

/-- Two modems that echo the commands of a pair at the same instant do the same. -/
theorem modemsAkin_lateEcho (name : String) {due now : Nat} {c c' : Command} (hpair : pairs c c')
    (hline : lineFeed ∉ c.written) (hline' : lineFeed ∉ c'.written)
    (htimeout : 0 < c.timeout.micros) (hdue : c.timeout.micros < due) (hnow : due ≤ now) :
    ModemsAkin pairs (lateEchoPort name due c) (lateEchoPort name due c') (lateEchoActs now c)
      (lateEchoActs now c') := by
  have hunread : (unreadEcho 0 due c).Akin pairs (unreadEcho 0 due c') :=
    ⟨rfl, .of_echo hpair hline hline' .nil⟩
  have hfirst : ((lateEchoPort name due c).act (.move 0 (.call ⟨0, c, false⟩))).value =
      awaitingEcho name due c := congrArg Logged.value (call_lateEcho name htimeout hdue)
  refine ⟨?_, ?_, trivial⟩
  · rw [actWrites, actWrites, Watch.ofAct, Watch.ofAct, ofCall_lateEcho, ofCall_lateEcho]
    intro w hw w' hw' _
    rw [List.mem_singleton.mp hw, List.mem_singleton.mp hw']
    exact hunread
  · rw [hfirst, actWrites, Watch.ofAct, (call_awaitingEcho name hline hdue hnow).2]
    exact fun w hw => absurd hw List.not_mem_nil

end Port

end ModemLink
