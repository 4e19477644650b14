import ModemLink.Proofs.Station.SingleFlight
import ModemLink.Proofs.Station.Underway

/-!
# What a failed attempt to connect leaves active

Connecting may activate a context and fail afterwards. Whether the context is then deactivated
again depends on where the attempt failed. Two commands of dialing follow the activation. If they
succeed, and nobody has asked the attempt to stop by then, dialing is over, and whatever goes wrong
with the configuration is followed by the deactivation, as the last thing the attempt does. If one
of the two fails, or the attempt is found to have been asked to stop, it ends without, and the
context stays active.

Source: the specification, sections 4.1, 4.3 and 10.5.

## Main definitions

* `Operation.Dialed`: dialing has come to its end, as the rounds after the activation tell.

## Main results

* `Dial.Path.after_activation`: what is left of dialing after the activation.
* `Operation.Stages.undoes_of_dialed`, `Operation.Stages.abandons_of_not_dialed`: where the stages
  of connecting deactivate the context they activated, and where they do not.
* `Station.connect_undoes_iff`: the same of every call to connect, on any channel.
-/

namespace ModemLink

variable {ω : Type}

/-! ### Activations among the commands -/

/-- The round activates a context: the command has succeeded. -/
def Round.Activates (r : Round ω) (cid : UInt32) : Prop :=
  r.request.command = .setActivation true cid ∧ r.reply?.isSome

/-- No command both activates and deactivates. -/
theorem Command.setActivation_true_ne_false (cid cid' : UInt32) :
    Command.setActivation true cid ≠ Command.setActivation false cid' := by
  intro h
  have hbody := congrArg (fun c => c.body.toList[7]?) h
  simp [setActivation] at hbody

namespace Dial

variable {d : Dial}

/-- Dialing activates its own context, in one of its steps, and deactivates none. -/
theorem of_command?_eq_setActivation {active : Bool} {cid : UInt32}
    (h : d.command? = some (.setActivation active cid)) : d.step = .activate ∧ active = true := by
  -- No other command may take as long as an activation.
  have htimeout : d.command?.map (·.timeout) = some Command.activationTimeout := by
    rw [h]
    rfl
  have hshort : Command.shortTimeout ≠ Command.activationTimeout := by decide
  have hdata : Command.dataTimeout ≠ Command.activationTimeout := by decide
  cases hs : d.step with
  | activate =>
    simp only [command?, hs, Option.some.injEq] at h
    refine ⟨rfl, ?_⟩
    cases active with
    | true => rfl
    | false => exact absurd h (Command.setActivation_true_ne_false _ _)
  | done => simp [command?, hs] at h
  | startFraming =>
    rw [command?, hs] at htimeout
    exact absurd (Option.some.inj htimeout) hdata
  | checkActive | auth | dnsFamily | mapDataChannel =>
    rw [command?, hs] at htimeout
    exact absurd (Option.some.inj htimeout) hshort

namespace Path

variable {cancelled : Bool} {rounds : List (Round ω)} {stop : Stop (Except Fault DataPort) ω}

/-- Dialing deactivates nothing. -/
theorem command_ne_deactivation (h : d.Path cancelled rounds stop) (cid : UInt32) :
    ∀ r ∈ rounds, r.request.command ≠ .setActivation false cid := by
  have hne {d : Dial} {command : Command} (hcommand : d.command? = some command) :
      command ≠ .setActivation false cid := by
    rintro rfl
    cases (of_command?_eq_setActivation hcommand).2
  induction h with
  | canceled d => simp
  | finished hstep => simp
  | blocked hcommand | refused hcommand | unread hcommand =>
    simpa using hne hcommand
  | went hcommand hadvance rest ih =>
    exact List.forall_mem_cons.mpr ⟨hne hcommand, ih⟩

/-- After the activation has succeeded, what is left of dialing starts at the data channel. -/
theorem after_activation {before after : List (Round ω)} {r : Round ω} {cid : UInt32}
    (h : d.Path cancelled (before ++ r :: after) stop) (hr : r.Activates cid) :
    { d with step := .mapDataChannel }.Path r.cancelledAfter after stop := by
  induction before generalizing d cancelled with
  | nil =>
    obtain ⟨hactivates, hreply⟩ := hr
    cases h with
    | blocked | refused => cases hreply
    | unread hcommand hread =>
      obtain rfl : _ = Command.setActivation true cid := hactivates
      have hstep := (of_command?_eq_setActivation hcommand).1
      have hfirst := ((advance_eq_error_iff d _ _).mp hread).1
      cases hstep.symm.trans hfirst
    | went hcommand hadvance rest =>
      obtain rfl : _ = Command.setActivation true cid := hactivates
      have hstep := (of_command?_eq_setActivation hcommand).1
      simp only [advance, hstep] at hadvance
      obtain rfl := Except.ok.inj hadvance
      exact rest
  | cons r' before ih =>
    rw [List.cons_append] at h
    generalize hafter : before ++ r :: after = rounds at h
    cases h with
    | blocked | refused | unread => simp at hafter
    | went hcommand hadvance rest =>
      subst hafter
      have hpath := ih rest
      rw [eq_of_advance hadvance] at hpath
      exact hpath

end Path

end Dial

/-! ### Where the context is deactivated -/

namespace Operation

/-- The two commands of dialing that follow the activation have succeeded, and nobody has asked the
attempt to stop by then. -/
def Dialed (rounds : List (Round ω)) : Prop :=
  ∃ mapped framed later, rounds = mapped :: framed :: later ∧ mapped.reply?.isSome ∧
    framed.reply?.isSome ∧ framed.cancelledAfter = false

variable {d : Dial} {dialing reading before after later rounds : List (Round ω)}
  {stop : Stop (Except Fault DataPort) ω} {r : Round ω} {cid : UInt32} {cancels : Bool}

theorem pending_mapDataChannel (d : Dial) (rounds : List (Round ω)) :
    { d with step := .mapDataChannel }.pending rounds =
      [.mapDataChannel d.acm d.ncm d.profile.cid, .startFraming d.profile.cid] := by
  simp [Dial.pending, Dial.rank, DialStep.rank, Dial.commands]

/-- Dialing that is over has put both commands that follow the activation. -/
theorem dialed_of_path
    (h : { d with step := .mapDataChannel }.Path cancels after (.ended (.ok d.port)))
    (later : List (Round ω)) : Dialed (after ++ later) := by
  obtain ⟨-, hissued, hreplied, hcancelled⟩ := (h.ended_ok_iff d.port).mp rfl
  rw [pending_mapDataChannel] at hissued
  match after with
  | [] | [_] | _ :: _ :: _ :: _ => simp at hissued
  | [mapped, framed] =>
    rw [Round.cancelledAt_cons, Round.cancelledAt_cons] at hcancelled
    exact ⟨mapped, framed, later, rfl, hreplied mapped (by simp), hreplied framed (by simp),
      hcancelled⟩

/-- Where both commands have succeeded, and nobody has asked to stop, dialing is over. -/
theorem ended_of_dialed (h : { d with step := .mapDataChannel }.Path cancels after stop)
    (hdialed : Dialed after) : stop = .ended (.ok d.port) := by
  obtain ⟨mapped, framed, later, rfl, hmapped, hframed, hcancelled⟩ := hdialed
  have hissued := h.issued
  rw [pending_mapDataChannel] at hissued
  obtain rfl : later = [] := by simpa using hissued.length_le
  refine (h.ended_ok_iff d.port).mpr ⟨rfl, ?_, ?_, ?_⟩
  · rw [pending_mapDataChannel]
    exact hissued.eq_of_length rfl
  · simp [hmapped, hframed]
  · rw [Round.cancelledAt_cons, Round.cancelledAt_cons]
    exact hcancelled

/-- Reading the configuration neither activates nor deactivates anything. -/
theorem command_ne_setActivation {stop : Stop (Except Fault Connection) ω}
    (h : Inspect.Course ((reader d).proceed false).value false reading stop) (active : Bool)
    (cid : UInt32) : ∀ r ∈ reading, r.request.command ≠ .setActivation active cid := by
  intro r hr heq
  have hmem := (Inspect.issued_of_course h).subset (List.mem_map_of_mem hr)
  have hshort : Command.activationTimeout ≠ Command.shortTimeout := by decide
  have htimeout : r.request.command.timeout = Command.shortTimeout := by
    have hpending : r.request.command ∈ [.addressQuery (reader d).cid, .nameServerQuery] :=
      List.mem_of_mem_drop hmem
    rcases List.mem_pair.mp hpending with hcommand | hcommand <;> rw [hcommand] <;> rfl
  rw [heq] at htimeout
  exact hshort htimeout

/-- An activation among the rounds of connecting is one of dialing. -/
theorem exists_dialing {stop : Stop (Except Fault Connection) ω}
    (hreading : Inspect.Course ((reader d).proceed false).value false reading stop)
    {undo : Round ω} (hundo : undo.request = undoing d) (hr : r.Activates cid)
    (h : dialing ++ reading ++ [undo] = before ++ r :: after) :
    ∃ between, dialing = before ++ r :: between ∧ after = between ++ (reading ++ [undo]) := by
  have hnot : r ∉ reading ++ [undo] := by
    intro hmem
    rcases List.mem_append.mp hmem with hmem | hmem
    · exact command_ne_setActivation hreading true cid r hmem hr.1
    · rw [List.mem_singleton.mp hmem] at hr
      exact Command.setActivation_true_ne_false cid d.profile.cid
        (hr.1.symm.trans (by rw [hundo]; rfl))
  rw [List.append_assoc, List.append_eq_append_iff] at h
  rcases h with ⟨between, -, hlater⟩ | ⟨between, hdialing, hlater⟩
  · rw [hlater] at hnot
    exact absurd (List.mem_append_right _ (List.mem_cons_self ..)) hnot
  · cases between with
    | nil =>
      rw [List.nil_append] at hlater
      rw [← hlater] at hnot
      exact absurd (List.mem_cons_self ..) hnot
    | cons r' between =>
      obtain ⟨rfl, rfl⟩ := List.cons.inj hlater
      exact ⟨between, hdialing, rfl⟩

namespace Stages

variable {fault : Fault}

/-- A failed attempt whose dialing was over deactivates the context, and does nothing after that. -/
theorem undoes_of_dialed (h : Stages d rounds (.ended (.error fault)))
    (hrounds : rounds = before ++ r :: after) (hr : r.Activates cid) (hdialed : Dialed after) :
    after.getLast?.map (·.request) = some (undoing d) := by
  cases h with
  | undialed hdialing =>
    subst hrounds
    cases ended_of_dialed (hdialing.after_activation hr) hdialed
  | undone hdialing hreading =>
    obtain ⟨between, -, rfl⟩ := exists_dialing hreading rfl hr hrounds
    simp

/-- An attempt that fails before dialing was over deactivates nothing. -/
theorem abandons_of_not_dialed (h : Stages d rounds (.ended (.error fault)))
    (hrounds : rounds = before ++ r :: after) (hr : r.Activates cid) (hdialed : ¬ Dialed after)
    (cid' : UInt32) :
    ∀ r ∈ after, r.request.command ≠ .setActivation false cid' := by
  cases h with
  | undialed hdialing =>
    subst hrounds
    exact (hdialing.after_activation hr).command_ne_deactivation cid'
  | undone hdialing hreading =>
    obtain ⟨between, rfl, rfl⟩ := exists_dialing hreading rfl hr hrounds
    exact absurd (dialed_of_path (hdialing.after_activation hr) _) hdialed

end Stages

end Operation

/-! ### Calls to connect -/

namespace Station

variable {σ : Type} {s : Station}

/-- A call to connect is refused, and nothing is put to the channel; or its rounds are a course of
connecting. -/
theorem course_of_connect (h : s.Orderly) {id : Nat} {b : Bearer} (hb : s.bearer? id = some b)
    (channel : Channel σ ω) (state : σ) :
    let driven := (driveOn channel.recorded (state, []) (s.connect id)).value
    driven.2.1.2 = [] ∨ ∃ stop, driven.2.2 = stop.halt s.nextTicket ∧
      (Operation.connect s.modem b.profile).value.Course false driven.2.1.2 stop := by
  intro driven
  have hbegin : s.connect id =
      s.begin b "connect" .disconnected .connecting (Operation.connect s.modem b.profile) := by
    rw [connect, hb]
  rcases begin_cases s b "connect" .connect (Operation.connect s.modem b.profile) with
    ⟨fault, -, hrefused⟩ | ⟨hbusy, hstatus, -⟩
  · refine .inl ?_
    have hvalue : driven = (s, (state, []), .ended (.error fault)) := by
      change (driveOn channel.recorded (state, []) (s.connect id)).value = _
      rw [hbegin]
      exact congrArg (fun moved => (driveOn channel.recorded (state, []) moved).value) hrefused
    rw [hvalue]
  · obtain ⟨s', after, rounds, stop, hvalue, hcourse, -⟩ :=
      driveOn_connect_recorded h hb hbusy hstatus channel state
    have hvalue : driven = (s', (after, rounds), stop.halt s.nextTicket) := hvalue
    rw [hvalue]
    exact .inr ⟨stop, rfl, hcourse⟩

/-- A call to connect that has activated the context of its bearer and fails: if dialing was over,
it deactivates the context with its last command, which nobody can interrupt; and if dialing was not
over, it deactivates nothing. -/
theorem connect_undoes_iff (modem : Modem) (moves : List Move) (channel : Channel σ ω) (state : σ)
    {id : Nat} {b : Bearer} (hb : (Run.after modem moves).station.bearer? id = some b)
    {before after : List (Round ω)} {r : Round ω} {fault : Fault}
    (hrounds : (driveOn channel.recorded (state, [])
      ((Run.after modem moves).station.connect id)).value.2.1.2 = before ++ r :: after)
    (hactivates : r.Activates b.profile.cid)
    (hfails : (driveOn channel.recorded (state, [])
      ((Run.after modem moves).station.connect id)).value.2.2 = .ended (.error fault)) :
    (Operation.Dialed after → after.getLast?.map (·.request) =
      some ⟨.setActivation false b.profile.cid, false⟩) ∧
    (¬ Operation.Dialed after →
      ∀ r ∈ after, r.request.command ≠ .setActivation false b.profile.cid) := by
  rcases course_of_connect (Run.orderly modem moves) hb channel state with
    hnil | ⟨stop, hstop, hcourse⟩
  · rw [hnil] at hrounds
    simp at hrounds
  rw [hfails] at hstop
  obtain rfl : stop = .ended (.error fault) := by
    cases stop with
    | blocked => cases hstop
    | ended => rw [Halt.ended.inj hstop]
  rcases Operation.stages_of_connect hcourse with ⟨-, -, hnil, -⟩ | ⟨d, -, hprofile, hstages⟩
  · rw [hnil] at hrounds
    simp at hrounds
  rw [← hprofile] at hactivates ⊢
  exact ⟨hstages.undoes_of_dialed hrounds hactivates,
    fun hdialed => hstages.abandons_of_not_dialed hrounds hactivates hdialed d.profile.cid⟩

deriving instance DecidableEq for Response, Round, Halt

/-- A channel to a modem that refuses to map the data channel, and does everything else. -/
def unmappedChannel : Channel Unit Empty where
  ask _ _ request :=
    let answer :=
      if request.command = .mapDataChannel 0 1 1 then .error (.failed "ERROR") else .ok ""
    pure ((), .answered answer false)

/-- The context is activated, the data channel is refused, and the context stays active. -/
theorem connect_undoes_iff_unmappedChannel :
    let driven := (driveOn unmappedChannel.recorded ((), [])
      ((Run.after indexedModem [.create { cid := 1 }]).station.connect 0)).value
    driven.2.2 = .ended (.error (.failed "ERROR")) ∧
      ∃ before r after, driven.2.1.2 = before ++ r :: after ∧ r.Activates 1 ∧
        ∀ r ∈ after, r.request.command ≠ .setActivation false 1 := by
  have hb : (Run.after indexedModem [.create { cid := 1 }]).station.bearer? 0 =
      some { id := 0, profile := { cid := 1 } } := by decide +kernel
  let answered (command : Command) (answer : Answer) : Round Empty :=
    ⟨⟨command, true⟩, false, .answered answer false⟩
  have hrounds : (driveOn unmappedChannel.recorded ((), [])
      ((Run.after indexedModem [.create { cid := 1 }]).station.connect 0)).value.2.1.2 =
        [answered .activationQuery (.ok ""), answered (.credentials .ira { cid := 1 }) (.ok ""),
          answered (.requestNameServers 1 .ipv4v6) (.ok "")] ++
        answered (.setActivation true 1) (.ok "") ::
          [answered (.mapDataChannel 0 1 1) (.error (.failed "ERROR"))] := by decide +kernel
  have hfails : (driveOn unmappedChannel.recorded ((), [])
      ((Run.after indexedModem [.create { cid := 1 }]).station.connect 0)).value.2.2 =
        .ended (.error (.failed "ERROR")) := by decide +kernel
  have hdialed :
      ¬ Operation.Dialed [answered (.mapDataChannel 0 1 1) (.error (.failed "ERROR"))] := by
    rintro ⟨mapped, framed, later, hafter, -⟩
    simp at hafter
  have hactivates : (answered (.setActivation true 1) (.ok "")).Activates 1 := ⟨rfl, rfl⟩
  exact ⟨hfails, _, _, _, hrounds, hactivates,
    (connect_undoes_iff indexedModem [.create { cid := 1 }] unmappedChannel () hb hrounds hactivates
      hfails).2 hdialed⟩

end Station

end ModemLink
