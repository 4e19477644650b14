import ModemLink.Proofs.Sequence.DialTrace

/-!
# Connecting in stages

Connecting is made of sequences that also run by themselves: dialing, then reading the
configuration, then, where that failed, tearing the session down. A course of the whole is a course
of the first sequence, and if that has ended, a course of what its result calls for. So the rounds
of connecting fall into stages, one for each sequence, and a stage begins only where the one before
has ended with the right result.

Only a failure of the second stage is followed by the third. An attempt that fails while it dials
ends there, whatever it has put to the modem before.

## Main definitions

* `Next.stage`: a sequence as the first stage of another one.
* `Operation.Stages`: the stages that connecting can go through, and how it ends.

## Main results

* `Next.Course.of_stage`: a course falls into the stages of its sequence.
* `Operation.stages_of_course`: whatever a channel does, connecting goes through stages.
* `Inspect.issued_of_course`: the requests of reading a configuration.
-/

namespace ModemLink

/-! ### Stages -/

namespace Next

variable {σ ρ τ ρ' ω : Type}

/-- A sequence as the first stage of another one, which holds its states, and goes on with its
result. -/
def stage (hold : σ → τ) (rest : ρ → Next τ ρ') : Next σ ρ → Next τ ρ'
  | .ask request state => .ask request (hold state)
  | .done result => rest result

/-- A course is kept waiting in the first stage, or the first stage ends and what is left is a
course of the rest. The two sequences need to agree only on the states that the first one comes
to. -/
theorem Course.of_stage {resume : Bool → Answer → σ → Next σ ρ}
    {resume' : Bool → Answer → τ → Next τ ρ'} {hold : σ → τ} {k : Bool → ρ → Next τ ρ'}
    {P : σ → Prop}
    (hresume : ∀ cancelled answer state, P state →
      resume' cancelled answer (hold state) = (resume cancelled answer state).stage hold
        (k cancelled))
    (hkeep : ∀ cancelled answer state, P state → ∀ request after,
      resume cancelled answer state = .ask request after → P after)
    {next : Next σ ρ} (hnext : ∀ request state, next = .ask request state → P state)
    {cancelled : Bool} {rounds : List (Round ω)} {stop : Stop ρ' ω}
    (h : Course resume' (next.stage hold (k cancelled)) cancelled rounds stop) :
    (∃ request hold, Course resume next cancelled rounds (.blocked request hold) ∧
      stop = .blocked request hold) ∨
    ∃ first later result, rounds = first ++ later ∧
      Course resume next cancelled first (.ended result) ∧
      Course resume' (k (Round.cancelledAt cancelled first) result)
        (Round.cancelledAt cancelled first) later stop := by
  induction rounds generalizing next cancelled with
  | nil =>
    match next with
    | .done result => exact .inr ⟨[], [], result, rfl, .done result cancelled, h⟩
    | .ask request state => cases h
  | cons r rounds ih =>
    match next with
    | .done result => exact .inr ⟨[], r :: rounds, result, rfl, .done result cancelled, h⟩
    | .ask request state =>
      have hstate := hnext request state rfl
      cases h with
      | blocked _ _ _ held => exact .inl ⟨request, held, .blocked request state cancelled held, rfl⟩
      | @answered _ _ _ cancels answer _ _ hrest =>
        rw [hresume _ _ _ hstate] at hrest
        rcases ih (hkeep _ _ _ hstate) hrest with
          ⟨request', held, hcourse, hstop⟩ | ⟨first, later, result, rfl, hcourse, hlater⟩
        · exact .inl ⟨request', held, .answered hcourse, hstop⟩
        · refine .inr ⟨_ :: first, later, result, rfl, .answered hcourse, ?_⟩
          rw [Round.cancelledAt_cons]
          exact hlater

end Next

/-! ### Reading the configuration -/

namespace Inspect

variable {ω : Type}

/-- The courses of attempts to read a configuration. -/
abbrev Course (next : Next Inspect (Except Fault Connection)) :
    Bool → List (Round ω) → Stop (Except Fault Connection) ω → Prop :=
  Next.Course (fun cancelled answer (i : Inspect) => (i.resume cancelled answer).value) next

/-- An attempt keeps its context and its data port. -/
theorem eq_of_advance {i next : Inspect} {reply : String} (h : (i.advance reply).value = .ok next) :
    next.cid = i.cid ∧ next.found.port = i.found.port := by
  cases hs : i.step with
  | queryAddress =>
    simp only [advance, hs] at h
    split at h
    · cases h
    · obtain rfl := Except.ok.inj h
      exact ⟨rfl, rfl⟩
  | queryDns =>
    simp only [advance, hs] at h
    split at h
    · cases h
    · obtain rfl := Except.ok.inj h
      exact ⟨rfl, rfl⟩
  | done =>
    simp only [advance, hs] at h
    obtain rfl := Except.ok.inj h
    exact ⟨rfl, rfl⟩

/-- An attempt that asks again keeps its context and its data port. -/
theorem eq_of_resume {i after : Inspect} {cancelled : Bool} {answer : Answer} {request : Request}
    (h : (i.resume cancelled answer).value = .ask request after) :
    after.cid = i.cid ∧ after.found.port = i.found.port := by
  obtain ⟨-, reply, -, hadvance, -⟩ := Sequence.of_resume_eq_ask h
  exact eq_of_advance hadvance

/-- The commands that are left from the step of an attempt on. -/
def pending (i : Inspect) : List Command :=
  [.addressQuery i.cid, .nameServerQuery].drop (2 - i.rank)

theorem command?_eq_head? (i : Inspect) : i.command? = i.pending.head? := by
  cases hs : i.step <;> simp [command?, pending, hs, rank, InspectStep.rank]

/-- A command that succeeds is no longer pending. -/
theorem pending_eq_cons {i next : Inspect} {reply : String} {command : Command}
    (hcommand : i.command? = some command) (hadvance : (i.advance reply).value = .ok next) :
    i.pending = command :: next.pending := by
  have hcid := (eq_of_advance hadvance).1
  cases hs : i.step with
  | queryAddress =>
    simp only [advance, hs] at hadvance
    split at hadvance
    · cases hadvance
    · obtain rfl := Except.ok.inj hadvance
      obtain rfl : Command.addressQuery i.cid = command := by simpa [command?, hs] using hcommand
      simp [pending, hs, rank, InspectStep.rank]
  | queryDns =>
    simp only [advance, hs] at hadvance
    split at hadvance
    · cases hadvance
    · obtain rfl := Except.ok.inj hadvance
      obtain rfl : Command.nameServerQuery = command := by simpa [command?, hs] using hcommand
      simp [pending, hs, rank, InspectStep.rank]
  | done => simp [command?, hs] at hcommand

/-- Whatever a channel does, an attempt puts the first of the commands that are pending. -/
theorem issued_of_course {i : Inspect} {cancelled : Bool} {rounds : List (Round ω)}
    {stop : Stop (Except Fault Connection) ω}
    (h : Course (i.proceed cancelled).value cancelled rounds stop) :
    rounds.map (·.request.command) <+: i.pending := by
  induction rounds generalizing i cancelled with
  | nil => exact List.nil_prefix
  | cons r rounds ih =>
    generalize hnext : (i.proceed cancelled).value = next at h
    cases next with
    | done result => cases h
    | ask request i' =>
      obtain ⟨rfl, rfl, command, hcommand, rfl⟩ := Sequence.of_proceed_eq_ask hnext
      have hhead : ∃ rest, i'.pending = command :: rest :=
        List.head?_eq_some_iff.mp ((command?_eq_head? i').symm.trans hcommand)
      cases h with
      | blocked =>
        obtain ⟨rest, hpending⟩ := hhead
        exact hpending ▸ ⟨rest, rfl⟩
      | @answered _ _ _ cancels answer _ _ hrest =>
        cases answer with
        | error fault =>
          cases hrest
          obtain ⟨rest, hpending⟩ := hhead
          exact hpending ▸ ⟨rest, rfl⟩
        | ok reply =>
          cases hadvance : (i'.advance reply).value with
          | error fault =>
            have hresume : (i'.resume (false || cancels) (.ok reply)).value =
                .done (.error (.reply fault)) :=
              Sequence.value_resume_of_error hadvance _
            rw [hresume] at hrest
            cases hrest
            obtain ⟨rest, hpending⟩ := hhead
            exact hpending ▸ ⟨rest, rfl⟩
          | ok next =>
            have hresume : (i'.resume (false || cancels) (.ok reply)).value =
                (next.proceed (false || cancels)).value :=
              Sequence.value_resume_of_ok hadvance _
            rw [hresume] at hrest
            rw [pending_eq_cons hcommand hadvance]
            exact List.cons_prefix_cons.mpr ⟨rfl, ih hrest⟩

end Inspect

/-! ### The stages of connecting -/

namespace Dial

/-- An attempt that asks again keeps its profile. -/
theorem profile_eq_of_resume {d after : Dial} {cancelled : Bool} {answer : Answer}
    {request : Request} (h : (d.resume cancelled answer).value = .ask request after) :
    after.profile = d.profile := by
  obtain ⟨-, reply, -, hadvance, -⟩ := Sequence.of_resume_eq_ask h
  rw [eq_of_advance hadvance]

/-- An attempt is taken up with the profile to dial. -/
theorem profile_of_ofModem {modem : Modem} {profile : Profile} {d : Dial}
    (h : (ofModem modem profile).value = .ok d) : d.profile = profile := by
  rw [ofModem] at h
  split at h
  · cases h
  · simp only [Logged.value_bind] at h
    split at h
    · rw [← Except.ok.inj h]
    · cases h

end Dial

namespace Operation

variable {ω : Type}

/-- Dialing is the first stage of connecting. -/
theorem course_of_afterDial {profile : Profile} {next : Next Dial (Except Fault DataPort)}
    (hnext : ∀ request (d : Dial), next = .ask request d → d.profile = profile) {cancelled : Bool}
    {rounds : List (Round ω)} {stop : Stop Ending ω}
    (h : (afterDial profile cancelled next).value.Course cancelled rounds stop) :
    (∃ request hold, Dial.Course next cancelled rounds (.blocked request hold) ∧
      stop = .blocked request hold) ∨
    ∃ dialing later result, rounds = dialing ++ later ∧
      Dial.Course next cancelled dialing (.ended result) ∧
      (afterDial profile (Round.cancelledAt cancelled dialing) (.done result)).value.Course
        (Round.cancelledAt cancelled dialing) later stop := by
  have hstage (c : Bool) (next : Next Dial (Except Fault DataPort)) :
      (afterDial profile c next).value =
        next.stage dialing fun result => (afterDial profile c (.done result)).value := by
    cases next <;> rfl
  rw [hstage] at h
  refine Next.Course.of_stage (P := fun d : Dial => d.profile = profile)
    (k := fun c result => (afterDial profile c (.done result)).value) ?_ ?_ hnext h
  · rintro c answer d rfl
    rw [← hstage]
    rfl
  · rintro c answer d rfl request after hafter
    exact Dial.profile_eq_of_resume hafter

/-- Reading the configuration is the next one. -/
theorem course_of_afterInspect {port : DataPort} {cid : UInt32}
    {next : Next Inspect (Except Fault Connection)}
    (hnext : ∀ request i, next = .ask request i → i.cid = cid ∧ i.found.port = port)
    {cancelled : Bool} {rounds : List (Round ω)} {stop : Stop Ending ω}
    (h : (afterInspect port cid next).value.Course cancelled rounds stop) :
    (∃ request hold, Inspect.Course next cancelled rounds (.blocked request hold) ∧
      stop = .blocked request hold) ∨
    ∃ reading later result, rounds = reading ++ later ∧
      Inspect.Course next cancelled reading (.ended result) ∧
      (afterInspect port cid (.done result)).value.Course
        (Round.cancelledAt cancelled reading) later stop := by
  have hstage (next : Next Inspect (Except Fault Connection)) :
      (afterInspect port cid next).value =
        next.stage configuring fun result => (afterInspect port cid (.done result)).value := by
    match next with
    | .ask _ _ | .done (.ok _) | .done (.error _) => rfl
  rw [hstage] at h
  refine Next.Course.of_stage (P := fun i : Inspect => i.cid = cid ∧ i.found.port = port)
    (k := fun _ result => (afterInspect port cid (.done result)).value) ?_ ?_ hnext h
  · rintro c answer i ⟨rfl, rfl⟩
    rw [← hstage]
    rfl
  · rintro c answer i ⟨rfl, rfl⟩ request after hafter
    exact Inspect.eq_of_resume hafter

/-- The attempt to read the configuration that follows an attempt to dial. -/
def reader (d : Dial) : Inspect := { cid := d.profile.cid, found := { port := d.port } }

/-- The command that tears the session of an attempt to dial down. Nobody can interrupt it. -/
def undoing (d : Dial) : Request := ⟨.setActivation false d.profile.cid, false⟩

/-- The stages of connecting, from an attempt to dial on, and where they lead. -/
inductive Stages (d : Dial) : List (Round ω) → Stop Ending ω → Prop
  | waitsDialing {rounds : List (Round ω)} {request : Request} {hold : ω}
      (dialing : d.Path false rounds (.blocked request hold)) :
      Stages d rounds (.blocked request hold)
  /-- Where dialing fails there is no further stage. -/
  | undialed {rounds : List (Round ω)} {fault : Fault}
      (dialing : d.Path false rounds (.ended (.error fault))) :
      Stages d rounds (.ended (.error fault))
  | waitsReading {dialing reading : List (Round ω)} {request : Request} {hold : ω}
      (dialed : d.Path false dialing (.ended (.ok d.port)))
      (course : Inspect.Course ((reader d).proceed false).value false reading
        (.blocked request hold)) :
      Stages d (dialing ++ reading) (.blocked request hold)
  | connected {dialing reading : List (Round ω)} {connection : Connection}
      (dialed : d.Path false dialing (.ended (.ok d.port)))
      (course : Inspect.Course ((reader d).proceed false).value false reading
        (.ended (.ok connection))) :
      Stages d (dialing ++ reading) (.ended (.ok (.connected connection)))
  | waitsUndoing {dialing reading : List (Round ω)} {fault : Fault} {cancelled : Bool} {hold : ω}
      (dialed : d.Path false dialing (.ended (.ok d.port)))
      (course : Inspect.Course ((reader d).proceed false).value false reading
        (.ended (.error fault))) :
      Stages d (dialing ++ reading ++ [⟨undoing d, cancelled, .blocked hold⟩])
        (.blocked (undoing d) hold)
  /-- Where the configuration could not be read the session is torn down, whatever the modem
  answers to that. -/
  | undone {dialing reading : List (Round ω)} {fault : Fault} {cancelled cancels : Bool}
      {answer : Answer} (dialed : d.Path false dialing (.ended (.ok d.port)))
      (course : Inspect.Course ((reader d).proceed false).value false reading
        (.ended (.error fault))) :
      Stages d (dialing ++ reading ++ [⟨undoing d, cancelled, .answered answer cancels⟩])
        (.ended (.error fault))

/-- Whatever a channel does, connecting goes through stages. -/
theorem stages_of_course {d : Dial} {rounds : List (Round ω)} {stop : Stop Ending ω}
    (h : (afterDial d.profile false (d.proceed false).value).value.Course false rounds stop) :
    Stages d rounds stop := by
  have hasks (request : Request) (d' : Dial) (hask : (d.proceed false).value = .ask request d') :
      d'.profile = d.profile := by rw [(Sequence.of_proceed_eq_ask hask).2.1]
  rcases course_of_afterDial hasks h with
    ⟨request, hold, hdialing, rfl⟩ | ⟨dialing, later, result, rfl, hdialing, hlater⟩
  · exact .waitsDialing (Dial.path_of_course hdialing)
  have hpath := Dial.path_of_course hdialing
  match result with
  | .error fault =>
    cases hlater
    rw [List.append_nil]
    exact .undialed hpath
  | .ok port =>
    obtain ⟨rfl, -, -, hcancelled⟩ := (hpath.ended_ok_iff port).mp rfl
    rw [hcancelled] at hlater
    have hreads (request : Request) (i : Inspect)
        (hask : ((reader d).proceed false).value = .ask request i) :
        i.cid = d.profile.cid ∧ i.found.port = d.port := by
      rw [(Sequence.of_proceed_eq_ask hask).2.1]
      exact ⟨rfl, rfl⟩
    rcases course_of_afterInspect hreads hlater with
      ⟨request, hold, hreading, rfl⟩ | ⟨reading, later, result, rfl, hreading, hlater⟩
    · exact .waitsReading hpath hreading
    match result with
    | .ok connection =>
      cases hlater
      rw [List.append_nil]
      exact .connected hpath hreading
    | .error fault =>
      rw [← List.append_assoc]
      cases hlater with
      | blocked => exact .waitsUndoing hpath hreading
      | answered hrest =>
        cases hrest
        exact .undone hpath hreading

/-- Connecting finds no port to dial on, or it goes through stages. -/
theorem stages_of_connect {modem : Modem} {profile : Profile} {rounds : List (Round ω)}
    {stop : Stop Ending ω} (h : (connect modem profile).value.Course false rounds stop) :
    (∃ fault, (Dial.ofModem modem profile).value = .error fault ∧ rounds = [] ∧
      stop = .ended (.error fault)) ∨
    ∃ d, (Dial.ofModem modem profile).value = .ok d ∧ d.profile = profile ∧
      Stages d rounds stop := by
  simp only [connect, Logged.value_bind] at h
  cases hdial : (Dial.ofModem modem profile).value with
  | error fault =>
    rw [hdial] at h
    cases h
    exact .inl ⟨fault, rfl, rfl, rfl⟩
  | ok d =>
    have hprofile := Dial.profile_of_ofModem hdial
    rw [hdial] at h
    subst hprofile
    exact .inr ⟨d, rfl, rfl, stages_of_course h⟩

end Operation

end ModemLink
