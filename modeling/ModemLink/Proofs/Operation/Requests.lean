import ModemLink.Proofs.Operation.Purpose
import ModemLink.Proofs.Operation.Stages

/-!
# What an operation waits for

An operation is on one context from its beginning to its end, and what it waits for follows from
where it is. The commands of dialing and of reading a configuration can be interrupted, and the
deactivation of the context cannot.

An operation that has been asked to stop goes no further on its way. Whatever it is answered next,
it has failed; if it had dialed its context, it deactivates it before it says so, and that is the
only thing it asks for any more.

## Main definitions

* `Operation.cid`, `Operation.request?`: the context of an operation, and what it waits for.
* `Turn.Fits`: a turn stays on a context, and waits for what follows from where it is.

## Main results

* `Operation.fits_resume`: every answer leaves an operation on its context.
* `Operation.resume_cancelled`: the next turn of an operation that was asked to stop.
-/

namespace ModemLink

namespace Operation

/-- The context an operation is on. -/
def cid : Operation → UInt32
  | dialing d | dialOnly d => d.profile.cid
  | configuring i | refreshing i | inspectOnly i => i.cid
  | unwinding _ t | disconnecting t | teardownOnly t => t.cid

/-- What an operation waits for, which follows from where it is. -/
def request? : Operation → Option Request
  | dialing d | dialOnly d => d.command?.map (⟨·, true⟩)
  | configuring i | refreshing i | inspectOnly i => i.command?.map (⟨·, true⟩)
  | unwinding _ t | disconnecting t | teardownOnly t => some ⟨.setActivation false t.cid, false⟩

end Operation

/-- The turn leaves an operation on a context, where it waits for what follows from where it is. -/
def Turn.Fits (cid : UInt32) : Turn → Prop
  | .ask request op => op.cid = cid ∧ op.request? = some request
  | .done _ => True

/-- An attempt to read a configuration begins with a request on its context. -/
theorem Inspect.request_of_start {port : DataPort} {cid : UInt32} {family : IpFamily}
    {cancelled : Bool} {request : Request} {i : Inspect}
    (h : (start port cid family cancelled).value = .ask request i) :
    i.cid = cid ∧ i.command?.map (⟨·, true⟩) = some request := by
  simp only [start, Logged.value_bind] at h
  obtain ⟨rfl, hrequest⟩ := Sequence.request_of_proceed h
  exact ⟨rfl, hrequest⟩

namespace Operation

/-! ### Every turn fits -/

theorem fits_afterInspect {port : DataPort} {cid : UInt32}
    {next : Next Inspect (Except Fault Connection)}
    (h : ∀ request i, next = .ask request i →
      i.cid = cid ∧ i.command?.map (⟨·, true⟩) = some request) :
    (afterInspect port cid next).value.Fits cid := by
  match next with
  | .ask request i => exact h request i rfl
  | .done (.ok connection) => trivial
  | .done (.error fault) => exact ⟨rfl, rfl⟩

theorem fits_afterDial {profile : Profile} {cancelled : Bool}
    {next : Next Dial (Except Fault DataPort)}
    (h : ∀ request d, next = .ask request d →
      d.profile = profile ∧ d.command?.map (⟨·, true⟩) = some request) :
    (afterDial profile cancelled next).value.Fits profile.cid := by
  match next with
  | .ask request d =>
    obtain ⟨rfl, hrequest⟩ := h request d rfl
    exact ⟨rfl, hrequest⟩
  | .done (.error fault) => trivial
  | .done (.ok port) => exact fits_afterInspect fun _ _ => Inspect.request_of_start

/-- A sequence that is all of an operation waits for what it waits for by itself. -/
theorem fits_map {σ ρ : Type} {cid : UInt32} {hold : σ → Operation} {f : ρ → Ending}
    {next : Next σ ρ} (h : ∀ request s, next = .ask request s →
      (hold s).cid = cid ∧ (hold s).request? = some request) : Turn.Fits cid (next.map hold f) := by
  match next with
  | .ask request s => exact h request s rfl
  | .done _ => trivial

/-- A call puts its first request about the context of its bearer. -/
theorem fits_connect (modem : Modem) (profile : Profile) :
    (connect modem profile).value.Fits profile.cid := by
  simp only [connect, Logged.value_bind]
  cases hdial : (Dial.ofModem modem profile).value with
  | error fault => trivial
  | ok d =>
    refine fits_afterDial fun request d' h => ?_
    obtain ⟨rfl, hrequest⟩ := Sequence.request_of_proceed h
    exact ⟨Dial.profile_of_ofModem hdial, hrequest⟩

theorem fits_refresh (port : DataPort) (profile : Profile) :
    (refresh port profile).value.Fits profile.cid := by
  simp only [refresh, Logged.value_bind, Logged.value_pure]
  exact fits_map fun _ _ => Inspect.request_of_start

theorem fits_disconnect (port : DataPort) (cid : UInt32) :
    (disconnect port cid).value.Fits cid :=
  ⟨rfl, rfl⟩

/-- Every answer leaves an operation on its context, to wait for what follows from where it is. -/
theorem fits_resume (op : Operation) (cancelled : Bool) (answer : Answer) :
    (op.resume cancelled answer).value.Fits op.cid := by
  cases op with
  | dialing d =>
    exact fits_afterDial fun _ _ h => ⟨Dial.profile_eq_of_resume h, Sequence.request_of_resume h⟩
  | configuring i =>
    exact fits_afterInspect fun _ _ h => ⟨(Inspect.eq_of_resume h).1, Sequence.request_of_resume h⟩
  | dialOnly d =>
    exact fits_map fun _ _ h =>
      ⟨congrArg Profile.cid (Dial.profile_eq_of_resume h), Sequence.request_of_resume h⟩
  | refreshing i | inspectOnly i =>
    exact fits_map fun _ _ h => ⟨(Inspect.eq_of_resume h).1, Sequence.request_of_resume h⟩
  | unwinding | disconnecting | teardownOnly => trivial

end Operation

/-! ### Operations that were asked to stop -/

namespace Operation

/-- Whatever an operation is answered that was asked to stop, it has failed. If it had dialed its
context it deactivates it first. -/
theorem resume_cancelled (op : Operation) (answer : Answer)
    (hp : op.purpose = .connect ∨ op.purpose = .refresh) :
    (∃ fault, (op.resume true answer).value = .done (.error fault)) ∨
    ∃ i fault t, op = .configuring i ∧ (op.resume true answer).value =
      .ask ⟨.setActivation false i.cid, false⟩ (.unwinding fault t) := by
  cases op with
  | dialing d =>
    obtain ⟨fault, hnext⟩ : ∃ fault, (d.resume true answer).value = .done (.error fault) :=
      Dial.sequence.resume_cancelled d answer
    exact .inl ⟨fault, by simp only [resume, Logged.value_bind, hnext]; rfl⟩
  | configuring i =>
    obtain ⟨fault, hnext⟩ : ∃ fault, (i.resume true answer).value = .done (.error fault) :=
      Inspect.sequence.resume_cancelled i answer
    refine .inr ⟨i, fault, ⟨i.found.port, i.cid⟩, rfl, ?_⟩
    simp only [resume, Logged.value_bind, hnext]
    rfl
  | unwinding cause t => exact .inl ⟨cause, rfl⟩
  | refreshing i =>
    obtain ⟨fault, hnext⟩ : ∃ fault, (i.resume true answer).value = .done (.error fault) :=
      Inspect.sequence.resume_cancelled i answer
    refine .inl ⟨fault, ?_⟩
    simp only [resume, Logged.value_bind, hnext]
    rfl
  | disconnecting | dialOnly | inspectOnly | teardownOnly => rcases hp with hp | hp <;> cases hp

variable {op op' : Operation} {answer : Answer} {request : Request} {ending : Ending}

/-- An operation that was asked to stop does not succeed. -/
theorem of_resume_cancelled_eq_done (hp : op.purpose = .connect ∨ op.purpose = .refresh)
    (h : (op.resume true answer).value = .done ending) : ∃ fault, ending = .error fault := by
  rcases op.resume_cancelled answer hp with ⟨fault, hfails⟩ | ⟨i, fault, t, -, hundoes⟩
  · exact ⟨fault, Next.done.inj (h.symm.trans hfails)⟩
  · cases h.symm.trans hundoes

/-- All that an operation asks for that was asked to stop is the deactivation of its context. -/
theorem of_resume_cancelled_eq_ask (hp : op.purpose = .connect ∨ op.purpose = .refresh)
    (h : (op.resume true answer).value = .ask request op') :
    ∃ i fault t, op = .configuring i ∧ request = ⟨.setActivation false i.cid, false⟩ ∧
      op' = .unwinding fault t := by
  rcases op.resume_cancelled answer hp with ⟨fault, hfails⟩ | ⟨i, fault, t, hop, hundoes⟩
  · cases h.symm.trans hfails
  · obtain ⟨hrequest, hnext⟩ := Next.ask.inj (h.symm.trans hundoes)
    exact ⟨i, fault, t, hop, hrequest, hnext⟩

end Operation

end ModemLink
