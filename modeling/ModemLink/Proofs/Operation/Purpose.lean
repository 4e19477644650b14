import ModemLink.Bearer
import ModemLink.Proofs.Sequence.Loop

/-!
# What an operation is for, and what it may end with

An operation keeps the purpose it was begun for until it ends, and its purpose decides what it
can end with: connecting and refreshing bring a connection or fail, and ending a session never
fails. A fault at the end of an operation was put there by an answer, or is one of the few the
operation finds by itself.

## Main definitions

* `Operation.Purpose`, `Operation.purpose`: the call an operation was begun by.
* `Operation.Purpose.required`, `Operation.Purpose.passage`: the status a bearer must have for
  the call to be admitted, and the status it shows meanwhile.
* `Turn.Serves`: a turn keeps a purpose, or ends as the purpose allows.
* `Turn.Blames`: every fault a turn carries satisfies a predicate.

## Main results

* `Operation.serves_resume`: an operation serves its purpose to its end.
* `Operation.blames_resume`: where the faults of an ending come from.
-/

namespace ModemLink

namespace Operation

/-- The call an operation was begun by. -/
inductive Purpose
  | connect
  | refresh
  | disconnect
  /-- The operation is one of no bearer. -/
  | free
  deriving DecidableEq, Repr

namespace Purpose

/-- The status in which a bearer admits the call. -/
def required : Purpose → Status
  | connect | free => .disconnected
  | refresh | disconnect => .connected

/-- The status a bearer shows while the operation is under way. -/
def passage : Purpose → Status
  | connect | free => .connecting
  | refresh => .connected
  | disconnect => .disconnecting

/-- What an operation of a bearer can end with. A call to disconnect has no way to fail. -/
def Admits : Purpose → Ending → Prop
  | connect, .ok (.connected _) | connect, .error _ => True
  | refresh, .ok (.refreshed _) | refresh, .error _ => True
  | disconnect, .ok .disconnected => True
  | free, _ => True
  | _, _ => False

end Purpose

/-- What an operation was begun for. -/
def purpose : Operation → Purpose
  | dialing _ | configuring _ | unwinding _ _ => .connect
  | refreshing _ => .refresh
  | disconnecting _ => .disconnect
  | dialOnly _ | inspectOnly _ | teardownOnly _ => .free

/-- The fault an operation will report once its session is torn down. -/
def cause? : Operation → Option Fault
  | unwinding cause _ => some cause
  | _ => none

end Operation

namespace Turn

open Operation

/-- The turn goes on with an operation of the purpose, or ends as the purpose admits. -/
def Serves (p : Purpose) : Turn → Prop
  | .ask _ op => op.purpose = p
  | .done ending => p.Admits ending

/-- Every fault that the turn ends with, or will end with, satisfies `P`. -/
def Blames (P : Fault → Prop) : Turn → Prop
  | .ask _ op => ∀ f, op.cause? = some f → P f
  | .done ending => ∀ f, ending = .error f → P f

end Turn

namespace Operation

/-! ### An operation serves its purpose -/

theorem serves_afterInspect (port : DataPort) (cid : UInt32)
    (next : Next Inspect (Except Fault Connection)) :
    Turn.Serves .connect (afterInspect port cid next).value := by
  match next with
  | .ask request i => rfl
  | .done (.ok connection) => trivial
  | .done (.error fault) => rfl

theorem serves_afterDial (profile : Profile) (cancelled : Bool)
    (next : Next Dial (Except Fault DataPort)) :
    Turn.Serves .connect (afterDial profile cancelled next).value := by
  match next with
  | .ask request d => rfl
  | .done (.error fault) => trivial
  | .done (.ok port) => exact serves_afterInspect ..

/-- A sequence that is all of an operation serves the purpose of the operation. -/
theorem serves_map {σ ρ : Type} {p : Purpose} {hold : σ → Operation} {achieved : ρ → Achievement}
    (hhold : ∀ s, (hold s).purpose = p) (hok : ∀ r, p.Admits (.ok (achieved r)))
    (herror : ∀ fault, p.Admits (.error fault)) (next : Next σ (Except Fault ρ)) :
    Turn.Serves p (next.map hold (·.map achieved)) := by
  match next with
  | .ask request s => exact hhold s
  | .done (.ok r) => exact hok r
  | .done (.error fault) => exact herror fault

theorem serves_afterRefresh (next : Next Inspect (Except Fault Connection)) :
    Turn.Serves .refresh (afterRefresh next) := by
  refine serves_map ?_ ?_ ?_ next
  · exact fun _ => rfl
  · exact fun _ => trivial
  · exact fun _ => trivial

/-- Connecting begins as it goes on: with a connection or a fault in view. -/
theorem serves_connect (modem : Modem) (profile : Profile) :
    Turn.Serves .connect (connect modem profile).value := by
  simp only [connect, Logged.value_bind]
  cases (Dial.ofModem modem profile).value with
  | error fault => trivial
  | ok d => exact serves_afterDial ..

theorem serves_refresh (port : DataPort) (profile : Profile) :
    Turn.Serves .refresh (refresh port profile).value := by
  simp only [refresh, Logged.value_bind, Logged.value_pure]
  exact serves_afterRefresh _

/-- An operation of a bearer keeps its purpose with every answer, and ends as it admits. -/
theorem serves_resume (op : Operation) (cancelled : Bool) (answer : Answer) :
    Turn.Serves op.purpose (op.resume cancelled answer).value := by
  cases op with
  | dialing d => exact serves_afterDial ..
  | configuring i => exact serves_afterInspect ..
  | unwinding cause t => trivial
  | refreshing i => exact serves_afterRefresh _
  | disconnecting t => trivial
  | dialOnly | inspectOnly =>
    refine serves_map ?_ ?_ ?_ _
    · exact fun _ => rfl
    · exact fun _ => trivial
    · exact fun _ => trivial
  | teardownOnly t => trivial

end Operation

/-! ### Where faults come from -/

namespace Dial

theorem isInternal_of_ofModem {modem : Modem} {profile : Profile} {f : Fault}
    (h : (ofModem modem profile).value = .error f) : f.IsInternal := by
  simp only [ofModem] at h
  split at h
  · simp only [Logged.value_pure, Except.error.injEq] at h
    exact .inr (.inr ⟨_, h.symm⟩)
  · simp only [Logged.value_bind] at h
    split at h
    · simp at h
    · simp only [Logged.value_pure, Except.error.injEq] at h
      exact .inr (.inr ⟨_, h.symm⟩)

end Dial

namespace Inspect

theorem isInternal_of_start {port : DataPort} {cid : UInt32} {family : IpFamily}
    {cancelled : Bool} {f : Fault}
    (h : (start port cid family cancelled).value = .done (.error f)) : f.IsInternal := by
  simp only [start, Logged.value_bind] at h
  exact Sequence.isInternal_of_proceed h

end Inspect

namespace Operation

variable {P : Fault → Prop}

theorem blames_afterInspect {port : DataPort} {cid : UInt32}
    {next : Next Inspect (Except Fault Connection)}
    (h : ∀ f, next = .done (.error f) → P f) :
    Turn.Blames P (afterInspect port cid next).value := by
  match next with
  | .ask request i => intro f hf; cases hf
  | .done (.ok connection) => intro f hf; cases hf
  | .done (.error fault) =>
    -- The fault is not reported yet: it waits for the session to be torn down.
    intro f hf
    cases hf
    exact h fault rfl

theorem blames_afterDial {profile : Profile} {cancelled : Bool}
    {next : Next Dial (Except Fault DataPort)} (hown : ∀ f : Fault, f.IsInternal → P f)
    (h : ∀ f, next = .done (.error f) → P f) :
    Turn.Blames P (afterDial profile cancelled next).value := by
  match next with
  | .ask request d => intro f hf; cases hf
  | .done (.error fault) =>
    intro f hf
    cases hf
    exact h fault rfl
  | .done (.ok port) =>
    exact blames_afterInspect fun f hf => hown f (Inspect.isInternal_of_start hf)

/-- A sequence that is all of an operation is to blame for the faults that it ends with. -/
theorem blames_map {σ ρ : Type} {hold : σ → Operation} {achieved : ρ → Achievement}
    {next : Next σ (Except Fault ρ)} (hhold : ∀ s, (hold s).cause? = none)
    (h : ∀ f, next = .done (.error f) → P f) :
    Turn.Blames P (next.map hold (·.map achieved)) := by
  match next with
  | .ask request s =>
    intro f hf
    cases (hhold s).symm.trans hf
  | .done (.ok r) => intro f hf; cases hf
  | .done (.error fault) =>
    intro f hf
    cases hf
    exact h fault rfl

theorem blames_connect (hown : ∀ f : Fault, f.IsInternal → P f) (modem : Modem)
    (profile : Profile) : Turn.Blames P (connect modem profile).value := by
  simp only [connect, Logged.value_bind]
  cases hd : (Dial.ofModem modem profile).value with
  | error fault =>
    intro f hf
    cases hf
    exact hown fault (Dial.isInternal_of_ofModem hd)
  | ok d => exact blames_afterDial hown fun f hf => hown f (Sequence.isInternal_of_proceed hf)

theorem blames_refresh (hown : ∀ f : Fault, f.IsInternal → P f) (port : DataPort)
    (profile : Profile) : Turn.Blames P (refresh port profile).value := by
  simp only [refresh, Logged.value_bind, Logged.value_pure]
  exact blames_map (fun _ => rfl) fun f hf => hown f (Inspect.isInternal_of_start hf)

theorem blames_disconnect (port : DataPort) (cid : UInt32) :
    Turn.Blames P (disconnect port cid).value := by
  intro f hf
  cases hf

theorem blames_dial (hown : ∀ f : Fault, f.IsInternal → P f) (modem : Modem) (profile : Profile)
    (cancelled : Bool) : Turn.Blames P (dial modem profile cancelled).value := by
  simp only [dial, Logged.value_bind]
  cases hd : (Dial.ofModem modem profile).value with
  | error fault =>
    intro f hf
    cases hf
    exact hown fault (Dial.isInternal_of_ofModem hd)
  | ok d => exact blames_map (fun _ => rfl) fun f hf => hown f (Sequence.isInternal_of_proceed hf)

theorem blames_inspect (hown : ∀ f : Fault, f.IsInternal → P f) (port : DataPort) (cid : UInt32)
    (family : IpFamily) (cancelled : Bool) :
    Turn.Blames P (inspect port cid family cancelled).value := by
  simp only [inspect, Logged.value_bind, Logged.value_pure]
  exact blames_map (fun _ => rfl) fun f hf => hown f (Inspect.isInternal_of_start hf)

theorem blames_teardown (port : DataPort) (cid : UInt32) :
    Turn.Blames P (teardown port cid).value := by
  intro f hf
  cases hf

/-- The faults of a turn are those of the answer, those the operation was already going to
report, and those it finds by itself. -/
theorem blames_resume {op : Operation} {cancelled : Bool} {answer : Answer}
    (hown : ∀ f : Fault, f.IsInternal → P f) (hanswer : ∀ f, answer = .error f → P f)
    (hcause : ∀ f, op.cause? = some f → P f) :
    Turn.Blames P (op.resume cancelled answer).value := by
  have hfault : ∀ f : Fault, answer = .error f ∨ f.IsInternal → P f := fun f hf =>
    hf.elim (hanswer f) (hown f)
  cases op with
  | dialing d => exact blames_afterDial hown fun f hf => hfault f (Sequence.fault_of_resume hf)
  | configuring i => exact blames_afterInspect fun f hf => hfault f (Sequence.fault_of_resume hf)
  | unwinding cause t =>
    intro f hf
    cases hf
    exact hcause cause rfl
  | refreshing i =>
    simp only [resume, Logged.value_bind, Logged.value_pure]
    exact blames_map (fun _ => rfl) fun f hf => hfault f (Sequence.fault_of_resume hf)
  | disconnecting t => intro f hf; cases hf
  | dialOnly d =>
    simp only [resume, Logged.value_bind, Logged.value_pure]
    exact blames_map (fun _ => rfl) fun f hf => hfault f (Sequence.fault_of_resume hf)
  | inspectOnly i =>
    simp only [resume, Logged.value_bind, Logged.value_pure]
    exact blames_map (fun _ => rfl) fun f hf => hfault f (Sequence.fault_of_resume hf)
  | teardownOnly t => intro f hf; cases hf

end Operation

end ModemLink
