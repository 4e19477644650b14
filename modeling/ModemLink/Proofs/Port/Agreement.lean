import ModemLink.Log

/-!
# Two runs and their logs

What must not be logged is told by comparing two computations that differ in it: they have to log
the same events. Where an event may give it away, the logs can be told apart from there on, and so
can whatever the computations do next; up to that event they still agree.

## Main definitions

* `Departs`: two logs that agree up to an event that gives something away.
* `Logged.Agree`: two computations whose logs agree, or depart.

## Main results

* `Logged.Agree.bind`, `Logged.Agree.bind_value`: computations that agree, one after another.
-/

namespace ModemLink

/-- The logs agree up to where one of them goes on with an event that gives something away. -/
def Departs (betrays : Event → Prop) (log log' : List Event) : Prop :=
  ∃ common e, betrays e ∧ common <+: log ∧ common <+: log' ∧
    (common ++ [e] <+: log ∨ common ++ [e] <+: log')

namespace Departs

variable {betrays : Event → Prop} {log log' : List Event}

/-- Logs that depart do so whatever is logged later. -/
theorem append (h : Departs betrays log log') (later later' : List Event) :
    Departs betrays (log ++ later) (log' ++ later') := by
  obtain ⟨common, e, he, hlog, hlog', hnext⟩ := h
  refine ⟨common, e, he, hlog.trans (List.prefix_append ..), hlog'.trans (List.prefix_append ..),
    ?_⟩
  exact hnext.imp (·.trans (List.prefix_append ..)) (·.trans (List.prefix_append ..))

/-- Logs that depart do so as well behind what they have in common. -/
theorem behind (earlier : List Event) (h : Departs betrays log log') :
    Departs betrays (earlier ++ log) (earlier ++ log') := by
  obtain ⟨common, e, he, hlog, hlog', hnext⟩ := h
  refine ⟨earlier ++ common, e, he, (List.prefix_append_right_inj _).mpr hlog,
    (List.prefix_append_right_inj _).mpr hlog', ?_⟩
  rw [List.append_assoc]
  exact hnext.imp (List.prefix_append_right_inj _).mpr (List.prefix_append_right_inj _).mpr

theorem symm (h : Departs betrays log log') : Departs betrays log' log := by
  obtain ⟨common, e, he, hlog, hlog', hnext⟩ := h
  exact ⟨common, e, he, hlog', hlog, hnext.symm⟩

/-- A log that begins with an event that gives something away departs from every other. -/
theorem of_cons {e : Event} (he : betrays e) (log log' : List Event) :
    Departs betrays (e :: log) log' :=
  ⟨[], e, he, List.nil_prefix, List.nil_prefix, .inl ⟨log, rfl⟩⟩

end Departs

namespace Logged

variable {α β γ δ : Type} {betrays : Event → Prop} {R : α → β → Prop} {S : γ → δ → Prop}

/-- The computations log the same and come to values that are related, or their logs depart. -/
def Agree (betrays : Event → Prop) (R : α → β → Prop) (x : Logged α) (y : Logged β) : Prop :=
  (x.log = y.log ∧ R x.value y.value) ∨ Departs betrays x.log y.log

namespace Agree

theorem pure {a : α} {b : β} (h : R a b) :
    Agree betrays R (Pure.pure a) (Pure.pure b) :=
  .inl ⟨rfl, h⟩

variable {x : Logged α} {y : Logged β} {f : α → Logged γ} {g : β → Logged δ}

/-- Computations that agree, and go on to agree from the values they come to, agree as a whole. -/
theorem bind_value (h : Agree betrays R x y)
    (hnext : R x.value y.value → Agree betrays S (f x.value) (g y.value)) :
    Agree betrays S (x >>= f) (y >>= g) := by
  obtain ⟨hlog, hvalue⟩ | hdeparts := h
  · obtain ⟨hnlog, hnvalue⟩ | hndeparts := hnext hvalue
    · exact .inl ⟨by rw [log_bind, log_bind, hlog, hnlog], hnvalue⟩
    · exact .inr (by rw [log_bind, log_bind, hlog]; exact hndeparts.behind _)
  · exact .inr (hdeparts.append _ _)

theorem bind (h : Agree betrays R x y) (hnext : ∀ a b, R a b → Agree betrays S (f a) (g b)) :
    Agree betrays S (x >>= f) (y >>= g) :=
  h.bind_value (hnext _ _)

/-- Both log the same event first. -/
theorem note (e : Event) {f : Unit → Logged α} {g : Unit → Logged β}
    (h : Agree betrays R (f ()) (g ())) :
    Agree betrays R (Logged.note e >>= f) (Logged.note e >>= g) :=
  bind (R := fun _ _ => True) (.inl ⟨rfl, trivial⟩) fun _ _ _ => h

/-- One of them gives something away. -/
theorem of_betrays {e : Event} (he : betrays e) (f : Unit → Logged α) (y : Logged β) :
    Agree betrays R (Logged.note e >>= f) y :=
  .inr (.of_cons he _ _)

/-- The other one does. -/
theorem of_betrays' {e : Event} (he : betrays e) (x : Logged α) (g : Unit → Logged β) :
    Agree betrays R x (Logged.note e >>= g) :=
  .inr (Departs.of_cons he _ _).symm

end Agree

end Logged

end ModemLink
