import ModemLink.Proofs.Port.LateEcho

/-!
# What the log of a port gives away

Two runs make the same calls at the same instants, with the same time limits, and withdraw them
alike; they differ in the credentials of some commands, and the modems in the echoes of these
commands. A port does not log credentials when it sends a command, has its answer or gives it up.
It does log them where it reads the echo of one command while it waits for something else: as a
stale line, if the command was given up before its echo came in, or as a late answer. Up to such a
line both runs log the same, and if there is none, they do so to the end.

Source: the specification, section 10.2.

## Main results

* `Port.log_play_eq_or_departs`: the logs of two runs differ from such a line on, if at all.
-/

namespace ModemLink

variable {pairs : Command → Command → Prop}

namespace Port

section Logs

variable {acts acts' : List Act} (hpairs : ∀ c c', pairs c c' → c.Twin c') (name : String)
  {reactions reactions' : List Reaction}
  (hreactions : List.Forall₂ Reaction.Akin reactions reactions')
  (hacts : List.Forall₂ (Act.Akin pairs) acts acts')
  (hmodems : ModemsAkin pairs { name, reactions } { name, reactions := reactions' } acts acts')
include hpairs hreactions hacts hmodems

/-- Two runs that differ in credentials log the same, up to where one of them shows the echo of a
command that carries credentials, as a line that was left behind. -/
theorem log_play_eq_or_departs :
    (Port.play { name, reactions } acts).log =
        (Port.play { name, reactions := reactions' } acts').log ∨
      Departs (Event.Betrays pairs) (Port.play { name, reactions } acts).log
        (Port.play { name, reactions := reactions' } acts').log :=
  ((akin_new name hreactions).play hpairs hacts hmodems).imp_left And.left

end Logs

/-- A command that sets a password. -/
def onePassword : Command := ⟨"+WPPP=2,1,\"u\",\"a\"", .ofSeconds 1, true⟩

/-- The same command with another password. -/
def otherPassword : Command := ⟨"+WPPP=2,1,\"u\",\"b\"", .ofSeconds 1, true⟩

/-- The two commands are the only pair. -/
def passwords (c c' : Command) : Prop :=
  c = onePassword ∧ c' = otherPassword

theorem twin_of_passwords (c c' : Command) (h : passwords c c') : c.Twin c' := by
  obtain ⟨rfl, rfl⟩ := h
  exact
    { sensitive := rfl
      sensitive' := rfl
      timeout_eq := rfl
      body := ⟨"+WPPP".toList, "2,1,\"u\",\"a\"".toList, "2,1,\"u\",\"b\"".toList, by decide,
        by decide, by decide⟩ }

/-- A password is shown: its echo comes in half a second after the time of the command is over, and
a tenth of a second later another command is called. -/
theorem log_play_departs_passwords :
    let log := ((lateEchoPort "ttyACM0" 1500000 onePassword).play
      (lateEchoActs 1600000 onePassword)).log
    let log' := ((lateEchoPort "ttyACM0" 1500000 otherPassword).play
      (lateEchoActs 1600000 otherPassword)).log
    log ≠ log' ∧ Departs (Event.Betrays passwords) log log' := by
  intro log log'
  have htwin : onePassword.Twin otherPassword := twin_of_passwords _ _ ⟨rfl, rfl⟩
  have hne : log ≠ log' := log_play_lateEcho_ne "ttyACM0" htwin (by decide) (by decide) (by decide)
    (by decide) (by decide) (by decide)
  have hacts : List.Forall₂ (Act.Akin passwords) (lateEchoActs 1600000 onePassword)
      (lateEchoActs 1600000 otherPassword) :=
    .cons (.call 0 ⟨rfl, rfl, .inr ⟨rfl, rfl⟩⟩)
      (.cons (.call 1600000 ⟨rfl, rfl, .inl rfl⟩) .nil)
  have hmodems : ModemsAkin passwords (lateEchoPort "ttyACM0" 1500000 onePassword)
      (lateEchoPort "ttyACM0" 1500000 otherPassword) (lateEchoActs 1600000 onePassword)
      (lateEchoActs 1600000 otherPassword) :=
    modemsAkin_lateEcho "ttyACM0" ⟨rfl, rfl⟩ (by decide) (by decide) (by decide) (by decide)
      (by decide)
  have hdeparts := log_play_eq_or_departs twin_of_passwords "ttyACM0" (.cons (.sends ..) .nil)
    hacts hmodems
  exact ⟨hne, hdeparts.resolve_left hne⟩

end Port

end ModemLink
