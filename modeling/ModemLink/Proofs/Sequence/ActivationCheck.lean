import ModemLink.Proofs.Reply.Activations
import ModemLink.Proofs.Sequence.DialPath

/-!
# The check before dialing

Dialing looks first which contexts are active, and leaves out what would only set up again the one
it is to dial. It does so exactly where the reply is without fault and a record of it tells that
this context is active; a context of any other number, however it is spelled, is none of its
business. Where no record tells so, dialing begins with the credentials, and a reply at fault ends
it with the fault of the first record that has one.

Source: the specification, sections 4.1 and 10.1.

## Main definitions

* `Dial.Heeds`: what an attempt to dial makes of the records of a reply.

## Main results

* `Dial.value_resume_eq_mapDataChannel_iff`, `Dial.value_resume_eq_auth_iff`,
  `Dial.value_resume_eq_error_iff`: the three ways to go on.
* `Dial.heeds_records`: an attempt heeds the records of the reply.
-/

namespace ModemLink.Dial

open Reply Reply.Activation Text

/-- What an attempt to dial makes of the records of the reply to its first command. -/
structure Heeds (d : Dial) (reply : String) (recs : List (List Char)) : Prop where
  /-- The reply is read as one state for each record, in their order. -/
  reads : ∀ contexts, Activation.read reply = .ok contexts ↔ GiveAll recs contexts
  /-- It is refused with the fault of the first record that is at fault. -/
  refuses : ∀ fault, Activation.read reply = .error fault ↔ FailsFirst recs fault
  /-- The attempt goes on with the data channel where a record tells that the context is active. -/
  skips : (d.resume false (.ok reply)).value =
      .ask ⟨.mapDataChannel d.acm d.ncm d.profile.cid, true⟩ { d with step := .mapDataChannel } ↔
    (∃ contexts, GiveAll recs contexts) ∧ ∃ record ∈ recs, Gives record (.ok ⟨d.profile.cid, true⟩)
  /-- It goes on with the credentials where none tells so. -/
  dials : (d.resume false (.ok reply)).value =
      .ask ⟨.credentials d.charset d.profile, true⟩ { d with step := .auth } ↔
    (∃ contexts, GiveAll recs contexts) ∧
      ∀ record ∈ recs, ¬ Gives record (.ok ⟨d.profile.cid, true⟩)
  /-- It ends where the reply is refused. -/
  fails : ∀ fault, (d.resume false (.ok reply)).value = .done (.error (.reply fault)) ↔
    FailsFirst recs fault
  /-- A context beyond 32 bits is taken for none: its record is at fault. -/
  numbered : ∀ record ∈ recs, ∀ spelling second value, IsPair record (.bare spelling) second →
    Spells spelling value → UInt32.size ≤ value →
      Gives record (.error (.contextId .activation)) ∧ ∀ contexts, ¬ GiveAll recs contexts

variable {d : Dial} {reply : String} {recs : List (List Char)}

/-- The two ways to go on are told apart by the step that is next. -/
theorem ask_mapDataChannel_ne_ask_auth (request request' : Request) :
    (.ask request { d with step := .mapDataChannel } : Next Dial (Except Fault DataPort)) ≠
      .ask request' { d with step := .auth } := by
  intro heq
  cases congrArg Dial.step (Next.ask.inj heq).2

section Check

variable (hstep : d.step = .checkActive)
include hstep

theorem value_resume_of_error {fault : ReplyFault} (h : Activation.read reply = .error fault) :
    (d.resume false (.ok reply)).value = .done (.error (.reply fault)) := by
  have hadvance : (d.advance reply).value = .error fault := by simp [advance, hstep, h]
  exact Sequence.value_resume_of_error hadvance false

/-- Where the reply is read, the active contexts decide how the attempt goes on. -/
theorem value_resume_of_ok {contexts : List Activation} (h : Activation.read reply = .ok contexts) :
    (d.resume false (.ok reply)).value =
      if (⟨d.profile.cid, true⟩ : Activation) ∈ contexts then
        .ask ⟨.mapDataChannel d.acm d.ncm d.profile.cid, true⟩ { d with step := .mapDataChannel }
      else .ask ⟨.credentials d.charset d.profile, true⟩ { d with step := .auth } := by
  by_cases hmem : (⟨d.profile.cid, true⟩ : Activation) ∈ contexts
  · have hadvance : (d.advance reply).value = .ok { d with step := .mapDataChannel } := by
      simp [advance, hstep, h, (d.isActive_iff contexts).mpr hmem]
    rw [if_pos hmem]
    exact (Sequence.value_resume_of_ok hadvance false).trans (value_proceed_false rfl)
  · have hadvance : (d.advance reply).value = .ok { d with step := .auth } := by
      have hinactive : d.isActive contexts = false :=
        eq_false_of_ne_true fun htells => hmem ((d.isActive_iff contexts).mp htells)
      simp [advance, hstep, h, hinactive]
    rw [if_neg hmem]
    exact (Sequence.value_resume_of_ok hadvance false).trans (value_proceed_false rfl)

/-- The attempt goes on with the data channel where the reply lists its context as active. -/
theorem value_resume_eq_mapDataChannel_iff : (d.resume false (.ok reply)).value =
      .ask ⟨.mapDataChannel d.acm d.ncm d.profile.cid, true⟩ { d with step := .mapDataChannel } ↔
    ∃ contexts, Activation.read reply = .ok contexts ∧ ⟨d.profile.cid, true⟩ ∈ contexts := by
  cases hread : Activation.read reply with
  | error fault => simp [value_resume_of_error hstep hread]
  | ok contexts =>
    simp only [value_resume_of_ok hstep hread, Except.ok.injEq, exists_eq_left']
    split
    · next hmem => exact iff_of_true rfl hmem
    · next hmem => exact iff_of_false (fun heq => ask_mapDataChannel_ne_ask_auth _ _ heq.symm) hmem

/-- It goes on with the credentials where the reply does not list it. -/
theorem value_resume_eq_auth_iff : (d.resume false (.ok reply)).value =
      .ask ⟨.credentials d.charset d.profile, true⟩ { d with step := .auth } ↔
    ∃ contexts, Activation.read reply = .ok contexts ∧ ⟨d.profile.cid, true⟩ ∉ contexts := by
  cases hread : Activation.read reply with
  | error fault => simp [value_resume_of_error hstep hread]
  | ok contexts =>
    simp only [value_resume_of_ok hstep hread, Except.ok.injEq, exists_eq_left']
    split
    · next hmem => exact iff_of_false (ask_mapDataChannel_ne_ask_auth _ _) (not_not_intro hmem)
    · next hmem => exact iff_of_true rfl hmem

/-- It ends where the reply cannot be read. -/
theorem value_resume_eq_error_iff {fault : ReplyFault} :
    (d.resume false (.ok reply)).value = .done (.error (.reply fault)) ↔
      Activation.read reply = .error fault := by
  cases hread : Activation.read reply with
  | error fault' => simp [value_resume_of_error hstep hread]
  | ok contexts =>
    rw [value_resume_of_ok hstep hread]
    split <;> simp

/-- An attempt to dial heeds the records of the reply, and nothing else of it. -/
theorem heeds_records (h : HasRecords Activation.tag reply.toList recs) : d.Heeds reply recs where
  reads contexts := read_eq_ok_iff h
  refuses fault := read_eq_error_iff h
  skips := by
    rw [value_resume_eq_mapDataChannel_iff hstep]
    constructor
    · rintro ⟨contexts, hread, hmem⟩
      have hall := (read_eq_ok_iff h).mp hread
      exact ⟨⟨contexts, hall⟩, (hall.mem_iff _).mp hmem⟩
    · rintro ⟨⟨contexts, hall⟩, hsome⟩
      exact ⟨contexts, (read_eq_ok_iff h).mpr hall, (hall.mem_iff _).mpr hsome⟩
  dials := by
    rw [value_resume_eq_auth_iff hstep]
    constructor
    · rintro ⟨contexts, hread, hmem⟩
      have hall := (read_eq_ok_iff h).mp hread
      exact ⟨⟨contexts, hall⟩, fun record hrecord hgives =>
        hmem ((hall.mem_iff _).mpr ⟨record, hrecord, hgives⟩)⟩
    · rintro ⟨⟨contexts, hall⟩, hnone⟩
      refine ⟨contexts, (read_eq_ok_iff h).mpr hall, fun hmem => ?_⟩
      obtain ⟨record, hrecord, hgives⟩ := (hall.mem_iff _).mp hmem
      exact hnone record hrecord hgives
  fails fault := by
    rw [value_resume_eq_error_iff hstep, read_eq_error_iff h]
  numbered record hmem spelling second value hpair hspells hvalue := by
    have hfails := gives_contextId_of_spells hpair hspells hvalue
    exact ⟨hfails, fun contexts hall => hall.not_error hmem hfails⟩

end Check

/-- An attempt to dial the first context, before its first command. -/
def unchecked : Dial :=
  { port := { name := "wwan0" }, charset := .ira, profile := { cid := 1 }, acm := 0, ncm := 1 }

/-- A context that is spelled with a sign and a zero is the one to dial, and one whose number would
be the same if it were cut down to 32 bits is not. -/
theorem heeds_records_signed :
    unchecked.step = .checkActive ∧
      HasRecords Activation.tag "+CREG: 1,1\n+CGACT: 2,0 \r\n \t+CGACT:+01 ,\t1".toList
        ["2,0".toList, "+01 ,\t1".toList] ∧
      (unchecked.resume false (.ok "+CREG: 1,1\n+CGACT: 2,0 \r\n \t+CGACT:+01 ,\t1")).value =
        .ask ⟨.mapDataChannel 0 1 1, true⟩ { unchecked with step := .mapDataChannel } ∧
      (unchecked.resume false (.ok "4294967297,1")).value =
        .done (.error (.reply (.contextId .activation))) := by
  have hsigned : HasRecords Activation.tag
      "+CREG: 1,1\n+CGACT: 2,0 \r\n \t+CGACT:+01 ,\t1".toList
      ["2,0".toList, "+01 ,\t1".toList] :=
    (records_eq_iff (by decide)).mp (by decide +kernel)
  have hlarge : HasRecords Activation.tag "4294967297,1".toList ["4294967297,1".toList] :=
    (records_eq_iff (by decide)).mp (by decide +kernel)
  have hread : Activation.read "+CREG: 1,1\n+CGACT: 2,0 \r\n \t+CGACT:+01 ,\t1" =
      .ok [⟨2, false⟩, ⟨1, true⟩] := by decide +kernel
  have hall := ((heeds_records rfl hsigned : unchecked.Heeds _ _).reads _).mp hread
  refine ⟨rfl, hsigned, (heeds_records rfl hsigned).skips.mpr ⟨⟨_, hall⟩, ?_⟩,
    ((heeds_records rfl hlarge).fails _).mpr ?_⟩
  · exact ⟨"+01 ,\t1".toList, by simp, ofRecord_eq_iff.mp (by decide +kernel)⟩
  · exact ⟨[], _, [], [], rfl, .nil, ofRecord_eq_iff.mp (by decide +kernel)⟩

end ModemLink.Dial
