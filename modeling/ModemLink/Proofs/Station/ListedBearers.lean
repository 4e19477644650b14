import ModemLink.Proofs.Station.Reachable

/-!
# The bearers that are listed

What context ids depend on is little: which bearers are listed, on which ids, and whether their
creators still hold them. That is the stake of a bearer. A creation is refused or brings a stake;
any other move changes the stakes in two ways only: a creator lets go of its bearer, and a bearer
goes whose last holder has gone. The last holder may be the creator or an operation, which ends by
an answer or is dropped.

Two facts about stakes are kept by every move. The ids in use are those of the bearers listed, each
used once; and every bearer listed is held by its creator or by an operation under way.

## Main definitions

* `Stake`, `Station.stakes`: what the bearers listed have to do with the ids they are on.
* `Running.EndsBy`: the moves that end an operation.
* `Station.Pursues`, `Station.Shift`: what a move does to the stakes.
* `Station.Balanced`, `Station.Attended`: the two facts that every move keeps.

## Main results

* `Station.leave_cases`: what becomes of a bearer that may have lost its last holder.
* `Station.Orderly.shift`: every move is a shift of stakes.
* `Station.Balanced.shift`, `Station.Attended.shift`: what every shift keeps.
* `Station.Shift.stays_or_goes`, `Station.Shift.stood_or_comes`: where the stakes of a station go,
  and where they come from.
-/

namespace ModemLink

/-- What a bearer has to do with the context id it is on. -/
structure Stake where
  bearer : Nat
  cid : UInt32
  /-- The creator of the bearer has not let go of it. -/
  held : Bool
  deriving DecidableEq, Repr

/-- The stake of a bearer. -/
def Bearer.stake (b : Bearer) : Stake := ⟨b.id, b.profile.cid, b.held⟩

@[simp] theorem Bearer.stake_settle (b : Bearer) (previous : Status) (ending : Ending) :
    (b.settle previous ending).stake = b.stake := by
  match ending with
  | .error _ | .ok (.connected _) | .ok (.refreshed _) | .ok .disconnected
  | .ok (.dialed _) | .ok (.inspected _) | .ok .tornDown => rfl

/-- The stake after a move: the creator of the bearer may have let go of it. -/
def Stake.after (m : Station.Move) (e : Stake) : Stake :=
  if m = .release e.bearer then { e with held := false } else e

@[simp] theorem Stake.bearer_after (m : Station.Move) (e : Stake) :
    (e.after m).bearer = e.bearer := by
  rw [after]
  split <;> rfl

@[simp] theorem Stake.cid_after (m : Station.Move) (e : Stake) : (e.after m).cid = e.cid := by
  rw [after]
  split <;> rfl

theorem Stake.after_eq_self {m : Station.Move} (hm : ∀ id, m ≠ .release id) (e : Stake) :
    e.after m = e :=
  if_neg (hm e.bearer)

theorem Stake.map_after_eq_self {m : Station.Move} (hm : ∀ id, m ≠ .release id)
    (l : List Stake) : l.map (·.after m) = l := by
  rw [List.map_congr_left fun e _ => after_eq_self hm e, List.map_id']

/-- A move ends an operation: the answer it brings is the last one that the operation asked for,
or the operation is dropped where it waits. -/
inductive Running.EndsBy (r : Running) : Station.Move → Prop
  | answered {a : Answer} {ending : Ending}
      (turn : (r.operation.resume r.cancelled a).value = .done ending) :
      EndsBy r (.answer r.ticket a)
  | dropped : EndsBy r (.abort r.ticket)

namespace Station

variable {s : Station}

/-! ### Creation -/

/-- The station with a bearer more. -/
def withBearer (s : Station) (profile : Profile) : Station :=
  { s with
    bearers := s.bearers ++ [{ id := s.nextBearer, profile }]
    usedCids := profile.cid :: s.usedCids
    nextBearer := s.nextBearer + 1 }

/-- A creation is refused for the id zero, refused for an id in use, or brings a bearer. -/
theorem create_cases (s : Station) (profile : Profile) :
    (profile.cid = 0 ∧ (s.create profile).value =
      (s, .error (.invalidArguments "context id must be 1 or greater"))) ∨
    (profile.cid ≠ 0 ∧ profile.cid ∈ s.usedCids ∧ (s.create profile).value =
      (s, .error (.wrongState
        ("context id " ++ toString profile.cid ++ " is already used by another bearer")))) ∨
    (profile.cid ≠ 0 ∧ profile.cid ∉ s.usedCids ∧
      (s.create profile).value = (s.withBearer profile, .ok s.nextBearer)) := by
  by_cases hzero : profile.cid = 0
  · exact .inl ⟨hzero, by simp [create, hzero]⟩
  · by_cases hused : profile.cid ∈ s.usedCids
    · exact .inr (.inl ⟨hzero, hused, by simp [create, hzero, hused]⟩)
    · exact .inr (.inr ⟨hzero, hused, by simp [create, hzero, hused, withBearer]⟩)

theorem next_create (s : Station) (profile : Profile) :
    s.next (.create profile) = (s.create profile).value.1 := rfl

/-- A creation that tells an id has brought the bearer. -/
theorem of_create_eq_ok {profile : Profile} {id : Nat}
    (h : (s.create profile).value.2 = .ok id) :
    id = s.nextBearer ∧ s.next (.create profile) = s.withBearer profile := by
  rw [next_create]
  rcases s.create_cases profile with ⟨-, heq⟩ | ⟨-, -, heq⟩ | ⟨-, -, heq⟩
  · rw [heq] at h; cases h
  · rw [heq] at h; cases h
  · rw [heq] at h ⊢
    exact ⟨(Except.ok.inj h).symm, rfl⟩

/-! ### The last holder goes -/

/-- The stakes of the bearers listed. -/
def stakes (s : Station) : List Stake := s.bearers.map (·.stake)

/-- The station after somebody who held a bearer has gone, and may have been the last to. -/
def leave (s : Station) : Option Nat → Station
  | none => s
  | some id => s.reap id

theorem stakes_update {id : Nat} {f : Bearer → Bearer}
    (hf : ∀ b ∈ s.bearers, b.id = id → (f b).stake = b.stake) :
    (s.update id f).stakes = s.stakes := by
  simp only [stakes, update, List.map_map]
  refine List.map_congr_left fun b hb => ?_
  simp only [Function.comp_apply]
  split
  · next hid => exact hf b hb hid
  · rfl

theorem stakes_withBearer (profile : Profile) :
    (s.withBearer profile).stakes = s.stakes ++ [⟨s.nextBearer, profile.cid, true⟩] := by
  simp [stakes, withBearer, Bearer.stake]

@[simp] theorem usedCids_withBearer (profile : Profile) :
    (s.withBearer profile).usedCids = profile.cid :: s.usedCids := rfl

@[simp] theorem operationsOf_leave (last : Option Nat) (id : Nat) :
    (s.leave last).operationsOf id = s.operationsOf id := by
  cases last with
  | none => rfl
  | some i => exact operationsOf_reap i id

theorem operationsOf_filter (p : Running → Bool) (id : Nat) :
    operationsOf { s with running := s.running.filter p } id = (s.operationsOf id).filter p := by
  simp only [operationsOf, List.filter_filter, Bool.and_comm]

theorem operationsOf_conclude (owner : Option Owner) (f : Owner → Bearer → Bearer) (id : Nat) :
    (s.conclude owner f).operationsOf id = s.operationsOf id := by
  cases owner with
  | none => rfl
  | some o =>
    rw [conclude, operationsOf_reap]
    rfl

theorem operationsOf_cancelTicket (ticket id : Nat) :
    (s.cancelTicket ticket).operationsOf id =
      (s.operationsOf id).map fun r =>
        if r.ticket = ticket then { r with cancelled := true } else r :=
  operationsOf_map (fun r => by split <;> rfl) id

/-- Ids tell stakes apart. -/
def Distinct (s : Station) : Prop := (s.stakes.map (·.bearer)).Nodup

theorem Orderly.distinct (h : s.Orderly) : s.Distinct := by
  have heq : s.stakes.map (·.bearer) = s.bearers.map (·.id) := by
    simp [stakes, Bearer.stake]
  rw [Distinct, heq]
  exact h.bearerIds

theorem Distinct.eq (h : s.Distinct) {e e' : Stake} (he : e ∈ s.stakes) (he' : e' ∈ s.stakes)
    (hid : e.bearer = e'.bearer) : e = e' :=
  List.inj_on_of_nodup_map h he he' hid

/-- Either the bearer is still held, and nothing happens, or it goes and gives its id back. -/
theorem leave_cases (h : s.Distinct) (last : Option Nat) :
    (s.leave last = s ∧ ∀ e ∈ s.stakes, last = some e.bearer →
      e.held = true ∨ s.operationsOf e.bearer ≠ []) ∨
    ∃ e ∈ s.stakes, last = some e.bearer ∧ e.held = false ∧ s.operationsOf e.bearer = [] ∧
      (s.leave last).stakes = s.stakes.filter (·.bearer != e.bearer) ∧
      (s.leave last).usedCids = s.usedCids.erase e.cid := by
  cases last with
  | none => exact .inl ⟨rfl, fun _ _ hlast => by cases hlast⟩
  | some id =>
    simp only [leave, Option.some.injEq, Station.reap]
    split
    · next hnone =>
      refine .inl ⟨rfl, fun e he hid => ?_⟩
      obtain ⟨b, hb, rfl⟩ := List.mem_map.mp he
      rw [bearer?, List.find?_eq_none] at hnone
      exact absurd (beq_iff_eq.mpr hid.symm) (hnone b hb)
    · next b hb =>
      obtain ⟨hmem, rfl⟩ := mem_of_bearer? hb
      have hstake : b.stake ∈ s.stakes := List.mem_map_of_mem hmem
      split
      · next hkeep =>
        refine .inl ⟨rfl, fun e he hid => ?_⟩
        obtain rfl := h.eq hstake he hid
        exact (Bool.or_eq_true_iff.mp hkeep).imp_right isOperating_eq_true
      · next hgo =>
        rw [Bool.or_eq_true, not_or, Bool.not_eq_true, Bool.not_eq_true] at hgo
        refine .inr ⟨b.stake, hstake, rfl, hgo.1, isOperating_eq_false hgo.2, ?_, rfl⟩
        simp only [stakes, List.filter_map]
        rfl

theorem mem_of_mem_leave (h : s.Distinct) {last : Option Nat} {e : Stake}
    (he : e ∈ (s.leave last).stakes) : e ∈ s.stakes := by
  rcases leave_cases h last with ⟨heq, -⟩ | ⟨e', -, -, -, -, heq, -⟩
  · rwa [heq] at he
  · rw [heq] at he
    exact List.mem_of_mem_filter he

/-- Whoever is held stays. -/
theorem mem_leave_or_gone (h : s.Distinct) (last : Option Nat) {e : Stake} (he : e ∈ s.stakes) :
    e ∈ (s.leave last).stakes ∨
      e.held = false ∧ ∀ e' ∈ (s.leave last).stakes, e'.bearer ≠ e.bearer := by
  rcases leave_cases h last with ⟨heq, -⟩ | ⟨e', he', -, hheld, -, heq, -⟩
  · rw [heq]
    exact .inl he
  · rw [heq]
    by_cases hid : e.bearer = e'.bearer
    · obtain rfl := h.eq he he' hid
      refine .inr ⟨hheld, fun e' he' => ?_⟩
      exact bne_iff_ne.mp (List.mem_filter.mp he').2
    · exact .inl (List.mem_filter.mpr ⟨he, bne_iff_ne.mpr hid⟩)

/-! ### What a move does to the stakes -/

/-- What a move that creates nothing does before the bearer `last`, if there is one, loses a
holder. -/
structure Pursues (s : Station) (m : Move) (last : Option Nat) (t : Station) : Prop where
  stakes_eq : t.stakes = s.stakes.map (·.after m)
  usedCids_eq : t.usedCids = s.usedCids
  released : ∀ id, m = .release id → last = some id
  operating : ∀ id, s.operationsOf id ≠ [] → t.operationsOf id ≠ [] ∨
    last = some id ∧ ∃ r ∈ s.operationsOf id, r.EndsBy m

theorem Pursues.of_operating {t : Station} {m : Move} {last : Option Nat}
    (hm : ∀ id, m ≠ .release id) (hstakes : t.stakes = s.stakes)
    (hused : t.usedCids = s.usedCids)
    (hoperating : ∀ id, s.operationsOf id ≠ [] → t.operationsOf id ≠ []) : s.Pursues m last t where
  stakes_eq := by rw [hstakes, Stake.map_after_eq_self hm]
  usedCids_eq := hused
  released := fun id h => absurd h (hm id)
  operating := fun id h => .inl (hoperating id h)

theorem Pursues.distinct {t : Station} {m : Move} {last : Option Nat} (hp : s.Pursues m last t)
    (h : s.Distinct) : t.Distinct := by
  simp only [Distinct, hp.stakes_eq, List.map_map, Function.comp_def, Stake.bearer_after]
  exact h

theorem pursues_release (s : Station) (id : Nat) :
    s.Pursues (.release id) (some id) (s.update id fun b => { b with held := false }) where
  stakes_eq := by
    simp only [stakes, update, List.map_map]
    refine List.map_congr_left fun b _ => ?_
    simp only [Function.comp_apply, Stake.after, Bearer.stake, Move.release.injEq, eq_comm]
    split <;> rfl
  usedCids_eq := rfl
  released := fun _ h => by rw [Move.release.inj h]
  operating := fun _ h => .inl h

/-- Where an operation is over, everything else goes on. -/
theorem Orderly.operating_filter (h : s.Orderly) {r : Running} (hr : r ∈ s.running) {id : Nat}
    (hne : s.operationsOf id ≠ []) :
    operationsOf { s with running := s.running.filter (·.ticket != r.ticket) } id ≠ [] ∨
      r ∈ s.operationsOf id := by
  obtain ⟨r', hr'⟩ := List.exists_mem_of_ne_nil _ hne
  obtain ⟨hmem, howner⟩ := mem_operationsOf.mp hr'
  by_cases ht : r'.ticket = r.ticket
  · obtain rfl := h.eq_of_ticket_eq hmem hr ht
    exact .inr hr'
  · refine .inl (List.ne_nil_of_mem (mem_operationsOf.mpr ⟨?_, howner⟩))
    exact List.mem_filter.mpr ⟨hmem, bne_iff_ne.mpr ht⟩

/-- An operation that is over costs its bearer a holder, and no bearer else. -/
theorem Orderly.pursues_conclude (h : s.Orderly) {m : Move} (hm : ∀ id, m ≠ .release id)
    {r : Running} (hr : r ∈ s.running) (hends : r.EndsBy m) {f : Owner → Bearer → Bearer}
    (hf : ∀ o b, (f o b).stake = b.stake) :
    ∃ t last, s.Pursues m last t ∧
      ({ s with running := s.running.filter (·.ticket != r.ticket) }).conclude r.owner f =
        t.leave last := by
  cases howner : r.owner with
  | none =>
    refine ⟨_, none, ?_, rfl⟩
    refine .of_operating hm rfl rfl fun id hne => ?_
    refine (h.operating_filter hr hne).resolve_right fun hmem => ?_
    simp [mem_operationsOf, howner] at hmem
  | some o =>
    refine ⟨({ s with running := s.running.filter (·.ticket != r.ticket) }).update o.bearer (f o),
      some o.bearer, ⟨?_, rfl, fun id hid => absurd hid (hm id), fun id hne => ?_⟩, rfl⟩
    · rw [stakes_update fun b _ _ => hf o b, Stake.map_after_eq_self hm]
      rfl
    · refine (h.operating_filter hr hne).imp (fun hne' => hne') fun hmem => ⟨?_, r, hmem, hends⟩
      simpa [howner] using (mem_operationsOf.mp hmem).2

/-- What a move that creates nothing does: somebody lets go of a bearer, or an operation ends, or
the stakes stay as they are. -/
theorem Orderly.pursues (h : s.Orderly) {m : Move} (hm : ∀ profile, m ≠ .create profile) :
    ∃ t last, s.Pursues m last t ∧ s.next m = t.leave last := by
  by_cases hrelease : ∃ id, m = .release id
  · obtain ⟨id, rfl⟩ := hrelease
    exact ⟨_, some id, pursues_release s id, rfl⟩
  have hm' (id : Nat) : m ≠ .release id := fun heq => hrelease ⟨id, heq⟩
  have hs := s.step m
  generalize s.next m = s' at hs
  generalize s.returned? m = ret at hs
  cases hs with
  | unmoved | refused | rested =>
    exact ⟨s, none, .of_operating hm' rfl rfl fun _ hne => hne, rfl⟩
  | created profile => exact absurd rfl (hm profile)
  | released id => exact absurd rfl (hm' id)
  | occupied hb =>
    refine ⟨_, none, ?_, rfl⟩
    refine .of_operating hm' ?_ rfl fun id hne => ?_
    · refine stakes_update fun b' hb' hid => ?_
      rw [h.eq_of_id_eq hb' hb hid]
      rfl
    · simp only [operationsOf, enter, running_update, List.filter_append]
      exact List.append_ne_nil_of_left_ne_nil hne _
  | @finished b hb =>
    refine ⟨_, some b.id, ?_, rfl⟩
    refine .of_operating hm' ?_ rfl fun _ hne => hne
    refine stakes_update fun b' hb' hid => ?_
    rw [h.eq_of_id_eq hb' hb hid, Bearer.stake_settle]
    rfl
  | @entered _ _ first =>
    refine ⟨_, none, ?_, rfl⟩
    cases first.value with
    | ask request op =>
      refine .of_operating hm' rfl rfl fun id hne => ?_
      simp only [operationsOf, enter, List.filter_append]
      exact List.append_ne_nil_of_left_ne_nil hne _
    | done ending => exact .of_operating hm' rfl rfl fun _ hne => hne
  | resumed =>
    refine ⟨_, none, ?_, rfl⟩
    refine .of_operating hm' rfl rfl fun id hne => ?_
    rw [operationsOf_map fun r' => owner_broughtOn _ _ _ r']
    exact fun hnil => hne (List.map_eq_nil_iff.mp hnil)
  | ended hr hturn =>
    exact h.pursues_conclude hm' (mem_of_running? hr).1 (.answered hturn)
      fun o b => b.stake_settle o.previous _
  | asked _ ticket =>
    refine ⟨s.cancelTicket ticket, none, ?_, rfl⟩
    refine .of_operating hm' rfl rfl fun id hne => ?_
    rw [operationsOf_cancelTicket]
    exact fun hnil => hne (List.map_eq_nil_iff.mp hnil)
  | dropped hr =>
    exact h.pursues_conclude hm' (mem_of_running? hr).1 .dropped fun _ _ => rfl

/-- What a move does to the stakes: a creation is refused or brings a bearer, and any other move
pursues what it is about. -/
inductive Shift (s : Station) (m : Move) : Station → Prop
  | refused {profile : Profile} (create : m = .create profile) : Shift s m s
  | created {profile : Profile} (create : m = .create profile) (zero : profile.cid ≠ 0)
      (free : profile.cid ∉ s.usedCids) (ok : (s.create profile).value.2 = .ok s.nextBearer) :
      Shift s m (s.withBearer profile)
  | pursued {last : Option Nat} {t : Station} (pursues : s.Pursues m last t) :
      Shift s m (t.leave last)

/-- Every move is a shift of stakes. -/
theorem Orderly.shift (h : s.Orderly) (m : Move) : s.Shift m (s.next m) := by
  by_cases hm : ∃ profile, m = .create profile
  · obtain ⟨profile, rfl⟩ := hm
    rw [next_create]
    rcases s.create_cases profile with ⟨-, heq⟩ | ⟨-, -, heq⟩ | ⟨hzero, hfree, heq⟩
    · rw [heq]
      exact .refused rfl
    · rw [heq]
      exact .refused rfl
    · rw [heq]
      exact .created rfl hzero hfree (congrArg Prod.snd heq)
  · obtain ⟨t, last, hp, heq⟩ := h.pursues fun profile heq => hm ⟨profile, heq⟩
    rw [heq]
    exact .pursued hp

/-- Operations of a bearer are no longer under way only where a move ended one. -/
theorem Shift.exists_endsBy {m : Move} {s' : Station} (hs : s.Shift m s') {id : Nat}
    (hne : s.operationsOf id ≠ []) (hnil : s'.operationsOf id = []) :
    ∃ r ∈ s.operationsOf id, r.EndsBy m := by
  cases hs with
  | refused | created => exact absurd hnil hne
  | pursued hp =>
    rw [operationsOf_leave] at hnil
    exact ((hp.operating id hne).resolve_left fun hne' => hne' hnil).2

/-- The last answer to an operation ends it. -/
theorem next_answer_of_done {r : Running} (hr : s.running? r.ticket = some r) {a : Answer}
    {ending : Ending} (turn : (r.operation.resume r.cancelled a).value = .done ending) :
    s.next (.answer r.ticket a) =
      ({ s with running := s.running.filter (·.ticket != r.ticket) }).settle r.owner ending := by
  change (s.answer r.ticket a).value.1 = _
  simp only [Station.answer, hr, Logged.value_bind, turn, Logged.value_pure]

theorem next_abort {r : Running} (hr : s.running? r.ticket = some r) :
    s.next (.abort r.ticket) =
      ({ s with running := s.running.filter (·.ticket != r.ticket) }).conclude r.owner
        fun o b => b.restore o.previous := by
  change s.abort r.ticket = _
  simp only [abort, hr]

/-- A bearer has one operation under way at most, so that with its end there is none. -/
theorem Orderly.operationsOf_next_of_endsBy (h : s.Orderly) {m : Move} {id : Nat} {r : Running}
    (hr : r ∈ s.operationsOf id) (hends : r.EndsBy m) : (s.next m).operationsOf id = [] := by
  obtain ⟨hmem, howner⟩ := mem_operationsOf.mp hr
  obtain ⟨o, ho, rfl⟩ := Option.map_eq_some_iff.mp howner
  obtain ⟨b, -, rfl, hops, -⟩ := h.phase_of_owner hmem ho
  have hrunning := h.running?_eq hmem
  have hover (f : Owner → Bearer → Bearer) :
      (({ s with running := s.running.filter (·.ticket != r.ticket) }).conclude r.owner
        f).operationsOf b.id = [] := by
    rw [operationsOf_conclude, operationsOf_filter, hops]
    simp
  cases hends with
  | answered turn =>
    rw [next_answer_of_done hrunning turn]
    exact hover _
  | dropped =>
    rw [next_abort hrunning]
    exact hover _

/-! ### The ids in use are those of the bearers listed -/

/-- The ids in use are those of the bearers listed, each used once, and none is zero. -/
structure Balanced (s : Station) : Prop where
  used : s.usedCids.Nodup
  cids : (s.stakes.map (·.cid)).Nodup
  mem_used_iff (cid : UInt32) : cid ∈ s.usedCids ↔ ∃ e ∈ s.stakes, e.cid = cid
  ne_zero : ∀ e ∈ s.stakes, e.cid ≠ 0

namespace Balanced

variable (h : s.Balanced)
include h

theorem eq_of_cid_eq {e e' : Stake} (he : e ∈ s.stakes) (he' : e' ∈ s.stakes)
    (hcid : e.cid = e'.cid) : e = e' :=
  List.inj_on_of_nodup_map h.cids he he' hcid

/-- Who holds a bearer does not matter to the balance. -/
theorem pursue {m : Move} {last : Option Nat} {t : Station} (hp : s.Pursues m last t) :
    t.Balanced where
  used := hp.usedCids_eq ▸ h.used
  cids := by
    simp only [hp.stakes_eq, List.map_map, Function.comp_def, Stake.cid_after]
    exact h.cids
  mem_used_iff cid := by
    simp only [hp.usedCids_eq, hp.stakes_eq, h.mem_used_iff, List.mem_map, exists_exists_and_eq_and,
      Stake.cid_after]
  ne_zero := by
    simp only [hp.stakes_eq, List.forall_mem_map, Stake.cid_after]
    exact h.ne_zero

/-- The last holder of a bearer goes: the id that is given back is the bearer's, and it is
nobody else's. -/
theorem leave (hd : s.Distinct) (last : Option Nat) : (s.leave last).Balanced := by
  rcases leave_cases hd last with ⟨heq, -⟩ | ⟨e, he, -, -, -, hstakes, hused⟩
  · rw [heq]
    exact h
  · have hmem (e' : Stake) :
        e' ∈ (s.leave last).stakes ↔ e' ∈ s.stakes ∧ e'.bearer ≠ e.bearer := by
      rw [hstakes, List.mem_filter, bne_iff_ne]
    refine ⟨hused ▸ h.used.erase _, ?_, fun cid => ?_, fun e' he' => ?_⟩
    · rw [hstakes]
      exact h.cids.sublist (List.filter_sublist.map _)
    · rw [hused, h.used.mem_erase_iff, h.mem_used_iff]
      constructor
      · rintro ⟨hne, e', he', rfl⟩
        refine ⟨e', (hmem e').mpr ⟨he', fun hid => hne ?_⟩, rfl⟩
        rw [hd.eq he' he hid]
      · rintro ⟨e', he', rfl⟩
        obtain ⟨he', hid⟩ := (hmem e').mp he'
        exact ⟨fun hcid => hid (by rw [h.eq_of_cid_eq he' he hcid]), e', he', rfl⟩
    · exact h.ne_zero e' ((hmem e').mp he').1

/-- A bearer comes on an id that is free. -/
theorem withBearer {profile : Profile} (hzero : profile.cid ≠ 0)
    (hfree : profile.cid ∉ s.usedCids) : (s.withBearer profile).Balanced where
  used := List.nodup_cons.mpr ⟨hfree, h.used⟩
  cids := by
    rw [stakes_withBearer, List.map_append, List.nodup_append]
    refine ⟨h.cids, List.nodup_singleton _, ?_⟩
    intro cid hcid cid' hcid' heq
    obtain ⟨e, he, rfl⟩ := List.mem_map.mp hcid
    obtain rfl := List.mem_singleton.mp hcid'
    exact hfree ((h.mem_used_iff _).mpr ⟨e, he, heq⟩)
  mem_used_iff cid := by
    simp only [usedCids_withBearer, stakes_withBearer, List.mem_cons, h.mem_used_iff,
      List.mem_append, List.not_mem_nil, or_false, or_and_right, exists_or, exists_eq_left]
    rw [or_comm, eq_comm]
  ne_zero e he := by
    rw [stakes_withBearer, List.mem_append, List.mem_singleton] at he
    rcases he with he | rfl
    · exact h.ne_zero e he
    · exact hzero

/-- Every move keeps the ids in balance. -/
theorem shift (hd : s.Distinct) {m : Move} {s' : Station} (hs : s.Shift m s') : s'.Balanced := by
  cases hs with
  | refused => exact h
  | created _ hzero hfree => exact h.withBearer hzero hfree
  | pursued hp => exact (h.pursue hp).leave (hp.distinct hd) _

end Balanced

/-! ### Everyone listed is held -/

/-- Every bearer listed is held by its creator, or by an operation under way. -/
def Attended (s : Station) : Prop :=
  ∀ e ∈ s.stakes, e.held = true ∨ s.operationsOf e.bearer ≠ []

/-- Where only one bearer may have lost its last holder, it is the one that goes. -/
theorem attended_leave (hd : s.Distinct) {last : Option Nat}
    (h : ∀ e ∈ s.stakes, last ≠ some e.bearer → e.held = true ∨ s.operationsOf e.bearer ≠ []) :
    (s.leave last).Attended := by
  intro e he
  rw [operationsOf_leave]
  rcases leave_cases hd last with ⟨heq, hkeep⟩ | ⟨e', -, hlast, -, -, heq, -⟩
  · rw [heq] at he
    by_cases hlast : last = some e.bearer
    · exact hkeep e he hlast
    · exact h e he hlast
  · rw [heq] at he
    obtain ⟨he, hid⟩ := List.mem_filter.mp he
    refine h e he fun hlast' => bne_iff_ne.mp hid ?_
    exact Option.some.inj (hlast'.symm.trans hlast)

/-- Every move leaves everyone listed held. -/
theorem Attended.shift (h : s.Attended) (hd : s.Distinct) {m : Move} {s' : Station}
    (hs : s.Shift m s') : s'.Attended := by
  cases hs with
  | refused => exact h
  | created =>
    intro e he
    rw [stakes_withBearer, List.mem_append, List.mem_singleton] at he
    rcases he with he | rfl
    · exact h e he
    · exact .inl rfl
  | pursued hp =>
    refine attended_leave (hp.distinct hd) fun e' he' hlast => ?_
    rw [hp.stakes_eq] at he'
    obtain ⟨e, he, rfl⟩ := List.mem_map.mp he'
    rw [Stake.bearer_after] at hlast ⊢
    rw [Stake.after, if_neg fun hrelease => hlast (hp.released _ hrelease)]
    exact (h e he).imp_right fun hne =>
      (hp.operating _ hne).resolve_right fun hend => hlast hend.1

/-! ### Where stakes come from, and where they go -/

/-- A stake stays, up to its creator's letting go, or its bearer goes and is held by nobody. -/
theorem Shift.stays_or_goes (hd : s.Distinct) {m : Move} {s' : Station} (hs : s.Shift m s')
    {e : Stake} (he : e ∈ s.stakes) :
    e.after m ∈ s'.stakes ∨
      (e.after m).held = false ∧ ∀ e' ∈ s'.stakes, e'.bearer ≠ e.bearer := by
  cases hs with
  | refused hm =>
    rw [Stake.after_eq_self fun id => by simp [hm]]
    exact .inl he
  | created hm =>
    rw [Stake.after_eq_self fun id => by simp [hm], stakes_withBearer]
    exact .inl (List.mem_append_left _ he)
  | pursued hp =>
    rw [← Stake.bearer_after m e]
    refine mem_leave_or_gone (hp.distinct hd) _ ?_
    rw [hp.stakes_eq]
    exact List.mem_map_of_mem he

/-- A stake was there before, or it comes with a bearer. -/
theorem Shift.stood_or_comes (hd : s.Distinct) {m : Move} {s' : Station} (hs : s.Shift m s')
    {e' : Stake} (he' : e' ∈ s'.stakes) :
    (∃ e ∈ s.stakes, e.bearer = e'.bearer ∧ e.cid = e'.cid) ∨
      ∃ profile, m = .create profile ∧ profile.cid = e'.cid ∧
        (s.create profile).value.2 = .ok e'.bearer := by
  cases hs with
  | refused => exact .inl ⟨e', he', rfl, rfl⟩
  | created hm hzero hfree hok =>
    rw [stakes_withBearer, List.mem_append, List.mem_singleton] at he'
    rcases he' with he' | rfl
    · exact .inl ⟨e', he', rfl, rfl⟩
    · exact .inr ⟨_, hm, rfl, hok⟩
  | pursued hp =>
    have hmem := mem_of_mem_leave (hp.distinct hd) he'
    rw [hp.stakes_eq] at hmem
    obtain ⟨e, he, rfl⟩ := List.mem_map.mp hmem
    exact .inl ⟨e, he, (e.bearer_after m).symm, (e.cid_after m).symm⟩

/-- A bearer that has gone never comes again. -/
theorem Shift.absent (hd : s.Distinct) {m : Move} {s' : Station} (hs : s.Shift m s') {id : Nat}
    (hlt : id < s.nextBearer) (h : ∀ e ∈ s.stakes, e.bearer ≠ id) :
    ∀ e ∈ s'.stakes, e.bearer ≠ id := by
  intro e' he' hid
  rcases hs.stood_or_comes hd he' with ⟨e, he, heq, -⟩ | ⟨profile, -, -, hok⟩
  · exact h e he (heq.trans hid)
  · have := (of_create_eq_ok hok).1
    omega

end Station

end ModemLink
