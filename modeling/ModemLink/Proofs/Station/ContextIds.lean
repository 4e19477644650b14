import ModemLink.Proofs.Station.ListedBearers

/-!
# Context ids in use

A bearer is alive from its creation until nobody holds it any more: its creator has let go of it,
and no operation of it is under way. Its context id is taken in one place, where it is created, and
given back in another, where its last holder goes; that holder may be an operation which a caller
started and left to itself. The two places keep step: in every run the ids in use are the ids of
the bearers alive, each of them used once.

Who is alive is told from the history of a run, by what was created and let go of and by what is
still under way. The station's own list of bearers is shown to agree with it.

Source: the specification, section 10.4.

## Main definitions

* `Station.Run.Created`, `Station.Run.Alive`: the bearers that a run has created, and those that
  somebody still holds.
* `Station.Run.LosesLastHolder`: the moves by which a bearer ceases to be alive.
* `Station.Run.Accounts`: how the ids in use stand to the bearers alive.

## Main results

* `Station.Run.Created.stake`: what has become of a bearer that was created.
* `Station.Run.alive_iff`: the bearers alive are the ones listed.
* `Station.Run.not_mem_usedCids_next_iff`: where an id in use becomes free.
* `Station.Run.accounts`: the accounts of every run.
-/

namespace ModemLink

namespace Station

/-! ### Histories -/

namespace Run

/-- The run created a bearer on a context id, and made further moves since. -/
def Created (modem : Modem) (moves : List Move) (id : Nat) (cid : UInt32) (since : List Move) :
    Prop :=
  ∃ earlier profile, moves = earlier ++ .create profile :: since ∧ profile.cid = cid ∧
    ((after modem earlier).station.create profile).value.2 = .ok id

/-- A bearer that the run created is held by its creator, or by an operation under way. -/
def Alive (modem : Modem) (moves : List Move) (id : Nat) (cid : UInt32) : Prop :=
  ∃ since, Created modem moves id cid since ∧
    (.release id ∉ since ∨ (after modem moves).station.operationsOf id ≠ [])

/-- A move takes the last holder of a bearer away. -/
inductive LosesLastHolder (modem : Modem) (moves : List Move) (id : Nat) (cid : UInt32) :
    Move → Prop
  /-- The creator lets go of the bearer while nothing is under way. -/
  | released {since : List Move} (created : Created modem moves id cid since)
      (held : .release id ∉ since) (idle : (after modem moves).station.operationsOf id = []) :
      LosesLastHolder modem moves id cid (.release id)
  /-- The operation ends that was under way when the creator let go. -/
  | ended {since : List Move} {m : Move} (created : Created modem moves id cid since)
      (released : .release id ∈ since) {r : Running}
      (underway : r ∈ (after modem moves).station.operationsOf id) (ends : r.EndsBy m) :
      LosesLastHolder modem moves id cid m

variable {modem : Modem} {moves since : List Move} {m : Move} {id : Nat} {cid : UInt32}

/-- The bearer was created by the last move, or before it. -/
theorem created_concat_iff :
    Created modem (moves ++ [m]) id cid since ↔
      (since = [] ∧ ∃ profile, m = .create profile ∧ profile.cid = cid ∧
        ((after modem moves).station.create profile).value.2 = .ok id) ∨
      ∃ since', since = since' ++ [m] ∧ Created modem moves id cid since' := by
  constructor
  · rintro ⟨earlier, profile, hmoves, hcid, hok⟩
    rcases List.eq_nil_or_concat' since with rfl | ⟨since', m', rfl⟩
    · obtain ⟨rfl, hm⟩ := List.append_inj' hmoves rfl
      exact .inl ⟨rfl, profile, List.singleton_injective hm, hcid, hok⟩
    · rw [← List.cons_append, ← List.append_assoc] at hmoves
      obtain ⟨rfl, hm⟩ := List.append_inj' hmoves rfl
      obtain rfl := List.singleton_injective hm
      exact .inr ⟨since', rfl, earlier, profile, rfl, hcid, hok⟩
  · rintro (⟨rfl, profile, rfl, hcid, hok⟩ | ⟨since', rfl, earlier, profile, rfl, hcid, hok⟩)
    · exact ⟨moves, profile, rfl, hcid, hok⟩
    · exact ⟨earlier, profile, by simp, hcid, hok⟩

/-! ### What holds in every run -/

theorem balanced (modem : Modem) (moves : List Move) : (after modem moves).station.Balanced := by
  induction moves using List.reverseRecOn with
  | nil => constructor <;> simp [stakes]
  | append_singleton moves m ih =>
    rw [after_concat]
    exact ih.shift (orderly modem moves).distinct ((orderly modem moves).shift m)

theorem attended (modem : Modem) (moves : List Move) : (after modem moves).station.Attended := by
  induction moves using List.reverseRecOn with
  | nil => intro e he; cases he
  | append_singleton moves m ih =>
    rw [after_concat]
    exact ih.shift (orderly modem moves).distinct ((orderly modem moves).shift m)

/-- The creator holds the bearer until one of its moves lets go of it. -/
theorem after_held (id : Nat) (cid : UInt32) (since : List Move) (m : Move) :
    (⟨id, cid, decide (.release id ∉ since)⟩ : Stake).after m =
      ⟨id, cid, decide (.release id ∉ since ++ [m])⟩ := by
  by_cases hm : m = .release id
  · simp [Stake.after, hm]
  · simp [Stake.after, hm, Ne.symm hm]

/-- A bearer that was created is listed, with its creator as holder until it lets go; or it has
been let go of, and has gone. -/
theorem Created.stake (hc : Created modem moves id cid since) :
    id < (after modem moves).station.nextBearer ∧
      (⟨id, cid, decide (.release id ∉ since)⟩ ∈ (after modem moves).station.stakes ∨
        .release id ∈ since ∧ ∀ e ∈ (after modem moves).station.stakes, e.bearer ≠ id) := by
  induction moves using List.reverseRecOn generalizing since with
  | nil =>
    obtain ⟨earlier, profile, hmoves, -⟩ := hc
    simp at hmoves
  | append_singleton moves m ih =>
    rw [after_concat]
    change id < ((after modem moves).station.next m).nextBearer ∧
      (_ ∈ ((after modem moves).station.next m).stakes ∨
        _ ∧ ∀ e ∈ ((after modem moves).station.next m).stakes, e.bearer ≠ id)
    rcases created_concat_iff.mp hc with ⟨rfl, profile, rfl, rfl, hok⟩ | ⟨since, rfl, hbefore⟩
    · obtain ⟨rfl, heq⟩ := of_create_eq_ok hok
      rw [heq, stakes_withBearer]
      exact ⟨Nat.lt_succ_self _, .inl (by simp)⟩
    · obtain ⟨hlt, hstake⟩ := ih hbefore
      have hd := (orderly modem moves).distinct
      have hshift := (orderly modem moves).shift m
      refine ⟨Nat.lt_of_lt_of_le hlt ((after modem moves).station.step m).continues.nextBearer_le,
        ?_⟩
      rcases hstake with hstake | ⟨hreleased, habsent⟩
      · have hnext := hshift.stays_or_goes hd hstake
        rw [after_held] at hnext
        refine hnext.imp_right fun ⟨hheld, hgone⟩ => ⟨?_, hgone⟩
        exact Decidable.not_not.mp (of_decide_eq_false hheld)
      · exact .inr ⟨List.mem_append_left _ hreleased, hshift.absent hd hlt habsent⟩

/-- A bearer that is listed was created. -/
theorem exists_created {e : Stake} (he : e ∈ (after modem moves).station.stakes) :
    ∃ since, Created modem moves e.bearer e.cid since := by
  induction moves using List.reverseRecOn generalizing e with
  | nil => cases he
  | append_singleton moves m ih =>
    rw [after_concat] at he
    rcases ((orderly modem moves).shift m).stood_or_comes (orderly modem moves).distinct he with
      ⟨e', he', hid, hcid⟩ | ⟨profile, hm, hcid, hok⟩
    · obtain ⟨since, hc⟩ := ih he'
      rw [hid, hcid] at hc
      exact ⟨since ++ [m], created_concat_iff.mpr (.inr ⟨since, rfl, hc⟩)⟩
    · exact ⟨[], created_concat_iff.mpr (.inl ⟨rfl, profile, hm, hcid, hok⟩)⟩

/-- A bearer that is not listed has no operation under way. -/
theorem operationsOf_eq_nil (h : ∀ e ∈ (after modem moves).station.stakes, e.bearer ≠ id) :
    (after modem moves).station.operationsOf id = [] := by
  rw [List.eq_nil_iff_forall_not_mem]
  intro r hr
  obtain ⟨hmem, howner⟩ := mem_operationsOf.mp hr
  obtain ⟨o, ho, rfl⟩ := Option.map_eq_some_iff.mp howner
  obtain ⟨b, hb, hid⟩ := (orderly modem moves).owned r hmem o ho
  exact h b.stake (List.mem_map_of_mem hb) hid

/-- The bearers alive are the ones listed. -/
theorem alive_iff : Alive modem moves id cid ↔
    ∃ e ∈ (after modem moves).station.stakes, e.bearer = id ∧ e.cid = cid := by
  constructor
  · rintro ⟨since, hc, halive⟩
    rcases hc.stake.2 with hstake | ⟨hreleased, habsent⟩
    · exact ⟨_, hstake, rfl, rfl⟩
    · exact (halive.elim (fun h => h hreleased) fun h => h (operationsOf_eq_nil habsent)).elim
  · rintro ⟨e, he, rfl, rfl⟩
    obtain ⟨since, hc⟩ := exists_created he
    refine ⟨since, hc, ?_⟩
    rcases hc.stake.2 with hstake | ⟨-, habsent⟩
    · have heq := (orderly modem moves).distinct.eq he hstake rfl
      refine (attended modem moves e he).imp_left fun hheld => ?_
      rw [heq] at hheld
      simpa using hheld
    · exact absurd rfl (habsent e he)

/-- No two bearers alive are on one id. -/
theorem alive_unique {id' : Nat} (h : Alive modem moves id cid) (h' : Alive modem moves id' cid) :
    id = id' := by
  obtain ⟨e, he, rfl, hcid⟩ := alive_iff.mp h
  obtain ⟨e', he', rfl, hcid'⟩ := alive_iff.mp h'
  rw [(balanced modem moves).eq_of_cid_eq he he' (hcid.trans hcid'.symm)]

theorem mem_usedCids_iff (cid : UInt32) :
    cid ∈ (after modem moves).station.usedCids ↔ ∃ id, Alive modem moves id cid := by
  rw [(balanced modem moves).mem_used_iff]
  constructor
  · rintro ⟨e, he, rfl⟩
    exact ⟨e.bearer, alive_iff.mpr ⟨e, he, rfl, rfl⟩⟩
  · rintro ⟨id, halive⟩
    obtain ⟨e, he, -, hcid⟩ := alive_iff.mp halive
    exact ⟨e, he, hcid⟩

/-- A bearer that ceases to be alive with a move loses its last holder by it. -/
theorem losesLastHolder_of_not_alive (halive : Alive modem moves id cid)
    (hgone : ¬ Alive modem (moves ++ [m]) id cid) : LosesLastHolder modem moves id cid m := by
  obtain ⟨since, hc, halive⟩ := halive
  have hshift := (orderly modem moves).shift m
  have hlater : .release id ∈ since ++ [m] ∧
      ((after modem moves).station.next m).operationsOf id = [] := by
    by_contra hnot
    refine hgone ⟨since ++ [m], created_concat_iff.mpr (.inr ⟨since, rfl, hc⟩), ?_⟩
    rw [after_concat]
    exact not_and_or.mp hnot
  obtain ⟨hreleased, hnil⟩ := hlater
  by_cases hbefore : .release id ∈ since
  · obtain ⟨r, hr, hends⟩ :=
      hshift.exists_endsBy (halive.resolve_left fun h => h hbefore) hnil
    exact .ended hc hbefore hr hends
  · obtain rfl : .release id = m := by simpa [hbefore] using hreleased
    refine .released hc hbefore ?_
    by_contra hne
    obtain ⟨r, -, hends⟩ := hshift.exists_endsBy hne hnil
    cases hends

namespace LosesLastHolder

variable (h : LosesLastHolder modem moves id cid m)
include h

theorem alive : Alive modem moves id cid := by
  cases h with
  | released hc hheld => exact ⟨_, hc, .inl hheld⟩
  | ended hc _ hr => exact ⟨_, hc, .inr (List.ne_nil_of_mem hr)⟩

theorem ne_create (profile : Profile) : m ≠ .create profile := by
  rintro rfl
  cases h with
  | ended _ _ _ hends => cases hends

/-- With the move nobody holds the bearer: it was let go of, and nothing is under way. -/
theorem forsaken : ∃ since, Created modem (moves ++ [m]) id cid since ∧ .release id ∈ since ∧
    (after modem (moves ++ [m])).station.operationsOf id = [] := by
  rw [after_concat]
  cases h with
  | @released since hc _ hidle =>
    refine ⟨since ++ [_], created_concat_iff.mpr (.inr ⟨since, rfl, hc⟩), by simp, ?_⟩
    change ((after modem moves).station.release id).operationsOf id = []
    rw [release, operationsOf_reap]
    exact hidle
  | @ended since _ hc hreleased _ hr hends =>
    exact ⟨since ++ [m], created_concat_iff.mpr (.inr ⟨since, rfl, hc⟩),
      List.mem_append_left _ hreleased, (orderly modem moves).operationsOf_next_of_endsBy hr hends⟩

/-- A bearer that lost its last holder is alive no longer. -/
theorem not_alive : ¬ Alive modem (moves ++ [m]) id cid := by
  obtain ⟨since, hc, hreleased, hnil⟩ := h.forsaken
  intro halive
  obtain ⟨e, he, rfl, -⟩ := alive_iff.mp halive
  -- If the bearer were still listed, somebody would hold it.
  rcases hc.stake.2 with hstake | ⟨-, habsent⟩
  · have heq := (orderly modem (moves ++ [m])).distinct.eq he hstake rfl
    have hheld := (attended modem (moves ++ [m]) e he).resolve_right fun hne => hne hnil
    rw [heq] at hheld
    exact of_decide_eq_true hheld hreleased
  · exact habsent e he rfl

end LosesLastHolder

/-- An id in use becomes free where its bearer loses its last holder, and nowhere else. -/
theorem not_mem_usedCids_next_iff (h : cid ∈ (after modem moves).station.usedCids) (m : Move) :
    cid ∉ ((after modem moves).station.next m).usedCids ↔
      ∃ id, LosesLastHolder modem moves id cid m := by
  have hnext : cid ∈ ((after modem moves).station.next m).usedCids ↔
      ∃ id, Alive modem (moves ++ [m]) id cid := by
    rw [← mem_usedCids_iff, after_concat]
    rfl
  rw [hnext, not_exists]
  obtain ⟨id, halive⟩ := (mem_usedCids_iff cid).mp h
  constructor
  · intro hgone
    exact ⟨id, losesLastHolder_of_not_alive halive (hgone id)⟩
  · rintro ⟨id', hlost⟩ id'' halive'
    obtain ⟨e, he, rfl, rfl⟩ := alive_iff.mp halive'
    rw [after_concat] at he
    -- No bearer comes with the move, so that whoever is alive was alive before.
    rcases ((orderly modem moves).shift m).stood_or_comes (orderly modem moves).distinct he with
      ⟨e', he', hid, hcid⟩ | ⟨profile, hm, -⟩
    · have hsame := alive_unique hlost.alive (alive_iff.mpr ⟨e', he', hid, hcid⟩)
      exact hlost.not_alive (hsame ▸ halive')
    · exact hlost.ne_create profile hm

/-- A creation on an id that is free brings a new bearer, which is alive and takes the id. -/
theorem create_free (modem : Modem) (moves : List Move) {profile : Profile}
    (hzero : profile.cid ≠ 0) (hfree : profile.cid ∉ (after modem moves).station.usedCids) :
    ∃ s' id, ((after modem moves).station.create profile).value = (s', .ok id) ∧
      (∀ cid, cid ∈ s'.usedCids ↔
        cid = profile.cid ∨ cid ∈ (after modem moves).station.usedCids) ∧
      (∀ cid, ¬ Alive modem moves id cid) ∧
      Alive modem (moves ++ [.create profile]) id profile.cid := by
  rcases (after modem moves).station.create_cases profile with
    ⟨h, -⟩ | ⟨-, h, -⟩ | ⟨-, -, heq⟩
  · exact absurd h hzero
  · exact absurd h hfree
  · refine ⟨_, _, heq, fun cid => List.mem_cons, ?_, ?_⟩
    · rintro cid ⟨since, hc, -⟩
      exact Nat.lt_irrefl _ hc.stake.1
    · refine ⟨[], created_concat_iff.mpr (.inl ⟨rfl, profile, rfl, rfl, ?_⟩), .inl (by simp)⟩
      rw [heq]

/-- How the context ids in use stand to the bearers alive. -/
structure Accounts (modem : Modem) (moves : List Move) (s : Station) : Prop where
  /-- The ids in use are those of the bearers alive. -/
  mem_iff (cid : UInt32) : cid ∈ s.usedCids ↔ ∃ id, Alive modem moves id cid
  nodup : s.usedCids.Nodup
  /-- No two bearers alive are on one id. -/
  unique {id id' : Nat} {cid : UInt32} (h : Alive modem moves id cid)
    (h' : Alive modem moves id' cid) : id = id'
  zero_not_mem : 0 ∉ s.usedCids
  /-- The id zero is refused, and nothing changes. -/
  create_zero (profile : Profile) (h : profile.cid = 0) :
    (s.create profile).value =
      (s, .error (.invalidArguments "context id must be 1 or greater"))
  /-- An id in use is refused, and nothing changes. -/
  create_used (profile : Profile) (h : profile.cid ∈ s.usedCids) :
    (s.create profile).value = (s, .error (.wrongState
      ("context id " ++ toString profile.cid ++ " is already used by another bearer")))
  /-- Any other id is taken by a new bearer. -/
  create_free (profile : Profile) (hzero : profile.cid ≠ 0) (hfree : profile.cid ∉ s.usedCids) :
    ∃ s' id, (s.create profile).value = (s', .ok id) ∧
      (∀ cid, cid ∈ s'.usedCids ↔ cid = profile.cid ∨ cid ∈ s.usedCids) ∧
      (∀ cid, ¬ Alive modem moves id cid) ∧
      Alive modem (moves ++ [.create profile]) id profile.cid
  /-- An id in use becomes free where its bearer loses its last holder, and nowhere else. -/
  freed_iff {cid : UInt32} (h : cid ∈ s.usedCids) (m : Move) :
    cid ∉ (s.next m).usedCids ↔ ∃ id, LosesLastHolder modem moves id cid m

/-- The ids in use are accounted for in every run. -/
theorem accounts (modem : Modem) (moves : List Move) :
    Accounts modem moves (after modem moves).station where
  mem_iff := mem_usedCids_iff
  nodup := (balanced modem moves).used
  unique := alive_unique
  zero_not_mem hzero := by
    obtain ⟨e, he, hcid⟩ := ((balanced modem moves).mem_used_iff 0).mp hzero
    exact (balanced modem moves).ne_zero e he hcid
  create_zero profile h := by
    rcases (after modem moves).station.create_cases profile with ⟨-, heq⟩ | ⟨hne, -⟩ | ⟨hne, -⟩
    · exact heq
    · exact absurd h hne
    · exact absurd h hne
  create_used profile h := by
    rcases (after modem moves).station.create_cases profile with
      ⟨hzero, -⟩ | ⟨-, -, heq⟩ | ⟨-, hne, -⟩
    · obtain ⟨e, he, hcid⟩ := ((balanced modem moves).mem_used_iff _).mp h
      exact absurd (hcid.trans hzero) ((balanced modem moves).ne_zero e he)
    · exact heq
    · exact absurd h hne
  create_free _ := create_free modem moves
  freed_iff := not_mem_usedCids_next_iff

end Run

end Station

end ModemLink
