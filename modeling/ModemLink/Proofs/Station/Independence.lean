import ModemLink.Proofs.Station.SingleBearer
import ModemLink.Proofs.Station.SingleFlight

/-!
# Bearers do not disturb each other

Two bearers of a modem are used at the same time. Their operations take turns at the modem in any
order, and an operation of either may be asked to stop or dropped at any point. If the modem answers
a command by what the command says, each bearer fares as if it were used alone: it puts the same
requests, its calls return the same, and it ends in the same status with the same connection.

What is shared between bearers is the modem, which no move changes, the ids in use, which no call
reads, and the source of tickets, which a seat leaves out. So a bearer has the same seat at every
point of a course and at the same point of the course that is left when everything about other
bearers is taken out; and from the same seat it goes on the same way.

Source: the specification, sections 3 and 5.

## Main definitions

* `Station.course`: what happens to bearers one after another, and what is seen of it.
* `Merges`: a list is an interleaving of two others.
* `Station.Undisturbed`: a bearer fares in a course as it does alone.

## Main results

* `Station.Orderly.course_those`: what happens to other bearers makes no difference to a bearer.
* `Station.Run.independent`: bearers on different contexts do not disturb each other.
-/

namespace ModemLink

/-! ### Interleavings -/

/-- The last list is an interleaving of the other two. -/
inductive Merges {α : Type} : List α → List α → List α → Prop
  | nil : Merges [] [] []
  | left {xs ys zs : List α} (x : α) (h : Merges xs ys zs) : Merges (x :: xs) ys (x :: zs)
  | right {xs ys zs : List α} (y : α) (h : Merges xs ys zs) : Merges xs (y :: ys) (y :: zs)

namespace Merges

variable {α β : Type}

/-- A list is an interleaving of what satisfies a condition and what does not. -/
theorem of_filter (p : α → Bool) (l : List α) : Merges (l.filter p) (l.filter (!p ·)) l := by
  induction l with
  | nil => exact .nil
  | cons x l ih =>
    cases hx : p x
    · simpa [hx] using ih.right x
    · simpa [hx] using ih.left x

theorem filterMap {xs ys zs : List α} (h : Merges xs ys zs) (f : α → Option β) :
    Merges (xs.filterMap f) (ys.filterMap f) (zs.filterMap f) := by
  induction h with
  | nil => exact .nil
  | left x _ ih =>
    cases hx : f x with
    | none => simpa [hx] using ih
    | some y => simpa [hx] using ih.left y
  | right x _ ih =>
    cases hx : f x with
    | none => simpa [hx] using ih
    | some y => simpa [hx] using ih.right y

end Merges

/-- The request that is put, if one is. -/
def Sign.request? : Sign → Option Request
  | asks request => some request
  | returns _ => none

/-! ### Courses -/

namespace Seat

/-- The seat of a bearer, if it is there, after something happened to the bearer. -/
def next (modem : Modem) (reply : String → Answer) (seat : Option Seat) (d : Station.Doing) :
    Option Seat × Option Sign :=
  match seat with
  | none => (none, none)
  | some seat => seat.does modem reply d

end Seat

/-- Those entries of a list that are about one bearer. -/
def those {α : Type} (id : Nat) (l : List (Nat × α)) : List (Nat × α) :=
  l.filter (·.1 == id)

section Those

variable {α : Type} {id other : Nat}

theorem those_cons_self (x : α) (l : List (Nat × α)) :
    those id ((id, x) :: l) = (id, x) :: those id l :=
  List.filter_cons_of_pos (beq_self_eq_true id)

theorem those_cons_of_ne (hne : other ≠ id) (x : α) (l : List (Nat × α)) :
    those id ((other, x) :: l) = those id l :=
  List.filter_cons_of_neg (by simpa using hne)

theorem those_append (l l' : List (Nat × α)) : those id (l ++ l') = those id l ++ those id l' :=
  List.filter_append ..

theorem those_map_self (l : List α) : those id (l.map (id, ·)) = l.map (id, ·) := by
  simp [those]

theorem those_map_of_ne (hne : other ≠ id) (l : List α) : those id (l.map (other, ·)) = [] := by
  simp [those, hne]

end Those

namespace Station

section

variable (reply : String → Answer)

/-- What happens to bearers one after another: the station afterwards, and what is seen on the way,
each with the bearer that it is about. -/
def course (s : Station) : List (Nat × Doing) → Station × List (Nat × Sign)
  | [] => (s, [])
  | (id, d) :: doings =>
    let rest := (s.does reply id d).1.course doings
    (rest.1, (s.does reply id d).2.toList.map (id, ·) ++ rest.2)

/-- The requests that are put in a course, in order. -/
def requests (s : Station) (doings : List (Nat × Doing)) : List Request :=
  (s.course reply doings).2.filterMap (·.2.request?)

/-- A bearer fares in a course as it does when nothing happens to other bearers. -/
structure Undisturbed (s : Station) (doings : List (Nat × Doing)) (id : Nat) : Prop where
  /-- It puts the same requests and its calls return the same, in the same order. -/
  signs : those id (s.course reply doings).2 = (s.course reply (those id doings)).2
  /-- It ends in the same status and with the same connection. -/
  bearer : ((s.course reply doings).1.bearer? id).map (·.unnumbered) =
    ((s.course reply (those id doings)).1.bearer? id).map (·.unnumbered)

end

variable (reply : String → Answer) {s : Station} {id : Nat}

theorem modem_does (s : Station) (id : Nat) (d : Doing) :
    (s.does reply id d).1.modem = s.modem := by
  rw [does]
  split
  · rfl
  · exact (s.step _).continues.modem_eq

namespace Orderly

variable (h : s.Orderly)
include h

theorem does (id : Nat) (d : Doing) : (s.does reply id d).1.Orderly := by
  rw [Station.does]
  split
  · exact h
  · exact h.next _

/-- What happens to a bearer is what its seat tells, whether the bearer is there or not. -/
theorem does_eq_next (id : Nat) (d : Doing) :
    ((s.does reply id d).1.seat? id, (s.does reply id d).2) =
      Seat.next s.modem reply (s.seat? id) d := by
  cases hb : s.bearer? id with
  | none =>
    rw [h.does_of_absent hb, seat?, hb]
    rfl
  | some b =>
    rw [h.does_eq hb, seat?_eq_some hb]
    rfl

omit h in
/-- A bearer that has the same seat at two stations fares the same at both, where at the second one
nothing happens to other bearers. -/
theorem course_those {t : Station} (hs : s.Orderly) (ht : t.Orderly) (hmodem : t.modem = s.modem)
    (hseat : t.seat? id = s.seat? id) (doings : List (Nat × Doing)) :
    those id (s.course reply doings).2 = (t.course reply (those id doings)).2 ∧
      (s.course reply doings).1.seat? id = (t.course reply (those id doings)).1.seat? id := by
  induction doings generalizing s t with
  | nil => exact ⟨rfl, hseat.symm⟩
  | cons x doings ih =>
    obtain ⟨other, d⟩ := x
    by_cases hother : other = id
    · -- Both stations do the same with the bearer.
      subst hother
      have hsame := (ht.does_eq_next reply other d).trans
        ((by rw [hmodem, hseat]) : _ = Seat.next s.modem reply (s.seat? other) d)
      rw [← hs.does_eq_next, Prod.mk.injEq] at hsame
      obtain ⟨hsigns, hrest⟩ := ih (hs.does reply other d) (ht.does reply other d)
        (by rw [modem_does, modem_does, hmodem]) hsame.1
      simp only [those_cons_self, course]
      rw [those_append, those_map_self, hsigns, hsame.2]
      exact ⟨rfl, hrest⟩
    · -- The second station waits.
      obtain ⟨hsigns, hrest⟩ := ih (hs.does reply other d) ht
        (by rw [modem_does, hmodem]) (hseat.trans (hs.seat?_does_of_ne hother d).symm)
      simp only [those_cons_of_ne hother, course]
      rw [those_append, those_map_of_ne hother, List.nil_append]
      exact ⟨hsigns, hrest⟩

end Orderly

/-- What is seen in a course is about the bearers that it is of. -/
theorem id_of_mem_course {doings : List (Nat × Doing)} {x : Nat × Sign}
    (hx : x ∈ (s.course reply doings).2) : ∃ d, (x.1, d) ∈ doings := by
  induction doings generalizing s with
  | nil => cases hx
  | cons y doings ih =>
    obtain ⟨other, d⟩ := y
    rcases List.mem_append.mp hx with hx | hx
    · obtain ⟨sign, -, rfl⟩ := List.mem_map.mp hx
      exact ⟨d, List.mem_cons_self⟩
    · obtain ⟨d', hd'⟩ := ih hx
      exact ⟨d', List.mem_cons_of_mem _ hd'⟩

theorem Orderly.undisturbed (h : s.Orderly) (doings : List (Nat × Doing)) (id : Nat) :
    s.Undisturbed reply doings id := by
  have hsame : s.seat? id = s.seat? id := rfl
  obtain ⟨hsigns, hseat⟩ := Orderly.course_those reply h h rfl hsame doings
  refine ⟨hsigns, ?_⟩
  have hbearer (t : Station) : (t.seat? id).map (·.bearer) = (t.bearer? id).map (·.unnumbered) :=
    Option.map_map ..
  rw [← hbearer, ← hbearer, hseat]

/-- Two bearers on different contexts of one modem, in any run and with whatever under way, do not
disturb each other in any course of theirs. The requests that are put in the course are an
interleaving of those that are put when only one of the bearers is used. -/
theorem Run.independent (modem : Modem) (moves : List Move) (reply : String → Answer)
    {b b' : Bearer} (hb : b ∈ (Run.after modem moves).station.bearers)
    (hb' : b' ∈ (Run.after modem moves).station.bearers) (hcid : b.profile.cid ≠ b'.profile.cid)
    (doings : List (Nat × Doing)) (hdoings : ∀ x ∈ doings, x.1 = b.id ∨ x.1 = b'.id) :
    let s := (Run.after modem moves).station
    s.Undisturbed reply doings b.id ∧ s.Undisturbed reply doings b'.id ∧
      Merges (s.requests reply (those b.id doings)) (s.requests reply (those b'.id doings))
        (s.requests reply doings) := by
  intro s
  have ho : s.Orderly := Run.orderly modem moves
  have hne : b'.id ≠ b.id := fun hid => hcid (by rw [ho.eq_of_id_eq hb' hb hid])
  have h := ho.undisturbed reply doings b.id
  have h' := ho.undisturbed reply doings b'.id
  refine ⟨h, h', ?_⟩
  have hothers : (s.course reply doings).2.filter (!·.1 == b.id) =
      those b'.id (s.course reply doings).2 := by
    refine List.filter_congr fun x hx => ?_
    obtain ⟨d, hd⟩ := id_of_mem_course reply hx
    rcases hdoings _ hd with (hid : x.1 = b.id) | (hid : x.1 = b'.id)
    · simp [hid, hne.symm]
    · simp [hid, hne]
  rw [requests, requests, requests, ← h.signs, ← h'.signs, ← hothers]
  exact (Merges.of_filter _ _).filterMap _

/-- A modem on which two contexts are active, with an address each. -/
def twoContexts (body : String) : Answer :=
  if body = "+CGACT?" then .ok "+CGACT: 1,1\r\n+CGACT: 2,1"
  else if body = "+CGPADDR=1" then .ok "+CGPADDR: 1,\"10.0.0.1\""
  else if body = "+CGPADDR=2" then .ok "+CGPADDR: 2,\"10.0.0.2\""
  else .ok ""

/-- One bearer connects. Meanwhile the other one is asked to stop, tries again and is dropped. -/
def overlap : List (Nat × Doing) :=
  [(0, .connect), (1, .connect), (1, .answered), (0, .answered), (1, .cancel), (0, .answered),
    (1, .interrupted), (0, .answered), (1, .connect), (0, .answered), (1, .answered),
    (0, .answered), (1, .dropped)]

/-- The bearer that connects gets its address, whatever happens to the other one. -/
theorem Run.independent_overlap :
    let s := (Run.after indexedModem [.create { cid := 1 }, .create { cid := 2 }]).station
    ∃ b ∈ s.bearers, ∃ b' ∈ s.bearers, b.profile.cid ≠ b'.profile.cid ∧
      (∀ x ∈ overlap, x.1 = b.id ∨ x.1 = b'.id) ∧
      (((s.course twoContexts overlap).1.bearer? b.id).bind (·.connection)).map
        (fun c => c.ipv4.map (·.address)) = some (some "10.0.0.1") ∧
      (b'.id, .returns (.error .canceled)) ∈ (s.course twoContexts overlap).2 ∧
      s.Undisturbed twoContexts overlap b.id ∧ s.Undisturbed twoContexts overlap b'.id ∧
      Merges (s.requests twoContexts (those b.id overlap))
        (s.requests twoContexts (those b'.id overlap)) (s.requests twoContexts overlap) := by
  intro s
  have hexists : ∃ b ∈ s.bearers, ∃ b' ∈ s.bearers, b.profile.cid ≠ b'.profile.cid ∧
      (∀ x ∈ overlap, x.1 = b.id ∨ x.1 = b'.id) ∧
      (((s.course twoContexts overlap).1.bearer? b.id).bind (·.connection)).map
        (fun c => c.ipv4.map (·.address)) = some (some "10.0.0.1") ∧
      (b'.id, .returns (.error .canceled)) ∈ (s.course twoContexts overlap).2 := by decide +kernel
  obtain ⟨b, hb, b', hb', hcid, hdoings, hconnection, hcanceled⟩ := hexists
  exact ⟨b, hb, b', hb', hcid, hdoings, hconnection, hcanceled,
    Run.independent indexedModem _ twoContexts hb hb' hcid overlap hdoings⟩

end Station

end ModemLink
