import ModemLink.Reply.NameServer

/-!
# What a reply can assign

Whatever text a modem sends, an address that is read from it is one of its family and not the
zero address, and no server is told twice. The two families are told apart by colons alone.

## Main definitions

* `Reply.AssignedIpv4`, `Reply.AssignedIpv6`: texts that can be addresses of either family.
* `Addresses.IsUsable`, `NameServers.IsUsable`: what the readings of a reply can hold.

## Main results

* `Addresses.isUsable_read`, `NameServers.isUsable_read`: what is read can be used.
-/

namespace ModemLink.Reply

/-- A text of the shorter family: it has no colon, and does not say that no address is
assigned. -/
def AssignedIpv4 (text : String) : Prop :=
  ':' ∉ text.toList ∧ text ≠ "0.0.0.0"

/-- A text of the longer family: it has a colon. The zero address is one, too. -/
def HasColon (text : String) : Prop :=
  ':' ∈ text.toList

/-- A text of the longer family that does not say that no address is assigned. -/
def AssignedIpv6 (text : String) : Prop :=
  HasColon text ∧ text ≠ "0:0:0:0:0:0:0:0"

variable {address : List Char}

theorem assignedIpv4_of_usable (h : usableIpv4 address = true) :
    AssignedIpv4 (String.ofList address) := by
  rw [usableIpv4, Bool.and_eq_true, Bool.not_eq_true', bne_iff_ne] at h
  refine ⟨by simpa [isIpv6] using h.1, fun heq => h.2 ?_⟩
  simpa [unassignedIpv4] using congrArg String.toList heq

theorem assignedIpv6_of_usable (h : usableIpv6 address = true) :
    AssignedIpv6 (String.ofList address) := by
  rw [usableIpv6, Bool.and_eq_true, bne_iff_ne] at h
  refine ⟨by simpa [isIpv6, HasColon] using h.1, fun heq => h.2 ?_⟩
  simpa [unassignedIpv6] using congrArg String.toList heq

/-! ### Addresses -/

namespace Addresses

/-- Addresses of the right families, one at least. -/
structure IsUsable (a : Addresses) : Prop where
  ipv4 : ∀ text ∈ a.ipv4, AssignedIpv4 text
  ipv6 : ∀ text ∈ a.ipv6, AssignedIpv6 text
  assigned : a.ipv4.isSome = true ∨ a.ipv6.isSome = true

variable {a : Addresses}

/-- An address is taken only where it can be used, from whichever place of the record. -/
theorem isUsable_select {cid : UInt32} {first second : Option (List Char)}
    (h : select cid first second = .ok a) : a.IsUsable := by
  simp only [select] at h
  split at h
  · cases h
  · next hnone =>
    cases h
    refine ⟨fun text htext => ?_, fun text htext => ?_, ?_⟩
    · obtain ⟨address, haddress, rfl⟩ := Option.map_eq_some_iff.mp htext
      exact assignedIpv4_of_usable (Option.filter_eq_some_iff.mp haddress).2
    · obtain ⟨address, haddress, rfl⟩ := Option.map_eq_some_iff.mp htext
      rcases Option.or_eq_some_iff.mp haddress with hplace | ⟨-, hplace⟩
      · exact assignedIpv6_of_usable (Option.filter_eq_some_iff.mp hplace).2
      · exact assignedIpv6_of_usable (Option.filter_eq_some_iff.mp hplace).2
    · rw [Option.isSome_map, Option.isSome_map]
      rwa [Bool.not_eq_true, Bool.and_eq_false_iff, Option.isNone_eq_false_iff,
        Option.isNone_eq_false_iff] at hnone

theorem isUsable_ofRecord {record : List Char} (h : ofRecord record = .ok a) : a.IsUsable := by
  rw [ofRecord] at h
  split at h
  · cases h
  · exact isUsable_select h

/-- Whatever a reply says, the addresses read from it can be used. -/
theorem isUsable_read {reply : String} (h : read reply = .ok a) : a.IsUsable := by
  rw [read] at h
  split at h
  · cases h
  · exact isUsable_ofRecord h

end Addresses

/-! ### Name servers -/

namespace NameServers

/-- Servers of the right families, each listed once. -/
structure IsUsable (servers : NameServers) : Prop where
  ipv4 : ∀ server ∈ servers.ipv4, AssignedIpv4 server
  ipv6 : ∀ server ∈ servers.ipv6, HasColon server
  nodup_ipv4 : servers.ipv4.Nodup
  nodup_ipv6 : servers.ipv6.Nodup

theorem nodup_addNew {known : List String} (h : known.Nodup) (entry : String) :
    (addNew known entry).Nodup := by
  rw [addNew]
  split
  · exact h
  · next hnew => exact List.nodup_append.mpr ⟨h, by simp, by grind⟩

theorem forall_mem_addNew {P : String → Prop} {known : List String} {entry : String}
    (h : ∀ server ∈ known, P server) (hentry : P entry) :
    ∀ server ∈ addNew known entry, P server := by
  intro server hserver
  rw [addNew] at hserver
  split at hserver
  · exact h server hserver
  · rcases List.mem_append.mp hserver with hserver | hserver
    · exact h server hserver
    · exact List.mem_singleton.mp hserver ▸ hentry

variable {servers after : NameServers}

theorem isUsable_nil : IsUsable {} := by
  constructor <;> simp

/-- A server is added to the list of its family, unless it is there or is none. -/
theorem IsUsable.add (h : servers.IsUsable) (server : List Char) :
    (servers.add server).IsUsable := by
  rw [NameServers.add]
  split
  · next hlong =>
    exact
      { h with
        ipv6 := forall_mem_addNew h.ipv6 (by simpa [isIpv6, HasColon] using hlong)
        nodup_ipv6 := nodup_addNew h.nodup_ipv6 _ }
  · next hshort =>
    split
    · exact h
    · next hassigned =>
      have husable : usableIpv4 server = true := by simp [usableIpv4, hshort, hassigned]
      exact
        { h with
          ipv4 := forall_mem_addNew h.ipv4 (assignedIpv4_of_usable husable)
          nodup_ipv4 := nodup_addNew h.nodup_ipv4 _ }

theorem IsUsable.addLine (h : servers.IsUsable) {cid : UInt32} {row : List Char}
    (hline : NameServers.addLine cid servers row = .ok after) : after.IsUsable := by
  rw [NameServers.addLine] at hline
  split at hline
  · cases hline
    exact h
  · simp only at hline
    split at hline
    · cases hline
    · split at hline
      · cases hline
      · split at hline
        · cases hline
          exact h
        · split at hline
          · cases hline
            exact (h.add _).add _
          · cases hline

/-- What holds of the servers so far is kept by every line, up to the last one. -/
theorem IsUsable.foldlM {cid : UInt32} {rows : List (List Char)} (h : servers.IsUsable)
    (hrows : rows.foldlM (NameServers.addLine cid) servers = .ok after) : after.IsUsable := by
  induction rows generalizing servers with
  | nil =>
    cases hrows
    exact h
  | cons row rows ih =>
    rw [List.foldlM_cons] at hrows
    cases hline : NameServers.addLine cid servers row with
    | error fault =>
      rw [hline] at hrows
      cases hrows
    | ok next =>
      rw [hline] at hrows
      exact ih (h.addLine hline) hrows

/-- Whatever a reply says, the servers read from it can be used, and are told once. -/
theorem isUsable_read {reply : String} {cid : UInt32} (h : read reply cid = .ok servers) :
    servers.IsUsable :=
  isUsable_nil.foldlM h

end NameServers

end ModemLink.Reply
