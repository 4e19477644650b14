import ModemLink.Proofs.Operation.Telling
import ModemLink.Proofs.Reply.EmptyTexts
import ModemLink.Proofs.Station.Cancellation
import ModemLink.Proofs.Station.Connections
import ModemLink.Proofs.Station.ListedBearers

/-!
# Where the connections of bearers come from

Every connection that a bearer has was told by two replies, which the modem gave to one and the same
operation of the bearer: the addresses by the reply to its address query, and the servers by the
reply to its server query. So an empty text among them was told as such. It is never an address of
the longer family or a server of that family.

Source: the specification, sections 4.2 and 4.4.

## Main definitions

* `Station.Heard`: an operation under way whose answers have told what it knows.
* `Station.ToldBy`: a connection that two replies of a run told.
* `Station.EmptyAsTold`: a connection that has empty texts where the replies have them.

## Main results

* `Station.Run.told`: what operations under way were told.
* `Station.Run.toldBy`: every connection of a bearer was told.
* `Station.Run.empty_of_told`: where empty texts come from.
-/

namespace ModemLink

open Operation (Purpose BringsNone)
open Reply (Addresses NameServers)

namespace Station

variable {s : Station} {modem : Modem} {moves : List Move}

/-! ### Operations under way -/

/-- What the answers to an operation told it so far. One that knows the addresses was under way when
the reply came that told them. -/
def Heard (modem : Modem) (moves : List Move) (r : Running) : Prop :=
  r.operation.Untold ∨
    ∃ before reply later q, moves = before ++ .answer r.ticket (.ok reply) :: later ∧
      q ∈ (Run.after modem before).station.running ∧ q.Continues r ∧
        r.operation.Told (Addresses.read reply)

/-- An operation that stays under way was told what it was told before, or what the move answers. -/
theorem Heard.after? {q r : Running} (h : Heard modem moves q)
    (hq : q ∈ (Run.after modem moves).station.running) {m : Move} (hr : q.after? m = some r) :
    Heard modem (moves ++ [m]) r := by
  have hcontinues := Running.continues_of_after? hr
  rcases h with huntold | ⟨before, reply, later, q', rfl, hq', hqq', htold⟩
  · rcases Running.after?_cases hr with ⟨-, asked, rfl⟩ | ⟨a, request, operation, rfl, hturn, rfl⟩
    · exact .inl huntold
    · have hnext := huntold.resume q.cancelled a
      rw [hturn] at hnext
      refine hnext.imp_right ?_
      rintro ⟨reply, rfl, htold⟩
      exact ⟨moves, reply, [], q, rfl, hq, hcontinues, htold⟩
  · have hmoves : before ++ .answer q.ticket (.ok reply) :: later ++ [m] =
        before ++ .answer r.ticket (.ok reply) :: (later ++ [m]) := by
      simp [hcontinues.ticket_eq]
    refine .inr ⟨before, reply, later ++ [m], q', hmoves, hq', hqq'.trans hcontinues, ?_⟩
    rcases Running.after?_cases hr with ⟨-, asked, rfl⟩ | ⟨a, request, operation, rfl, hturn, rfl⟩
    · exact htold
    · have hnext := htold.resume q.cancelled a
      rwa [hturn] at hnext

/-- A call begins with an operation that was told nothing. -/
theorem Begins.untold_first {b : Bearer} {m : Move} {name : String} {p : Purpose}
    {first : Logged Turn} (h : s.Begins b m name p first) :
    first.value.Meets Operation.Untold BringsNone := by
  cases h with
  | connect => exact Operation.untold_connect ..
  | refresh =>
    exact onPort_cases b Operation.bringsNone_error fun port =>
      Operation.untold_refresh port b.profile
  | disconnect => exact onPort_cases b Operation.bringsNone_error fun port => trivial

theorem BeginsFree.untold_first {m : Move} {cancelled : Bool} {first : Logged Turn}
    (h : s.BeginsFree m cancelled first) : first.value.Meets Operation.Untold BringsNone := by
  cases h with
  | dial profile cancelled => exact Operation.untold_dial ..
  | inspect port cid family cancelled => exact Operation.untold_afterInspectOnly _
  | teardown port cid => trivial

/-- An operation that comes was told nothing. -/
theorem Comes.untold {m : Move} {r : Running} (h : s.Comes m r) : r.operation.Untold := by
  cases h with
  | called mem begins busy status turn =>
    have hfirst := begins.untold_first
    rw [turn] at hfirst
    exact hfirst
  | free begins turn =>
    have hfirst := begins.untold_first
    rw [turn] at hfirst
    exact hfirst

/-- In every run, an operation under way was told nothing yet, or one of its answers is known to
have told the addresses. -/
theorem Run.told (modem : Modem) (moves : List Move) :
    ∀ r ∈ (after modem moves).station.running, Heard modem moves r := by
  induction moves using List.reverseRecOn with
  | nil => intro r hr; cases hr
  | append_singleton moves m ih =>
    intro r hr
    rw [after_concat] at hr
    rcases (orderly modem moves).exists_after? hr with ⟨q, hq, hafter⟩ | hcomes
    · exact (ih q hq).after? hq hafter
    · exact .inl hcomes.untold

/-! ### Connections of bearers -/

/-- An operation of the bearer is under way with the ticket. -/
def HasOperation (s : Station) (id ticket : Nat) : Prop :=
  ∃ r ∈ s.operationsOf id, r.ticket = ticket

/-- Two answers to one operation of the bearer told the connection, and it was under way whenever
one of them came: the first one told the addresses, and the second one the servers of the
context. -/
def ToldBy (modem : Modem) (moves : List Move) (id : Nat) (cid : UInt32) (told listed : String)
    (c : Connection) : Prop :=
  ∃ ticket before between later addresses servers,
    moves = before ++ .answer ticket (.ok told) :: between ++ .answer ticket (.ok listed) :: later ∧
      (Run.after modem before).station.HasOperation id ticket ∧
      (Run.after modem (before ++ .answer ticket (.ok told) :: between)).station.HasOperation id
        ticket ∧
      Addresses.read told = .ok addresses ∧ NameServers.read listed cid = .ok servers ∧
      c.Has addresses servers

theorem ToldBy.mono {id : Nat} {cid : UInt32} {told listed : String} {c : Connection}
    (h : ToldBy modem moves id cid told listed c) (m : Move) :
    ToldBy modem (moves ++ [m]) id cid told listed c := by
  obtain ⟨ticket, before, between, later, addresses, servers, rfl, hread⟩ := h
  exact ⟨ticket, before, between, later ++ [m], addresses, servers, by simp, hread⟩

/-- Only the two readings of a bearer leave a connection behind. -/
theorem not_bringsNone {a : Achievement} {c : Connection} (h : a.connection? = some c) :
    ¬ BringsNone (.ok a) := by
  intro hnone
  cases a with
  | connected c => exact (hnone c).1 rfl
  | refreshed c => exact (hnone c).2 rfl
  | disconnected | dialed | inspected | tornDown => cases h

/-- A call of a bearer that returns with a connection was told it, for the context of the bearer. -/
theorem Run.toldBy_of_step {m : Move} {s' : Station} {id : Nat} {a : Achievement} {c : Connection}
    (hs : (after modem moves).station.Step m s' (some ⟨id, .ok a⟩))
    (hc : a.connection? = some c) :
    ∃ b ∈ (after modem moves).station.bearers, b.id = id ∧
      ∃ told listed, ToldBy modem (moves ++ [m]) id b.profile.cid told listed c := by
  have ho := orderly modem moves
  generalize hret : some (Return.mk id (.ok a)) = ret at hs
  cases hs with
  | unmoved | created | released | occupied | entered | resumed | asked | dropped => cases hret
  | refused => cases hret
  | rested =>
    cases hret
    cases hc
  | finished _ hbegins _ _ hturn =>
    cases hret
    have hfirst := hbegins.untold_first
    rw [hturn] at hfirst
    exact absurd hfirst (not_bringsNone hc)
  | @ended r hr answer ending hturn =>
    obtain ⟨o, howner, hreturn⟩ := Option.map_eq_some_iff.mp hret.symm
    obtain ⟨rfl, rfl⟩ := Return.mk.inj hreturn
    have hmem := (mem_of_running? hr).1
    obtain ⟨b, hb, hbid⟩ := ho.owned r hmem o howner
    have hops : r ∈ (after modem moves).station.operationsOf o.bearer :=
      mem_operationsOf.mpr ⟨hmem, by rw [howner]; rfl⟩
    refine ⟨b, hb, hbid, ?_⟩
    rcases told modem moves r hmem with huntold | ⟨before, told, later, q, hmoves, hq, hqr, hknows⟩
    · have hnone := huntold.resume r.cancelled answer
      rw [hturn] at hnone
      exact absurd hnone (not_bringsNone hc)
    · have hbrings := hknows.resume r.cancelled answer
      rw [hturn] at hbrings
      obtain ⟨c', addresses, listed, servers, hachieved, haddresses, rfl, hservers, hhas⟩ :=
        hbrings a rfl
      obtain rfl : c' = c := by
        rcases hachieved with rfl | rfl
        · exact Option.some.inj hc
        · exact Option.some.inj hc
      rw [(fits modem moves b hb r (hbid ▸ hops)).cid_eq] at hservers
      -- The operation that was told the addresses is the one that ends.
      have hstood : (after modem before).station.HasOperation o.bearer r.ticket :=
        ⟨q, mem_operationsOf.mpr ⟨hq, by rw [← hqr.owner_eq, howner]; rfl⟩, hqr.ticket_eq.symm⟩
      exact ⟨told, listed, r.ticket, before, later, [], addresses, servers, by rw [← hmoves],
        hstood, hmoves ▸ ⟨r, hops, rfl⟩, haddresses, hservers, hhas⟩

/-- A bearer was there before a move, on the same context, or it comes with the move. -/
theorem Orderly.bearer_stood_or_comes (h : s.Orderly) {m : Move} {b : Bearer}
    (hb : b ∈ (s.next m).bearers) :
    (∃ q ∈ s.bearers, q.id = b.id ∧ q.profile.cid = b.profile.cid) ∨ b.id = s.nextBearer := by
  refine ((h.shift m).stood_or_comes h.distinct (List.mem_map_of_mem hb)).imp ?_ ?_
  · rintro ⟨e, he, hid, hcid⟩
    obtain ⟨q, hq, rfl⟩ := List.mem_map.mp he
    exact ⟨q, hq, hid, hcid⟩
  · rintro ⟨profile, -, -, hok⟩
    exact (of_create_eq_ok hok).1

/-- What a bearer has achieved last was achieved before, or with the latest return. -/
theorem lastConnection_append_cases {id : Nat} {returned : List Return} {ret : Option Return}
    {c : Connection} (h : lastConnection id (returned ++ ret.toList) = some c) :
    lastConnection id returned = some c ∨
      ∃ a, ret = some ⟨id, .ok a⟩ ∧ a.connection? = some c := by
  match ret with
  | none => exact .inl (by simpa using h)
  | some ⟨other, .error fault⟩ =>
    exact .inl ((lastConnection_concat_error id other returned fault).symm.trans h)
  | some ⟨other, .ok a⟩ =>
    by_cases hid : other = id
    · subst hid
      exact .inr ⟨a, rfl, (lastConnection_concat_ok other returned a).symm.trans h⟩
    · exact .inl ((lastConnection_concat_of_ne hid returned).symm.trans h)

/-- In every run, the connection of a bearer was told by two replies to one of its operations. -/
theorem Run.toldBy (modem : Modem) (moves : List Move) :
    ∀ b ∈ (after modem moves).station.bearers, ∀ c, b.connection = some c →
      ∃ told listed, ToldBy modem moves b.id b.profile.cid told listed c := by
  induction moves using List.reverseRecOn with
  | nil => intro b hb; cases hb
  | append_singleton moves m ih =>
    intro b hb c hc
    have ho := orderly modem moves
    have hreflects := reflects modem (moves ++ [m])
    rw [after_concat] at hb hreflects
    have hlast := (hreflects b hb).symm.trans hc
    -- Nothing has returned for a bearer that just comes, so that this one was there before.
    have hstood (hlt : b.id < (after modem moves).station.nextBearer) :=
      (ho.bearer_stood_or_comes hb).resolve_right (Nat.ne_of_lt hlt)
    rcases lastConnection_append_cases hlast with hbefore | ⟨a, hret, hachieved⟩
    · have hlt : b.id < (after modem moves).station.nextBearer := by
        by_contra hnew
        have hnone : lastConnection b.id (after modem moves).returned = none :=
          lastConnection_of_forall_ne fun r hr => Nat.ne_of_lt <|
            Nat.lt_of_lt_of_le (returned_bearer_lt modem moves r hr) (Nat.not_lt.mp hnew)
        cases hnone.symm.trans hbefore
      obtain ⟨q, hq, hid, hcid⟩ := hstood hlt
      rw [← hid, ← reflects modem moves q hq] at hbefore
      obtain ⟨told, listed, htold⟩ := ih q hq c hbefore
      exact ⟨told, listed, hcid ▸ hid ▸ htold.mono m⟩
    · have hs := (after modem moves).station.step m
      rw [hret] at hs
      obtain ⟨q, hq, hid, hcid⟩ := hstood (ho.bearer_lt_of_step hs)
      obtain ⟨q', hq', hid', htold⟩ := toldBy_of_step hs hachieved
      obtain rfl := ho.eq_of_id_eq hq' hq (hid'.trans hid.symm)
      exact hcid ▸ htold

/-! ### Where empty texts come from -/

/-- No text of the connection is empty unless a reply had an empty text in its place, and none of
the longer family is. -/
structure EmptyAsTold (c : Connection) (cid : UInt32) (told listed : String) : Prop where
  address (config : IpConfig) (ipv4 : c.ipv4 = some config) :
    config.address = "" ↔ Addresses.TellsEmpty told
  server (config : IpConfig) (ipv4 : c.ipv4 = some config) :
    "" ∈ config.dns ↔ NameServers.NamesEmpty cid listed
  ipv6 (config : IpConfig) (ipv6 : c.ipv6 = some config) :
    config.address ≠ "" ∧ "" ∉ config.dns

theorem ToldBy.emptyAsTold {id : Nat} {cid : UInt32} {told listed : String} {c : Connection}
    (h : ToldBy modem moves id cid told listed c) : EmptyAsTold c cid told listed := by
  obtain ⟨-, -, -, -, addresses, servers, -, -, -, haddresses, hservers, hhas⟩ := h
  refine ⟨fun config hconfig => ?_, fun config hconfig => ?_, fun config hconfig => ?_⟩
  · rw [hhas.ipv4, Option.map_eq_some_iff] at hconfig
    obtain ⟨address, haddress, rfl⟩ := hconfig
    rw [← Addresses.ipv4_eq_empty_iff haddresses, haddress, Option.some.injEq]
  · rw [hhas.ipv4, Option.map_eq_some_iff] at hconfig
    obtain ⟨address, -, rfl⟩ := hconfig
    exact NameServers.empty_mem_ipv4_iff hservers
  · rw [hhas.ipv6, Option.map_eq_some_iff] at hconfig
    obtain ⟨address, haddress, rfl⟩ := hconfig
    refine ⟨?_, NameServers.empty_not_mem_ipv6 hservers⟩
    rintro (rfl : address = "")
    exact Addresses.ipv6_ne_empty haddresses haddress

/-- An empty text is an address of the shorter family like any other one: where a reply has one in
a place that counts it is read, and where nothing of use is in these places no address is read.
In every run, an empty text in the connection of a bearer was told as such. -/
theorem Run.empty_of_told (modem : Modem) (moves : List Move) :
    (∀ reply addresses, Addresses.read reply = .ok addresses →
      addresses.ipv6 ≠ some "" ∧ (addresses.ipv4 = some "" ↔ Addresses.TellsEmpty reply)) ∧
    (∀ reply cid servers, NameServers.read reply cid = .ok servers →
      "" ∉ servers.ipv6 ∧ ("" ∈ servers.ipv4 ↔ NameServers.NamesEmpty cid reply)) ∧
    (∀ reply, Addresses.read reply = .error .noAddress ↔
      ∀ record, Addresses.record? reply = some record →
        (Addresses.contextOf? record).isSome = true ∧
          Addresses.TellNone (Addresses.addressAt? record 0) (Addresses.addressAt? record 1)) ∧
    ∀ b ∈ (after modem moves).station.bearers, ∀ c, b.connection = some c →
      ∃ told listed, ToldBy modem moves b.id b.profile.cid told listed c ∧
        EmptyAsTold c b.profile.cid told listed := by
  refine ⟨fun reply addresses h => ⟨Addresses.ipv6_ne_empty h, Addresses.ipv4_eq_empty_iff h⟩,
    fun reply cid servers h =>
      ⟨NameServers.empty_not_mem_ipv6 h, NameServers.empty_mem_ipv4_iff h⟩,
    fun reply => Addresses.read_eq_noAddress_iff, fun b hb c hc => ?_⟩
  obtain ⟨told, listed, htold⟩ := toldBy modem moves b hb c hc
  exact ⟨told, listed, htold, htold.emptyAsTold⟩

/-- A reply with an empty text in place of an address. -/
def emptyAddress : String := "+CGPADDR: 1,\"\",\"0:0:0:0:0:0:0:0\""

/-- A reply with an empty text in place of a server. -/
def emptyServer : String := "+XDNS: 1,\"\",\"0.0.0.0\""

/-- Moves that connect a bearer which is told empty texts. -/
def emptyConnect : List Move :=
  [.create { cid := 1 }, .connect 0, .answer 0 (.ok "+CGACT: 1,1"), .answer 0 (.ok ""),
    .answer 0 (.ok ""), .answer 0 (.ok emptyAddress), .answer 0 (.ok emptyServer)]

/-- The empty texts that a bearer keeps were told. -/
theorem Run.empty_of_told_emptyConnect :
    Addresses.TellsEmpty emptyAddress ∧ NameServers.NamesEmpty 1 emptyServer ∧
    ∃ b ∈ (after indexedModem emptyConnect).station.bearers, ∃ c, b.connection = some c ∧
      c.ipv4 = some { address := "", dns := [""] } ∧
      ∃ told listed, ToldBy indexedModem emptyConnect b.id b.profile.cid told listed c ∧
        EmptyAsTold c b.profile.cid told listed := by
  obtain ⟨haddresses, hservers, -, hkept⟩ := Run.empty_of_told indexedModem emptyConnect
  have hexists : ∃ b ∈ (after indexedModem emptyConnect).station.bearers, ∃ c ∈ b.connection,
      c.ipv4 = some { address := "", dns := [""] } := by decide +kernel
  have htold : Addresses.read emptyAddress = .ok ⟨1, some "", none⟩ := by decide +kernel
  have hlisted : NameServers.read emptyServer 1 = .ok ⟨[""], []⟩ := by decide +kernel
  obtain ⟨b, hb, c, hc, hipv4⟩ := hexists
  exact ⟨(haddresses _ _ htold).2.mp rfl, (hservers _ _ _ hlisted).2.mp List.mem_cons_self,
    b, hb, c, hc, hipv4, hkept b hb c hc⟩

/-- An empty text is read as an address and as a server, from replies that tell nothing else, and a
bearer keeps both. -/
theorem Run.keeps_empty :
    Addresses.read emptyAddress = .ok { cid := 1, ipv4 := some "", ipv6 := none } ∧
    NameServers.read emptyServer 1 = .ok { ipv4 := [""], ipv6 := [] } ∧
    ∃ b ∈ (after indexedModem emptyConnect).station.bearers, b.status = .connected ∧
      b.connection.bind (·.ipv4) = some { address := "", dns := [""] } := by
  decide +kernel

end Station

end ModemLink
