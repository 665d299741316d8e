import FleetStatus.Presence.Replica
import FleetStatus.Proofs.Index
import FleetStatus.Proofs.Presence.Stay

set_option relaxedAutoImplicit false
set_option autoImplicit false

/-!
# Coherence of the replica

The replica keeps the players and, apart from them, the server of each player; the count of a
server is the number of players located there. Every event keeps it so, whether it comes from the
log for the first time or again, and moves stays and servers as `FleetStatus.Event.stayAfter` and
`FleetStatus.Event.listedAfter` tell.

## Main definitions

* `FleetStatus.Replica.stay?` — the stay of a player.
* `FleetStatus.Replica.Located` — players are located where their records say.
* `FleetStatus.Replica.Filed` — and all records stand under their own keys.
* `FleetStatus.Replica.Coherent` — and the counts are right.

## Main results

* `FleetStatus.Replica.Located.apply`, `FleetStatus.Replica.Filed.apply`,
  `FleetStatus.Replica.Coherent.apply` — events keep the players located, the records filed and the
  replica coherent.
* `FleetStatus.Replica.Coherent.stay?_apply`, `FleetStatus.Replica.contains_servers_apply` — what
  an event does.
-/

namespace FleetStatus.Replica

/-- The stay of a player. -/
def stay? (c : Replica) (uuid : Uuid) : Option Stay := (c.players.get? uuid).map (·.stay)

/-- The count of a server, if there is such a server, is the number of players located there. -/
def CountedAt (c : Replica) (id : String) : Prop :=
  ∀ r, c.servers.get? id = some r → r.playerCount = UInt32.ofNat (c.locations.holding id).ncard

/-- **The players and their locations** index the same players: each is located on the server of the
player's record. -/
def Located (c : Replica) : Prop :=
  ∀ uuid, c.locations.get? uuid = (c.players.get? uuid).map (·.serverId)

/-- **Every record is filed** under its own key, and the players are located where their records say.
The counts of the servers may be any. -/
structure Filed (c : Replica) : Prop where
  located : c.Located
  /-- A player's record stands under its own identity. -/
  keyed : ∀ uuid p, c.players.get? uuid = some p → p.uuid = uuid
  /-- A server's record stands under its own id. -/
  named : ∀ id r, c.servers.get? id = some r → r.serverId = id

/-- **Players, locations and counts agree**: the records are filed, and the counts are right. -/
structure Coherent (c : Replica) : Prop extends Filed c where
  counted : ∀ id, c.CountedAt id

/-- The location of a player is that of the player's stay. -/
theorem Coherent.location?_eq_map_stay? {c : Replica} (h : c.Coherent) (uuid : Uuid) :
    c.locations.get? uuid = (c.stay? uuid).map (·.serverId) := by
  rw [h.located, stay?, Option.map_map]
  rfl

/-- The players located on a server are those with a record there.

**Proof sketch.** A location on the server is the location of a record on the server, so both sides
count the identities with such a record. -/
theorem Located.ncard_holding {c : Replica} (h : c.Located) (id : String) :
    (c.locations.holding id).ncard = (c.playersOn id).length := by
  have hset : c.locations.holding id =
      {uuid | ∃ p, c.players.get? uuid = some p ∧ (p.serverId == id) = true} := by
    ext uuid
    simp only [Index.holding, Set.mem_ofPred_eq, h uuid, Option.map_eq_some_iff, beq_iff_eq]
  rw [hset, Index.ncard_setOf_get?, playersOn, Index.values, List.filter_map, List.length_map]
  rfl

/-! ## Counting again -/

/-- To count again one server changes the count of its record and nothing else. -/
theorem get?_servers_recount (c : Replica) (id id' : String) :
    (c.recount id).servers.get? id' =
      if id' = id then (c.servers.get? id').map fun r =>
        { r with playerCount := UInt32.ofNat (c.locations.holding id).ncard }
      else c.servers.get? id' := by
  simp only [recount, Index.get?_adjust, Index.ncard_holding]

/-- A server that was counted again has the right count. -/
theorem countedAt_recount_self (c : Replica) (id : String) : (c.recount id).CountedAt id := by
  intro r hr
  rw [get?_servers_recount, if_pos rfl] at hr
  obtain ⟨r', -, rfl⟩ := Option.map_eq_some_iff.1 hr
  rfl

/-- Counting again one server does no harm to another. -/
theorem CountedAt.recount {c : Replica} {id : String} (h : c.CountedAt id) (id' : String) :
    (c.recount id').CountedAt id := by
  by_cases hid : id = id'
  · exact hid ▸ countedAt_recount_self c id
  · intro r hr
    rw [get?_servers_recount, if_neg hid] at hr
    exact h r hr

/-- New contents of records that keep their ids. -/
theorem Filed.adjusted {c : Replica} (h : c.Filed) (id : String) {f : ServerRecord → ServerRecord}
    (hid : ∀ r, (f r).serverId = r.serverId) :
    { c with servers := c.servers.adjust id f }.Filed where
  located := h.located
  keyed := h.keyed
  named id' r hr := by
    change (c.servers.adjust id f).get? id' = some r at hr
    rw [Index.get?_adjust] at hr
    split at hr
    next =>
      obtain ⟨r', hr', rfl⟩ := Option.map_eq_some_iff.1 hr
      exact (hid r').trans (h.named id' r' hr')
    next => exact h.named id' r hr

/-- To count again keeps the records filed. -/
theorem Filed.recount {c : Replica} (h : c.Filed) (id : String) : (c.recount id).Filed :=
  h.adjusted id fun _ => rfl

/-- To count again lists no server and takes none off. -/
theorem contains_servers_recount (c : Replica) (id id' : String) :
    (c.recount id).servers.contains id' = c.servers.contains id' := by
  rw [Index.contains, Index.contains, get?_servers_recount]
  split <;> simp

/-- The servers where counts change are the ones where somebody comes or goes. -/
theorem CountedAt.congr {c d : Replica} {id : String} (h : c.CountedAt id)
    (hservers : d.servers.get? id = c.servers.get? id)
    (hlocations : ∀ uuid, d.locations.get? uuid = some id ↔ c.locations.get? uuid = some id) :
    d.CountedAt id := by
  intro r hr
  have hset : d.locations.holding id = c.locations.holding id := by
    ext uuid
    exact hlocations uuid
  rw [hset]
  exact h r (hservers ▸ hr)

/-! ## Players -/

/-- The copy with a player put in, before the counts follow. -/
def placed (c : Replica) (p : PlayerRecord) : Replica :=
  { c with
    locations := c.locations.insert p.uuid p.serverId
    players := c.players.insert p.uuid p }

/-- The copy with a player taken out, before the counts follow. -/
def taken (c : Replica) (uuid : Uuid) : Replica :=
  { c with
    players := c.players.erase uuid
    locations := c.locations.erase uuid }

/-- What counting again leaves alone. -/
theorem elim_recount_frame {β : Type} (f : Replica → β)
    (hf : ∀ (c : Replica) (servers : Index String ServerRecord), f { c with servers } = f c)
    (c : Replica) (o : Option String) : f (o.elim c c.recount) = f c := by
  cases o with
  | none => rfl
  | some id => exact hf c _

/-- To put in a player's record puts it under the player's identity. -/
theorem players_updatePlayer (c : Replica) (p : PlayerRecord) :
    (c.updatePlayer p).players = c.players.insert p.uuid p :=
  elim_recount_frame (·.players) (fun _ _ => rfl) (c.placed p) _

/-- To put in a player's record puts down where the player is. -/
theorem locations_updatePlayer (c : Replica) (p : PlayerRecord) :
    (c.updatePlayer p).locations = c.locations.insert p.uuid p.serverId :=
  elim_recount_frame (·.locations) (fun _ _ => rfl) (c.placed p) _

/-- To put in a player's record lists no server and takes none off. -/
theorem contains_servers_updatePlayer (c : Replica) (p : PlayerRecord) (id : String) :
    (c.updatePlayer p).servers.contains id = c.servers.contains id := by
  unfold updatePlayer
  rw [contains_servers_recount]
  cases (c.locations.get? p.uuid).filter (· ≠ p.serverId) with
  | none => rfl
  | some id' => exact contains_servers_recount (c.placed p) id' id

/-- To take out a player takes out the record. -/
theorem players_removePlayer (c : Replica) (uuid : Uuid) :
    (c.removePlayer uuid).players = c.players.erase uuid :=
  elim_recount_frame (·.players) (fun _ _ => rfl) (c.taken uuid) _

/-- To take out a player takes out the location. -/
theorem locations_removePlayer (c : Replica) (uuid : Uuid) :
    (c.removePlayer uuid).locations = c.locations.erase uuid :=
  elim_recount_frame (·.locations) (fun _ _ => rfl) (c.taken uuid) _

/-- To take out a player lists no server and takes none off. -/
theorem contains_servers_removePlayer (c : Replica) (uuid : Uuid) (id : String) :
    (c.removePlayer uuid).servers.contains id = c.servers.contains id := by
  unfold removePlayer
  cases c.locations.get? uuid with
  | none => rfl
  | some id' => exact contains_servers_recount (c.taken uuid) id' id

/-- A player that is put in is located on the server of the record. -/
theorem Located.placed {c : Replica} (h : c.Located) (p : PlayerRecord) : (c.placed p).Located := by
  intro uuid
  show (c.locations.insert p.uuid p.serverId).get? uuid =
    ((c.players.insert p.uuid p).get? uuid).map (·.serverId)
  rw [Index.get?_insert, Index.get?_insert]
  split
  · rfl
  · exact h uuid

/-- A player that is taken out is located nowhere. -/
theorem Located.taken {c : Replica} (h : c.Located) (uuid : Uuid) : (c.taken uuid).Located := by
  intro uuid'
  show (c.locations.erase uuid).get? uuid' =
    ((c.players.erase uuid).get? uuid').map (·.serverId)
  rw [Index.get?_erase, Index.get?_erase]
  split
  · rfl
  · exact h uuid'

/-- To put in a player keeps the players located: counting again does not touch them. -/
theorem Located.updatePlayer {c : Replica} (h : c.Located) (p : PlayerRecord) :
    (c.updatePlayer p).Located := by
  intro uuid
  rw [locations_updatePlayer, players_updatePlayer]
  exact h.placed p uuid

/-- To take out a player keeps the others located. -/
theorem Located.removePlayer {c : Replica} (h : c.Located) (uuid : Uuid) :
    (c.removePlayer uuid).Located := by
  intro uuid'
  rw [locations_removePlayer, players_removePlayer]
  exact h.taken uuid uuid'

/-- A player that is put in is filed under its own identity. -/
theorem Filed.placed {c : Replica} (h : c.Filed) (p : PlayerRecord) : (c.placed p).Filed where
  located := h.located.placed p
  keyed uuid q hq := by
    change (c.players.insert p.uuid p).get? uuid = some q at hq
    rw [Index.get?_insert] at hq
    split at hq
    next heq => exact (Option.some.inj hq) ▸ heq.symm
    next => exact h.keyed uuid q hq
  named := h.named

/-- What is left when a player is taken out is filed as it was. -/
theorem Filed.taken {c : Replica} (h : c.Filed) (uuid : Uuid) : (c.taken uuid).Filed where
  located := h.located.taken uuid
  keyed uuid' q hq := by
    change (c.players.erase uuid).get? uuid' = some q at hq
    rw [Index.get?_erase] at hq
    split at hq
    next => exact absurd hq nofun
    next => exact h.keyed uuid' q hq
  named := h.named

/-- To put in a player keeps the records filed. -/
theorem Filed.updatePlayer {c : Replica} (h : c.Filed) (p : PlayerRecord) :
    (c.updatePlayer p).Filed := by
  refine Filed.recount ?_ p.serverId
  cases (c.locations.get? p.uuid).filter (· ≠ p.serverId) with
  | none => exact h.placed p
  | some id => exact (h.placed p).recount id

/-- To take out a player keeps the records filed. -/
theorem Filed.removePlayer {c : Replica} (h : c.Filed) (uuid : Uuid) :
    (c.removePlayer uuid).Filed := by
  unfold Replica.removePlayer
  cases c.locations.get? uuid with
  | none => exact h.taken uuid
  | some id => exact (h.taken uuid).recount id

/-- **To put in a player keeps the replica coherent.**

**Proof sketch.** The server of the new record is counted last. Of the others only the one that the
player comes from has another player than before, and it is counted as well; the players on the rest
are the same. -/
theorem Coherent.updatePlayer {c : Replica} (h : c.Coherent) (p : PlayerRecord) :
    (c.updatePlayer p).Coherent := by
  refine ⟨h.toFiled.updatePlayer p, fun id => ?_⟩
  by_cases hid : id = p.serverId
  · subst hid
    exact countedAt_recount_self _ _
  refine CountedAt.recount ?_ _
  by_cases hbefore : c.locations.get? p.uuid = some id
  · -- the player comes from this server
    have hleft : (some id).filter (· ≠ p.serverId) = some id := by simp [hid]
    rw [hbefore, hleft]
    exact countedAt_recount_self (c.placed p) id
  · have hplaced : (c.placed p).CountedAt id := by
      refine (h.counted id).congr rfl fun uuid => ?_
      show (c.locations.insert p.uuid p.serverId).get? uuid = some id ↔ _
      rw [Index.get?_insert]
      split
      next heq =>
        subst heq
        simp [hbefore, Ne.symm hid]
      next => exact Iff.rfl
    cases (c.locations.get? p.uuid).filter (· ≠ p.serverId) with
    | none => exact hplaced
    | some id' => exact hplaced.recount id'

/-- **To take out a player keeps the replica coherent.**

**Proof sketch.** The server on which the player was located is counted. On the others nobody comes
or goes. -/
theorem Coherent.removePlayer {c : Replica} (h : c.Coherent) (uuid : Uuid) :
    (c.removePlayer uuid).Coherent := by
  refine ⟨h.toFiled.removePlayer uuid, fun id => ?_⟩
  unfold Replica.removePlayer
  by_cases hat : c.locations.get? uuid = some id
  · rw [hat]
    exact countedAt_recount_self (c.taken uuid) id
  · have htaken : (c.taken uuid).CountedAt id := by
      refine (h.counted id).congr rfl fun uuid' => ?_
      show (c.locations.erase uuid).get? uuid' = some id ↔ _
      rw [Index.get?_erase]
      split
      next heq =>
        subst heq
        simp [hat]
      next => exact Iff.rfl
    cases c.locations.get? uuid with
    | none => exact htaken
    | some id' => exact htaken.recount id'

/-! ## Servers -/

/-- To take off a server clears the locations there. -/
theorem get?_locations_removeServer (c : Replica) (id : String) (uuid : Uuid) :
    (c.removeServer id).locations.get? uuid = (c.locations.get? uuid).filter (· ≠ id) := by
  show (c.locations.filter fun _ at_ => !(at_ == id)).get? uuid = _
  rw [Index.get?_filter]
  congr 1
  funext at_
  exact (decide_not (p := at_ = id)).symm

/-- Players go with the server on which they are located. -/
theorem Located.get?_players_removeServer {c : Replica} (h : c.Located) (id : String)
    (uuid : Uuid) : (c.removeServer id).players.get? uuid =
      (c.players.get? uuid).filter (·.serverId ≠ id) := by
  show (c.players.filter fun uuid _ =>
    !(c.locations.filter fun _ at_ => at_ == id).contains uuid).get? uuid = _
  rw [Index.get?_filter]
  simp only [Index.contains, Index.get?_filter, h uuid]
  cases c.players.get? uuid with
  | none => rfl
  | some p => by_cases hid : p.serverId = id <;> simp [Option.filter, hid]

/-- The players of other servers stay located. -/
theorem Located.removeServer {c : Replica} (h : c.Located) (id : String) :
    (c.removeServer id).Located := by
  intro uuid
  rw [get?_locations_removeServer, h.get?_players_removeServer, h uuid, Option.filter_map]
  rfl

/-- To take off a server takes off that server and no other. -/
theorem contains_servers_removeServer (c : Replica) (id id' : String) :
    (c.removeServer id).servers.contains id' = (id' ≠ id && c.servers.contains id') :=
  Index.contains_erase _ _ _

/-- To take off a server keeps the records filed. -/
theorem Filed.removeServer {c : Replica} (h : c.Filed) (id : String) :
    (c.removeServer id).Filed where
  located := h.located.removeServer id
  keyed uuid q hq := by
    rw [h.located.get?_players_removeServer, Option.filter_eq_some_iff] at hq
    exact h.keyed uuid q hq.1
  named id' r hr := by
    change (c.servers.erase id).get? id' = some r at hr
    rw [Index.get?_erase] at hr
    split at hr
    next => exact absurd hr nofun
    next => exact h.named id' r hr

/-- **To take off a server keeps the replica coherent.**

**Proof sketch.** The server has no record whose count could be wrong, and on the others nobody
comes or goes. -/
theorem Coherent.removeServer {c : Replica} (h : c.Coherent) (id : String) :
    (c.removeServer id).Coherent := by
  refine ⟨h.toFiled.removeServer id, fun id' => ?_⟩
  have hservers : (c.removeServer id).servers.get? id' =
    if id' = id then none else c.servers.get? id' := Index.get?_erase _ _ _
  by_cases hid : id' = id
  · intro r hr
    rw [hservers, if_pos hid] at hr
    exact absurd hr nofun
  · refine (h.counted id').congr (hservers.trans (if_neg hid)) fun uuid => ?_
    rw [get?_locations_removeServer, Option.filter_eq_some_iff]
    simp [hid]

/-- New contents of records that keep their ids and counts. -/
theorem Coherent.adjusted {c : Replica} (h : c.Coherent) (id : String)
    (f : ServerRecord → ServerRecord) (hid : ∀ r, (f r).serverId = r.serverId)
    (hcount : ∀ r, (f r).playerCount = r.playerCount) :
    { c with servers := c.servers.adjust id f }.Coherent := by
  refine ⟨h.toFiled.adjusted id hid, fun id' r hr => ?_⟩
  change (c.servers.adjust id f).get? id' = some r at hr
  rw [Index.get?_adjust] at hr
  split at hr
  next =>
    obtain ⟨r', hr', rfl⟩ := Option.map_eq_some_iff.1 hr
    exact (hcount r').trans (h.counted id' r' hr')
  next => exact h.counted id' r hr

/-- To put in a server's record replaces that record and no other. -/
theorem get?_servers_updateServer (c : Replica) (r : ServerRecord) (id : String) :
    (c.updateServer r).servers.get? id = if id = r.serverId then some r else c.servers.get? id :=
  Index.get?_insert ..

/-- To put in a server's record keeps the records filed. -/
theorem Filed.updateServer {c : Replica} (h : c.Filed) (r : ServerRecord) :
    (c.updateServer r).Filed where
  located := h.located
  keyed := h.keyed
  named id q hq := by
    rw [get?_servers_updateServer] at hq
    split at hq
    next hid => exact (Option.some.inj hq) ▸ hid.symm
    next => exact h.named id q hq

/-- The counts of the other servers stay right. -/
theorem Coherent.countedAt_updateServer {c : Replica} (h : c.Coherent) (r : ServerRecord)
    {id : String} (hid : id ≠ r.serverId) : (c.updateServer r).CountedAt id := by
  refine (h.counted id).congr ?_ fun _ => Iff.rfl
  rw [get?_servers_updateServer, if_neg hid]

/-- A server's record is put in and counted. -/
theorem Coherent.updateServer {c : Replica} (h : c.Coherent) (r : ServerRecord) :
    ((c.updateServer r).recount r.serverId).Coherent := by
  refine ⟨(h.toFiled.updateServer r).recount r.serverId, fun id => ?_⟩
  by_cases hid : id = r.serverId
  · subst hid
    exact countedAt_recount_self _ _
  · exact (h.countedAt_updateServer r hid).recount r.serverId

/-- A server's record is put in with the right count.

**Proof sketch.** The players with a record on the server are those located there, so the count that
is brought is the one that counting would give. -/
theorem Coherent.updateServer_of_exact {c : Replica} (h : c.Coherent) {r : ServerRecord}
    (hr : r.playerCount.toNat = (c.playersOn r.serverId).length) :
    (c.updateServer r).Coherent := by
  refine ⟨h.toFiled.updateServer r, fun id => ?_⟩
  by_cases hid : id = r.serverId
  · intro q hq
    rw [get?_servers_updateServer, if_pos hid] at hq
    obtain rfl := Option.some.inj hq
    show r.playerCount = UInt32.ofNat (c.locations.holding id).ncard
    rw [hid, h.located.ncard_holding, ← hr, UInt32.ofNat_toNat]
  · exact h.countedAt_updateServer r hid

/-! ## Events -/

/-- The record of a server that joins the fleet; what is known of it from before stays. -/
def revived (known : Option ServerRecord) (id name : String) (now : Int64) : ServerRecord :=
  (known.map fun old =>
    { ServerRecord.fresh id name now with
      maxPlayers := old.maxPlayers, host := old.host, port := old.port }).getD (.fresh id name now)

/-- A record that a heartbeat revives is of the server that sent it. -/
@[simp]
theorem serverId_revived (known : Option ServerRecord) (id name : String) (now : Int64) :
    (revived known id name now).serverId = id := by
  cases known <;> rfl

/-- **Events keep the players located.** -/
theorem Located.apply {c : Replica} (h : c.Located) (now : Int64) (e : Event) :
    (c.apply now e).Located := by
  cases e with
  | playerJoin uuid username id name previous => exact h.updatePlayer _
  | playerLeave uuid id =>
    rw [Replica.apply]
    split
    · exact h.removePlayer uuid
    · exact h
  | serverHeartbeat id count max => exact h
  | serverOnline id name => exact h
  | serverOffline id reason => exact h.removeServer id

/-- **Events keep the records filed.**

**Proof sketch.** By cases on the event: each changes the records by putting in or taking out a
player or a server, or by counting again. -/
theorem Filed.apply {c : Replica} (h : c.Filed) (now : Int64) (e : Event) :
    (c.apply now e).Filed := by
  cases e with
  | playerJoin uuid username id name previous => exact h.updatePlayer _
  | playerLeave uuid id =>
    rw [Replica.apply]
    split
    · exact h.removePlayer uuid
    · exact h
  | serverHeartbeat id count max => exact h.adjusted id fun _ => rfl
  | serverOnline id name => exact (h.updateServer _).recount id
  | serverOffline id reason => exact h.removeServer id

/-- **A replica that is replaced by a snapshot is filed**, whatever the snapshot lists: of two
records under one key the later one counts, for players and for their locations.

**Proof sketch.** Locations and players are made from one list of players in the same way, so that
the later of two records under one key wins in both. Every record is put in under its own key. -/
theorem filed_refresh (c : Replica) (s : Snapshot) (now : Int64) : (c.refresh s now).Filed where
  located uuid := by
    have hsame : (c.refresh s now).locations =
        (c.refresh s now).players.map fun _ => (·.serverId) := by
      have hlist := Index.ofList_map_values (s.players.map fun p => (p.uuid, p)) (·.serverId)
      rw [List.map_map] at hlist
      exact hlist
    rw [hsame, Index.get?_map]
  keyed uuid p hp := by
    obtain ⟨p', -, heq⟩ := List.mem_map.1 (Index.mem_of_get?_ofList hp)
    cases heq
    rfl
  named id r hr := by
    obtain ⟨r', -, heq⟩ := List.mem_map.1 (Index.mem_of_get?_ofList hr)
    cases heq
    rfl

/-- **Events keep the replica coherent.**

**Proof sketch.** By cases on the event. A heartbeat renews a record and keeps its count, an
announcement puts in a record and counts it; the other events are changes as above, or none. -/
theorem Coherent.apply {c : Replica} (h : c.Coherent) (now : Int64) (e : Event) :
    (c.apply now e).Coherent := by
  cases e with
  | playerJoin uuid username id name previous => exact h.updatePlayer _
  | playerLeave uuid id =>
    rw [Replica.apply]
    split
    · exact h.removePlayer uuid
    · exact h
  | serverHeartbeat id count max => exact h.adjusted id _ (fun _ => rfl) fun _ => rfl
  | serverOnline id name =>
    have hupdate := h.updateServer (revived (c.servers.get? id) id name now)
    rwa [serverId_revived] at hupdate
  | serverOffline id reason => exact h.removeServer id

/-- **An event changes the stay of a player as it says.**

**Proof sketch.** By cases on the event. A leave depends on the location of the player, which in a
coherent replica is the server of the stay; of a server that goes offline the stays there end. -/
theorem Coherent.stay?_apply {c : Replica} (h : c.Coherent) (now : Int64) (e : Event)
    (uuid : Uuid) : (c.apply now e).stay? uuid = Event.stayAfter uuid (c.stay? uuid) e := by
  cases e with
  | playerJoin uuid' username id name previous =>
    rw [stay?, Replica.apply, players_updatePlayer, Index.get?_insert, Event.stayAfter]
    by_cases huuid : uuid = uuid'
    · subst huuid
      simp [PlayerRecord.stay]
    · simp [huuid, Ne.symm huuid, stay?]
  | playerLeave uuid' id =>
    rw [Replica.apply, Event.stayAfter, Event.filter_serverId_ne, ← h.location?_eq_map_stay?]
    by_cases huuid : uuid' = uuid
    · subst huuid
      rw [if_pos rfl]
      split
      · rw [stay?, players_removePlayer, Index.get?_erase, if_pos rfl]
        rfl
      · rfl
    · rw [if_neg huuid]
      split
      · rw [stay?, players_removePlayer, Index.get?_erase, if_neg (Ne.symm huuid), stay?]
      · rfl
  | serverHeartbeat id count max => rfl
  | serverOnline id name => rfl
  | serverOffline id reason =>
    rw [Replica.apply, stay?, h.located.get?_players_removeServer, Event.stayAfter, stay?,
      Option.filter_map]
    rfl

/-- **An event changes the servers as it says.**

**Proof sketch.** By cases on the event. Joins and leaves count servers again and list none; a
server comes with an announcement or a heartbeat and goes when it is announced as gone. -/
theorem contains_servers_apply (c : Replica) (now : Int64) (e : Event) (id : String) :
    (c.apply now e).servers.contains id = Event.listedAfter id (c.servers.contains id) e := by
  cases e with
  | playerJoin uuid username id' name previous => exact contains_servers_updatePlayer c _ id
  | playerLeave uuid id' =>
    rw [Replica.apply, Event.listedAfter]
    split
    · exact contains_servers_removePlayer c uuid id
    · rfl
  | serverHeartbeat id' count max =>
    rw [Replica.apply, Event.listedAfter, Index.contains, Index.get?_adjust]
    split <;> simp [Index.contains]
  | serverOnline id' name =>
    rw [Replica.apply, contains_servers_recount, Event.listedAfter]
    show (c.servers.insert (revived (c.servers.get? id') id' name now).serverId _).contains id = _
    rw [Index.contains_insert, serverId_revived, decide_eq_decide.2 (eq_comm (a := id))]
  | serverOffline id' reason =>
    rw [Replica.apply, contains_servers_removeServer, Event.listedAfter,
      decide_eq_decide.2 (ne_comm (a := id))]

end FleetStatus.Replica
