import FleetStatus.Proofs.Index
import FleetStatus.Proofs.Json.Values
import FleetStatus.Settings.Document

set_option relaxedAutoImplicit false
set_option autoImplicit false

/-!
# Settings survive their document

Settings come from nothing, from a document, or from other settings by the values of environment
variables. However they came about, their ids are not blank, their document is read as the same
settings, and the same values put in once more change nothing. The document is what is written: a
field that was written under one name and read under another would fall back to its default, because
names that are not known are passed over.

## Main definitions

* `FleetStatus.Settings.Obtained` — the settings that a server can have.
* `FleetStatus.NetworkSettings.HasIds` — neither id is blank.
* `FleetStatus.Settings.given` — the value that an environment variable gives.

## Main results

* `FleetStatus.Settings.readsBack` — the document of any settings is read as the settings, and so on
  for each of their parts.
* `FleetStatus.Settings.withOverrides_eq` — what environment variables do to each setting.
* `FleetStatus.Settings.withOverrides_withOverrides` — the same values put in once more.
* `FleetStatus.Settings.stable_of_obtained` — all of it for the settings that a server can have.
-/

namespace FleetStatus

open Json (ReadsBack)

/-! ## Access -/

/-- **Permissions are read back.** -/
theorem Permissions.readsBack : ReadsBack Permissions.toJson Permissions.ofJson? where
  lossless _ := rfl
  reads p := by
    simp [ofJson?, toJson, Json.record?_of_map_eq, Json.Record.withDefault_cons,
      Json.readsBack_bool.reads]

namespace AccessTable

/-- **Tokens are read back**, whatever their texts are.

**Proof sketch.** The fields of the object are the entries of the table in their order, and a table
is the one that is made of its entries. -/
theorem readsBack_tokens :
    ReadsBack (fun tokens : Index String Permissions =>
      .object (tokens.entries.map fun (k, p) => (k, p.toJson))) tokens? where
  lossless tokens := by
    refine Json.isLossless_object_iff.2 fun field hfield => ?_
    obtain ⟨entry, _, rfl⟩ := List.mem_map.1 hfield
    exact Permissions.readsBack.lossless entry.2
  reads tokens := by
    rw [tokens?, List.mapM_map]
    simp only [Function.comp_def, Permissions.readsBack.reads, Option.map_some]
    have hentries : tokens.entries.mapM (fun entry => some entry) = some tokens.entries :=
      List.mapM_pure.trans (congrArg some (List.map_id _))
    rw [hentries]
    exact congrArg some tokens.ofList_entries

/-- **A table of permissions is read back.** -/
theorem readsBack : ReadsBack toJson ofJson? where
  lossless t := by
    simp [toJson, Json.isLossless_object_iff, Permissions.readsBack.lossless,
      readsBack_tokens.lossless]
  reads t := by
    simp [ofJson?, toJson, Json.record?_of_map_eq, Json.Record.withDefault_cons,
      Permissions.readsBack.reads, readsBack_tokens.reads]

end AccessTable

/-! ## Network -/

/-- **A mode is read back.** -/
theorem FleetMode.readsBack : ReadsBack FleetMode.toJson FleetMode.ofJson? where
  lossless _ := rfl
  reads m := by cases m <;> rfl

/-- **The address of the store is read back.** -/
theorem RedisSettings.readsBack : ReadsBack RedisSettings.toJson RedisSettings.ofJson? where
  lossless s := by
    simp [toJson, Json.isLossless_object_iff, Json.readsBack_text.lossless,
      Json.readsBack_bool.lossless, Json.readsBack_u16.lossless, Json.readsBack_u32.lossless,
      (Json.readsBack_text.nullable nofun).lossless]
  reads s := by
    simp [ofJson?, toJson, Json.record?_of_map_eq, Json.Record.withDefault_cons,
      Json.readsBack_text.reads, Json.readsBack_bool.reads, Json.readsBack_u16.reads,
      Json.readsBack_u32.reads, (Json.readsBack_text.nullable nofun).reads]

/-- **The settings of the store are read back.** -/
theorem StoreSettings.readsBack : ReadsBack StoreSettings.toJson StoreSettings.ofJson? where
  lossless s := by
    simp [toJson, Json.isLossless_object_iff, Json.readsBack_text.lossless,
      RedisSettings.readsBack.lossless]
  reads s := by
    simp [ofJson?, toJson, Json.record?_of_map_eq, Json.Record.withDefault_cons,
      Json.readsBack_text.reads, RedisSettings.readsBack.reads]

/-- **Intervals are read back.** -/
theorem Timing.readsBack : ReadsBack Timing.toJson Timing.ofJson? where
  lossless t := by simp [toJson, Json.isLossless_object_iff, Json.readsBack_u64.lossless]
  reads t := by
    simp [ofJson?, toJson, Json.record?_of_map_eq, Json.Record.withDefault_cons,
      Json.readsBack_u64.reads]

/-- **The settings of the fleet are read back.** -/
theorem NetworkSettings.readsBack : ReadsBack NetworkSettings.toJson NetworkSettings.ofJson? where
  lossless n := by
    simp [toJson, Json.isLossless_object_iff, Json.readsBack_bool.lossless,
      Json.readsBack_text.lossless, FleetMode.readsBack.lossless, StoreSettings.readsBack.lossless,
      Timing.readsBack.lossless]
  reads n := by
    simp [ofJson?, toJson, Json.record?_of_map_eq, Json.Record.withDefault_cons,
      Json.readsBack_bool.reads, Json.readsBack_text.reads, FleetMode.readsBack.reads,
      StoreSettings.readsBack.reads, Timing.readsBack.reads]

/-! ## All settings -/

/-- **What a server says of itself is read back.** -/
theorem IdentityOverrides.readsBack :
    ReadsBack IdentityOverrides.toJson IdentityOverrides.ofJson? where
  lossless o := by
    simp [toJson, Json.isLossless_object_iff, (Json.readsBack_text.nullable nofun).lossless,
      (Json.readsBack_u16.nullable nofun).lossless, (Json.readsBack_u32.nullable nofun).lossless]
  reads o := by
    simp [ofJson?, toJson, Json.record?_of_map_eq, Json.Record.withDefault_cons,
      (Json.readsBack_text.nullable nofun).reads, (Json.readsBack_u16.nullable nofun).reads,
      (Json.readsBack_u32.nullable nofun).reads]

namespace Settings

/-- **The document of any settings is read as the settings.**

**Proof sketch.** All fields are written under their names, and each is read back by its own kind;
the parts are the lemmas above. -/
theorem readsBack : ReadsBack toJson ofJson? where
  lossless s := by
    simp [toJson, Json.isLossless_object_iff, Json.readsBack_bool.lossless,
      Json.readsBack_text.lossless, AccessTable.readsBack.lossless,
      NetworkSettings.readsBack.lossless, IdentityOverrides.readsBack.lossless]
  reads s := by
    simp [ofJson?, toJson, Json.record?_of_map_eq, Json.Record.withDefault_cons,
      Json.readsBack_bool.reads, Json.readsBack_text.reads, AccessTable.readsBack.reads,
      NetworkSettings.readsBack.reads, IdentityOverrides.readsBack.reads]

end Settings

/-! ## Ids -/

namespace NetworkSettings

/-- Neither id is **blank**. -/
structure HasIds (n : NetworkSettings) : Prop where
  serverId : Text.isBlank n.serverId = false
  networkId : Text.isBlank n.networkId = false

/-- A blank id of the server is replaced. -/
theorem serverId_normalized (n : NetworkSettings) :
    n.normalized.serverId = if Text.isBlank n.serverId then "server-1" else n.serverId := rfl

/-- A blank id of the network is replaced. -/
theorem networkId_normalized (n : NetworkSettings) :
    n.normalized.networkId = if Text.isBlank n.networkId then "default" else n.networkId := rfl

/-- **Blank ids are replaced** by ids that are not. -/
theorem hasIds_normalized (n : NetworkSettings) : n.normalized.HasIds where
  serverId := by
    rw [serverId_normalized]
    split
    next => decide
    next hserver => exact Bool.eq_false_iff.2 hserver
  networkId := by
    rw [networkId_normalized]
    split
    next => decide
    next hnetwork => exact Bool.eq_false_iff.2 hnetwork

/-- Ids that are not blank stay. -/
theorem normalized_eq_self {n : NetworkSettings} (h : n.HasIds) : n.normalized = n := by
  simp [normalized, h.serverId, h.networkId]

end NetworkSettings

namespace Settings

/-- Settings with ids stay as they are. -/
theorem normalized_eq_self {s : Settings} (h : s.network.HasIds) : s.normalized = s := by
  rw [normalized, NetworkSettings.normalized_eq_self h]

/-- **The text of settings with ids is read as the settings.**

**Proof sketch.** The document is read back, and settings with ids are normalized already. -/
theorem ofText_toText {s : Settings} (h : s.network.HasIds) : ofText s.toText = .ok s := by
  rw [ofText, toText, readsBack.parse?_toText]
  exact congrArg Except.ok (normalized_eq_self h)

/-! ## Environment variables -/

/-- The value that an environment variable **gives**: none if it is blank. -/
def given (lookup : String → Option String) (name : String) : Option String :=
  (lookup name).filter fun v => !Text.isBlank v

/-- A given value is not blank. -/
theorem isBlank_of_given {lookup : String → Option String} {name v : String}
    (h : given lookup name = some v) : Text.isBlank v = false := by
  simpa using (Option.filter_eq_some_iff.1 h).2

/-- **What environment variables do** to each setting.

**Proof sketch.** One variable after the other: whether it is given or not, it sets its own field,
or none. -/
theorem withOverrides_eq (s : Settings) (lookup : String → Option String) :
    s.withOverrides lookup = normalized { s with
      bind := (given lookup "FLEETQUERY_BIND").getD s.bind
      network := { s.network with
        enabled := (given lookup "FLEETQUERY_REDIS_URL").isSome || s.network.enabled
        serverId := (given lookup "FLEETQUERY_SERVER_ID").getD s.network.serverId
        networkId := (given lookup "FLEETQUERY_NETWORK_ID").getD s.network.networkId
        mode := ((given lookup "FLEETQUERY_MODE").map .ofName).getD s.network.mode
        store := { s.network.store with
          redis := { s.network.store.redis with
            url := (given lookup "FLEETQUERY_REDIS_URL").or s.network.store.redis.url } } } } := by
  have hgiven : ∀ name, (lookup name).filter (fun v => !Text.isBlank v) = given lookup name :=
    fun _ => rfl
  -- one variable at a time, so that no setting is unfolded more than once
  have hbind : ∀ (value : Option String) (s : Settings),
      override value (fun v s => { s with bind := v }) s =
        { s with bind := value.getD s.bind } := by
    rintro (_ | v) s <;> rfl
  have hserver : ∀ (value : Option String) (s : Settings),
      override value (fun v s => { s with network := { s.network with serverId := v } }) s =
        { s with network := { s.network with serverId := value.getD s.network.serverId } } := by
    rintro (_ | v) s <;> rfl
  have hnetwork : ∀ (value : Option String) (s : Settings),
      override value (fun v s => { s with network := { s.network with networkId := v } }) s =
        { s with network := { s.network with networkId := value.getD s.network.networkId } } := by
    rintro (_ | v) s <;> rfl
  have hmode : ∀ (value : Option String) (s : Settings),
      override value (fun v s => { s with network := { s.network with mode := .ofName v } }) s =
        { s with network :=
          { s.network with mode := (value.map .ofName).getD s.network.mode } } := by
    rintro (_ | v) s
    · rfl
    · rw [override, Option.elim_some, Option.map_some, Option.getD_some]
  have hurl : ∀ (value : Option String) (s : Settings),
      override value (fun v s => { s with network := { s.network with
          enabled := true
          store := { s.network.store with
            redis := { s.network.store.redis with url := some v } } } }) s =
        { s with network := { s.network with
          enabled := value.isSome || s.network.enabled
          store := { s.network.store with
            redis := { s.network.store.redis with
              url := value.or s.network.store.redis.url } } } } := by
    rintro (_ | v) s <;> rfl
  simp only [withOverrides, hgiven, hbind, hserver, hnetwork, hmode, hurl]

/-- The settings **have each value that is given**, and ids. -/
structure Carries (s : Settings) (lookup : String → Option String) : Prop where
  bind : ∀ v, given lookup "FLEETQUERY_BIND" = some v → s.bind = v
  serverId : ∀ v, given lookup "FLEETQUERY_SERVER_ID" = some v → s.network.serverId = v
  networkId : ∀ v, given lookup "FLEETQUERY_NETWORK_ID" = some v → s.network.networkId = v
  mode : ∀ v, given lookup "FLEETQUERY_MODE" = some v → s.network.mode = .ofName v
  url : ∀ v, given lookup "FLEETQUERY_REDIS_URL" = some v → s.network.store.redis.url = some v
  enabled : ∀ v, given lookup "FLEETQUERY_REDIS_URL" = some v → s.network.enabled = true
  ids : s.network.HasIds

/-- **The values of environment variables are put in.**

**Proof sketch.** A given value is in its field. Ids that are given are not blank, so that they are
not replaced, and the others are not blank after the replacement. -/
theorem carries_withOverrides (s : Settings) (lookup : String → Option String) :
    (s.withOverrides lookup).Carries lookup := by
  rw [withOverrides_eq]
  exact {
    bind v hv := by simp [normalized, hv]
    serverId v hv := by simp [normalized, NetworkSettings.normalized, hv, isBlank_of_given hv]
    networkId v hv := by simp [normalized, NetworkSettings.normalized, hv, isBlank_of_given hv]
    mode v hv := by simp [normalized, NetworkSettings.normalized, hv]
    url v hv := by simp [normalized, NetworkSettings.normalized, hv]
    enabled v hv := by simp [normalized, NetworkSettings.normalized, hv]
    ids := NetworkSettings.hasIds_normalized _ }

/-- A value that is there already is put in without a change. -/
theorem getD_eq_self {α : Type} {value : Option α} {a : α} (h : ∀ v, value = some v → a = v) :
    value.getD a = a := by
  cases value with
  | none => rfl
  | some v => exact (h v rfl).symm

/-- **Values that the settings have** are put in without a change.

**Proof sketch.** Every field has the value that is put in, if one is, and the settings have ids. -/
theorem withOverrides_eq_self {s : Settings} {lookup : String → Option String}
    (h : s.Carries lookup) : s.withOverrides lookup = s := by
  have hmode : ((given lookup "FLEETQUERY_MODE").map .ofName).getD s.network.mode =
      s.network.mode := by
    refine getD_eq_self fun m hm => ?_
    obtain ⟨v, hv, rfl⟩ := Option.map_eq_some_iff.1 hm
    exact h.mode v hv
  have hurl : (given lookup "FLEETQUERY_REDIS_URL").or s.network.store.redis.url =
      s.network.store.redis.url := by
    cases hv : given lookup "FLEETQUERY_REDIS_URL" with
    | none => rfl
    | some v => exact (h.url v hv).symm
  have henabled : ((given lookup "FLEETQUERY_REDIS_URL").isSome || s.network.enabled) =
      s.network.enabled := by
    cases hv : given lookup "FLEETQUERY_REDIS_URL" with
    | none => rfl
    | some v => exact (h.enabled v hv).symm
  rw [withOverrides_eq, getD_eq_self h.bind, getD_eq_self h.serverId, getD_eq_self h.networkId,
    hmode, hurl, henabled]
  exact normalized_eq_self h.ids

/-- **The same values put in once more change nothing.** -/
theorem withOverrides_withOverrides (s : Settings) (lookup : String → Option String) :
    (s.withOverrides lookup).withOverrides lookup = s.withOverrides lookup :=
  withOverrides_eq_self (carries_withOverrides s lookup)

/-! ## The settings that a server can have -/

/-- The settings that a server **can have**: the default ones, those in a document, and those with
the values of environment variables put in, any number of times. -/
inductive Obtained : Settings → Prop
  | default : Obtained {}
  | read {text : String} {s : Settings} (h : ofText text = .ok s) : Obtained s
  | overridden {s : Settings} (h : Obtained s) (lookup : String → Option String) :
    Obtained (s.withOverrides lookup)

/-- The ids of a document that is read are not blank. -/
theorem hasIds_of_ofText {text : String} {s : Settings} (h : ofText text = .ok s) :
    s.network.HasIds := by
  rw [ofText] at h
  split at h
  next settings _ =>
    cases h
    exact NetworkSettings.hasIds_normalized settings.network
  next => cases h

/-- **No server has blank ids**, wherever its settings come from.

**Proof sketch.** By how the settings came about. The default ones have ids, and what is read or
overridden is normalized in the end. -/
theorem Obtained.hasIds {s : Settings} (h : s.Obtained) : s.network.HasIds := by
  cases h with
  | default => exact ⟨by decide, by decide⟩
  | read h => exact hasIds_of_ofText h
  | overridden h lookup => exact (carries_withOverrides _ lookup).ids

/-- **Settings are stable.** The settings that a server can have, by default or from a document,
with the values of environment variables put in any number of times, have ids that are not blank.
Their text is read as the same settings, with every field as it was. To put in the same values once
more changes nothing.

**Proof sketch.** Whatever a document or the environment leaves blank is replaced last, so the ids
are not blank (`Obtained.hasIds`), and the replacement does nothing to settings that have ids. Each
part of the settings is written under the names that it is read by (`Settings.readsBack`). After the
values were put in, the settings have each of them (`carries_withOverrides`), and to put in what is
there changes nothing. -/
theorem stable_of_obtained {s : Settings} (h : s.Obtained) :
    (Text.isBlank s.network.serverId = false ∧ Text.isBlank s.network.networkId = false) ∧
    ofText s.toText = .ok s ∧
    ∀ lookup, (s.withOverrides lookup).withOverrides lookup = s.withOverrides lookup :=
  ⟨⟨h.hasIds.serverId, h.hasIds.networkId⟩, ofText_toText h.hasIds,
    withOverrides_withOverrides s⟩

/-- A document with a blank id, a mode in small letters and a token with a line break, and then an
environment that gives another id, a blank address to listen on and an address of the store. -/
theorem stable_of_obtained_overridden :
    let document : Json := .object [
      ("Authentication", .object [("Tokens", .object [("a\n", .object [("Players", .bool false)])])]),
      ("Network", .object [("ServerId", .string " "), ("Mode", .string " publish"),
        ("Timing", .object [("ServerTimeoutSeconds", .nat 0)])])]
    let lookup (name : String) : Option String :=
      if name = "FLEETQUERY_SERVER_ID" then some "lobby"
      else if name = "FLEETQUERY_BIND" then some "\t"
      else if name = "FLEETQUERY_REDIS_URL" then some "redis://h" else none
    let read : Settings := {
      access := { tokens := .ofList [("a\n", ⟨true, false⟩)] }
      network := { mode := .publish, timing := { serverTimeout := 0 } } }
    let s : Settings := { read with network := { read.network with
      enabled := true, serverId := "lobby", store := { redis := { url := some "redis://h" } } } }
    ofText document.toText = .ok read ∧ read.withOverrides lookup = s ∧ s.Obtained ∧
      Text.isBlank s.network.serverId = false ∧ ofText s.toText = .ok s ∧
      (s.withOverrides lookup).withOverrides lookup = s.withOverrides lookup := by
  intro document lookup read s
  have hread : ofText document.toText = .ok read := by
    rw [ofText, Json.parse?_toText rfl]
    rfl
  have hs : read.withOverrides lookup = s := by decide +kernel
  have hobtained : s.Obtained := hs ▸ .overridden (.read hread) lookup
  obtain ⟨⟨hid, _⟩, hround, hagain⟩ := stable_of_obtained hobtained
  exact ⟨hread, hs, hobtained, hid, hround, hagain lookup⟩

end Settings

end FleetStatus
