import FleetStatus.Proofs.Query.Refusal

set_option relaxedAutoImplicit false
set_option autoImplicit false

/-!
# The size of replies

Replies are planned for a datagram size that every network carries. Pages of players are cut to it,
and so are the lists of a full legacy reply. A summary is sent whole, with whatever texts the server
was given, so a long message of the day makes a reply that is too long.

## Main definitions

* `FleetStatus.ServerInfo.textBytes`, `FleetStatus.ServerInfo.addressBytes` — what the texts and the
  address of a summary take.
* `FleetStatus.ServerInfo.sentBytes` — what the texts take as sent.

## Main results

* `FleetStatus.Reply.length_basic_le_iff` — which summaries and refusals keep to a limit.
* `FleetStatus.LegacyReply.length_encode_basic_le_iff`,
  `FleetStatus.LegacyReply.length_encode_full_le_iff` — which legacy replies do.
* `FleetStatus.Responder.forall_length_reply_le_iff` — which responders keep to a limit, whatever
  they are asked.
* `FleetStatus.Responder.safeSize_kept_iff` — which responders keep to the planned size.
* `FleetStatus.Responder.safeSize_not_kept` — not all do.
-/

namespace FleetStatus

/-! ## Texts -/

/-- The bytes of the texts of a summary. -/
def ServerInfo.textBytes (info : ServerInfo) : Nat :=
  info.name.utf8ByteSize + info.motd.utf8ByteSize + info.version.utf8ByteSize +
    info.protocolHash.utf8ByteSize

/-- The bytes of the address of a summary: the host behind its length, and the port. -/
def ServerInfo.addressBytes (info : ServerInfo) : Nat :=
  info.address.elim 0 fun (host, _) => 4 + host.utf8ByteSize

/-- The bytes that the texts of a summary take as sent, each behind its length. -/
def ServerInfo.sentBytes (info : ServerInfo) : Nat :=
  (Wire.text info.name).length + (Wire.text info.motd).length + (Wire.text info.version).length +
    (Wire.text info.protocolHash).length

namespace Wire

/-- A text takes its bytes and a length. One that is too long to be counted takes almost as many
bytes as can be counted. -/
theorem length_text_cases (s : String) : (text s).length = 2 + s.utf8ByteSize ∨
    (maxLength < s.utf8ByteSize ∧ maxLength < (text s).length + 2) := by
  rw [length_text_eq]
  rcases Text.truncate_cases s maxLength with hall | ⟨hlong, hcut⟩
  · exact .inl (congrArg (2 + ·.utf8ByteSize) hall)
  · exact .inr ⟨hlong, by omega⟩

end Wire

/-- Four texts take their bytes and four lengths, unless one of them is too long to be counted. -/
theorem ServerInfo.sentBytes_cases (info : ServerInfo) : info.sentBytes = 8 + info.textBytes ∨
    (Wire.maxLength < info.textBytes ∧ Wire.maxLength < info.sentBytes + 2) := by
  have hname := Wire.length_text_cases info.name
  have hmotd := Wire.length_text_cases info.motd
  have hversion := Wire.length_text_cases info.version
  have hhash := Wire.length_text_cases info.protocolHash
  rw [sentBytes, textBytes]
  omega

/-! ## Replies -/

namespace Reply

variable (info : ServerInfo) (requestId : UInt32) (flags : UInt16) {limit : Nat}

/-- How long the body of a summary is. -/
theorem length_infoBytes : (infoBytes info).length = 12 + info.sentBytes +
    info.address.elim 0 fun (host, _) => (Wire.text host).length + 2 := by
  simp only [infoBytes, ServerInfo.sentBytes, List.length_append, Wire.u32, Bytes.length_little]
  cases info.address with
  | none =>
    simp only [Option.elim_none, List.length_nil]
    omega
  | some address =>
    simp only [Option.elim_some, List.length_append, Wire.u16, Bytes.length_little]
    omega

/-- A limit that is well below what can be counted does not see that texts are cut.

**Proof sketch.** A text that is cut takes almost as many bytes as can be counted, which is beyond
the limit before the cut and after it. -/
theorem length_infoBytes_le_iff (hlimit : limit + 2 ≤ Wire.maxLength) :
    (infoBytes info).length ≤ limit ↔ 20 + info.textBytes + info.addressBytes ≤ limit := by
  rw [length_infoBytes, ServerInfo.addressBytes]
  have htexts := info.sentBytes_cases
  cases info.address with
  | none =>
    simp only [Option.elim_none]
    omega
  | some address =>
    have hhost := Wire.length_text_cases address.1
    simp only [Option.elim_some]
    omega

/-- A frame is a header and the bytes of its payload that can be counted. -/
theorem length_frame (payload : Bytes) : (frame requestId flags payload).length =
    headerSize + min Wire.maxLength payload.length := by
  have hmagic : magic.length = 8 := rfl
  simp only [frame, Wire.counted, Wire.u8, Wire.u16, Wire.u32, Wire.length, List.length_append,
    List.length_take, Bytes.length_little, hmagic, headerSize, List.length_cons, List.length_nil]
  omega

/-- **Which summaries keep to a limit**: the header, the numbers and the lengths take 41 bytes.

**Proof sketch.** Block and payload are cut at what can be counted, which is beyond the limit less
their headers; below that they are as long as the body. -/
theorem length_basic_le_iff (hlimit : limit ≤ Wire.maxLength) :
    (basic requestId flags info).length ≤ limit ↔
      41 + info.textBytes + info.addressBytes ≤ limit := by
  have hblock : (Wire.block serverInfoBlock (infoBytes info)).length =
      4 + min Wire.maxLength (infoBytes info).length := by
    simp only [Wire.block, Wire.counted, Wire.u16, Wire.length, List.length_append,
      List.length_take, Bytes.length_little]
    omega
  have hheader : headerSize = 17 := rfl
  rw [basic_eq_frame, length_frame, hblock, hheader]
  by_cases hroom : 21 ≤ limit
  · have hbody : (infoBytes info).length ≤ limit - 21 ↔
        20 + info.textBytes + info.addressBytes ≤ limit - 21 :=
      length_infoBytes_le_iff info (by omega)
    omega
  · omega

/-- **A page of players keeps to the planned size.**

**Proof sketch.** The entries keep to the budget, which was chosen so that the headers fit as well.
-/
theorem length_packet_players_le (list : List PlayerEntry) (offset : UInt32) :
    (players requestId flags list offset).packet.length ≤ safeSize := by
  have hentries := Wire.totalSize_takeWithin_le entrySize pageBudget (list.drop (start list offset))
  rw [length_packet_players]
  exact (Nat.add_le_add_left hentries _).trans (by decide)

end Reply

/-! ## Legacy replies -/

namespace LegacyReply

variable (reply : LegacyReply) {limit : Nat}

/-- A player takes as many bytes as are planned for. -/
theorem length_playerBytes (p : PlayerEntry) : (playerBytes p).length = playerSize p := by
  rw [playerBytes, List.length_append, Wire.length_text_eq, Uuid.length_toBytes]
  rfl

/-- A plugin takes as many bytes as are planned for. -/
theorem length_pluginBytes (p : PluginEntry) : (pluginBytes p).length = pluginSize p := by
  simp only [pluginBytes, List.length_append, Wire.length_text_eq, Wire.u8, List.length_singleton]
  rfl

/-- How long the first part of a legacy reply is. -/
theorem length_summaryBytes (query : LegacyQuery) : (summaryBytes query reply).length =
    23 + reply.info.sentBytes := by
  have hmagic : magic.length = 8 := rfl
  simp only [summaryBytes, ServerInfo.sentBytes, List.length_append, Wire.u8, Wire.u16, Wire.i32,
    Wire.u32, Bytes.length_little, hmagic, List.length_singleton]
  omega

/-- How long the last part of a legacy reply is. -/
theorem length_trailer : reply.trailer.length = 3 := by
  simp only [trailer, List.length_append, Wire.u8, Wire.u16, Bytes.length_little,
    List.length_singleton]

/-- The lists fit in what is left for them.

**Proof sketch.** Each list has four bytes for its length. The players keep to the budget, and the
plugins to what the players leave of it. -/
theorem length_listBytes_le (budget : Nat) : 8 ≤ (reply.listBytes budget).length ∧
    (reply.listBytes budget).length ≤ 8 + budget := by
  have hplayers := Wire.totalSize_takeWithin_le playerSize budget reply.players
  have hplugins := Wire.totalSize_takeWithin_le pluginSize
    (budget - Wire.totalSize playerSize (reply.listedPlayers budget)) reply.plugins
  simp only [listBytes, List.length_append, Wire.length_flatMap length_playerBytes,
    Wire.length_flatMap length_pluginBytes, Wire.i32, Wire.u32, Bytes.length_little]
  simp only [listedPlugins, listedPlayers] at *
  omega

/-- **Which short legacy replies keep to a limit.** -/
theorem length_encode_basic_le_iff (hlimit : limit ≤ Wire.maxLength) :
    (encode .basic reply).length ≤ limit ↔ 34 + reply.info.textBytes ≤ limit := by
  have htexts := reply.info.sentBytes_cases
  simp only [encode, List.length_append, length_summaryBytes, length_trailer, List.length_nil]
  omega

/-- **Which full legacy replies keep to a limit**, if it is not below the planned size: those whose
summary leaves room for the lengths of the lists. The lists fill up to the planned size.

**Proof sketch.** The lists get what the summary leaves of the planned size. If the summary leaves
nothing, they are empty and the reply is 42 bytes and its texts long. -/
theorem length_encode_full_le_iff (hsafe : Reply.safeSize ≤ limit)
    (hlimit : limit ≤ Wire.maxLength) :
    (encode .full reply).length ≤ limit ↔ 42 + reply.info.textBytes ≤ limit := by
  have htexts := reply.info.sentBytes_cases
  have hsummary := reply.length_summaryBytes .full
  have hlists := reply.length_listBytes_le (listBudget (summaryBytes .full reply).length)
  simp only [encode, List.length_append, length_trailer, listBudget] at *
  omega

end LegacyReply

/-! ## Responders -/

namespace View

variable (v : View)

/-- The fleet has no say in texts. -/
theorem textBytes_info : v.info.textBytes = v.report.info.textBytes := by
  unfold info
  cases v.fleet <;> rfl

/-- The fleet has no say in the address. -/
theorem addressBytes_info : v.info.addressBytes = v.report.info.addressBytes := by
  unfold info
  cases v.fleet <;> rfl

end View

namespace Responder

variable (r : Responder) (v : View) {limit : Nat}

/-- **What is sent**: a token, the answer to a query, or a legacy reply.

**Proof sketch.** By how the datagram is read; what is malformed or has a worthless token is not
answered. -/
theorem reply_cases {now : Int64} {ip : Ip} {data packet : Bytes}
    (h : r.reply v now ip data = some packet) :
    (Request.parse data = .ok .challenge ∧
      packet = Reply.challenge (r.codec.issue ip (now.toInt / 1000))) ∨
    (∃ q, Request.parse data = .ok (.query q) ∧ packet = r.answer v q) ∨
    (Request.isRequest data = false ∧ r.legacyEnabled = true ∧
      ∃ query, packet = replyToLegacy v query) := by
  unfold reply at h
  split at h
  next =>
    split at h
    next => cases h
    next hparse => exact .inl ⟨hparse, (Option.some.inj h).symm⟩
    next q hparse =>
      rw [replyToQuery_eq] at h
      obtain ⟨-, -, hanswer⟩ := Option.map_eq_some_iff.1 h
      exact .inr (.inl ⟨q, hparse, hanswer.symm⟩)
  next hother =>
    split at h
    next => cases h
    next query _ =>
      obtain ⟨hlegacy, hquery⟩ := Option.ite_none_right_eq_some.1 h
      have hno := Bool.eq_false_iff.2 hother
      exact .inr (.inr ⟨hno, hlegacy, query, (Option.some.inj hquery).symm⟩)

/-- **Which answers about the summary keep to a limit**: a summary and a refusal are of one size. -/
theorem length_answer_le_iff (hlimit : limit ≤ Wire.maxLength) {q : Query}
    (hbasic : q.endpoint = .basic) : (r.answer v q).length ≤ limit ↔
      41 + v.report.info.textBytes + v.report.info.addressBytes ≤ limit := by
  rw [answer, hbasic]
  split
  · rw [Reply.length_basic_le_iff _ _ _ hlimit, v.textBytes_info, v.addressBytes_info]
  · exact Reply.length_basic_le_iff _ _ _ hlimit

/-- An answer about players keeps to a limit if it is a page; if it is a refusal, it is of the size
of a summary.

**Proof sketch.** By endpoint and permission: a page keeps to the planned size, and everything else
is of the size of a summary. -/
theorem length_answer_le (hsafe : Reply.safeSize ≤ limit) (hlimit : limit ≤ Wire.maxLength)
    (hfits : 41 + v.report.info.textBytes + v.report.info.addressBytes ≤ limit) (q : Query) :
    (r.answer v q).length ≤ limit := by
  cases hendpoint : q.endpoint with
  | basic => exact (r.length_answer_le_iff v hlimit hendpoint).2 hfits
  | players =>
    rw [answer, hendpoint]
    split
    · exact (Reply.length_packet_players_le ..).trans hsafe
    · exact (Reply.length_basic_le_iff _ _ _ hlimit).2 hfits

/-- A valid query for the summary, which every responder answers. -/
theorem reply_withToken_issue (now : Int64) (ip : Ip) :
    let token := r.codec.issue ip (now.toInt / 1000)
    let data := Request.withToken 1 token []
    r.reply v now ip data =
      some (r.answer v { Request.queryOf data 1 with token := some token }) := by
  intro token data
  have hparse := Request.parse_withToken token [] (show (1 : UInt8) ≠ 0 by decide)
  exact r.reply_of_parse v hparse rfl (r.codec.accepts_issue_self ip _)

/-- **Which responders keep to a limit**, whatever they are asked, if it is not below the planned
size.

**Proof sketch.** All replies keep to the limit if each of the five kinds does. Conversely a valid
query for the summary is answered by every responder, and a full legacy request by one that has
legacy replies enabled, so that these two sizes must keep to it. -/
theorem forall_length_reply_le_iff (hsafe : Reply.safeSize ≤ limit)
    (hlimit : limit ≤ Wire.maxLength) :
    (∀ (now : Int64) (ip : Ip) (data packet : Bytes),
        r.reply v now ip data = some packet → packet.length ≤ limit) ↔
      41 + v.report.info.textBytes + v.report.info.addressBytes ≤ limit ∧
        (r.legacyEnabled = true → 42 + v.report.info.textBytes ≤ limit) := by
  constructor
  · intro hall
    refine ⟨?_, fun hlegacy => ?_⟩
    · -- a valid query for the summary
      have hreply := r.reply_withToken_issue v 0 (.v4 0)
      exact (r.length_answer_le_iff v hlimit (Query.endpoint_eq _)).1 (hall _ _ _ _ hreply)
    · -- a full legacy request
      have hreply : r.reply v 0 (.v4 0) (LegacyQuery.magic ++ [LegacyQuery.full.code]) =
          some (replyToLegacy v .full) := by
        rw [reply, if_neg (by decide)]
        exact if_pos hlegacy
      have hlength := hall _ _ _ _ hreply
      rw [replyToLegacy, LegacyReply.length_encode_full_le_iff _ hsafe hlimit] at hlength
      rwa [v.textBytes_info] at hlength
  · rintro ⟨hsummary, hfull⟩ now ip data packet hreply
    rcases r.reply_cases v hreply with ⟨-, rfl⟩ | ⟨q, -, rfl⟩ | ⟨-, hlegacy, query, rfl⟩
    · rw [Reply.length_challenge]
      exact le_trans (by decide) hsafe
    · exact r.length_answer_le v hsafe hlimit hsummary q
    · have hroom := hfull hlegacy
      rw [← v.textBytes_info] at hroom
      cases query with
      | basic =>
        rw [replyToLegacy, LegacyReply.length_encode_basic_le_iff _ hlimit]
        show 34 + v.info.textBytes ≤ limit
        omega
      | full => exact (LegacyReply.length_encode_full_le_iff _ hsafe hlimit).2 hroom

/-- **Which responders keep to the planned size.** Whatever it is asked, a responder keeps to it
exactly when the texts and the address of the server leave room for the 41 bytes that a summary
takes otherwise, and, if legacy requests are answered, the texts leave room for the 42 bytes of a
full legacy reply without players and plugins. Tokens and pages of players keep to it whatever the
texts are.

**Proof sketch.** A summary and a refusal are of one size. Lists are cut to what is left of the
planned size, so they are too long only if nothing is left. -/
theorem safeSize_kept_iff :
    ((∀ (now : Int64) (ip : Ip) (data packet : Bytes),
        r.reply v now ip data = some packet → packet.length ≤ Reply.safeSize) ↔
      41 + v.report.info.textBytes + v.report.info.addressBytes ≤ Reply.safeSize ∧
        (r.legacyEnabled = true → 42 + v.report.info.textBytes ≤ Reply.safeSize)) ∧
    ∀ (now : Int64) (ip : Ip) (data packet : Bytes), r.reply v now ip data = some packet →
      (Request.parse data = .ok .challenge ∨ ∃ q, Request.parse data = .ok (.query q) ∧
        q.endpoint = .players ∧ r.access.allows .players q.bearer = true) →
      packet.length ≤ Reply.safeSize := by
  refine ⟨r.forall_length_reply_le_iff v le_rfl (by decide), ?_⟩
  intro now ip data packet hreply hkind
  rcases r.reply_cases v hreply with ⟨-, rfl⟩ | ⟨q, hparse, rfl⟩ | ⟨hno, -, -⟩
  · rw [Reply.length_challenge]
    decide
  · obtain hchallenge | ⟨q', hparse', hplayers, hallowed⟩ := hkind
    · cases hparse.symm.trans hchallenge
    · obtain rfl : q = q' := by
        cases hparse.symm.trans hparse'
        rfl
      rw [answer, hplayers, if_pos hallowed]
      exact Reply.length_packet_players_le ..
  · -- a legacy request is not read as a request with a token
    obtain hparse | ⟨q, hparse, -⟩ := hkind <;>
    · rw [Request.isRequest_of_parse hparse] at hno
      cases hno

/-- The message of the day takes 1360 bytes: with a summary that is one too many. -/
theorem safeSize_not_kept :
    ¬∀ (r : Responder) (v : View) (now : Int64) (ip : Ip) (data packet : Bytes),
      r.reply v now ip data = some packet → packet.length ≤ Reply.safeSize := by
  intro hkept
  let r : Responder := {
    codec := ⟨[7], 4, by decide, by decide, by decide⟩
    access := {} }
  let v : View := {
    report := { (default : HostReport) with motd := String.ofList (List.replicate 1360 'm') } }
  have hlength := hkept r v 0 (.v4 0x7f000001) _ _ (r.reply_withToken_issue v 0 (.v4 0x7f000001))
  have hroom := (r.length_answer_le_iff v (by decide) (Query.endpoint_eq _)).1 hlength
  have hmotd : v.report.motd.utf8ByteSize = 1360 := Text.utf8ByteSize_replicate 1360 'm'
  have htext : 1360 ≤ v.report.info.textBytes := by
    show 1360 ≤ v.report.name.utf8ByteSize + v.report.motd.utf8ByteSize +
      v.report.version.utf8ByteSize + v.report.protocolHash.utf8ByteSize
    omega
  have hsafe : Reply.safeSize = 1400 := rfl
  omega

end Responder

end FleetStatus
