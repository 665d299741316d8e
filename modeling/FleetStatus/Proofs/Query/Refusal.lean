import FleetStatus.Proofs.Query.Authorization

set_option relaxedAutoImplicit false
set_option autoImplicit false

/-!
# What a refusal tells

A refusal is the server's own summary with a flag. It is the same whoever is connected, whatever the
fleet is made of, and whether there is one. It is not the same for two servers with different
summaries: a client that is refused reads from it all that a client that is permitted would be told
of the server on its own. An endpoint that is closed keeps nothing of this secret.

## Main definitions

* `FleetStatus.Responder.opened`, `FleetStatus.View.alone` — the responder that permits everything,
  and the server without its fleet.

## Main results

* `FleetStatus.Responder.reply_eq_of_denied` — the refusal hangs on the summary of the server only.
* `FleetStatus.Responder.reply_eq_iff_of_gated` — two refusals are the same exactly when the
  summaries are.
-/

namespace FleetStatus

/-- A datagram that is read as a query is a request. -/
theorem Request.isRequest_of_parse {data : Bytes} {request : Request}
    (h : Request.parse data = .ok request) : Request.isRequest data = true := by
  rw [← Bool.not_eq_false]
  intro hno
  rw [Request.parse, if_pos (by rw [hno]; rfl)] at h
  cases h

/-- The server **alone**, without its fleet. -/
def View.alone (v : View) : View := { report := v.report }

namespace Responder

/-- The responder that **permits everything**. -/
def opened (r : Responder) : Responder := { r with access := {} }

variable (r : Responder) (v : View) {now : Int64} {ip : Ip} {data : Bytes} {q : Query}
  {token : Challenge.Token}

/-! ## Answers to a query -/

section Reply

variable (hparse : Request.parse data = .ok (.query q)) (htoken : q.token = some token)
  (haccepts : r.codec.accepts token.val ip (now.toInt / 1000) = true)

include hparse htoken haccepts

/-- A query with a valid challenge token is answered. -/
theorem reply_of_parse : r.reply v now ip data = some (r.answer v q) := by
  rw [reply, if_pos (Request.isRequest_of_parse hparse), hparse]
  show r.replyToQuery v now ip q = _
  simp only [replyToQuery, htoken, haccepts, if_true]

/-- **A refusal is the summary of the server** with a flag, whatever the endpoint.

**Proof sketch.** The query is answered, and the answer to a query that is not permitted is the
refusal. -/
theorem reply_of_denied (hdenied : r.access.allows q.endpoint q.bearer = false) :
    r.reply v now ip data = some (Reply.authRequired q.requestId v.report.info) := by
  rw [r.reply_of_parse v hparse htoken haccepts, answer, hdenied, if_neg (by decide)]

/-- The summary of the server alone, to those who are permitted it. -/
theorem reply_opened_alone (hbasic : q.endpoint = .basic) :
    r.opened.reply v.alone now ip data = some (Reply.basic q.requestId 0 v.report.info) := by
  rw [r.opened.reply_of_parse v.alone hparse htoken haccepts, answer, hbasic]
  rfl

end Reply

/-- The flags of a refusal.

**Proof sketch.** The flags of a refusal are those of a summary that was made with the flag of a
refusal, to which at most the flag of an address comes. -/
theorem flags_authRequired (info : ServerInfo) (requestId : UInt32) :
    let flags := Reply.flagsOf (Reply.authRequired requestId info)
    flags &&& Reply.authRequiredFlag ≠ 0 ∧ flags &&& Reply.networkFlag = 0 ∧
      flags &&& Reply.hasMoreFlag = 0 := by
  intro flags
  have hflags : flags = Reply.summaryFlags info Reply.authRequiredFlag := by
    simp only [flags, Reply.authRequired, Reply.basic_eq_frame, Reply.flagsOf_frame]
  rw [hflags, Reply.summaryFlags]
  split <;> decide

/-! ## What a refusal hangs on -/

/-- **A refusal never depends on who is online, or on the fleet.** Two responders with the same
access table and two views of servers with the same summary give the same refusal to a query that
both find valid. It has its own flag and neither that of the fleet nor that of a further page; it is
made of the block with the summary, so no client reads players from it. A query that is permitted
gets an answer without the flag.

**Proof sketch.** The refusal is built from the summary alone. -/
theorem reply_eq_of_denied {r₁ r₂ : Responder} (v₁ v₂ : View) (haccess : r₁.access = r₂.access)
    (hinfo : v₁.report.info = v₂.report.info) (hparse : Request.parse data = .ok (.query q))
    (htoken : q.token = some token)
    (haccepts₁ : r₁.codec.accepts token.val ip (now.toInt / 1000) = true)
    (haccepts₂ : r₂.codec.accepts token.val ip (now.toInt / 1000) = true) :
    (r₁.access.allows q.endpoint q.bearer = false →
      r₁.reply v₁ now ip data = r₂.reply v₂ now ip data ∧
      ∃ packet flags body, r₁.reply v₁ now ip data = some packet ∧
        packet = Reply.frame q.requestId flags (Wire.block Reply.serverInfoBlock body) ∧
        flags &&& Reply.authRequiredFlag ≠ 0 ∧ flags &&& Reply.networkFlag = 0 ∧
        flags &&& Reply.hasMoreFlag = 0 ∧
        ∀ room d, Decoded.parse room packet = .ok d → d.playerList = none) ∧
    (r₁.access.allows q.endpoint q.bearer = true →
      ∃ packet, r₁.reply v₁ now ip data = some packet ∧
        Reply.flagsOf packet &&& Reply.authRequiredFlag = 0) := by
  constructor
  · intro hdenied
    have hreply₁ := r₁.reply_of_denied v₁ hparse htoken haccepts₁ hdenied
    have hreply₂ := r₂.reply_of_denied v₂ hparse htoken haccepts₂ (haccess ▸ hdenied)
    obtain ⟨hrefused, hfleet, hpage⟩ := flags_authRequired v₁.report.info q.requestId
    refine ⟨by rw [hreply₁, hreply₂, hinfo], _, _, _, hreply₁, Reply.basic_eq_frame .., ?_⟩
    rw [Reply.authRequired, Reply.basic_eq_frame, Reply.flagsOf_frame] at hrefused hfleet hpage
    refine ⟨hrefused, hfleet, hpage, ?_⟩
    exact fun room d hd => Reply.playerList_of_parse_basic v₁.report.info _ _ hd
  · intro hallowed
    refine ⟨_, r₁.reply_of_parse v₁ hparse htoken haccepts₁, ?_⟩
    refine not_not.1 (mt (r₁.flagsOf_answer v₁ q).1 ?_)
    rw [hallowed]
    decide

/-- Two servers with one summary, the second with a player and in a fleet: the refusals of a query
for the players without a permitted token are the same. A query with such a token is not refused. -/
theorem reply_eq_of_denied_guest :
    let r₁ : Responder := {
      codec := ⟨[7], 4, by decide, by decide, by decide⟩
      access := {
        everyone := .nothing
        tokens := Index.empty.insert "guest" ⟨false, true⟩ } }
    let r₂ : Responder := { r₁ with legacyEnabled := true }
    let v₁ : View := default
    let v₂ : View := {
      report := { v₁.report with players := [⟨⟨5⟩, "Ann"⟩] }
      fleet := some ⟨[], [⟨⟨5⟩, "Ann", "a", "A", 0⟩], 0⟩ }
    let ip : Ip := .v4 0x7f000001
    v₁.report.info = v₂.report.info ∧ ∃ token : Challenge.Token,
      r₁.codec.accepts token.val ip ((0 : Int64).toInt / 1000) ∧
      let ask (bearer : Bytes) : Bytes := Request.withToken 2 token
        (Wire.u32 7 ++ Wire.u16 1 ++ Wire.u32 0 ++ Wire.counted bearer)
      r₁.reply v₁ 0 ip (ask []) = r₂.reply v₂ 0 ip (ask []) ∧
      ∃ packet, r₁.reply v₁ 0 ip (ask (Text.utf8 "guest")) = some packet ∧
        Reply.flagsOf packet &&& Reply.authRequiredFlag = 0 := by
  intro r₁ r₂ v₁ v₂ ip
  obtain ⟨token, haccepts⟩ := r₁.codec.exists_accepts ip ((0 : Int64).toInt / 1000)
  refine ⟨rfl, token, haccepts, ?_⟩
  intro ask
  have haccess : r₁.access = r₂.access := rfl
  have hparse (bearer : Bytes) := Request.parse_withToken token
    (Wire.u32 7 ++ Wire.u16 1 ++ Wire.u32 0 ++ Wire.counted bearer) (show (2 : UInt8) ≠ 0 by decide)
  have hbearer {bearer : Bytes} (hlength : bearer.length ≤ Wire.maxLength) :
      (Request.queryOf (ask bearer) 2).bearer = some bearer :=
    Request.bearer_queryOf_eq_some_iff.2 (Request.presents_withToken _ 7 0 (by decide) hlength)
  have hanswer (bearer : Bytes) :=
    reply_eq_of_denied v₁ v₂ haccess rfl (hparse bearer) rfl haccepts haccepts
  refine ⟨((hanswer []).1 ?_).1, (hanswer (Text.utf8 "guest")).2 ?_⟩
  · show r₁.access.allows .players (Request.queryOf (ask []) 2).bearer = false
    rw [hbearer (by decide)]
    rfl
  · show r₁.access.allows .players (Request.queryOf (ask (Text.utf8 "guest")) 2).bearer = true
    rw [hbearer (by decide), AccessTable.allows_iff]
    refine .inr ⟨_, rfl, "guest", ⟨false, true⟩, ?_, by decide, rfl, rfl⟩
    rw [Index.get?_insert, if_pos rfl]

/-! ## What a refusal tells of the server -/

/-- **A refusal keeps nothing of the summary secret.** The summary is closed to everyone, and two
responders refuse it to a query that both find valid. Whatever the fleets, the refusals are the same
exactly when the answers that the client would get about the two servers alone, were it permitted,
are the same. As long as the summaries are sent whole that is when the same is kept of them, and
then every client, whatever room it has, reads the summary from its refusal.

**Proof sketch.** A refusal is a summary with a flag. Flags other than the one of an address make no
difference to which summaries are told apart, and what is sent whole is read back. -/
theorem reply_eq_iff_of_gated {r₁ r₂ : Responder} (v₁ v₂ : View) (haccess : r₁.access = r₂.access)
    (hgated : r₁.access.everyone.allows .basic = false)
    (hparse : Request.parse data = .ok (.query q)) (htype : q.typeCode ≠ 2)
    (htoken : q.token = some token)
    (haccepts₁ : r₁.codec.accepts token.val ip (now.toInt / 1000) = true)
    (haccepts₂ : r₂.codec.accepts token.val ip (now.toInt / 1000) = true)
    (hbearer : ∀ bearer, q.bearer = some bearer → ¬r₁.access.Grants .basic bearer) :
    (r₁.reply v₁ now ip data = r₂.reply v₂ now ip data ↔
      r₁.opened.reply v₁.alone now ip data = r₂.opened.reply v₂.alone now ip data) ∧
    (Reply.Fits v₁.report.info → Reply.Fits v₂.report.info →
      (r₁.reply v₁ now ip data = r₂.reply v₂ now ip data ↔
        v₁.report.info.kept = v₂.report.info.kept)) ∧
    ∃ packet, r₁.reply v₁ now ip data = some packet ∧
      (Reply.Fits v₁.report.info →
        ∃ d, (∀ room, Decoded.parse room packet = .ok d) ∧
          d.serverInfo = some v₁.report.info.kept) := by
  have hbasic : q.endpoint = .basic := by
    rw [Query.endpoint_eq, if_neg htype]
  have hdenied : r₁.access.allows q.endpoint q.bearer = false := by
    rw [hbasic, ← Bool.not_eq_true, AccessTable.allows_iff, not_or, Bool.not_eq_true]
    refine ⟨hgated, ?_⟩
    rintro ⟨bearer, hpresented, hgrants⟩
    exact hbearer bearer hpresented hgrants
  have hreply₁ := r₁.reply_of_denied v₁ hparse htoken haccepts₁ hdenied
  have hreply₂ := r₂.reply_of_denied v₂ hparse htoken haccepts₂ (haccess ▸ hdenied)
  refine ⟨?_, fun hfits₁ hfits₂ => ?_, _, hreply₁, fun hfits₁ => ?_⟩
  · rw [hreply₁, hreply₂, r₁.reply_opened_alone v₁ hparse htoken haccepts₁ hbasic,
      r₂.reply_opened_alone v₂ hparse htoken haccepts₂ hbasic, Option.some.injEq, Option.some.injEq]
    exact Reply.basic_inj q.requestId (by decide) (by decide)
  · rw [hreply₁, hreply₂, Option.some.injEq]
    exact Reply.basic_eq_basic_iff q.requestId hfits₁ hfits₂
  · exact ⟨_, fun room => Reply.parse_basic v₁.report.info _ _ room hfits₁, rfl⟩

/-- Two servers that differ in the number of their players refuse a query for the summary with
different answers. -/
theorem refusal_tells_summary :
    ¬∀ (r : Responder) (v₁ v₂ : View) (now : Int64) (ip : Ip) (data : Bytes) (q : Query)
        (token : Challenge.Token), r.access.everyone.allows .basic = false →
      Request.parse data = .ok (.query q) → q.typeCode ≠ 2 → q.token = some token →
      r.codec.accepts token.val ip (now.toInt / 1000) = true →
      (∀ bearer, q.bearer = some bearer → ¬r.access.Grants .basic bearer) →
      r.reply v₁ now ip data = r.reply v₂ now ip data := by
  intro hsilent
  let r : Responder := {
    codec := ⟨[7], 4, by decide, by decide, by decide⟩
    access := { everyone := .nothing } }
  let one : View := { report := { (default : HostReport) with playerCount := 1 } }
  let ip : Ip := .v4 0x7f000001
  obtain ⟨token, haccepts⟩ := r.codec.exists_accepts ip ((0 : Int64).toInt / 1000)
  have hparse := Request.parse_withToken token [] (show (1 : UInt8) ≠ 0 by decide)
  have hnone (bearer : Bytes) : ¬r.access.Grants .basic bearer := by
    rintro ⟨k, p, hget, -⟩
    cases hget
  have hsame := hsilent r default one 0 ip _ _ _ rfl hparse (show (1 : UInt8) ≠ 2 by decide)
    rfl haccepts fun bearer _ => hnone bearer
  have hdenied : r.access.allows .basic (Request.queryOf (Request.withToken 1 token []) 1).bearer =
      false := by
    rw [← Bool.not_eq_true, AccessTable.allows_iff]
    rintro (hopen | ⟨bearer, -, hgrants⟩)
    · cases hopen
    · exact hnone bearer hgrants
  rw [r.reply_of_denied default hparse rfl haccepts hdenied,
    r.reply_of_denied one hparse rfl haccepts hdenied, Option.some.injEq] at hsame
  have hkept := (Reply.basic_eq_basic_iff _ (by decide) (by decide)).1 hsame
  exact absurd (congrArg ServerInfo.playerCount hkept) (by decide)

/-- The same two servers, and a third that has the first one's summary and is in a fleet. -/
theorem reply_eq_iff_of_gated_counts :
    let r : Responder := {
      codec := ⟨[7], 4, by decide, by decide, by decide⟩
      access := { everyone := .nothing } }
    let ip : Ip := .v4 0x7f000001
    let none : View := default
    let one : View := { report := { (default : HostReport) with playerCount := 1 } }
    let fleet : View := { none with fleet := some ⟨[], [⟨⟨5⟩, "Ann", "a", "A", 0⟩], 0⟩ }
    r.access.everyone.allows .basic = false ∧ ∃ token : Challenge.Token,
      r.codec.accepts token.val ip ((0 : Int64).toInt / 1000) ∧
      let ask := Request.withToken 1 token []
      r.reply none 0 ip ask ≠ r.reply one 0 ip ask ∧
      r.reply none 0 ip ask = r.reply fleet 0 ip ask := by
  intro r ip none one fleet
  obtain ⟨token, haccepts⟩ := r.codec.exists_accepts ip ((0 : Int64).toInt / 1000)
  refine ⟨rfl, token, haccepts, ?_⟩
  have hparse := Request.parse_withToken token [] (show (1 : UInt8) ≠ 0 by decide)
  have hnone (bearer : Bytes) : ¬r.access.Grants .basic bearer := by
    rintro ⟨k, p, hget, -⟩
    cases hget
  have haccess : r.access = r.access := rfl
  have hanswer (v : View) := reply_eq_iff_of_gated none v haccess rfl hparse
    (show (1 : UInt8) ≠ 2 by decide) rfl haccepts haccepts fun bearer _ => hnone bearer
  refine ⟨fun hsame => ?_, ?_⟩
  · have hkept := ((hanswer one).2.1 (by decide) (by decide)).1 hsame
    exact absurd (congrArg ServerInfo.playerCount hkept) (by decide)
  · exact ((hanswer fleet).2.1 (by decide) (by decide)).2 rfl

end Responder

end FleetStatus
