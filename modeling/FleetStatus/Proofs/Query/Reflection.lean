import FleetStatus.Responder

set_option relaxedAutoImplicit false
set_option autoImplicit false

/-!
# Which datagrams are answered

A datagram that carries no valid token gets no more than a token back, and that only when it asks
for one: the sender of a query must have received a token at the address that the answer goes to.
Reading is lenient with what comes after the token, and with nothing before it.

## Main definitions

* `FleetStatus.Request.AsksForToken`, `FleetStatus.Request.HasToken` — the two kinds of datagram
  that are answered, by their bytes.
* `FleetStatus.Request.requestId` — the number in a query.

## Main results

* `FleetStatus.Request.parse_of_asksForToken`, `FleetStatus.Request.parse_of_type_ne_zero`,
  `FleetStatus.Request.parse_of_no_type` — what is read from a datagram with the magic bytes.
* `FleetStatus.Responder.exists_answer_eq_frame` — every answer is a frame with the number of the
  query.
* `FleetStatus.Responder.reply_isSome_iff` — a datagram is answered exactly when it asks for a token
  or carries a valid one, and how.
-/

namespace FleetStatus

/-! ## What is read from a datagram -/

namespace Request

variable {data : Bytes}

/-- The datagram **asks for a token**: the magic bytes and the type zero, whatever follows. -/
def AsksForToken (data : Bytes) : Prop := data.take 8 = Query.magic ∧ data[8]? = some 0

/-- The datagram is a query that is long enough for a token: the magic bytes, another type, and the
32 bytes from byte 9 on. -/
def HasToken (data : Bytes) : Prop :=
  data.take 8 = Query.magic ∧ (∃ c, data[8]? = some c ∧ c ≠ 0) ∧ 41 ≤ data.length

/-- The bytes of the token. -/
def tokenBytes (data : Bytes) : Bytes := (data.drop 9).take 32

/-- The number by which the client knows the reply: the four bytes from byte 41 on, low byte first,
or zero when they are not all there. -/
def requestId (data : Bytes) : Nat :=
  if 45 ≤ data.length then Bytes.ofLittle ((data.drop 41).take 4) else 0

/-- A request begins with the magic bytes. -/
theorem isRequest_iff : isRequest data ↔ data.take 8 = Query.magic := beq_iff_eq

example : isRequest (Text.utf8 "ONEQUERY") := by decide

/-- **A token is read when all of its bytes are there**, and only then.

**Proof sketch.** The slice of 32 bytes behind the type is whole when the datagram has 41 bytes, and
a whole slice is a token. -/
theorem map_val_token? (data : Bytes) : (token? data).map (·.val) =
    if 41 ≤ data.length then some (tokenBytes data) else none := by
  have hlength : (tokenBytes data).length = min 32 (data.length - 9) := by
    rw [tokenBytes, List.length_take, List.length_drop]
  have htoken : token? data = if h : (tokenBytes data).length = 32 then
    some ⟨tokenBytes data, h⟩ else none := rfl
  rw [htoken]
  by_cases hlong : 41 ≤ data.length
  · have hall : (tokenBytes data).length = 32 := by omega
    rw [dif_pos hall, if_pos hlong]
    rfl
  · have hshort : ¬(tokenBytes data).length = 32 := by omega
    rw [dif_neg hshort, if_neg hlong]
    rfl

/-- The number is read in full or not at all, so it is never cut to four bytes.

**Proof sketch.** With 45 bytes the slice is whole, and four bytes tell a number in range. With
fewer it is none and the number is zero. -/
theorem toNat_requestId (data : Bytes) :
    (UInt32.ofNat (number data 41 4)).toNat = requestId data := by
  have hlength : ((data.drop 41).take 4).length = min 4 (data.length - 41) := by
    rw [List.length_take, List.length_drop]
  unfold number slice? requestId
  by_cases hlong : 45 ≤ data.length
  · have hall : ((data.drop 41).take 4).length = 4 := by omega
    have hlt := Bytes.ofLittle_lt ((data.drop 41).take 4)
    rw [hall] at hlt
    simp only [hall, if_true, hlong, Option.map_some, Option.getD_some]
    exact UInt32.toNat_ofNat_of_lt' hlt
  · have hshort : ¬((data.drop 41).take 4).length = 4 := by omega
    simp only [hshort, if_false, hlong, Option.map_none, Option.getD_none]
    rfl

/-- **Only type zero asks for a token.** -/
theorem parse_of_asksForToken (h : AsksForToken data) : parse data = .ok .challenge := by
  have hmagic : isRequest data = true := isRequest_iff.2 h.1
  simp [parse, hmagic, h.2, QueryKind.code]

/-- The query in a datagram with the given type. -/
def queryOf (data : Bytes) (typeCode : UInt8) : Query where
  typeCode
  token := token? data
  requestId := UInt32.ofNat (number data 41 4)
  flags := UInt16.ofNat (number data 45 2)
  offset := UInt32.ofNat (number data 47 4)
  bearer := if UInt16.ofNat (number data 45 2) &&& Query.hasBearer ≠ 0 then bearer? data else none

/-- **Any other type makes a query.** -/
theorem parse_of_type_ne_zero (hmagic : data.take 8 = Query.magic) {c : UInt8}
    (hc : data[8]? = some c) (hne : c ≠ 0) : parse data = .ok (.query (queryOf data c)) := by
  have hrequest : isRequest data = true := isRequest_iff.2 hmagic
  have hcode : ¬c = QueryKind.challenge.code := hne
  simp only [parse, hrequest, hc, hcode, Bool.not_true, Bool.false_eq_true, if_false]
  rfl

/-- **A datagram that ends before its type** is malformed. -/
theorem parse_of_no_type (hmagic : data.take 8 = Query.magic) (hc : data[8]? = none) :
    parse data = .error (.truncated 9 8) := by
  have hrequest : isRequest data = true := isRequest_iff.2 hmagic
  simp only [parse, hrequest, hc, Bool.not_true, Bool.false_eq_true, if_false]

end Request

/-! ## What is sent -/

/-- The reply with a token has 48 bytes. -/
theorem Reply.length_challenge (token : Challenge.Token) : (Reply.challenge token).length = 48 := by
  have htoken : token.val.length = 32 := token.property
  simp [Reply.challenge, Reply.magic, Wire.u8, htoken]

namespace Responder

variable (r : Responder) (v : View)

/-- **Every answer is a frame** with the number of the query: the summary, a page or the refusal.

**Proof sketch.** By whether the query is permitted and which endpoint it reads. -/
theorem exists_answer_eq_frame (q : Query) :
    ∃ flags payload, r.answer v q = Reply.frame q.requestId flags payload := by
  unfold answer
  split
  · split
    · exact ⟨_, _, rfl⟩
    · exact ⟨_, _, rfl⟩
  · exact ⟨_, _, rfl⟩

/-- A query is answered when its token is all there and accepted. -/
theorem replyToQuery_eq (now : Int64) (ip : Ip) (q : Query) : r.replyToQuery v now ip q =
    ((q.token.map (·.val)).filter (r.codec.accepts · ip (now.toInt / 1000))).map
      fun _ => r.answer v q := by
  unfold replyToQuery
  cases q.token with
  | none => rfl
  | some token =>
    cases haccepts : r.codec.accepts token.val ip (now.toInt / 1000) <;>
      simp [haccepts, Option.filter]

/-- A datagram without the magic bytes of a request is answered as a legacy request at most. -/
theorem reply_of_not_isRequest (now : Int64) (ip : Ip) {data : Bytes}
    (hmagic : data.take 8 ≠ Query.magic)
    (hlegacy : ¬(r.legacyEnabled ∧ data.take 8 = LegacyQuery.magic ∧ 8 < data.length)) :
    r.reply v now ip data = none := by
  have hrequest : ¬Request.isRequest data = true := fun h => hmagic (Request.isRequest_iff.1 h)
  rw [reply, if_neg hrequest]
  cases hquery : LegacyQuery.parse? data with
  | none => rfl
  | some query =>
    -- the datagram is a legacy request, so these are not answered
    unfold LegacyQuery.parse? at hquery
    split at hquery
    next htake =>
      obtain ⟨c, hc, -⟩ := Option.map_eq_some_iff.1 hquery
      obtain ⟨hlength, -⟩ := List.getElem?_eq_some_iff.1 hc
      have hoff : ¬r.legacyEnabled = true := fun hon => hlegacy ⟨hon, htake, hlength⟩
      exact if_neg hoff
    next => exact absurd hquery nofun

/-- A request for a token is answered with one. -/
theorem reply_of_asksForToken (now : Int64) (ip : Ip) {data : Bytes}
    (h : Request.AsksForToken data) : r.reply v now ip data =
      some (Reply.challenge (r.codec.issue ip (now.toInt / 1000))) := by
  rw [reply, if_pos (Request.isRequest_iff.2 h.1), Request.parse_of_asksForToken h]

/-- The reply to a query depends on the token that is in it.

**Proof sketch.** The datagram is a query, whose token is read when 41 bytes are there; it is
answered when the token is accepted. -/
theorem reply_of_type_ne_zero (now : Int64) (ip : Ip) {data : Bytes}
    (hmagic : data.take 8 = Query.magic) {c : UInt8} (hc : data[8]? = some c) (hne : c ≠ 0) :
    r.reply v now ip data =
      if 41 ≤ data.length ∧ r.codec.accepts (Request.tokenBytes data) ip (now.toInt / 1000) then
        some (r.answer v (Request.queryOf data c))
      else none := by
  rw [reply, if_pos (Request.isRequest_iff.2 hmagic), Request.parse_of_type_ne_zero hmagic hc hne]
  show r.replyToQuery v now ip (Request.queryOf data c) = _
  rw [replyToQuery_eq, Request.queryOf, Request.map_val_token?]
  by_cases hlong : 41 ≤ data.length
  · cases haccepts : r.codec.accepts (Request.tokenBytes data) ip (now.toInt / 1000) <;>
      simp [hlong, haccepts, Option.filter]
  · simp [hlong]

/-- **No reflection, and no valid query is dropped.** Apart from legacy requests that are answered,
a datagram is answered exactly when it asks for a token, or is a query whose 32 bytes from byte 9 on
are accepted as the token of the sender's address. The first gets 48 bytes with the token of that
address; the second gets a frame of version 1 with its own number.

**Proof sketch.** By the first eight bytes and the type. A token that is not all there counts as
absent, and nothing after the token can make a query malformed. -/
theorem reply_isSome_iff (now : Int64) (ip : Ip) (data : Bytes)
    (hlegacy : ¬(r.legacyEnabled ∧ data.take 8 = LegacyQuery.magic ∧ 8 < data.length)) :
    let seconds := now.toInt / 1000
    let valid := Request.HasToken data ∧ r.codec.accepts (Request.tokenBytes data) ip seconds
    ((r.reply v now ip data).isSome ↔ Request.AsksForToken data ∨ valid) ∧
    (Request.AsksForToken data → ∃ packet : Bytes, r.reply v now ip data = some packet ∧
      packet.length = 48 ∧
      packet = Reply.magic ++ [0] ++ (r.codec.issue ip seconds).val ++ List.replicate 7 0) ∧
    (valid → ∃ (flags : UInt16) (payload : Bytes), r.reply v now ip data =
      some (Reply.magic ++ [1] ++ Wire.u16 flags ++ Bytes.little 4 (Request.requestId data) ++
        Wire.counted payload)) := by
  intro seconds valid
  refine ⟨?_, fun hasks => ?_, ?_⟩
  · by_cases hmagic : data.take 8 = Query.magic
    · cases hc : data[8]? with
      | none =>
        have hnone : r.reply v now ip data = none := by
          rw [reply, if_pos (Request.isRequest_iff.2 hmagic), Request.parse_of_no_type hmagic hc]
        simp [hnone, valid, Request.AsksForToken, Request.HasToken, hc]
      | some c =>
        by_cases hzero : c = 0
        · subst hzero
          simp [r.reply_of_asksForToken v now ip ⟨hmagic, hc⟩, Request.AsksForToken, hmagic, hc]
        · rw [r.reply_of_type_ne_zero v now ip hmagic hc hzero]
          simp [valid, Request.AsksForToken, Request.HasToken, hmagic, hc, hzero, seconds]
    · have hnone := r.reply_of_not_isRequest v now ip hmagic hlegacy
      simp [hnone, valid, Request.AsksForToken, Request.HasToken, hmagic]
  · exact ⟨_, r.reply_of_asksForToken v now ip hasks, Reply.length_challenge _, rfl⟩
  · rintro ⟨⟨hmagic, ⟨c, hc, hne⟩, hlong⟩, haccepts⟩
    obtain ⟨flags, payload, hframe⟩ := r.exists_answer_eq_frame v (Request.queryOf data c)
    refine ⟨flags, payload, ?_⟩
    rw [r.reply_of_type_ne_zero v now ip hmagic hc hne, if_pos ⟨hlong, haccepts⟩, hframe,
      ← Request.toNat_requestId]
    rfl

/-- A request for a token is answered; a query that is one byte too short for a token is not. -/
theorem reply_isSome_iff_short :
    let r : Responder := {
      codec := ⟨[7], 4, by decide, by decide, by decide⟩
      access := {}
      legacyEnabled := true }
    let ip : Ip := .v4 0x7f000001
    let short := Query.magic ++ List.replicate 32 1
    (∃ packet, r.reply default 0 ip Request.challengeBytes = some packet ∧ packet.length = 48) ∧
      ¬(r.reply default 0 ip short).isSome := by
  intro r ip short
  have hchallenge := r.reply_isSome_iff default 0 ip Request.challengeBytes (by decide)
  have hshort := r.reply_isSome_iff default 0 ip short (by decide)
  obtain ⟨packet, hpacket, hlength, -⟩ := hchallenge.2.1 ⟨by decide, by decide⟩
  refine ⟨⟨packet, hpacket, hlength⟩, fun hsome => ?_⟩
  rcases hshort.1.1 hsome with hasks | ⟨hhas, -⟩
  · exact absurd hasks.2 (by decide)
  · exact absurd hhas.2.2 (by decide)

end Responder

end FleetStatus
