import FleetStatus.Proofs.Access
import FleetStatus.Proofs.Challenge
import FleetStatus.Proofs.Query.Paging
import FleetStatus.Proofs.Query.Reflection
import FleetStatus.Proofs.Query.Summary

set_option relaxedAutoImplicit false
set_option autoImplicit false

/-!
# Which queries are refused

A query presents a bearer token by a flag, a length and as many bytes. The answer to a query with a
valid challenge token is a refusal exactly when the endpoint is not open to everyone and the bytes
that are presented are not those of a token that opens it. Nothing else in the datagram, and nothing
behind the presented bytes, has a say.

## Main definitions

* `FleetStatus.Request.Presents` — a datagram presents some bytes as its bearer token.
* `FleetStatus.Request.withToken` — a query with a challenge token, and what comes after it.

## Main results

* `FleetStatus.Request.bearer_queryOf_eq_some_iff` — the bearer token that is read.
* `FleetStatus.Responder.flagsOf_answer` — the refusal is the only answer with its flag.
* `FleetStatus.Responder.authRequired_iff` — which queries are refused.
-/

namespace FleetStatus

/-- **Only type two reads the list of players**; every other type reads the summary.

**Proof sketch.** The only code that is known for the list of players is two. A query with any other
code, known or not, is taken as one for the summary. -/
theorem Query.endpoint_eq (q : Query) :
    q.endpoint = if q.typeCode = 2 then .players else .basic := by
  by_cases hplayers : q.typeCode = 2
  · simp only [endpoint, kind, hplayers]
    rfl
  · have hkind : q.kind = .basic := by
      simp only [kind, QueryKind.ofCode?, hplayers, if_false]
      by_cases hzero : q.typeCode = 0
      · rw [if_pos hzero]
      · by_cases hone : q.typeCode = 1
        · rw [if_neg hzero, if_pos hone]
        · rw [if_neg hzero, if_neg hone]
    rw [endpoint, hkind, if_neg hplayers]

namespace Request

variable {data more token : Bytes} {start n : Nat}

/-! ## Slices of a datagram -/

/-- A slice is what stands there, if all of it does. -/
theorem slice?_eq_some_iff : slice? data start n = some token ↔
    (data.drop start).take n = token ∧ token.length = n := by
  simp only [slice?, Option.ite_none_right_eq_some, Option.some.injEq]
  constructor
  · rintro ⟨hall, rfl⟩
    exact ⟨rfl, hall⟩
  · rintro ⟨rfl, hlength⟩
    exact ⟨hlength, rfl⟩

/-- A slice that is all there has its length. -/
theorem length_take_drop (h : start + n ≤ data.length) :
    ((data.drop start).take n).length = n := by
  rw [List.length_take, List.length_drop]
  omega

/-- A slice that is all there does not hang on what comes after it. -/
theorem take_drop_append (h : start + n ≤ data.length) :
    ((data ++ more).drop start).take n = (data.drop start).take n := by
  rw [List.drop_append_of_le_length (by omega), List.take_append_of_le_length]
  rw [List.length_drop]
  omega

/-- What comes after a slice does not change it. -/
theorem slice?_append (h : start + n ≤ data.length) :
    slice? (data ++ more) start n = slice? data start n := by
  simp only [slice?, take_drop_append h]

/-- What comes after a number does not change it. -/
theorem number_append (h : start + n ≤ data.length) :
    number (data ++ more) start n = number data start n := by
  rw [number, number, slice?_append h]

/-- A number whose bytes are all there. -/
theorem number_of_le (h : start + n ≤ data.length) :
    number data start n = Bytes.ofLittle ((data.drop start).take n) := by
  have hslice : slice? data start n = some ((data.drop start).take n) :=
    slice?_eq_some_iff.2 ⟨rfl, length_take_drop h⟩
  rw [number, hslice]
  rfl

/-! ## The bearer token -/

/-- The length of the bearer token, as the datagram tells it. -/
def toldLength (data : Bytes) : Nat := Bytes.ofLittle ((data.drop 51).take 2)

/-- The datagram **presents** the bytes as its bearer token: the lowest bit of the flags is set, the
length is told, and all of the bytes are there. -/
def Presents (data token : Bytes) : Prop :=
  53 + token.length ≤ data.length ∧
    (Bytes.ofLittle ((data.drop 45).take 2)).testBit 0 = true ∧
    toldLength data = token.length ∧ (data.drop 53).take token.length = token

/-- The flag of a bearer token is the lowest bit.

**Proof sketch.** The flag is the number one, so the two have in common the remainder by two. -/
theorem and_hasBearer_ne_zero_iff {n : Nat} (h : n < UInt16.size) :
    UInt16.ofNat n &&& Query.hasBearer ≠ 0 ↔ n.testBit 0 = true := by
  have hbit : (UInt16.ofNat n &&& Query.hasBearer).toNat = n % 2 := by
    rw [UInt16.toNat_and, UInt16.toNat_ofNat_of_lt' h]
    exact Nat.and_one_is_mod n
  rw [ne_eq, ← UInt16.toNat_inj, hbit, Nat.testBit_zero, decide_eq_true_iff]
  show ¬n % 2 = 0 ↔ n % 2 = 1
  omega

/-- A bearer token is read when its length and all of its bytes are there.

**Proof sketch.** The two slices, of the length and of the bytes, are unfolded; both are all there
when the datagram is at least 53 bytes and the told length long. -/
theorem bearer?_eq_some_iff : bearer? data = some token ↔
    53 + token.length ≤ data.length ∧ toldLength data = token.length ∧
      (data.drop 53).take token.length = token := by
  have hlength (i m : Nat) : ((data.drop i).take m).length = min m (data.length - i) := by
    rw [List.length_take, List.length_drop]
  simp only [bearer?, Option.bind_eq_bind, Option.bind_eq_some_iff, Option.map_eq_some_iff,
    slice?_eq_some_iff]
  constructor
  · rintro ⟨n, ⟨told, ⟨rfl, htold⟩, rfl⟩, htoken, hn⟩
    have hbytes := hlength 53 (toldLength data)
    rw [hlength] at htold
    rw [← hn] at htoken
    refine ⟨?_, hn.symm, htoken⟩
    have hcount : token.length = min token.length (data.length - 53) := by
      conv_lhs => rw [← htoken, hlength]
    omega
  · rintro ⟨hall, htold, htoken⟩
    refine ⟨token.length, ⟨_, ⟨rfl, ?_⟩, htold⟩, htoken, rfl⟩
    rw [hlength]
    omega

/-- **The bearer token that is read** is the one that is presented.

**Proof sketch.** A bearer token is read when the flag is set in the two bytes at 45, and then from
the length at 51 on. The datagram is longer than that, so the flag is in it. -/
theorem bearer_queryOf_eq_some_iff {c : UInt8} :
    (queryOf data c).bearer = some token ↔ Presents data token := by
  have hflag (h : 53 + token.length ≤ data.length) :
      UInt16.ofNat (number data 45 2) &&& Query.hasBearer ≠ 0 ↔
        (Bytes.ofLittle ((data.drop 45).take 2)).testBit 0 = true := by
    have htwo : ((data.drop 45).take 2).length = 2 := length_take_drop (by omega)
    have hlt := Bytes.ofLittle_lt ((data.drop 45).take 2)
    rw [htwo] at hlt
    rw [number_of_le (by omega)]
    exact and_hasBearer_ne_zero_iff hlt
  simp only [queryOf, Option.ite_none_right_eq_some, bearer?_eq_some_iff, Presents]
  constructor
  · rintro ⟨hset, hall, htold, htoken⟩
    exact ⟨hall, (hflag hall).1 hset, htold, htoken⟩
  · rintro ⟨hall, hset, htold, htoken⟩
    exact ⟨(hflag hall).2 hset, hall, htold, htoken⟩

/-- A datagram presents one bearer token at most. -/
theorem Presents.unique {token' : Bytes} (h : Presents data token) (h' : Presents data token') :
    token' = token := by
  obtain ⟨-, -, htold, htoken⟩ := h
  obtain ⟨-, -, htold', htoken'⟩ := h'
  rw [← htoken, ← htoken', ← htold, ← htold']

/-- A bearer token that is cut short is not presented. -/
theorem not_presents_of_lt (h : data.length < 53 + toldLength data) : ¬Presents data token := by
  rintro ⟨hall, -, htold, -⟩
  omega

/-- **What comes after the bearer token** is not read.

**Proof sketch.** All fields stand before the end of the bearer token, and a slice does not depend
on what comes after it. -/
theorem queryOf_append {c : UInt8} (h : 53 + toldLength data ≤ data.length) :
    queryOf (data ++ more) c = queryOf data c := by
  have hchallenge : ((data ++ more).drop 9).take Challenge.tokenSize =
      (data.drop 9).take Challenge.tokenSize := take_drop_append (by
    simp only [Challenge.tokenSize]
    omega)
  have hid : number (data ++ more) 41 4 = number data 41 4 := number_append (by omega)
  have hflags : number (data ++ more) 45 2 = number data 45 2 := number_append (by omega)
  have hoffset : number (data ++ more) 47 4 = number data 47 4 := number_append (by omega)
  have hbearer : bearer? (data ++ more) = bearer? data := by
    have htold : slice? data 51 2 = some ((data.drop 51).take 2) :=
      slice?_eq_some_iff.2 ⟨rfl, length_take_drop (by omega)⟩
    have htold' : slice? (data ++ more) 51 2 = slice? data 51 2 := slice?_append (by omega)
    simp only [bearer?, htold', htold]
    exact slice?_append h
  simp only [queryOf, token?, hchallenge, hid, hflags, hoffset, hbearer]

/-! ## Queries put together -/

section WithToken

/-- A query of the given type with a challenge token, and **what comes after it**. -/
def withToken (c : UInt8) (challenge : Challenge.Token) (tail : Bytes) : Bytes :=
  Query.magic ++ ([c] ++ (challenge.val ++ tail))

variable {c : UInt8} (challenge : Challenge.Token) (tail : Bytes)

/-- How long a query with a challenge token is. -/
theorem length_withToken : (withToken c challenge tail).length = 41 + tail.length := by
  have htoken : challenge.val.length = 32 := challenge.property
  have hmagic : Query.magic.length = 8 := rfl
  simp only [withToken, List.length_append, htoken, hmagic, List.length_singleton]
  omega

/-- It is a query with a challenge token. -/
theorem hasToken_withToken (hne : c ≠ 0) : HasToken (withToken c challenge tail) := by
  refine ⟨rfl, ⟨c, rfl, hne⟩, ?_⟩
  rw [length_withToken]
  omega

/-- The challenge token is where it was written. -/
theorem tokenBytes_withToken : tokenBytes (withToken c challenge tail) = challenge.val := by
  show (challenge.val ++ tail).take 32 = challenge.val
  exact List.take_left' challenge.property

/-- What is read behind the challenge token. -/
theorem drop_withToken (n : Nat) : (withToken c challenge tail).drop (41 + n) = tail.drop n := by
  have hfront : withToken c challenge tail = (Query.magic ++ [c] ++ challenge.val) ++ tail := by
    simp only [withToken, List.append_assoc]
  have hlength : (Query.magic ++ [c] ++ challenge.val).length = 41 := by
    rw [List.length_append, challenge.property]
    rfl
  rw [hfront, ← List.drop_drop, List.drop_left' hlength]

/-- It is read as a query with this challenge token. -/
theorem parse_withToken (hne : c ≠ 0) : parse (withToken c challenge tail) =
    .ok (.query { queryOf (withToken c challenge tail) c with token := some challenge }) := by
  have htoken : token? (withToken c challenge tail) = some challenge := by
    have hlong : 41 ≤ (withToken c challenge tail).length := by
      rw [length_withToken]
      omega
    have hbytes := map_val_token? (withToken c challenge tail)
    rw [if_pos hlong, tokenBytes_withToken] at hbytes
    exact Option.map_injective Subtype.val_injective hbytes
  have hmagic : (withToken c challenge tail).take 8 = Query.magic := rfl
  rw [parse_of_type_ne_zero hmagic rfl hne, queryOf, htoken]

/-- **A bearer token that is written is presented.**

**Proof sketch.** The written fields are as long as the places at which they are read, and the
written length is the length of the token, which two bytes can tell. -/
theorem presents_withToken (id offset : UInt32) {flags : UInt16} {bearer : Bytes}
    (hflags : flags.toNat.testBit 0 = true) (hlength : bearer.length ≤ Wire.maxLength) :
    Presents (withToken c challenge
      (Wire.u32 id ++ Wire.u16 flags ++ Wire.u32 offset ++ Wire.counted bearer)) bearer := by
  have hcount : bearer.length < UInt16.size := Nat.lt_succ_of_le hlength
  have hcounted := Wire.counted_of_le hlength
  refine ⟨?_, ?_, ?_, ?_⟩
  · rw [length_withToken, List.length_append, Wire.length_counted hlength]
    simp only [List.length_append, Wire.u32, Wire.u16, Bytes.length_little]
    omega
  · rw [drop_withToken challenge _ 4]
    show (Bytes.ofLittle (Wire.u16 flags)).testBit 0 = true
    rw [Wire.u16, Bytes.ofLittle_little flags.toNat_lt]
    exact hflags
  · rw [toldLength, drop_withToken challenge _ 10]
    show Bytes.ofLittle ((Wire.counted bearer).take 2) = bearer.length
    rw [hcounted, Wire.length, List.take_left' (Bytes.length_little ..), Bytes.ofLittle_little hcount]
  · rw [drop_withToken challenge _ 12]
    show ((Wire.counted bearer).drop 2).take bearer.length = bearer
    rw [hcounted, Wire.length, List.drop_left' (Bytes.length_little ..), List.take_length]

end WithToken

end Request

namespace Responder

variable (r : Responder) (v : View)

/-! ## The flag of a refusal -/

/-- A flag that is set in neither of two is not set in both together. -/
theorem or_and_eq_zero {a b flag : UInt16} (ha : a &&& flag = 0) (hb : b &&& flag = 0) :
    (a ||| b) &&& flag = 0 := by
  have hboth : (a ||| b) &&& flag = (a &&& flag) ||| (b &&& flag) :=
    UInt16.toBitVec_inj.1 BitVec.and_or_distrib_right
  rw [hboth, ha, hb]
  rfl

/-- A server in itself does not set the flag of a refusal. -/
theorem flags_and_authRequiredFlag : v.flags &&& Reply.authRequiredFlag = 0 := by
  rw [View.flags]
  split <;> decide

/-- **The refusal is the only answer with its flag.**

**Proof sketch.** Every answer to a permitted query has the flags of the server, together with flags
of its own, and in none of these is the flag of a refusal. The refusal sets it. -/
theorem flagsOf_answer (q : Query) :
    Reply.flagsOf (r.answer v q) &&& Reply.authRequiredFlag ≠ 0 ↔
      r.access.allows q.endpoint q.bearer = false := by
  have hview := flags_and_authRequiredFlag v
  rw [answer]
  split
  next hallowed =>
    refine iff_of_false (not_not_intro ?_) (by rw [hallowed]; decide)
    cases q.endpoint with
    | players =>
      show Reply.flagsOf (Reply.players q.requestId v.flags v.players q.offset).packet &&& _ = 0
      rw [Reply.packet_players, Reply.flagsOf_frame, Reply.pageFlags]
      split
      · exact or_and_eq_zero hview (by decide)
      · exact hview
    | basic =>
      show Reply.flagsOf (Reply.basic q.requestId v.flags v.info) &&& _ = 0
      rw [Reply.basic_eq_frame, Reply.flagsOf_frame, Reply.summaryFlags]
      split
      · exact or_and_eq_zero hview (by decide)
      · exact hview
  next hdenied =>
    refine iff_of_true ?_ (Bool.eq_false_iff.2 hdenied)
    rw [Reply.authRequired, Reply.basic_eq_frame, Reply.flagsOf_frame, Reply.summaryFlags]
    split <;> decide

/-! ## Which queries are refused -/

/-- A query is refused when its endpoint is not open to everyone, nor to the token that it
presents. -/
theorem flagsOf_answer_queryOf (data : Bytes) (c : UInt8) :
    Reply.flagsOf (r.answer v (Request.queryOf data c)) &&& Reply.authRequiredFlag ≠ 0 ↔
      r.access.everyone.allows (if c = 2 then .players else .basic) = false ∧
        ∀ token, Request.Presents data token →
          ¬r.access.Grants (if c = 2 then .players else .basic) token := by
  have hendpoint : (Request.queryOf data c).endpoint = if c = 2 then .players else .basic :=
    Query.endpoint_eq _
  rw [flagsOf_answer, ← Bool.not_eq_true, AccessTable.allows_iff, hendpoint, not_or,
    Bool.not_eq_true]
  simp only [Request.bearer_queryOf_eq_some_iff, not_exists, not_and]

/-- **Bytes behind the bearer token change nothing** in the answer to a query.

**Proof sketch.** The datagram is read as a query with the same challenge token either way, and no
field of the query changes (`Request.queryOf_append`). -/
theorem reply_append (now : Int64) (ip : Ip) {data : Bytes} {c : UInt8}
    (hquery : Request.HasToken data) (hc : data[8]? = some c) (more : Bytes)
    (hwhole : 53 + Request.toldLength data ≤ data.length) :
    r.reply v now ip (data ++ more) = r.reply v now ip data := by
  obtain ⟨hmagic, ⟨c', hc', hne⟩, hlong⟩ := hquery
  obtain rfl : c' = c := Option.some.inj (hc'.symm.trans hc)
  have hmagic' : (data ++ more).take 8 = Query.magic := by
    rw [List.take_append_of_le_length (by omega), hmagic]
  have hc'' : (data ++ more)[8]? = some c' := by
    rw [List.getElem?_append_left (by omega), hc]
  have htoken : Request.tokenBytes (data ++ more) = Request.tokenBytes data :=
    Request.take_drop_append (by omega)
  have hlong' : 41 ≤ (data ++ more).length := by
    rw [List.length_append]
    omega
  rw [r.reply_of_type_ne_zero v now ip hmagic' hc'' hne,
    r.reply_of_type_ne_zero v now ip hmagic hc hne, htoken, Request.queryOf_append hwhole]
  simp only [hlong, hlong', true_and]

/-- **Authorization is exact.** A query with a valid challenge token is answered. The answer is a
refusal exactly when the endpoint is not open to everyone and the datagram presents no token of the
table, other than the empty one, that opens the endpoint.

So a bearer token that is cut short, the empty one, one that is no text and one that is not in the
table, be it longer or shorter than one that is, all count for nothing; and bytes behind a bearer
token change nothing in the answer.

**Proof sketch.** The bytes that are read are those that are presented, and the search of the table
finds the token with these bytes. -/
theorem authRequired_iff (now : Int64) (ip : Ip) {data : Bytes} {c : UInt8}
    (hquery : Request.HasToken data) (hc : data[8]? = some c)
    (haccepts : r.codec.accepts (Request.tokenBytes data) ip (now.toInt / 1000)) :
    let endpoint : Endpoint := if c = 2 then .players else .basic
    let gated : Prop := r.access.everyone.allows endpoint = false
    ∃ packet, r.reply v now ip data = some packet ∧
      let refused : Prop := Reply.flagsOf packet &&& Reply.authRequiredFlag ≠ 0
      (refused ↔ gated ∧ ¬∃ k p, r.access.tokens.get? k = some p ∧ k ≠ "" ∧
        p.allows endpoint = true ∧ Request.Presents data (Text.utf8 k)) ∧
      (data.length < 53 + Request.toldLength data → (refused ↔ gated)) ∧
      (∀ token, Request.Presents data token →
        token = [] ∨ Text.ofUtf8? token = none ∨
          (∀ k, r.access.tokens.contains k → Text.utf8 k ≠ token) → (refused ↔ gated)) ∧
      ∀ more, 53 + Request.toldLength data ≤ data.length →
        r.reply v now ip (data ++ more) = some packet := by
  intro endpoint gated
  have hrefused := r.flagsOf_answer_queryOf v data c
  have hreply : r.reply v now ip data = some (r.answer v (Request.queryOf data c)) := by
    obtain ⟨hmagic, ⟨c', hc', hne⟩, hlong⟩ := hquery
    obtain rfl : c' = c := Option.some.inj (hc'.symm.trans hc)
    rw [r.reply_of_type_ne_zero v now ip hmagic hc hne, if_pos ⟨hlong, haccepts⟩]
  refine ⟨r.answer v (Request.queryOf data c), hreply, ?_, ?_, ?_, fun more hwhole => ?_⟩
  · rw [hrefused]
    refine and_congr_right fun _ => ?_
    constructor
    · rintro hnone ⟨k, p, hget, hnonempty, hopens, hpresents⟩
      exact hnone _ hpresents ⟨k, p, hget, hnonempty, hopens, rfl⟩
    · rintro hnone token hpresents ⟨k, p, hget, hnonempty, hopens, rfl⟩
      exact hnone ⟨k, p, hget, hnonempty, hopens, hpresents⟩
  · intro hcut
    rw [hrefused]
    refine and_iff_left fun token hpresents => ?_
    exact absurd hpresents (Request.not_presents_of_lt hcut)
  · intro token hpresents hworthless
    rw [hrefused]
    -- the token that permits would be the one that is presented
    refine and_iff_left fun token' hpresents' hgrants => ?_
    rw [hpresents.unique hpresents'] at hgrants
    rcases hworthless with rfl | hinvalid | hunknown
    · exact r.access.not_grants_nil hgrants
    · exact r.access.not_grants_of_ofUtf8?_eq_none hinvalid hgrants
    · obtain ⟨k, p, hget, -, -, hbytes⟩ := hgrants
      refine hunknown k ?_ hbytes
      rw [Index.contains, hget]
      rfl
  · rw [r.reply_append v now ip hquery hc more hwhole, hreply]

/-- A token with an accent opens the list of players, and the empty one nothing, although the table
permits everything to it. -/
theorem authRequired_iff_accented :
    let r : Responder := {
      codec := ⟨[7], 4, by decide, by decide, by decide⟩
      access := {
        everyone := .nothing
        tokens := (Index.empty.insert "" .all).insert "clé" ⟨false, true⟩ } }
    let ip : Ip := .v4 0x7f000001
    let ask (bearer : Bytes) : Bytes := Request.withToken 2 (r.codec.issue ip 0)
      (Wire.u32 7 ++ Wire.u16 1 ++ Wire.u32 0 ++ Wire.counted bearer)
    (∀ bearer, Request.HasToken (ask bearer) ∧ (ask bearer)[8]? = some 2 ∧
      r.codec.accepts (Request.tokenBytes (ask bearer)) ip 0) ∧
    (∃ packet, r.reply default 0 ip (ask (Text.utf8 "clé")) = some packet ∧
      Reply.flagsOf packet &&& Reply.authRequiredFlag = 0) ∧
    ∃ packet, r.reply default 0 ip (ask []) = some packet ∧
      Reply.flagsOf packet &&& Reply.authRequiredFlag ≠ 0 := by
  intro r ip ask
  have hvalid (bearer : Bytes) : Request.HasToken (ask bearer) ∧ (ask bearer)[8]? = some 2 ∧
      r.codec.accepts (Request.tokenBytes (ask bearer)) ip 0 := by
    refine ⟨Request.hasToken_withToken _ _ (by decide), rfl, ?_⟩
    rw [Request.tokenBytes_withToken]
    exact r.codec.accepts_issue_self ip 0
  refine ⟨hvalid, ?_, ?_⟩
  · obtain ⟨hquery, hc, haccepts⟩ := hvalid (Text.utf8 "clé")
    obtain ⟨packet, hreply, hexact, -⟩ := r.authRequired_iff default 0 ip hquery hc haccepts
    refine ⟨packet, hreply, not_not.1 (mt hexact.1 ?_)⟩
    rintro ⟨-, hnone⟩
    refine hnone ⟨"clé", ⟨false, true⟩, ?_, by decide, rfl, ?_⟩
    · rw [Index.get?_insert, if_pos rfl]
    · exact Request.presents_withToken _ 7 0 (by decide) (by decide)
  · obtain ⟨hquery, hc, haccepts⟩ := hvalid []
    obtain ⟨packet, hreply, -, -, hworthless, -⟩ := r.authRequired_iff default 0 ip hquery hc haccepts
    have hpresents : Request.Presents (ask []) [] :=
      Request.presents_withToken _ 7 0 (by decide) (by decide)
    exact ⟨packet, hreply, (hworthless [] hpresents (.inl rfl)).2 rfl⟩

end Responder

end FleetStatus
