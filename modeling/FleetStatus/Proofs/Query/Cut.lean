import FleetStatus.Proofs.Query.Authorization

set_option relaxedAutoImplicit false
set_option autoImplicit false

/-!
# Datagrams that are cut

A buffer keeps the bytes of a datagram that fit. A datagram that is cut is still read, and all of
its fields but one come so early that they are kept. The bearer token comes last and can be long: if
it does not fit it counts as not presented, and a client that is permitted is refused.

## Main definitions

* `FleetStatus.Responder.Overlooks` — a client is permitted by a token that does not fit.

## Main results

* `FleetStatus.Request.queryOf_take_of_le`, `FleetStatus.Request.queryOf_take_of_lt` — what is read
  from a datagram that is cut.
* `FleetStatus.Responder.reply_take_eq_iff` — when cutting a datagram makes no difference to the
  answer.
-/

namespace FleetStatus

namespace Request

variable {data : Bytes} {start k n : Nat}

/-! ## What is read -/

/-- The magic bytes and the type are kept. -/
theorem header_take (data : Bytes) (hn : 9 ≤ n) :
    (data.take n).take 8 = data.take 8 ∧ (data.take n)[8]? = data[8]? :=
  ⟨by rw [List.take_take, Nat.min_eq_left (by omega)], List.getElem?_take_of_lt (by omega)⟩

/-- What ends before the cut stands where it stood. -/
theorem take_drop_take (h : start + k ≤ n) :
    ((data.take n).drop start).take k = (data.drop start).take k := by
  rw [List.drop_take, List.take_take, Nat.min_eq_left (by omega)]

/-- A number that ends before the cut is kept. -/
theorem number_take (h : start + k ≤ n) : number (data.take n) start k = number data start k := by
  simp only [number, slice?, take_drop_take h]

/-- The challenge token is kept. -/
theorem tokenBytes_take (hn : 53 ≤ n) : tokenBytes (data.take n) = tokenBytes data :=
  take_drop_take (by omega)

/-- Two bytes tell no more than they can count. -/
theorem toldLength_le : toldLength data ≤ Wire.maxLength := by
  have hlt := Bytes.ofLittle_lt ((data.drop 51).take 2)
  have htwo : ∀ k ≤ 2, Bytes.capacity k ≤ Wire.maxLength + 1 := by decide
  exact Nat.le_of_lt_succ (hlt.trans_le (htwo _ (List.length_take_le ..)))

/-- The told length of the bearer token is kept. -/
theorem toldLength_take (hn : 53 ≤ n) : toldLength (data.take n) = toldLength data := by
  rw [toldLength, take_drop_take (by omega), toldLength]

/-- A bearer token that fits is kept. -/
theorem queryOf_take_of_le (c : UInt8) (hfits : 53 + toldLength data ≤ n) :
    queryOf (data.take n) c = queryOf data c := by
  rcases Nat.le_total data.length n with hall | hcut
  · rw [List.take_of_length_le hall]
  · have hwhole : 53 + toldLength (data.take n) ≤ (data.take n).length := by
      rw [toldLength_take (by omega), List.length_take_of_le hcut]
      exact hfits
    calc queryOf (data.take n) c
        = queryOf (data.take n ++ data.drop n) c := (queryOf_append hwhole).symm
      _ = queryOf data c := by rw [List.take_append_drop]

/-- **A bearer token that does not fit** counts as not presented.

**Proof sketch.** The cut leaves fewer bytes than the told length asks for, so no bearer token is
read; every other field ends before the byte 53. -/
theorem queryOf_take_of_lt (c : UInt8) (hn : 53 ≤ n) (hover : n < 53 + toldLength data) :
    queryOf (data.take n) c = { queryOf data c with bearer := none } := by
  have hbearer : (queryOf (data.take n) c).bearer = none := by
    rw [Option.eq_none_iff_forall_ne_some]
    intro token htoken
    refine not_presents_of_lt ?_ (bearer_queryOf_eq_some_iff.1 htoken)
    rw [toldLength_take hn, List.length_take]
    omega
  have htoken : token? (data.take n) = token? data := by
    have hbytes : ((data.take n).drop 9).take Challenge.tokenSize =
        (data.drop 9).take Challenge.tokenSize := take_drop_take (by
      simp only [Challenge.tokenSize]
      omega)
    simp only [token?, hbytes]
  have hid : number (data.take n) 41 4 = number data 41 4 := number_take (by omega)
  have hflags : number (data.take n) 45 2 = number data 45 2 := number_take (by omega)
  have hoffset : number (data.take n) 47 4 = number data 47 4 := number_take (by omega)
  calc queryOf (data.take n) c
      = { queryOf (data.take n) c with bearer := none } := by rw [← hbearer]
    _ = { queryOf data c with bearer := none } := by
      simp only [queryOf, htoken, hid, hflags, hoffset]

end Request

namespace Responder

variable (r : Responder) (v : View) {now : Int64} {ip : Ip} {data : Bytes} {n : Nat}

/-! ## What is answered -/

/-- A buffer of `n` bytes makes the responder **overlook** what permits a query: the query is valid,
its endpoint is not open to everyone, and the token that opens it ends behind the buffer. -/
def Overlooks (now : Int64) (ip : Ip) (n : Nat) (data : Bytes) : Prop :=
  Request.HasToken data ∧ r.codec.accepts (Request.tokenBytes data) ip (now.toInt / 1000) = true ∧
    let endpoint := if data[8]? = some 2 then .players else .basic
    r.access.everyone.allows endpoint = false ∧
      ∃ token, Request.Presents data token ∧ r.access.Grants endpoint token ∧ n < 53 + token.length

/-- Any bearer token that opens an endpoint, can be counted and does not fit is overlooked in a
query that presents it.

**Proof sketch.** The token that was just issued is accepted, and the bearer token that is written
is presented. -/
theorem overlooks_withToken (now : Int64) (ip : Ip) {c : UInt8} (hne : c ≠ 0) {token : Bytes}
    (hclosed : r.access.everyone.allows (if c = 2 then .players else .basic) = false)
    (hgrants : r.access.Grants (if c = 2 then .players else .basic) token)
    (hlength : token.length ≤ Wire.maxLength) (hover : n < 53 + token.length) (id offset : UInt32) :
    r.Overlooks now ip n (Request.withToken c (r.codec.issue ip (now.toInt / 1000))
      (Wire.u32 id ++ Wire.u16 Query.hasBearer ++ Wire.u32 offset ++ Wire.counted token)) := by
  refine ⟨Request.hasToken_withToken _ _ hne, ?_, ?_⟩
  · rw [Request.tokenBytes_withToken]
    exact r.codec.accepts_issue_self ip _
  · have hpresents := Request.presents_withToken (r.codec.issue ip (now.toInt / 1000)) id offset
      (show Query.hasBearer.toNat.testBit 0 = true by decide) hlength (c := c)
    have htype (challenge : Challenge.Token) (tail : Bytes) :
        (Request.withToken c challenge tail)[8]? = some c := rfl
    simp only [htype, Option.some.injEq]
    exact ⟨hclosed, token, hpresents, hgrants, hover⟩

/-- The bearer token has a say in whether the query is permitted, and in nothing else. -/
theorem answer_of_allows_eq (q : Query) (bearer : Option Bytes)
    (h : r.access.allows q.endpoint bearer = r.access.allows q.endpoint q.bearer) :
    r.answer v { q with bearer } = r.answer v q := by
  have hendpoint : ({ q with bearer } : Query).endpoint = q.endpoint := rfl
  simp only [answer, hendpoint, h]

/-- Two queries, of which one is refused, have different answers. -/
theorem answer_ne_of_allows_ne {q q' : Query}
    (h : r.access.allows q.endpoint q.bearer ≠ r.access.allows q'.endpoint q'.bearer) :
    r.answer v q ≠ r.answer v q' := by
  intro hsame
  have hflag := r.flagsOf_answer v q
  rw [hsame, r.flagsOf_answer v q', Bool.eq_false_iff, Bool.eq_false_iff, not_iff_not] at hflag
  exact h (Bool.eq_iff_iff.2 hflag.symm)

/-- **A query that is cut** is answered alike, unless what permits it is overlooked.

**Proof sketch.** If the told length fits, the query is the same. If not, the query is read without
its bearer token. Then the two are permitted alike, and answered alike, unless the token is what
permits the whole one; and when only one of them is refused, the flags of the answers differ. -/
theorem answer_take_eq_iff {c : UInt8} (hn : 53 ≤ n) :
    r.answer v (Request.queryOf (data.take n) c) = r.answer v (Request.queryOf data c) ↔
      ¬(r.access.everyone.allows (if c = 2 then .players else .basic) = false ∧
        ∃ token, Request.Presents data token ∧
          r.access.Grants (if c = 2 then .players else .basic) token ∧ n < 53 + token.length) := by
  have hendpoint (data : Bytes) :
      (Request.queryOf data c).endpoint = if c = 2 then .players else .basic := Query.endpoint_eq _
  rcases Nat.lt_or_ge n (53 + Request.toldLength data) with hover | hfits
  · rw [Request.queryOf_take_of_lt c hn hover]
    have hnone : r.access.allows (Request.queryOf data c).endpoint none =
        r.access.everyone.allows (if c = 2 then .players else .basic) := by
      rw [hendpoint, Bool.eq_iff_iff, AccessTable.allows_iff]
      simp
    constructor
    · rintro hsame ⟨hclosed, token, hpresents, hgrants, -⟩
      -- the whole query is permitted, the one that is cut is not
      refine r.answer_ne_of_allows_ne v ?_ hsame
      have hallowed : r.access.allows (Request.queryOf data c).endpoint
          (Request.queryOf data c).bearer = true := by
        rw [AccessTable.allows_iff, hendpoint]
        exact .inr ⟨token, Request.bearer_queryOf_eq_some_iff.2 hpresents, hgrants⟩
      show r.access.allows (Request.queryOf data c).endpoint none ≠ _
      rw [hnone, hallowed, hclosed]
      exact Bool.false_ne_true
    · intro hseen
      -- no token that is cut off would have changed the permission
      refine r.answer_of_allows_eq v _ none ?_
      rw [hnone, Bool.eq_iff_iff, AccessTable.allows_iff, hendpoint]
      refine (or_iff_left_of_imp ?_).symm
      rintro ⟨token, htoken, hgrants⟩
      have hpresents := Request.bearer_queryOf_eq_some_iff.1 htoken
      rw [← Bool.not_eq_false]
      intro hclosed
      refine hseen ⟨hclosed, token, hpresents, hgrants, ?_⟩
      rwa [← hpresents.2.2.1]
  · rw [Request.queryOf_take_of_le c hfits]
    refine iff_of_true rfl ?_
    rintro ⟨-, token, ⟨-, -, htold, -⟩, -, hover⟩
    omega

/-- What is no request with a token is answered alike when it is cut. -/
theorem reply_take_of_not_isRequest (hn : 9 ≤ n) (hmagic : data.take 8 ≠ Query.magic) :
    r.reply v now ip (data.take n) = r.reply v now ip data := by
  obtain ⟨hfront, htype⟩ := Request.header_take data hn
  have hno (data : Bytes) (h : data.take 8 ≠ Query.magic) : ¬Request.isRequest data = true :=
    fun hrequest => h (Request.isRequest_iff.1 hrequest)
  have hlegacy : LegacyQuery.parse? (data.take n) = LegacyQuery.parse? data := by
    simp only [LegacyQuery.parse?, hfront, htype]
  rw [reply, if_neg (hno _ (hfront ▸ hmagic)), hlegacy, reply, if_neg (hno _ hmagic)]

/-- **When cutting a datagram makes no difference to the answer**: unless what permits a query is
overlooked. A datagram that is cut is answered exactly when the whole one is.

**Proof sketch.** By what the datagram is, which the cut does not change: magic bytes, type and
challenge token stand before it. Only the answer to a query whose token is accepted depends on more,
and there the cut one is answered alike unless what permits it is overlooked (`answer_take_eq_iff`).
-/
theorem reply_take_eq_iff (now : Int64) (ip : Ip) (data : Bytes) (hn : 53 ≤ n) :
    (r.reply v now ip (data.take n) = r.reply v now ip data ↔ ¬r.Overlooks now ip n data) ∧
      (r.reply v now ip (data.take n)).isSome = (r.reply v now ip data).isSome := by
  obtain ⟨hfront, htype⟩ := Request.header_take data (show 9 ≤ n by omega)
  by_cases hmagic : data.take 8 = Query.magic
  swap
  · -- a legacy request or nothing that is answered
    rw [r.reply_take_of_not_isRequest v (by omega) hmagic]
    exact ⟨iff_of_true rfl fun hover => hmagic hover.1.1, rfl⟩
  cases hc : data[8]? with
  | none =>
    -- the datagram ends before its type
    have hnone (data : Bytes) (hmagic : data.take 8 = Query.magic) (hc : data[8]? = none) :
        r.reply v now ip data = none := by
      rw [reply, if_pos (Request.isRequest_iff.2 hmagic), Request.parse_of_no_type hmagic hc]
    rw [hnone _ hmagic hc, hnone _ (hfront ▸ hmagic) (htype ▸ hc)]
    refine ⟨iff_of_true rfl ?_, rfl⟩
    rintro ⟨⟨-, ⟨c, hc', -⟩, -⟩, -⟩
    rw [hc] at hc'
    cases hc'
  | some c =>
    by_cases hzero : c = 0
    · subst hzero
      rw [r.reply_of_asksForToken v now ip ⟨hmagic, hc⟩,
        r.reply_of_asksForToken v now ip ⟨hfront ▸ hmagic, htype ▸ hc⟩]
      refine ⟨iff_of_true rfl ?_, rfl⟩
      rintro ⟨⟨-, ⟨c, hc', hne⟩, -⟩, -⟩
      exact hne (Option.some.inj (hc'.symm.trans hc))
    · have hlong : 41 ≤ (data.take n).length ↔ 41 ≤ data.length := by
        rw [List.length_take]
        omega
      rw [r.reply_of_type_ne_zero v now ip hmagic hc hzero,
        r.reply_of_type_ne_zero v now ip (hfront ▸ hmagic) (htype ▸ hc) hzero,
        Request.tokenBytes_take hn]
      simp only [hlong]
      have hhas : Request.HasToken data ↔ 41 ≤ data.length :=
        ⟨fun h => h.2.2, fun h => ⟨hmagic, ⟨c, hc, hzero⟩, h⟩⟩
      by_cases hvalid : 41 ≤ data.length ∧
          r.codec.accepts (Request.tokenBytes data) ip (now.toInt / 1000) = true
      · -- both are queries with an accepted token
        rw [if_pos hvalid, if_pos hvalid, Option.some.injEq, r.answer_take_eq_iff v hn]
        refine ⟨not_congr ?_, rfl⟩
        simp only [Overlooks, hhas, hvalid.1, hvalid.2, hc, Option.some.injEq, true_and]
      · rw [if_neg hvalid, if_neg hvalid]
        exact ⟨iff_of_true rfl fun hover => hvalid ⟨hhas.1 hover.1, hover.2.1⟩, rfl⟩

end Responder

end FleetStatus
