import FleetStatus.Proofs.Query.Cut

set_option relaxedAutoImplicit false
set_option autoImplicit false

/-!
# The bytes of a query

A query is written field after field, and read by the places of the fields. The two agree wherever
the bytes are cut: a field is read as it was written if all of its bytes are there, and counts as
absent otherwise. The other way round, the query that is read from a datagram is written as the
beginning of the datagram.

## Main definitions

* `FleetStatus.Query.sentToken` — the challenge token that is written.
* `FleetStatus.Query.cut` — what is left of a query whose bytes are cut.

## Main results

* `FleetStatus.Request.queryOf_take_encode` — what is read from the first bytes of a query.
* `FleetStatus.Request.encode_queryOf` — which bytes of a datagram the query in it is written as.
* `FleetStatus.Request.parse_eq_query_iff` — when a datagram is read as a query.
* `FleetStatus.Request.parse_encode` — a whole query is read as it was written.
* `FleetStatus.Request.cut_round_trip` — writing and reading, and reading and writing.
-/

namespace FleetStatus

/-! ## What is left of a query -/

namespace Query

/-- The challenge token that is written: an absent one is written as zeros. -/
def sentToken (q : Query) : Challenge.Token :=
  q.token.getD ⟨List.replicate Challenge.tokenSize 0, List.length_replicate⟩

/-- **What is left of a query** when its bytes are cut after the first `n`, of which there are nine
at least: the fields that end within them. A bearer token is written as far as its length can be
told, and left only if the flags tell of it. -/
def cut (q : Query) (n : Nat) : Query where
  typeCode := q.typeCode
  token := if 41 ≤ n then some q.sentToken else none
  requestId := if 45 ≤ n then q.requestId else 0
  flags := if 47 ≤ n then q.flags else 0
  offset := if 51 ≤ n then q.offset else 0
  bearer := q.bearer.bind fun bearer =>
    let kept := bearer.take Wire.maxLength
    if q.flags &&& hasBearer ≠ 0 ∧ 53 + kept.length ≤ n then some kept else none

/-- What is written behind the challenge token. -/
def tail (q : Query) : Bytes :=
  Wire.u32 q.requestId ++ (Wire.u16 q.flags ++ (Wire.u32 q.offset ++ q.bearer.elim [] Wire.counted))

/-- A query is written as its type, a challenge token and the other fields behind it. -/
theorem encode_eq (q : Query) : q.encode = Request.withToken q.typeCode q.sentToken q.tail := by
  have htoken : q.token.elim (List.replicate Challenge.tokenSize 0) (·.val) = q.sentToken.val := by
    unfold sentToken
    cases q.token <;> rfl
  rw [encode, htoken]
  simp only [Request.withToken, tail, Wire.u8, List.append_assoc]

/-- How long a written query is. -/
theorem length_encode (q : Query) :
    q.encode.length = 51 + (q.bearer.elim [] Wire.counted).length := by
  rw [encode_eq, Request.length_withToken]
  simp only [tail, List.length_append, Wire.u32, Wire.u16, Bytes.length_little]
  omega

/-- What is written behind the challenge token stands there. -/
theorem drop_encode (q : Query) (n : Nat) : q.encode.drop (41 + n) = q.tail.drop n := by
  rw [encode_eq, Request.drop_withToken]

end Query

namespace Request

variable {data : Bytes} {start k n : Nat}

/-! ## Fields that are cut -/

/-- A number is read if all of its bytes are kept, and is zero otherwise.

**Proof sketch.** A slice that is cut short is none, and where no slice is the number is zero. -/
theorem number_take_eq (hk : 0 < k) (hend : start + k ≤ data.length) :
    number (data.take n) start k =
      if start + k ≤ n then Bytes.ofLittle ((data.drop start).take k) else 0 := by
  split
  next hfits => rw [number_take hfits, number_of_le hend]
  next hcut =>
    have hnone : slice? (data.take n) start k = none := by
      rw [slice?, if_neg]
      rw [List.length_take, List.length_drop, List.length_take]
      omega
    rw [number, hnone]
    rfl

section Encode

variable (q : Query) (n : Nat)

/-- The challenge token is read if all of its bytes are kept. -/
theorem token?_take_encode :
    token? (q.encode.take n) = if 41 ≤ n then some q.sentToken else none := by
  have hlength := q.length_encode
  have hlong : 41 ≤ (q.encode.take n).length ↔ 41 ≤ n := by
    rw [List.length_take]
    omega
  have hbytes := map_val_token? (q.encode.take n)
  simp only [hlong] at hbytes
  split at hbytes
  next hfits =>
    have hsent : tokenBytes (q.encode.take n) = q.sentToken.val := by
      rw [tokenBytes, take_drop_take (by omega), Query.encode_eq]
      exact tokenBytes_withToken _ _
    rw [hsent] at hbytes
    rw [if_pos hfits]
    exact Option.map_injective Subtype.val_injective hbytes
  next hcut =>
    rw [if_neg hcut]
    exact Option.map_eq_none_iff.1 hbytes

/-- A number is read as it was written if all of its bytes are kept. -/
theorem number_take_encode {value : Nat} (hk : 0 < k) (hend : start + k ≤ 51)
    (hfield : (q.encode.drop start).take k = Bytes.little k value)
    (hvalue : value < Bytes.capacity k) :
    number (q.encode.take n) start k = if start + k ≤ n then value else 0 := by
  have hlength := q.length_encode
  rw [number_take_eq hk (by omega), hfield, Bytes.ofLittle_little hvalue]

end Encode

/-! ## The bearer token that is written -/

section Bearer

variable {q : Query} {bearer : Bytes} (hbearer : q.bearer = some bearer)

include hbearer

/-- How long a written query with a bearer token is. -/
theorem length_encode_bearer : q.encode.length = 53 + (bearer.take Wire.maxLength).length := by
  rw [q.length_encode, hbearer, Option.elim_some, Wire.counted, List.length_append, Wire.length,
    Bytes.length_little, ← Nat.add_assoc]

/-- The length of the bearer token is told as it was written. -/
theorem toldLength_encode : toldLength q.encode = (bearer.take Wire.maxLength).length := by
  have htwo : (q.encode.drop 51).take 2 = (Wire.counted bearer).take 2 := by
    rw [q.drop_encode 10, Query.tail, hbearer]
    rfl
  have hcount : (bearer.take Wire.maxLength).length < Bytes.capacity 2 :=
    Nat.lt_succ_of_le (List.length_take_le ..)
  rw [toldLength, htwo, Wire.counted, Wire.length, List.take_left' (Bytes.length_little ..),
    Bytes.ofLittle_little hcount]

/-- The bearer token is the last that is written. -/
theorem drop_encode_bearer : q.encode.drop 53 = bearer.take Wire.maxLength := by
  have hrest : q.encode.drop 53 = (Wire.counted bearer).drop 2 := by
    rw [q.drop_encode 12, Query.tail, hbearer]
    rfl
  rw [hrest, Wire.counted, Wire.length, List.drop_left' (Bytes.length_little ..)]

end Bearer

/-- The bearer token is read, as far as it was written, if all of its bytes are kept.

**Proof sketch.** Without a bearer token the bytes end before its length. With one the told length
is that of the token as it was written, so it is read when all of these bytes are kept. -/
theorem bearer?_take_encode (q : Query) (n : Nat) : bearer? (q.encode.take n) =
    q.bearer.bind fun bearer =>
      let kept := bearer.take Wire.maxLength
      if 53 + kept.length ≤ n then some kept else none := by
  cases hbearer : q.bearer with
  | none =>
    have hshort : (q.encode.take n).length ≤ 51 := by
      rw [List.length_take, q.length_encode, hbearer]
      exact Nat.min_le_right _ _
    refine Option.eq_none_iff_forall_ne_some.2 fun token htoken => ?_
    have hall := (bearer?_eq_some_iff.1 htoken).1
    omega
  | some bearer =>
    have hlength := length_encode_bearer hbearer
    have htold := toldLength_encode hbearer
    simp only [Option.bind_some]
    split
    next hfits =>
      rw [List.take_of_length_le (by omega), bearer?_eq_some_iff, drop_encode_bearer hbearer,
        List.take_length]
      exact ⟨hlength.ge, htold, rfl⟩
    next hcut =>
      -- the length is still told, and tells of more bytes than there are
      refine Option.eq_none_iff_forall_ne_some.2 fun token htoken => ?_
      obtain ⟨hall, htold', -⟩ := bearer?_eq_some_iff.1 htoken
      rw [List.length_take] at hall
      rw [toldLength_take (by omega), htold] at htold'
      omega

/-- **What is read from the first bytes of a query** is what is left of it.

**Proof sketch.** One field after the other: each is read as it was written if it ends before the
cut, and by its default otherwise. -/
theorem queryOf_take_encode (q : Query) (n : Nat) :
    queryOf (q.encode.take n) q.typeCode = q.cut n := by
  have hid : UInt32.ofNat (number (q.encode.take n) 41 4) = if 45 ≤ n then q.requestId else 0 := by
    rw [number_take_encode q n (by decide) (by decide) (q.drop_encode 0 ▸ rfl) q.requestId.toNat_lt,
      apply_ite UInt32.ofNat, UInt32.ofNat_toNat]
    rfl
  have hflags : UInt16.ofNat (number (q.encode.take n) 45 2) = if 47 ≤ n then q.flags else 0 := by
    rw [number_take_encode q n (by decide) (by decide) (q.drop_encode 4 ▸ rfl) q.flags.toNat_lt,
      apply_ite UInt16.ofNat, UInt16.ofNat_toNat]
    rfl
  have hoffset : UInt32.ofNat (number (q.encode.take n) 47 4) = if 51 ≤ n then q.offset else 0 := by
    rw [number_take_encode q n (by decide) (by decide) (q.drop_encode 6 ▸ rfl) q.offset.toNat_lt,
      apply_ite UInt32.ofNat, UInt32.ofNat_toNat]
    rfl
  rw [queryOf, token?_take_encode, hid, hflags, hoffset, bearer?_take_encode, Query.cut]
  congr 1
  -- where the flags are cut, so is the bearer token behind them
  cases q.bearer with
  | none => exact ite_self _
  | some bearer =>
    simp only [Option.bind_some]
    by_cases hkept : 47 ≤ n
    · by_cases hset : q.flags &&& Query.hasBearer ≠ 0 <;> simp [hkept, hset]
    · have hcut : n < 53 + min Wire.maxLength bearer.length := by omega
      simp [hkept, hcut]

/-! ## The bytes of what is read -/

/-- The bytes of a number are its bytes in the datagram. -/
theorem little_number (h : start + k ≤ data.length) :
    Bytes.little k (number data start k) = (data.drop start).take k := by
  have hbytes := Bytes.little_ofLittle ((data.drop start).take k)
  rwa [length_take_drop h, ← number_of_le h] at hbytes

/-- A number is less than its bytes can count. -/
theorem number_lt (h : start + k ≤ data.length) : number data start k < Bytes.capacity k := by
  have hlt := Bytes.ofLittle_lt ((data.drop start).take k)
  rwa [length_take_drop h, ← number_of_le h] at hlt

section EncodeQueryOf

variable {c : UInt8} (hlong : 51 ≤ data.length)

include hlong

/-- The challenge token that is read is written as it stands in the datagram. -/
theorem sentToken_queryOf : (queryOf data c).sentToken.val = (data.drop 9).take 32 := by
  have hbytes := map_val_token? data
  rw [if_pos (by omega), Option.map_eq_some_iff] at hbytes
  obtain ⟨token, htoken, hval⟩ := hbytes
  rw [Query.sentToken, queryOf, htoken]
  exact hval

/-- The bearer token that is read is written as it stands in the datagram, behind its length.

**Proof sketch.** A token is read only where its told length and all of its bytes are there, and
these are what is written. -/
theorem counted_bearer_queryOf :
    ∃ m, (queryOf data c).bearer.elim [] Wire.counted = (data.drop 51).take m := by
  cases hbearer : (queryOf data c).bearer with
  | none => exact ⟨0, rfl⟩
  | some bearer =>
    obtain ⟨hall, -, htold, hbytes⟩ := bearer_queryOf_eq_some_iff.1 hbearer
    have hlength : Wire.length bearer.length = (data.drop 51).take 2 := by
      rw [Wire.length, ← htold, toldLength, ← number_of_le (by omega)]
      exact little_number (by omega)
    refine ⟨2 + bearer.length, ?_⟩
    rw [Option.elim_some, Wire.counted_of_le (htold ▸ toldLength_le), hlength, List.take_add,
      List.drop_drop, hbytes]

/-- **The query that is read from a datagram is written as the beginning of the datagram.**

**Proof sketch.** All fields before the bearer token are written as they stand, from the first byte
to the byte 51; the bearer token and its length come next, or nothing does. -/
theorem encode_queryOf (hmagic : data.take 8 = Query.magic) (hc : data[8]? = some c) :
    ∃ m, (queryOf data c).encode = data.take m := by
  have htype : [c] = (data.drop 8).take 1 := by
    rw [List.take_one, List.head?_drop, hc, Option.toList_some]
  have hid : Wire.u32 (queryOf data c).requestId = (data.drop 41).take 4 := by
    rw [← little_number (by omega)]
    exact congrArg (Bytes.little 4) (UInt32.toNat_ofNat_of_lt' (number_lt (by omega)))
  have hflags : Wire.u16 (queryOf data c).flags = (data.drop 45).take 2 := by
    rw [← little_number (by omega)]
    exact congrArg (Bytes.little 2) (UInt16.toNat_ofNat_of_lt' (number_lt (by omega)))
  have hoffset : Wire.u32 (queryOf data c).offset = (data.drop 47).take 4 := by
    rw [← little_number (by omega)]
    exact congrArg (Bytes.little 4) (UInt32.toNat_ofNat_of_lt' (number_lt (by omega)))
  obtain ⟨m, hbearer⟩ := counted_bearer_queryOf (c := c) hlong
  refine ⟨8 + (1 + (32 + (4 + (2 + (4 + m))))), ?_⟩
  rw [Query.encode_eq, withToken, Query.tail, sentToken_queryOf hlong, hid, hflags, hoffset,
    hbearer, ← hmagic]
  show data.take 8 ++ ([c] ++ _) = _
  rw [htype]
  simp only [List.take_add, List.drop_drop]

end EncodeQueryOf

/-! ## Writing and reading -/

/-- What does not begin with the magic bytes is no query. -/
theorem parse_of_not_magic (hmagic : data.take 8 ≠ Query.magic) :
    parse data = .error .badMagic := by
  have hno : isRequest data = false := Bool.eq_false_iff.2 fun h => hmagic (isRequest_iff.1 h)
  rw [parse, hno, Bool.not_false, if_pos rfl]

/-- **When a datagram is read as a query**, and as which one.

**Proof sketch.** By the first bytes: without the magic ones the datagram is refused, without a type
it is cut short, and with the type zero it asks for a token. -/
theorem parse_eq_query_iff {q : Query} : parse data = .ok (.query q) ↔
    data.take 8 = Query.magic ∧ ∃ c, data[8]? = some c ∧ c ≠ 0 ∧ queryOf data c = q := by
  by_cases hmagic : data.take 8 = Query.magic
  swap
  · rw [parse_of_not_magic hmagic]
    exact iff_of_false nofun fun h => hmagic h.1
  cases hc : data[8]? with
  | none =>
    rw [parse_of_no_type hmagic hc]
    exact iff_of_false nofun nofun
  | some c =>
    by_cases hzero : c = 0
    · subst hzero
      rw [parse_of_asksForToken ⟨hmagic, hc⟩]
      refine iff_of_false nofun ?_
      rintro ⟨-, c, heq, hne, -⟩
      exact hne (Option.some.inj heq).symm
    · rw [parse_of_type_ne_zero hmagic hc hzero]
      constructor
      · intro heq
        cases heq
        exact ⟨hmagic, c, rfl, hzero, rfl⟩
      · rintro ⟨-, c', heq, -, rfl⟩
        rw [Option.some.inj heq]

/-- **The first bytes of a query** are malformed as long as they end before the type, and give what
is left of the query otherwise.

**Proof sketch.** The cut leaves the magic bytes or not, and the type or not. With both it is a
query whose type asks for no token, so it is read field by field (`queryOf_take_encode`). -/
theorem parse_take_encode {q : Query} (hne : q.typeCode ≠ 0) (n : Nat) :
    parse (q.encode.take n) =
      if n < 8 then .error .badMagic
      else if n = 8 then .error (.truncated 9 8)
      else .ok (.query (q.cut n)) := by
  have hmagic : q.encode.take 8 = Query.magic := by
    rw [Query.encode_eq]
    rfl
  have htype : q.encode[8]? = some q.typeCode := by
    rw [Query.encode_eq]
    rfl
  rcases Nat.lt_trichotomy n 8 with hshort | rfl | hlong
  · rw [if_pos hshort, parse_of_not_magic]
    intro hmagic'
    have hlength := congrArg List.length hmagic'
    rw [List.length_take, List.length_take, show Query.magic.length = 8 from rfl] at hlength
    omega
  · rw [if_neg (Nat.lt_irrefl 8), if_pos rfl, parse_of_no_type]
    · rw [List.take_take, Nat.min_self, hmagic]
    · exact List.getElem?_eq_none (List.length_take_le ..)
  · obtain ⟨hfront, htype'⟩ := header_take q.encode hlong
    rw [if_neg (by omega), if_neg (by omega), ← queryOf_take_encode]
    exact parse_of_type_ne_zero (hfront.trans hmagic) (htype'.trans htype) hne

/-- **A whole query is read as it was written** if it has a challenge token, and its bearer token,
if there is one, can be counted and is told of by the flags.

**Proof sketch.** This is the cut at the end of the bytes: all fields are kept, the flags tell of a
bearer token, and the token is not cut. -/
theorem parse_encode {q : Query} (hne : q.typeCode ≠ 0) (htoken : q.token.isSome)
    (hbearer : ∀ bearer, q.bearer = some bearer →
      q.flags &&& Query.hasBearer ≠ 0 ∧ bearer.length ≤ Wire.maxLength) :
    parse q.encode = .ok (.query q) := by
  have hlength := q.length_encode
  obtain ⟨token, htoken⟩ := Option.isSome_iff_exists.1 htoken
  have hsent : some q.sentToken = q.token := by rw [Query.sentToken, htoken, Option.getD_some]
  have hleft : q.bearer.bind (fun bearer =>
      let kept := bearer.take Wire.maxLength
      if q.flags &&& Query.hasBearer ≠ 0 ∧ 53 + kept.length ≤ q.encode.length then some kept
      else none) = q.bearer := by
    cases hsome : q.bearer with
    | none => rfl
    | some bearer =>
      obtain ⟨hset, hcount⟩ := hbearer bearer hsome
      have hwhole := length_encode_bearer hsome
      rw [List.take_of_length_le hcount] at hwhole
      simp only [Option.bind_some, List.take_of_length_le hcount]
      rw [if_pos ⟨hset, hwhole.ge⟩]
  have hall := parse_take_encode hne q.encode.length
  rw [List.take_length, if_neg (by omega), if_neg (by omega), Query.cut, if_pos (by omega),
    if_pos (by omega), if_pos (by omega), if_pos (by omega), hsent, hleft] at hall
  exact hall

/-- **Writing a query and reading what is left of it**, for every cut of its bytes, and reading a
query and writing it again, for every datagram that has all of the fixed fields: what is written is
the beginning of the datagram. -/
theorem cut_round_trip :
    (∀ q : Query, q.typeCode ≠ 0 → ∀ n, parse (q.encode.take n) =
      if n < 8 then .error .badMagic
      else if n = 8 then .error (.truncated 9 8)
      else .ok (.query (q.cut n))) ∧
    ∀ (data : Bytes) (q : Query), 51 ≤ data.length → parse data = .ok (.query q) →
      q.encode <+: data := by
  refine ⟨fun q hne n => parse_take_encode hne n, fun data q hlong hparse => ?_⟩
  obtain ⟨hmagic, c, hc, -, rfl⟩ := parse_eq_query_iff.1 hparse
  obtain ⟨m, hfront⟩ := encode_queryOf hlong hmagic hc
  exact hfront ▸ List.take_prefix m data

/-- A query without a challenge token and with a bearer token of three bytes: cut behind its flags,
before the last byte of the bearer token, and not at all. What was sent with two bytes more is
written without them. -/
theorem cut_round_trip_bearer :
    let q : Query :=
      { typeCode := 2, requestId := 7, flags := 5, offset := 9, bearer := some [1, 2, 3] }
    let blank : Challenge.Token := ⟨List.replicate 32 0, rfl⟩
    (2 : UInt8) ≠ 0 ∧ q.encode.length = 56 ∧
      parse (q.encode.take 47) = .ok (.query
        { typeCode := 2, token := some blank, requestId := 7, flags := 5 }) ∧
      parse (q.encode.take 55) = .ok (.query { q with token := some blank, bearer := none }) ∧
      parse (q.encode.take 56) = .ok (.query { q with token := some blank }) ∧
      { q with token := some blank }.encode <+: q.encode ++ [4, 5] := by
  intro q blank
  have hread := cut_round_trip.1 q (by decide)
  have hparse : parse (q.encode ++ [4, 5]) = .ok (.query { q with token := some blank }) := by
    decide +kernel
  exact ⟨by decide, by decide +kernel, (hread 47).trans (by decide +kernel),
    (hread 55).trans (by decide +kernel), (hread 56).trans (by decide +kernel),
    cut_round_trip.2 _ _ (by decide +kernel) hparse⟩

end Request

end FleetStatus
