import FleetStatus.Listener
import FleetStatus.Proofs.Query.Cut
import FleetStatus.Proofs.Query.Size

set_option relaxedAutoImplicit false
set_option autoImplicit false

/-!
# What the listener adds and loses

The listener hands every datagram to the responder and sends its replies back, in order, and counts
both. It differs from the responder in two ways. Of a datagram that is longer than the receive
buffer the rest is lost, which matters if a bearer token ends there; and a reply that is too long
for a datagram is not sent.

## Main results

* `FleetStatus.Listener.fst_serve`, `FleetStatus.Listener.received_serve`,
  `FleetStatus.Listener.answered_serve` — what is sent and what is counted.
* `FleetStatus.Listener.sent_eq_iff` — which datagrams the listener answers as the responder does.
* `FleetStatus.Listener.forall_serve_eq_iff` — which responders it serves faithfully, whatever is
  received.
* `FleetStatus.Listener.serve_eq_iff` — which sequences of datagrams it serves faithfully, and its
  counts.
* `FleetStatus.Listener.serve_refuses_permitted` — it does not serve all of them so.
-/

namespace FleetStatus

/-! ## Lists of answers -/

section FilterMap

variable {α β : Type} {f g : α → Option β} (h : ∀ x, (f x).isSome → (g x).isSome) (l : List α)

include h

/-- Where only what the second function answers is answered by the first, the first gives no more
answers. -/
theorem length_filterMap_le_of_isSome : (l.filterMap f).length ≤ (l.filterMap g).length := by
  induction l with
  | nil => exact Nat.le_refl _
  | cons x l ih =>
    cases hf : f x with
    | none =>
      rw [List.filterMap_cons_none hf]
      exact ih.trans ((List.sublist_cons_self x l).filterMap g).length_le
    | some y =>
      obtain ⟨z, hg⟩ := Option.isSome_iff_exists.1 (h x (hf ▸ rfl))
      rw [List.filterMap_cons_some hf, List.filterMap_cons_some hg]
      exact Nat.succ_le_succ ih

/-- **Two lists of answers are the same only if each answer is**, where only what the second answers
is answered by the first: the first one that is missing would leave a list that is too short.

**Proof sketch.** By induction on the list. If both functions answer its first item, the answers are
compared and the rest follows. If only the second one does, its list is longer by
`length_filterMap_le_of_isSome`. -/
theorem filterMap_eq_filterMap_iff : l.filterMap f = l.filterMap g ↔ ∀ x ∈ l, f x = g x := by
  induction l with
  | nil => simp
  | cons x l ih =>
    rw [List.forall_mem_cons, ← ih]
    cases hf : f x with
    | none =>
      rw [List.filterMap_cons_none hf]
      cases hg : g x with
      | none => rw [List.filterMap_cons_none hg, and_iff_right rfl]
      | some y =>
        rw [List.filterMap_cons_some hg]
        refine iff_of_false (fun hsame => ?_) (fun hboth => nomatch hboth.1)
        have hle := length_filterMap_le_of_isSome h l
        rw [hsame, List.length_cons] at hle
        exact Nat.not_succ_le_self _ hle
    | some y =>
      obtain ⟨z, hg⟩ := Option.isSome_iff_exists.1 (h x (hf ▸ rfl))
      rw [List.filterMap_cons_some hf, List.filterMap_cons_some hg, hg, List.cons.injEq,
        Option.some.injEq]

end FilterMap

namespace Listener

/-! ## What is sent and counted -/

section Serve

variable (l : Listener) (respond : SocketAddress → Bytes → Option Bytes) (source : SocketAddress)
  (datagram : Bytes) (datagrams : List (SocketAddress × Bytes))

/-- What is sent for one datagram. -/
theorem fst_receive : (l.receive respond source datagram).1 = sent respond source datagram := by
  rw [receive]
  split
  next heq => exact heq.symm
  next heq => exact heq.symm

/-- A datagram that is received is counted. -/
theorem received_receive : (l.receive respond source datagram).2.received = l.received + 1 := by
  rw [receive]
  split <;> rfl

/-- A reply is counted if one is sent. -/
theorem answered_receive : (l.receive respond source datagram).2.answered =
    l.answered + UInt64.ofNat (sent respond source datagram).toList.length := by
  rw [receive]
  split
  next heq => rw [heq]; rfl
  next heq => rw [heq]; exact (UInt64.add_zero _).symm

/-- **The replies are sent in the order of the datagrams**, each to where its datagram came from.

**Proof sketch.** By induction on the datagrams. What is sent for one of them does not depend on the
counters. -/
theorem fst_serve : (l.serve respond datagrams).1 =
    datagrams.filterMap fun d => (sent respond d.1 d.2).map (d.1, ·) := by
  induction datagrams generalizing l with
  | nil => rfl
  | cons d datagrams ih =>
    simp only [serve, ih, fst_receive, List.filterMap_cons]
    cases sent respond d.1 d.2 <;> rfl

/-- **Every datagram is counted.** -/
theorem received_serve : (l.serve respond datagrams).2.received =
    l.received + UInt64.ofNat datagrams.length := by
  induction datagrams generalizing l with
  | nil => exact (UInt64.add_zero _).symm
  | cons d datagrams ih =>
    simp only [serve, ih, received_receive, List.length_cons, UInt64.ofNat_add]
    rw [UInt64.add_assoc, UInt64.add_comm 1]
    rfl

/-- **Every reply that is sent is counted.** -/
theorem answered_serve : (l.serve respond datagrams).2.answered =
    l.answered + UInt64.ofNat (l.serve respond datagrams).1.length := by
  induction datagrams generalizing l with
  | nil => exact (UInt64.add_zero _).symm
  | cons d datagrams ih =>
    simp only [serve, ih, answered_receive, fst_receive, List.length_append, List.length_map,
      UInt64.ofNat_add, UInt64.add_assoc]

end Serve

/-! ## The listener and the responder -/

section Responder

variable (r : Responder) (v : View) (now : Int64) (datagrams : List (SocketAddress × Bytes))

/-- The listener answers nothing that the responder does not answer. -/
theorem isSome_sent (source : SocketAddress) (data : Bytes)
    (h : (sent (fun source => r.reply v now source.ip) source data).isSome) :
    (r.reply v now source.ip data).isSome := by
  obtain ⟨packet, hsent⟩ := Option.isSome_iff_exists.1 h
  have hcut : r.reply v now source.ip (data.take bufferSize) = some packet :=
    (Option.filter_eq_some_iff.1 hsent).1
  rw [← (r.reply_take_eq_iff v now source.ip data (show 53 ≤ bufferSize by decide)).2, hcut]
  rfl

/-- **Which datagrams the listener answers as the responder does**: those of which the receive
buffer loses nothing that permits them, and whose replies can be sent.

**Proof sketch.** The listener sends what the responder answers to the bytes that fit the buffer,
unless it is too long to be sent. Both answers are the same exactly if the cut loses nothing that
permits the datagram. -/
theorem sent_eq_iff (source : SocketAddress) (data : Bytes) :
    sent (fun source => r.reply v now source.ip) source data = r.reply v now source.ip data ↔
      ¬r.Overlooks now source.ip bufferSize data ∧
        ∀ packet, r.reply v now source.ip data = some packet → packet.length ≤ maxDatagram := by
  obtain ⟨hcut, hboth⟩ :=
    r.reply_take_eq_iff v now source.ip data (show 53 ≤ bufferSize by decide)
  rw [← hcut, sent]
  cases hwhole : r.reply v now source.ip data with
  | none =>
    have hnone : r.reply v now source.ip (data.take bufferSize) = none := by
      rw [← Option.not_isSome_iff_eq_none, hboth, hwhole]
      exact Bool.false_ne_true
    simp [hnone]
  | some packet =>
    simp only [Option.filter_eq_some_iff, decide_eq_true_iff, Option.some.injEq, forall_eq']

/-- **Which sequences of datagrams** the listener answers as the responder does.

**Proof sketch.** The listener sends nothing that the responder does not answer, so the two lists
are the same exactly if it answers each datagram alike (`filterMap_eq_filterMap_iff`); and when that
is so is told by `sent_eq_iff`. -/
theorem fst_serve_eq_iff :
    (({} : Listener).serve (fun source => r.reply v now source.ip) datagrams).1 =
      (datagrams.filterMap fun d => (r.reply v now d.1.ip d.2).map (d.1, ·)) ↔
    ∀ d ∈ datagrams, ¬r.Overlooks now d.1.ip bufferSize d.2 ∧
      ∀ packet, r.reply v now d.1.ip d.2 = some packet → packet.length ≤ maxDatagram := by
  have hanswered (d : SocketAddress × Bytes)
      (h : ((sent (fun source => r.reply v now source.ip) d.1 d.2).map (d.1, ·)).isSome) :
      ((r.reply v now d.1.ip d.2).map (d.1, ·)).isSome := by
    rw [Option.isSome_map] at h ⊢
    exact isSome_sent r v now d.1 d.2 h
  rw [fst_serve, filterMap_eq_filterMap_iff hanswered]
  refine forall₂_congr fun d _ => ?_
  rw [← sent_eq_iff r v now d.1 d.2]
  exact (Option.map_injective (Prod.mk_right_injective d.1)).eq_iff

/-- **Which responders the listener serves faithfully**, whatever is received: those whose bearer
tokens fit the receive buffer, as far as they open anything and can be counted, and whose summaries
can be sent.

**Proof sketch.** The bounds on the summaries say that every reply can be sent. A token that opens
something and does not fit would make a query that is overlooked, so from left to right one datagram
is enough; from right to left no token that permits a datagram ends behind the buffer. -/
theorem forall_serve_eq_iff :
    (∀ (now : Int64) (datagrams : List (SocketAddress × Bytes)),
      (({} : Listener).serve (fun source => r.reply v now source.ip) datagrams).1 =
        datagrams.filterMap fun d => (r.reply v now d.1.ip d.2).map (d.1, ·)) ↔
    (∀ endpoint token, r.access.everyone.allows endpoint = false → r.access.Grants endpoint token →
      token.length ≤ Wire.maxLength → 53 + token.length ≤ bufferSize) ∧
    41 + v.report.info.textBytes + v.report.info.addressBytes ≤ maxDatagram ∧
      (r.legacyEnabled = true → 42 + v.report.info.textBytes ≤ maxDatagram) := by
  rw [← r.forall_length_reply_le_iff v (by decide) (by decide)]
  constructor
  · intro hserved
    have hone (now : Int64) (ip : Ip) (data : Bytes) :=
      (fst_serve_eq_iff r v now [({ ip, port := 0 }, data)]).1 (hserved _ _) _ List.mem_cons_self
    refine ⟨fun endpoint token hclosed hgrants hlength => ?_,
      fun now ip data => (hone now ip data).2⟩
    rw [← Nat.not_lt]
    intro hover
    cases endpoint with
    | basic =>
      exact (hone 0 (.v4 0) _).1
        (r.overlooks_withToken 0 (.v4 0) (c := 1) (by decide) hclosed hgrants hlength hover 0 0)
    | players =>
      exact (hone 0 (.v4 0) _).1
        (r.overlooks_withToken 0 (.v4 0) (c := 2) (by decide) hclosed hgrants hlength hover 0 0)
  · rintro ⟨htokens, hroom⟩ now datagrams
    refine (fst_serve_eq_iff r v now datagrams).2 fun d _ => ⟨?_, hroom now d.1.ip d.2⟩
    rintro ⟨-, -, hclosed, token, hpresents, hgrants, hover⟩
    have hlength : token.length ≤ Wire.maxLength := hpresents.2.2.1 ▸ Request.toldLength_le
    have hfits := htokens _ token hclosed hgrants hlength
    omega

/-- **When the listener adds nothing and loses nothing.** For each sequence of datagrams the replies
are those of the responder, in order, each to where its datagram came from, exactly when each of the
datagrams keeps what permits it in the receive buffer and gets a reply that can be sent. Whatever is
received, the counts are those of the datagrams and of the replies, and what is dropped is the
difference.

**Proof sketch.** A datagram that is cut is answered exactly when the whole one is, so a reply that
is not the responder's cannot be made up for by another one. -/
theorem serve_eq_iff :
    let respond (source : SocketAddress) := r.reply v now source.ip
    let handled := datagrams.filterMap fun d => (respond d.1 d.2).map (d.1, ·)
    let replies := (({} : Listener).serve respond datagrams).1
    let counts := (({} : Listener).serve respond datagrams).2
    (replies = handled ↔ ∀ d ∈ datagrams, ¬r.Overlooks now d.1.ip bufferSize d.2 ∧
      ∀ packet, respond d.1 d.2 = some packet → packet.length ≤ maxDatagram) ∧
    counts.received = UInt64.ofNat datagrams.length ∧
    counts.answered = UInt64.ofNat replies.length ∧
    (datagrams.length < UInt64.size →
      counts.dropped = counts.received - counts.answered ∧
        counts.dropped.toNat + replies.length = datagrams.length) := by
  intro respond handled replies counts
  have hreceived : counts.received = UInt64.ofNat datagrams.length :=
    (received_serve {} respond datagrams).trans (UInt64.zero_add _)
  have hanswered : counts.answered = UInt64.ofNat replies.length :=
    (answered_serve {} respond datagrams).trans (UInt64.zero_add _)
  refine ⟨fst_serve_eq_iff r v now datagrams, hreceived, hanswered, fun hfew => ?_⟩
  have hle : replies.length ≤ datagrams.length := by
    show (({} : Listener).serve respond datagrams).1.length ≤ _
    rw [fst_serve]
    exact List.length_filterMap_le _ _
  have hreceived' : counts.received.toNat = datagrams.length := by
    rw [hreceived, UInt64.toNat_ofNat_of_lt' hfew]
  have hanswered' : counts.answered.toNat = replies.length := by
    rw [hanswered, UInt64.toNat_ofNat_of_lt' (hle.trans_lt hfew)]
  have hfits : counts.answered ≤ counts.received := by
    rw [UInt64.le_iff_toNat_le, hreceived', hanswered']
    exact hle
  have hdropped : counts.dropped = counts.received - counts.answered := if_pos hfits
  refine ⟨hdropped, ?_⟩
  rw [hdropped, UInt64.toNat_sub_of_le _ _ hfits, hreceived', hanswered']
  omega

/-- A bearer token of 1996 bytes opens the summary. It ends one byte behind the receive buffer, so
the client is refused. -/
theorem serve_refuses_permitted :
    ¬∀ (r : Responder) (v : View) (now : Int64) (datagrams : List (SocketAddress × Bytes)),
      (∀ d ∈ datagrams, d.2.length ≤ maxDatagram) →
      (({} : Listener).serve (fun source => r.reply v now source.ip) datagrams).1 =
        datagrams.filterMap fun d => (r.reply v now d.1.ip d.2).map (d.1, ·) := by
  intro hfaithful
  let name : String := String.ofList (List.replicate 1996 'a')
  let r : Responder := {
    codec := ⟨[7], 4, by decide, by decide, by decide⟩
    access := {
      everyone := .nothing
      tokens := Index.empty.insert name ⟨true, false⟩ } }
  let source : SocketAddress := { ip := .v4 0x7f000001, port := 40000 }
  let data : Bytes := Request.withToken 1 (r.codec.issue source.ip ((0 : Int64).toInt / 1000))
    (Wire.u32 7 ++ Wire.u16 Query.hasBearer ++ Wire.u32 0 ++ Wire.counted (Text.utf8 name))
  have hname : (Text.utf8 name).length = 1996 := by
    rw [Text.length_utf8]
    exact Text.utf8ByteSize_replicate 1996 'a'
  have hcount : (Text.utf8 name).length ≤ Wire.maxLength := by rw [hname]; decide
  have hgrants : r.access.Grants .basic (Text.utf8 name) := by
    refine ⟨name, ⟨true, false⟩, ?_, fun hempty => ?_, rfl, rfl⟩
    · rw [Index.get?_insert, if_pos rfl]
    · rw [hempty] at hname
      cases hname
  have hover : r.Overlooks 0 source.ip bufferSize data :=
    r.overlooks_withToken 0 source.ip (show (1 : UInt8) ≠ 0 by decide) rfl hgrants hcount
      (by rw [hname]; decide) 7 0
  have hlength : data.length ≤ maxDatagram := by
    rw [Request.length_withToken, List.length_append, Wire.length_counted hcount, hname]
    decide
  have hsame := hfaithful r default 0 [(source, data)] (by simpa using hlength)
  exact ((fst_serve_eq_iff r default 0 _).1 hsame _ List.mem_cons_self).1 hover

end Responder

end Listener

end FleetStatus
