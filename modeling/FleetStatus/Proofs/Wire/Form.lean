import FleetStatus.Proofs.Wire.Reading

set_option relaxedAutoImplicit false
set_option autoImplicit false

/-!
# What is read was written

A form says which bytes stand for which value. A reader follows a form when it reads such bytes as
their value, and reads nothing else: whatever it yields, it stepped over bytes of the form. Readers
that follow one another follow one form after the other, so what a reader of many fields accepts is
told by the forms of its fields.

## Main definitions

* `FleetStatus.Wire.Form` — which bytes stand for which value.
* `FleetStatus.Wire.Form.counted`, `FleetStatus.Wire.Form.text` — bytes and texts behind a length.
* `FleetStatus.Wire.Form.Many` — values of one form one after the other.
* `FleetStatus.Wire.Reader.Follows` — a reader reads the bytes of a form, and nothing else.
* `FleetStatus.Wire.Reader.Accepts` — the same of a reader that may look at everything that is left.

## Main results

* `FleetStatus.Wire.Reader.Follows.bind`, `FleetStatus.Wire.Reader.Follows.bind_accepts` — one
  reader after the other.
* `FleetStatus.Wire.Reader.follows_u16`, `FleetStatus.Wire.Reader.follows_counted`, … — each field
  follows its form.
-/

namespace FleetStatus.Wire

variable {α β : Type}

/-! ## Forms -/

/-- Which bytes stand for which value. -/
abbrev Form (α : Type) : Type := Bytes → α → Prop

namespace Form

/-- Each value has the bytes that are written for it, and no others. -/
def written (bytes : α → Bytes) : Form α := fun bs a => bs = bytes a

/-- No bytes, for a value that is known to be right. -/
def empty (right : α → Prop) : Form α := fun bs a => bs = [] ∧ right a

/-- One form, and behind it the form that its value asks for. -/
def andThen (form : Form α) (next : α → Form β) : Form β := fun bs b =>
  ∃ a front back, form front a ∧ next a back b ∧ bs = front ++ back

/-- Bytes **behind their length**: two bytes that tell exactly how many they are. -/
def counted : Form Bytes := fun bs body => ∃ n : UInt16, n.toNat = body.length ∧ bs = u16 n ++ body

/-- A text in UTF-8 behind the length of its bytes. -/
def text : Form String := fun bs s => counted bs (Text.utf8 s)

/-- Values of one form **one after the other**. -/
inductive Many (form : Form α) : Form (List α) where
  | nil : Many form [] []
  | cons {bs bs' : Bytes} {a : α} {as : List α} (head : form bs a) (tail : Many form bs' as) :
    Many form (bs ++ bs') (a :: as)

/-- Counted bytes are two more than they count. -/
theorem length_counted_eq {bs body : Bytes} (h : counted bs body) : bs.length = 2 + body.length := by
  obtain ⟨n, -, rfl⟩ := h
  rw [List.length_append, u16, Bytes.length_little]

/-- No more bytes are counted than two bytes can count. -/
theorem length_le_of_counted {bs body : Bytes} (h : counted bs body) : body.length ≤ maxLength := by
  obtain ⟨n, hlength, -⟩ := h
  rw [← hlength]
  exact Nat.le_of_lt_succ n.toNat_lt

/-- What two bytes can count has the form of counted bytes. -/
theorem counted_counted {body : Bytes} (h : body.length ≤ maxLength) :
    counted (Wire.counted body) body := by
  have hlt : body.length < UInt16.size := Nat.lt_succ_of_le h
  refine ⟨UInt16.ofNat body.length, UInt16.toNat_ofNat_of_lt' hlt, ?_⟩
  rw [counted_of_le h, u16, UInt16.toNat_ofNat_of_lt' hlt, length]

/-- A text that is written has the form of what is kept of it. -/
theorem text_text (s : String) : text (Wire.text s) (Text.truncate s maxLength) := by
  rw [text_eq_counted]
  exact counted_counted (Text.utf8ByteSize_truncate_le s maxLength)

/-- No values have no bytes, if no value has none.

**Proof sketch.** A first value would have bytes. -/
theorem many_nil_iff {form : Form α} (h : ∀ a, ¬form [] a) {as : List α} :
    Many form [] as ↔ as = [] := by
  constructor
  · intro hmany
    cases as with
    | nil => rfl
    | cons a as =>
      generalize hbytes : ([] : Bytes) = bs at hmany
      cases hmany with
      | cons head _ =>
        rw [(List.append_eq_nil_iff.1 hbytes.symm).1] at head
        exact absurd head (h a)
  · rintro rfl
    exact .nil

/-- Each value has its bytes among those of all.

**Proof sketch.** By induction on the values. -/
theorem Many.exists_of_mem {form : Form α} {bs : Bytes} {as : List α} (h : Many form bs as) {a : α}
    (hmem : a ∈ as) : ∃ part, form part a ∧ part.length ≤ bs.length := by
  induction h with
  | nil => cases hmem
  | cons head _ ih =>
    rw [List.length_append]
    rcases List.mem_cons.1 hmem with rfl | hmem
    · exact ⟨_, head, Nat.le_add_right _ _⟩
    · obtain ⟨part, hpart, hle⟩ := ih hmem
      exact ⟨part, hpart, Nat.le_trans hle (Nat.le_add_left _ _)⟩

/-- Values of at least `k` bytes each.

**Proof sketch.** By induction on the values. -/
theorem Many.mul_length_le {form : Form α} {k : Nat} (hk : ∀ bs a, form bs a → k ≤ bs.length)
    {bs : Bytes} {as : List α} (h : Many form bs as) : k * as.length ≤ bs.length := by
  induction h with
  | nil => exact Nat.le_refl 0
  | cons head _ ih =>
    rw [List.length_cons, List.length_append, Nat.mul_succ, Nat.add_comm]
    exact Nat.add_le_add (hk _ _ head) ih

end Form

namespace Reader

open Form

/-! ## Readers that follow a form -/

/-- The reader **follows the form**. -/
structure Follows (r : Reader α) (form : Form α) : Prop where
  /-- Bytes of the form are read as their value, whatever follows. -/
  reads {bs : Bytes} {a : α} (h : form bs a) : r.Reads bs a
  /-- A value is read from bytes of the form. -/
  form_of_eq_ok {c c' : Cursor} {a : α} (h : r c = (.ok a, c')) :
    ∃ bs, form bs a ∧ c.rest = bs ++ c'.rest

/-- The reader **accepts** what is left as a value, by a condition on what is left and nothing
else. -/
def Accepts (r : Reader α) (form : Form α) : Prop := ∀ c a, (r c).1 = .ok a ↔ form c.rest a

section Follows

variable {r : Reader α} {f : α → Reader β} {form : Form α} {next : α → Form β}

/-- A form may be put in other words. -/
theorem Follows.congr {form' : Form α} (h : r.Follows form) (hiff : ∀ bs a, form bs a ↔ form' bs a) :
    r.Follows form' where
  reads hform := h.reads ((hiff _ _).2 hform)
  form_of_eq_ok hok := by
    obtain ⟨bs, hform, hrest⟩ := h.form_of_eq_ok hok
    exact ⟨bs, (hiff _ _).1 hform, hrest⟩

/-- The same for a form to the end. -/
theorem Accepts.congr {form' : Form α} (h : r.Accepts form) (hiff : ∀ bs a, form bs a ↔ form' bs a) :
    r.Accepts form' := fun c a => (h c a).trans (hiff _ _)

/-- The outcome on the whole of some bytes. -/
theorem Accepts.run (h : r.Accepts form) {bs : Bytes} {a : α} : r.run bs = .ok a ↔ form bs a :=
  h (.start bs) a

/-- What is read need not be all that is left. -/
theorem Follows.accepts (h : r.Follows form) :
    r.Accepts fun bs a => ∃ front rest, form front a ∧ bs = front ++ rest := by
  intro c a
  constructor
  · intro hok
    obtain ⟨front, hform, hrest⟩ := h.form_of_eq_ok (Prod.ext (x := r c) hok rfl)
    exact ⟨front, _, hform, hrest⟩
  · rintro ⟨front, rest, hform, hrest⟩
    rw [h.reads hform c rest hrest]

/-- To read nothing follows the form without bytes. -/
theorem follows_pure (a : α) : (pure a : Reader α).Follows (empty (· = a)) where
  reads := by
    rintro bs _ ⟨rfl, rfl⟩
    exact reads_pure _
  form_of_eq_ok := by
    rintro c _ _ ⟨⟩
    exact ⟨[], ⟨rfl, rfl⟩, rfl⟩

/-- To fail follows the form that nothing has. -/
theorem follows_fail (e : ReadError) : (fail e : Reader α).Follows (empty fun _ => False) where
  reads h := h.2.elim
  form_of_eq_ok h := by cases h

/-- What a value is read by in two steps is read by the first and then by the second. -/
theorem exists_of_bind_eq_ok {c c' : Cursor} {b : β} (h : (r >>= f) c = (.ok b, c')) :
    ∃ a c₁, r c = (.ok a, c₁) ∧ f a c₁ = (.ok b, c') := by
  rw [bind_apply] at h
  split at h
  next a c₁ hfirst => exact ⟨a, c₁, hfirst, h⟩
  next => cases h

/-- The same without the place where the second step stops. -/
theorem exists_of_fst_bind_eq_ok {c : Cursor} {b : β} (h : ((r >>= f) c).1 = .ok b) :
    ∃ a c₁, r c = (.ok a, c₁) ∧ (f a c₁).1 = .ok b := by
  obtain ⟨a, c₁, hfirst, hsecond⟩ := exists_of_bind_eq_ok (Prod.ext (x := (r >>= f) c) h rfl)
  exact ⟨a, c₁, hfirst, congrArg Prod.fst hsecond⟩

/-- **One reader after the other** follows one form after the other.

**Proof sketch.** What has the two forms in turn is read by the two readers in turn. What both read
begins with what the first one reads, which has the first form, and goes on with what the second one
reads. -/
theorem Follows.bind (hr : r.Follows form) (hf : ∀ a, (f a).Follows (next a)) :
    (r >>= f).Follows (form.andThen next) where
  reads := by
    rintro _ b ⟨a, front, back, hfront, hback, rfl⟩
    exact (hr.reads hfront).bind ((hf a).reads hback)
  form_of_eq_ok := by
    intro c c' b h
    obtain ⟨a, c₁, hfirst, hsecond⟩ := exists_of_bind_eq_ok h
    obtain ⟨front, hfront, hrest⟩ := hr.form_of_eq_ok hfirst
    obtain ⟨back, hback, hrest₁⟩ := (hf a).form_of_eq_ok hsecond
    refine ⟨front ++ back, ⟨a, front, back, hfront, hback, rfl⟩, ?_⟩
    rw [hrest, hrest₁, List.append_assoc]

/-- The last step only works on what was read. -/
theorem Follows.map (hr : r.Follows form) (g : α → β) :
    (r >>= fun a => pure (g a)).Follows fun bs b => ∃ a, form bs a ∧ b = g a := by
  refine (hr.bind fun a => follows_pure (g a)).congr fun bs b => ?_
  constructor
  · rintro ⟨a, front, back, hfront, ⟨rfl, rfl⟩, rfl⟩
    rw [List.append_nil]
    exact ⟨a, hfront, rfl⟩
  · rintro ⟨a, hform, rfl⟩
    exact ⟨a, bs, [], hform, ⟨rfl, rfl⟩, (List.append_nil bs).symm⟩

/-- **One reader after the other**, the second to the end.

**Proof sketch.** As for two readers that follow their forms, where the second form reaches to the
end. -/
theorem Follows.bind_accepts (hr : r.Follows form) (hf : ∀ a, (f a).Accepts (next a)) :
    (r >>= f).Accepts (form.andThen next) := by
  intro c b
  constructor
  · intro h
    obtain ⟨a, c₁, hfirst, hsecond⟩ := exists_of_fst_bind_eq_ok h
    obtain ⟨front, hfront, hrest⟩ := hr.form_of_eq_ok hfirst
    exact ⟨a, front, c₁.rest, hfront, (hf a c₁ b).1 hsecond, hrest⟩
  · rintro ⟨a, front, back, hfront, hback, hrest⟩
    rw [bind_apply, hr.reads hfront c back hrest]
    refine (hf a _ b).2 ?_
    rwa [c.rest_skip hrest]

end Follows

/-! ## Fields -/

/-- So many bytes follow the form of so many bytes.

**Proof sketch.** Bytes are taken if there are enough of them, and what is taken is what comes
first. -/
theorem follows_take (n : Nat) : (take n).Follows fun bs a => bs = a ∧ a.length = n where
  reads := by
    rintro bs _ ⟨rfl, hlength⟩
    exact reads_take hlength
  form_of_eq_ok := by
    intro c c' a h
    rw [take] at h
    split at h
    next hle =>
      cases h
      refine ⟨c.rest.take n, ⟨rfl, ?_⟩, (List.take_append_drop n c.rest).symm⟩
      rw [c.remaining_eq] at hle
      exact List.length_take_of_le hle
    next => cases h

/-- A field of `n` bytes, each of which is the bytes of the value that it is read as.

**Proof sketch.** The bytes that are taken are those of their value, and the value of written bytes
is the one that was written. -/
theorem follows_of_take {n : Nat} {value : Bytes → α} {bytes : α → Bytes}
    (hreads : ∀ a, (take n >>= fun bs => pure (value bs)).Reads (bytes a) a)
    (hbytes : ∀ bs : Bytes, bs.length = n → bytes (value bs) = bs) :
    (take n >>= fun bs => pure (value bs)).Follows (written bytes) where
  reads := by
    rintro _ a rfl
    exact hreads a
  form_of_eq_ok := by
    intro c c' a h
    obtain ⟨bs, ⟨_, ⟨rfl, hlength⟩, rfl⟩, hrest⟩ := ((follows_take n).map value).form_of_eq_ok h
    exact ⟨bs, (hbytes bs hlength).symm, hrest⟩

/-- A byte is read as it is written. -/
theorem follows_u8 : u8.Follows (written Wire.u8) := by
  refine follows_of_take reads_u8 fun bs hlength => ?_
  obtain ⟨b, rfl⟩ := List.length_eq_one_iff.1 hlength
  simp [Wire.u8, Bytes.ofLittle]

/-- A number of two bytes is read as it is written. -/
theorem follows_u16 : u16.Follows (written Wire.u16) := by
  refine follows_of_take reads_u16 fun bs hlength => ?_
  have hlt : Bytes.ofLittle bs < Bytes.capacity 2 := hlength ▸ Bytes.ofLittle_lt bs
  rw [Wire.u16, UInt16.toNat_ofNat_of_lt' hlt, ← hlength, Bytes.little_ofLittle]

/-- A number of four bytes is read as it is written. -/
theorem follows_u32 : u32.Follows (written Wire.u32) := by
  refine follows_of_take reads_u32 fun bs hlength => ?_
  have hlt : Bytes.ofLittle bs < Bytes.capacity 4 := hlength ▸ Bytes.ofLittle_lt bs
  rw [Wire.u32, UInt32.toNat_ofNat_of_lt' hlt, ← hlength, Bytes.little_ofLittle]

/-- An identity is read as it is written. -/
theorem follows_uuid : uuid.Follows (written Uuid.toBytes) :=
  follows_of_take reads_uuid fun _ => Uuid.toBytes_ofBytes

/-- **Counted bytes** are exactly as many as their length tells.

**Proof sketch.** A number, and then as many bytes. -/
theorem follows_counted : counted.Follows Form.counted := by
  refine (follows_u16.bind fun n => follows_take n.toNat).congr fun bs body => ?_
  constructor
  · rintro ⟨n, _, _, rfl, ⟨rfl, hlength⟩, rfl⟩
    exact ⟨n, hlength.symm, rfl⟩
  · rintro ⟨n, hlength, rfl⟩
    exact ⟨n, _, body, rfl, ⟨rfl, hlength.symm⟩, rfl⟩

/-- **A text** is counted bytes in UTF-8.

**Proof sketch.** Counted bytes that are UTF-8 are the bytes of one text; others are refused. -/
theorem follows_text : text.Follows Form.text := by
  have hdecode : text.Follows
      (Form.counted.andThen fun bs => empty fun s => Text.utf8 s = bs) := by
    refine follows_counted.bind fun bs => ?_
    cases h : Text.ofUtf8? bs with
    | some s =>
      refine (follows_pure s).congr fun _ s' => and_congr_right fun _ => ?_
      show s' = s ↔ Text.utf8 s' = bs
      rw [← Text.ofUtf8?_eq_some_iff, h, Option.some.injEq, eq_comm]
    | none =>
      refine (follows_fail _).congr fun _ s' => and_congr_right fun _ => ?_
      show False ↔ Text.utf8 s' = bs
      rw [← Text.ofUtf8?_eq_some_iff, h]
      exact iff_of_false id (Option.some_ne_none s').symm
  refine hdecode.congr fun bs s => ?_
  constructor
  · rintro ⟨_, front, _, hfront, ⟨rfl, rfl⟩, rfl⟩
    rwa [List.append_nil]
  · intro h
    exact ⟨_, bs, [], h, ⟨rfl, rfl⟩, (List.append_nil bs).symm⟩

/-- A text is read as what is kept of it. -/
theorem reads_text (s : String) : text.Reads (Wire.text s) (Text.truncate s maxLength) :=
  follows_text.reads (Form.text_text s)

/-- A text that can be counted is read as it is. -/
theorem reads_text_of_le {s : String} (h : s.utf8ByteSize ≤ maxLength) :
    text.Reads (Wire.text s) s := by
  have hread := reads_text s
  rwa [Text.truncate_eq_self h] at hread

end Reader

end FleetStatus.Wire
