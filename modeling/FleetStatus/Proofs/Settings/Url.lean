import FleetStatus.Proofs.Text.Digits
import FleetStatus.Settings

set_option relaxedAutoImplicit false
set_option autoImplicit false

/-!
# Which settings have one address

The address of a store is put together from settings, with a colon, an at sign and a slash between
them, and nothing in the settings is escaped. The scheme, the port and the database can be told from
any address. The rest of it, which is who connects and the host, is one text, and any at sign in it
may be the one that divides it. So the address of settings with a user or a password is also that of
a host with an at sign in its name, and a colon in a user's name may as well stand before a password.

## Main definitions

* `FleetStatus.RedisSettings.HasNoUrl` — settings without a whole address.
* `FleetStatus.RedisSettings.SameConnection` — settings that ask for the same connection.
* `FleetStatus.RedisSettings.Divides` — no name has the sign that divides it from what follows.

## Main results

* `FleetStatus.RedisSettings.toUrl_eq_toUrl_iff` — which settings have one address.
* `FleetStatus.RedisSettings.sameConnection_of_divides` — where the address tells the settings.
* `FleetStatus.RedisSettings.forall_sameConnection_iff` — which address is that of no other settings.
* `FleetStatus.RedisSettings.toUrl_tells_iff` — the three together.
-/

namespace FleetStatus

/-- A text is divided in one way where its characters stop to have a property.

**Proof sketch.** The front is what is taken while the property holds, from either side. -/
theorem append_inj_of_stop {p : Char → Bool} {xs xs' rest rest' : List Char}
    (hxs : ∀ c ∈ xs, p c = true) (hxs' : ∀ c ∈ xs', p c = true)
    (hrest : ∀ c ∈ rest.head?, p c = false) (hrest' : ∀ c ∈ rest'.head?, p c = false)
    (h : xs ++ rest = xs' ++ rest') : xs = xs' ∧ rest = rest' := by
  have hstop : ∀ {rest : List Char}, (∀ c ∈ rest.head?, p c = false) →
      rest.takeWhile p = [] := by
    intro rest hrest
    cases rest with
    | nil => rfl
    | cons c rest => simp [hrest c rfl]
  have htake := congrArg (List.takeWhile p) h
  rw [List.takeWhile_append_of_pos hxs, List.takeWhile_append_of_pos hxs', hstop hrest,
    hstop hrest', List.append_nil, List.append_nil] at htake
  subst htake
  exact ⟨rfl, List.append_cancel_left h⟩

namespace RedisSettings

/-- No **whole address** is set: there is none, or it is blank. -/
def HasNoUrl (s : RedisSettings) : Prop := ∀ url, s.url = some url → Text.isBlank url = true

/-- The user that connects; an empty name counts as none. -/
def user (s : RedisSettings) : Option String := s.username.filter (· ≠ "")

/-- The password; an empty one counts as none. -/
def secret (s : RedisSettings) : Option String := s.password.filter (· ≠ "")

/-- The settings ask for the **same connection**. -/
structure SameConnection (s t : RedisSettings) : Prop where
  useTls : s.useTls = t.useTls
  port : s.port = t.port
  database : s.database = t.database
  host : s.host = t.host
  user : s.user = t.user
  secret : s.secret = t.secret

/-! ## The end of an address -/

/-- The port and the database, with the signs before them. -/
def ending (s : RedisSettings) : List Char :=
  ':' :: Nat.toDigits 10 s.port.toNat ++
    if s.database > 0 then '/' :: Nat.toDigits 10 s.database.toNat else []

/-- Numbers with the same digits are the same. -/
theorem toDigits_inj {n m : Nat} (h : Nat.toDigits 10 n = Nat.toDigits 10 m) : n = m := by
  have hn := Text.Digits.value?_toDigits (show n < n + m + 1 by omega)
  have hm := Text.Digits.value?_toDigits (show m < n + m + 1 by omega)
  rw [h, hm] at hn
  exact (Option.some.inj hn).symm

/-- Digits at the end of a text, and the text before them, if it does not end with a digit.

**Proof sketch.** Read from the end the digits stop at the character before them. -/
theorem append_toDigits_inj {n m : Nat} {xs ys : List Char} {c d : Char}
    (hc : c.isDigit = false) (hd : d.isDigit = false)
    (h : xs ++ c :: Nat.toDigits 10 n = ys ++ d :: Nat.toDigits 10 m) :
    xs = ys ∧ c = d ∧ n = m := by
  have hdigits : ∀ n, ∀ c ∈ (Nat.toDigits 10 n).reverse, c.isDigit = true := fun n c hc =>
    Text.Digits.isDigit_of_mem_toDigits (List.mem_reverse.1 hc)
  have hreverse := congrArg List.reverse h
  simp only [List.reverse_append, List.reverse_cons, List.append_assoc] at hreverse
  obtain ⟨hnumber, hfront⟩ := append_inj_of_stop (hdigits n) (hdigits m)
    (by simpa using hc) (by simpa using hd) hreverse
  simp only [List.singleton_append, List.cons.injEq, List.reverse_inj] at hfront
  exact ⟨hfront.2, hfront.1, toDigits_inj (List.reverse_inj.1 hnumber)⟩

/-- An address ends with its port, or with its database behind the port. -/
theorem append_ending (s : RedisSettings) (xs : List Char) :
    xs ++ s.ending = if s.database > 0 then
      (xs ++ ':' :: Nat.toDigits 10 s.port.toNat) ++ '/' :: Nat.toDigits 10 s.database.toNat
    else xs ++ ':' :: Nat.toDigits 10 s.port.toNat := by
  rw [ending]
  split
  · rw [List.append_assoc]
  · rw [List.append_nil]

/-- **The port and the database can be told** from the end of an address.

**Proof sketch.** The digits at the end stand behind a slash or a colon. If it is a slash, they are
the database and the digits before it the port. -/
theorem append_ending_inj {s t : RedisSettings} {xs ys : List Char}
    (h : xs ++ s.ending = ys ++ t.ending) : xs = ys ∧ s.port = t.port ∧ s.database = t.database := by
  have hcolon : Char.isDigit ':' = false := rfl
  have hslash : Char.isDigit '/' = false := rfl
  rw [append_ending, append_ending] at h
  split at h <;> split at h
  next hs ht =>
    obtain ⟨hfront, _, hdatabase⟩ := append_toDigits_inj hslash hslash h
    obtain ⟨hxs, _, hport⟩ := append_toDigits_inj hcolon hcolon hfront
    exact ⟨hxs, UInt16.toNat_inj.1 hport, UInt32.toNat_inj.1 hdatabase⟩
  -- a slash before the last digits is no colon
  next hs ht => exact absurd (append_toDigits_inj hslash hcolon h).2.1 (by decide)
  next hs ht => exact absurd (append_toDigits_inj hcolon hslash h).2.1 (by decide)
  next hs ht =>
    obtain ⟨hxs, _, hport⟩ := append_toDigits_inj hcolon hcolon h
    have hzero : s.database = 0 := UInt32.le_zero_iff.1 (UInt32.not_lt.1 hs)
    have hzero' : t.database = 0 := UInt32.le_zero_iff.1 (UInt32.not_lt.1 ht)
    exact ⟨hxs, UInt16.toNat_inj.1 hport, hzero.trans hzero'.symm⟩

/-! ## Who connects -/

/-- The names of who connects: the user, and a colon and the password. -/
def names (s : RedisSettings) : List Char :=
  s.user.elim [] String.toList ++ s.secret.elim [] fun password => ':' :: password.toList

/-- The name of a user is not empty. -/
theorem ne_empty_of_user {s : RedisSettings} {user : String} (h : s.user = some user) :
    user ≠ "" := of_decide_eq_true (Option.filter_eq_some_iff.1 h).2

/-- Nobody is named if there is neither a user nor a password. -/
theorem names_eq_nil_iff (s : RedisSettings) : s.names = [] ↔ s.user = none ∧ s.secret = none := by
  cases huser : s.user with
  | none => cases hsecret : s.secret <;> simp [names, huser, hsecret]
  | some user => simp [names, huser, ne_empty_of_user huser]

/-- Credentials by whether there is a user and whether there is a password. -/
theorem credentials_eq (s : RedisSettings) : s.credentials = match s.user, s.secret with
    | some user, some password => user ++ ":" ++ password ++ "@"
    | none, some password => ":" ++ password ++ "@"
    | some user, none => user ++ "@"
    | none, none => "" := rfl

/-- **Credentials** are the names and an at sign behind them, unless nobody is named. -/
theorem toList_credentials (s : RedisSettings) :
    s.credentials.toList = if s.names = [] then [] else s.names ++ ['@'] := by
  rw [credentials_eq, names]
  cases huser : s.user <;> cases hsecret : s.secret
  next => rfl
  next password => simp
  next user => simp [ne_empty_of_user huser]
  next user password => simp

/-- There are no credentials if nobody is named. -/
theorem credentials_eq_empty_iff (s : RedisSettings) : s.credentials = "" ↔ s.names = [] := by
  rw [← String.toList_eq_nil_iff, toList_credentials]
  split <;> simp_all

/-! ## Which settings have one address -/

/-- An address is its scheme, who connects and the host, and its end. -/
theorem toList_toUrl {s : RedisSettings} (h : s.HasNoUrl) :
    s.toUrl.toList = (if s.useTls then "rediss" else "redis").toList ++
      (':' :: '/' :: '/' :: ((s.credentials ++ s.host).toList ++ s.ending)) := by
  have hnone : s.url.filter (fun u => !Text.isBlank u) = none :=
    Option.filter_eq_none_iff.2 fun url hurl => by simp [h url hurl]
  rw [toUrl, hnone]
  by_cases hdatabase : s.database > 0 <;> simp [ending, hdatabase, Nat.toList_repr]

/-- **Which settings have one address**: those that agree in the scheme, the port and the database,
and in the text that the credentials and the host make together.

**Proof sketch.** The scheme ends at the first colon, and the port and the database are told from
the end (`append_ending_inj`). What is between them are the credentials and the host. -/
theorem toUrl_eq_toUrl_iff {s t : RedisSettings} (hs : s.HasNoUrl) (ht : t.HasNoUrl) :
    s.toUrl = t.toUrl ↔ s.useTls = t.useTls ∧ s.port = t.port ∧ s.database = t.database ∧
      s.credentials ++ s.host = t.credentials ++ t.host := by
  constructor
  · intro h
    have hlist := congrArg String.toList h
    rw [toList_toUrl hs, toList_toUrl ht] at hlist
    have hscheme : s.useTls = t.useTls := by
      -- the sixth character is a colon or the second of two equal ones
      cases hsecure : s.useTls <;> cases hsecure' : t.useTls <;> simp_all
    rw [hscheme] at hlist
    simp only [List.append_cancel_left_eq, List.cons.injEq, true_and] at hlist
    obtain ⟨hplace, hport, hdatabase⟩ := append_ending_inj hlist
    exact ⟨hscheme, hport, hdatabase, String.toList_inj.1 hplace⟩
  · rintro ⟨hscheme, hport, hdatabase, hplace⟩
    rw [← String.toList_inj, toList_toUrl hs, toList_toUrl ht, hscheme, hplace, ending, ending,
      hport, hdatabase]

/-! ## Settings that are divided in one way -/

/-- No name has the sign that **divides** it from what follows: there is no colon in the name of the
user and no at sign in the name of the host. -/
structure Divides (s : RedisSettings) : Prop where
  user : ∀ user, s.user = some user → ':' ∉ user.toList
  host : '@' ∉ s.host.toList

/-- The last at sign stands before the host.

**Proof sketch.** Read from the end, the host stops at the at sign behind the credentials, as it has
none itself. -/
theorem host_eq_of_divides {s t : RedisSettings} (hs : s.Divides) (ht : t.Divides)
    (h : s.credentials ++ s.host = t.credentials ++ t.host) :
    s.host = t.host ∧ s.credentials = t.credentials := by
  have hfree : ∀ {t : RedisSettings}, t.Divides → ∀ c ∈ t.host.toList.reverse,
      decide (c ≠ '@') = true := by
    intro t ht c hc
    refine decide_eq_true fun heq => ht.host ?_
    rwa [← heq, ← List.mem_reverse]
  have hstop : ∀ t : RedisSettings, ∀ c ∈ t.credentials.toList.reverse.head?,
      decide (c ≠ '@') = false := by
    intro t c hc
    rw [toList_credentials] at hc
    split at hc
    · simp at hc
    · have heq : '@' = c := by simpa using hc
      simp [← heq]
  have hreverse := congrArg (fun text => text.toList.reverse) h
  simp only [String.toList_append, List.reverse_append] at hreverse
  obtain ⟨hhost, hwho⟩ := append_inj_of_stop (hfree hs) (hfree ht) (hstop s) (hstop t) hreverse
  exact ⟨String.toList_inj.1 (List.reverse_inj.1 hhost),
    String.toList_inj.1 (List.reverse_inj.1 hwho)⟩

/-- The same credentials name the same. -/
theorem names_eq_of_credentials_eq {s t : RedisSettings} (h : s.credentials = t.credentials) :
    s.names = t.names := by
  have hlist := congrArg String.toList h
  rw [toList_credentials, toList_credentials] at hlist
  split at hlist <;> split at hlist
  next hs ht => rw [hs, ht]
  next => simp at hlist
  next => simp at hlist
  next => exact List.append_cancel_right hlist

/-- The user is told by the name, as an empty one counts as none. -/
theorem filter_ofList_user (s : RedisSettings) :
    (some (String.ofList (s.user.elim [] String.toList))).filter (· ≠ "") = s.user := by
  cases huser : s.user with
  | none => rfl
  | some user => simp [ne_empty_of_user huser]

/-- The first colon stands behind the user.

**Proof sketch.** The user stops at the first colon, as there is none in the name, and behind the
colon stands the password. -/
theorem user_eq_of_divides {s t : RedisSettings} (hs : s.Divides) (ht : t.Divides)
    (h : s.names = t.names) : s.user = t.user ∧ s.secret = t.secret := by
  have hfree : ∀ {t : RedisSettings}, t.Divides → ∀ c ∈ t.user.elim [] String.toList,
      decide (c ≠ ':') = true := by
    intro t ht c hc
    cases huser : t.user with
    | none => simp [huser] at hc
    | some user =>
      refine decide_eq_true fun heq => ht.user user huser ?_
      rwa [huser, heq] at hc
  have hstop : ∀ t : RedisSettings,
      ∀ c ∈ (t.secret.elim [] fun password => ':' :: password.toList).head?,
        decide (c ≠ ':') = false := by
    intro t c hc
    cases hsecret : t.secret with
    | none => simp [hsecret] at hc
    | some password =>
      have heq : ':' = c := by simpa [hsecret] using hc
      simp [← heq]
  obtain ⟨huser, hsecret⟩ := append_inj_of_stop (hfree hs) (hfree ht) (hstop s) (hstop t) h
  refine ⟨by rw [← filter_ofList_user s, huser, filter_ofList_user], ?_⟩
  cases hp : s.secret <;> cases hp' : t.secret <;> simp_all [String.toList_inj]

/-- **Where no name has a sign that divides, the address tells the settings.**

**Proof sketch.** Scheme, port and database are told in any case. The text of credentials and host
is divided at the last at sign, and the credentials at the first colon. -/
theorem sameConnection_of_divides {s t : RedisSettings} (hs : s.HasNoUrl) (ht : t.HasNoUrl)
    (hds : s.Divides) (hdt : t.Divides) (h : s.toUrl = t.toUrl) : s.SameConnection t := by
  obtain ⟨huseTls, hport, hdatabase, hplace⟩ := (toUrl_eq_toUrl_iff hs ht).1 h
  obtain ⟨hhost, hwho⟩ := host_eq_of_divides hds hdt hplace
  obtain ⟨huser, hsecret⟩ := user_eq_of_divides hds hdt (names_eq_of_credentials_eq hwho)
  exact ⟨huseTls, hport, hdatabase, hhost, huser, hsecret⟩

/-! ## Addresses that are those of no other settings -/

/-- The same settings **divided at another place**: another user, no password, another host. -/
def moved (s : RedisSettings) (user : Option String) (host : String) : RedisSettings :=
  { s with username := user, password := none, host, url := none }

/-- Settings that are divided at another place have the same address. -/
theorem toUrl_moved {s : RedisSettings} (hs : s.HasNoUrl) {user : Option String} {host : String}
    (hplace : s.credentials ++ s.host = (s.moved user host).credentials ++ host) :
    (s.moved user host).HasNoUrl ∧ s.toUrl = (s.moved user host).toUrl := by
  have hmoved : (s.moved user host).HasNoUrl := nofun
  exact ⟨hmoved, (toUrl_eq_toUrl_iff hs hmoved).2 ⟨rfl, rfl, rfl, hplace⟩⟩

/-- **An address is that of no other settings** exactly if nobody is named to connect and there is no
at sign in the name of the host, unless it is the first character.

**Proof sketch.** If somebody is named, a host may have the credentials and the host together as its
name; if there is an at sign behind the first character of the host, what stands before it may be a
user. Either way other settings have the address. Conversely, if nobody is named here and somebody
there, the host begins with names, of which there is one character at least, and an at sign behind
them. -/
theorem forall_sameConnection_iff {s : RedisSettings} (hs : s.HasNoUrl) :
    (∀ t : RedisSettings, t.HasNoUrl → s.toUrl = t.toUrl → s.SameConnection t) ↔
      s.credentials = "" ∧ '@' ∉ s.host.toList.tail := by
  constructor
  · intro h
    have hnobody : s.credentials = "" := by
      -- the host may have the whole text as its name
      have hplace : s.credentials ++ s.host =
          (s.moved none (s.credentials ++ s.host)).credentials ++ (s.credentials ++ s.host) :=
        String.empty_append.symm
      obtain ⟨hmoved, hsame⟩ := toUrl_moved hs hplace
      have hconnection := h _ hmoved hsame
      exact (credentials_eq_empty_iff s).2
        ((names_eq_nil_iff s).2 ⟨hconnection.user, hconnection.secret⟩)
    refine ⟨hnobody, fun hsign => ?_⟩
    -- what stands before the at sign may be the user
    obtain ⟨first, rest, hhost⟩ := List.exists_cons_of_ne_nil
      (show s.host.toList ≠ [] from fun hnil => by simp [hnil] at hsign)
    rw [hhost] at hsign
    obtain ⟨front, back, rfl⟩ := List.append_of_mem hsign
    have huser : (s.moved (some (String.ofList (first :: front))) (String.ofList back)).user =
        some (String.ofList (first :: front)) := by simp [user, moved]
    have hplace : s.credentials ++ s.host =
        (s.moved (some (String.ofList (first :: front))) (String.ofList back)).credentials ++
          String.ofList back := by
      have hsecret : (s.moved (some (String.ofList (first :: front)))
        (String.ofList back)).secret = none := rfl
      rw [hnobody, credentials_eq, huser, hsecret, ← String.toList_inj]
      simp [hhost]
    obtain ⟨hmoved, hsame⟩ := toUrl_moved hs hplace
    have hnone := ((names_eq_nil_iff s).1 ((credentials_eq_empty_iff s).1 hnobody)).1
    rw [(h _ hmoved hsame).user, huser] at hnone
    cases hnone
  · rintro ⟨hnobody, hhost⟩ t ht h
    obtain ⟨huseTls, hport, hdatabase, hplace⟩ := (toUrl_eq_toUrl_iff hs ht).1 h
    rw [hnobody, String.empty_append] at hplace
    have hnames : t.names = [] := by
      refine Decidable.byContradiction fun hne => hhost ?_
      obtain ⟨first, rest, hfirst⟩ := List.exists_cons_of_ne_nil hne
      rw [hplace, String.toList_append, toList_credentials, if_neg hne, hfirst]
      simp
    obtain ⟨huser, hsecret⟩ := (names_eq_nil_iff t).1 hnames
    obtain ⟨huser', hsecret'⟩ :=
      (names_eq_nil_iff s).1 ((credentials_eq_empty_iff s).1 hnobody)
    rw [(credentials_eq_empty_iff t).2 hnames, String.empty_append] at hplace
    exact ⟨huseTls, hport, hdatabase, hplace, huser'.trans huser.symm,
      hsecret'.trans hsecret.symm⟩

/-- **What an address tells** of the settings that it was put together from. Two settings have one
address exactly if they agree in the scheme, the port and the database, and in the text that the
credentials and the host make together. If no user has a colon in the name and no host an at sign,
then they agree in the user, the password and the host as well. The address is that of no other
settings exactly if nobody is named to connect and there is no at sign behind the first character of
the host.

**Proof sketch.** Read from its end, an address has digits up to a slash or a colon, which tells the
database and the port (`append_ending_inj`). In the rest the last at sign stands before a host that
has none, and the first colon behind a user that has none. Any text before an at sign may be a user,
and any text at all may be a host (`toUrl_moved`). -/
theorem toUrl_tells_iff {s : RedisSettings} (hs : s.HasNoUrl) :
    (∀ t : RedisSettings, t.HasNoUrl →
      (s.toUrl = t.toUrl ↔ s.useTls = t.useTls ∧ s.port = t.port ∧ s.database = t.database ∧
        s.credentials ++ s.host = t.credentials ++ t.host) ∧
      (s.Divides → t.Divides → s.toUrl = t.toUrl → s.SameConnection t)) ∧
    ((∀ t : RedisSettings, t.HasNoUrl → s.toUrl = t.toUrl → s.SameConnection t) ↔
      s.credentials = "" ∧ '@' ∉ s.host.toList.tail) :=
  ⟨fun _ ht => ⟨toUrl_eq_toUrl_iff hs ht, sameConnection_of_divides hs ht⟩,
    forall_sameConnection_iff hs⟩

/-- Colons and at signs in a password do no harm among settings that are divided, but the address is
also that of others; where nobody is named it is that of no others. -/
theorem toUrl_tells_iff_named :
    let named : RedisSettings := { username := some "ops", password := some "p:@w" }
    let nobody : RedisSettings := { host := "cache", database := 2 }
    (∀ t : RedisSettings, t.HasNoUrl → t.Divides → named.toUrl = t.toUrl →
      named.SameConnection t) ∧
    ¬(∀ t : RedisSettings, t.HasNoUrl → named.toUrl = t.toUrl → named.SameConnection t) ∧
    ∀ t : RedisSettings, t.HasNoUrl → nobody.toUrl = t.toUrl → nobody.SameConnection t := by
  intro named nobody
  have hnamed : named.HasNoUrl := nofun
  have hopen : nobody.HasNoUrl := nofun
  have hdivides : named.Divides :=
    ⟨fun user huser => Option.some.inj (huser.symm.trans (rfl : named.user = some "ops")) ▸ by decide,
      by decide⟩
  obtain ⟨hpairs, halone⟩ := toUrl_tells_iff hnamed
  refine ⟨fun t ht hdt => (hpairs t ht).2 hdivides hdt, fun h => ?_, ?_⟩
  · exact absurd (halone.1 h).1 (by decide)
  · exact (toUrl_tells_iff hopen).2.2 ⟨by decide, by decide⟩

/-- **An address does not tell its settings**: a user with a colon in the name, and a user with what
stands behind the colon as the password. -/
theorem toUrl_confuses :
    let joined : RedisSettings := { username := some "a:b" }
    let divided : RedisSettings := { username := some "a", password := some "b" }
    joined.HasNoUrl ∧ divided.HasNoUrl ∧ joined.toUrl = divided.toUrl ∧
      joined.user ≠ divided.user ∧ joined.secret ≠ divided.secret ∧
      ¬joined.SameConnection divided :=
  ⟨nofun, nofun, by decide, by decide, by decide, fun h => absurd h.user (by decide)⟩

end RedisSettings

end FleetStatus
