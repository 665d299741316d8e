import FleetStatus.Proofs.Fleet.Sight
import FleetStatus.Proofs.Fleet.Sound

set_option relaxedAutoImplicit false
set_option autoImplicit false

/-!
# What a node of a fleet tells about the number of players

A node that answers for its fleet tells the number of players twice: summaries add up the counts of
the servers, and lists of players have a length. Both are taken from the replica. A player whom the
log placed on a server that the node does not list is in the list and in no count, until the server
announces itself again or the next full read comes.

## Main definitions

* `FleetStatus.Fleet.sight` — what a node saw in a run of its fleet.
* `FleetStatus.Fleet.InTime` — the log keeps what the node did not read yet.

## Main results

* `FleetStatus.Fleet.SeenBy.run` — what a node saw in a run determines its replica.
* `FleetStatus.Fleet.totals_agree_iff` — when the two numbers of players agree.
* `FleetStatus.Fleet.totals_disagree` — a run after which they do not.
-/

namespace FleetStatus

/-! ## What a node saw in a run -/

namespace Fleet

/-- What a node saw after a further step of its fleet. -/
def look (f : Fleet) (i : Nat) (w : Sight) : Step → Sight
  | .turn j t => if j = i then f.nodes[i]?.elim w fun n => w.after n f.now f.store t else w
  | .clock _ | .host .. | .close => w

/-- What a node saw after a further **run** of its fleet. -/
def sight (f : Fleet) (i : Nat) (w : Sight) : List Step → Sight
  | [] => w
  | st :: steps => (f.step st).sight i (f.look i w st) steps

/-- The log keeps what a node did not read yet, whenever the node reads it. -/
def InTime (f : Fleet) (i : Nat) : List Step → Prop
  | [] => True
  | st :: steps =>
    (st = .turn i .tail → ∀ n ∈ f.nodes[i]?, ∀ k ∈ n.member.cursor?, f.store.RetainsAfter k) ∧
      (f.step st).InTime i steps

instance decidableInTime (f : Fleet) (i : Nat) : (steps : List Step) → Decidable (f.InTime i steps)
  | [] => .isTrue trivial
  | st :: steps =>
    have := decidableInTime (f.step st) i steps
    inferInstanceAs (Decidable (_ ∧ _))

variable {f : Fleet} {i : Nat} {w : Sight} {events : List Event}

/-- A node sees what the replica that it keeps comes from. -/
def SeenBy (f : Fleet) (i : Nat) (w : Sight) : Prop :=
  ∀ n, f.nodes[i]? = some n → n.member.isRunning → n.member.settings.syncs → Sees n.member w

/-- A node that keeps a replica tracks the store as long as it is open. -/
def TrackedBy (f : Fleet) (events : List Event) (i : Nat) (w : Sight) : Prop :=
  f.store.closed = false → ∀ n, f.nodes[i]? = some n → n.member.isRunning →
    n.member.settings.syncs → ∃ k, Tracks n.member f.store events w k

/-- A node sees nothing in the steps of others. -/
theorem look_of_ne {st : Step} (h : ∀ t, st ≠ .turn i t) : f.look i w st = w := by
  cases st with
  | turn j t =>
    have hij : j ≠ i := fun heq => h t (heq ▸ rfl)
    rw [look, if_neg hij]
  | clock now => rfl
  | host j host => rfl
  | close => rfl

/-- A node sees what its own turn does. -/
theorem look_turn {n : Node} (hn : f.nodes[i]? = some n) (t : Turn) :
    f.look i w (.turn i t) = w.after n f.now f.store t := by
  rw [look, if_pos rfl, hn, Option.elim_some]

/-- A turn asks the store for what its node does. -/
theorem asked_turn {n : Node} (hn : f.nodes[i]? = some n) (t : Turn) :
    f.asked (.turn i t) = n.operations f.now t := by
  rw [asked, hn, Option.elim_some]

/-- **What a node saw determines its replica, step by step.**

**Proof sketch.** A step changes the member of the node only if it is a turn of it
(`exists_of_getElem?_step`), and a turn changes the replica and what was seen alike (`Sees.turn`).
-/
theorem SeenBy.step (h : f.SeenBy i w) (hsound : f.Sound events) {st : Step}
    (hfit : f.store.CountsFit (f.asked st)) : (f.step st).SeenBy i (f.look i w st) := by
  intro n' hn' hrunning hsyncs
  obtain ⟨n, hn, ⟨hother, hmember⟩ | ⟨t, rfl, hmember⟩⟩ := exists_of_getElem?_step hn'
  · rw [look_of_ne hother]
    rw [hmember] at hrunning hsyncs ⊢
    exact h n hn hrunning hsyncs
  · rw [look_turn hn]
    rw [asked_turn hn] at hfit
    rw [hmember] at hrunning hsyncs ⊢
    rw [n.settings_turn] at hsyncs
    exact Sees.turn (fun hopen => (hsound.told hopen).settled) hfit (h n hn) hrunning hsyncs

/-- **A node that reads the log in time tracks the store, step by step.**

**Proof sketch.** A turn of the node itself is `Tracks.turn`. Any other step leaves its member alone
and writes to the store what is still to be read (`Tracks.write`). -/
theorem TrackedBy.step (h : f.TrackedBy events i w) (hsound : f.Sound events) (hsees : f.SeenBy i w)
    {st : Step} (hfit : f.store.CountsFit (f.asked st))
    (hkept : st = .turn i .tail →
      ∀ n ∈ f.nodes[i]?, ∀ k ∈ n.member.cursor?, f.store.RetainsAfter k) :
    (f.step st).TrackedBy (events ++ f.store.history (f.asked st)) i (f.look i w st) := by
  intro hopen n' hn' hrunning hsyncs
  have hbefore := isOpen_of_step hopen
  have horderly := hsound.orderlyRun_asked hopen
  have htold := hsound.told hbefore
  rw [store_step]
  obtain ⟨n, hn, ⟨hother, hmember⟩ | ⟨t, rfl, hmember⟩⟩ := exists_of_getElem?_step hn'
  · rw [look_of_ne hother]
    rw [hmember] at hrunning hsyncs ⊢
    obtain ⟨k, hk⟩ := h hbefore n hn hrunning hsyncs
    exact ⟨k, hk.write htold horderly hfit rfl rfl⟩
  · rw [look_turn hn]
    rw [asked_turn hn] at horderly hfit ⊢
    rw [hmember] at hrunning hsyncs ⊢
    rw [n.settings_turn] at hsyncs
    refine Tracks.turn htold horderly hfit (fun heq => ?_) (hsees n hn) (h hbefore n hn) hrunning
      hsyncs
    exact hkept (heq ▸ rfl) n hn

/-- **What a node saw in a run determines its replica**, and a node that reads the log in time
tracks the store.

**Proof sketch.** By induction on the steps, with `SeenBy.step` and `TrackedBy.step` for the first
of them. The counts fit in each part of a run when they fit in all of it. -/
theorem SeenBy.run (h : f.SeenBy i w) (hsound : f.Sound events) {steps : List Step}
    (hfit : f.store.CountsFit (f.operations steps)) :
    (f.run steps).SeenBy i (f.sight i w steps) ∧
      (f.InTime i steps → f.TrackedBy events i w →
        (f.run steps).TrackedBy (events ++ f.store.history (f.operations steps)) i
          (f.sight i w steps)) := by
  induction steps generalizing f events w with
  | nil => exact ⟨h, fun _ htracked => (List.append_nil events).symm ▸ htracked⟩
  | cons st steps ih =>
    rw [operations] at hfit ⊢
    have hstep := hfit.of_append
    have hrest := hfit.append
    rw [← store_step] at hrest
    rw [Store.history_append, ← List.append_assoc, ← store_step]
    obtain ⟨hseen, htracked⟩ := ih (h.step hsound hstep) (hsound.step hstep) hrest
    exact ⟨hseen, fun hintime htracked' =>
      htracked hintime.2 (htracked'.step hsound h hstep hintime.1)⟩

/-- A node that answers for its fleet runs, keeps a replica and shows it. -/
theorem eq_snapshot_of_view {n : Node} {shown : Int64} {snapshot : Snapshot}
    (h : (n.view shown).fleet = some snapshot) :
    n.member.isRunning ∧ n.member.settings.syncs ∧ snapshot = n.member.replica.snapshot shown := by
  simp only [Node.view, Member.aggregatedSnapshot, Option.ite_none_right_eq_some,
    Bool.and_eq_true, Option.some.injEq] at h
  obtain ⟨-, ⟨hrunning, haggregates⟩, rfl⟩ := h
  refine ⟨hrunning, ?_, rfl⟩
  rw [NetworkSettings.aggregates, decide_eq_true_eq] at haggregates
  simp [NetworkSettings.syncs, haggregates]

/-- **When summaries and lists of players agree on how many players there are.** A node answers for
its fleet after any run. What its summary counts are the players on listed servers: every count of a
server is exact, and the players of the list that no count tells are those on servers that are not
listed. So the two agree exactly when the log, since the last full read of the node, placed players
on servers only that the node knew of. In particular they agree when the node read the log to its
end and its last full read found no stale server.

**Proof sketch.** A fleet uses its store in an orderly way, so the history of the store tells what
is in it, and full reads put players on listed servers. What the node saw since determines where its
replica has players and which servers it lists, and events keep the counts of a replica exact. -/
theorem totals_agree_iff (hfresh : f.Fresh) (i : Nat) (steps : List Step)
    (hfit : f.store.CountsFit (f.operations steps)) {n : Node}
    (hn : (f.run steps).nodes[i]? = some n) (shown : Int64) {snapshot : Snapshot}
    (hfleet : (n.view shown).fleet = some snapshot)
    (hsmall : snapshot.players.length < UInt32.size) :
    ((n.view shown).info.playerCount.toNat = (n.view shown).players.length ↔
      (f.sight i {} steps).Housed) ∧
    (∀ r ∈ snapshot.servers, r.playerCount.toNat =
      (snapshot.players.filter (·.serverId == r.serverId)).length) ∧
    (n.view shown).info.playerCount.toNat + n.member.replica.stranded.length =
      (n.view shown).players.length ∧
    (f.InTime i steps → (f.run steps).store.closed = false →
      n.member.cursor? = (f.run steps).store.latest.toOption →
      (f.sight i {} steps).dropped = [] →
      (n.view shown).info.playerCount.toNat = (n.view shown).players.length) := by
  obtain ⟨hrunning, hsyncs, rfl⟩ := eq_snapshot_of_view hfleet
  have hcount : (n.view shown).info.playerCount = (n.member.replica.snapshot shown).totalPlayers := by
    rw [View.info, hfleet]
  have hlength : (n.view shown).players.length = (n.member.replica.snapshot shown).players.length := by
    rw [View.players, hfleet]
    exact List.length_map _
  have hsize : n.member.replica.players.size < UInt32.size := by
    change n.member.replica.players.values.length < UInt32.size at hsmall
    rwa [Index.values, List.length_map] at hsmall
  have hidle (m : Node) (hm : f.nodes[i]? = some m) : m.member.isRunning = false := by
    rw [Member.isRunning, hfresh.idle m (List.mem_of_getElem? hm)]
  have hseen : f.SeenBy i {} := fun m hm hran =>
    absurd ((hidle m hm).symm.trans hran) Bool.false_ne_true
  obtain ⟨hsees, htracks⟩ := hseen.run hfresh.sound hfit
  have hnode := hsees n hn hrunning hsyncs
  have hagree := hnode.coherent.totalPlayers_eq_iff hsize shown
  rw [hcount, hlength]
  refine ⟨hagree.trans hnode.housed_iff, fun r hr => hnode.coherent.toNat_playerCount hsize hr,
    hnode.coherent.totalPlayers_add_stranded hsize shown, fun hintime hopen hend hnone => ?_⟩
  have htracked : f.TrackedBy [] i {} := fun _ m hm hran =>
    absurd ((hidle m hm).symm.trans hran) Bool.false_ne_true
  obtain ⟨k, hk⟩ := htracks hintime htracked hopen n hn hrunning hsyncs
  exact hagree.2 (hk.housed ((hfresh.sound.run hfit).told hopen) hend hnone)

/-- Two servers that answer for their fleet, before their first step. -/
def pair : Fleet :=
  let node (id : String) : Node := .ofSettings { network := { enabled := true, serverId := id } }
    ⟨[7], 4, by decide, by decide, by decide⟩ {}
  { nodes := [node "a", node "b"], store := .withCapacity 9, now := 0 }

/-- The two servers were not started, and their ids differ. -/
theorem fresh_pair : pair.Fresh := ⟨⟨9, rfl⟩, by decide, by decide⟩

/-- A stale server is forgotten at a tick. Then a player joins it, and the node reads of the join:
the player is in its list of players and in no count. -/
theorem totals_disagree :
    ¬∀ (f : Fleet) (i : Nat) (steps : List Step) (n : Node) (shown : Int64) (snapshot : Snapshot),
      f.Fresh → f.store.CountsFit (f.operations steps) → (f.run steps).store.RetainsAfter 0 →
      (f.run steps).nodes[i]? = some n → (n.view shown).fleet = some snapshot →
      snapshot.players.length < UInt32.size →
      (n.view shown).info.playerCount.toNat = (n.view shown).players.length := by
  intro hclaim
  let steps : List Step := [.turn 0 .start, .turn 1 .start, .turn 0 .tail, .clock 46000,
    .turn 0 .tick, .turn 1 (.join ⟨1⟩ "p1"), .turn 1 .record, .turn 0 .tail]
  have hfit : pair.store.CountsFit (pair.operations steps) :=
    Store.countsFit_of_length_lt 9 (by decide +kernel)
  have hkept : (pair.run steps).store.RetainsAfter 0 := by decide +kernel
  have hdisagree : ∃ n ∈ (pair.run steps).nodes[0]?, ∃ snapshot ∈ (n.view 46000).fleet,
      snapshot.players.length < UInt32.size ∧
        (n.view 46000).info.playerCount.toNat ≠ (n.view 46000).players.length := by
    decide +kernel
  obtain ⟨n, hn, snapshot, hfleet, hsmall, hne⟩ := hdisagree
  exact hne (hclaim pair 0 steps n 46000 snapshot fresh_pair hfit hkept hn hfleet hsmall)

/-- The same two servers. The node does not know the server of the player that it read of; later the
server publishes its record, the node reads everything again, and then all is well. -/
theorem totals_agree_iff_again :
    let first : List Step := [.turn 0 .start, .turn 1 .start, .turn 0 .tail, .clock 46000,
      .turn 0 .tick, .turn 1 (.join ⟨1⟩ "p1"), .turn 1 .record, .turn 0 .tail]
    let again : List Step := first ++ [.turn 0 .beat, .turn 1 .beat, .turn 0 .tick, .turn 0 .tail]
    ¬(pair.sight 0 {} first).Housed ∧ (pair.sight 0 {} again).Housed ∧
      ∃ n ∈ (pair.run again).nodes[0]?, (n.view 46000).info.playerCount.toNat = 1 ∧
        (n.view 46000).players.length = 1 := by
  intro first again
  have hfits (steps : List Step) (hlength : (pair.operations steps).length < UInt32.size) :
      pair.store.CountsFit (pair.operations steps) := Store.countsFit_of_length_lt 9 hlength
  have hfirst : ∃ n ∈ (pair.run first).nodes[0]?, ∃ snapshot ∈ (n.view 46000).fleet,
      snapshot.players.length < UInt32.size ∧
        (n.view 46000).info.playerCount.toNat ≠ (n.view 46000).players.length := by
    decide +kernel
  have hagain : ∃ n ∈ (pair.run again).nodes[0]?, ∃ snapshot ∈ (n.view 46000).fleet,
      snapshot.players.length < UInt32.size ∧ (n.view 46000).players.length = 1 ∧
        n.member.cursor? = (pair.run again).store.latest.toOption := by
    decide +kernel
  obtain ⟨n, hn, snapshot, hfleet, hsmall, hne⟩ := hfirst
  obtain ⟨n', hn', snapshot', hfleet', hsmall', hlength, hend⟩ := hagain
  have hdiffers := totals_agree_iff fresh_pair 0 first (hfits first (by decide +kernel)) hn 46000
    hfleet hsmall
  have hsame := totals_agree_iff fresh_pair 0 again (hfits again (by decide +kernel)) hn' 46000
    hfleet' hsmall'
  have hcounts := hsame.2.2.2 (by decide +kernel) (by decide +kernel) hend (by decide +kernel)
  exact ⟨fun h => hne (hdiffers.1.2 h), hsame.1.1 hcounts, n', hn', hcounts.trans hlength, hlength⟩

end Fleet

end FleetStatus
