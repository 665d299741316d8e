import FleetStatus.Settings

set_option relaxedAutoImplicit false
set_option autoImplicit false

/-!
# How old a record may get

A record is stale when it is older than the timeout. The age of a record is a number of milliseconds
in 64 signed bits; an age that does not fit is told as the largest one, which does no harm, since no
timeout in whole seconds is as large. The timeout is taken over into 64 signed bits, too, but one
that does not fit comes around: the longest timeouts that may be set are compared as short ones or
as negative ones, and then a record is stale at once.

## Main definitions

* `FleetStatus.comparedMillis` — a timeout as ages are compared with it.
* `FleetStatus.Timing.Outlived` — a record is older than the timeout that was set.

## Main results

* `FleetStatus.ServerRecord.isStale_iff` — when a record is stale, for every timeout.
* `FleetStatus.ServerRecord.isStale_iff_of_lt` — for timeouts in range that is when it is older.
* `FleetStatus.ServerRecord.isStale_of_le` — what is stale stays so.
* `FleetStatus.Timing.isStale_iff_outlived_iff` — which timeouts are exact.
* `FleetStatus.Timing.stale_at_once` — not all are.
-/

namespace FleetStatus

/-- A timeout **as ages are compared with it**: in 64 signed bits, where it comes around. -/
def comparedMillis (timeout : Nat) : Int := (Int64.ofNat timeout).toInt

/-- A timeout in range is compared as it is. -/
theorem comparedMillis_of_le {timeout : Nat} (h : (timeout : Int) ≤ Int64.maxValue.toInt) :
    comparedMillis timeout = timeout := by
  have hmax : Int64.maxValue.toInt = 9223372036854775807 := rfl
  exact Int64.toInt_ofNat_of_lt (by omega)

/-- A timeout that comes around is compared as less than it is. -/
theorem comparedMillis_le (timeout : Nat) : comparedMillis timeout ≤ timeout := by
  have hsize : Int64.size = 18446744073709551616 := rfl
  rw [comparedMillis, Int64.toInt_ofNat', hsize, Int.bmod_def]
  split <;> omega

/-- A timeout is compared as a number that 64 signed bits can tell. -/
theorem comparedMillis_le_max (timeout : Nat) :
    comparedMillis timeout ≤ Int64.maxValue.toInt := Int64.toInt_le _

/-- **Whole seconds never come around to the largest number**, since they come around to multiples
of eight milliseconds.

**Proof sketch.** A thousand and 2⁶⁴ are multiples of eight, so what seconds come around to is one
as well. The largest number is odd. -/
theorem comparedMillis_seconds_lt (seconds : Nat) :
    comparedMillis (1000 * seconds) < Int64.maxValue.toInt := by
  have hmax : Int64.maxValue.toInt = 9223372036854775807 := rfl
  have hle := comparedMillis_le_max (1000 * seconds)
  have hsize : Int64.size = 18446744073709551616 := rfl
  have haround : (18446744073709551616 : Int) ∣
      comparedMillis (1000 * seconds) - (1000 * seconds : Nat) := by
    rw [comparedMillis, Int64.toInt_ofNat', hsize]
    exact Int.dvd_bmod_sub_self
  omega

namespace ServerRecord

variable (r : ServerRecord) (now : Int64)

/-- **When a record is stale**: its age, as far as 64 signed bits tell it, is more than the timeout
as it is compared. -/
theorem isStale_iff (timeout : Nat) : r.isStale now timeout ↔ comparedMillis timeout <
    max 0 (min (now.toInt - r.lastHeartbeat.toInt) Int64.maxValue.toInt) := by
  rw [isStale, decide_eq_true_iff]
  rfl

/-- **A record is stale when it is older than the timeout**, for timeouts in range. -/
theorem isStale_iff_of_lt {timeout : Nat} (hfit : timeout < 9223372036854775807) :
    r.isStale now timeout ↔ (timeout : Int) < now.toInt - r.lastHeartbeat.toInt := by
  have hmax : Int64.maxValue.toInt = 9223372036854775807 := rfl
  rw [isStale_iff, comparedMillis_of_le (by omega)]
  omega

/-- **A timeout in whole seconds** is compared with the age itself, however large the age is. -/
theorem isStale_seconds_iff (seconds : Nat) : r.isStale now (1000 * seconds) ↔
    comparedMillis (1000 * seconds) < max 0 (now.toInt - r.lastHeartbeat.toInt) := by
  have hlt := comparedMillis_seconds_lt seconds
  rw [isStale_iff]
  omega

/-- **A stale server stays stale** until it is heard from. -/
theorem isStale_of_le {r : ServerRecord} {now later : Int64} {timeout : Nat}
    (hle : now ≤ later) (h : r.isStale now timeout) : r.isStale later timeout := by
  rw [Int64.le_iff_toInt_le] at hle
  rw [isStale_iff] at h ⊢
  omega

end ServerRecord

namespace Timing

/-- A record is **older than the timeout** that was set: the time since the last heartbeat is more
than that many seconds, but at least one, whatever the numbers are. -/
def Outlived (t : Timing) (r : ServerRecord) (now : Int64) : Prop :=
  1000 * max 1 (t.serverTimeout.toNat : Int) < now.toInt - r.lastHeartbeat.toInt

instance (t : Timing) (r : ServerRecord) (now : Int64) : Decidable (t.Outlived r now) :=
  Int.decLt _ _

/-- The longest timeout whose milliseconds fit in 64 signed bits, in seconds. -/
def longestTimeout : Nat := 9223372036854775

section

variable (t : Timing) (r : ServerRecord) (now : Int64)

/-- A record is outlived when its age in milliseconds is more than the timeout in milliseconds. -/
theorem outlived_iff : t.Outlived r now ↔
    (t.timeoutMillis : Int) < now.toInt - r.lastHeartbeat.toInt := by
  rw [Outlived, timeoutMillis, timeoutSeconds]
  omega

/-- A record is stale when its age is more than the timeout as it is compared. -/
theorem isStale_iff : r.isStale now t.timeoutMillis ↔
    comparedMillis t.timeoutMillis < max 0 (now.toInt - r.lastHeartbeat.toInt) :=
  r.isStale_seconds_iff now t.timeoutSeconds

/-- **Whoever is older than the timeout is stale**, whatever the timeout is.

**Proof sketch.** The timeout is compared as no more than it is. -/
theorem isStale_of_outlived (h : t.Outlived r now) : r.isStale now t.timeoutMillis := by
  have hle := comparedMillis_le t.timeoutMillis
  rw [outlived_iff] at h
  rw [isStale_iff]
  omega

/-- **A timeout that fits is exact.**

**Proof sketch.** A timeout of at most `longestTimeout` seconds is less than 2⁶³ - 1 milliseconds,
and so it is compared as it is; that it is not this number itself matters where the age is cut off
there. -/
theorem isStale_iff_outlived (h : t.serverTimeout.toNat ≤ longestTimeout) :
    r.isStale now t.timeoutMillis ↔ t.Outlived r now := by
  have hfit : t.timeoutMillis < 2 ^ 63 - 1 := by
    rw [timeoutMillis, timeoutSeconds]
    simp only [longestTimeout] at h
    omega
  rw [r.isStale_iff_of_lt now hfit, outlived_iff]

end

/-- **A timeout that does not fit is not exact**: the largest age that 64 signed bits can tell is
below it and counts as stale.

**Proof sketch.** A heartbeat at the epoch and the latest time there is: the age 2⁶³ - 1 is more
than any number of seconds comes around to, and less than the timeout. -/
theorem exists_isStale_not_outlived {t : Timing} (h : longestTimeout < t.serverTimeout.toNat) :
    ∃ (r : ServerRecord) (now : Int64), r.isStale now t.timeoutMillis ∧ ¬t.Outlived r now := by
  let r : ServerRecord := .fresh "" "" 0
  have hage : Int64.maxValue.toInt - r.lastHeartbeat.toInt = 9223372036854775807 := rfl
  refine ⟨r, Int64.maxValue, ?_, ?_⟩
  · have hlt : comparedMillis t.timeoutMillis < 9223372036854775807 :=
      comparedMillis_seconds_lt t.timeoutSeconds
    rw [isStale_iff, hage]
    omega
  · rw [Outlived, hage]
    simp only [longestTimeout] at h
    omega

/-- **Which timeouts are exact.** For one record at one time, being stale is being older than the
timeout, unless the age lies between the timeout as it is compared and the timeout as it was set. So
a timeout is exact for all records at all times when its milliseconds fit in 64 signed bits, and no
other timeout is. Among the exact ones a longer timeout makes no record stale that a shorter one
would keep.

**Proof sketch.** Ages stop at the largest number, and no whole number of seconds comes around to
it. So a timeout that fits is compared as it is with the age as it is, and one that does not fit is
compared as something less than the largest number. -/
theorem isStale_iff_outlived_iff (t : Timing) :
    (∀ (r : ServerRecord) (now : Int64), (r.isStale now t.timeoutMillis ↔ t.Outlived r now) ↔
      (comparedMillis t.timeoutMillis < max 0 (now.toInt - r.lastHeartbeat.toInt) →
        t.Outlived r now)) ∧
    ((∀ (r : ServerRecord) (now : Int64), r.isStale now t.timeoutMillis ↔ t.Outlived r now) ↔
      t.serverTimeout.toNat ≤ longestTimeout) ∧
    (t.serverTimeout.toNat ≤ longestTimeout →
      ∀ shorter : Timing, shorter.serverTimeout ≤ t.serverTimeout →
        ∀ (r : ServerRecord) (now : Int64),
          r.isStale now t.timeoutMillis → r.isStale now shorter.timeoutMillis) := by
  refine ⟨fun r now => ?_, ⟨fun hexact => ?_, fun hfit r now => t.isStale_iff_outlived r now hfit⟩,
    fun hfit shorter hle r now hstale => ?_⟩
  · rw [← t.isStale_iff]
    exact ⟨Iff.mp, fun h => ⟨h, t.isStale_of_outlived r now⟩⟩
  · refine Nat.le_of_not_lt fun hlong => ?_
    obtain ⟨r, now, hstale, hyoung⟩ := exists_isStale_not_outlived hlong
    exact hyoung ((hexact r now).1 hstale)
  · have hold := (t.isStale_iff_outlived r now hfit).1 hstale
    rw [UInt64.le_iff_toNat_le] at hle
    refine shorter.isStale_of_outlived r now ?_
    rw [Outlived] at hold ⊢
    omega

/-- With the longest timeout that may be set, a record is stale at the time of its heartbeat. -/
theorem stale_at_once : ¬∀ (t : Timing) (r : ServerRecord) (now : Int64),
    r.isStale now t.timeoutMillis ↔
      1000 * max 1 (t.serverTimeout.toNat : Int) < now.toInt - r.lastHeartbeat.toInt := by
  intro hexact
  have hstale := (hexact { serverTimeout := 18446744073709551615 } (.fresh "a" "A" 0) 0).1
    (by decide)
  exact absurd hstale (by decide)

/-- The longest exact timeout, at the ends of time: the age is known to be more than the timeout,
though not by how much; with a day the record is stale, too. -/
theorem isStale_iff_outlived_longest :
    let t : Timing := { serverTimeout := 9223372036854775 }
    let r : ServerRecord := .fresh "a" "A" Int64.minValue
    t.serverTimeout.toNat ≤ longestTimeout ∧ ({ serverTimeout := 86400 } : Timing).serverTimeout ≤
        t.serverTimeout ∧
      r.isStale Int64.maxValue t.timeoutMillis ∧
      r.isStale Int64.maxValue ({ serverTimeout := 86400 } : Timing).timeoutMillis := by
  intro t r
  obtain ⟨-, hexact, hshorter⟩ := isStale_iff_outlived_iff t
  have hfit : t.serverTimeout.toNat ≤ longestTimeout := by decide
  have hle : ({ serverTimeout := 86400 } : Timing).serverTimeout ≤ t.serverTimeout := by decide
  have hstale := (hexact.2 hfit r Int64.maxValue).2 (by decide)
  exact ⟨hfit, hle, hstale, hshorter hfit _ hle r Int64.maxValue hstale⟩

end Timing

end FleetStatus
