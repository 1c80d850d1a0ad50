/-
The token bucket of a quota: one entry a key, refilled at a constant rate when its
key is checked, and forgotten when the table is full and the entry has been full
again for long.  Tokens are exact rationals.
-/
import Mathlib.Algebra.Order.Floor.Semiring
import Mathlib.Data.Rat.Floor
import TcoCalculator.Library.HashMap

namespace TcoCalculator

def Duration.nanosPerSecond : ℕ := 1000000000

/-! ### Time -/

structure Duration where
  nanos : ℕ
  valid : nanos < 2 ^ 64 * Duration.nanosPerSecond

namespace Duration

def asSecs (duration : Duration) : ℕ := duration.nanos / Duration.nanosPerSecond

def asSecondsExact (duration : Duration) : ℚ := duration.nanos / Duration.nanosPerSecond

def saturatingMul (duration : Duration) (factor : ℕ) : Duration where
  nanos := min (duration.nanos * factor) (2 ^ 64 * Duration.nanosPerSecond - 1)
  valid := by
    have hpos : 0 < 2 ^ 64 * Duration.nanosPerSecond := by decide
    omega

def ofSecs (seconds : ℕ) (h : seconds < 2 ^ 64) : Duration where
  nanos := seconds * Duration.nanosPerSecond
  valid := Nat.mul_lt_mul_of_pos_right h (by decide)

end Duration

/-- A reading of the monotonic clock, whose seconds are a signed 64-bit number. -/
structure Instant where
  nanos : ℕ
  valid : nanos < 2 ^ 63 * Duration.nanosPerSecond

namespace Instant

def seconds (instant : Instant) : ℚ := instant.nanos / Duration.nanosPerSecond

/-- The time since an earlier instant, and zero since a later one. -/
def durationSince (now earlier : Instant) : Duration where
  nanos := now.nanos - earlier.nanos
  valid := by
    have hvalid := now.valid
    have hpos : 0 < Duration.nanosPerSecond := by decide
    omega

end Instant

/-! ### The bucket -/

def maxTrackedKeys : ℕ := 10000

structure BucketEntry where
  tokens : ℚ
  updatedAt : Instant

structure TokenBucket where
  capacity : ℚ
  refillPerSecond : ℚ
  staleAfter : Duration

/-- The entries of a bucket, which its lock guards.  Nothing panics while it is
held, so it is never poisoned. -/
abbrev BucketEntries (Digest : Type) := HashMap Digest BucketEntry

namespace TokenBucket

def new (capacity : ℕ) (period : Duration) : TokenBucket where
  capacity := capacity
  refillPerSecond := capacity / period.asSecondsExact
  staleAfter := period.saturatingMul 2

/-- The whole seconds up to a number of them, as an unsigned 64-bit number. -/
def ceilSeconds (seconds : ℚ) : ℕ := min ⌈seconds⌉₊ (2 ^ 64 - 1)

variable (bucket : TokenBucket)

/-- The seconds until an entry with these tokens holds one. -/
def retryAfter (tokens : ℚ) : ℕ := max (ceilSeconds ((1 - tokens) / bucket.refillPerSecond)) 1

/-- The tokens of an entry, refilled. -/
def refilled (entry : BucketEntry) (now : Instant) : ℚ :=
  min (entry.tokens + (now.durationSince entry.updatedAt).asSecondsExact *
    bucket.refillPerSecond) bucket.capacity

variable {Digest : Type} [DecidableEq Digest]

omit [DecidableEq Digest] in
/-- The entries without those that were not asked for long. -/
def forgetStale (now : Instant) (entries : BucketEntries Digest) : BucketEntries Digest :=
  entries.retain fun _ entry =>
    decide ((now.durationSince entry.updatedAt).nanos ≤ bucket.staleAfter.nanos)

/-- The answer to a key with a place in the table: nothing when it is admitted, else
the seconds to wait. -/
def take (digest : Digest) (now : Instant) (entries : BucketEntries Digest) :
    Option ℕ × BucketEntries Digest :=
  let entry := (entries.lookup digest).getD ⟨bucket.capacity, now⟩
  let tokens := bucket.refilled entry now
  if 1 ≤ tokens then (none, entries.insert digest ⟨tokens - 1, now⟩)
  else (some (bucket.retryAfter tokens), entries.insert digest ⟨tokens, now⟩)

/-- The key has no entry and the table no place for one. -/
def isFull (digest : Digest) (now : Instant) (entries : BucketEntries Digest) : Bool :=
  digest ∉ entries && maxTrackedKeys ≤ entries.len &&
    maxTrackedKeys ≤ (bucket.forgetStale now entries).len

def check (digest : Digest) (now : Instant) (entries : BucketEntries Digest) :
    Option ℕ × BucketEntries Digest :=
  if digest ∉ entries ∧ maxTrackedKeys ≤ entries.len then
    let entries := bucket.forgetStale now entries
    if maxTrackedKeys ≤ entries.len then (some (max bucket.staleAfter.asSecs 1), entries)
    else bucket.take digest now entries
  else bucket.take digest now entries

end TokenBucket

end TcoCalculator
