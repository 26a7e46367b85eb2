import CreditExtraction.Time.Instant

/-!
# Retry policy

A stage operation that fails with a transient failure is tried again, up to a number of
attempts, waiting longer after each failure: the base delay doubled for every earlier failed
attempt, capped at the maximum delay (when there is one).

Durations are nanosecond counts of 64 bits, and the doubling wraps around as such counts do;
the cap is checked after every doubling, so a positive cap is reached before a wrap.
-/

namespace CreditExtraction.Pipeline

/-- The bounds of the retries of one stage operation. -/
structure RetryPolicy where
  maxAttempts : Int
  baseDelay : Int
  maxDelay : Int
deriving Repr, Inhabited

namespace RetryPolicy

/-- The policy in use: three attempts, two seconds doubling up to thirty. -/
def default : RetryPolicy := ⟨3, 2000000000, 30000000000⟩

/-- The wait after the failed attempt `n` (counted from one): the base delay doubled `n - 1`
times, capped. After 64 doublings a 64-bit count is zero and stays zero, so at most that many
are done. -/
def delay (p : RetryPolicy) (n : Int) : Int := Id.run do
  if n < 1 || p.baseDelay ≤ 0 then return 0
  let mut d := p.baseDelay
  for _ in [0:min (n - 1).toNat 70] do
    d := Time.wrapNanos (d * 2)
    if p.maxDelay > 0 && d ≥ p.maxDelay then return p.maxDelay
  if p.maxDelay > 0 && d > p.maxDelay then return p.maxDelay
  return d

/-- The number of attempts: at least one. -/
def attempts (p : RetryPolicy) : Nat := if p.maxAttempts < 1 then 1 else p.maxAttempts.toNat

end RetryPolicy

end CreditExtraction.Pipeline
