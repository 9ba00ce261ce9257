import Mathlib.Order.Monotone.Basic
import Rotonda.F64

namespace Rotonda.KafkaIn

def RetryConfig.defaultMaxRetries : UInt32 := 5

def RetryConfig.defaultInitialDelayMs : Nat := 1000

def RetryConfig.defaultMaxDelayMs : Nat := 30000

def RetryConfig.defaultBackoffMultiplier : F64 := ⟨0x4000000000000000⟩ -- 2.0

structure RetryConfig where
  maxRetries : UInt32 := RetryConfig.defaultMaxRetries
  initialDelayMs : Nat := RetryConfig.defaultInitialDelayMs
  maxDelayMs : Nat := RetryConfig.defaultMaxDelayMs
  backoffMultiplier : F64 := RetryConfig.defaultBackoffMultiplier

namespace RetryConfig

variable (config : RetryConfig)

-- `min((delay.as_millis() as f64 * backoff_multiplier) as u64, max_delay_ms)`
def nextDelay (delay : Nat) : Nat :=
  min (F64.toU64 (F64.mul (F64.ofNat delay) config.backoffMultiplier.decode)) config.maxDelayMs

-- `1.4` is not exact in `f64`, so 1400 ms steps to 1959 ms.
example : ({ backoffMultiplier := ⟨0x3FF6666666666666⟩ } : RetryConfig).nextDelay 1400 = 1959 := by
  decide

def backoffDelay (n : Nat) : Nat := config.nextDelay^[n] config.initialDelayMs

@[simp] theorem backoffDelay_zero : config.backoffDelay 0 = config.initialDelayMs := rfl

theorem backoffDelay_succ (n : Nat) :
    config.backoffDelay (n + 1) = config.nextDelay (config.backoffDelay n) :=
  Function.iterate_succ_apply' _ _ _

theorem nextDelay_le (delay : Nat) : config.nextDelay delay ≤ config.maxDelayMs :=
  Nat.min_le_right _ _

theorem le_nextDelay {config : RetryConfig}
    (multiplier : config.backoffMultiplier.decode.atLeastOne = true) {delay : Nat}
    (small : delay < 2 ^ 53) (capped : delay ≤ config.maxDelayMs) :
    delay ≤ config.nextDelay delay :=
  Nat.le_min.mpr ⟨F64.le_toU64_mul small multiplier, capped⟩

section Capped

variable {config : RetryConfig} (capped : config.initialDelayMs ≤ config.maxDelayMs)
include capped

theorem backoffDelay_le_max (n : Nat) : config.backoffDelay n ≤ config.maxDelayMs := by
  cases n with
  | zero => exact capped
  | succ n => rw [backoffDelay_succ]; exact config.nextDelay_le _

theorem backoffDelay_monotone (small : config.maxDelayMs < 2 ^ 53)
    (multiplier : config.backoffMultiplier.decode.atLeastOne = true) :
    Monotone config.backoffDelay :=
  monotone_nat_of_le_succ fun n => by
    have bounded := backoffDelay_le_max capped n
    rw [backoffDelay_succ]
    exact le_nextDelay multiplier (by omega) bounded

end Capped

end RetryConfig

end Rotonda.KafkaIn
