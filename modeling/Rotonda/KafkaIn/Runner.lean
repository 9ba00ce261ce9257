import Rotonda.KafkaIn.Retry

namespace Rotonda.KafkaIn

-- `retry_count` at each call of `run_consumer`, the delays slept, and whether the loop has ended.
structure ConsumerRun where
  attempts : List UInt32
  sleeps : List Nat
  finished : Bool

-- Fed the outcomes of the `run_consumer` calls in order; when they run out before the loop ends,
-- the task is still waiting on `run_consumer`.
def consumerLoop (config : RetryConfig) :
    UInt32 → Nat → List (Except String Unit) → ConsumerRun
  | _, _, [] => ⟨[], [], false⟩
  | retryCount, _, .ok () :: _ => ⟨[retryCount], [], true⟩
  | retryCount, delay, .error _ :: outcomes =>
    if retryCount ≥ config.maxRetries then ⟨[retryCount], [], true⟩
    else
      let rest := consumerLoop config (retryCount + 1) (config.nextDelay delay) outcomes
      ⟨retryCount :: rest.attempts, delay :: rest.sleeps, rest.finished⟩

def startConsumerTask (config : RetryConfig) (outcomes : List (Except String Unit)) :
    ConsumerRun :=
  consumerLoop config 0 config.initialDelayMs outcomes

-- Over `ticks` ticks of the interval: the messages sent, and `Ok(())` once it stopped after ten.
def runConsumerLoop : Nat → Nat → List Nat × Option (Except String Unit)
  | 0, _ => ([], none)
  | ticks + 1, messageCount =>
    if 10 ≤ messageCount + 1 then ([messageCount + 1], some (.ok ()))
    else
      let rest := runConsumerLoop ticks (messageCount + 1)
      ((messageCount + 1) :: rest.1, rest.2)

def runConsumer (ticks : Nat) : List Nat × Option (Except String Unit) := runConsumerLoop ticks 0

theorem runConsumerLoop_eq (ticks : Nat) :
    ∀ messageCount < 10, runConsumerLoop ticks messageCount =
      (List.range' (messageCount + 1) (min ticks (10 - messageCount)),
        if 10 - messageCount ≤ ticks then some (.ok ()) else none) := by
  induction ticks with
  | zero => intro messageCount below; simp [runConsumerLoop, show 10 - messageCount ≠ 0 by omega]
  | succ ticks ih =>
    intro messageCount below
    simp only [runConsumerLoop]
    split
    · have last : messageCount = 9 := by omega
      subst last
      simp
    · rw [ih (messageCount + 1) (by omega)]
      simp only [Prod.mk.injEq]
      refine ⟨?_, by congr 1; exact propext (by omega)⟩
      rw [show min (ticks + 1) (10 - messageCount) = min ticks (10 - (messageCount + 1)) + 1 by
        omega, List.range'_succ]

theorem runConsumer_eq (ticks : Nat) :
    runConsumer ticks =
      (List.range' 1 (min ticks 10), if 10 ≤ ticks then some (.ok ()) else none) :=
  runConsumerLoop_eq ticks 0 (by decide)

structure Terminated

inductive GateStatus where
  | reconfiguring
  | reportLinks
  | other

-- The branch `tokio::select!` completes; the task's handle is ready only once the task finished.
inductive Selected where
  | gate (status : Except Terminated GateStatus)
  | consumerTask

def runLoop : List Selected → Option (Except Terminated Unit)
  | [] => none
  | .gate (.ok _) :: selections => runLoop selections
  | .gate (.error terminated) :: _ => some (.error terminated)
  | .consumerTask :: _ => some (.error ⟨⟩)

def run (ready : Except Terminated Unit) (selections : List Selected) :
    Option (Except Terminated Unit) :=
  match ready with
  | .error terminated => some (.error terminated)
  | .ok () => runLoop selections

private theorem toNat_add_one {retryCount bound : UInt32} (below : retryCount < bound) :
    (retryCount + 1).toNat = retryCount.toNat + 1 := by
  have lt : retryCount.toNat < bound.toNat := below
  have size : bound.toNat < 2 ^ 32 := bound.toNat_lt_size
  show (retryCount.toBitVec + (1 : UInt32).toBitVec).toNat = _
  rw [BitVec.toNat_add]
  exact Nat.mod_eq_of_lt (show retryCount.toNat + 1 < 2 ^ 32 by omega)

@[simp] private theorem isOk_ok : (Except.ok () : Except String Unit).isOk = true := rfl

@[simp] private theorem isOk_error (e : String) : (Except.error e : Except String Unit).isOk = false :=
  rfl

theorem consumerLoop_counts (config : RetryConfig) :
    ∀ (outcomes : List (Except String Unit)) (retryCount : UInt32) (delay : Nat),
      retryCount ≤ config.maxRetries →
      let calls := min (outcomes.findIdx Except.isOk + 1)
        (config.maxRetries.toNat - retryCount.toNat + 1)
      (consumerLoop config retryCount delay outcomes).attempts.map UInt32.toNat =
          List.range' retryCount.toNat (min calls outcomes.length) ∧
        (consumerLoop config retryCount delay outcomes).sleeps.length =
          min (outcomes.findIdx Except.isOk) (config.maxRetries.toNat - retryCount.toNat) ∧
        ((consumerLoop config retryCount delay outcomes).finished = true ↔
          calls ≤ outcomes.length)
  | [], _, _, _ => by simp [consumerLoop]
  | .ok () :: outcomes, retryCount, _, _ => by simp [consumerLoop, List.findIdx_cons]
  | .error e :: outcomes, retryCount, delay, within => by
    have budget : retryCount.toNat ≤ config.maxRetries.toNat := within
    simp only [consumerLoop, List.findIdx_cons, isOk_error, cond_false, List.length_cons]
    split
    · next exhausted =>
      have : config.maxRetries.toNat ≤ retryCount.toNat := exhausted
      refine ⟨?_, show 0 = _ by omega, iff_of_true rfl (by omega)⟩
      convert (List.range'_succ retryCount.toNat 0 1).symm using 2
      omega
    · next retried =>
      have below : retryCount < config.maxRetries := UInt32.not_le.mp retried
      have lt : retryCount.toNat < config.maxRetries.toNat := below
      have step := toNat_add_one below
      obtain ⟨attempts, sleeps, finished⟩ := consumerLoop_counts config outcomes
        (retryCount + 1) (config.nextDelay delay)
        (show (retryCount + 1).toNat ≤ config.maxRetries.toNat by omega)
      rw [step] at attempts sleeps finished
      refine ⟨?_, by rw [List.length_cons, sleeps]; omega, by rw [finished]; omega⟩
      rw [List.map_cons, attempts]
      convert (List.range'_succ retryCount.toNat _ 1).symm using 2
      omega

theorem consumerLoop_sleeps (config : RetryConfig) :
    ∀ (outcomes : List (Except String Unit)) (retryCount : UInt32) (delay : Nat),
      (consumerLoop config retryCount delay outcomes).sleeps =
        (List.range (consumerLoop config retryCount delay outcomes).sleeps.length).map
          fun n => config.nextDelay^[n] delay
  | [], _, _ => rfl
  | .ok () :: _, _, _ => rfl
  | .error _ :: outcomes, retryCount, delay => by
    simp only [consumerLoop]
    split
    · rfl
    · simp only [List.length_cons, List.range_succ_eq_map, List.map_cons, List.map_map]
      rw [consumerLoop_sleeps config outcomes]
      simp only [List.length_map, List.length_range, Function.iterate_zero_apply]
      congr 1

theorem startConsumerTask_counts (config : RetryConfig) (outcomes : List (Except String Unit)) :
    let task := startConsumerTask config outcomes
    let calls := min (outcomes.findIdx Except.isOk + 1) (config.maxRetries.toNat + 1)
    task.attempts.map UInt32.toNat = List.range (min calls outcomes.length) ∧
      task.sleeps = (List.range (min (outcomes.findIdx Except.isOk) config.maxRetries.toNat)).map
        config.backoffDelay ∧
      (task.finished = true ↔ calls ≤ outcomes.length) := by
  obtain ⟨attempts, sleeps, finished⟩ := consumerLoop_counts config outcomes 0
    config.initialDelayMs (Nat.zero_le _)
  simp only [UInt32.toNat_zero, Nat.sub_zero] at attempts sleeps finished
  refine ⟨by rw [List.range_eq_range']; exact attempts, ?_, finished⟩
  rw [startConsumerTask, consumerLoop_sleeps, sleeps]
  rfl

theorem runLoop_returns_terminated {selections : List Selected}
    {result : Except Terminated Unit} (returned : runLoop selections = some result) :
    result = .error ⟨⟩ := by
  induction selections using runLoop.induct with
  | case1 => nomatch returned
  | case2 _ _ ih => exact ih returned
  | case3 | case4 => exact (Option.some.inj returned).symm

theorem runLoop_of_consumerTask {selections : List Selected}
    (selected : Selected.consumerTask ∈ selections) : runLoop selections = some (.error ⟨⟩) := by
  induction selections using runLoop.induct with
  | case1 => nomatch selected
  | case2 _ _ ih => exact ih (List.mem_of_ne_of_mem Selected.noConfusion selected)
  | case3 | case4 => rfl

/-- The task calls `run_consumer` up to the first `Ok` and at most `max_retries + 1` times, and
`run` returns `Err(Terminated)` on every exit. -/
theorem startConsumerTask_stops (config : RetryConfig) (outcomes : List (Except String Unit)) :
    let task := startConsumerTask config outcomes
    let calls := min (outcomes.findIdx Except.isOk + 1) (config.maxRetries.toNat + 1)
    task.attempts.map UInt32.toNat = List.range (min calls outcomes.length) ∧
      (task.finished = true ↔ calls ≤ outcomes.length) ∧
      task.attempts.length ≤ config.maxRetries.toNat + 1 ∧
      (∀ attempt ∈ task.attempts, attempt ≤ config.maxRetries) ∧
      ((∀ outcome ∈ outcomes, outcome.isOk = false) →
        config.maxRetries.toNat + 1 ≤ outcomes.length →
        task.attempts.length = config.maxRetries.toNat + 1 ∧ task.finished = true) ∧
      (∀ selections, Selected.consumerTask ∈ selections → runLoop selections = some (.error ⟨⟩)) ∧
      (∀ ready selections result, run ready selections = some result → result = .error ⟨⟩) ∧
      ∀ selections, run (.ok ()) selections = runLoop selections := by
  intro task calls
  obtain ⟨attempts, -, finished⟩ := startConsumerTask_counts config outcomes
  have length : task.attempts.length = min calls outcomes.length := by
    rw [← List.length_map task.attempts UInt32.toNat, attempts, List.length_range]
  refine ⟨attempts, finished, by omega, fun attempt mem => ?_, fun failed enough => ?_,
    fun _ selected => runLoop_of_consumerTask selected, fun ready selections result returned => ?_,
    fun _ => rfl⟩
  · have within : attempt.toNat < min calls outcomes.length :=
      List.mem_range.mp (attempts ▸ List.mem_map_of_mem _ mem)
    show attempt.toNat ≤ config.maxRetries.toNat
    omega
  · have none : outcomes.findIdx Except.isOk = outcomes.length := List.findIdx_eq_length.mpr failed
    exact ⟨by omega, finished.mpr (by omega)⟩
  · cases ready with
    | error _ => exact (Option.some.inj returned).symm
    | ok _ => exact runLoop_returns_terminated returned

theorem startConsumerTask_stops_exhausted :
    let task := startConsumerTask { maxRetries := 3 }
      (List.replicate 5 (.error "refused" : Except String Unit))
    task.attempts.length = 4 ∧ task.finished = true :=
  (startConsumerTask_stops _ _).2.2.2.2.1 (by simp) (by decide)

/-- The sleep before retry `n + 1` is `n` backoff steps from `initial_delay_ms`; from a capped
start the sleeps stay capped and, with a multiplier of at least one, never decrease. -/
theorem startConsumerTask_sleeps_backoff (config : RetryConfig)
    (outcomes : List (Except String Unit)) :
    let sleeps := (startConsumerTask config outcomes).sleeps
    sleeps = (List.range (min (outcomes.findIdx Except.isOk) config.maxRetries.toNat)).map
        config.backoffDelay ∧
      (config.initialDelayMs ≤ config.maxDelayMs → ∀ delay ∈ sleeps, delay ≤ config.maxDelayMs) ∧
      (config.initialDelayMs ≤ config.maxDelayMs → config.maxDelayMs < 2 ^ 53 →
        config.backoffMultiplier.decode.atLeastOne = true → sleeps.Pairwise (· ≤ ·)) := by
  intro sleeps
  have backoff : sleeps = _ := (startConsumerTask_counts config outcomes).2.1
  refine ⟨backoff, fun capped delay mem => ?_, fun capped small multiplier => ?_⟩
  · obtain ⟨n, -, rfl⟩ := List.mem_map.mp (backoff ▸ mem)
    exact RetryConfig.backoffDelay_le_max capped n
  · rw [backoff, List.pairwise_map]
    exact (List.pairwise_le_range _).imp fun later =>
      RetryConfig.backoffDelay_monotone capped small multiplier later

theorem startConsumerTask_sleeps_backoff_default :
    let config : RetryConfig := {}
    let outcomes := List.replicate 6 (.error "refused" : Except String Unit)
    config.initialDelayMs ≤ config.maxDelayMs ∧ config.maxDelayMs < 2 ^ 53 ∧
      config.backoffMultiplier.decode.atLeastOne = true ∧
      let sleeps := (startConsumerTask config outcomes).sleeps
      sleeps = (List.range (min (outcomes.findIdx Except.isOk) config.maxRetries.toNat)).map
          config.backoffDelay ∧
        (config.initialDelayMs ≤ config.maxDelayMs →
          ∀ delay ∈ sleeps, delay ≤ config.maxDelayMs) ∧
        (config.initialDelayMs ≤ config.maxDelayMs → config.maxDelayMs < 2 ^ 53 →
          config.backoffMultiplier.decode.atLeastOne = true → sleeps.Pairwise (· ≤ ·)) :=
  ⟨by decide, by decide, by decide, startConsumerTask_sleeps_backoff _ _⟩

/-- An `initial_delay_ms` above `max_delay_ms` is slept uncapped, and each step truncates: from
1 ms at `1.5` every sleep is 1 ms, where `min(floor(1 * 1.5 ^ 2), 100) = 2`. -/
theorem startConsumerTask_sleeps_uncapped :
    (startConsumerTask { maxRetries := 2, initialDelayMs := 2000, maxDelayMs := 1000 }
        [.error "refused", .error "refused", .error "refused"]).sleeps = [2000, 1000] ∧
      (startConsumerTask
          { maxRetries := 3, initialDelayMs := 1, maxDelayMs := 100,
            backoffMultiplier := ⟨0x3FF8000000000000⟩ }
        [.error "refused", .error "refused", .error "refused"]).sleeps = [1, 1, 1] ∧
      (⟨0x3FF8000000000000⟩ : F64).decode = .finite false (3 * 2 ^ 51) (-52) ∧
      min (1 * 3 ^ 2 / 2 ^ 2) 100 = 2 := by
  decide

end Rotonda.KafkaIn
