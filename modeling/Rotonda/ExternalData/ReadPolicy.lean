import Rotonda.ExternalData.Manager

namespace Rotonda.ExternalData

variable {s t u : Runtime} {event : Event} {events : List Event} {caller : Nat}
  {sourceId : String}

namespace Step

theorem withCallers (step : Step s event t) (background : event.Background)
    (callers : Nat → Caller) :
    t.callers = s.callers ∧ Step { s with callers } event { t with callers } := by
  cases step with
  | refresh sourceId rest unixSecs head => exact ⟨rfl, .refresh sourceId rest unixSecs head⟩
  | tick i ticker found due => exact ⟨rfl, .tick i ticker found due⟩
  | advance nanos => exact ⟨rfl, .advance nanos⟩
  | _ => simp [Event.Background] at background

theorem missed_inv (step : Step s (.missed caller sourceId) t) :
    s.callers caller = .idle ∧ s.freshEntry sourceId = none ∧
      t = s.setCaller caller (.missed sourceId) := by
  cases step with
  | miss _ _ idle stale => exact ⟨idle, stale, rfl⟩

theorem requested_inv (step : Step s (.requested caller sourceId) t) :
    s.callers caller = .missed sourceId ∧
      t = (s.send sourceId).setCaller caller (.sent sourceId) := by
  cases step with
  | request _ _ missed => exact ⟨missed, rfl⟩

theorem returned_inv {entry : Option CachedData} (step : Step s (.returned caller sourceId entry) t) :
    (s.callers caller = .idle ∧ s.freshEntry sourceId = entry ∧ entry.isSome ∧ t = s) ∨
      (s.callers caller = .sent sourceId ∧ entry = s.cache.lookup sourceId ∧
        t = s.setCaller caller .idle) := by
  cases step with
  | hit _ _ cached idle fresh => exact .inl ⟨idle, fresh, rfl, rfl⟩
  | reread _ _ sent => exact .inr ⟨sent, rfl, rfl⟩

end Step

theorem Steps.withCallers (run : Steps s events t) (background : ∀ event ∈ events, event.Background)
    (callers : Nat → Caller) :
    t.callers = s.callers ∧ Steps { s with callers } events { t with callers } := by
  induction run with
  | refl => exact ⟨rfl, .refl _⟩
  | head step _ ih =>
    obtain ⟨same, moved⟩ := step.withCallers (background _ (List.mem_cons_self _ _)) callers
    obtain ⟨kept, rest⟩ := ih fun event mem => background event (List.mem_cons_of_mem _ mem)
    exact ⟨kept.trans same, .head moved rest⟩

private theorem update_restore {callers : Nat → Caller} (idle : callers caller = .idle)
    (first second : Caller) :
    Function.update (Function.update (Function.update callers caller first) caller second)
      caller .idle = callers := by
  rw [Function.update_idem, Function.update_idem, ← idle, Function.update_eq_self]

private theorem missed_call_of {first second : List Event} {entry : Option CachedData}
    (idle : s.callers caller = .idle)
    (run : Steps s (.missed caller sourceId :: (first ++ .requested caller sourceId ::
      (second ++ [.returned caller sourceId entry]))) u)
    (background : ∀ event ∈ first ++ second, event.Background) :
    ∃ t, Steps s first t ∧ Steps (t.send sourceId) second u ∧
      entry = u.cache.lookup sourceId := by
  have early event (mem : event ∈ first) := background event (List.mem_append_left _ mem)
  have late event (mem : event ∈ second) := background event (List.mem_append_right _ mem)
  obtain ⟨_, missed, run⟩ := Steps.cons_iff.mp run
  obtain ⟨-, -, rfl⟩ := missed.missed_inv
  obtain ⟨t, before, run⟩ := Steps.append_iff.mp run
  obtain ⟨_, requested, run⟩ := Steps.cons_iff.mp run
  obtain ⟨sent, rfl⟩ := requested.requested_inv
  obtain ⟨v, after, returned⟩ := Steps.append_iff.mp run
  obtain ⟨keptBefore, before⟩ := before.withCallers early s.callers
  obtain ⟨keptAfter, after⟩ := after.withCallers late s.callers
  rcases (Steps.single_iff.mp returned).returned_inv with ⟨stillIdle, -⟩ | ⟨-, rfl, rfl⟩
  · simp [keptAfter, Function.update_apply] at stillIdle
  · have final : v.setCaller caller .idle = { v with callers := s.callers } := by
      simp only [Runtime.setCaller, keptAfter, Runtime.callers_setCaller, Runtime.callers_send,
        keptBefore, update_restore idle]
    exact ⟨_, before, final ▸ after, rfl⟩

private theorem missed_call {first second : List Event} (idle : s.callers caller = .idle)
    (stale : s.freshEntry sourceId = none) (background : ∀ event ∈ first ++ second, event.Background)
    (before : Steps s first t) (after : Steps (t.send sourceId) second u) :
    Steps s (.missed caller sourceId :: (first ++ .requested caller sourceId ::
      (second ++ [.returned caller sourceId (u.cache.lookup sourceId)]))) u := by
  obtain ⟨keptBefore, before⟩ := before.withCallers
    (fun event mem => background event (List.mem_append_left _ mem))
    (Function.update s.callers caller (.missed sourceId))
  obtain ⟨keptAfter, after⟩ := after.withCallers
    (fun event mem => background event (List.mem_append_right _ mem))
    (Function.update (Function.update s.callers caller (.missed sourceId)) caller
      (.sent sourceId))
  have restored : u.callers = s.callers := by rw [keptAfter, Runtime.callers_send, keptBefore]
  have run := Steps.head (.miss caller sourceId idle stale) (Steps.append_iff.mpr ⟨_, before,
    .head (.request caller sourceId (by simp)) (Steps.append_iff.mpr ⟨_, after,
      .single (.reread caller sourceId (by simp))⟩)⟩)
  convert run using 1
  exact Runtime.ext rfl rfl rfl rfl (restored.trans (update_restore idle _ _).symm) rfl

/-- A fresh hit returns its entry and changes nothing; a miss appends `sourceId` once to the
refresh queue and returns what the cache holds at the second read. -/
theorem Step.returned_read_policy (s : Runtime) (caller : Nat) (sourceId : String)
    (idle : s.callers caller = .idle) :
    (∀ cached, s.cache.lookup sourceId = some cached → cached.isExpired s.now = false →
      (∀ entry t, Step s (.returned caller sourceId entry) t ↔ entry = some cached ∧ t = s) ∧
      ∀ t, ¬ Step s (.missed caller sourceId) t) ∧
    ((∀ cached, s.cache.lookup sourceId = some cached → cached.isExpired s.now = true) →
      (∀ entry t, ¬ Step s (.returned caller sourceId entry) t) ∧
      ∀ first second entry u, (∀ event ∈ first ++ second, event.Background) →
        (Steps s (.missed caller sourceId :: (first ++ .requested caller sourceId ::
            (second ++ [.returned caller sourceId entry]))) u ↔
          ∃ t, Steps s first t ∧
            Steps { t with refreshQueue := t.refreshQueue ++ [sourceId] } second u ∧
            entry = u.cache.lookup sourceId)) := by
  constructor
  · intro cached found unexpired
    have fresh : s.freshEntry sourceId = some cached :=
      Runtime.freshEntry_eq_some.mpr ⟨found, unexpired⟩
    refine ⟨fun entry t => ⟨fun step => ?_, ?_⟩, fun t step => ?_⟩
    · rcases step.returned_inv with ⟨-, found, -, rfl⟩ | ⟨sent, -⟩
      · exact ⟨found.symm.trans fresh, rfl⟩
      · simp [idle] at sent
    · rintro ⟨rfl, rfl⟩
      exact .hit caller sourceId cached idle fresh
    · simp [step.missed_inv.2.1] at fresh
  · intro expired
    have stale : s.freshEntry sourceId = none := Runtime.freshEntry_eq_none.mpr expired
    refine ⟨fun entry t step => ?_, fun first second entry u background => ⟨fun run =>
      missed_call_of idle run background, ?_⟩⟩
    · rcases step.returned_inv with ⟨-, found, some, -⟩ | ⟨sent, -⟩
      · simp [stale, ← found] at some
      · simp [idle] at sent
    · rintro ⟨t, before, after, rfl⟩
      exact missed_call idle stale background before after

theorem Step.returned_read_policy_hit :
    Runtime.afterRefresh.callers 0 = .idle ∧
      Runtime.afterRefresh.cache.lookup "s1" = some (refreshEntry "s1" 0 0) ∧
      (refreshEntry "s1" 0 0).isExpired Runtime.afterRefresh.now = false ∧
      ∀ entry t, Step Runtime.afterRefresh (.returned 0 "s1" entry) t ↔
        entry = some (refreshEntry "s1" 0 0) ∧ t = Runtime.afterRefresh :=
  have found : Runtime.afterRefresh.cache.lookup "s1" = some (refreshEntry "s1" 0 0) := rfl
  have unexpired : (refreshEntry "s1" 0 0).isExpired Runtime.afterRefresh.now = false := by decide
  ⟨rfl, found, unexpired, ((Step.returned_read_policy _ 0 "s1" rfl).1 _ found unexpired).1⟩

end Rotonda.ExternalData
