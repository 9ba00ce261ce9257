import Rotonda.ExternalData.Invariants

namespace Rotonda.ExternalData

variable {s t u : Runtime} {event : Event} {events : List Event}

def Event.sent : Event → Option String
  | .addSource source => some source.id
  | .requested _ sourceId | .ticked sourceId => some sourceId
  | _ => none

def Event.served : Event → Option String
  | .refreshed sourceId => some sourceId
  | _ => none

theorem Step.refreshQueue (step : Step s event t) :
    s.refreshQueue ++ event.sent.toList = event.served.toList ++ t.refreshQueue := by
  cases step with
  | refresh sourceId rest unixSecs head => simp [Event.sent, Event.served, head]
  | _ => simp [Event.sent, Event.served]

private theorem filterMap_cons_toList {f : Event → Option String} :
    (event :: events).filterMap f = (f event).toList ++ events.filterMap f := by
  cases found : f event <;> simp [found]

/-- The refresh channel loses and duplicates no request and serves them in the order sent. -/
theorem Steps.refreshQueue_fifo (run : Steps s events t) :
    s.refreshQueue ++ events.filterMap Event.sent =
      events.filterMap Event.served ++ t.refreshQueue := by
  induction run with
  | refl s => simp
  | @head s t u event events step _ ih =>
    calc s.refreshQueue ++ (event :: events).filterMap Event.sent
        = (s.refreshQueue ++ event.sent.toList) ++ events.filterMap Event.sent := by
          rw [filterMap_cons_toList, List.append_assoc]
      _ = event.served.toList ++ (t.refreshQueue ++ events.filterMap Event.sent) := by
          rw [step.refreshQueue, List.append_assoc]
      _ = (event :: events).filterMap Event.served ++ u.refreshQueue := by
          rw [ih, filterMap_cons_toList, List.append_assoc]

theorem Steps.refreshQueue_fifo_interleaved :
    let events : List Event :=
      [.addSource { id := "s1" }, .missed 0 "s2", .requested 0 "s2", .refreshed "s1"]
    ∃ t, Steps (Runtime.new 0) events t ∧
      (Runtime.new 0).refreshQueue ++ events.filterMap Event.sent =
        events.filterMap Event.served ++ t.refreshQueue :=
  have run : Steps (Runtime.new 0)
      [.addSource { id := "s1" }, .missed 0 "s2", .requested 0 "s2", .refreshed "s1"] _ :=
    .head (.addSource _ fun _ => rfl) (.head (.miss 0 "s2" rfl rfl)
      (.head (.request 0 "s2" (by simp)) (.single (.refresh "s1" ["s2"] 0 rfl))))
  ⟨_, run, Steps.refreshQueue_fifo run⟩

theorem Step.unrequested {sourceId : String} (step : Step s event t)
    (absent : s.cache.lookup sourceId = none) (unqueued : sourceId ∉ s.refreshQueue)
    (unsent : event.sent ≠ some sourceId) :
    t.cache.lookup sourceId = none ∧ sourceId ∉ t.refreshQueue := by
  have queue := step.refreshQueue
  have never : sourceId ∉ s.refreshQueue ++ event.sent.toList := by
    simp only [List.mem_append, Option.mem_toList, not_or]
    exact ⟨unqueued, unsent⟩
  rw [queue] at never
  refine ⟨step.lookup_eq_none absent ?_, fun mem => never (List.mem_append_right _ mem)⟩
  rintro rfl
  exact never (List.mem_append_left _ (by simp [Event.served]))

/-- The cache gains an entry for an id only through a request for it. -/
theorem Steps.lookup_eq_none_while_unsent {sourceId : String}
    (absent : s.cache.lookup sourceId = none) (unqueued : sourceId ∉ s.refreshQueue)
    (run : Steps s events t) (unsent : ∀ event ∈ events, event.sent ≠ some sourceId) :
    t.cache.lookup sourceId = none ∧
      ∀ caller entry, Event.returned caller sourceId entry ∈ events → entry = none := by
  induction run with
  | refl => exact ⟨absent, by simp⟩
  | head step _ ih =>
    obtain ⟨next, nextUnqueued⟩ :=
      step.unrequested absent unqueued (unsent _ (List.mem_cons_self _ _))
    obtain ⟨final, returns⟩ :=
      ih next nextUnqueued fun event mem => unsent event (List.mem_cons_of_mem _ mem)
    refine ⟨final, fun caller entry mem => ?_⟩
    rcases List.mem_cons.mp mem with rfl | mem
    · rw [step.returned_lookup, absent]
    · exact returns caller entry mem

theorem Steps.lookup_eq_none_while_unsent_other :
    let events : List Event := [.addSource { id := "s2" }, .refreshed "s2", .missed 0 "s1"]
    ∃ t, (Runtime.new 0).cache.lookup "s1" = none ∧ "s1" ∉ (Runtime.new 0).refreshQueue ∧
      Steps (Runtime.new 0) events t ∧ (∀ event ∈ events, event.sent ≠ some "s1") ∧
      t.cache.lookup "s1" = none ∧
      ∀ caller entry, Event.returned caller "s1" entry ∈ events → entry = none :=
  have run : Steps (Runtime.new 0) [.addSource { id := "s2" }, .refreshed "s2", .missed 0 "s1"] _ :=
    .head (.addSource _ fun _ => rfl) (.head (.refresh "s2" [] 0 rfl) (.single (.miss 0 "s1" rfl rfl)))
  have unsent : ∀ event ∈ [Event.addSource { id := "s2" }, .refreshed "s2", .missed 0 "s1"],
      event.sent ≠ some "s1" := by decide
  ⟨_, rfl, List.not_mem_nil _, run, unsent,
    Steps.lookup_eq_none_while_unsent (by rfl) (List.not_mem_nil _) run unsent⟩

theorem Steps.lookup_untouched {sourceId : String} (run : Steps s events t)
    (unrefreshed : Event.refreshed sourceId ∉ events)
    (kept : Event.removeSource sourceId ∉ events) :
    t.cache.lookup sourceId = s.cache.lookup sourceId := by
  induction run with
  | refl => rfl
  | head step _ ih =>
    rw [ih (fun mem => unrefreshed (List.mem_cons_of_mem _ mem))
      (fun mem => kept (List.mem_cons_of_mem _ mem))]
    rcases step.lookup sourceId with same | ⟨rfl, -⟩ | ⟨_, rfl, -⟩
    · exact same
    · simp at kept
    · simp at unrefreshed

private theorem drain (unixSecs : Nat) :
    ∀ (queue : List String) (s : Runtime), s.refreshQueue = queue →
      ∃ t, Steps s (queue.map .refreshed) t ∧ t.refreshQueue = [] ∧ t.sources = s.sources ∧
        ∀ sourceId ∈ queue, t.cache.lookup sourceId = some (refreshEntry sourceId unixSecs s.now)
  | [], s, empty => ⟨s, .refl s, empty, rfl, by simp⟩
  | sourceId :: rest, s, head => by
    obtain ⟨t, run, empty, sources, written⟩ :=
      drain unixSecs rest (s.refresh sourceId rest unixSecs) rfl
    refine ⟨t, .head (.refresh sourceId rest unixSecs head) run, empty, sources, fun key mem => ?_⟩
    by_cases later : key ∈ rest
    · exact written key later
    · have : key = sourceId := (List.mem_cons.mp mem).resolve_right later
      subst this
      rw [run.lookup_untouched (by simpa using later) (by simp)]
      exact AList.lookup_insert _

/-- `refresh_task` alone can drain the channel, writing every requested entry. -/
theorem Runtime.refresh_drains_refreshQueue (s : Runtime) (unixSecs : Nat) :
    ∃ t, Steps s (s.refreshQueue.map .refreshed) t ∧ t.refreshQueue = [] ∧
      ∀ sourceId ∈ s.refreshQueue,
        t.cache.lookup sourceId = some (refreshEntry sourceId unixSecs s.now) :=
  let ⟨t, run, empty, _, written⟩ := drain unixSecs s.refreshQueue s rfl
  ⟨t, run, empty, written⟩

/-- `remove_source` does not stop a ticker, whose next tick puts the entry back. -/
theorem Runtime.tick_outlives_removeSource {i : Nat} {ticker : Ticker} (idle : s.Idle)
    (found : s.tickers[i]? = some ticker) (unixSecs : Nat) :
    ∃ t, Steps s (.removeSource ticker.sourceId :: .advanced (ticker.nextTick - s.now) ::
        .ticked ticker.sourceId :: (s.refreshQueue ++ [ticker.sourceId]).map .refreshed) t ∧
      t.sources.lookup ticker.sourceId = none ∧ (t.cache.lookup ticker.sourceId).isSome := by
  obtain ⟨t, run, -, sources, written⟩ := drain unixSecs (s.refreshQueue ++ [ticker.sourceId])
    (((s.removeSource ticker.sourceId).advance (ticker.nextTick - s.now)).tick i ticker) rfl
  have due : ticker.nextTick ≤ s.now + (ticker.nextTick - s.now) := by omega
  refine ⟨t, .head (.removeSource _ idle) (.head (.advance _) (.head (.tick i ticker found due)
    run)), by rw [sources]; exact AList.lookup_erase _ _, ?_⟩
  rw [written _ (List.mem_append_right _ (List.mem_singleton_self _))]
  rfl

theorem Runtime.tick_outlives_removeSource_started :
    let s := Runtime.afterRefresh.startAutoRefresh
    s.Idle ∧ s.tickers[0]? = some ⟨"s1", fromSecs 300, 0⟩ ∧
      ∃ t, Steps s (.removeSource "s1" :: .advanced (0 - s.now) :: .ticked "s1" ::
          (s.refreshQueue ++ ["s1"]).map .refreshed) t ∧
        t.sources.lookup "s1" = none ∧ (t.cache.lookup "s1").isSome :=
  have found :
      Runtime.afterRefresh.startAutoRefresh.tickers[0]? =
        some ⟨"s1", fromSecs 300, 0⟩ := rfl
  ⟨fun _ => rfl, found, Runtime.tick_outlives_removeSource (fun _ => rfl) found 0⟩

theorem Step.ticker_sources {ids : List String} (step : Step s event t)
    (noStart : event ≠ .startAutoRefresh)
    (within : ∀ ticker ∈ s.tickers, ticker.sourceId ∈ ids) :
    (∀ ticker ∈ t.tickers, ticker.sourceId ∈ ids) ∧
      ∀ sourceId, event = .ticked sourceId → sourceId ∈ ids := by
  cases step with
  | startAutoRefresh => exact absurd rfl noStart
  | tick i ticker found =>
    have ticking := within _ (List.getElem?_mem found)
    refine ⟨fun other mem => ?_, fun _ sent => Event.ticked.inj sent ▸ ticking⟩
    rcases List.mem_or_eq_of_mem_set mem with old | rfl
    · exact within _ old
    · exact ticking
  | _ => exact ⟨within, fun _ sent => nomatch sent⟩

theorem Steps.ticker_sources {ids : List String} (run : Steps s events t)
    (noStart : Event.startAutoRefresh ∉ events)
    (within : ∀ ticker ∈ s.tickers, ticker.sourceId ∈ ids) :
    (∀ ticker ∈ t.tickers, ticker.sourceId ∈ ids) ∧
      ∀ sourceId, Event.ticked sourceId ∈ events → sourceId ∈ ids := by
  induction run with
  | refl => exact ⟨within, fun _ ticked => absurd ticked (List.not_mem_nil _)⟩
  | head step _ ih =>
    obtain ⟨within, first⟩ :=
      step.ticker_sources (fun start => noStart (start ▸ List.mem_cons_self _ _)) within
    obtain ⟨last, later⟩ := ih (fun start => noStart (List.mem_cons_of_mem _ start)) within
    refine ⟨last, fun sourceId ticked => ?_⟩
    rcases List.mem_cons.mp ticked with head | tail
    · exact first sourceId head.symm
    · exact later sourceId tail

/-- Without another `start_auto_refresh`, a source that had no ticker is never ticked. -/
theorem startAutoRefresh_snapshot {sourceId : String} (run : Steps s events t)
    (noStart : Event.startAutoRefresh ∉ events)
    (untracked : ∀ ticker ∈ s.tickers, ticker.sourceId ≠ sourceId) :
    Event.ticked sourceId ∉ events := fun ticked => by
  obtain ⟨-, ticks⟩ := run.ticker_sources noStart fun ticker mem => List.mem_map_of_mem _ mem
  obtain ⟨ticker, mem, same⟩ := List.mem_map.mp (ticks sourceId ticked)
  exact untracked ticker mem same

theorem startAutoRefresh_snapshot_added_later :
    let s := ((Runtime.new 0).addSource { id := "s1" }).startAutoRefresh
    let events : List Event :=
      [.addSource { id := "s2" }, .advanced (fromSecs 600), .ticked "s1", .ticked "s1"]
    ∃ t, Steps s events t ∧ Event.startAutoRefresh ∉ events ∧
      (∀ ticker ∈ s.tickers, ticker.sourceId ≠ "s2") ∧ Event.ticked "s2" ∉ events := by
  have run : Steps ((Runtime.new 0).addSource { id := "s1" }).startAutoRefresh
      [.addSource { id := "s2" }, .advanced (fromSecs 600), .ticked "s1", .ticked "s1"] _ :=
    .head (.addSource _ fun _ => rfl) (.head (.advance _)
      (.head (.tick 0 ⟨"s1", fromSecs 300, 0⟩ rfl (Nat.zero_le _))
        (.single (.tick 0 ⟨"s1", fromSecs 300, fromSecs 300⟩ rfl (by decide)))))
  have noStart : Event.startAutoRefresh ∉ ([.addSource { id := "s2" }, .advanced (fromSecs 600),
      .ticked "s1", .ticked "s1"] : List Event) := by simp
  have untracked :
      ∀ ticker ∈ ((Runtime.new 0).addSource { id := "s1" }).startAutoRefresh.tickers,
        ticker.sourceId ≠ "s2" := by decide
  exact ⟨_, run, noStart, untracked, startAutoRefresh_snapshot run noStart untracked⟩

end Rotonda.ExternalData
