import Rotonda.ExternalData.Manager

namespace Rotonda.ExternalData

variable {s t u : Runtime} {event : Event} {events : List Event}

namespace Step

theorem lookup (step : Step s event t) (key : String) :
    t.cache.lookup key = s.cache.lookup key ∨
      (event = .removeSource key ∧ t.cache.lookup key = none) ∨
      ∃ unixSecs, event = .refreshed key ∧
        t.cache.lookup key = some (refreshEntry key unixSecs s.now) := by
  cases step with
  | removeSource sourceId =>
    by_cases same : key = sourceId
    · subst same
      exact .inr (.inl ⟨rfl, AList.lookup_erase _ _⟩)
    · exact .inl (AList.lookup_erase_ne same)
  | refresh sourceId rest unixSecs =>
    by_cases same : key = sourceId
    · subst same
      exact .inr (.inr ⟨unixSecs, rfl, AList.lookup_insert _⟩)
    · exact .inl (AList.lookup_insert_ne same)
  | _ => exact .inl rfl

theorem now_le (step : Step s event t) : s.now ≤ t.now := by
  cases step <;> simp

theorem returned_lookup {caller : Nat} {sourceId : String} {entry : Option CachedData}
    (step : Step s (.returned caller sourceId entry) t) : entry = s.cache.lookup sourceId := by
  cases step with
  | hit _ _ cached _ fresh => exact (Runtime.freshEntry_eq_some.mp fresh).1.symm
  | reread => rfl

theorem lookup_eq_none {sourceId : String} (step : Step s event t)
    (absent : s.cache.lookup sourceId = none) (unrefreshed : event ≠ .refreshed sourceId) :
    t.cache.lookup sourceId = none := by
  rcases step.lookup sourceId with same | ⟨-, gone⟩ | ⟨_, refreshed, -⟩
  · rwa [same]
  · exact gone
  · exact absurd refreshed unrefreshed

end Step

def Runtime.Stamped (s : Runtime) : Prop :=
  ∀ key cached, s.cache.lookup key = some cached →
    cached.fetchedAt ≤ s.now ∧ cached.ttl = fromSecs 300

theorem Step.stamped (step : Step s event t) (stamped : s.Stamped) : t.Stamped := by
  intro key cached found
  have later := step.now_le
  rcases step.lookup key with same | ⟨-, gone⟩ | ⟨unixSecs, -, written⟩
  · obtain ⟨fetched, ttl⟩ := stamped key cached (same ▸ found)
    exact ⟨fetched.trans later, ttl⟩
  · simp [gone] at found
  · rw [written, Option.some.injEq] at found
    subst found
    exact ⟨later, rfl⟩

theorem reachable_stamped (reachable : Reachable s) : s.Stamped := by
  induction reachable with
  | new now => intro key cached found; cases found
  | step _ step ih => exact step.stamped ih

/-- A fresh hit was fetched within the last 300 seconds, whatever the source configures. -/
theorem Runtime.freshEntry_within_fixed_ttl {sourceId : String} {cached : CachedData}
    (reachable : Reachable s) (fresh : s.freshEntry sourceId = some cached) :
    cached.fetchedAt ≤ s.now ∧ s.now - cached.fetchedAt ≤ fromSecs 300 := by
  obtain ⟨found, unexpired⟩ := Runtime.freshEntry_eq_some.mp fresh
  obtain ⟨fetched, ttl⟩ := reachable_stamped reachable sourceId cached found
  have within := CachedData.isExpired_eq_false.mp unexpired
  exact ⟨fetched, by omega⟩

theorem Runtime.freshEntry_within_fixed_ttl_refreshed :
    Reachable Runtime.afterRefresh ∧
      Runtime.afterRefresh.freshEntry "s1" = some (refreshEntry "s1" 0 0) ∧
      (refreshEntry "s1" 0 0).fetchedAt ≤ Runtime.afterRefresh.now ∧
      Runtime.afterRefresh.now - (refreshEntry "s1" 0 0).fetchedAt ≤ fromSecs 300 :=
  ⟨Runtime.afterRefresh_reachable, Runtime.afterRefresh_freshEntry,
    Runtime.freshEntry_within_fixed_ttl Runtime.afterRefresh_reachable
      Runtime.afterRefresh_freshEntry⟩

def Runtime.Keyed (s : Runtime) : Prop :=
  ∀ key cached, s.cache.lookup key = some cached →
    ∃ unixSecs, cached = refreshEntry key unixSecs cached.fetchedAt

theorem Step.keyed (step : Step s event t) (keyed : s.Keyed) : t.Keyed := by
  intro key cached found
  rcases step.lookup key with same | ⟨-, gone⟩ | ⟨unixSecs, -, written⟩
  · exact keyed key cached (same ▸ found)
  · simp [gone] at found
  · rw [written, Option.some.injEq] at found
    exact ⟨unixSecs, found ▸ rfl⟩

theorem reachable_keyed (reachable : Reachable s) : s.Keyed := by
  induction reachable with
  | new now => intro key cached found; cases found
  | step _ step ih => exact step.keyed ih

/-- Whatever `get_data(sourceId)` returns is the placeholder built for `sourceId`. -/
theorem Step.returned_placeholderData {caller : Nat} {sourceId : String}
    {cached : CachedData} (reachable : Reachable s)
    (step : Step s (.returned caller sourceId (some cached)) t) :
    ∃ unixSecs, cached.value = placeholderData sourceId unixSecs ∧ cached.ttl = fromSecs 300 := by
  obtain ⟨unixSecs, written⟩ :=
    reachable_keyed reachable sourceId cached step.returned_lookup.symm
  exact ⟨unixSecs, by rw [written]; rfl, by rw [written]; rfl⟩

theorem reread_after_refresh :
    ∃ s t, Reachable s ∧ Step s (.returned 0 "s1" (some (refreshEntry "s1" 7 0))) t := by
  have run : Steps (Runtime.new 0) ([.addSource { id := "s1" }, .missed 0 "s1",
      .requested 0 "s1", .refreshed "s1"] ++ [.returned 0 "s1" (some (refreshEntry "s1" 7 0))]) _ :=
    .head (.addSource _ fun _ => rfl) (.head (.miss 0 "s1" rfl rfl) (.head (.request 0 "s1"
      (by simp)) (.head (.refresh "s1" ["s1"] 7 rfl) (.single (.reread 0 "s1" (by simp))))))
  obtain ⟨s, before, after⟩ := Steps.append_iff.mp run
  exact ⟨s, _, before.reachable (.new 0), Steps.single_iff.mp after⟩

theorem Step.returned_placeholderData_reread :
    ∃ s t, Reachable s ∧ Step s (.returned 0 "s1" (some (refreshEntry "s1" 7 0))) t ∧
      ∃ unixSecs, (refreshEntry "s1" 7 0).value = placeholderData "s1" unixSecs ∧
        (refreshEntry "s1" 7 0).ttl = fromSecs 300 :=
  let ⟨s, t, reachable, step⟩ := reread_after_refresh
  ⟨s, t, reachable, step, Step.returned_placeholderData reachable step⟩

/-- A source configured for 600 seconds gets an entry that has expired at age 400. -/
theorem refreshEntry_ignores_cacheTtlSecs :
    ∃ s, Steps (Runtime.new 0) [.addSource { id := "s1" }, .refreshed "s1",
        .advanced (fromSecs 400)] s ∧
      s.sources.lookup "s1" = some { id := "s1" } ∧
      (∃ cached, s.cache.lookup "s1" = some cached ∧
        cached.ttl ≠ fromSecs ExternalDataSource.defaultCacheTtl ∧
        s.now - cached.fetchedAt ≤ fromSecs ExternalDataSource.defaultCacheTtl) ∧
      ∃ t, Steps s [.missed 0 "s1", .requested 0 "s1"] t ∧ t.refreshQueue = ["s1"] := by
  refine ⟨_, .head (.addSource _ fun _ => rfl) (.head (.refresh "s1" [] 0 rfl)
    (.single (.advance _))), rfl, ⟨_, rfl, by decide, by decide⟩, _,
    .head (.miss 0 "s1" rfl ?_) (.single (.request 0 "s1" (by simp))), rfl⟩
  exact Runtime.freshEntry_eq_none.mpr fun cached found => by
    simp only [Runtime.advance_cache, Runtime.refresh_cache, AList.lookup_insert,
      Option.some.injEq] at found
    subst found
    decide

/-- A removed source, and one never registered, get cache entries that `get_data` serves. -/
theorem Runtime.cache_outlives_sources :
    ¬ (∀ s, Reachable s → ∀ key, key ∈ s.cache → key ∈ s.sources) ∧
    (∃ s, Steps (Runtime.new 0) [.addSource { id := "s1" }, .removeSource "s1",
        .refreshed "s1", .returned 0 "s1" (some (refreshEntry "s1" 0 0))] s) ∧
    ∃ s, Steps (Runtime.new 0) [.missed 0 "s1", .requested 0 "s1", .returned 0 "s1" none,
        .refreshed "s1", .returned 0 "s1" (some (refreshEntry "s1" 0 0))] s := by
  have removed : Steps (Runtime.new 0) [.addSource { id := "s1" }, .removeSource "s1",
      .refreshed "s1"] ((((Runtime.new 0).addSource { id := "s1" }).removeSource "s1").refresh
        "s1" [] 0) :=
    .head (.addSource _ fun _ => rfl) (.head (.removeSource _ fun _ => rfl)
      (.single (.refresh "s1" [] 0 rfl)))
  refine ⟨fun invariant => ?_, ⟨_, Steps.append_iff.mpr ⟨_, removed,
    .single (.hit 0 "s1" _ rfl (Runtime.freshEntry_eq_some.mpr ⟨rfl, by decide⟩))⟩⟩, _,
    .head (.miss 0 "s1" rfl rfl) (.head (.request 0 "s1" rfl) (.head (.reread 0 "s1" rfl)
      (.head (.refresh "s1" [] 0 rfl) (.single (.hit 0 "s1" _ rfl
        (Runtime.freshEntry_eq_some.mpr ⟨rfl, by decide⟩))))))⟩
  have := invariant _ (removed.reachable (.new 0)) "s1" ((AList.mem_insert _).mpr (.inl rfl))
  simp at this

/-- An absent entry stays absent, and `get_data` returns `None`, until a request is served. -/
theorem Steps.lookup_eq_none_until_refreshed {sourceId : String}
    (absent : t.cache.lookup sourceId = none) (run : Steps t events u)
    (unrefreshed : Event.refreshed sourceId ∉ events) :
    u.cache.lookup sourceId = none ∧
      ∀ caller entry, Event.returned caller sourceId entry ∈ events → entry = none := by
  induction run with
  | refl => exact ⟨absent, by simp⟩
  | @head s t u event events step _ ih =>
    have next := step.lookup_eq_none absent fun same =>
      unrefreshed (same ▸ List.mem_cons_self _ _)
    obtain ⟨final, returns⟩ := ih next fun mem => unrefreshed (List.mem_cons_of_mem _ mem)
    refine ⟨final, fun caller entry mem => ?_⟩
    rcases List.mem_cons.mp mem with rfl | mem
    · rw [step.returned_lookup, absent]
    · exact returns caller entry mem

theorem Steps.lookup_eq_none_until_refreshed_after_remove :
    let s := Runtime.afterRefresh.removeSource "s1"
    let events : List Event := [.missed 0 "s1", .requested 0 "s1", .returned 0 "s1" none]
    Runtime.afterRefresh.cache.lookup "s1" = some (refreshEntry "s1" 0 0) ∧
      s.cache.lookup "s1" = none ∧ ∃ u, Steps s events u ∧ Event.refreshed "s1" ∉ events ∧
        u.cache.lookup "s1" = none ∧
        ∀ caller entry, Event.returned caller "s1" entry ∈ events → entry = none := by
  have absent : (Runtime.afterRefresh.removeSource "s1").cache.lookup "s1" = none :=
    AList.lookup_erase _ _
  have run : Steps (Runtime.afterRefresh.removeSource "s1")
      [.missed 0 "s1", .requested 0 "s1", .returned 0 "s1" none] _ :=
    .head (.miss 0 "s1" rfl (by simp [Runtime.freshEntry, absent]))
      (.head (.request 0 "s1" rfl) (.single (.reread 0 "s1" rfl)))
  have unrefreshed : Event.refreshed "s1" ∉
      [Event.missed 0 "s1", .requested 0 "s1", .returned 0 "s1" none] := by simp
  exact ⟨rfl, absent, _, run, unrefreshed,
    Steps.lookup_eq_none_until_refreshed absent run unrefreshed⟩

end Rotonda.ExternalData
