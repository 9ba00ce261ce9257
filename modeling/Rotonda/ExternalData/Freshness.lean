import Rotonda.ExternalData.Invariants

namespace Rotonda.ExternalData

variable {s t u : Runtime} {event : Event} {events : List Event} {sourceId : String}

def Runtime.Fresher (s t : Runtime) : Prop :=
  s.now ≤ t.now ∧ ∀ key cached, t.cache.lookup key = some cached →
    s.cache.lookup key = some cached ∨ s.now ≤ cached.fetchedAt

theorem Runtime.Fresher.refl (s : Runtime) : s.Fresher s :=
  ⟨le_rfl, fun _ _ found => .inl found⟩

theorem Runtime.Fresher.trans (first : s.Fresher t) (second : t.Fresher u) : s.Fresher u := by
  refine ⟨first.1.trans second.1, fun key cached found => ?_⟩
  rcases second.2 key cached found with held | fetched
  · exact first.2 key cached held
  · exact .inr (first.1.trans fetched)

theorem Step.fresher (step : Step s event t) : s.Fresher t := by
  refine ⟨step.now_le, fun key cached found => ?_⟩
  rcases step.lookup key with same | ⟨-, gone⟩ | ⟨unixSecs, -, written⟩
  · exact .inl (same ▸ found)
  · simp [gone] at found
  · rw [written, Option.some.injEq] at found
    exact .inr (found ▸ le_rfl)

theorem Steps.fresher (run : Steps s events t) : s.Fresher t := by
  induction run with
  | refl s => exact .refl s
  | head step _ ih => exact step.fresher.trans ih

theorem Steps.keeps (run : Steps s events t) (kept : Event.removeSource sourceId ∉ events)
    (held : (s.cache.lookup sourceId).isSome) : (t.cache.lookup sourceId).isSome := by
  induction run with
  | refl => exact held
  | head step _ ih =>
    refine ih (fun mem => kept (List.mem_cons_of_mem _ mem)) ?_
    rcases step.lookup sourceId with same | ⟨rfl, -⟩ | ⟨_, -, written⟩
    · rwa [same]
    · simp at kept
    · simp [written]

/-- Until `remove_source`, a later `get_data` returns an entry too, fetched no earlier. -/
theorem Steps.returned_never_regresses (reachable : Reachable s)
    {before between after : List Event} {first second : Nat} {earlier : CachedData}
    {later : Option CachedData}
    (run : Steps s (before ++ .returned first sourceId (some earlier) ::
      (between ++ .returned second sourceId later :: after)) u) :
    (Event.removeSource sourceId ∉ between → later.isSome) ∧
      ∀ cached, later = some cached → earlier.fetchedAt ≤ cached.fetchedAt := by
  obtain ⟨t, prefix_, run⟩ := Steps.append_iff.mp run
  obtain ⟨v, middle, run⟩ := Steps.append_iff.mp
    (show Steps t ((.returned first sourceId (some earlier) :: between) ++
      .returned second sourceId later :: after) u from run)
  obtain ⟨_, returnedFirst, -⟩ := Steps.cons_iff.mp middle
  obtain ⟨_, returnedSecond, -⟩ := Steps.cons_iff.mp run
  have held := returnedFirst.returned_lookup
  rw [returnedSecond.returned_lookup]
  refine ⟨fun kept => middle.keeps (by simp [kept]) (by simp [← held]), fun cached found => ?_⟩
  rcases middle.fresher.2 sourceId cached found with same | fetched
  · rw [← held, Option.some.injEq] at same
    exact same ▸ le_rfl
  · exact ((reachable_stamped (prefix_.reachable reachable)) sourceId earlier
      held.symm).1.trans fetched

theorem Steps.returned_never_regresses_refreshed :
    ∃ u, Steps (Runtime.new 0) ([.addSource { id := "s1" }, .refreshed "s1"] ++
        .returned 0 "s1" (some (refreshEntry "s1" 0 0)) ::
          ([.advanced (fromSecs 400), .missed 0 "s1", .requested 0 "s1", .refreshed "s1"] ++
            [.returned 0 "s1" (some (refreshEntry "s1" 0 (fromSecs 400)))])) u ∧
      (Event.removeSource "s1" ∉
          [.advanced (fromSecs 400), .missed 0 "s1", .requested 0 "s1", .refreshed "s1"] →
        (some (refreshEntry "s1" 0 (fromSecs 400))).isSome) ∧
      ∀ cached, some (refreshEntry "s1" 0 (fromSecs 400)) = some cached →
        (refreshEntry "s1" 0 0).fetchedAt ≤ cached.fetchedAt :=
  have run : Steps (Runtime.new 0) ([.addSource { id := "s1" }, .refreshed "s1"] ++
      .returned 0 "s1" (some (refreshEntry "s1" 0 0)) ::
        ([.advanced (fromSecs 400), .missed 0 "s1", .requested 0 "s1", .refreshed "s1"] ++
          [.returned 0 "s1" (some (refreshEntry "s1" 0 (fromSecs 400)))])) _ :=
    .head (.addSource _ fun _ => rfl) (.head (.refresh "s1" [] 0 rfl)
      (.head (.hit 0 "s1" _ rfl (Runtime.freshEntry_eq_some.mpr ⟨rfl, by decide⟩))
        (.head (.advance _) (.head (.miss 0 "s1" rfl (Option.isNone_iff_eq_none.mp (by decide)))
          (.head (.request 0 "s1" (by simp)) (.head (.refresh "s1" [] 0 rfl)
            (.single (.reread 0 "s1" (by simp)))))))))
  ⟨_, run, Steps.returned_never_regresses (.new 0) run⟩

end Rotonda.ExternalData
