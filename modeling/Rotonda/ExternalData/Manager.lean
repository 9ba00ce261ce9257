import Rotonda.ExternalData.Source

/-!
# The external data manager and the tasks around it

`Step` is one atomic move of the tasks that share the manager's cache and channel: a pass of
`refresh_task`, a tick of a ticker `start_auto_refresh` spawned, a move of a caller of `get_data`
(its first read, its send, its second read), or the clock. `add_source` and `remove_source` take
`&mut self`, so they run only while no `get_data` call is in flight. Lock sections and channel
operations are atomic; the lock is never poisoned and the receiver never dropped.
-/

namespace Rotonda.ExternalData

structure Ticker where
  sourceId : String
  period : Nat
  nextTick : Nat

inductive Caller where
  | idle
  | missed (sourceId : String)
  | sent (sourceId : String)
  deriving DecidableEq

@[ext] structure Runtime where
  sources : AList (fun _ : String => ExternalDataSource)
  cache : AList (fun _ : String => CachedData)
  refreshQueue : List String
  tickers : List Ticker
  callers : Nat → Caller
  now : Nat

namespace Runtime

def new (now : Nat) : Runtime := ⟨∅, ∅, [], [], fun _ => .idle, now⟩

def Idle (s : Runtime) : Prop := ∀ caller, s.callers caller = .idle

@[simps] def send (s : Runtime) (sourceId : String) : Runtime :=
  { s with refreshQueue := s.refreshQueue ++ [sourceId] }

@[simps] def setCaller (s : Runtime) (caller : Nat) (state : Caller) : Runtime :=
  { s with callers := Function.update s.callers caller state }

@[simp] theorem callers_send (s : Runtime) (sourceId : String) :
    (s.send sourceId).callers = s.callers := rfl

@[simp] theorem callers_setCaller (s : Runtime) (caller : Nat) (state : Caller) :
    (s.setCaller caller state).callers = Function.update s.callers caller state := rfl

@[simps] def addSource (s : Runtime) (source : ExternalDataSource) : Runtime :=
  { s with sources := s.sources.insert source.id source,
           refreshQueue := s.refreshQueue ++ [source.id] }

@[simps] def removeSource (s : Runtime) (sourceId : String) : Runtime :=
  { s with sources := s.sources.erase sourceId, cache := s.cache.erase sourceId }

def freshEntry (s : Runtime) (sourceId : String) : Option CachedData :=
  (s.cache.lookup sourceId).filter fun cached => !cached.isExpired s.now

@[simps] def refresh (s : Runtime) (sourceId : String) (rest : List String) (unixSecs : Nat) :
    Runtime :=
  { s with refreshQueue := rest,
           cache := s.cache.insert sourceId (refreshEntry sourceId unixSecs s.now) }

-- `interval` panics on a zero period, ending its task before the first tick.
def spawnedTickers (s : Runtime) : List Ticker :=
  s.sources.entries.filterMap fun entry =>
    if entry.2.autoRefresh && entry.2.refreshIntervalSecs != 0 then
      some ⟨entry.1, fromSecs entry.2.refreshIntervalSecs, s.now⟩
    else none

@[simps] def startAutoRefresh (s : Runtime) : Runtime :=
  { s with tickers := s.tickers ++ s.spawnedTickers }

@[simps] def tick (s : Runtime) (i : Nat) (ticker : Ticker) : Runtime :=
  { s with refreshQueue := s.refreshQueue ++ [ticker.sourceId],
           tickers := s.tickers.set i { ticker with nextTick := ticker.nextTick + ticker.period } }

@[simps] def advance (s : Runtime) (nanos : Nat) : Runtime := { s with now := s.now + nanos }

theorem freshEntry_eq_some {s : Runtime} {sourceId : String} {cached : CachedData} :
    s.freshEntry sourceId = some cached ↔
      s.cache.lookup sourceId = some cached ∧ cached.isExpired s.now = false := by
  simp [freshEntry, Option.filter_eq_some]

theorem freshEntry_eq_none {s : Runtime} {sourceId : String} :
    s.freshEntry sourceId = none ↔
      ∀ cached, s.cache.lookup sourceId = some cached → cached.isExpired s.now = true := by
  cases h : s.cache.lookup sourceId <;> simp [freshEntry, h, Option.filter]

end Runtime

inductive Event where
  | addSource (source : ExternalDataSource)
  | removeSource (sourceId : String)
  | startAutoRefresh
  | missed (caller : Nat) (sourceId : String)
  | requested (caller : Nat) (sourceId : String)
  | returned (caller : Nat) (sourceId : String) (entry : Option CachedData)
  | refreshed (sourceId : String)
  | ticked (sourceId : String)
  | advanced (nanos : Nat)

def Event.Background : Event → Prop
  | .refreshed _ | .ticked _ | .advanced _ => True
  | _ => False

open Runtime in
inductive Step : Runtime → Event → Runtime → Prop where
  | addSource {s : Runtime} (source : ExternalDataSource) (idle : s.Idle) :
      Step s (.addSource source) (s.addSource source)
  | removeSource {s : Runtime} (sourceId : String) (idle : s.Idle) :
      Step s (.removeSource sourceId) (s.removeSource sourceId)
  | startAutoRefresh {s : Runtime} : Step s .startAutoRefresh s.startAutoRefresh
  | hit {s : Runtime} (caller : Nat) (sourceId : String) (cached : CachedData)
      (idle : s.callers caller = .idle) (fresh : s.freshEntry sourceId = some cached) :
      Step s (.returned caller sourceId (some cached)) s
  | miss {s : Runtime} (caller : Nat) (sourceId : String)
      (idle : s.callers caller = .idle) (stale : s.freshEntry sourceId = none) :
      Step s (.missed caller sourceId) (s.setCaller caller (.missed sourceId))
  | request {s : Runtime} (caller : Nat) (sourceId : String)
      (missed : s.callers caller = .missed sourceId) :
      Step s (.requested caller sourceId) ((s.send sourceId).setCaller caller (.sent sourceId))
  | reread {s : Runtime} (caller : Nat) (sourceId : String)
      (sent : s.callers caller = .sent sourceId) :
      Step s (.returned caller sourceId (s.cache.lookup sourceId)) (s.setCaller caller .idle)
  | refresh {s : Runtime} (sourceId : String) (rest : List String) (unixSecs : Nat)
      (head : s.refreshQueue = sourceId :: rest) :
      Step s (.refreshed sourceId) (s.refresh sourceId rest unixSecs)
  -- tokio's `interval` fires at once, then once a period, catching up in bursts
  | tick {s : Runtime} (i : Nat) (ticker : Ticker) (found : s.tickers[i]? = some ticker)
      (due : ticker.nextTick ≤ s.now) :
      Step s (.ticked ticker.sourceId) (s.tick i ticker)
  | advance {s : Runtime} (nanos : Nat) : Step s (.advanced nanos) (s.advance nanos)

inductive Reachable : Runtime → Prop where
  | new (now : Nat) : Reachable (Runtime.new now)
  | step {s t : Runtime} {event : Event} : Reachable s → Step s event t → Reachable t

inductive Steps : Runtime → List Event → Runtime → Prop where
  | refl (s : Runtime) : Steps s [] s
  | head {s t u : Runtime} {event : Event} {events : List Event} :
      Step s event t → Steps t events u → Steps s (event :: events) u

namespace Steps

theorem single {s t : Runtime} {event : Event} (step : Step s event t) : Steps s [event] t :=
  .head step (.refl t)

theorem single_iff {s t : Runtime} {event : Event} : Steps s [event] t ↔ Step s event t :=
  ⟨fun run => by cases run with | head step rest => cases rest; exact step, single⟩

theorem cons_iff {s u : Runtime} {event : Event} {events : List Event} :
    Steps s (event :: events) u ↔ ∃ t, Step s event t ∧ Steps t events u :=
  ⟨fun run => by cases run with | head step run => exact ⟨_, step, run⟩,
    fun ⟨_, step, run⟩ => .head step run⟩

theorem append_iff {s u : Runtime} {first second : List Event} :
    Steps s (first ++ second) u ↔ ∃ t, Steps s first t ∧ Steps t second u := by
  induction first generalizing s with
  | nil =>
    refine ⟨fun run => ⟨s, .refl s, run⟩, fun ⟨_, before, after⟩ => ?_⟩
    cases before
    exact after
  | cons event events ih =>
    constructor
    · rintro (_ | ⟨step, run⟩)
      obtain ⟨t, before, after⟩ := ih.mp run
      exact ⟨t, .head step before, after⟩
    · rintro ⟨t, before, after⟩
      cases before with
      | head step before => exact .head step (ih.mpr ⟨t, before, after⟩)

theorem reachable {s t : Runtime} {events : List Event} (run : Steps s events t)
    (reachable : Reachable s) : Reachable t := by
  induction run with
  | refl => exact reachable
  | head step _ ih => exact ih (.step reachable step)

end Steps

def Runtime.afterRefresh : Runtime := ((Runtime.new 0).addSource { id := "s1" }).refresh "s1" [] 0

theorem Runtime.afterRefresh_reachable : Reachable Runtime.afterRefresh :=
  .step (.step (.new 0) (.addSource _ fun _ => rfl)) (.refresh "s1" [] 0 rfl)

theorem Runtime.afterRefresh_freshEntry :
    Runtime.afterRefresh.freshEntry "s1" = some (refreshEntry "s1" 0 0) :=
  Runtime.freshEntry_eq_some.mpr ⟨rfl, by decide⟩

end Rotonda.ExternalData
