import Rotonda.ExternalData.Invariants

namespace Rotonda.ExternalData

-- `str::to_lowercase`, as far as `get_external_boolean` can tell: Rust lowers every Unicode letter
-- and `Char.toLower` only ASCII ones, but the only non-ASCII letter whose lowercase is ASCII is the
-- Kelvin sign, lowered to `k`, which none of the words below holds.
def toLowercase (s : String) : String := ⟨s.data.map Char.toLower⟩

def parseBoolWord (s : String) : Option Bool :=
  match toLowercase s with
  | "true" | "1" | "yes" | "on" => some true
  | "false" | "0" | "no" | "off" => some false
  | _ => none

section Access

variable (getExternalData : String → Option ExternalDataValue)

-- The provided methods of `ExternalDataAccess`; `f64::to_string` and `str::parse::<f64>` are the
-- standard library's and stay parameters.
def getExternalString (formatNumber : Float → String) (sourceId : String) : Option String := do
  match ← getExternalData sourceId with
  | .string s => some s
  | .number n => some (formatNumber n)
  | .boolean b => some (toString b)
  | _ => none

def getExternalNumber (parseNumber : String → Option Float) (sourceId : String) :
    Option Float := do
  match ← getExternalData sourceId with
  | .number n => some n
  | .string s => parseNumber s
  | _ => none

def getExternalBoolean (sourceId : String) : Option Bool := do
  match ← getExternalData sourceId with
  | .boolean b => some b
  | .string s => parseBoolWord s
  | .number n => some (n != 0.0)
  | _ => none

theorem getExternal_of_object (formatNumber : Float → String)
    (parseNumber : String → Option Float) (sourceId : String)
    (object : ∀ value, getExternalData sourceId = some value →
      ∃ fields, value = .object fields) :
    getExternalString getExternalData formatNumber sourceId = none ∧
      getExternalNumber getExternalData parseNumber sourceId = none ∧
      getExternalBoolean getExternalData sourceId = none := by
  cases found : getExternalData sourceId with
  | none => simp [getExternalString, getExternalNumber, getExternalBoolean, found]
  | some value =>
    obtain ⟨fields, rfl⟩ := object _ found
    simp [getExternalString, getExternalNumber, getExternalBoolean, found]

/-- Over data served from the cache, which holds only placeholder objects, every typed accessor
returns `None`. -/
theorem getExternal_eq_none_of_cache {s : Runtime} (reachable : Reachable s)
    (serves : ∀ sourceId value, getExternalData sourceId = some value →
      ∃ cached, s.cache.lookup sourceId = some cached ∧ value = cached.value)
    (formatNumber : Float → String) (parseNumber : String → Option Float) (sourceId : String) :
    getExternalString getExternalData formatNumber sourceId = none ∧
      getExternalNumber getExternalData parseNumber sourceId = none ∧
      getExternalBoolean getExternalData sourceId = none := by
  refine getExternal_of_object getExternalData formatNumber parseNumber sourceId
    fun value found => ?_
  obtain ⟨cached, held, rfl⟩ := serves sourceId value found
  obtain ⟨unixSecs, written⟩ := reachable_keyed reachable sourceId cached held
  exact ⟨_, by rw [written]; rfl⟩

end Access

theorem Runtime.cache_serves (s : Runtime) (sourceId : String) (value : ExternalDataValue)
    (found : (s.cache.lookup sourceId).map CachedData.value = some value) :
    ∃ cached, s.cache.lookup sourceId = some cached ∧ value = cached.value :=
  let ⟨cached, held, read⟩ := Option.map_eq_some'.mp found
  ⟨cached, held, read.symm⟩

theorem getExternal_eq_none_of_cache_refreshed :
    let getExternalData := fun sourceId =>
      (Runtime.afterRefresh.cache.lookup sourceId).map CachedData.value
    Reachable Runtime.afterRefresh ∧ (∀ sourceId value, getExternalData sourceId = some value →
        ∃ cached, Runtime.afterRefresh.cache.lookup sourceId = some cached ∧
          value = cached.value) ∧
      (getExternalData "s1").isSome ∧
      getExternalString getExternalData toString "s1" = none ∧
      getExternalNumber getExternalData (fun _ => none) "s1" = none ∧
      getExternalBoolean getExternalData "s1" = none :=
  ⟨Runtime.afterRefresh_reachable, Runtime.afterRefresh.cache_serves, rfl,
    getExternal_eq_none_of_cache _ Runtime.afterRefresh_reachable Runtime.afterRefresh.cache_serves
      toString _ "s1"⟩

end Rotonda.ExternalData
