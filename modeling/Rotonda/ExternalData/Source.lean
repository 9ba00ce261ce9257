import Mathlib.Data.List.AList

namespace Rotonda.ExternalData

-- Instants and durations are nanosecond counts; `Instant::elapsed` saturates as `Nat` subtraction.
def fromSecs (secs : Nat) : Nat := secs * 1000000000

def ExternalDataSource.defaultRefreshInterval : Nat := 300

def ExternalDataSource.defaultCacheTtl : Nat := 600

def ExternalDataSource.defaultAutoRefresh : Bool := true

structure ExternalDataSource where
  id : String
  refreshIntervalSecs : Nat := ExternalDataSource.defaultRefreshInterval
  cacheTtlSecs : Nat := ExternalDataSource.defaultCacheTtl
  autoRefresh : Bool := ExternalDataSource.defaultAutoRefresh

inductive ExternalDataValue where
  | string (value : String)
  | number (value : Float)
  | boolean (value : Bool)
  | array (items : List ExternalDataValue)
  | object (fields : List (String × ExternalDataValue))
  | null
  deriving Repr

structure CachedData where
  value : ExternalDataValue
  fetchedAt : Nat
  ttl : Nat

def CachedData.new (value : ExternalDataValue) (ttl now : Nat) : CachedData :=
  { value, fetchedAt := now, ttl }

def CachedData.isExpired (cached : CachedData) (now : Nat) : Bool :=
  decide (now - cached.fetchedAt > cached.ttl)

theorem CachedData.isExpired_eq_false {cached : CachedData} {now : Nat} :
    cached.isExpired now = false ↔ now ≤ cached.fetchedAt + cached.ttl := by
  simp only [isExpired, decide_eq_false_iff_not, gt_iff_lt, not_lt]
  omega

def placeholderData (sourceId : String) (unixSecs : Nat) : ExternalDataValue :=
  .object [("source_id", .string sourceId), ("timestamp", .number (Float.ofNat unixSecs)),
    ("status", .string "active")]

def refreshEntry (sourceId : String) (unixSecs now : Nat) : CachedData :=
  CachedData.new (placeholderData sourceId unixSecs) (fromSecs 300) now

@[simp] theorem refreshEntry_fetchedAt (sourceId : String) (unixSecs now : Nat) :
    (refreshEntry sourceId unixSecs now).fetchedAt = now := rfl

@[simp] theorem refreshEntry_ttl (sourceId : String) (unixSecs now : Nat) :
    (refreshEntry sourceId unixSecs now).ttl = fromSecs 300 := rfl

end Rotonda.ExternalData
