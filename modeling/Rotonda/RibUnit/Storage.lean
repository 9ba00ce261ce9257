namespace Rotonda.RibUnit

-- The variant of `rotonda_store::rib::config::Config` that `to_rib_config` builds; the store's
-- `MemoryOnlyConfig` is a parameter, with its `Default` as the `Inhabited` instance.
inductive RibConfig (MemoryOnlyConfig : Type) where
  | memoryOnly (config : MemoryOnlyConfig)
  deriving DecidableEq

inductive StorageConfig (MemoryOnlyConfig : Type) where
  | memory (config : MemoryOnlyConfig)
  | disk
  | hybrid

namespace StorageConfig

variable {MemoryOnlyConfig : Type} [Inhabited MemoryOnlyConfig]

instance : Inhabited (StorageConfig MemoryOnlyConfig) := ⟨.memory default⟩

-- Disk and hybrid storage fall back to memory-only until their backends exist.
def toRibConfig : StorageConfig MemoryOnlyConfig → RibConfig MemoryOnlyConfig
  | .memory config => .memoryOnly config
  | .disk | .hybrid => .memoryOnly default

def isPersistent : StorageConfig MemoryOnlyConfig → Bool
  | .disk | .hybrid => true
  | .memory _ => false

def storageType : StorageConfig MemoryOnlyConfig → String
  | .memory _ => "memory"
  | .disk => "disk"
  | .hybrid => "hybrid"

end StorageConfig

end Rotonda.RibUnit
