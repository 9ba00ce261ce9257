import Rotonda.F64
import Rotonda.ExternalData.Source
import Rotonda.ExternalData.Manager
import Rotonda.ExternalData.Invariants
import Rotonda.ExternalData.ReadPolicy
import Rotonda.ExternalData.Freshness
import Rotonda.ExternalData.RefreshQueue
import Rotonda.ExternalData.Access
import Rotonda.ExternalData.Json
import Rotonda.KafkaIn.Retry
import Rotonda.KafkaIn.Runner
import Rotonda.RibUnit.Storage
