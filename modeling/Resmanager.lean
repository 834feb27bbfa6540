import Resmanager.NodeSLO
import Resmanager.Store
import Resmanager.StoreRun
import Resmanager.Leaves
import Resmanager.Overlay
import Resmanager.Defaults
import Resmanager.StoreTrace
import Resmanager.Run
import Resmanager.ExpireCache
import Resmanager.Evict
import Resmanager.EvictRun
import Resmanager.EvictConcurrent
import Resmanager.EvictInterleaved
import Resmanager.KillContainers
import Resmanager.Lister
