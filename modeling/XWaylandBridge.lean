import XWaylandBridge.Prog
import XWaylandBridge.Geometry
import XWaylandBridge.WindowState
import XWaylandBridge.Connection
import XWaylandBridge.Shell
import XWaylandBridge.World
import XWaylandBridge.Surface
import XWaylandBridge.Runs
import XWaylandBridge.Frames
import XWaylandBridge.Serial
import XWaylandBridge.Position
import XWaylandBridge.NoOpFilter
import XWaylandBridge.Failure
import XWaylandBridge.StateSync
import XWaylandBridge.XView
import XWaylandBridge.Parent
import XWaylandBridge.Attributes
import XWaylandBridge.Observers
import XWaylandBridge.ShellLedger
import XWaylandBridge.ReplyOrder
import XWaylandBridge.ConfigureRequest
import XWaylandBridge.PropertyOwnership
import XWaylandBridge.CompositorRequests
import XWaylandBridge.RelyGuarantee
import XWaylandBridge.ShellInterleaved
import XWaylandBridge.FailedAttach
import XWaylandBridge.SentRequests
import XWaylandBridge.Reread
import XWaylandBridge.Repeated
