import ZitiBridge.Basic
import ZitiBridge.Handlers
import ZitiBridge.Machine
import ZitiBridge.Invariant
import ZitiBridge.Reach
import ZitiBridge.Teardown
import ZitiBridge.FlowControl
import ZitiBridge.Pool
import ZitiBridge.Idle
import ZitiBridge.Setup
import ZitiBridge.Json
import ZitiBridge.SrcConnect
import ZitiBridge.SrcLink
import ZitiBridge.CloseOrder
import ZitiBridge.HalfClose
import ZitiBridge.Streams
import ZitiBridge.Info
import ZitiBridge.Source
import ZitiBridge.Shutdown
import ZitiBridge.ReadControl
