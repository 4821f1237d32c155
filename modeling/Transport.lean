import Transport.Reassembler.Buffer
import Transport.Reassembler.Step
import Transport.Reassembler.Bounds
import Transport.Reassembler.Conservation
import Transport.Reassembler.Framing
import Transport.Queue.Model
import Transport.Queue.Conservation
import Transport.Queue.Epoch
import Transport.Request
import Transport.Token
import Transport.Lifecycle.Model
import Transport.Lifecycle.Race
import Transport.Shutdown
import Transport.Send.Dispatch
import Transport.Send.Serial
import Transport.Send.Path
import Transport.Logging.StreamBuf
import Transport.Logging.Logger
import Transport.Logging.Levels
import Transport.Logging.Global
import Transport.Receive
