import TokioUdt.Wire
import TokioUdt.Packet
import TokioUdt.RoundTrip
import TokioUdt.Reencode
import TokioUdt.Totality
import TokioUdt.Connection
import TokioUdt.SndQueue.Heap
import TokioUdt.SndQueue.System
import TokioUdt.SndQueue.Wakeup
import TokioUdt.SndQueue.Update
import TokioUdt.SndQueue.Serial
import TokioUdt.SndQueue.Service
import TokioUdt.SndQueue.Schedule
import TokioUdt.SndQueue.SocketRefs
