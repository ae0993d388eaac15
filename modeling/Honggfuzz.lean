import Honggfuzz.Mangle.Basic
import Honggfuzz.Mangle.Buffer
import Honggfuzz.Mangle.MagicVals
import Honggfuzz.Mangle.Operators
import Honggfuzz.Mangle.AddSub
import Honggfuzz.Mangle.Content
import Honggfuzz.Mangle.Agreement
import Honggfuzz.Mangle.Effect
import Honggfuzz.Mangle.ASCIIVal
import Honggfuzz.Mangle.Footprint
import Honggfuzz.Mangle.SizeInvariant
import Honggfuzz.Mangle.Resize
import Honggfuzz.Mangle.Safety
import Honggfuzz.Mangle.InflateShrink
import Honggfuzz.Mangle.Printable
import Honggfuzz.Mangle.Replay
import Honggfuzz.Mangle.Tail
import Honggfuzz.Mangle.Writes
import Honggfuzz.Mangle.Undo
import Honggfuzz.Mangle.Exposure
import Honggfuzz.Mangle.Fill
import Honggfuzz.Mangle.FaultCause
