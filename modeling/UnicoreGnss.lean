import UnicoreGnss.Transport.RoundTrip
import UnicoreGnss.Transport.Noise
import UnicoreGnss.Transport.BurstErrors
import UnicoreGnss.Transport.Counters
import UnicoreGnss.Transport.Conservation
import UnicoreGnss.Transport.Cuts
import UnicoreGnss.Transport.Health
import UnicoreGnss.Transport.Residue
import UnicoreGnss.Transport.Sentences
import UnicoreGnss.Transport.AsciiOnly
import UnicoreGnss.Transport.Candidates
import UnicoreGnss.Parser.Obsvmcmp
import UnicoreGnss.Parser.Bestsat
import UnicoreGnss.Parser.FixedLogs
import UnicoreGnss.Parser.Satsinfo
import UnicoreGnss.Parser.Integers
import UnicoreGnss.Parser.ChecksumGate
import UnicoreGnss.Parser.GlonassIds
import UnicoreGnss.Parser.Reserve
import UnicoreGnss.Parser.Coordinates
import UnicoreGnss.Parser.Bounds
import UnicoreGnss.Node.Validity
import UnicoreGnss.Node.Separation
import UnicoreGnss.Node.Reconnect
import UnicoreGnss.Node.HeadingGate
import UnicoreGnss.Node.HybridDeltas
import UnicoreGnss.Node.DispatchHistory
import UnicoreGnss.Node.HybridIntegers
import UnicoreGnss.Node.RtcmWrites
import UnicoreGnss.Node.Anomalies
import UnicoreGnss.Node.Evidence
import UnicoreGnss.Node.TableOrder
import UnicoreGnss.LiveValidate.FramerAgreement
import UnicoreGnss.LiveValidate.Checksum
import UnicoreGnss.LiveValidate.Satsinfo
import UnicoreGnss.LiveValidate.FixAgreement
import UnicoreGnss.LiveValidate.FrameAgreement
import UnicoreGnss.LiveValidate.Frequency
import UnicoreGnss.LiveValidate.CrcLog
import UnicoreGnss.LiveValidate.Report
import UnicoreGnss.Ntrip.FirstFix
import UnicoreGnss.Ntrip.Chunks
