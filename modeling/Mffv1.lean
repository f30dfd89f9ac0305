import Mffv1.RangeClosing
import Mffv1.ConfigurationRecord
import Mffv1.SliceLocation
import Mffv1.SliceTiling
import Mffv1.SliceSweep
import Mffv1.BitWriter
import Mffv1.ContentRoundTrip
import Mffv1.GolombRiceContent
import Mffv1.Decoder
import Mffv1.Encoder
import Mffv1.SampleOverflow
import Mffv1.SliceBoundary
import Mffv1.FrameReordering
import Mffv1.ContextFolding
import Mffv1.ColorTransformRows
import Mffv1.CorruptionDetection
import Mffv1.RangeAtomicity
import Mffv1.GolombRiceLineSafety
import Mffv1.RangeReset
import Mffv1.RangeResume
import Mffv1.RangeWindow
import Mffv1.CandidateIsolation
import Mffv1.LineHistory
import Mffv1.WindowAddressing
import Mffv1.EncoderRuns
import Mffv1.DecoderHistory
import Mffv1.EncoderProgress
import Mffv1.EncoderInputs
import Mffv1.WriteConfinement
import Mffv1.EncodeSchedule
import Mffv1.FooterInfluence
import Mffv1.LegacyFrame
import Mffv1.LosslessRuns
