import SpectralLine.GapFill
import SpectralLine.Recording
import SpectralLine.VdifReader
import SpectralLine.Lib.Keyed
import SpectralLine.ReaderRun
import SpectralLine.RoundTrip
import SpectralLine.Lib.Handoff
import SpectralLine.Pool
import SpectralLine.Timing
import SpectralLine.Lib.Streams
import SpectralLine.Lib.Fence
import SpectralLine.Gpu
import SpectralLine.Worker
import SpectralLine.Turns
import SpectralLine.RingWindow
import SpectralLine.Pairing
import SpectralLine.Lib.Recent
import SpectralLine.PfbValidity
import SpectralLine.Lib.Ledger
import SpectralLine.Results
import SpectralLine.Accumulators
import SpectralLine.Integration
import SpectralLine.WorkerRun
import SpectralLine.SendData
import SpectralLine.Lib.FlagRing
import SpectralLine.ResultRing
import SpectralLine.StreamOrder
import SpectralLine.Lib.Schedule
import SpectralLine.StreamSafety
import SpectralLine.TimeConversion
import SpectralLine.UdpChecker
import SpectralLine.PayloadDecode
import SpectralLine.Lib.Packed
import SpectralLine.Lib.Crc
import SpectralLine.SpectrumTransport
import SpectralLine.Lib.Numbered
import SpectralLine.SpectrumSender
import SpectralLine.Rotation
import SpectralLine.Lib.Framing
import SpectralLine.FrameAlignment
import SpectralLine.LocalSdfitsQueue
import SpectralLine.Yaml
import SpectralLine.ObservationId
import SpectralLine.GlobalConfig
import SpectralLine.Lib.Checked
import SpectralLine.ConfigLayout
import SpectralLine.WireFormat
import SpectralLine.Lib.StatusCalls
import SpectralLine.Sdfits
import SpectralLine.LocalSdfitsWriter
import SpectralLine.MetadataErrors
import SpectralLine.SdfitsFaults
import SpectralLine.TransientFaults
import SpectralLine.Lib.SquareWave
import SpectralLine.FirstPacket
import SpectralLine.NoiseReference
import SpectralLine.NoiseBlanking
import SpectralLine.VdifFields
import SpectralLine.Lib.Circular
import SpectralLine.QuantizeAvx
import SpectralLine.Lib.BlockRing
import SpectralLine.PfbRing
import SpectralLine.FrequencyAxis
import SpectralLine.SdfitsHeader
import SpectralLine.Lib.RowMajor
import SpectralLine.SpectralDims
import SpectralLine.Lib.TreeSum
import SpectralLine.Modes
import SpectralLine.Lib.Extended
import SpectralLine.ExactConfig
import SpectralLine.NumericSafety
import SpectralLine.ChannelLabel
import SpectralLine.Lib.Dictionary
import SpectralLine.MonitorFiles
import SpectralLine.Monitor
import SpectralLine.MonitorManifest
import SpectralLine.MessageIntegrity
import SpectralLine.ScatterWrite
import SpectralLine.WindowAlignment
import SpectralLine.LcoreParams
import SpectralLine.SmoothSpectrum
import SpectralLine.Spectrometer
import SpectralLine.Lib.Labelled
import SpectralLine.Lib.BoundedQueue
import SpectralLine.Lib.Smear
import SpectralLine.LightweightSemaphore
import SpectralLine.CircularBuffer
import SpectralLine.Lib.CellRing
import SpectralLine.QueueWindow
import SpectralLine.QueueProducer
import SpectralLine.QueueConsumer
import SpectralLine.QueueRefinement
import SpectralLine.PoolPipeline
import SpectralLine.OnOff
import SpectralLine.OnOffReduction
import SpectralLine.RecvBurst
import SpectralLine.Lib.Rebuffer
import SpectralLine.BasebandSpectrum
import SpectralLine.RecordedSpectrum
import SpectralLine.OldFormat
import SpectralLine.Startup
import SpectralLine.Steering
import SpectralLine.CapturePort
import SpectralLine.CheckedReception
import SpectralLine.BandNames
import SpectralLine.BandFiles
import SpectralLine.BandRun
import SpectralLine.ScanReading
import SpectralLine.ScanRoundTrip
