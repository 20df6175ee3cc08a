import QmmfSdk.Library.Layout
import QmmfSdk.Recorder.TrackIds
import QmmfSdk.Recorder.Cameras
import QmmfSdk.Recorder.Notify
import QmmfSdk.Recorder.Isolation
import QmmfSdk.ExtraParam.RoundTrip
import QmmfSdk.ExtraParam.Refinement
import QmmfSdk.ExtraParam.Lock
import QmmfSdk.Camera3.ResultOrder
import QmmfSdk.Camera3.ShutterOrder
import QmmfSdk.Camera3.Flush
import QmmfSdk.Camera3.DeleteStream
import QmmfSdk.Camera3.Pause
import QmmfSdk.Camera3.PrepareCompletion
import QmmfSdk.Camera3.PrepareHandler
import QmmfSdk.Camera3.Monitor
import QmmfSdk.Camera3.Completion
import QmmfSdk.Camera3.InFlight
import QmmfSdk.Camera3.StreamSplit
import QmmfSdk.Client.Exposure
import QmmfSdk.Client.Topology
import QmmfSdk.Pipeline.RefCount
import QmmfSdk.Pipeline.Repeat
import QmmfSdk.Pipeline.TrackReturns
import QmmfSdk.Pipeline.TrackEncoder
import QmmfSdk.Exif.Converter
import QmmfSdk.Exif.Leftovers
import QmmfSdk.Binder.Lists
import QmmfSdk.Binder.AudioParams
import QmmfSdk.Queue.History
import QmmfSdk.Recorder.Outcomes
import QmmfSdk.Recorder.Cleanup
import QmmfSdk.Recorder.SessionRegistry
import QmmfSdk.Recorder.CameraTracks
import QmmfSdk.Recorder.BackedTracks
import QmmfSdk.Recorder.Running
import QmmfSdk.Recorder.ParamViews
import QmmfSdk.Pipeline.TrackFlush
import QmmfSdk.Recorder.FrameReturns
import QmmfSdk.Recorder.DeathIsolation
import QmmfSdk.Streams.ZslQueue
import QmmfSdk.Streams.PauseResume
import QmmfSdk.Streams.Mirror
import QmmfSdk.Streams.SnapshotRuns
import QmmfSdk.Streams.Removals
import QmmfSdk.Pipeline.Rescaler
import QmmfSdk.Camera3.Settings
import QmmfSdk.Codec.InputHeaders
import QmmfSdk.Codec.CodecState
import QmmfSdk.Pipeline.RepeatLoop
import QmmfSdk.Memory.GbmDevice
import QmmfSdk.Camera3.Usage
import QmmfSdk.Resizer.Split
import QmmfSdk.Resizer.Edges
import QmmfSdk.Resizer.Interpolation
import QmmfSdk.Audio.Clock
import QmmfSdk.Audio.Ownership
import QmmfSdk.ExtraParam.Untrusted
import QmmfSdk.Client.PluginInfo
import QmmfSdk.Library.Loop
import QmmfSdk.Jpeg.ParseThumb
import QmmfSdk.Jpeg.ThumbSafety
import QmmfSdk.Exif.Alignment
import QmmfSdk.Exif.Moves
import QmmfSdk.Exif.Memory
import QmmfSdk.Exif.Bounds
import QmmfSdk.Exif.ParseBounds
import QmmfSdk.Streams.CaptureBurst
import QmmfSdk.Streams.SnapshotBuffers
import QmmfSdk.Streams.ImageCapture
import QmmfSdk.Streams.CaptureSteps
import QmmfSdk.Streams.CaptureSetting
import QmmfSdk.Camera3.FrameNumbers
import QmmfSdk.Camera3.CreateStream
import QmmfSdk.Pipeline.MemPool
import QmmfSdk.Client.SnapshotCallback
import QmmfSdk.Streams.ZslRetry
import QmmfSdk.Recorder.LinkedTrack
import QmmfSdk.Recorder.SourceTracks
import QmmfSdk.Recorder.FailedTrack
import QmmfSdk.Recorder.StartTruth
import QmmfSdk.Library.Ensures
import QmmfSdk.Streams.OpenCamera
import QmmfSdk.Streams.CloseCamera
import QmmfSdk.Camera3.StreamSlots
import QmmfSdk.Library.Sweep
import QmmfSdk.Camera3.EndConfigure
import QmmfSdk.Library.Interpolation
import QmmfSdk.Library.SignedWord
import QmmfSdk.Camera3.ZoomArithmetic
import QmmfSdk.Camera3.ZoomBounds
import QmmfSdk.Camera3.ZoomTarget
import QmmfSdk.Hal1.RunningStreams
import QmmfSdk.Hal1.Frames
import QmmfSdk.Common.ThreadHelper
import QmmfSdk.Codec.OutputPort
import QmmfSdk.Codec.OutputBuffers
import QmmfSdk.Codec.PortReconfig
import QmmfSdk.Codec.PortFaults
import QmmfSdk.Library.RoundUp
import QmmfSdk.Overlays.Param
import QmmfSdk.Overlays.Surface
import QmmfSdk.Overlays.Item
import QmmfSdk.Overlays.DrawInfo
import QmmfSdk.Overlays.ItemMemory
import QmmfSdk.Overlays.ItemCalls
import QmmfSdk.Overlays.Registry
import QmmfSdk.Overlays.Items
import QmmfSdk.Overlays.Safety
import QmmfSdk.Overlays.Stored
import QmmfSdk.Overlays.Reads
import QmmfSdk.Overlays.Freshness
import QmmfSdk.Overlays.Process
