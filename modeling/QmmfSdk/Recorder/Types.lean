import QmmfSdk.Library.OrdMap

/-! Data of the recorder service: status codes, track descriptions and what the media
back ends answer to the calls that one request makes. -/
namespace QmmfSdk.Recorder

/-- `std::map<uint32_t, V>`. -/
abbrev IdMap (V : Type) := Library.OrdMap UInt32 V

inductive Status where
  | noError
  | badValue
  | invalidOperation
  | nameNotFound
  | noInit
  | timedOut
  | noMemory
  | failedTransaction
  | unknownError
  deriving DecidableEq, Repr

/-- Ways in which a request takes the whole service down: a failed `assert` (the build
sets `-UNDEBUG`) or a lock on a null mutex pointer. -/
inductive Abort where
  | remoteCallback (id : UInt32)
  | assertion
  | nullMutex
  deriving DecidableEq, Repr

inductive ClientState where
  | alive
  | dead
  deriving DecidableEq, Repr

inductive SessionState where
  | active
  | pause
  | idle
  deriving DecidableEq, Repr

inductive VideoFormat where
  | rgb
  | hevc
  | avc
  | nv12
  | nv12UBWC
  | jpeg
  | bayerRDI8BIT
  | bayerRDI10BIT
  | bayerRDI12BIT
  | bayerRDI16BIT
  | bayerIdeal
  deriving DecidableEq, Repr

/-- The formats that get a track encoder; every other one goes to the client raw. -/
def VideoFormat.isEncoded : VideoFormat → Bool
  | .hevc | .avc | .jpeg => true
  | _ => false

inductive AudioFormat where
  | pcm
  | aac
  | amr
  | g711
  | mp3
  | mpegh
  deriving DecidableEq, Repr

/-- `TrackInfo::type` together with the member of the format union that it selects. -/
inductive TrackFormat where
  | video (format : VideoFormat)
  | audio (format : AudioFormat)
  deriving DecidableEq, Repr

structure TrackInfo where
  trackId : UInt32
  format : TrackFormat
  deriving DecidableEq, Repr

abbrev TrackInfoMap := IdMap TrackInfo
abbrev SessionTrackMap := IdMap TrackInfoMap

/-- The fields of `VideoTrackCreateParam` that the recorder itself reads. -/
structure VideoTrackCreateParam where
  cameraId : UInt32
  width : UInt32
  height : UInt32
  formatType : VideoFormat
  deriving DecidableEq, Repr

/-- The tags of a `VideoExtraParam` that the recorder itself reads, each with its payload. -/
structure VideoExtraParam where
  sourceVideoTrackId : Option UInt32 := none
  useLinkedTrackInSlaveMode : Option Bool := none
  videoTimelapseInterval : Bool := false
  deriving DecidableEq, Repr

structure AudioTrackCreateParam where
  format : AudioFormat
  channels : UInt32
  sampleRate : UInt32
  mpeghBitRate : UInt32
  deriving DecidableEq, Repr

/-- Answers of one pair of back ends (a source of tracks and its encoder core), by service
track id. -/
structure TrackBackend where
  createTrackSource : UInt32 → Status := fun _ => .noError
  addSource : UInt32 → Status := fun _ => .noError
  setTrackEncoderParams : UInt32 → Status := fun _ => .noError
  startTrackSource : UInt32 → Status := fun _ => .noError
  startTrackEncoder : UInt32 → Status := fun _ => .noError
  pauseTrackSource : UInt32 → Status := fun _ => .noError
  pauseTrackEncoder : UInt32 → Status := fun _ => .noError
  resumeTrackSource : UInt32 → Status := fun _ => .noError
  resumeTrackEncoder : UInt32 → Status := fun _ => .noError
  stopTrackSource : UInt32 → Status := fun _ => .noError
  stopTrackEncoder : UInt32 → Status := fun _ => .noError
  deleteTrackSource : UInt32 → Status := fun _ => .noError
  deleteTrackEncoder : UInt32 → Status := fun _ => .noError

/-- What `CameraSource`, `EncoderCore`, `AudioSource` and `AudioEncoderCore` answer to the
calls that one request makes. Every answer is possible at every request. -/
structure Media where
  startCamera : UInt32 → Status := fun _ => .noError
  setFlushCb : UInt32 → Status := fun _ => .noError
  stopCamera : UInt32 → Status := fun _ => .noError
  flushEncoderTrack : UInt32 → Status := fun _ => .noError
  flushCameraTrack : UInt32 → Status := fun _ => .noError
  /-- Width and height of a track source; `none` when `GetTrackSource` knows no such id. -/
  trackSize : UInt32 → Option (UInt32 × UInt32) := fun _ => none
  /-- `AudioSource::getTrackSource`: its status and whether it gave a source at all. -/
  getAudioTrackSource : UInt32 → Status × Bool := fun _ => (.noError, true)
  video : TrackBackend := {}
  audio : TrackBackend := {}

end QmmfSdk.Recorder
