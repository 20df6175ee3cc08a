import QmmfSdk.Recorder.Backends

/-! `SetVideoTrackParam`: what the source and the encoder of a track are told by it. -/
namespace QmmfSdk.Recorder

open Library (LTS)

inductive CodecParamType where
  | bitRateType
  | frameRateType
  | insertIDRType
  | idrIntervalType
  | camFrameCropType
  | markLtrType
  | useLtrType
  | audioEffectsParamType
  | audioVolumeParamType
  | decodeOperatingRate
  | enableFrameRepeat
  | vqZipInfo
  | jpegQuality
  | displayParam
  deriving DecidableEq, Repr

/-- A parameter, with the bytes behind the pointer to it. -/
structure CodecParam where
  type : CodecParamType
  value : List UInt8
  deriving DecidableEq, Repr

/-- A call to the encoder or the source of a track, with its service id. -/
inductive TrackCall where
  | setTrackEncoderParams (id : UInt32) (p : CodecParam)
  | updateTrackFrameRate (id : UInt32) (fps : List UInt8)
  | enableFrameRepeat (id : UInt32) (enable : List UInt8)
  deriving DecidableEq, Repr

/-- The time-lapse flag of the client's track id; `timelapse_mode_[track_id]` of a missing id is
false. -/
def RecorderImpl.inTimelapse (r : RecorderImpl) (track : UInt32) : Bool :=
  r.timelapseMode[track]?.getD false

/-- The lookup of the flag leaves an entry behind. -/
def RecorderImpl.touchTimelapse (r : RecorderImpl) (track : UInt32) : RecorderImpl :=
  { r with timelapseMode := r.timelapseMode.insertIfNew track false }

/-- What the source of a track is told, after the encoder. -/
def Backends.updateSource (b : Backends) (id : UInt32) (p : CodecParam) (calls : List TrackCall) :
    Status × List TrackCall :=
  match p.type with
  | .frameRateType =>
    if !b.isTrackIdValid id then (.badValue, calls)
    else (.noError, calls ++ [.updateTrackFrameRate id p.value])
  | .enableFrameRepeat =>
    if !b.isTrackIdValid id then (.badValue, calls)
    else (.noError, calls ++ [.enableFrameRepeat id p.value])
  | _ => (.noError, calls)

/-- `accepted` says whether the codec takes the parameter; it is asserted that it does. In time-lapse
mode the encoder keeps its frame rate. -/
def MediaRecorder.setVideoTrackParam (s : MediaRecorder) (client session track : UInt32)
    (p : CodecParam) (accepted : Bool) :
    Except Abort ((Status × List TrackCall) × MediaRecorder) :=
  let r := s.recorder
  if !r.isClientValid client then .ok ((.badValue, []), s)
  else if !r.isSessionValid client session then .ok ((.badValue, []), s)
  else
    match r.track client session track with
    | none => .ok ((.badValue, []), s)
    | some info =>
      let t : MediaRecorder := { s with recorder := r.touchTimelapse track }
      if r.inTimelapse track && p.type == .frameRateType then
        .ok (s.backends.updateSource info.trackId p [], t)
      else if !s.backends.isTrackValid info.trackId then .ok ((.badValue, []), t)
      else if !accepted then .error .assertion
      else
        .ok (s.backends.updateSource info.trackId p [.setTrackEncoderParams info.trackId p], t)

/-- A request of the media service, or one that sets a parameter of a track. -/
inductive ParamRequest where
  | media (a : MediaRequest)
  | setVideoTrackParam (client session track : UInt32) (p : CodecParam) (accepted : Bool)

namespace MediaService

def setVideoTrackParam (s : MediaService) (client session track : UInt32) (p : CodecParam)
    (accepted : Bool) : Except Abort ((Status × List TrackCall) × MediaService) :=
  match s.recorder with
  | none => .ok ((.noInit, []), s)
  | some r => do
    let (answer, t) ← (MediaRecorder.mk r s.backends).setVideoTrackParam client session track p accepted
    .ok (answer, ⟨{ s.service with recorder := some t.recorder }, t.backends⟩)

def stepParam (s : MediaService) : ParamRequest → Except Abort (Status × MediaService)
  | .media a => s.step a
  | .setVideoTrackParam client session track p accepted => do
    let (answer, t) ← s.setVideoTrackParam client session track p accepted
    .ok (answer.1, t)

/-- The state after a request that returns, whatever status it returns. -/
def nextParam (s : MediaService) (a : ParamRequest) : Option MediaService :=
  match s.stepParam a with
  | .ok (_, t) => some t
  | .error _ => none

def paramLts : LTS MediaService ParamRequest := .ofStep nextParam

end MediaService

end QmmfSdk.Recorder
