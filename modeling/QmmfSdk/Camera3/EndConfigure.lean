import QmmfSdk.Camera3.CreateStream
import QmmfSdk.Camera3.Stream
import QmmfSdk.Library.Sweep
import QmmfSdk.Memory.Usage

/-! `EndConfigure`: the configuration of all streams with the HAL, and what the caller is told of it. -/
namespace QmmfSdk.Camera3

open Library
open Memory (Usage GbmFlags)

def ENODEV : Int := 19
def ENOTCONN : Int := 107

/-- How a build translates usage words; the last two are done around `configure_streams` only in a build
with GBM. -/
structure UsageWords where
  toLocal : Usage → Usage
  toCommon : Usage → Usage
  localToGralloc : Usage → Usage := id
  grallocToLocal : Usage → Usage := id

def UsageWords.ofGbm (g : GbmFlags) : UsageWords where
  toLocal := g.toLocal
  toCommon := g.toCommon
  localToGralloc := g.localToGralloc
  grallocToLocal := g.grallocToLocal

/-- `Camera3Stream` with what a configuration reads and writes. -/
structure ConfigStream extends Camera3Stream where
  id : Int
  usage : Usage
  maxBuffers : UInt32
  clientUsage : Usage
  clientMaxBuffers : UInt32
  oldUsage : Usage := 0
  oldMaxBuffers : UInt32 := 0
  monitorId : Int := -1

namespace ConfigStream

variable (b : UsageWords)

/-- `BeginConfigure`; `none` is a null pointer. -/
def beginConfigure (s : ConfigStream) : Option ConfigStream :=
  let s' : ConfigStream := { s with
    usage := b.toLocal s.clientUsage
    maxBuffers := s.clientMaxBuffers
    monitorId := -1 }
  match s.status with
  | .error | .prepareActive => none
  | .configActive | .reconfigActive => some s
  | .initialized => some { s' with status := .configActive }
  | .configured => some { s' with status := .reconfigActive }

def isConfigureActive (s : ConfigStream) : Bool :=
  s.status = .configActive || s.status = .reconfigActive

def closeLocked (s : ConfigStream) : Int × ConfigStream :=
  match s.status with
  | .reconfigActive | .configured =>
    if 0 < s.pendingBufferCount then (-ENOSYS, s)
    else (0, { s with
      memAllocBuffers := ∅
      status := if s.status = .reconfigActive then .configActive else .initialized })
  | .error | .initialized | .configActive | .prepareActive => (-ENOTCONN, s)

/-- The rest of `ConfigureLocked`. -/
def resetBuffers (s : ConfigStream) : ConfigStream :=
  { s with
    totalBufferCount := max s.clientMaxBuffers s.maxBuffers
    pendingBufferCount := 0
    isStreamActive := false
    memAllocBuffers := ∅
    memAllocSlots := [] }

def configureLocked (s : ConfigStream) : Int × ConfigStream :=
  match s.status with
  | .reconfigActive =>
    match s.closeLocked with
    | (0, s) => (0, s.resetBuffers)
    | (res, s) => (res, s)
  | .configActive => (0, s.resetBuffers)
  | .error | .initialized | .configured | .prepareActive => (-ENOSYS, s)

/-- A stream that is configured again keeps its buffers when the HAL wants the same as before. -/
def isUnchanged (s : ConfigStream) : Bool :=
  s.status = .reconfigActive && b.toCommon s.usage = s.oldUsage && s.oldMaxBuffers = s.maxBuffers

/-- `EndConfigure`; `acquired` is what `AcquireMonitor` returns. -/
def endConfigure (acquired : Int) (s : ConfigStream) : Int × ConfigStream :=
  match s.status with
  | .configActive | .reconfigActive =>
    let s := { s with monitorId := acquired }
    if acquired < 0 then (acquired, s)
    else if s.isUnchanged b then (0, { s with status := .configured })
    else
      match s.configureLocked with
      | (0, s) =>
        (0, { s with
          status := .configured
          oldUsage := b.toCommon s.usage
          oldMaxBuffers := s.maxBuffers })
      | (res, s) => (res, { s with status := .error })
  | .error | .initialized | .configured | .prepareActive => (-ENOSYS, s)

def abortConfigure (s : ConfigStream) : Int × ConfigStream :=
  match s.status with
  | .configActive | .reconfigActive =>
    (0, { s with
      usage := b.toLocal s.oldUsage
      maxBuffers := s.oldMaxBuffers
      status := if s.status = .reconfigActive then .configured else .initialized })
  | .error | .initialized | .configured | .prepareActive => (-ENOSYS, s)

end ConfigStream

/-- A stream as the HAL is given it. -/
structure HalStream where
  id : Int
  usage : Usage
  maxBuffers : UInt32
  deriving DecidableEq, Repr

/-- `camera3_stream_configuration`. -/
structure HalConfig where
  operationMode : UInt32
  sessionParameters : Option (Int × Int)
  streams : List HalStream
  deriving DecidableEq, Repr

/-- What `configure_streams` returns, and what it leaves in the usage and the buffer count of each
stream. -/
structure HalReply where
  res : Int
  written : Int → Usage × UInt32

/-- What is outside: the HAL, and whether a stream gets a monitor. -/
structure ConfigureEnv where
  words : UsageWords
  configureStreams : HalConfig → HalReply
  acquireMonitor : Int → Int

/-- `StreamConfiguration`; of its parameters the feature flags are used. -/
structure StreamConfiguration where
  isConstrainedHighSpeed : Bool := false
  isRawOnly : Bool := false
  batchSize : UInt32 := 1
  frameRateRange : Int × Int := (0, 0)
  params : Option UInt32 := none

/-- The members of `Camera3DeviceClient` that a configuration reads and writes; `configurationUpdate` and
`handlerBatchSize` are the request handler's. -/
structure ConfigClient where
  cameraModule : Bool := true
  isHfrSupported : Bool := false
  state : ClientState := .notConfigured
  reconfig : Bool := true
  hfrModeEnabled : Bool := false
  isRawOnly : Bool := false
  batchSize : UInt32 := 1
  frameRateRange : Int × Int := (0, 0)
  camFeatureFlags : UInt32 := 0
  streams : List ConfigStream := []
  inputStream : InputStream := {}
  inputUsage : Usage := 0
  inputMaxBuffers : UInt32 := 0
  deletedStreams : List ConfigStream := []
  frameNumber : UInt32 := 0
  configurationUpdate : Bool := false
  handlerBatchSize : UInt32 := 1

namespace ConfigClient

/-- `GetOpMode` in a build that has the operation modes. -/
def getOpMode (d : ConfigClient) : UInt32 :=
  if d.isRawOnly then 0x8000 else 0

variable (env : ConfigureEnv)

/-- Every stream begins its configuration, up to the first that cannot. -/
def beginStreams (d : ConfigClient) : Int × List ConfigStream :=
  sweep 0 (fun s => match s.beginConfigure env.words with
    | some s => (0, s)
    | none => (-ENOSYS, s)) d.streams

def endStreams (d : ConfigClient) : Int × List ConfigStream :=
  sweep 0 (fun s =>
    if s.isConfigureActive then s.endConfigure env.words (env.acquireMonitor s.id) else (0, s)) d.streams

def abortStreams (d : ConfigClient) : Int × List ConfigStream :=
  sweep 0 (fun s => if s.isConfigureActive then s.abortConfigure env.words else (0, s)) d.streams

/-- The usage that the HAL has set for the input stream is reset. -/
def resetInput (d : ConfigClient) : ConfigClient :=
  if 0 ≤ d.inputStream.streamId then { d with inputUsage := 0 } else d

/-- What the HAL is given. -/
def offer (d : ConfigClient) : HalConfig where
  operationMode := d.getOpMode
  sessionParameters := if d.hfrModeEnabled then some d.frameRateRange else none
  streams :=
    (d.streams.map fun s => ⟨s.id, env.words.localToGralloc s.usage, s.maxBuffers⟩) ++
      if 0 ≤ d.inputStream.streamId then
        [⟨d.inputStream.streamId, env.words.localToGralloc d.inputUsage, d.inputMaxBuffers⟩]
      else []

/-- A stream as the HAL leaves it, its usage translated back. -/
def takeStream (reply : HalReply) (s : ConfigStream) : ConfigStream :=
  { s with
    usage := env.words.grallocToLocal (reply.written s.id).1
    maxBuffers := (reply.written s.id).2 }

def takeBack (d : ConfigClient) (reply : HalReply) : ConfigClient :=
  let d := { d with streams := d.streams.map (takeStream env reply) }
  if 0 ≤ d.inputStream.streamId then
    { d with
      inputUsage := env.words.grallocToLocal (reply.written d.inputStream.streamId).1
      inputMaxBuffers := (reply.written d.inputStream.streamId).2 }
  else d

/-- The end of a configuration that the HAL has accepted. -/
def finishConfigure (d : ConfigClient) : Int × ConfigClient :=
  match d.endStreams env with
  | (0, streams) =>
    (0, { d with
      streams
      configurationUpdate := true
      handlerBatchSize := d.batchSize
      reconfig := false
      frameNumber := 0
      state := .configured
      deletedStreams := [] })
  | (res, streams) => (res, { d with streams })

/-- What follows a refusal of the HAL with `-EINVAL`. -/
def abandonConfigure (d : ConfigClient) : Int × ConfigClient :=
  match d.abortStreams env with
  | (0, streams) => (-EINVAL, { d with streams, state := .notConfigured, reconfig := true })
  | (res, streams) => (res, { d with streams })

def configureStreamsLocked (d : ConfigClient) : Int × ConfigClient :=
  if d.state ≠ .notConfigured ∧ d.state ≠ .configured then (-ENOSYS, d)
  else if !d.reconfig then (0, d)
  else
    match d.beginStreams env with
    | (0, streams) =>
      let d := resetInput { d with streams }
      let reply := env.configureStreams (d.offer env)
      let d := d.takeBack env reply
      if reply.res = -EINVAL then d.abandonConfigure env
      else if reply.res ≠ 0 then (reply.res, d)
      else d.finishConfigure env
    | (res, streams) => (res, { d with streams })

/-- What `ConfigureStreams` takes over from the configuration. -/
def takeConfiguration (d : ConfigClient) (c : StreamConfiguration) : ConfigClient :=
  { d with
    hfrModeEnabled := c.isConstrainedHighSpeed
    isRawOnly := c.isRawOnly
    batchSize := c.batchSize
    frameRateRange := c.frameRateRange
    camFeatureFlags := d.camFeatureFlags ||| c.params.getD 0 }

/-- Its result goes through a `bool`. -/
def configureStreams (d : ConfigClient) (c : StreamConfiguration) : Int × ConfigClient :=
  let r := (d.takeConfiguration c).configureStreamsLocked env
  let res : Bool := r.1 != 0
  (if res then 1 else 0, r.2)

def endConfigure (d : ConfigClient) (c : StreamConfiguration) : Int × ConfigClient :=
  if !d.cameraModule then (-ENODEV, d)
  else if c.isConstrainedHighSpeed && !d.isHfrSupported then (-EINVAL, d)
  else d.configureStreams env c

/-- What the call of `ConfigureStreamsLocked` returns, if `EndConfigure` makes it. -/
def configureCode (d : ConfigClient) (c : StreamConfiguration) : Option Int :=
  if !d.cameraModule || c.isConstrainedHighSpeed && !d.isHfrSupported then none
  else some ((d.takeConfiguration c).configureStreamsLocked env).1

def IsConfigured (d : ConfigClient) : Prop := d.state = .configured ∧ d.reconfig = false

/-- The caller is told 0 exactly when the streams are configured, and else the negative error code. -/
structure Reports (d : ConfigClient) (c : StreamConfiguration) : Prop where
  zero : (d.endConfigure env c).1 = 0 ↔ (d.endConfigure env c).2.IsConfigured
  code : ¬ (d.endConfigure env c).2.IsConfigured →
    ∃ code, d.configureCode env c = some code ∧ code < 0 ∧ (d.endConfigure env c).1 = code

end ConfigClient

namespace ConfigStream

variable {b : UsageWords} {s t : ConfigStream} {acquired : Int} {env : ConfigureEnv} {reply : HalReply}

/-- A configuration can begin: there is no error, and no preparation going on. -/
def CanBegin (s : ConfigStream) : Prop := s.status ≠ .error ∧ s.status ≠ .prepareActive

/-- It was configured before, and possibly begins again after a configuration that failed. -/
def WasConfigured (s : ConfigStream) : Prop := s.status = .configured ∨ s.status = .reconfigActive

/-- A configuration can end: the stream gets its monitor, and where it was configured before, it has no
buffers out or the HAL wants the same as then. -/
def CanEnd (env : ConfigureEnv) (reply : HalReply) (s : ConfigStream) : Prop :=
  0 ≤ env.acquireMonitor s.id ∧
    (s.WasConfigured → s.pendingBufferCount = 0 ∨
      env.words.toCommon (env.words.grallocToLocal (reply.written s.id).1) = s.oldUsage ∧
        s.oldMaxBuffers = (reply.written s.id).2)

theorem beginConfigure_isSome : (s.beginConfigure b).isSome ↔ s.CanBegin := by
  unfold beginConfigure CanBegin
  cases s.status <;> simp

/-- What a stream is after it has begun. -/
theorem beginConfigure_begun (h : s.beginConfigure b = some t) :
    t.isConfigureActive = true ∧ (t.status = .reconfigActive ↔ s.WasConfigured) ∧ t.id = s.id ∧
      t.pendingBufferCount = s.pendingBufferCount ∧ t.oldUsage = s.oldUsage ∧
      t.oldMaxBuffers = s.oldMaxBuffers := by
  unfold beginConfigure at h
  unfold isConfigureActive WasConfigured
  cases hstatus : s.status with
  | error | prepareActive =>
    rw [hstatus] at h
    cases h
  | initialized | configured | configActive | reconfigActive =>
    rw [hstatus] at h
    obtain rfl := Option.some.inj h
    simp [hstatus]

/-- An active configuration ends well under these conditions. -/
theorem endConfigure_eq_zero_iff (h : s.isConfigureActive = true) :
    (s.endConfigure b acquired).1 = 0 ↔ 0 ≤ acquired ∧
      (s.status = .reconfigActive → s.pendingBufferCount = 0 ∨
        b.toCommon s.usage = s.oldUsage ∧ s.oldMaxBuffers = s.maxBuffers) := by
  have hpos : s.pendingBufferCount = 0 ↔ ¬ 0 < s.pendingBufferCount := by
    rw [← UInt32.toNat_inj, UInt32.lt_iff_toNat_lt]
    simp
  unfold endConfigure
  cases hstatus : s.status with
  | error | initialized | configured | prepareActive => simp [isConfigureActive, hstatus] at h
  | configActive =>
    by_cases hmon : acquired < 0
    · simp [hmon]
      omega
    · have hunchanged : isUnchanged b { s with monitorId := acquired } = false := by
        simp [isUnchanged, hstatus]
      simp [hmon, hunchanged, configureLocked, hstatus]
      omega
  | reconfigActive =>
    by_cases hmon : acquired < 0
    · simp [hmon]
      omega
    · have hge : 0 ≤ acquired := by omega
      by_cases hsame : b.toCommon s.usage = s.oldUsage ∧ s.oldMaxBuffers = s.maxBuffers
      · simp [hmon, isUnchanged, hstatus, hsame, hge]
      · have hunchanged : isUnchanged b { s with monitorId := acquired } = false := by
          simp only [isUnchanged, hstatus, decide_true, Bool.true_and, Bool.and_eq_false_imp,
            decide_eq_true_iff, decide_eq_false_iff_not]
          exact fun hu hm => hsame ⟨hu, hm⟩
        by_cases hpending : 0 < s.pendingBufferCount
        · simp [hmon, hunchanged, configureLocked, hstatus, closeLocked, hpending, hsame, hpos, ENOSYS]
        · simp [hmon, hunchanged, configureLocked, hstatus, closeLocked, hpending, hpos, hge]

/-- A stream that has begun, as the HAL leaves it, ends as it can. -/
theorem endConfigure_takeStream_iff (h : s.beginConfigure env.words = some t) :
    ((ConfigClient.takeStream env reply t).endConfigure env.words
      (env.acquireMonitor t.id)).1 = 0 ↔ s.CanEnd env reply := by
  obtain ⟨hactive, hwas, hid, hpending, husage, hmax⟩ := beginConfigure_begun h
  have hactive' : (ConfigClient.takeStream env reply t).isConfigureActive = true := hactive
  rw [endConfigure_eq_zero_iff hactive']
  unfold CanEnd ConfigClient.takeStream
  rw [← hwas, ← hid, ← hpending, ← husage, ← hmax]

end ConfigStream

namespace ConfigClient

variable {env : ConfigureEnv} {d : ConfigClient} {c : StreamConfiguration} {reply : HalReply}

/-- The streams that have begun, where all can. -/
def begun (env : ConfigureEnv) (d : ConfigClient) : ConfigClient :=
  resetInput { d with streams := (d.beginStreams env).2 }

/-- What the HAL replies to the streams that have begun. -/
def replyOf (env : ConfigureEnv) (d : ConfigClient) : HalReply :=
  env.configureStreams ((d.begun env).offer env)

/-- Without the streams. -/
def toStreamClient (d : ConfigClient) : StreamClient Unit where
  state := d.state
  reconfig := d.reconfig
  inputStream := d.inputStream

/-- What the streams and the HAL answer. -/
def halAnswers (env : ConfigureEnv) (d : ConfigClient) : HalAnswers where
  begins := (d.beginStreams env).1 = 0
  configure := (d.replyOf env).res
  abort := (((d.begun env).takeBack env (d.replyOf env)).abortStreams env).1
  ending := (((d.begun env).takeBack env (d.replyOf env)).endStreams env).1

theorem toStreamClient_resetInput : d.resetInput.toStreamClient = d.toStreamClient := by
  unfold resetInput
  split
  · rfl
  · rfl

theorem toStreamClient_takeBack : (d.takeBack env reply).toStreamClient = d.toStreamClient := by
  unfold takeBack
  dsimp only
  split
  · rfl
  · rfl

theorem toStreamClient_begun : (d.begun env).toStreamClient = d.toStreamClient :=
  toStreamClient_resetInput

theorem beginStreams_code (h : (d.beginStreams env).1 ≠ 0) : (d.beginStreams env).1 = -ENOSYS := by
  obtain ⟨s, -, heq⟩ := exists_of_sweep_ne_ok h
  cases hs : s.beginConfigure env.words with
  | none => simpa [beginStreams, hs] using heq
  | some t => exact absurd (by simpa [beginStreams, hs] using heq) h

theorem toStreamClient_abandonConfigure : (d.abandonConfigure env).map id toStreamClient =
    if (d.abortStreams env).1 ≠ 0 then ((d.abortStreams env).1, d.toStreamClient)
    else (-EINVAL, { d.toStreamClient with state := .notConfigured, reconfig := true }) := by
  unfold abandonConfigure
  cases h : d.abortStreams env with
  | mk res streams =>
    by_cases hres : res = 0
    · subst hres
      rfl
    · simp only [if_pos hres]
      rfl

theorem toStreamClient_finishConfigure : (d.finishConfigure env).map id toStreamClient =
    if (d.endStreams env).1 ≠ 0 then ((d.endStreams env).1, d.toStreamClient)
    else (0, { d.toStreamClient with reconfig := false, state := .configured }) := by
  unfold finishConfigure
  cases h : d.endStreams env with
  | mk res streams =>
    by_cases hres : res = 0
    · subst hres
      rfl
    · simp only [if_pos hres]
      rfl

theorem configureStreamsLocked_of_begin (hidle : d.state = .notConfigured ∨ d.state = .configured)
    (hreconfig : d.reconfig = true) (hbegin : (d.beginStreams env).1 = 0) :
    d.configureStreamsLocked env =
      let e := (d.begun env).takeBack env (d.replyOf env)
      if (d.replyOf env).res = -EINVAL then e.abandonConfigure env
      else if (d.replyOf env).res ≠ 0 then ((d.replyOf env).res, e)
      else e.finishConfigure env := by
  have hstate : ¬ (d.state ≠ .notConfigured ∧ d.state ≠ .configured) := by tauto
  unfold configureStreamsLocked replyOf begun
  cases hb : d.beginStreams env with
  | mk res streams =>
    rw [hb] at hbegin
    obtain rfl : res = 0 := hbegin
    simp [hstate, hreconfig]

theorem configureStreamsLocked_of_not_begin
    (hidle : d.state = .notConfigured ∨ d.state = .configured) (hreconfig : d.reconfig = true)
    (hbegin : (d.beginStreams env).1 ≠ 0) :
    d.configureStreamsLocked env = (-ENOSYS, { d with streams := (d.beginStreams env).2 }) := by
  have hstate : ¬ (d.state ≠ .notConfigured ∧ d.state ≠ .configured) := by tauto
  have hcode := beginStreams_code hbegin
  unfold configureStreamsLocked
  cases hb : d.beginStreams env with
  | mk res streams =>
    rw [hb] at hcode
    obtain rfl : res = -ENOSYS := hcode
    simp [hstate, hreconfig, ENOSYS]

/-- Without the streams, it is the configuration of the calls that create and delete streams. -/
theorem toStreamClient_configureStreamsLocked :
    (d.configureStreamsLocked env).map id toStreamClient =
      d.toStreamClient.configureStreamsLocked (d.halAnswers env) := by
  by_cases hidle : d.state = .notConfigured ∨ d.state = .configured
  · have hstate : ¬ (d.state ≠ .notConfigured ∧ d.state ≠ .configured) := by tauto
    cases hreconfig : d.reconfig with
    | false =>
      simp [StreamClient.configureStreamsLocked, configureStreamsLocked, toStreamClient, hreconfig,
        hstate]
    | true =>
      by_cases hbegin : (d.beginStreams env).1 = 0
      · have hsame : ((d.begun env).takeBack env (d.replyOf env)).toStreamClient =
            d.toStreamClient := toStreamClient_takeBack.trans toStreamClient_begun
        have hanswers : d.toStreamClient.configureStreamsLocked (d.halAnswers env) =
            if (d.replyOf env).res = -EINVAL then
              if (d.halAnswers env).abort ≠ 0 then ((d.halAnswers env).abort, d.toStreamClient)
              else (-EINVAL, { d.toStreamClient with state := .notConfigured, reconfig := true })
            else if (d.replyOf env).res ≠ 0 then ((d.replyOf env).res, d.toStreamClient)
            else if (d.halAnswers env).ending ≠ 0 then ((d.halAnswers env).ending, d.toStreamClient)
            else (0, { d.toStreamClient with reconfig := false, state := .configured }) := by
          have hstate' : ¬ (d.toStreamClient.state ≠ .notConfigured ∧
            d.toStreamClient.state ≠ .configured) := hstate
          have hreconfig' : d.toStreamClient.reconfig = true := hreconfig
          have hbegins : (d.halAnswers env).begins = true := decide_eq_true hbegin
          have hreply : (d.halAnswers env).configure = (d.replyOf env).res := rfl
          unfold StreamClient.configureStreamsLocked
          rw [if_neg hstate', hreconfig', hbegins, hreply]
          rfl
        rw [configureStreamsLocked_of_begin hidle hreconfig hbegin, hanswers]
        dsimp only
        split
        · rw [toStreamClient_abandonConfigure, hsame]
          rfl
        · split
          · simp [hsame]
          · rw [toStreamClient_finishConfigure, hsame]
            rfl
      · rw [configureStreamsLocked_of_not_begin hidle hreconfig hbegin]
        simp [StreamClient.configureStreamsLocked, toStreamClient, hreconfig, hstate, halAnswers,
          hbegin]
  · have hstate : d.state ≠ .notConfigured ∧ d.state ≠ .configured := by tauto
    simp [StreamClient.configureStreamsLocked, configureStreamsLocked, toStreamClient, hstate]

/-- Everything that `EndConfigure` depends on goes well: the call is not refused, the device is idle, and
either there is nothing to do on a configured device, or every stream can begin, the HAL accepts, and
every stream can end. -/
structure GoesWell (env : ConfigureEnv) (d : ConfigClient) (c : StreamConfiguration) : Prop where
  cameraModule : d.cameraModule = true
  hfr : c.isConstrainedHighSpeed = true → d.isHfrSupported = true
  idle : d.state = .configured ∨ d.state = .notConfigured ∧ d.reconfig = true
  begins : d.reconfig = true → ∀ s ∈ d.streams, s.CanBegin
  accepted : d.reconfig = true → ((d.takeConfiguration c).replyOf env).res = 0
  ends : d.reconfig = true → ∀ s ∈ d.streams, s.CanEnd env ((d.takeConfiguration c).replyOf env)

/-- How a configuration can end: the device is busy, there is nothing to do, something fails, or the streams
are configured. -/
theorem configureStreamsLocked_cases {σ : Type} (e : StreamClient σ) (hal : HalAnswers) :
    (¬ (e.state = .notConfigured ∨ e.state = .configured) ∧
      e.configureStreamsLocked hal = (-ENOSYS, e)) ∨
    (e.state = .notConfigured ∨ e.state = .configured) ∧
      ((e.reconfig = false ∧ e.configureStreamsLocked hal = (0, e)) ∨
      (e.reconfig = true ∧ ¬ (hal.begins = true ∧ hal.configure = 0 ∧ hal.ending = 0) ∧
        (e.configureStreamsLocked hal).1 ≠ 0 ∧ (e.configureStreamsLocked hal).2.reconfig = true) ∨
      (e.reconfig = true ∧ (hal.begins = true ∧ hal.configure = 0 ∧ hal.ending = 0) ∧
        e.configureStreamsLocked hal = (0, { e with reconfig := false, state := .configured }))) := by
  by_cases hidle : e.state = .notConfigured ∨ e.state = .configured
  · right
    refine ⟨hidle, ?_⟩
    have hstate : ¬ (e.state ≠ .notConfigured ∧ e.state ≠ .configured) := by tauto
    cases hreconfig : e.reconfig with
    | false =>
      left
      simp [StreamClient.configureStreamsLocked, hstate, hreconfig]
    | true =>
      right
      unfold StreamClient.configureStreamsLocked
      rw [if_neg hstate, hreconfig]
      cases hbegins : hal.begins with
      | false => exact .inl ⟨rfl, by simp, by simp [ENOSYS], by simp [hreconfig]⟩
      | true =>
        by_cases hinvalid : hal.configure = -EINVAL
        · left
          by_cases habort : hal.abort = 0
          · simp [hinvalid, habort, EINVAL]
          · simp [hinvalid, habort, EINVAL, hreconfig]
        · by_cases hrefused : hal.configure = 0
          · by_cases hending : hal.ending = 0
            · simp [hrefused, hending, EINVAL]
            · simp [hrefused, hending, EINVAL, hreconfig]
          · simp [hinvalid, hrefused, hreconfig]
  · left
    refine ⟨hidle, ?_⟩
    have hstate : e.state ≠ .notConfigured ∧ e.state ≠ .configured := by tauto
    exact if_pos hstate

/-- It returns 0 exactly where nothing fails. -/
theorem configureStreamsLocked_eq_zero_iff {σ : Type} {e : StreamClient σ} {hal : HalAnswers} :
    (e.configureStreamsLocked hal).1 = 0 ↔
      (e.state = .notConfigured ∨ e.state = .configured) ∧
        (e.reconfig = true → hal.begins = true ∧ hal.configure = 0 ∧ hal.ending = 0) := by
  rcases configureStreamsLocked_cases e hal with ⟨hbusy, heq⟩ | ⟨hidle, ⟨hreconfig, heq⟩ |
    ⟨hreconfig, hfails, hres, -⟩ | ⟨hreconfig, hwell, heq⟩⟩
  · simp [heq, hbusy, ENOSYS]
  · simp [heq, hidle, hreconfig]
  · exact iff_of_false hres fun h => hfails (h.2 hreconfig)
  · exact iff_of_true (by rw [heq]) ⟨hidle, fun _ => hwell⟩

/-- The streams are configured afterwards exactly where it returns 0 and has had something to do, or they
were configured before. -/
theorem configured_configureStreamsLocked_iff {σ : Type} (e : StreamClient σ) (hal : HalAnswers) :
    ((e.configureStreamsLocked hal).2.state = .configured ∧
      (e.configureStreamsLocked hal).2.reconfig = false) ↔
      (e.configureStreamsLocked hal).1 = 0 ∧ (e.reconfig = true ∨ e.state = .configured) := by
  rcases configureStreamsLocked_cases e hal with ⟨hbusy, heq⟩ | ⟨-, ⟨hreconfig, heq⟩ |
    ⟨-, -, hres, hafter⟩ | ⟨hreconfig, -, heq⟩⟩
  · rw [heq]
    exact iff_of_false (fun h => hbusy (.inr h.1)) fun h => by simp [ENOSYS] at h
  · simp [heq, hreconfig]
  · exact iff_of_false (fun h => by simp [hafter] at h) fun h => hres h.1
  · rw [heq]
    exact iff_of_true ⟨rfl, rfl⟩ ⟨rfl, .inl hreconfig⟩

theorem beginStreams_eq_zero_iff (env : ConfigureEnv) :
    (d.beginStreams env).1 = 0 ↔ ∀ s ∈ d.streams, s.CanBegin := by
  unfold beginStreams
  rw [sweep_fst_eq_ok_iff]
  apply forall₂_congr
  intro s _
  rw [← ConfigStream.beginConfigure_isSome (b := env.words)]
  cases s.beginConfigure env.words with
  | none => simp [ENOSYS]
  | some t => simp

theorem streams_resetInput : d.resetInput.streams = d.streams := by
  unfold resetInput
  split
  · rfl
  · rfl

theorem streams_takeBack : (d.takeBack env reply).streams = d.streams.map (takeStream env reply) := by
  unfold takeBack
  dsimp only
  split
  · rfl
  · rfl

theorem endStreams_eq_zero_iff (hbegin : (d.beginStreams env).1 = 0) :
    (((d.begun env).takeBack env reply).endStreams env).1 = 0 ↔
      ∀ s ∈ d.streams, s.CanEnd env reply := by
  have hcan := (beginStreams_eq_zero_iff env).mp hbegin
  have hbegun : (d.beginStreams env).2 = _ := sweep_snd_of_ok hbegin
  unfold endStreams
  rw [sweep_fst_eq_ok_iff, streams_takeBack, begun, streams_resetInput, hbegun, List.map_map,
    List.forall_mem_map]
  apply forall₂_congr
  intro s hs
  obtain ⟨t, ht⟩ := Option.isSome_iff_exists.mp
    (ConfigStream.beginConfigure_isSome (b := env.words) |>.mpr (hcan s hs))
  have hactive : (takeStream env reply t).isConfigureActive = true :=
    (ConfigStream.beginConfigure_begun ht).1
  simp only [Function.comp_apply, ht, hactive, if_true]
  exact ConfigStream.endConfigure_takeStream_iff (t := t) ht

/-- Where `ConfigureStreamsLocked` succeeds. -/
theorem locked_eq_zero_iff (env : ConfigureEnv) (d : ConfigClient) :
    (d.configureStreamsLocked env).1 = 0 ↔
    (d.state = .notConfigured ∨ d.state = .configured) ∧
      (d.reconfig = true → (∀ s ∈ d.streams, s.CanBegin) ∧ (d.replyOf env).res = 0 ∧
        ∀ s ∈ d.streams, s.CanEnd env (d.replyOf env)) := by
  have hfst : (d.configureStreamsLocked env).1 =
      (d.toStreamClient.configureStreamsLocked (d.halAnswers env)).1 := by
    rw [← toStreamClient_configureStreamsLocked]
    rfl
  rw [hfst, configureStreamsLocked_eq_zero_iff]
  apply and_congr_right
  intro _
  apply imp_congr_right
  intro _
  have hbegins : (d.halAnswers env).begins = true ↔ ∀ s ∈ d.streams, s.CanBegin := by
    rw [← beginStreams_eq_zero_iff env]
    exact decide_eq_true_iff
  rw [hbegins]
  apply and_congr_right
  intro hcan
  apply and_congr_right
  intro _
  exact endStreams_eq_zero_iff ((beginStreams_eq_zero_iff env).mpr hcan)

theorem isConfigured_locked_iff (env : ConfigureEnv) (d : ConfigClient) :
    (d.configureStreamsLocked env).2.IsConfigured ↔
    (d.configureStreamsLocked env).1 = 0 ∧ (d.reconfig = true ∨ d.state = .configured) := by
  have h := configured_configureStreamsLocked_iff d.toStreamClient (d.halAnswers env)
  rw [← toStreamClient_configureStreamsLocked] at h
  exact h

/-- What `EndConfigure` returns where it is not refused: the error code as a truth value. -/
theorem endConfigure_of_not_refused (env : ConfigureEnv) (hmodule : d.cameraModule = true)
    (hhfr : c.isConstrainedHighSpeed = true → d.isHfrSupported = true) :
    d.endConfigure env c = d.configureStreams env c ∧
      d.configureCode env c = some ((d.takeConfiguration c).configureStreamsLocked env).1 := by
  have hallowed : (c.isConstrainedHighSpeed && !d.isHfrSupported) = false := by
    cases hspeed : c.isConstrainedHighSpeed with
    | false => rfl
    | true => simp [hhfr hspeed]
  constructor
  · simp [endConfigure, hmodule, hallowed]
  · simp [configureCode, hmodule, hallowed]

/-- A call that is refused is told a code of its own. -/
theorem not_reports_of_refused
    (hrefused : (!d.cameraModule || c.isConstrainedHighSpeed && !d.isHfrSupported) = true) :
    ¬ d.Reports env c := by
  intro h
  have hres : (d.endConfigure env c).1 ≠ 0 := by
    unfold endConfigure
    cases hmodule : d.cameraModule with
    | false => simp [ENODEV]
    | true =>
      rw [hmodule] at hrefused
      have hspeed : (c.isConstrainedHighSpeed && !d.isHfrSupported) = true := hrefused
      simp [hspeed, EINVAL]
  obtain ⟨code, hsome, -⟩ := h.code fun hconf => hres (h.zero.mpr hconf)
  simp [configureCode, hrefused] at hsome

/-- The caller is told what has become of the configuration exactly where all goes well: of an error it is
never told the code. -/
theorem reports_iff_goesWell : d.Reports env c ↔ d.GoesWell env c := by
  cases hrefused : !d.cameraModule || c.isConstrainedHighSpeed && !d.isHfrSupported with
  | true =>
    refine iff_of_false (not_reports_of_refused hrefused) fun h => ?_
    have hhfr := h.hfr
    simp_all [h.cameraModule]
  | false =>
    obtain ⟨hmodule, hspeed⟩ := Bool.or_eq_false_iff.mp hrefused
    have hmodule : d.cameraModule = true := by simpa using hmodule
    have hhfr : c.isConstrainedHighSpeed = true → d.isHfrSupported = true := by simpa using hspeed
    obtain ⟨hend, hcode⟩ := endConfigure_of_not_refused env hmodule hhfr
    have hconf := isConfigured_locked_iff env (d.takeConfiguration c)
    have hzero := locked_eq_zero_iff env (d.takeConfiguration c)
    have hafter : (d.endConfigure env c).2 = ((d.takeConfiguration c).configureStreamsLocked env).2 := by
      rw [hend]
      rfl
    by_cases hcodezero : ((d.takeConfiguration c).configureStreamsLocked env).1 = 0
    · have hres : (d.endConfigure env c).1 = 0 := by simp [hend, configureStreams, hcodezero]
      obtain ⟨hidle, hwell⟩ := hzero.mp hcodezero
      have hreports : d.Reports env c ↔ d.reconfig = true ∨ d.state = .configured := by
        constructor
        · intro h
          exact (hconf.mp (hafter ▸ h.zero.mp hres)).2
        · intro h
          have hnow : (d.endConfigure env c).2.IsConfigured := hafter ▸ hconf.mpr ⟨hcodezero, h⟩
          exact ⟨iff_of_true hres hnow, fun hnot => absurd hnow hnot⟩
      rw [hreports]
      constructor
      · intro h
        refine ⟨hmodule, hhfr, ?_, fun hr => (hwell hr).1, fun hr => (hwell hr).2.1,
          fun hr => (hwell hr).2.2⟩
        rcases hidle with hstate | hstate
        · rcases h with hr | hs
          · exact .inr ⟨hstate, hr⟩
          · exact .inl hs
        · exact .inl hstate
      · intro h
        rcases h.idle with hs | ⟨-, hr⟩
        · exact .inr hs
        · exact .inl hr
    · have hres : (d.endConfigure env c).1 = 1 := by simp [hend, configureStreams, hcodezero]
      refine iff_of_false (fun h => ?_) fun h => hcodezero (hzero.mpr ⟨?_, fun hr =>
        ⟨h.begins hr, h.accepted hr, h.ends hr⟩⟩)
      · have hnot : ¬ (d.endConfigure env c).2.IsConfigured := by
          intro hnow
          rw [hafter, hconf] at hnow
          exact hcodezero hnow.1
        obtain ⟨code, -, hneg, heq⟩ := h.code hnot
        omega
      · rcases h.idle with hs | ⟨hs, -⟩
        · exact .inr hs
        · exact .inl hs

/-- A new stream, and a HAL whose device is gone. -/
def newStream : ConfigStream where
  totalBufferCount := 0
  status := .initialized
  id := 0
  usage := 0
  maxBuffers := 4
  clientUsage := 0x4100
  clientMaxBuffers := 4

def goneDevice : ConfigureEnv where
  words := .ofGbm .consecutive
  configureStreams _ := ⟨-ENODEV, fun _ => (0, 0)⟩
  acquireMonitor _ := 1

/-- The caller is told 1, where the streams are not configured and the code is `-ENODEV`. -/
theorem gone_device_told_one : ¬ ∀ (env : ConfigureEnv) (d : ConfigClient) (c : StreamConfiguration),
    d.Reports env c := by
  intro hall
  have hstate : (endConfigure goneDevice { streams := [newStream] } {}).2.state = .notConfigured := by
    decide
  have hres : (endConfigure goneDevice { streams := [newStream] } {}).1 = 1 := by decide
  obtain ⟨code, -, hneg, heq⟩ := (hall goneDevice { streams := [newStream] } {}).code fun h => by
    rw [h.1] at hstate
    cases hstate
  omega

end ConfigClient

end QmmfSdk.Camera3
