import QmmfSdk.Library.OrdMap

/-! `CreateStream` and `CreateInputStream` with what they return and the streams that they register,
and what a call that fails leaves behind. -/
namespace QmmfSdk.Camera3

open Library

/-- `state_`. -/
inductive ClientState where
  | notInitialized
  | closed
  | notConfigured
  | configured
  | running
  | error
  deriving DecidableEq, Repr

def EINVAL : Int := 22
def ENOSYS : Int := 38

/-- `HAL_PIXEL_FORMAT_BLOB`. -/
def formatBlob : Int := 0x21

/-- `CameraStreamParameters`; `cb` says whether there is a callback. -/
structure StreamParameters where
  width : Nat
  height : Nat
  format : Int
  cb : Bool
  deriving DecidableEq, Repr

/-- `CameraInputStreamParameters`; the last two say whether there are callbacks. -/
structure InputParameters where
  width : Nat
  height : Nat
  format : Int
  getInputBuffer : Bool
  returnInputBuffer : Bool
  deriving DecidableEq, Repr

/-- `input_stream_`, which is there when its id is not negative. -/
structure InputStream where
  width : Nat := 0
  height : Nat := 0
  format : Int := 0
  streamId : Int := -1
  deriving DecidableEq, Repr

/-- How a wait ends: its result, and the state that the device is in by then. -/
structure WaitEnd where
  res : Int
  state : ClientState
  deriving DecidableEq, Repr

/-- What `ConfigureStreamsLocked` gets from the streams and the HAL: whether every stream begins its
configuration, what `configure_streams` returns, and the first failure of the streams that abort or
end theirs. -/
structure HalAnswers where
  begins : Bool := true
  configure : Int := 0
  abort : Int := 0
  ending : Int := 0
  deriving DecidableEq, Repr

/-- What a call is told on its way. `add` is what `streams_.add` returns and `pending` says whether
the handler has a request when it is resumed. -/
structure CallAnswers where
  blobSize : Int := 1
  add : Int := 0
  wait : WaitEnd := ⟨0, .configured⟩
  hal : HalAnswers := {}
  pending : Bool := true
  resume : WaitEnd := ⟨0, .running⟩
  deriving DecidableEq, Repr

universe u

/-- The members of `Camera3DeviceClient` that the two calls read and write; `togglePause` is the
handler's. A stream is the object that `streams_` points to. -/
structure StreamClient (σ : Type u) where
  state : ClientState := .notConfigured
  togglePause : Bool := false
  pauseStateNotify : Bool := false
  reconfig : Bool := false
  streams : OrdMap Nat σ := ∅
  inputStream : InputStream := {}
  nextStreamId : Nat := 0

/-- The two calls that create streams; a stream is allocated before it is registered. -/
inductive CreateCall (σ : Type u) where
  | stream (params : StreamParameters) (newStream : σ)
  | inputStream (params : InputParameters)

namespace StreamClient

variable {σ : Type u} {d e : StreamClient σ} {call : CreateCall σ} {ans : CallAnswers}
  {params : StreamParameters} {input : InputParameters} {newStream : σ} {res : Int}

/-- `SetErrorStateLocked`. -/
def setErrorStateLocked (d : StreamClient σ) : StreamClient σ :=
  match d.state with
  | .error | .notInitialized | .closed => d
  | .notConfigured | .configured | .running => { d with togglePause := true, state := .error }

def internalPauseAndWaitLocked (d : StreamClient σ) (wait : WaitEnd) : Int × StreamClient σ :=
  let d := { d with togglePause := true, pauseStateNotify := true, state := wait.state }
  (wait.res, if wait.res ≠ 0 then d.setErrorStateLocked else d)

/-- Its result is not looked at by the calls that create streams. -/
def internalResumeLocked (d : StreamClient σ) (pending : Bool) (wait : WaitEnd) : StreamClient σ :=
  let d := { d with togglePause := false }
  if !pending then d
  else
    let d := { d with state := wait.state }
    { if wait.res ≠ 0 then d.setErrorStateLocked else d with pauseStateNotify := false }

def configureStreamsLocked (d : StreamClient σ) (hal : HalAnswers) : Int × StreamClient σ :=
  if d.state ≠ .notConfigured ∧ d.state ≠ .configured then (-ENOSYS, d)
  else if !d.reconfig then (0, d)
  else if !hal.begins then (-ENOSYS, d)
  else if hal.configure = -EINVAL then
    if hal.abort ≠ 0 then (hal.abort, d)
    else (-EINVAL, { d with state := .notConfigured, reconfig := true })
  else if hal.configure ≠ 0 then (hal.configure, d)
  else if hal.ending ≠ 0 then (hal.ending, d)
  else (0, { d with reconfig := false, state := .configured })

/-- A call that has paused the device configures it and resumes. -/
def continueCaptures (d : StreamClient σ) (wasActive : Bool) (ans : CallAnswers) :
    Int × StreamClient σ :=
  if !wasActive then (0, d)
  else
    match d.configureStreamsLocked ans.hal with
    | (0, d) => (0, d.internalResumeLocked ans.pending ans.resume)
    | (res, d) => (res, d)

/-- `CreateStream` from where the device is idle. -/
def createStreamIdle (d : StreamClient σ) (params : StreamParameters) (newStream : σ)
    (wasActive : Bool) (ans : CallAnswers) : Int × StreamClient σ :=
  if params.format = formatBlob ∧ ans.blobSize ≤ 0 then (-EINVAL, d)
  else if ans.add < 0 then (ans.add, d)
  else
    let d := { d with streams := d.streams.insert d.nextStreamId newStream, reconfig := true }
    match d.continueCaptures wasActive ans with
    | (0, d) => (d.nextStreamId, { d with nextStreamId := d.nextStreamId + 1 })
    | (res, d) => (res, d)

/-- `CreateInputStream` from where the device is idle. -/
def createInputStreamIdle (d : StreamClient σ) (params : InputParameters) (wasActive : Bool)
    (ans : CallAnswers) : Int × StreamClient σ :=
  let d := { d with
    reconfig := true
    inputStream := {
      width := params.width
      height := params.height
      format := params.format
      streamId := d.nextStreamId }
    nextStreamId := d.nextStreamId + 1 }
  match d.continueCaptures wasActive ans with
  | (0, d) => (d.inputStream.streamId, d)
  | (res, d) => (res, d)

/-- The switch on the state; a running device is paused, and must not run when it goes on. -/
def whenIdle (d : StreamClient σ) (wait : WaitEnd)
    (idle : StreamClient σ → Bool → Int × StreamClient σ) : Option (Int × StreamClient σ) :=
  match d.state with
  | .error | .notInitialized | .closed => some (-ENOSYS, d)
  | .notConfigured | .configured => some (idle d false)
  | .running =>
    match d.internalPauseAndWaitLocked wait with
    | (0, d) => if d.state = .running then none else some (idle d true)
    | (res, d) => some (res, d.setErrorStateLocked)

def createStream (d : StreamClient σ) (params : StreamParameters) (newStream : σ)
    (ans : CallAnswers) : Option (Int × StreamClient σ) :=
  if !params.cb then some (-EINVAL, d)
  else d.whenIdle ans.wait fun d wasActive => d.createStreamIdle params newStream wasActive ans

def createInputStream (d : StreamClient σ) (params : InputParameters) (ans : CallAnswers) :
    Option (Int × StreamClient σ) :=
  if !params.getInputBuffer ∨ !params.returnInputBuffer then some (-EINVAL, d)
  else if 0 ≤ d.inputStream.streamId then some (-ENOSYS, d)
  else d.whenIdle ans.wait fun d wasActive => d.createInputStreamIdle params wasActive ans

/-- `none` is a failed assertion. -/
def create (d : StreamClient σ) (ans : CallAnswers) : CreateCall σ → Option (Int × StreamClient σ)
  | .stream params newStream => d.createStream params newStream ans
  | .inputStream params => d.createInputStream params ans

/-- What a failed call has to leave alone. -/
structure Unchanged (d e : StreamClient σ) : Prop where
  streams : e.streams = d.streams
  inputStream : e.inputStream = d.inputStream
  nextStreamId : e.nextStreamId = d.nextStreamId
  reconfig : e.reconfig = d.reconfig
  togglePause : e.togglePause = d.togglePause

/-- A call that fails changes nothing. -/
def FailsClean (d : StreamClient σ) (ans : CallAnswers) (call : CreateCall σ) : Prop :=
  ∀ res e, d.create ans call = some (res, e) → res < 0 → Unchanged d e

/-- `new` gives an object that is not in use. -/
def Fresh (d : StreamClient σ) : CreateCall σ → Prop
  | .stream _ newStream => ∀ id : Nat, d.streams[id]? ≠ some newStream
  | .inputStream _ => True

/-! ### When a failure leaves something -/

/-- Refused before the state is looked at. -/
def refused (d : StreamClient σ) : CreateCall σ → Bool
  | .stream params _ => !params.cb
  | .inputStream params => !params.getInputBuffer || !params.returnInputBuffer ||
      decide (0 ≤ d.inputStream.streamId)

/-- Refused after the device is idle, before anything is registered. -/
def refusedIdle (ans : CallAnswers) : CreateCall σ → Bool
  | .stream params _ => decide (params.format = formatBlob) && decide (ans.blobSize ≤ 0) ||
      decide (ans.add < 0)
  | .inputStream _ => false

/-- What the configuration of changed streams returns in a state. -/
def configureResult (state : ClientState) (hal : HalAnswers) : Int :=
  if (state ≠ .notConfigured ∧ state ≠ .configured) ∨ !hal.begins then -ENOSYS
  else if hal.configure = -EINVAL then if hal.abort ≠ 0 then hal.abort else -EINVAL
  else if hal.configure ≠ 0 then hal.configure
  else hal.ending

/-- The device does not run, or the call is refused at once; or it was paused before and the call ends
before it registers the stream; or the pause and the configuration succeed. -/
def Reverts (d : StreamClient σ) (ans : CallAnswers) (call : CreateCall σ) : Prop :=
  d.state ≠ .running ∨ d.refused call = true ∨
    if ans.wait.res ≠ 0 then ans.wait.res < 0 → d.togglePause = true
    else ans.wait.state = .running ∨
      if refusedIdle ans call then d.togglePause = true
      else 0 ≤ configureResult ans.wait.state ans.hal

/-- Where a call goes on after its pause, or gives up. -/
def paused (d : StreamClient σ) (state : ClientState) : StreamClient σ :=
  { d with togglePause := true, pauseStateNotify := true, state }

/-- What the call does from where the device is idle. -/
def idle (ans : CallAnswers) : CreateCall σ → StreamClient σ → Bool → Int × StreamClient σ
  | .stream params newStream, d, wasActive => d.createStreamIdle params newStream wasActive ans
  | .inputStream params, d, wasActive => d.createInputStreamIdle params wasActive ans

theorem unchanged_refl : Unchanged d d := ⟨rfl, rfl, rfl, rfl, rfl⟩

theorem unchanged_paused_iff (state : ClientState) :
    Unchanged d (d.paused state) ↔ d.togglePause = true := by
  constructor
  · intro h
    exact h.togglePause.symm
  · intro h
    exact ⟨rfl, rfl, rfl, rfl, h.symm⟩

/-- A paused device only gets its state changed by an error. -/
theorem setErrorStateLocked_of_paused (h : d.togglePause = true) :
    ∃ state, d.setErrorStateLocked = { d with state } := by
  unfold setErrorStateLocked
  rw [← h]
  split
  · exact ⟨d.state, rfl⟩
  · exact ⟨d.state, rfl⟩
  · exact ⟨d.state, rfl⟩
  · exact ⟨.error, rfl⟩
  · exact ⟨.error, rfl⟩
  · exact ⟨.error, rfl⟩

theorem create_of_refused (ans : CallAnswers) (h : d.refused call = true) :
    ∃ res, d.create ans call = some (res, d) := by
  cases call with
  | stream params newStream =>
    refine ⟨-EINVAL, ?_⟩
    simp only [create, createStream]
    rw [if_pos (by simpa [refused] using h)]
  | inputStream params =>
    simp only [create, createInputStream]
    split
    · exact ⟨_, rfl⟩
    next hcb =>
      have hthere : 0 ≤ d.inputStream.streamId := by
        simp only [refused, Bool.or_eq_true, decide_eq_true_eq] at h
        simp only [Bool.not_eq_true', not_or, Bool.not_eq_false] at hcb
        simpa [hcb.1, hcb.2] using h
      rw [if_pos hthere]
      exact ⟨_, rfl⟩

theorem create_of_not_refused (h : d.refused call = false) :
    d.create ans call = d.whenIdle ans.wait (idle ans call) := by
  cases call with
  | stream params newStream =>
    simp only [create, createStream]
    rw [if_neg (by simpa [refused] using h)]
    rfl
  | inputStream params =>
    simp only [refused, Bool.or_eq_false_iff, Bool.not_eq_false', decide_eq_false_iff_not] at h
    simp only [create, createInputStream]
    rw [if_neg (by simp [h.1]), if_neg h.2]
    rfl

theorem whenIdle_timedOut (run : StreamClient σ → Bool → Int × StreamClient σ)
    (hrunning : d.state = .running) (h : ans.wait.res ≠ 0) :
    ∃ state, d.whenIdle ans.wait run = some (ans.wait.res, d.paused state) := by
  obtain ⟨state, hstate⟩ := setErrorStateLocked_of_paused (d := d.paused ans.wait.state) rfl
  obtain ⟨state', hstate'⟩ := setErrorStateLocked_of_paused (d := d.paused state) rfl
  refine ⟨state', ?_⟩
  simp only [whenIdle, hrunning, internalPauseAndWaitLocked, if_pos h]
  change some (_, (d.paused ans.wait.state).setErrorStateLocked.setErrorStateLocked) = _
  rw [hstate]
  exact congrArg (fun e => some (ans.wait.res, e)) hstate'

theorem whenIdle_paused {run : StreamClient σ → Bool → Int × StreamClient σ}
    (hrunning : d.state = .running) (h : ans.wait.res = 0) :
    d.whenIdle ans.wait run = if ans.wait.state = .running then none
      else some (run (d.paused ans.wait.state) true) := by
  simp only [whenIdle, hrunning, internalPauseAndWaitLocked, h]
  rfl

theorem idle_refused (d : StreamClient σ) (wasActive : Bool) (h : refusedIdle ans call = true) :
    ∃ res, res < 0 ∧ idle ans call d wasActive = (res, d) := by
  cases call with
  | inputStream params => cases h
  | stream params newStream =>
    simp only [refusedIdle, Bool.or_eq_true, Bool.and_eq_true, decide_eq_true_eq] at h
    simp only [idle, createStreamIdle]
    by_cases hblob : params.format = formatBlob ∧ ans.blobSize ≤ 0
    · exact ⟨-EINVAL, by decide, if_pos hblob⟩
    · have hadd : ans.add < 0 := h.resolve_left hblob
      rw [if_neg hblob, if_pos hadd]
      exact ⟨ans.add, hadd, rfl⟩

/-- What is registered for a call. -/
def register (d : StreamClient σ) : CreateCall σ → StreamClient σ
  | .stream _ newStream =>
    { d with streams := d.streams.insert d.nextStreamId newStream, reconfig := true }
  | .inputStream params =>
    { d with
      reconfig := true
      inputStream := {
        width := params.width
        height := params.height
        format := params.format
        streamId := d.nextStreamId }
      nextStreamId := d.nextStreamId + 1 }

/-- Once it is registered, a call ends with the result of the configuration, or with its stream's id. -/
theorem idle_registered {wasActive : Bool} (h : refusedIdle ans call = false) :
    idle ans call d wasActive =
      (match (d.register call).continueCaptures wasActive ans with
      | (0, e) =>
        match call with
        | .stream _ _ => (e.nextStreamId, { e with nextStreamId := e.nextStreamId + 1 })
        | .inputStream _ => (e.inputStream.streamId, e)
      | (res, e) => (res, e)) := by
  cases call with
  | inputStream params => rfl
  | stream params newStream =>
    simp only [refusedIdle, Bool.or_eq_false_iff, Bool.and_eq_false_iff,
      decide_eq_false_iff_not] at h
    simp only [idle, createStreamIdle]
    rw [if_neg (fun hblob => h.1.elim (absurd hblob.1) (absurd hblob.2)), if_neg h.2]
    rfl

theorem configureStreamsLocked_changed (h : d.reconfig = true) (hal : HalAnswers) :
    (d.configureStreamsLocked hal).1 = configureResult d.state hal ∧
      (d.configureStreamsLocked hal).2.streams = d.streams ∧
      (d.configureStreamsLocked hal).2.inputStream = d.inputStream ∧
      (d.configureStreamsLocked hal).2.nextStreamId = d.nextStreamId := by
  unfold configureStreamsLocked configureResult
  by_cases hstate : d.state ≠ .notConfigured ∧ d.state ≠ .configured
  · simp [hstate]
  by_cases hbegins : hal.begins = true
  · simp only [hstate, h, hbegins, Bool.not_true, Bool.false_eq_true, if_false, or_self]
    split
    · split <;> exact ⟨rfl, rfl, rfl, rfl⟩
    split
    · exact ⟨rfl, rfl, rfl, rfl⟩
    split
    · exact ⟨rfl, rfl, rfl, rfl⟩
    next hending => exact ⟨(not_not.mp hending).symm, rfl, rfl, rfl⟩
  · simp [hstate, h, hbegins]

theorem inputStream_internalResumeLocked {pending : Bool} {wait : WaitEnd} :
    (d.internalResumeLocked pending wait).inputStream = d.inputStream := by
  have herror : ∀ e : StreamClient σ, e.setErrorStateLocked.inputStream = e.inputStream := by
    intro e
    unfold setErrorStateLocked
    split <;> rfl
  unfold internalResumeLocked
  dsimp only
  split
  · rfl
  · split
    · exact herror _
    · rfl

theorem register_reconfig : (d.register call).reconfig = true := by
  cases call <;> rfl

theorem register_state (d : StreamClient σ) (call : CreateCall σ) :
    (d.register call).state = d.state := by
  cases call <;> rfl

/-- A registered stream is there, or counted. -/
theorem not_unchanged_of_register {b : StreamClient σ} (hfresh : b.Fresh call)
    (hnext : d.nextStreamId = b.nextStreamId) (hstreams : e.streams = (d.register call).streams)
    (hid : e.nextStreamId = (d.register call).nextStreamId) : ¬ Unchanged b e := by
  intro h
  cases call with
  | stream params newStream =>
    have hget : e.streams[d.nextStreamId]? = some newStream := by
      rw [hstreams]
      exact Std.ExtTreeMap.getElem?_insert_self
    rw [h.streams] at hget
    exact hfresh d.nextStreamId hget
  | inputStream params =>
    have hcount : e.nextStreamId = d.nextStreamId + 1 := hid
    have hsame := h.nextStreamId
    omega

theorem continueCaptures_fails (h : d.reconfig = true)
    (hres : configureResult d.state ans.hal ≠ 0) : d.continueCaptures true ans =
      (configureResult d.state ans.hal, (d.configureStreamsLocked ans.hal).2) := by
  have hconf : d.configureStreamsLocked ans.hal =
      (configureResult d.state ans.hal, (d.configureStreamsLocked ans.hal).2) :=
    Prod.ext (configureStreamsLocked_changed h ans.hal).1 rfl
  rw [continueCaptures, hconf]
  simp only [Bool.not_true, Bool.false_eq_true, if_false]

theorem continueCaptures_succeeds {wasActive : Bool} (h : d.reconfig = true)
    (hres : wasActive = true → configureResult d.state ans.hal = 0) :
    ∃ e, d.continueCaptures wasActive ans = (0, e) ∧ e.inputStream = d.inputStream := by
  cases wasActive with
  | false => exact ⟨d, rfl, rfl⟩
  | true =>
    obtain ⟨hresult, -, hinput, -⟩ := configureStreamsLocked_changed h ans.hal
    have hconf : d.configureStreamsLocked ans.hal = (0, (d.configureStreamsLocked ans.hal).2) :=
      Prod.ext (hresult.trans (hres rfl)) rfl
    refine ⟨(d.configureStreamsLocked ans.hal).2.internalResumeLocked ans.pending ans.resume, ?_,
      inputStream_internalResumeLocked.trans hinput⟩
    rw [continueCaptures, hconf]
    rfl

/-- The configuration fails, and the stream stays registered. -/
theorem idle_fails {b : StreamClient σ} (h : refusedIdle ans call = false)
    (hres : configureResult d.state ans.hal ≠ 0) (hfresh : b.Fresh call)
    (hnext : d.nextStreamId = b.nextStreamId) :
    ∃ e, idle ans call d true = (configureResult d.state ans.hal, e) ∧ ¬ Unchanged b e := by
  obtain ⟨-, hstreams, -, hid⟩ := configureStreamsLocked_changed
    (register_reconfig : (d.register call).reconfig = true) ans.hal
  refine ⟨((d.register call).configureStreamsLocked ans.hal).2, ?_,
    not_unchanged_of_register hfresh hnext hstreams hid⟩
  rw [← register_state d call] at hres ⊢
  rw [idle_registered h, continueCaptures_fails register_reconfig hres]
  split
  next hzero => exact absurd (congrArg Prod.fst hzero) hres
  next hres => exact hres.symm

theorem idle_succeeds (d : StreamClient σ) (wasActive : Bool) (h : refusedIdle ans call = false)
    (hres : wasActive = true → configureResult d.state ans.hal = 0) :
    0 ≤ (idle ans call d wasActive).1 := by
  rw [← register_state d call] at hres
  obtain ⟨e, he, hinput⟩ := continueCaptures_succeeds register_reconfig hres
  rw [idle_registered h, he]
  cases call with
  | stream params newStream => exact Int.natCast_nonneg _
  | inputStream params =>
    change 0 ≤ e.inputStream.streamId
    rw [hinput]
    exact Int.natCast_nonneg _

/-- A device that does not run is not paused, and its streams are registered without a failure. -/
theorem failsClean_of_not_running (hrefused : d.refused call = false)
    (hrunning : d.state ≠ .running) : d.FailsClean ans call := by
  intro res e hcreate hneg
  rw [create_of_not_refused hrefused] at hcreate
  have hidle : some (idle ans call d false) = some (res, e) → Unchanged d e := by
    intro h
    cases hregister : refusedIdle ans call with
    | true =>
      obtain ⟨r, -, hr⟩ := idle_refused d false hregister
      rw [hr] at h
      cases h
      exact unchanged_refl
    | false =>
      have hid := idle_succeeds d false hregister (by simp)
      rw [Option.some.inj h] at hid
      exact absurd hneg (by simpa using hid)
  unfold whenIdle at hcreate
  split at hcreate
  · cases hcreate
    exact unchanged_refl
  · cases hcreate
    exact unchanged_refl
  · cases hcreate
    exact unchanged_refl
  · exact hidle hcreate
  · exact hidle hcreate
  next h => exact absurd h hrunning

/-- A running device is paused; what the call leaves is what the pause leaves, until it registers the
stream. -/
theorem failsClean_running_iff (hfresh : d.Fresh call) (hrefused : d.refused call = false)
    (hrunning : d.state = .running) : d.FailsClean ans call ↔
      if ans.wait.res ≠ 0 then ans.wait.res < 0 → d.togglePause = true
      else ans.wait.state = .running ∨
        if refusedIdle ans call then d.togglePause = true
        else 0 ≤ configureResult ans.wait.state ans.hal := by
  unfold FailsClean
  rw [create_of_not_refused hrefused]
  by_cases hwait : ans.wait.res = 0
  · rw [if_neg (by simpa using hwait), whenIdle_paused hrunning hwait]
    by_cases hstate : ans.wait.state = .running
    · simp [hstate]
    rw [if_neg hstate, or_iff_right hstate]
    cases hregister : refusedIdle ans call with
    | true =>
      obtain ⟨r, hneg, hr⟩ := idle_refused (d.paused ans.wait.state) true hregister
      rw [hr, if_pos rfl, ← unchanged_paused_iff ans.wait.state]
      constructor
      · intro h
        exact h r _ rfl hneg
      · rintro h res e he -
        cases he
        exact h
    | false =>
      rw [if_neg Bool.false_ne_true]
      by_cases hres : configureResult ans.wait.state ans.hal = 0
      · refine iff_of_true (fun res e he hneg => ?_) hres.ge
        have hid := idle_succeeds (d.paused ans.wait.state) true hregister
          fun _ => hres
        rw [Option.some.inj he] at hid
        exact absurd hneg (by simpa using hid)
      · obtain ⟨e, he, hchanged⟩ :=
          idle_fails (d := d.paused ans.wait.state) hregister hres hfresh rfl
        rw [he]
        constructor
        · intro h
          by_contra hneg
          exact hchanged (h _ e rfl (by simpa [paused] using hneg))
        · rintro h res e' he' hneg
          cases he'
          exact absurd hneg (by simpa [paused] using h)
  · obtain ⟨state, hstate⟩ := whenIdle_timedOut (idle ans call) hrunning hwait
    rw [hstate, if_pos hwait, ← unchanged_paused_iff state]
    constructor
    · intro h hneg
      exact h _ _ rfl hneg
    · rintro h res e he hneg
      cases he
      exact h hneg

/-- A call that fails changes nothing exactly when it has paused nothing, or was paused before and
fails before it registers the stream, or does not fail. -/
theorem failsClean_iff (d : StreamClient σ) (ans : CallAnswers) (call : CreateCall σ)
    (hfresh : d.Fresh call) : d.FailsClean ans call ↔ d.Reverts ans call := by
  unfold Reverts
  cases hrefused : d.refused call with
  | true =>
    obtain ⟨r, hr⟩ := create_of_refused ans hrefused
    refine iff_of_true (fun res e h _ => ?_) (.inr (.inl rfl))
    rw [hr] at h
    cases h
    exact unchanged_refl
  | false =>
    by_cases hrunning : d.state = .running
    · rw [failsClean_running_iff hfresh hrefused hrunning, or_iff_right (not_not.mpr hrunning),
        or_iff_right Bool.false_ne_true]
    · exact iff_of_true (failsClean_of_not_running hrefused hrunning) (.inl hrunning)

/-- A camera that streams, and a JPEG stream for which no size is found in its metadata. -/
def streaming : StreamClient Nat :=
  { state := .running, streams := (∅ : OrdMap Nat Nat).insert 0 0, nextStreamId := 1 }

def jpegStream : CreateCall Nat := .stream ⟨1920, 1080, formatBlob, true⟩ 1

theorem fresh_jpegStream : streaming.Fresh jpegStream := by
  intro id h
  simp only [streaming, Std.ExtTreeMap.getElem?_insert, Std.ExtTreeMap.getElem?_empty] at h
  split at h
  · cases h
  · cases h

/-- With a size the stream is created; without one the call fails, and reverts where it was paused. -/
theorem failsClean_jpegStream : streaming.FailsClean {} jpegStream ∧
    (paused streaming .running).FailsClean { blobSize := -EINVAL } jpegStream ∧
    ((paused streaming .running).create { blobSize := -EINVAL } jpegStream).map Prod.fst =
      some (-EINVAL) :=
  ⟨(failsClean_iff streaming {} jpegStream fresh_jpegStream).mpr (.inr (.inr (by decide))),
    (failsClean_iff (paused streaming .running) { blobSize := -EINVAL } jpegStream
      fresh_jpegStream).mpr (.inr (.inr (by decide))), by decide⟩

theorem stays_paused_without_size : ¬ ∀ (d : StreamClient Nat) (ans : CallAnswers)
    (call : CreateCall Nat), d.Fresh call → d.FailsClean ans call := by
  intro h
  have hclean := h streaming { blobSize := -EINVAL } jpegStream fresh_jpegStream
  exact absurd (hclean _ _ rfl (by decide)).togglePause (by decide)

end StreamClient

end QmmfSdk.Camera3
