import QmmfSdk.Camera3.Device

/-! Whether the internal pause of the request handler is undone by the call that has made it. -/
namespace QmmfSdk.Camera3

open Library

namespace Device

variable {cfg : Config} {d t : Device} {a : DeviceAction} {call : StreamCall} {ans : Answers}
  {o : HalConfigure} {s : DeviceState}

/-- Between calls a device that works is not paused, and hides no notification. -/
def Balanced (d : Device) : Prop :=
  d.waits = [] → d.state ≠ .error → d.togglePause = false ∧ d.pauseStateNotify = false

/-- Whether an idle device whose streams have changed gets configured. -/
def configures (d : Device) (ans : Answers) : Bool :=
  (d.state == .notConfigured || d.state == .configured) && ans.configure == .ok

/-- A call that has paused the device finds nothing to refuse, the configuration succeeds, and
there is a request to submit. -/
def resumes (d : Device) (ans : Answers) : StreamCall → Bool
  | .createStream => ans.blobOk && ans.added && d.configures ans && d.loops.pendingRequest
  | .createInputStream => d.configures ans && d.loops.pendingRequest
  | .deleteStream stream =>
    d.inputStream != some stream && d.streams.contains stream && !d.loops.isStreamActive stream &&
      !(d.removeStream stream).streams.isEmpty && d.configures ans && d.loops.pendingRequest

/-- The steps in which a call goes on after its pause. -/
def keepsBalance (d : Device) : DeviceAction → Bool
  | .deleteStream stream false ans =>
    d.state == .error || d.state == .running || d.resumes ans (.deleteStream stream)
  | .wake i true ans => (d.waits[i]?).all fun w =>
    w.resuming || d.state == .error || d.resumes ans w.call
  | _ => true

/-- A pause is owed by a call that has not resumed, and the flag by a call in progress. -/
structure Owed (d : Device) : Prop where
  toggle : d.togglePause = true → d.state = .error ∨ ∃ w ∈ d.waits, w.resuming = false
  notify : d.pauseStateNotify = true → d.state = .error ∨ d.waits ≠ []

theorem Owed.balanced (h : Owed d) : Balanced d := by
  intro hwaits hstate
  constructor
  · rw [← Bool.not_eq_true]
    intro htoggle
    rcases h.toggle htoggle with herror | ⟨w, hw, -⟩
    · exact hstate herror
    · simp [hwaits] at hw
  · rw [← Bool.not_eq_true]
    intro hnotify
    rcases h.notify hnotify with herror | hne
    · exact hstate herror
    · exact hne hwaits

theorem owed_of_error (h : d.state = .error) : Owed d := ⟨fun _ => .inl h, fun _ => .inl h⟩

/-- What does not touch the pause, the state or the calls in progress. -/
theorem Owed.congr (h : Owed d) (htoggle : t.togglePause = d.togglePause)
    (hnotify : t.pauseStateNotify = d.pauseStateNotify) (hstate : t.state = d.state)
    (hwaits : t.waits = d.waits) : Owed t := by
  constructor
  · rw [htoggle, hstate, hwaits]
    exact h.toggle
  · rw [hnotify, hstate, hwaits]
    exact h.notify

theorem owed_updateStatus (h : Owed d) (hs : d.state ≠ .error) : Owed (d.updateStatus s) := by
  constructor
  · intro htoggle
    rcases h.toggle htoggle with herror | ⟨w, hw, hresuming⟩
    · exact absurd herror hs
    · exact .inr ⟨w.note s, List.mem_map_of_mem hw, hresuming⟩
  · intro hnotify
    rcases h.notify hnotify with herror | hne
    · exact absurd herror hs
    · exact .inr (by simpa [updateStatus] using hne)

theorem state_setErrorState : d.setErrorState.state = .error := by
  unfold setErrorState
  split
  · assumption
  · rfl

theorem owed_finish (h : Owed d) : Owed (d.finish call) := by
  cases call <;> exact h.congr rfl rfl rfl rfl

theorem state_finish : (d.finish call).state = d.state := by
  cases call <;> rfl

theorem owed_configureStreamsLocked (h : Owed d) : Owed (d.configureStreamsLocked o).2 := by
  unfold configureStreamsLocked
  split
  · exact h
  split
  · exact h
  next hidle _ =>
  have hstate : d.state ≠ .error := by
    intro herror
    simp [herror] at hidle
  cases o with
  | ok => exact (owed_updateStatus h hstate).congr rfl rfl rfl rfl
  | invalid => exact owed_updateStatus h hstate
  | beginFails => exact h
  | abortFails => exact h
  | refused => exact h
  | endFails => exact h

theorem configureStreamsLocked_error (h : d.state = .error) :
    d.configureStreamsLocked o = (false, d) := by
  simp [configureStreamsLocked, h]

theorem state_reconfigure_error (h : d.state = .error) :
    (d.reconfigure call o).state = .error := by
  unfold reconfigure
  rw [configureStreamsLocked_error h]
  exact h

/-- A call in progress does not leave the error state. -/
theorem state_proceed_error (h : d.state = .error) : (d.proceed ans call).state = .error := by
  cases call with
  | createStream =>
    simp only [proceed, createStreamIdle, if_true]
    split
    · exact h
    · exact state_reconfigure_error h
  | createInputStream =>
    simp only [proceed, createInputStreamIdle, if_true]
    exact state_reconfigure_error h
  | deleteStream stream =>
    simp only [proceed, deleteStreamIdle]
    split
    · exact h
    split
    · exact h
    split
    · exact h
    split
    · exact state_reconfigure_error h
    · exact h

theorem configureStreamsLocked_ok (hreconfig : d.reconfig = true) (h : d.configures ans = true) :
    ∃ e, d.configureStreamsLocked ans.configure = (true, e) ∧ e.loops = d.loops := by
  simp only [configures, Bool.and_eq_true, Bool.or_eq_true, beq_iff_eq] at h
  obtain ⟨hstate, hok⟩ := h
  have hidle : ¬ (d.state ≠ .notConfigured ∧ d.state ≠ .configured) := by
    rintro ⟨hn, hc⟩
    exact hstate.elim hn hc
  unfold configureStreamsLocked
  rw [if_neg hidle, hreconfig, hok]
  exact ⟨_, rfl, rfl⟩

/-- With a request to submit the flag is reset, now or when the request is under way. -/
theorem owed_internalResumeLocked (h : d.loops.pendingRequest = true) :
    Owed (d.internalResumeLocked call) := by
  unfold internalResumeLocked
  dsimp only
  rw [if_neg (by simp [h])]
  split
  · exact owed_finish ⟨by simp, by simp⟩
  · exact ⟨by simp, by simp⟩

theorem owed_reconfigure (hreconfig : d.reconfig = true) (hconf : d.configures ans = true)
    (hpending : d.loops.pendingRequest = true) : Owed (d.reconfigure call ans.configure) := by
  obtain ⟨e, he, hloops⟩ := configureStreamsLocked_ok hreconfig hconf
  unfold reconfigure
  rw [he]
  exact owed_internalResumeLocked (hloops ▸ hpending)

theorem owed_proceed (h : d.resumes ans call = true) : Owed (d.proceed ans call) := by
  cases call with
  | createStream =>
    simp only [resumes, Bool.and_eq_true] at h
    obtain ⟨⟨⟨hblob, hadded⟩, hconf⟩, hpending⟩ := h
    simp only [proceed, createStreamIdle, hblob, hadded, Bool.not_true, Bool.or_self,
      Bool.false_eq_true, if_false, if_true]
    exact owed_reconfigure rfl hconf hpending
  | createInputStream =>
    obtain ⟨hconf, hpending⟩ := Bool.and_eq_true_iff.mp h
    simp only [proceed, createInputStreamIdle, if_true]
    exact owed_reconfigure rfl hconf hpending
  | deleteStream stream =>
    simp only [resumes, Bool.and_eq_true, bne_iff_ne, Bool.not_eq_true'] at h
    obtain ⟨⟨⟨⟨⟨hinput, hmem⟩, hactive⟩, hrest⟩, hconf⟩, hpending⟩ := h
    simp only [proceed, deleteStreamIdle]
    rw [if_neg hinput, if_neg (by simpa using hmem), if_neg (by simp [hactive]),
      if_pos (by simp [hrest])]
    exact owed_reconfigure rfl hconf hpending

/-- A device that is not idle is paused and waited for. -/
theorem owed_internalPauseLocked
    (hidle : d.state ≠ .running → d.state = .error ∨ d.resumes ans call = true) :
    Owed (d.internalPauseLocked call ans) := by
  unfold internalPauseLocked
  dsimp only
  split
  · exact ⟨fun _ => .inr ⟨_, List.mem_append_right _ (List.mem_singleton_self _), rfl⟩,
      fun _ => .inr (by simp)⟩
  next hstate =>
    rcases hidle hstate with herror | hresumes
    · exact owed_of_error (state_proceed_error herror)
    · exact owed_proceed (by cases call <;> exact hresumes)

theorem owed_createStreamIdle (h : Owed d) : Owed (d.createStreamIdle false ans) := by
  simp only [createStreamIdle, Bool.false_eq_true, if_false]
  split
  · exact h
  · exact owed_finish (h.congr rfl rfl rfl rfl)

theorem owed_deleteStreamIdle {stream : Nat} (h : Owed d) :
    Owed (d.deleteStreamIdle stream true ans) := by
  unfold deleteStreamIdle
  split
  · exact h.congr rfl rfl rfl rfl
  split
  · exact h
  split
  · exact h
  · exact h.congr rfl rfl rfl rfl

theorem owed_createStream (h : Owed d) : Owed (d.createStream ans) := by
  unfold createStream
  split
  · exact h
  · exact owed_createStreamIdle h
  · exact owed_createStreamIdle h
  next hrunning => exact owed_internalPauseLocked fun hne => absurd hrunning hne

theorem owed_createInputStream (h : Owed d) : Owed (d.createInputStream ans) := by
  unfold createInputStream
  split
  · exact h
  split
  · exact h
  · exact h.congr rfl rfl rfl rfl
  · exact h.congr rfl rfl rfl rfl
  next hrunning => exact owed_internalPauseLocked fun hne => absurd hrunning hne

theorem owed_deleteStream {stream : Nat} {cache : Bool} (h : Owed d)
    (hguard : d.keepsBalance (.deleteStream stream cache ans) = true) :
    Owed (d.deleteStream stream cache ans) := by
  have hbody : Owed (if cache then d.deleteStreamIdle stream true ans
      else d.internalPauseLocked (.deleteStream stream) ans) := by
    cases cache with
    | true => exact owed_deleteStreamIdle h
    | false =>
      refine owed_internalPauseLocked fun hne => ?_
      simp only [keepsBalance, Bool.or_eq_true, beq_iff_eq] at hguard
      exact hguard.imp_left fun hor => hor.resolve_right hne
  unfold deleteStream
  split
  · exact h
  · exact hbody
  · exact hbody
  · exact hbody

/-- A call that wakes up has resumed and ends, or goes on after its pause, or fails. -/
theorem owed_wake {i : Nat} {w : Waiting} {timely : Bool} (h : Owed d) (hw : d.waits[i]? = some w)
    (hguard : d.keepsBalance (.wake i timely ans) = true) :
    Owed ({ d with waits := d.waits.eraseIdx i }.wake w timely ans) := by
  unfold wake
  split
  next hresuming =>
    cases timely with
    | false =>
      refine owed_of_error ?_
      rw [state_finish]
      exact state_setErrorState
    | true =>
      refine owed_finish ⟨fun htoggle => ?_, fun hnotify => by simp at hnotify⟩
      -- the call that owes the pause is another one
      refine (h.toggle htoggle).imp_right ?_
      rintro ⟨v, hv, hvr⟩
      obtain ⟨j, hj⟩ := List.mem_iff_getElem?.mp hv
      refine ⟨v, List.mem_eraseIdx_iff_getElem?.mpr ⟨j, fun hji => ?_, hj⟩, hvr⟩
      rw [hji, hw] at hj
      obtain rfl := Option.some.inj hj
      simp [hvr] at hresuming
  next hresuming =>
    cases timely with
    | false => exact owed_of_error state_setErrorState
    | true =>
      simp only [keepsBalance, hw, Option.all_some, Bool.or_eq_true, beq_iff_eq, hresuming,
        Bool.false_eq_true, false_or] at hguard
      rcases hguard with herror | hresumes
      · exact owed_of_error (state_proceed_error herror)
      · exact owed_proceed (by cases hcall : w.call <;> rw [hcall] at hresumes <;> exact hresumes)

theorem owed_configureForRequest (o : HalConfigure) (ready : Bool) (h : Owed d) :
    Owed (d.configureForRequest o ready).2 := by
  show Owed (if d.state = .notConfigured ∨ d.reconfig then d.configureStreamsLocked o
    else (true, d)).2
  split
  · exact owed_configureStreamsLocked h
  · exact h

theorem owed_submitRequestList {rs : List (List Nat)} {streaming ready : Bool} (h : Owed d)
    (hstep : d.submitRequestList cfg rs streaming o ready = some t) : Owed t := by
  unfold submitRequestList at hstep
  split at hstep
  · obtain rfl := Option.some.inj hstep
    exact h
  dsimp only at hstep
  have hconf := owed_configureForRequest o ready
    (h.congr (t := { d with nextRequestId := d.nextRequestId + rs.length }) rfl rfl rfl rfl)
  split at hstep
  next e heq =>
    obtain rfl := Option.some.inj hstep
    rw [heq] at hconf
    exact hconf
  next e heq =>
    rw [heq] at hconf
    split at hstep
    · obtain rfl := Option.some.inj hstep
      exact hconf
    · obtain ⟨l, -, ht⟩ := Option.bind_eq_some_iff.mp hstep
      obtain rfl := Option.some.inj ht
      exact hconf.congr rfl rfl rfl rfl

theorem owed_step (h : Owed d) (hguard : d.keepsBalance a = true)
    (hstep : d.step cfg a = some t) : Owed t := by
  cases a with
  | createStream ans =>
    obtain rfl := Option.some.inj hstep
    exact owed_createStream h
  | createInputStream ans =>
    obtain rfl := Option.some.inj hstep
    exact owed_createInputStream h
  | deleteStream stream cache ans =>
    obtain rfl := Option.some.inj hstep
    exact owed_deleteStream h hguard
  | wake i timely ans =>
    simp only [step] at hstep
    split at hstep
    next w hw =>
      split at hstep
      · simp at hstep
      · obtain rfl := Option.some.inj hstep
        exact owed_wake h hw hguard
    · simp at hstep
  | configureStreams o =>
    obtain rfl := Option.some.inj hstep
    exact owed_configureStreamsLocked h
  | submitRequestList rs streaming o ready => exact owed_submitRequestList h hstep
  | notifyStatus idle =>
    obtain rfl := Option.some.inj hstep
    unfold notifyStatus
    split
    next hstate =>
      refine owed_updateStatus h fun herror => ?_
      simp [herror] at hstate
    · exact h
  | setError =>
    obtain rfl := Option.some.inj hstep
    exact owed_of_error state_setErrorState
  | loop b =>
    simp only [step] at hstep
    split at hstep
    · simp at hstep
    · obtain ⟨l, -, ht⟩ := Option.bind_eq_some_iff.mp hstep
      obtain rfl := Option.some.inj ht
      exact h.congr rfl rfl rfl rfl

/-- In every run in which each call that has paused the device gets to resume it, pauses are
balanced. -/
theorem balanced_of_keepsBalance (cfg : Config) (as : List DeviceAction) (t : Device)
    (h : ((lts cfg).guarded fun d a => d.keepsBalance a = true).MTr {} as t) : Balanced t := by
  have hinv : ((lts cfg).guarded fun d a => d.keepsBalance a = true).TrInv Owed :=
    fun d a t hstep hd => owed_step hd hstep.2 hstep.1
  exact (LTS.inv_of_mTr hinv h ⟨by simp, by simp⟩).balanced

/-- One stream, and a streaming request on it that has started. -/
def startStreaming : List DeviceAction :=
  [.createStream {}, .submitRequestList [[0]] true .ok true, .notifyStatus false]

/-- The device gets idle, the first call in progress goes on, and the device gets active again. -/
def pauseAndResume : List DeviceAction :=
  [.notifyStatus true, .wake 0 true {}, .notifyStatus false, .wake 0 true {}]

/-- A second stream is created and deleted under the streaming request. -/
def balancedRun : List DeviceAction :=
  startStreaming ++ .createStream {} :: pauseAndResume ++ .deleteStream 1 false {} :: pauseAndResume

theorem balanced_second_stream :
    ((LTS.run (step {}) {} balancedRun).map fun t => (t.waits, t.state, t.streams)) =
      some ([], .running, [0]) ∧
    ∃ t, ((lts {}).guarded fun d a => d.keepsBalance a = true).MTr {} balancedRun t ∧
      Balanced t := by
  have hrun : ((LTS.run (step {}) {} balancedRun).map fun t => (t.waits, t.state, t.streams)) =
      some ([], .running, [0]) := by decide
  obtain ⟨t, ht, -⟩ := Option.map_eq_some_iff.mp hrun
  have hguard : ((lts {}).guarded fun d a => d.keepsBalance a = true).MTr {} balancedRun t :=
    LTS.mTr_guarded_iff.mpr ⟨ht, by decide⟩
  exact ⟨hrun, t, hguard, balanced_of_keepsBalance {} balancedRun t hguard⟩

/-- The deletion of a stream that does not exist pauses the device for good. -/
theorem unknown_stream_stays_paused :
    ¬ ∀ (cfg : Config) (as : List DeviceAction) (t : Device), (lts cfg).MTr {} as t →
      Balanced t := by
  intro hall
  have hpaused : ((LTS.run (step {}) {}
      (startStreaming ++ [.deleteStream 7 false {}, .notifyStatus true, .wake 0 true {}])).map
        fun t => (t.waits, t.state, t.togglePause)) = some ([], .configured, true) := by decide
  obtain ⟨t, hrun, ht⟩ := Option.map_eq_some_iff.mp hpaused
  obtain ⟨hwaits, hstate, htoggle⟩ : t.waits = [] ∧ t.state = .configured ∧ t.togglePause = true :=
    by simpa using ht
  have hbalanced := hall {} _ t (LTS.mTr_ofStep_iff.mpr hrun) hwaits (by simp [hstate])
  simp [htoggle] at hbalanced

end Device

end QmmfSdk.Camera3
