import QmmfSdk.Library.Ensures
import QmmfSdk.Streams.OpenCamera

/-! The request id that a camera context keeps and the streaming list of its device go together over
all calls; when `CloseCamera` goes by the one and leaves the context alone. -/
namespace QmmfSdk.Streams

open Library
open Recorder (Status Abort SnapshotMode)
open ImageCapture (Context Answers ZslSource zslPortId)
open SnapshotContext (CaptureAnswers CaptureLoop)

section Device

variable {client : RequestClient} {size : Nat} {answer : Submitted} {late : Bool}

/-- The list is repeated under the id that is returned. -/
theorem RequestClient.head?_submitRequestList
    (h : 0 ≤ (client.submitRequestList size true answer late).1.requestId) :
    (client.submitRequestList size true answer late).2.streamingRequests.head? =
      some (client.submitRequestList size true answer late).1.requestId := by
  unfold submitRequestList at h ⊢
  cases size with
  | zero => simp [invalid] at h
  | succ n =>
    by_cases hrefused : answer.requestId < 0
    · simp [hrefused] at h
      omega
    · simp [hrefused, List.iterate]

theorem RequestClient.streamingRequests_submitRequestList :
    (client.submitRequestList size false answer late).2.streamingRequests =
      client.streamingRequests := by
  unfold submitRequestList
  split
  · rfl
  split
  · cases late <;> rfl
  · rfl

end Device

namespace OpenCamera

variable {s t : OpenCamera} {streams : CameraContext} {answer : Submitted} {d : Answers}
  {flushed cache created stateOnly : Bool} {trackId : UInt32} {port : CameraPort}
  {p : CameraStreamParameters} {streamId : Int}

/-- The device repeats requests under the id that the context keeps, and none if that is negative. -/
def Synced (s : OpenCamera) : Prop :=
  s.device.streamingRequests.head? =
    if 0 ≤ s.streams.streamingRequestId then some s.streams.streamingRequestId else none

theorem Synced.congr (hs : s.Synced) (hdevice : t.device.streamingRequests = s.device.streamingRequests)
    (hid : t.streams.streamingRequestId = s.streams.streamingRequestId) : t.Synced := by
  unfold Synced
  rw [hdevice, hid]
  exact hs

theorem Synced.withStreams (hs : s.Synced)
    (hid : streams.streamingRequestId = s.streams.streamingRequestId) :
    (s.withStreams streams).Synced :=
  hs.congr rfl hid

theorem synced_of_flushed (hdevice : t.device.streamingRequests = [])
    (hid : t.streams.streamingRequestId < 0) : t.Synced := by
  unfold Synced
  rw [hdevice, if_neg (Int.not_le.mpr hid)]
  rfl

theorem synced_of_submitted {client : RequestClient} {size : Nat} {late : Bool}
    (hdevice : t.device = (client.submitRequestList size true answer late).2)
    (hid : t.streams.streamingRequestId =
      (client.submitRequestList size true answer late).1.requestId)
    (h : 0 ≤ t.streams.streamingRequestId) : t.Synced := by
  rw [hid] at h
  unfold Synced
  rw [hdevice, hid, if_pos h]
  exact RequestClient.head?_submitRequestList h

theorem Synced.isStreaming_iff (hs : s.Synced) :
    s.isStreaming ↔ 0 ≤ s.streams.streamingRequestId := by
  unfold Synced at hs
  cases hlist : s.device.streamingRequests with
  | nil =>
    rw [hlist] at hs
    split at hs
    · simp at hs
    next hneg => simp [isStreaming, hlist, hneg]
  | cons id rest =>
    rw [hlist] at hs
    split at hs
    next hpos => simp [isStreaming, hlist, hpos]
    · simp at hs

theorem Synced.within {α : Type} {r : Except Abort (α × Context)} (hs : s.Synced)
    (hr : Ensures r fun x => x.2.streams.streamingRequestId = s.streams.streamingRequestId) :
    Ensures (s.within r) fun x => x.2.Synced :=
  hr.bind fun _ hx => ensures_ok.mpr (hs.congr rfl hx)

theorem synced_cancelRequest (hs : s.Synced) :
    Ensures (s.cancelRequest flushed) fun x => x.2.Synced := by
  intro x hx
  obtain ⟨⟨ret, streams⟩, hcancel, hx⟩ := bind_eq_ok_iff.mp hx
  obtain rfl := Except.ok.inj hx
  unfold CameraContext.cancelRequest at hcancel
  split at hcancel
  next hidle =>
    obtain ⟨-, rfl⟩ := Prod.mk.inj (Except.ok.inj hcancel)
    have hflag : s.isIdle = true := by simp [isIdle, hidle]
    exact hs.congr (by simp [hflag]) rfl
  next hactive =>
    split at hcancel
    next =>
      obtain ⟨-, rfl⟩ := Prod.mk.inj (Except.ok.inj hcancel)
      have hflag : s.isIdle = false := by
        rw [← Bool.not_eq_true]
        simpa [isIdle] using hactive
      exact synced_of_flushed (by simp [hflag, RequestClient.flush]) (Int.negSucc_lt_zero 0)
    next => simp at hcancel

theorem synced_submitUpdate {scan : PortScan} :
    Ensures (s.submitUpdate scan answer) fun x => x.2.Synced := by
  intro x hx
  obtain ⟨⟨ret, streams⟩, hsubmit, hx⟩ := bind_eq_ok_iff.mp hx
  obtain rfl := Except.ok.inj hx
  obtain ⟨-, -, hpos, -⟩ := CameraContext.submitUpdate_ok hsubmit
  refine synced_of_submitted rfl ?_ hpos
  unfold CameraContext.submitUpdate at hsubmit
  dsimp only at hsubmit
  split at hsubmit
  · simp at hsubmit
  · rw [Std.ExtTreeSet.foldl_eq_foldl_toList] at hsubmit
    obtain ⟨-, rfl⟩ := Prod.mk.inj (Except.ok.inj hsubmit)
    obtain ⟨map, ids, hfold⟩ := CameraContext.foldl_recordStream scan.removedStreams _
      scan.streamIds.toList _
    exact congrArg CameraContext.streamingRequestId hfold

theorem synced_updateRequest (hs : s.Synced) :
    Ensures (s.updateRequest answer flushed) fun x => x.2.Synced := by
  intro x hx
  obtain ⟨scan, -, hx⟩ := bind_eq_ok_iff.mp hx
  obtain ⟨requests, -, hx⟩ := bind_eq_ok_iff.mp hx
  cases requests with
  | nil => simp at hx
  | cons r rest =>
    dsimp only at hx
    split at hx
    · refine synced_cancelRequest ?_ x hx
      exact hs.withStreams rfl
    · exact synced_submitUpdate x hx

theorem synced_turnPort {done via target : PortState} {ready : Bool} (hs : s.Synced) :
    Ensures (turnPort done via target ready s trackId port answer flushed) fun x => x.2.Synced := by
  refine .ite (fun _ => ensures_ok.mpr hs) fun _ => ?_
  refine Ensures.bind (synced_updateRequest ?_) ?_
  · exact hs.withStreams rfl
  rintro ⟨ret, u⟩ hu
  exact .ite (fun _ => ensures_ok.mpr hu) fun _ => ensures_ok.mpr (hu.withStreams rfl)

theorem synced_asserted {r : Except Abort (Status × OpenCamera)}
    (hr : Ensures r fun x => x.2.Synced) : Ensures (asserted r) fun x => x.2.Synced := by
  refine hr.bind ?_
  rintro ⟨ret, u⟩ hu
  exact .ite (fun _ => ensures_ok.mpr hu) fun _ => ensures_error

theorem synced_startStream (hs : s.Synced) :
    Ensures (s.startStream trackId answer flushed) fun x => x.2.Synced := by
  unfold startStream
  split
  · exact ensures_ok.mpr hs
  · exact synced_asserted (synced_turnPort hs)

theorem synced_stopStream (hs : s.Synced) :
    Ensures (s.stopStream trackId answer flushed) fun x => x.2.Synced := by
  unfold stopStream
  split
  · exact ensures_ok.mpr hs
  · exact synced_asserted (synced_turnPort hs)

theorem synced_pauseActiveStreams (hs : s.Synced) :
    Ensures (s.pauseActiveStreams flushed) Synced := by
  have hpause : Ensures (s.context.pauseActiveStreams flushed) fun c => c = s.context.paused :=
    .of_succeeds (fun P => Context.succeeds_pauseActiveStreams) rfl
  refine hpause.bind fun c hc => ensures_ok.mpr ?_
  subst hc
  by_cases hquiet : s.streams.Quiet
  · refine hs.congr (by rw [if_pos hquiet]) ?_
    have hpaused : s.streams.paused = s.streams := if_pos hquiet
    exact congrArg CameraContext.streamingRequestId hpaused
  · refine synced_of_flushed (by rw [if_neg hquiet]; rfl) ?_
    have hpaused : s.streams.paused = s.streams.interrupted := if_neg hquiet
    have hid := congrArg CameraContext.streamingRequestId hpaused
    exact hid ▸ Int.negSucc_lt_zero 0

theorem synced_resumeNext {d : CaptureAnswers} (hs : s.Synced) :
    Ensures (resumeNext stateOnly d s trackId) Synced := by
  unfold resumeNext
  split
  · exact ensures_ok.mpr hs
  next port _ =>
  split
  · intro x hx
    obtain ⟨streams, hresume, hx⟩ := bind_eq_ok_iff.mp hx
    obtain rfl := Except.ok.inj hx
    unfold CameraContext.resumePort at hresume
    split at hresume
    · obtain rfl := Except.ok.inj hresume
      exact hs.congr rfl rfl
    · simp at hresume
  · exact (synced_asserted (synced_turnPort hs)).bind fun _ hu => ensures_ok.mpr hu

theorem synced_resumeActiveStreams {d : CaptureAnswers} (hs : s.Synced) :
    Ensures (s.resumeActiveStreams stateOnly d) Synced := by
  refine .ite (fun _ => ensures_ok.mpr (hs.withStreams rfl)) fun _ => ?_
  refine (Ensures.foldlM hs fun _ _ hu => synced_resumeNext hu).bind fun u hu => ?_
  exact ensures_ok.mpr (hu.withStreams rfl)

theorem synced_setCameraParam {metadata : RequestMetadata} (hs : s.Synced) :
    Ensures (s.setCameraParam metadata answer) fun x => x.2.Synced := by
  intro x hx
  obtain ⟨⟨ret, streams⟩, hset, hx⟩ := bind_eq_ok_iff.mp hx
  obtain rfl := Except.ok.inj hx
  unfold CameraContext.setCameraParam at hset
  split at hset
  · obtain ⟨rfl, rfl⟩ := Prod.mk.inj (Except.ok.inj hset)
    exact hs.congr rfl rfl
  split at hset
  · obtain ⟨rfl, rfl⟩ := Prod.mk.inj (Except.ok.inj hset)
    exact hs.congr rfl rfl
  dsimp only at hset
  split at hset
  next hrepeats =>
    have hflag : s.repeats = true := by
      unfold repeats
      rw [Bool.and_eq_true_iff, decide_eq_true_iff, decide_eq_true_iff]
      exact hrepeats
    split at hset
    · simp at hset
    next hid =>
      obtain ⟨rfl, rfl⟩ := Prod.mk.inj (Except.ok.inj hset)
      exact synced_of_submitted (by simp [hflag]) rfl (Int.not_lt.mp hid)
  next hquiet =>
    have hflag : s.repeats = false := by
      rw [← Bool.not_eq_true]
      unfold repeats
      rw [Bool.and_eq_true_iff, decide_eq_true_iff, decide_eq_true_iff]
      exact hquiet
    obtain ⟨rfl, rfl⟩ := Prod.mk.inj (Except.ok.inj hset)
    exact hs.congr (by simp [hflag]) rfl

/-- A ZSL queue is emptied without a word about requests. -/
theorem ensures_quietZsl {c : Context} {returned : Bool} : Ensures (c.quietZsl returned) fun u =>
    u.streams.streamingRequestId = c.streams.streamingRequestId :=
  .of_succeeds (fun _ => Context.succeeds_quietZsl) Context.streamingRequestId_quieted

theorem synced_createStream {param : CameraContext.StreamParam} {d : CameraContext.Creation}
    {returned : Bool} (hs : s.Synced) :
    Ensures (s.createStream param d returned) fun x => x.2.Synced := by
  intro x hx
  obtain ⟨c, hquiet, hx⟩ := bind_eq_ok_iff.mp hx
  obtain ⟨⟨ret, streams⟩, hcreate, hx⟩ := bind_eq_ok_iff.mp hx
  obtain rfl := Except.ok.inj hx
  have hc : c.streams.streamingRequestId = s.streams.streamingRequestId :=
    Ensures.ite (fun _ => ensures_quietZsl) (fun _ => ensures_ok.mpr rfl) c hquiet
  have hid : streams.streamingRequestId = c.streams.streamingRequestId := by
    obtain ⟨-, -, rfl⟩ | ⟨batch, -, ⟨-, -, rfl⟩ | ⟨-, -, requests, -, -, rfl⟩⟩ :=
      CameraContext.createStream_ok hcreate
    · rfl
    · rfl
    · rfl
  refine hs.congr rfl ?_
  rw [← hc, ← hid]
  dsimp only
  split
  · rfl
  · rfl

/-- With a ZSL queue the request is cancelled and then submitted again, under its new id. -/
theorem synced_deleteDeviceStream (hs : s.Synced) : Ensures (deleteDeviceStream d s streamId) Synced := by
  intro x hx
  obtain ⟨c, hdelete, hx⟩ := bind_eq_ok_iff.mp hx
  obtain rfl := Except.ok.inj hx
  obtain ⟨hcan, rfl⟩ := (Context.succeeds_deleteDeviceStream (P := (· = c))).mp ⟨c, hdelete, rfl⟩
  by_cases hzsl : s.context.zslMode = true ∧ s.context.interrupts = true
  · obtain ⟨hmode, hinterrupts⟩ := hzsl
    refine synced_of_submitted (by rw [if_pos ⟨hmode, hinterrupts⟩]) ?_ ?_
    · simp only [OpenCamera.streams, Context.streamDeleted, hmode, hinterrupts]
      rfl
    · simp only [OpenCamera.streams, Context.streamDeleted, hmode, hinterrupts]
      exact ((hcan.2 hmode).2 hinterrupts).2.2.2
  · refine hs.congr (by rw [if_neg hzsl]) ?_
    unfold Context.streamDeleted
    split
    next hmode =>
      rw [if_neg fun hinterrupts => hzsl ⟨hmode, hinterrupts⟩]
      rfl
    next => rfl

theorem synced_deleteStream (hs : s.Synced) :
    Ensures (s.deleteStream trackId d) fun x => x.2.Synced := by
  unfold deleteStream
  split
  · exact ensures_ok.mpr hs
  next port _ =>
  refine .ite (fun _ => ensures_ok.mpr hs) fun _ => ?_
  refine .ite (fun _ => ensures_error) fun _ => ?_
  refine (synced_deleteDeviceStream hs).bind fun u hu => ensures_ok.mpr (hu.withStreams ?_)
  unfold CameraContext.restoreBatchStreamId
  split
  · rfl
  · rfl

theorem synced_deleteSnapshotStream (hs : s.Synced) : Ensures (s.deleteSnapshotStream d) Synced :=
  (Ensures.foldlM hs fun _ _ hu => synced_deleteDeviceStream hu).bind fun _ hu =>
    ensures_ok.mpr (hu.congr rfl rfl)

theorem streamingRequestId_newStream {c : Context} :
    (c.newStream cache).streams.streamingRequestId = c.streams.streamingRequestId := by
  unfold Context.newStream
  dsimp only
  split
  · rfl
  · rfl

theorem ensures_createDeviceStream {c : Context} {configured returned : Bool} :
    Ensures (c.createDeviceStream cache configured created returned) fun r =>
      r.2.streams.streamingRequestId = c.streams.streamingRequestId := by
  refine .of_succeeds (fun _ => Context.succeeds_createDeviceStream) ?_
  split
  · exact streamingRequestId_newStream.trans Context.streamingRequestId_quieted
  · exact Context.streamingRequestId_quieted

theorem synced_addSnapshotStream (hs : s.Synced) :
    Ensures (s.addSnapshotStream p cache created d) fun x => x.2.Synced := by
  refine hs.within (ensures_createDeviceStream.bind ?_)
  rintro ⟨o, c⟩ hc
  cases o with
  | none => exact ensures_ok.mpr hc
  | some streamId => exact ensures_ok.mpr hc

theorem synced_replaceSnapshotStream (hs : s.Synced) :
    Ensures (s.replaceSnapshotStream p cache d) fun x => x.2.Synced := by
  refine (synced_pauseActiveStreams hs).bind fun u hu => ?_
  split
  · exact synced_addSnapshotStream hu
  · exact (synced_deleteSnapshotStream hu).bind fun v hv => synced_addSnapshotStream hv
  · exact ensures_ok.mpr hu

theorem synced_createSnapshotStream (hs : s.Synced) :
    Ensures (s.createSnapshotStream p cache d) fun x => x.2.Synced := by
  have hmain : Ensures (s.mainSnapshotStream p cache d) fun x => x.2.Synced :=
    .ite (fun _ => synced_replaceSnapshotStream hs) fun _ => ensures_ok.mpr hs
  refine hmain.bind ?_
  rintro ⟨ret, u⟩ hu
  refine .ite (fun _ => ensures_ok.mpr hu) fun _ => ?_
  exact .ite (fun _ => synced_addSnapshotStream hu) fun _ => ensures_ok.mpr hu

theorem synced_startZslPort {zsl : ZslSource} (hs : s.Synced) :
    Ensures (s.startZslPort zsl d) fun x => x.2.Synced := by
  refine .ite (fun _ => synced_updateRequest hs) fun _ => ?_
  refine Ensures.bind (synced_turnPort ?_) ?_
  · exact hs.withStreams rfl
  rintro ⟨ret, u⟩ hu
  exact ensures_ok.mpr (hu.congr rfl rfl)

theorem synced_runZslPort {zsl : ZslSource} (hs : s.Synced) :
    Ensures (s.runZslPort zsl d) fun x => x.2.Synced := by
  refine (synced_startZslPort hs).bind ?_
  rintro ⟨ret, u⟩ hu
  refine .ite (fun _ => ensures_ok.mpr hu) fun _ => ?_
  exact (synced_resumeActiveStreams hu).bind fun v hv => ensures_ok.mpr hv

theorem ensures_initZslPort {c : Context} {queueDepth : UInt32} :
    Ensures (c.initZslPort p queueDepth d) fun r =>
      r.2.streams.streamingRequestId = c.streams.streamingRequestId := by
  refine .ite (fun _ => ensures_ok.mpr rfl) fun _ => ensures_createDeviceStream.bind ?_
  rintro ⟨o, u⟩ hu
  cases o with
  | none => exact ensures_ok.mpr hu
  | some cameraStreamId =>
    unfold Context.createDeviceInputStream
    cases d.inputCreated with
    | false => exact ensures_ok.mpr hu
    | true => exact ensures_ok.mpr hu

theorem synced_addZslPort {queueDepth : UInt32} (hs : s.Synced) :
    Ensures (s.addZslPort p queueDepth d) fun x => x.2.Synced := by
  have hrequest : Ensures (s.context.createZslRequest d.defaultRequest) fun c =>
      c.streams.streamingRequestId = s.streams.streamingRequestId := by
    unfold Context.createZslRequest
    split
    · exact ensures_ok.mpr rfl
    · exact ensures_error
  refine hrequest.bind fun c hc => ?_
  refine (hs.within (ensures_initZslPort.imp fun r hr => hr.trans hc)).bind ?_
  rintro ⟨o, u⟩ hu
  cases o with
  | none => exact ensures_ok.mpr hu
  | some zsl => exact synced_runZslPort hu

theorem synced_startZSL {type : ImageCapture.SnapshotType} (hs : s.Synced) :
    Ensures (s.startZSL type d) fun x => x.2.Synced := by
  refine .ite (fun _ => ensures_ok.mpr hs) fun _ => Ensures.bind (synced_pauseActiveStreams ?_) ?_
  · exact hs.congr rfl rfl
  intro u hu
  refine (synced_createSnapshotStream hu).bind ?_
  rintro ⟨ret, v⟩ hv
  exact .ite (fun _ => ensures_ok.mpr hv) fun _ => synced_addZslPort hv

theorem synced_stopZslPort (hs : s.Synced) : Ensures (s.stopZslPort d) fun x => x.2.Synced := by
  unfold stopZslPort
  split
  · exact ensures_error
  · exact synced_turnPort hs

theorem synced_removeZslPort (hs : s.Synced) : Ensures (s.removeZslPort d) Synced := by
  unfold removeZslPort
  split
  · exact ensures_error
  next port _ =>
  have hinput : Ensures (s.deInitZslPort port d) Synced :=
    Ensures.bind (.ite (fun _ => synced_deleteDeviceStream hs) fun _ => ensures_ok.mpr hs)
      fun u hu => .ite (fun _ => ensures_error) fun _ => synced_deleteDeviceStream hu
  refine hinput.bind fun u hu => synced_resumeActiveStreams ?_
  exact hu.congr rfl rfl

theorem synced_stopZSL (hs : s.Synced) : Ensures (s.stopZSL d) fun x => x.2.Synced := by
  have hflush : Ensures (s.context.pauseAndFlushZSLQueue d.returned) fun c =>
      c.streams.streamingRequestId = s.streams.streamingRequestId := by
    refine .of_succeeds (fun _ => Context.succeeds_pauseAndFlushZSLQueue) ?_
    obtain ⟨removed, map, h⟩ := s.context.streams_flushed
    rw [h]
    rfl
  refine .ite (fun _ => ensures_error) fun _ => hflush.bind fun c hc => ?_
  refine Ensures.bind (synced_pauseActiveStreams ?_) ?_
  · exact hs.congr rfl hc
  intro u hu
  refine (synced_stopZslPort hu).bind ?_
  rintro ⟨ret, v⟩ hv
  refine .ite (fun _ => ensures_ok.mpr hv) fun _ => (synced_deleteSnapshotStream hv).bind fun w hw => ?_
  exact (synced_removeZslPort hw).bind fun z hz => ensures_ok.mpr hz

theorem synced_switched {type : SnapshotMode} {r : Except Abort (Status × OpenCamera)}
    (hr : Ensures r fun x => x.2.Synced) : Ensures (switched type r) Synced := by
  refine hr.bind ?_
  rintro ⟨ret, u⟩ hu
  exact .ite (fun _ => ensures_ok.mpr (hu.congr rfl rfl)) fun _ => ensures_error

theorem synced_switchZsl {type : ImageCapture.SnapshotType} (hs : s.Synced) :
    Ensures (s.switchZsl type d) Synced :=
  .ite (fun _ => synced_switched (synced_startZSL hs)) fun _ =>
    .ite (fun _ => synced_switched (synced_stopZSL hs)) fun _ => ensures_ok.mpr hs

theorem synced_configImageCapture {config : ImageCapture.ImageConfigParam} (hs : s.Synced) :
    Ensures (s.configImageCapture config d) fun x => x.2.Synced := by
  refine .ite (fun _ => ensures_ok.mpr hs) fun _ => ?_
  dsimp only
  split
  · exact ensures_ok.mpr (hs.congr rfl rfl)
  refine .ite (fun _ => ensures_ok.mpr (hs.congr rfl rfl)) fun _ => ?_
  refine Ensures.bind (synced_switchZsl ?_) fun u hu => ensures_ok.mpr hu
  exact hs.congr rfl rfl

theorem synced_setUpCapture {param : SnapshotParam} (hs : s.Synced) :
    Ensures (s.setUpCapture param d) fun x => x.2.Synced := by
  have hremember : Synced { s with context := s.context.remember param } := hs.congr rfl rfl
  refine .ite (fun _ => ?_) fun _ => .ite (fun _ => ensures_error) fun _ => ensures_ok.mpr hs
  refine .ite (fun _ => ensures_ok.mpr hremember) fun _ => ?_
  refine .ite (fun _ => ensures_ok.mpr hremember) fun _ => ?_
  refine (synced_createSnapshotStream hremember).bind ?_
  rintro ⟨ret, u⟩ hu
  exact .ite (fun _ => ensures_ok.mpr hu) fun _ => ensures_ok.mpr (hu.congr rfl rfl)

/-- The images of a capture are put together without a word about the streaming id. -/
theorem ensures_nextImage (l : CaptureLoop) : Ensures (SnapshotContext.nextImage l) fun l' =>
    l'.ctx.streams.streamingRequestId = l.ctx.streams.streamingRequestId := by
  intro l' h
  obtain ⟨⟨active, streams⟩, himage, h⟩ := bind_eq_ok_iff.mp h
  obtain rfl := Except.ok.inj h
  dsimp only
  unfold SnapshotContext.imageStreams SnapshotContext.activeStreams at himage
  split at himage
  · split at himage
    · split at himage
      · split at himage
        · obtain ⟨-, rfl⟩ := Prod.mk.inj (Except.ok.inj himage)
          rfl
        · simp at himage
      · obtain ⟨-, rfl⟩ := Prod.mk.inj (Except.ok.inj himage)
        rfl
    · obtain ⟨-, rfl⟩ := Prod.mk.inj (Except.ok.inj himage)
      rfl
  · obtain ⟨-, rfl⟩ := Prod.mk.inj (Except.ok.inj himage)
    rfl

theorem synced_submitCapture {size : Nat} (hs : s.Synced) :
    Ensures (s.submitCapture size answer) Synced := by
  intro x hx
  obtain ⟨snapshot, hsubmit, hx⟩ := bind_eq_ok_iff.mp hx
  obtain rfl := Except.ok.inj hx
  unfold SnapshotContext.submitCapture at hsubmit
  split at hsubmit
  · simp at hsubmit
  next hid =>
  obtain rfl := Except.ok.inj hsubmit
  by_cases hcontinuous : s.context.snapshot.snapshotType = .continuous
  · have hflag : decide (s.streams.snapshotType = .continuous) = true := decide_eq_true hcontinuous
    rw [hflag] at hid ⊢
    refine synced_of_submitted rfl ?_ ?_
    · simp only [withSnapshot, OpenCamera.streams, Context.streams, if_pos hcontinuous]
    · simp only [withSnapshot, OpenCamera.streams, Context.streams, if_pos hcontinuous]
      exact Int.not_lt.mp hid
  · have hflag : decide (s.streams.snapshotType = .continuous) = false := decide_eq_false hcontinuous
    rw [hflag]
    refine hs.congr RequestClient.streamingRequests_submitRequestList ?_
    simp only [withSnapshot, OpenCamera.streams, Context.streams, if_neg hcontinuous]

theorem synced_captureZSLImage {late : Bool} (hs : s.Synced) :
    Ensures (s.captureZSLImage d late) fun x => x.2.Synced :=
  .ite (fun _ => ensures_error) fun _ =>
    ensures_ok.mpr (hs.congr RequestClient.streamingRequests_submitRequestList rfl)

theorem synced_captureImage {numImages : Nat} {metadata : List RequestMetadata} {late : Bool}
    (hs : s.Synced) : Ensures (s.captureImage numImages metadata d late) fun x => x.2.Synced := by
  refine .ite (fun _ => ensures_ok.mpr hs) fun _ => .ite (fun _ => ensures_ok.mpr hs) fun _ => ?_
  refine .ite (fun _ => synced_captureZSLImage hs) fun _ => ?_
  have hnext : ∀ (l : CaptureLoop) (_ : Unit),
      l.ctx.streams.streamingRequestId = s.streams.streamingRequestId →
      Ensures (SnapshotContext.nextImage l) fun l' =>
        l'.ctx.streams.streamingRequestId = s.streams.streamingRequestId :=
    fun l _ hl => (ensures_nextImage l).imp fun l' hl' => hl'.trans hl
  refine (Ensures.foldlM ?_ hnext).bind fun l hl => Ensures.bind (synced_submitCapture ?_) ?_
  · rfl
  · exact hs.congr rfl hl
  intro u hu
  exact (synced_resumeActiveStreams hu).bind fun v hv => ensures_ok.mpr hv

theorem synced_cancelCaptureImage (hs : s.Synced) :
    Ensures (s.cancelCaptureImage d) fun x => x.2.Synced := by
  refine .ite (fun _ => ?_) fun _ => .ite (fun _ => ensures_ok.mpr hs) fun _ => ?_
  · exact (synced_switched (synced_stopZSL hs)).bind fun u hu => ensures_ok.mpr hu
  refine Ensures.bind (synced_pauseActiveStreams ?_) fun u hu => ?_
  · exact hs.congr rfl rfl
  refine (synced_deleteSnapshotStream hu).bind fun v hv => ?_
  exact (synced_resumeActiveStreams hv).bind fun w hw => ensures_ok.mpr hw

theorem streamingRequestId_returnStreamBuffer (ctx : CameraContext) (streamId frameNumber : Int) :
    (ctx.returnStreamBuffer streamId frameNumber).streamingRequestId = ctx.streamingRequestId := by
  obtain ⟨removed, map, h⟩ := ctx.returnStreamBuffer_eq streamId frameNumber
  rw [h]

theorem synced_zslCallback {r : ZslPort → ZslPort × List StreamBuffer} (hs : s.Synced) :
    (s.zslCallback r).Synced := by
  have hfold : ∀ (buffers : List StreamBuffer) (ctx : CameraContext),
      (buffers.foldl (fun ctx b => ctx.returnStreamBuffer b.streamId
        (Int.ofNat b.frameNumber.toNat)) ctx).streamingRequestId = ctx.streamingRequestId := by
    intro buffers
    induction buffers with
    | nil => exact fun _ => rfl
    | cons b rest ih => exact fun ctx => (ih _).trans (streamingRequestId_returnStreamBuffer ctx _ _)
  unfold zslCallback
  split
  · exact hs.congr rfl (hfold _ s.streams)
  · exact hs

/-- A refusal comes after the snapshot streams are gone. -/
theorem closeCamera_ok {idle : Bool} {ret : Status} (h : s.closeCamera d idle = .ok (ret, t)) :
    (ret = .invalidOperation ∧ s.deleteSnapshotStream d = .ok t ∧ 0 < t.streams.streamingRequestId) ∨
      ret = .noError := by
  obtain ⟨u, hdelete, h⟩ := bind_eq_ok_iff.mp h
  split at h
  next hpos =>
    obtain ⟨rfl, rfl⟩ := Prod.mk.inj (Except.ok.inj h)
    exact .inl ⟨rfl, hdelete, hpos⟩
  split at h
  · simp at h
  · exact .inr (Prod.mk.inj (Except.ok.inj h)).1.symm

theorem synced_call {a : CameraCall} (hs : s.Synced) :
    Ensures (s.call a) fun x => ¬ (a.isClose ∧ x.1 = .noError) → x.2.Synced := by
  cases a with
  | createStream param d returned => exact (synced_createStream hs).imp fun _ hx _ => hx
  | deleteStream trackId d => exact (synced_deleteStream hs).imp fun _ hx _ => hx
  | setConsumers trackId consumers => exact ensures_ok.mpr fun _ => hs.withStreams rfl
  | startStream trackId answer flushed => exact (synced_startStream hs).imp fun _ hx _ => hx
  | stopStream trackId answer flushed => exact (synced_stopStream hs).imp fun _ hx _ => hx
  | pauseStream trackId =>
    intro x hx _
    obtain ⟨⟨ret, streams⟩, hpause, hx⟩ := bind_eq_ok_iff.mp hx
    obtain rfl := Except.ok.inj hx
    refine hs.withStreams ?_
    obtain rfl | ⟨port, -, -, rfl⟩ := CameraContext.pauseStream_ok hpause
    · rfl
    · rfl
  | resumeStream trackId =>
    intro x hx _
    obtain ⟨⟨ret, streams⟩, hresume, hx⟩ := bind_eq_ok_iff.mp hx
    obtain rfl := Except.ok.inj hx
    refine hs.withStreams ?_
    obtain rfl | ⟨port, -, -, rfl⟩ := CameraContext.resumeStream_ok hresume
    · rfl
    · rfl
  | setCameraParam metadata answer => exact (synced_setCameraParam hs).imp fun _ hx _ => hx
  | configImageCapture config d => exact (synced_configImageCapture hs).imp fun _ hx _ => hx
  | setUpCapture param d => exact (synced_setUpCapture hs).imp fun _ hx _ => hx
  | captureImage numImages metadata d late =>
    exact (synced_captureImage hs).imp fun _ hx _ => hx
  | cancelCaptureImage d => exact (synced_cancelCaptureImage hs).imp fun _ hx _ => hx
  | returnStreamBuffer streamId frameNumber =>
    exact ensures_ok.mpr fun _ =>
      hs.withStreams (streamingRequestId_returnStreamBuffer s.streams streamId frameNumber)
  | zslCapture buffer junk => exact ensures_ok.mpr fun _ => synced_zslCallback hs
  | zslResult metadata => exact ensures_ok.mpr fun _ => synced_zslCallback hs
  | zslInputReturned buffer => exact ensures_ok.mpr fun _ => synced_zslCallback hs
  | closeCamera d idle =>
    rintro ⟨ret, u⟩ hx hopen
    obtain ⟨-, hdelete, -⟩ | rfl := closeCamera_ok hx
    · exact synced_deleteSnapshotStream hs u hdelete
    · exact absurd ⟨rfl, rfl⟩ hopen

theorem synced_step {a : CameraCall} (hs : s.Synced) (h : s.step a = some t) : t.Synced := by
  cases hcall : s.call a with
  | error e => simp [step, hcall] at h
  | ok x =>
    simp only [step, hcall] at h
    split at h
    · simp at h
    next hopen =>
      obtain rfl := Option.some.inj h
      exact synced_call hs x hcall hopen

variable {config : CameraConfig} {staticMeta : StaticMeta} {inputSupported idle : Bool}
  {supportedFps : List Int} {frameRate : ℚ} {as : List CameraCall}

/-- In every run the context knows by its id whether a request repeats. -/
theorem synced_run
    (hrun : lts.MTr (init config staticMeta inputSupported supportedFps frameRate) as s) : s.Synced :=
  LTS.inv_of_mTr (L := lts) (P := Synced) (fun _ _ _ hstep hs => synced_step hs hstep) hrun rfl

/-- There is nothing left of a snapshot that `DeleteSnapshotStream` would take away. -/
structure SnapshotGone (s : OpenCamera) : Prop where
  streamIds : s.context.snapshot.streamIds = []
  streamParam : s.context.snapshot.snapshotStreamParam = {}
  snapshotType : s.streams.snapshotType = .none
  captureRequestId : s.streams.captureRequestId = -1

theorem snapshotGone_deleteSnapshotStream (h : s.deleteSnapshotStream d = .ok t) : t.SnapshotGone := by
  obtain ⟨u, -, h⟩ := bind_eq_ok_iff.mp h
  obtain rfl := Except.ok.inj h
  exact ⟨rfl, rfl, rfl, rfl⟩

theorem SnapshotGone.deleteSnapshotStream (h : s.SnapshotGone) : s.deleteSnapshotStream d = .ok s := by
  obtain ⟨⟨⟨streams, staticMeta, ⟨metadata, ids⟩, snapshotParam, streamParam, newType, rawFormat,
    input, newInput, continuous, live⟩, thumbnails, exifEn, inputSupported, fps, rate, zsl⟩,
    device⟩ := s
  obtain ⟨rfl, rfl, htype, hcapture⟩ := h
  cases streams
  cases htype
  cases hcapture
  rfl

/-- A camera is refused to be closed, and left as it is, when its id is not zero and there is nothing
left of a snapshot. -/
theorem closeCamera_unchanged_iff : s.closeCamera d idle = .ok (.invalidOperation, s) ↔
    0 < s.streams.streamingRequestId ∧ s.SnapshotGone := by
  constructor
  · intro h
    obtain ⟨-, hdelete, hpos⟩ | hret := closeCamera_ok h
    · exact ⟨hpos, snapshotGone_deleteSnapshotStream hdelete⟩
    · simp at hret
  · rintro ⟨hpos, hgone⟩
    exact bind_eq_ok_iff.mpr ⟨s, hgone.deleteSnapshotStream, if_pos hpos⟩

/-- In every run `CloseCamera` refuses just the cameras that are streaming, and leaves them as they
are, unless one streams under the first id of all or has something left of a snapshot. -/
theorem closeCamera_refuses_iff
    (hrun : lts.MTr (init config staticMeta inputSupported supportedFps frameRate) as s) :
    (s.closeCamera d idle = .ok (.invalidOperation, s) ↔ s.isStreaming) ↔
      (s.isStreaming → s.streams.streamingRequestId ≠ 0 ∧ s.SnapshotGone) := by
  have hstreaming := (synced_run hrun).isStreaming_iff
  rw [closeCamera_unchanged_iff, hstreaming]
  constructor
  · rintro ⟨-, hrefused⟩ hpos
    obtain ⟨hpos, hgone⟩ := hrefused hpos
    exact ⟨by omega, hgone⟩
  · intro hcond
    constructor
    · rintro ⟨hpos, -⟩
      omega
    · intro hpos
      obtain ⟨hne, hgone⟩ := hcond hpos
      exact ⟨by omega, hgone⟩

def oneTag : RequestMetadata := (∅ : RequestMetadata).insert 0 [0]

def openedCamera : OpenCamera := init {} SnapshotContext.smallMeta true [30] 30

/-- The first stream that is started gets the request id zero. -/
def firstStream : List CameraCall :=
  [.createStream { id := 1, width := 640, height := 480, framerate := 30 }
      { defaultRequest := some oneTag } true,
    .startStream 1 { requestId := 0 } true]

/-- It is closed if the device gets idle in time; if not, as while it repeats a request, the assertion
fails. -/
theorem closed_while_streaming : ∃ s, lts.MTr openedCamera firstStream s ∧ s.isStreaming ∧ ∀ idle,
    (s.closeCamera {} idle).map Prod.fst = (if idle then .ok .noError else .error .assertion) ∧
    ¬ (s.closeCamera {} idle = .ok (.invalidOperation, s) ↔ s.isStreaming) := by
  have hsome : (LTS.run step openedCamera firstStream).isSome := by decide
  obtain ⟨s, hs⟩ := Option.isSome_iff_exists.mp hsome
  have hfacts : ∀ u ∈ LTS.run step openedCamera firstStream, u.isStreaming ∧ ∀ idle,
      (u.closeCamera {} idle).map Prod.fst = (if idle then .ok .noError else .error .assertion) := by
    decide
  obtain ⟨hstreaming, hends⟩ := hfacts s hs
  refine ⟨s, LTS.mTr_ofStep_iff.mpr hs, hstreaming, fun idle => ⟨hends idle, fun h => ?_⟩⟩
  have hclosed := hends idle
  rw [h.mpr hstreaming] at hclosed
  cases idle <;> simp [Except.map] at hclosed

/-- A snapshot was set up and cancelled, and the stream got new parameters after its start. -/
def secondRequest : List CameraCall :=
  [.createStream { id := 1, width := 640, height := 480, framerate := 30 }
      { defaultRequest := some oneTag } true,
    .setUpCapture SnapshotContext.smallParam {}, .cancelCaptureImage {},
    .startStream 1 { requestId := 0 } true, .setCameraParam oneTag { requestId := 0 }]

theorem closeCamera_refuses_second : ∃ s, lts.MTr openedCamera secondRequest s ∧ s.isStreaming ∧
    s.closeCamera {} true = .ok (.invalidOperation, s) := by
  have hsome : (LTS.run step openedCamera secondRequest).isSome := by decide
  obtain ⟨s, hs⟩ := Option.isSome_iff_exists.mp hsome
  have hfacts : ∀ u ∈ LTS.run step openedCamera secondRequest, u.isStreaming ∧
      u.streams.streamingRequestId = 1 ∧ u.context.snapshot.streamIds = [] ∧
      u.context.snapshot.snapshotStreamParam = {} ∧ u.streams.snapshotType = .none ∧
      u.streams.captureRequestId = -1 := by decide
  obtain ⟨hstreaming, hid, hids, hparam, htype, hcapture⟩ := hfacts s hs
  have hrun : lts.MTr openedCamera secondRequest s := LTS.mTr_ofStep_iff.mpr hs
  have hgone : s.SnapshotGone := ⟨hids, hparam, htype, hcapture⟩
  refine ⟨s, hrun, hstreaming, ?_⟩
  exact ((closeCamera_refuses_iff hrun).mpr fun _ => ⟨by simp [hid], hgone⟩).mpr hstreaming

end OpenCamera

end QmmfSdk.Streams
