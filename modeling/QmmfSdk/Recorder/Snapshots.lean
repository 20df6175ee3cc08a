import QmmfSdk.Recorder.CameraRequests
import QmmfSdk.Recorder.Steps

/-! Where snapshots go: to the client of the last capture, on whatever camera that was. -/
namespace QmmfSdk.Recorder

open Library (LTS)

namespace Service

variable {s t : Service} {a : Request} {client : UInt32}

def Registered (s : Service) (client : UInt32) : Prop :=
  ∃ r, s.recorder = some r ∧ client ∈ r.clientSessionMap

/-- The service can call back every registered client. -/
def CallsBack (s : Service) : Prop :=
  ∀ client, s.Registered client → client ∈ s.remoteCbList

/-- Clients join and none leaves. -/
structure Joins (s t : Service) : Prop where
  registered : ∀ client, s.Registered client → t.Registered client
  callsBack : s.CallsBack → t.CallsBack

theorem Joins.refl : Joins s s :=
  ⟨fun _ h => h, fun h => h⟩

/-- A request that only edits what is registered for clients that it knows. -/
theorem Joins.of_recorder {r r' : RecorderImpl} (hr : s.recorder = some r)
    (hkeeps : ∀ c, c ∈ r.clientSessionMap → c ∈ r'.clientSessionMap)
    (hregisters : ∀ c, c ∈ r'.clientSessionMap → c ∈ r.clientSessionMap) :
    Joins s { s with recorder := some r' } := by
  constructor
  · rintro c ⟨r₀, hr₀, hc⟩
    obtain rfl : r = r₀ := Option.some.inj (hr.symm.trans hr₀)
    exact ⟨r', rfl, hkeeps c hc⟩
  · rintro hs c ⟨r₀, hr₀, hc⟩
    obtain rfl : r' = r₀ := Option.some.inj hr₀
    exact hs c ⟨r, hr, hregisters c hc⟩

theorem joins_connect (init : Status) : Joins s (s.connect init).2 := by
  unfold connect
  split
  · exact .refl
  have hmem : ∀ (r : RecorderImpl) c,
      c ∈ (r.registerClient (s.uniqueClientId + 1)).clientSessionMap ↔
        c = s.uniqueClientId + 1 ∨ c ∈ r.clientSessionMap := by
    intro r c
    unfold RecorderImpl.registerClient
    split
    next hvalid =>
      have hvalid := RecorderImpl.isClientValid_iff.mp hvalid
      constructor
      · exact Or.inr
      · rintro (rfl | hc)
        · exact hvalid
        · exact hc
    · simp only [Std.ExtTreeMap.mem_insertIfNew, Std.LawfulEqOrd.compare_eq_iff_eq]
      exact or_congr_left eq_comm
  constructor
  · rintro c ⟨r, hr, hc⟩
    exact ⟨_, rfl, (hmem _ c).mpr (Or.inr (by simpa [hr] using hc))⟩
  · rintro hs c ⟨r, hr, hc⟩
    obtain rfl := Option.some.inj hr
    rcases (hmem _ c).mp hc with rfl | hc
    · simp
    · cases hrec : s.recorder with
      | none => simp [hrec] at hc
      | some r =>
        have hold := hs c ⟨r, hrec, by simpa [hrec] using hc⟩
        simp [Std.ExtTreeMap.mem_insertIfNew, hold]

theorem joins_step (h : Effect s a t) (hleaves : ∀ c force, ¬ a.Leaves c force)
    (hlocks : ∀ c, ¬ a.LocksSession c) : Joins s t := by
  cases h with
  | none ht => exact ht ▸ .refl
  | joined ha ht => exact ht ▸ joins_connect _
  | left ha hr hc hd ht => exact absurd ha (hleaves _ _)
  | @edited client r r' hr ht he hc =>
    subst ht
    refine .of_recorder hr he.keeps fun c hc' => ?_
    rcases he.registers c hc' with rfl | hold
    · exact hc.resolve_right (hlocks c)
    · exact hold
  | @cameras client cam r r' hr ht hc he =>
    subst ht
    have hsame : r'.clientSessionMap = r.clientSessionMap := by
      cases he with
      | touched h | joined _ h | opened _ h | left _ h | closed _ h =>
        subst h
        rfl
    exact .of_recorder hr (fun c hc => hsame ▸ hc) fun c hc => hsame ▸ hc

end Service

namespace CameraContext

variable {ctx ctx' : CameraContext} {st : Status}

/-- While the flag is set nothing is under way that was not cancelled. -/
def Cancels (ctx : CameraContext) : Prop :=
  ctx.cancelCapture = true → ∀ c ∈ ctx.captures, c.cancelled = true

/-- No capture is new. -/
structure Calm (ctx ctx' : CameraContext) : Prop where
  clients : ∀ c ∈ ctx'.captures.map (·.client), c ∈ ctx.captures.map (·.client)
  cancels : ctx.Cancels → ctx'.Cancels

theorem Calm.of_eq (hcaptures : ctx'.captures = ctx.captures)
    (hflag : ctx'.cancelCapture = ctx.cancelCapture) : Calm ctx ctx' :=
  ⟨fun _ hc => hcaptures ▸ hc, fun h hcancel => hcaptures ▸ h (hflag ▸ hcancel)⟩

theorem calm_returnImageCaptureBuffer {bufferId : Int32} {returned : Bool}
    (h : ctx.returnImageCaptureBuffer bufferId returned = .ok (st, ctx')) : Calm ctx ctx' := by
  unfold returnImageCaptureBuffer at h
  split at h
  · simp only [Except.ok.injEq, Prod.mk.injEq] at h
    exact h.2 ▸ .of_eq rfl rfl
  split at h
  · simp at h
  split at h
  · simp only [Except.ok.injEq, Prod.mk.injEq] at h
    exact h.2 ▸ .of_eq rfl rfl
  split at h
  · simp at h
  · simp only [Except.ok.injEq, Prod.mk.injEq] at h
    exact h.2 ▸ .of_eq rfl rfl

theorem calm_configImageCapture {st₀ : Status} {mode : SnapshotMode} {streamIds : List Int32}
    (h : (.ok (ctx.configImageCapture st₀ mode streamIds) :
      Except Abort (Status × CameraContext)) = .ok (st, ctx')) : Calm ctx ctx' := by
  simp only [configImageCapture, Except.ok.injEq, Prod.mk.injEq] at h
  exact h.2 ▸ .of_eq rfl rfl

theorem calm_cancelCaptureImage {stopped : Bool}
    (h : ctx.cancelCaptureImage stopped = .ok (st, ctx')) : Calm ctx ctx' := by
  unfold cancelCaptureImage at h
  split at h
  · split at h
    · simp only [Except.ok.injEq, Prod.mk.injEq] at h
      exact h.2 ▸ .of_eq rfl rfl
    · simp at h
  split at h
  · simp only [Except.ok.injEq, Prod.mk.injEq] at h
    obtain ⟨-, rfl⟩ := h
    refine ⟨fun _ hc => by simpa using hc, fun _ _ c hc => ?_⟩
    obtain ⟨x, -, rfl⟩ := List.mem_map.mp hc
    rfl
  · simp only [Except.ok.injEq, Prod.mk.injEq] at h
    exact h.2 ▸ .of_eq rfl rfl

theorem calm_setCameraParam {tags : CameraMetadata} {submitted : Bool}
    (h : ctx.setCameraParam tags submitted = .ok (st, ctx')) : Calm ctx ctx' := by
  unfold setCameraParam at h
  split at h
  · simp only [Except.ok.injEq, Prod.mk.injEq] at h
    exact h.2 ▸ .of_eq rfl rfl
  split at h
  · simp only [Except.ok.injEq, Prod.mk.injEq] at h
    exact h.2 ▸ .of_eq rfl rfl
  split at h
  · simp at h
  · simp only [Except.ok.injEq, Prod.mk.injEq] at h
    exact h.2 ▸ .of_eq rfl rfl

theorem calm_createStream {id : UInt32} {p : VideoTrackCreateParam} {ans : StreamAnswers}
    (h : ctx.createStream id p ans = .ok (st, ctx')) : Calm ctx ctx' := by
  unfold createStream at h
  split at h
  · simp at h
  split at h
  · simp only [Except.ok.injEq, Prod.mk.injEq] at h
    exact h.2 ▸ .of_eq rfl rfl
  dsimp only at h
  split at h <;> simp only [Except.ok.injEq, Prod.mk.injEq] at h <;> exact h.2 ▸ .of_eq rfl rfl

/-- A capture that is used up keeps its client and whether it was cancelled. -/
theorem exists_of_mem_useUp {captures : List Capture} {i : Nat} {c : Capture}
    (hc : c ∈ useUp captures i) :
    ∃ c' ∈ captures, c'.client = c.client ∧ c'.cancelled = c.cancelled := by
  unfold useUp at hc
  split at hc
  next client n cancelled hi =>
    split at hc
    · exact ⟨c, List.mem_of_mem_eraseIdx hc, rfl, rfl⟩
    · rcases List.mem_or_eq_of_mem_set hc with hc | rfl
      · exact ⟨c, hc, rfl, rfl⟩
      · exact ⟨_, List.mem_of_getElem? hi, rfl, rfl⟩
  · exact ⟨c, hc, rfl, rfl⟩

theorem calm_useUp {i : Nat} (hcaptures : ctx'.captures = useUp ctx.captures i)
    (hflag : ctx'.cancelCapture = ctx.cancelCapture) : Calm ctx ctx' := by
  refine ⟨fun c hc => ?_, fun h hcancel c hc => ?_⟩
  · obtain ⟨x, hx, rfl⟩ := List.mem_map.mp hc
    obtain ⟨y, hy, hclient, -⟩ := exists_of_mem_useUp (hcaptures ▸ hx)
    exact List.mem_map.mpr ⟨y, hy, hclient⟩
  · obtain ⟨y, hy, -, hcancelled⟩ := exists_of_mem_useUp (hcaptures ▸ hc)
    exact hcancelled.symm.trans (h (hflag ▸ hcancel) y hy)

/-- The device takes the requests of a ZSL capture while the images of the camera are dropped. -/
def dropsCapture (ctx : CameraContext) (submitted : Bool) : Bool :=
  ctx.cancelCapture && ctx.snapshotType == .zsl && !ctx.snapshotStreamIds.isEmpty &&
    !ctx.continuousModeIsOn && submitted

/-- What a capture does: nothing, or the context gets a capture of the client, whose images are
not dropped. -/
inductive CaptureOutcome (ctx : CameraContext) (client : UInt32) (submitted : Bool)
    (ctx' : CameraContext) : Prop where
  | refused (h : Calm ctx ctx')
  | added {n : Option Nat} (hcaptures : ctx'.captures = ctx.captures ++ [{ client, left := n }])
      (hflag : ctx'.cancelCapture = false ∨ ctx'.cancelCapture = ctx.cancelCapture ∧
        (ctx.cancelCapture = true → ctx.dropsCapture submitted = true))

theorem outcome_captureImage {client numImages : UInt32} {submitted : Bool}
    (h : ctx.captureImage client numImages submitted = .ok (st, ctx')) :
    CaptureOutcome ctx client submitted ctx' := by
  unfold captureImage at h
  dsimp only at h
  split at h
  · simp only [Except.ok.injEq, Prod.mk.injEq] at h
    exact .refused (h.2 ▸ .of_eq rfl rfl)
  next hstreams =>
  split at h
  · simp only [Except.ok.injEq, Prod.mk.injEq] at h
    exact .refused (h.2 ▸ .of_eq rfl rfl)
  next hmode =>
  split at h
  -- zero shutter lag: a request that fails is an error, in the other modes it is fatal
  next hzsl =>
    split at h <;> simp only [Except.ok.injEq, Prod.mk.injEq] at h
    next hsubmitted =>
      obtain ⟨-, rfl⟩ := h
      refine .added rfl (.inr ⟨rfl, fun hcancel => ?_⟩)
      have hzsl : ctx.snapshotType = .zsl := hzsl
      have hmode : ctx.continuousModeIsOn = false := by simpa using hmode
      simpa [dropsCapture, hcancel, hzsl, hmode, hsubmitted] using hstreams
    next hfailed => exact .refused (h.2 ▸ .of_eq rfl rfl)
  · split at h <;> simp only [Except.ok.injEq, Prod.mk.injEq, reduceCtorEq] at h
    obtain ⟨-, rfl⟩ := h
    exact .added rfl (.inl rfl)
  · split at h <;> simp only [Except.ok.injEq, Prod.mk.injEq, reduceCtorEq] at h
    obtain ⟨-, rfl⟩ := h
    exact .added rfl (.inl rfl)

end CameraContext

namespace CameraSource

variable {src src' : CameraSource} {camera client c : UInt32} {ctx ctx' : CameraContext}
  {st : Status}

/-- Images of a capture of this client are still to come. -/
def Awaits (src : CameraSource) (client : UInt32) : Prop :=
  ∃ (camera : UInt32) (ctx : CameraContext), src.cameraMap[camera]? = some ctx ∧
    client ∈ ctx.captures.map (·.client)

def Cancels (src : CameraSource) : Prop :=
  ∀ (camera : UInt32) (ctx : CameraContext), src.cameraMap[camera]? = some ctx → ctx.Cancels

/-- No capture is new, and the callback stays. -/
structure Quiet (src src' : CameraSource) : Prop where
  callback : src'.clientSnapshotCb = src.clientSnapshotCb
  awaits : ∀ client, src'.Awaits client → src.Awaits client
  cancels : src.Cancels → src'.Cancels

theorem Quiet.refl : Quiet src src :=
  ⟨rfl, fun _ h => h, id⟩

theorem awaits_insert (h : Awaits { src with cameraMap := src.cameraMap.insert camera ctx } c) :
    c ∈ ctx.captures.map (·.client) ∨ src.Awaits c := by
  obtain ⟨k, x, hx, hc⟩ := h
  simp only [Std.ExtTreeMap.getElem?_insert, Std.LawfulEqOrd.compare_eq_iff_eq] at hx
  split at hx
  · obtain rfl := Option.some.inj hx
    exact Or.inl hc
  · exact Or.inr ⟨k, x, hx, hc⟩

theorem cancels_insert (h : src.Cancels) (hctx : ctx.Cancels) :
    Cancels { src with cameraMap := src.cameraMap.insert camera ctx } := by
  intro k x hx
  simp only [Std.ExtTreeMap.getElem?_insert, Std.LawfulEqOrd.compare_eq_iff_eq] at hx
  split at hx
  · obtain rfl := Option.some.inj hx
    exact hctx
  · exact h k x hx

theorem quiet_insert (hctx : src.cameraMap[camera]? = some ctx) (hcalm : ctx.Calm ctx') :
    Quiet src { src with cameraMap := src.cameraMap.insert camera ctx' } := by
  refine ⟨rfl, fun c hc => ?_, fun h => cancels_insert h (hcalm.cancels (h camera ctx hctx))⟩
  rcases awaits_insert hc with hnew | hold
  · exact ⟨camera, ctx, hctx, hcalm.clients c hnew⟩
  · exact hold

/-- A call on one camera that adds no capture to its context. -/
theorem quiet_onCamera {f : CameraContext → Except Abort (Status × CameraContext)}
    (hf : ∀ ctx st ctx', f ctx = .ok (st, ctx') → ctx.Calm ctx')
    (h : src.onCamera camera f = .ok (st, src')) : Quiet src src' := by
  rcases onCamera_ok h with ⟨-, -, rfl⟩ | ⟨ctx, ctx', hctx, hok, rfl⟩
  · exact .refl
  · exact quiet_insert hctx (hf ctx st ctx' hok)

theorem quiet_startCamera {opened : Status} : Quiet src (src.startCamera camera opened).2 := by
  unfold startCamera
  split
  · exact .refl
  split
  · exact .refl
  · refine ⟨rfl, fun c hc => ?_, fun h => cancels_insert h fun hcancel => by simp at hcancel⟩
    exact (awaits_insert hc).resolve_left (by simp)

theorem quiet_stopCamera {closed : Status} : Quiet src (src.stopCamera camera closed).2 := by
  unfold stopCamera
  split
  · exact .refl
  split
  · exact .refl
  · have hold : ∀ {k : UInt32} {x}, (src.cameraMap.erase camera)[k]? = some x →
        src.cameraMap[k]? = some x := by
      intro k x hx
      rw [Std.ExtTreeMap.getElem?_erase] at hx
      split at hx
      · simp at hx
      · exact hx
    refine ⟨rfl, ?_, fun h k x hx => h k x (hold hx)⟩
    rintro c ⟨k, x, hx, hc⟩
    exact ⟨k, x, hold hx, hc⟩

theorem quiet_addTrackSource {id : UInt32} {track : TrackSource} (h : Quiet src src') :
    Quiet src (src'.addTrackSource id track) :=
  ⟨h.callback, h.awaits, h.cancels⟩

theorem quiet_createOwnTrack {id : UInt32} {p : VideoTrackCreateParam}
    {ans : CameraContext.StreamAnswers} (h : src.createOwnTrack id p ans = .ok (st, src')) :
    Quiet src src' := by
  unfold createOwnTrack at h
  split at h
  · obtain ⟨-, rfl⟩ : _ ∧ src = src' := by simpa using h
    exact .refl
  obtain ⟨⟨st₀, src₀⟩, hcreated, h⟩ := Library.bind_eq_ok_iff.mp h
  have hquiet : Quiet src src₀ :=
    quiet_onCamera (fun ctx st ctx' => CameraContext.calm_createStream) hcreated
  dsimp only at h
  split at h
  · obtain ⟨-, rfl⟩ : _ ∧ src₀ = src' := by simpa using h
    exact hquiet
  · obtain ⟨-, rfl⟩ := Prod.mk.inj (Except.ok.inj h)
    exact quiet_addTrackSource hquiet

theorem quiet_createTrackSource {id : UInt32} {p : VideoTrackCreateParam} {source : Option UInt32}
    {ans : CameraContext.StreamAnswers}
    (h : src.createTrackSource id p source ans = .ok (st, src')) : Quiet src src' := by
  unfold createTrackSource at h
  split at h
  · obtain ⟨-, rfl⟩ : _ ∧ src = src' := by simpa using h
    exact .refl
  split at h
  · exact quiet_createOwnTrack h
  split at h
  · simp at h
  split at h
  · exact quiet_createOwnTrack h
  split at h
  · obtain ⟨-, rfl⟩ := Prod.mk.inj (Except.ok.inj h)
    exact quiet_addTrackSource .refl
  split at h
  · obtain ⟨-, rfl⟩ : _ ∧ src = src' := by simpa using h
    exact .refl
  · obtain ⟨-, rfl⟩ := Prod.mk.inj (Except.ok.inj h)
    exact quiet_addTrackSource .refl

/-- After a capture the callback is that of its client. -/
theorem captureImage_ok {numImages : UInt32} {submitted : Bool}
    (h : src.captureImage client camera numImages submitted = .ok (st, src')) :
    camera ∉ src.cameraMap ∧ src' = src ∨
    camera ∈ src.cameraMap ∧ src'.clientSnapshotCb = some client ∧
      (∀ c, src'.Awaits c → c = client ∨ src.Awaits c) ∧
      (((src.cameraMap[camera]?).all fun ctx => !ctx.dropsCapture submitted) = true →
        src.Cancels → src'.Cancels) := by
  unfold captureImage at h
  split at h
  next hclosed =>
    obtain ⟨-, rfl⟩ : _ ∧ src = src' := by simpa using h
    exact Or.inl ⟨hclosed, rfl⟩
  next hopen =>
    refine Or.inr ⟨not_not.mp hopen, ?_⟩
    rcases onCamera_ok h with ⟨-, -, rfl⟩ | ⟨ctx, ctx', hctx, hok, rfl⟩
    · exact ⟨rfl, fun c hc => Or.inr hc, fun _ h => h⟩
    have hctx : src.cameraMap[camera]? = some ctx := hctx
    cases CameraContext.outcome_captureImage hok with
    | refused hcalm =>
      refine ⟨rfl, fun c hc => Or.inr ?_, fun _ h => ?_⟩
      · exact (quiet_insert hctx hcalm).awaits c hc
      · exact (quiet_insert hctx hcalm).cancels h
    | @added n hcaptures hflag =>
      refine ⟨rfl, fun c hc => ?_, fun hkeeps h => cancels_insert h fun hcancel => ?_⟩
      · rcases awaits_insert hc with hnew | hold
        · rw [hcaptures, List.map_append, List.mem_append] at hnew
          rcases hnew with hold | hnew
          · exact Or.inr ⟨camera, ctx, hctx, hold⟩
          · exact Or.inl (by simpa using hnew)
        · exact Or.inr hold
      · -- a capture whose images would be dropped is left out
        rcases hflag with hflag | ⟨hflag, hdrops⟩
        · simp [hflag] at hcancel
        · rw [hctx, Option.all_some, hdrops (hflag ▸ hcancel)] at hkeeps
          simp at hkeeps

end CameraSource

namespace CameraService

open CameraSource (Quiet)

variable {s t : CameraService} {client camera : UInt32} {st : Status}

/-- Every image that a capture can still deliver is handed to `NotifySnapshotData` of the client
that asked for it, or, if that capture was cancelled, it may go back to the device. -/
def Routed (s : CameraService) : Prop :=
  ∀ camera ctx i capture buffer bn, s.source.cameraMap[camera]? = some ctx →
    ctx.captures[i]? = some capture → buffer.toBnBuffer = .ok bn →
    ∃ d t, s.snapshot camera i buffer = some (.ok (d, t)) ∧
      (d = some ⟨capture.client, camera, ctx.captureCnt, bn, buffer.format⟩ ∨
        d = none ∧ capture.cancelled = true)

/-- A client that owns a camera captures on it only while no image of another client is to come,
from any camera, and without shutter lag only while the images of the camera are not dropped. -/
def capturesAlone (s : CameraService) : CameraRequest → Bool
  | .captureImage client camera _ submitted =>
    !(s.recorder.any fun r => r.isCameraValid client camera) ||
      !s.source.cameraMap.contains camera ||
      ((s.source.cameraMap[camera]?).all fun ctx => !ctx.dropsCapture submitted) &&
      s.source.cameraMap.toList.all fun p => p.2.captures.all fun c => c.client == client
  | _ => true

/-- The one callback of `CameraSource` is that of every client that awaits an image, and it can be
called. -/
structure Answers (s : CameraService) : Prop where
  callback : ∀ c, s.source.Awaits c → s.source.clientSnapshotCb = some c
  cancels : s.source.Cancels
  registered : ∀ c, s.source.clientSnapshotCb = some c → s.service.Registered c
  callsBack : s.service.CallsBack

theorem answers_initial : Answers {} :=
  ⟨by rintro c ⟨camera, ctx, hctx, -⟩; simp at hctx, fun camera ctx hctx => by simp at hctx, by simp,
    by rintro c ⟨r, hr, -⟩; simp at hr⟩

theorem Answers.routed (h : Answers s) : Routed s := by
  intro camera ctx i capture buffer bn hctx hcapture hbn
  have hcb : s.source.clientSnapshotCb = some capture.client :=
    h.callback _ ⟨camera, ctx, hctx, List.mem_map_of_mem (List.mem_of_getElem? hcapture)⟩
  obtain ⟨r, hr, hclient⟩ := h.registered _ hcb
  have hvalid : r.isClientValid capture.client = true := RecorderImpl.isClientValid_iff.mpr hclient
  have hremote : s.service.remoteCb capture.client = true := by
    simpa [Service.remoteCb] using h.callsBack _ ⟨r, hr, hclient⟩
  have hi : ¬ ctx.captures.length ≤ i := by
    have hlt := (List.getElem?_eq_some_iff.mp hcapture).1
    omega
  have hr : s.recorder = some r := hr
  cases hcancel : ctx.cancelCapture with
  | false => simp [snapshot, hctx, hi, hcancel, hbn, hcb, hr, hvalid, hremote, bind, Except.bind]
  | true =>
    have hcancelled : capture.cancelled = true :=
      h.cancels camera ctx hctx hcancel _ (List.mem_of_getElem? hcapture)
    simp [snapshot, hctx, hi, hcancel, hcancelled]

/-- A step in which no capture is added. -/
theorem Answers.quiet (h : Answers s) (hjoins : s.service.Joins t.service)
    (hquiet : Quiet s.source t.source) : Answers t where
  callback c hc := hquiet.callback.trans (h.callback c (hquiet.awaits c hc))
  cancels := hquiet.cancels h.cancels
  registered c hc := hjoins.registered c (h.registered c (hquiet.callback.symm.trans hc))
  callsBack := hjoins.callsBack h.callsBack

theorem onService_ok {a : Request} (h : s.onService a = .ok (st, t)) :
    t.source = s.source ∧ Service.Effect s.service a t.service := by
  obtain ⟨⟨st', service⟩, hstep, h⟩ := Library.bind_eq_ok_iff.mp h
  obtain ⟨-, rfl⟩ : _ ∧ ({ s with service } : CameraService) = t := by simpa using h
  exact ⟨rfl, Service.step_effect (Service.next_eq_some.mpr ⟨st', hstep⟩)⟩

theorem answers_onService {a : Request} (hs : Answers s) (h : s.onService a = .ok (st, t))
    (hleaves : ∀ c force, ¬ a.Leaves c force) (hlocks : ∀ c, ¬ a.LocksSession c) : Answers t := by
  obtain ⟨hsource, heffect⟩ := onService_ok h
  exact hs.quiet (Service.joins_step heffect hleaves hlocks) (hsource ▸ .refl)

theorem answers_startCamera {slave : Bool} {m : Media} (hs : Answers s)
    (h : s.startCamera client camera slave m = .ok (st, t)) : Answers t := by
  obtain ⟨⟨st', u⟩, hstep, h⟩ := Library.bind_eq_ok_iff.mp h
  have hu := answers_onService hs hstep (by simp [Request.Leaves]) (by simp [Request.LocksSession])
  have hsource := (onService_ok hstep).1
  simp only [Except.ok.injEq, Prod.mk.injEq] at h
  obtain ⟨-, rfl⟩ := h
  split
  · exact hu.quiet .refl (hsource ▸ CameraSource.quiet_startCamera)
  · exact hu

theorem answers_stopCamera {m : Media} (hs : Answers s)
    (h : s.stopCamera client camera m = .ok (st, t)) : Answers t := by
  obtain ⟨⟨st', u⟩, hstep, h⟩ := Library.bind_eq_ok_iff.mp h
  have hu := answers_onService hs hstep (by simp [Request.Leaves]) (by simp [Request.LocksSession])
  have hsource := (onService_ok hstep).1
  simp only [Except.ok.injEq, Prod.mk.injEq] at h
  obtain ⟨-, rfl⟩ := h
  split
  · exact hu.quiet .refl (hsource ▸ CameraSource.quiet_stopCamera)
  · exact hu

/-- What a request of an owner can do: nothing but touch the entry of the client, or the call of
the camera source. -/
theorem forOwner_ok {f : CameraSource → Except Abort (Status × CameraSource)}
    (h : s.forOwner client camera f = .ok (st, t)) :
    t = s ∨ ∃ r, s.recorder = some r ∧
      (r.isCameraValid client camera = false ∧ t = s.setRecorder (r.touchCameras client) ∨
        ∃ src, r.isCameraValid client camera = true ∧ f s.source = .ok (st, src) ∧
          t = { s.setRecorder (r.touchCameras client) with source := src }) := by
  unfold forOwner at h
  split at h
  · exact Or.inl (by simpa [eq_comm] using h : _ ∧ t = s).2
  next r hr =>
    split at h
    · exact Or.inl (by simpa [eq_comm] using h : _ ∧ t = s).2
    split at h
    next hvalid =>
      obtain ⟨-, rfl⟩ : _ ∧ s.setRecorder (r.touchCameras client) = t := by simpa using h
      exact Or.inr ⟨r, hr, Or.inl ⟨by simpa using hvalid, rfl⟩⟩
    next hvalid =>
      obtain ⟨⟨st', src⟩, hf, h⟩ := Library.bind_eq_ok_iff.mp h
      simp only [Except.ok.injEq, Prod.mk.injEq] at h
      obtain ⟨rfl, rfl⟩ := h
      exact Or.inr ⟨r, hr, Or.inr ⟨src, by simpa using hvalid, hf, rfl⟩⟩

theorem joins_touchCameras (client : UInt32) {r : RecorderImpl} (hr : s.recorder = some r) :
    s.service.Joins (s.setRecorder (r.touchCameras client)).service := by
  have hsame : (r.touchCameras client).clientSessionMap = r.clientSessionMap := by
    unfold RecorderImpl.touchCameras
    split <;> rfl
  exact .of_recorder hr (fun c hc => hsame ▸ hc) fun c hc => hsame ▸ hc

theorem answers_forOwner {f : CameraSource → Except Abort (Status × CameraSource)}
    (hf : ∀ src st src', f src = .ok (st, src') → Quiet src src') (hs : Answers s)
    (h : s.forOwner client camera f = .ok (st, t)) : Answers t := by
  rcases forOwner_ok h with rfl | ⟨r, hr, ⟨-, rfl⟩ | ⟨src, -, hok, rfl⟩⟩
  · exact hs
  · exact hs.quiet (joins_touchCameras client hr) .refl
  · exact hs.quiet (joins_touchCameras client hr) (hf _ _ _ hok)

theorem answers_captureImage {numImages : UInt32} {submitted : Bool} (hs : Answers s)
    (hguard : s.capturesAlone (.captureImage client camera numImages submitted) = true)
    (h : s.captureImage client camera numImages submitted = .ok (st, t)) : Answers t := by
  rcases forOwner_ok h with rfl | ⟨r, hr, ⟨-, rfl⟩ | ⟨src, hvalid, hok, rfl⟩⟩
  · exact hs
  · exact hs.quiet (joins_touchCameras client hr) .refl
  have hjoins := joins_touchCameras client hr
  rcases CameraSource.captureImage_ok hok with ⟨-, rfl⟩ | ⟨hopen, hcb, hawaits, hcancels⟩
  · exact hs.quiet hjoins .refl
  have hopen : s.source.cameraMap.contains camera = true :=
    Std.ExtTreeMap.contains_iff_mem.mpr hopen
  simp only [capturesAlone, hr, Option.any_some, hvalid, hopen, Bool.not_true, Bool.false_or,
    Bool.and_eq_true, List.all_eq_true, beq_iff_eq] at hguard
  obtain ⟨hdrops, hguard⟩ := hguard
  have halone : ∀ c, s.source.Awaits c → c = client := by
    rintro c ⟨k, ctx, hctx, hc⟩
    obtain ⟨x, hx, rfl⟩ := List.mem_map.mp hc
    exact hguard (k, ctx) (Std.ExtTreeMap.mem_toList_iff_getElem?_eq_some.mpr hctx) x hx
  refine ⟨?_, hcancels hdrops hs.cancels, ?_, ?_⟩
  · intro c hc
    rcases hawaits c hc with rfl | hold
    · exact hcb
    · exact halone c hold ▸ hcb
  · intro c hc
    obtain rfl : client = c := Option.some.inj (hcb.symm.trans hc)
    have hclient : r.isClientValid client = true := by
      simp only [RecorderImpl.isCameraValid, Bool.and_eq_true] at hvalid
      exact hvalid.1
    exact hjoins.registered client ⟨r, hr, RecorderImpl.isClientValid_iff.mp hclient⟩
  · exact hjoins.callsBack hs.callsBack

theorem answers_createVideoTrack {session track : UInt32} {p : VideoTrackCreateParam}
    {extra : VideoExtraParam} {m : Media} {ans : CameraContext.StreamAnswers} (hs : Answers s)
    (h : s.createVideoTrack client session track p extra m ans = .ok (st, t)) : Answers t := by
  unfold createVideoTrack at h
  dsimp only at h
  split at h
  · exact (by simpa [eq_comm] using h : _ ∧ t = s).2 ▸ hs
  next r hr =>
    split at h
    · exact (by simpa [eq_comm] using h : _ ∧ t = s).2 ▸ hs
    next hchecks =>
      obtain ⟨found, -, h⟩ := Library.bind_eq_ok_iff.mp h
      split at h
      · exact (by simpa [eq_comm] using h : _ ∧ t = s).2 ▸ hs
      obtain ⟨source, -, h⟩ := Library.bind_eq_ok_iff.mp h
      obtain ⟨⟨st₁, src⟩, hcreated, h⟩ := Library.bind_eq_ok_iff.mp h
      obtain ⟨⟨st₂, r'⟩, htrack, h⟩ := Library.bind_eq_ok_iff.mp h
      simp only [Except.ok.injEq, Prod.mk.injEq] at h
      obtain ⟨-, rfl⟩ := h
      have hedits := RecorderImpl.edits_createVideoTrack htrack
      have hclient : client ∈ r.clientSessionMap := by
        have hchecks : checksTrack r client session track = true := by simpa using hchecks
        simp only [checksTrack, Bool.and_eq_true] at hchecks
        exact RecorderImpl.isClientValid_iff.mp hchecks.1.1.2
      refine hs.quiet (.of_recorder hr hedits.keeps fun c hc => ?_)
        (CameraSource.quiet_createTrackSource hcreated)
      rcases hedits.registers c hc with rfl | hold
      · exact hclient
      · exact hold

theorem answers_returnImageCaptureBuffer (client : UInt32) {bufferId : Int32} {returned : Bool}
    (hs : Answers s)
    (h : s.returnImageCaptureBuffer client camera bufferId returned = .ok (st, t)) : Answers t := by
  unfold returnImageCaptureBuffer at h
  split at h
  · exact (by simpa [eq_comm] using h : _ ∧ t = s).2 ▸ hs
  obtain ⟨⟨st', src⟩, hreturned, h⟩ := Library.bind_eq_ok_iff.mp h
  simp only [Except.ok.injEq, Prod.mk.injEq] at h
  obtain ⟨-, rfl⟩ := h
  exact hs.quiet .refl (CameraSource.quiet_onCamera
    (fun ctx st ctx' => CameraContext.calm_returnImageCaptureBuffer) hreturned)

theorem answers_snapshot {i : Nat} {buffer : StreamBuffer} {d : Option SnapshotData}
    (hs : Answers s) (h : s.snapshot camera i buffer = some (.ok (d, t))) : Answers t := by
  unfold snapshot at h
  split at h
  · simp at h
  next ctx hctx =>
    split at h
    · simp at h
    dsimp only at h
    split at h
    · simp only [Option.some.injEq, Except.ok.injEq, Prod.mk.injEq] at h
      obtain ⟨-, rfl⟩ := h
      exact hs.quiet .refl
        (CameraSource.quiet_insert hctx (CameraContext.calm_useUp rfl rfl))
    · obtain ⟨bn, -, h⟩ := Library.bind_eq_ok_iff.mp (Option.some.inj h)
      split at h
      · split at h
        · simp at h
        split at h
        · simp at h
        simp only [Except.ok.injEq, Prod.mk.injEq] at h
        obtain ⟨-, rfl⟩ := h
        exact hs.quiet .refl
          (CameraSource.quiet_insert hctx (CameraContext.calm_useUp rfl rfl))
      · simp at h

theorem answers_lost {i : Nat} (hs : Answers s) : Answers (s.lost camera i) := by
  -- a context is as before, or has used up one image
  have hold : ∀ {k : UInt32} {ctx}, (s.lost camera i).source.cameraMap[k]? = some ctx →
      ∃ ctx', s.source.cameraMap[k]? = some ctx' ∧ ctx'.Calm ctx := by
    intro k ctx hctx
    simp only [lost, Std.ExtTreeMap.getElem?_modify, Std.LawfulEqOrd.compare_eq_iff_eq] at hctx
    split at hctx
    next heq =>
      obtain ⟨ctx', hctx', rfl⟩ := Option.map_eq_some_iff.mp hctx
      exact ⟨ctx', heq ▸ hctx', CameraContext.calm_useUp rfl rfl⟩
    · exact ⟨ctx, hctx, .of_eq rfl rfl⟩
  refine hs.quiet .refl ⟨rfl, ?_, fun h k ctx hctx => ?_⟩
  · rintro c ⟨k, ctx, hctx, hc⟩
    obtain ⟨ctx', hctx', hcalm⟩ := hold hctx
    exact ⟨k, ctx', hctx', hcalm.clients c hc⟩
  · obtain ⟨ctx', hctx', hcalm⟩ := hold hctx
    exact hcalm.cancels (h k ctx' hctx')

theorem answers_step {a : CameraRequest} (hs : Answers s) (hguard : s.capturesAlone a = true)
    (h : s.step a = .ok (st, t)) : Answers t := by
  cases a with
  | connect init =>
    exact answers_onService hs h (by simp [Request.Leaves]) (by simp [Request.LocksSession])
  | createSession client =>
    exact answers_onService hs h (by simp [Request.Leaves]) (by simp [Request.LocksSession])
  | startCamera client camera slave m => exact answers_startCamera hs h
  | stopCamera client camera m => exact answers_stopCamera hs h
  | createVideoTrack client session track p extra m ans => exact answers_createVideoTrack hs h
  | captureImage client camera numImages submitted => exact answers_captureImage hs hguard h
  | configImageCapture client camera st mode streamIds =>
    exact answers_forOwner (fun src st src' hok => CameraSource.quiet_onCamera
      (fun ctx st ctx' => CameraContext.calm_configImageCapture) hok) hs h
  | cancelCaptureImage client camera stopped =>
    exact answers_forOwner (fun src st src' hok => CameraSource.quiet_onCamera
      (fun ctx st ctx' => CameraContext.calm_cancelCaptureImage) hok) hs h
  | returnImageCaptureBuffer client camera bufferId returned =>
    exact answers_returnImageCaptureBuffer client hs h
  | setCameraParam client camera tags submitted =>
    exact answers_forOwner (fun src st src' hok => CameraSource.quiet_onCamera
      (fun ctx st ctx' => CameraContext.calm_setCameraParam) hok) hs h
  | snapshot camera i buffer =>
    simp only [step] at h
    split at h
    · exact (by simpa [eq_comm] using h : _ ∧ t = s).2 ▸ hs
    next result hresult =>
      obtain ⟨⟨d, u⟩, hok, h⟩ := Library.bind_eq_ok_iff.mp h
      simp only [Except.ok.injEq, Prod.mk.injEq] at h
      exact h.2 ▸ answers_snapshot hs (hresult.trans (congrArg some hok))
  | lost camera i =>
    simp only [step, Except.ok.injEq, Prod.mk.injEq] at h
    exact h.2 ▸ answers_lost hs

theorem next_eq_some {a : CameraRequest} : s.next a = some t ↔ ∃ st, s.step a = .ok (st, t) := by
  unfold next
  split <;> simp_all

/-- In every run in which no client captures while an image of another one is to come, snapshots
go to the client that asked for them. -/
theorem routed_of_capturesAlone (as : List CameraRequest) (t : CameraService)
    (h : (lts.guarded fun s a => s.capturesAlone a = true).MTr {} as t) : Routed t := by
  have hinv : (lts.guarded fun s a => s.capturesAlone a = true).TrInv Answers := by
    rintro s a t ⟨hstep, hguard⟩ hs
    obtain ⟨st, hstep⟩ := next_eq_some.mp hstep
    exact answers_step hs hguard hstep
  exact (LTS.inv_of_mTr hinv h answers_initial).routed

/-- Two clients, each with a camera of its own that is ready for still captures. -/
def twoCameras : List CameraRequest :=
  [.connect .noError, .connect .noError, .startCamera 1 0 false {}, .startCamera 2 1 false {},
    .configImageCapture 1 0 .noError .still [5], .configImageCapture 2 1 .noError .still [5]]

/-- A JPEG image. -/
def image (fd : Int32) : StreamBuffer where
  fd := fd
  size := 4096
  format := .blob
  jpegSize := 1000

/-- The client that the next image of a camera goes to. -/
def receiver (s : CameraService) (camera : UInt32) : Option UInt32 :=
  match s.snapshot camera 0 (image 7) with
  | some (.ok (some d, _)) => some d.client
  | _ => none

/-- The first client gets one image of two and cancels; the second client captures once the other
image has gone back to the device. -/
def oneAfterTheOther : List CameraRequest :=
  twoCameras ++ [.captureImage 1 0 2 true, .snapshot 0 0 (image 7), .cancelCaptureImage 1 0 true,
    .snapshot 0 0 (image 8), .captureImage 2 1 1 true]

theorem routed_oneAfterTheOther :
    ((LTS.run next {} oneAfterTheOther).map fun t => (t.receiver 0, t.receiver 1)) =
      some (none, some 2) ∧
    ∃ t, (lts.guarded fun s a => s.capturesAlone a = true).MTr {} oneAfterTheOther t ∧ Routed t := by
  have hrun : ((LTS.run next {} oneAfterTheOther).map fun t => (t.receiver 0, t.receiver 1)) =
      some (none, some 2) := by decide
  obtain ⟨t, ht, -⟩ := Option.map_eq_some_iff.mp hrun
  have hguard : (lts.guarded fun s a => s.capturesAlone a = true).MTr {} oneAfterTheOther t :=
    LTS.mTr_guarded_iff.mpr ⟨ht, by decide⟩
  exact ⟨hrun, t, hguard, routed_of_capturesAlone oneAfterTheOther t hguard⟩

/-- The second client captures before, and gets the image of the first one. -/
theorem image_goes_to_last_client :
    ¬ ∀ (as : List CameraRequest) (t : CameraService), lts.MTr {} as t → Routed t := by
  intro hall
  have hwrong : ((LTS.run next {} (twoCameras ++ [.captureImage 1 0 1 true,
      .captureImage 2 1 1 true])).map fun t => (t.source.cameraMap[(0 : UInt32)]?.map fun ctx =>
        (ctx.captures, ctx.cancelCapture), t.receiver 0)) =
      some (some ([{ client := 1, left := some 1 }], false), some 2) := by decide
  obtain ⟨t, hrun, ht⟩ := Option.map_eq_some_iff.mp hwrong
  obtain ⟨hctx, hreceiver⟩ := Prod.mk.injEq .. ▸ ht
  obtain ⟨ctx, hctx, hfields⟩ := Option.map_eq_some_iff.mp hctx
  obtain ⟨hcaptures, -⟩ := Prod.mk.injEq .. ▸ hfields
  obtain ⟨d, u, hu, rfl | ⟨-, hcancelled⟩⟩ := hall _ t (LTS.mTr_ofStep_iff.mpr hrun) 0 ctx 0
    { client := 1, left := some 1 } (image 7) _ hctx (by simp [hcaptures]) rfl
  · simp [receiver, hu] at hreceiver
  · simp at hcancelled

end CameraService

end QmmfSdk.Recorder
