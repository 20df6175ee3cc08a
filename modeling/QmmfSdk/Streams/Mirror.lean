import QmmfSdk.Streams.Batch

/-! The streaming requests as a mirror of the ports, from update to update. -/
namespace QmmfSdk.Streams

open Library (LTS bind_eq_ok_iff)
open Recorder (SnapshotMode Status)

/-- What holds of a port between two updates: only a paused one may be missing in some requests. -/
structure CameraPort.Tracked (requests : List Camera3Request) (port : CameraPort) : Prop where
  settled : port.Settled
  ready : port.readyToStart = true ↔ port.portState = .started ∨ port.portState = .paused
  below : ∀ i, port.cameraStreamId ∈ idsAt requests i →
    (port.portState = .started ∨ port.portState = .paused) ∧ i < port.batchSize
  listed : port.portState = .started → ∀ i < port.batchSize, port.cameraStreamId ∈ idsAt requests i

theorem CameraPort.Tracked.congr {requests requests' : List Camera3Request} {port : CameraPort}
    (h : port.Tracked requests) (hsame : ∀ i, port.cameraStreamId ∈ idsAt requests' i ↔
      port.cameraStreamId ∈ idsAt requests i) : port.Tracked requests' :=
  ⟨h.settled, h.ready, fun i hi => h.below i ((hsame i).mp hi),
    fun hstate i hi => (hsame i).mpr (h.listed hstate i hi)⟩

namespace CameraContext

variable {ctx u : CameraContext} {trackId : UInt32} {port : CameraPort} {submitted : Submitted}
  {flushed ready : Bool} {st : Status} {via target : PortState} {ids : Nat → Int → Prop}

/-- A stream is in a request exactly when its port runs and the request is one of its batch. -/
structure Mirrors (ctx : CameraContext) : Prop where
  mem_iff : ∀ (trackId : UInt32) (port : CameraPort), ctx.activePorts[trackId]? = some port →
    ∀ i, port.cameraStreamId ∈ idsAt ctx.streamingActiveRequests i ↔
      (port.portState = .readyToStart ∨ port.portState = .started) ∧ i < port.batchSize
  nodup : ∀ r ∈ ctx.streamingActiveRequests, r.streamIds.Nodup
  alike : AllAlike ctx.streamingActiveRequests

/-- What holds of the requests between two updates. -/
structure Tracked (ctx : CameraContext) : Prop where
  ids : ctx.StreamIds
  ports : ∀ (id : UInt32) (port : CameraPort), ctx.activePorts[id]? = some port →
    port.Tracked ctx.streamingActiveRequests
  fresh : ∀ i, ∀ x ∈ idsAt ctx.streamingActiveRequests i, x < ctx.nextStreamId
  nodup : ∀ r ∈ ctx.streamingActiveRequests, r.streamIds.Nodup
  alike : AllAlike ctx.streamingActiveRequests
  first : ∀ (id : UInt32) (port : CameraPort), ctx.activePorts[id]? = some port →
    ctx.streamingActiveRequests ≠ []

theorem mem_idsAt {requests : List Camera3Request} {i : Nat} {x : Int}
    (h : x ∈ idsAt requests i) : ∃ r ∈ requests, x ∈ r.streamIds := by
  cases hget : requests[i]? with
  | none => simp [idsAt, hget] at h
  | some r => exact ⟨r, List.mem_of_getElem? hget, idsAt_of_getElem? hget ▸ h⟩

theorem Tracked.mirrors (hs : ctx.Tracked)
    (hpaused : ∀ (id : UInt32) (port : CameraPort), ctx.activePorts[id]? = some port →
      port.portState = .paused → ∀ i, port.cameraStreamId ∉ idsAt ctx.streamingActiveRequests i) :
    ctx.Mirrors := by
  refine ⟨fun id port hport i => ⟨fun hi => ?_, fun hi => ?_⟩, hs.nodup, hs.alike⟩
  · obtain ⟨hstate | hstate, hlt⟩ := (hs.ports id port hport).below i hi
    · exact ⟨.inr hstate, hlt⟩
    · exact absurd hi (hpaused id port hport hstate i)
  · obtain ⟨hstate | hstate, hlt⟩ := hi
    · exact absurd hstate (hs.ports id port hport).settled.1
    · exact (hs.ports id port hport).listed hstate i hlt

/-- An update for the port of the track disturbs nothing: no other port is paused with its stream
left in a request, and a start adds a second request only to one with a frame rate alone. -/
def Undisturbed (ctx : CameraContext) (trackId : UInt32) (port : CameraPort) (target : PortState) :
    Prop :=
  (∀ it ∈ ctx.activePorts.toList, it.1 ≠ trackId → it.2.portState = .paused →
    ∀ r ∈ ctx.streamingActiveRequests, it.2.cameraStreamId ∉ r.streamIds) ∧
  (target = .started → 1 < port.batchSize → ctx.streamingActiveRequests.length ≤ 1 →
    OnlyFrameRate ctx.streamingActiveRequests)

instance : Decidable (ctx.Undisturbed trackId port target) := by
  unfold Undisturbed
  infer_instance

/-- The requests after a turn mirror the port that was turned, and the others as before. -/
theorem Tracked.turned (hs : ctx.Tracked) (hport : ctx.activePorts[trackId]? = some port)
    (htarget : ready = true ∧ target = .started ∨ ready = false ∧ target = .stopped)
    (h : (ctx.setPort trackId { port with readyToStart := ready, portState := via }).updateRequest
      submitted flushed = .ok (st, u))
    (he : Edited (ctx.setPort trackId { port with readyToStart := ready, portState := via }) ids u)
    (halike : AllAlike u.streamingActiveRequests)
    (hself : ∀ i, ids i port.cameraStreamId ↔ target = .started ∧ i < port.batchSize)
    (hother : ∀ i x, x ≠ port.cameraStreamId →
      (ids i x ↔ x ∈ idsAt ctx.streamingActiveRequests i)) :
    (u.setPortState trackId target).Tracked ∧
      (ctx.Undisturbed trackId port target → (u.setPortState trackId target).Mirrors) := by
  have hlook : ∀ (id : UInt32) (p : CameraPort),
      (u.setPortState trackId target).activePorts[id]? = some p →
      p = { port with readyToStart := ready, portState := target } ∨
        trackId ≠ id ∧ ctx.activePorts[id]? = some p := fun _ _ => port_turned he.same
  have hsame : ∀ (id : UInt32) (p : CameraPort), trackId ≠ id → ctx.activePorts[id]? = some p →
      ∀ i, p.cameraStreamId ∈ idsAt u.streamingActiveRequests i ↔
        p.cameraStreamId ∈ idsAt ctx.streamingActiveRequests i := by
    intro id p hne hp i
    have hid : p.cameraStreamId ≠ port.cameraStreamId := fun heq =>
      hne (hs.ids.distinct id trackId p port hp hport heq).symm
    exact (he.mem_iff i _).trans (hother i _ hid)
  have hturned : (u.setPortState trackId target).Tracked := by
    refine ⟨hs.ids.congr (books_turned hport h), fun id p hp => ?_, fun i x hx => ?_, he.nodup,
      halike, fun _ _ _ => he.some_request⟩
    · obtain rfl | ⟨hne, hp⟩ := hlook id p hp
      · have hmem : ∀ i, port.cameraStreamId ∈ idsAt u.streamingActiveRequests i ↔
            target = .started ∧ i < port.batchSize :=
          fun i => (he.mem_iff i _).trans (hself i)
        obtain ⟨rfl, rfl⟩ | ⟨rfl, rfl⟩ := htarget
        · exact ⟨⟨by simp, by simp⟩, by simp, fun i hi => ⟨.inl rfl, ((hmem i).mp hi).2⟩,
            fun _ i hi => (hmem i).mpr ⟨rfl, hi⟩⟩
        · have hnone : ∀ i, port.cameraStreamId ∉ idsAt u.streamingActiveRequests i := by
            simp [hmem]
          exact ⟨⟨by simp, by simp⟩, by simp, fun i hi => absurd hi (hnone i), by simp⟩
      · exact (hs.ports id p hp).congr (hsame id p hne hp)
    · change x < u.nextStreamId
      have hnext : u.nextStreamId = ctx.nextStreamId := by
        rw [he.same]
        rfl
      rw [hnext]
      by_cases hid : x = port.cameraStreamId
      · rw [hid]
        exact (hs.ids.range trackId port hport).2
      · exact hs.fresh i x ((hother i x hid).mp ((he.mem_iff i x).mp hx))
  refine ⟨hturned, fun hfree => hturned.mirrors fun id p hp hstate i hi => ?_⟩
  obtain rfl | ⟨hne, hp⟩ := hlook id p hp
  · obtain ⟨-, rfl⟩ | ⟨-, rfl⟩ := htarget
    · simp at hstate
    · simp at hstate
  · obtain ⟨r, hr, hx⟩ := mem_idsAt ((hsame id p hne hp i).mp hi)
    exact hfree.1 (id, p) (Std.ExtTreeMap.mem_toList_iff_getElem?_eq_some.mpr hp) (Ne.symm hne)
      hstate r hr hx

theorem Tracked.others (hs : ctx.Tracked) (id : UInt32) (p : CameraPort) (hne : id ≠ trackId)
    (hp : (ctx.setPort trackId port).activePorts[id]? = some p) : p.Settled :=
  (hs.ports id p ((getElem?_setPort.trans (if_neg hne.symm)).symm.trans hp)).settled

theorem Tracked.startStream (hs : ctx.Tracked)
    (hfree : ∀ it ∈ ctx.turnedPort trackId .started .started, ctx.Undisturbed it.1 it.2.1 it.2.2)
    (h : ctx.startStream trackId submitted flushed = .ok (st, u)) :
    u.Tracked ∧ ((ctx.turnedPort trackId .started .started).isSome → u.Mirrors) := by
  unfold CameraContext.startStream at h
  split at h
  next hnone =>
    obtain ⟨-, rfl⟩ := Prod.mk.inj (Except.ok.inj h)
    exact ⟨hs, by simp [turnedPort, hnone]⟩
  next port hport =>
  obtain ⟨-, ⟨hstate, rfl⟩ | ⟨hturn, v, hv, rfl⟩⟩ := turnPort_ok (asserted_ok h).2
  · exact ⟨hs, by simp [turnedPort, hport, hstate]⟩
  · have hundisturbed := hfree _ (turnedPort_of_ne hport hturn)
    have hlook : (ctx.setPort trackId
        { port with readyToStart := true, portState := .readyToStart }).activePorts[trackId]? = _ :=
      getElem?_setPort.trans (if_pos rfl)
    have he := updateRequest_readyToStart hlook rfl hs.others hs.nodup hv
    have halike := allAlike_readyToStart hlook rfl hs.others hs.alike (hs.first trackId port hport)
      (hundisturbed.2 rfl) hv
    have hself : ∀ i, (port.cameraStreamId ∈ idsAt ctx.streamingActiveRequests i ∨
        port.cameraStreamId = port.cameraStreamId ∧ i < port.batchSize) ↔
        PortState.started = .started ∧ i < port.batchSize := fun i =>
      ⟨fun hi => ⟨rfl, hi.elim (fun hmem => ((hs.ports trackId port hport).below i hmem).2) And.right⟩,
        fun hi => .inr ⟨rfl, hi.2⟩⟩
    obtain ⟨hturned, hmirrors⟩ := hs.turned hport (.inl ⟨rfl, rfl⟩) hv he halike hself
      (fun i x hne => or_iff_left fun hx => hne hx.1)
    exact ⟨hturned, fun _ => hmirrors hundisturbed⟩

theorem Tracked.stopStream (hs : ctx.Tracked)
    (hfree : ∀ it ∈ ctx.turnedPort trackId .created .stopped, ctx.Undisturbed it.1 it.2.1 it.2.2)
    (h : ctx.stopStream trackId submitted flushed = .ok (st, u)) :
    u.Tracked ∧ ((ctx.turnedPort trackId .created .stopped).isSome → u.Mirrors) := by
  unfold CameraContext.stopStream at h
  split at h
  next hnone =>
    obtain ⟨-, rfl⟩ := Prod.mk.inj (Except.ok.inj h)
    exact ⟨hs, by simp [turnedPort, hnone]⟩
  next port hport =>
  obtain ⟨-, ⟨hstate, rfl⟩ | ⟨hturn, v, hv, rfl⟩⟩ := turnPort_ok (asserted_ok h).2
  · exact ⟨hs, by simp [turnedPort, hport, hstate]⟩
  · have hundisturbed := hfree _ (turnedPort_of_ne hport hturn)
    have hlook : (ctx.setPort trackId
        { port with readyToStart := false, portState := .readyToStop }).activePorts[trackId]? = _ :=
      getElem?_setPort.trans (if_pos rfl)
    have he := updateRequest_readyToStop hlook rfl hs.others hs.nodup hv
    have halike := allAlike_readyToStop hlook rfl hs.others hs.alike hs.nodup hv
    obtain ⟨hturned, hmirrors⟩ := hs.turned hport (.inr ⟨rfl, rfl⟩) hv he halike (fun i => by simp)
      (fun i x hne => and_iff_left hne)
    exact ⟨hturned, fun _ => hmirrors hundisturbed⟩

/-- The flags of the context do not count. -/
theorem Tracked.congr (hs : ctx.Tracked) (hbooks : u.books = ctx.books)
    (hports : u.activePorts = ctx.activePorts)
    (hrequests : u.streamingActiveRequests = ctx.streamingActiveRequests) : u.Tracked := by
  refine ⟨hs.ids.congr hbooks, fun id p hp => ?_, fun i x hx => ?_, ?_, ?_, fun id p hp => ?_⟩
  · rw [hrequests]
    exact hs.ports id p (hports ▸ hp)
  · rw [(variables_of_books hbooks).2.2]
    exact hs.fresh i x (hrequests ▸ hx)
  · rw [hrequests]
    exact hs.nodup
  · rw [hrequests]
    exact hs.alike
  · rw [hrequests]
    exact hs.first id p (hports ▸ hp)

theorem Tracked.withPort {param : StreamParam} {batch : Nat} {requests : List Camera3Request}
    (hs : ctx.Tracked) (hsome : requests ≠ [])
    (hrequests : requests = ctx.streamingActiveRequests ∨ ctx.streamingActiveRequests = [] ∧
      ∃ metadata, requests = [{ metadata := metadata }]) :
    (ctx.withPort param batch requests).Tracked := by
  have hsame : ∀ i, idsAt requests i = idsAt ctx.streamingActiveRequests i := by
    intro i
    obtain rfl | ⟨hnil, metadata, rfl⟩ := hrequests
    · rfl
    · rw [hnil]
      cases i <;> rfl
  refine ⟨StreamRun.streamIds_withPort hs.ids, fun id p hp => ?_, fun i x hx => ?_,
    fun r hr => ?_, ?_, fun _ _ _ => hsome⟩
  · rw [getElem?_withPort] at hp
    change p.Tracked requests
    split at hp
    · obtain rfl := Option.some.inj hp
      have hnone : ∀ i, ctx.nextStreamId ∉ idsAt requests i := fun i hi =>
        Int.lt_irrefl _ (hs.fresh i _ (hsame i ▸ hi))
      exact ⟨⟨by simp, by simp⟩, by simp, fun i hi => absurd hi (hnone i), by simp⟩
    · exact (hs.ports id p hp).congr fun i => by rw [hsame]
  · exact (hs.fresh i x (hsame i ▸ hx)).trans (Int.lt_succ _)
  · change r ∈ requests at hr
    obtain rfl | ⟨-, metadata, rfl⟩ := hrequests
    · exact hs.nodup r hr
    · rw [List.mem_singleton.mp hr]
      exact List.nodup_nil
  · change AllAlike requests
    obtain rfl | ⟨-, metadata, rfl⟩ := hrequests
    · exact hs.alike
    · intro r hr
      rw [List.mem_singleton.mp hr]
      rfl

theorem Tracked.deleted (hs : ctx.Tracked) :
    { ctx.restoreBatchStreamId port with
      activePorts := ctx.activePorts.erase trackId }.Tracked := by
  have hlook : ∀ (id : UInt32) (p : CameraPort), (ctx.activePorts.erase trackId)[id]? = some p →
      ctx.activePorts[id]? = some p := by
    intro id p hp
    rw [StreamRun.getElem?_deleted] at hp
    split at hp
    · simp at hp
    · exact hp
  have hrest : (ctx.restoreBatchStreamId port).streamingActiveRequests =
      ctx.streamingActiveRequests ∧ (ctx.restoreBatchStreamId port).nextStreamId = ctx.nextStreamId := by
    unfold restoreBatchStreamId
    split <;> exact ⟨rfl, rfl⟩
  refine ⟨StreamRun.streamIds_deleted _ _ hs.ids, fun id p hp => ?_, fun i x hx => ?_, ?_, ?_,
    fun id p hp => ?_⟩
  · change p.Tracked (ctx.restoreBatchStreamId port).streamingActiveRequests
    rw [hrest.1]
    exact hs.ports id p (hlook id p hp)
  · change x < (ctx.restoreBatchStreamId port).nextStreamId
    rw [hrest.2]
    exact hs.fresh i x (hrest.1 ▸ hx)
  · change ∀ r ∈ (ctx.restoreBatchStreamId port).streamingActiveRequests, _
    rw [hrest.1]
    exact hs.nodup
  · change AllAlike (ctx.restoreBatchStreamId port).streamingActiveRequests
    rw [hrest.1]
    exact hs.alike
  · change (ctx.restoreBatchStreamId port).streamingActiveRequests ≠ []
    rw [hrest.1]
    exact hs.first id p (hlook id p hp)

theorem Tracked.setPortState (hs : ctx.Tracked) (hport : ctx.activePorts[trackId]? = some port)
    (hstate : port.portState = .started ∨ port.portState = .paused)
    (htarget : target = .started ∨ target = .paused)
    (hlisted : target = .started → ∀ i < port.batchSize,
      port.cameraStreamId ∈ idsAt ctx.streamingActiveRequests i) :
    (ctx.setPortState trackId target).Tracked := by
  have hready := (hs.ports trackId port hport).ready.mpr hstate
  have hbelow := (hs.ports trackId port hport).below
  refine ⟨hs.ids.congr books_setPortState, fun id p hp => ?_, hs.fresh, hs.nodup, hs.alike,
    fun _ _ _ => hs.first trackId port hport⟩
  rw [getElem?_setPortState] at hp
  split at hp
  next heq =>
    rw [← heq, hport] at hp
    obtain rfl := Option.some.inj hp
    refine ⟨?_, iff_of_true hready htarget, fun i hi => ⟨htarget, (hbelow i hi).2⟩, hlisted⟩
    obtain rfl | rfl := htarget
    · exact ⟨by simp [CameraPort.setState], by simp [CameraPort.setState]⟩
    · exact ⟨by simp [CameraPort.setState], by simp [CameraPort.setState]⟩
  next => exact hs.ports id p hp

theorem Tracked.setConsumers {consumers : Nat} (hs : ctx.Tracked) :
    (ctx.setConsumers trackId consumers).Tracked := by
  refine ⟨hs.ids.congr books_setConsumers, fun id p hp => ?_, hs.fresh, hs.nodup, hs.alike,
    fun id p hp => ?_⟩
  · obtain ⟨q, hq, heq⟩ := port_of_setConsumers hp
    obtain ⟨hsettled, hready, hbelow, hlisted⟩ := hs.ports id q hq
    rw [heq]
    exact ⟨hsettled, hready, hbelow, hlisted⟩
  · obtain ⟨q, hq, -⟩ := port_of_setConsumers hp
    exact hs.first id q hq

theorem Tracked.setCameraParam {metadata : RequestMetadata} (hs : ctx.Tracked)
    (h : ctx.setCameraParam metadata submitted = .ok (st, u)) : u.Tracked := by
  obtain rfl | ⟨_, _, -, rfl⟩ := setCameraParam_ok h
  · exact hs
  have hsame : ∀ i, idsAt (ctx.streamingActiveRequests.map
      fun r => { r with metadata := metadata }) i = idsAt ctx.streamingActiveRequests i :=
    fun i => idsAt_map fun _ => rfl
  refine ⟨⟨hs.ids.range, hs.ids.distinct, hs.ids.nonneg⟩, fun id p hp => ?_,
    fun i x hx => ?_, fun r hr => ?_, fun r hr => ?_, fun id p hp => ?_⟩
  · exact (hs.ports id p hp).congr fun i => by rw [hsame]
  · exact hs.fresh i x (hsame i ▸ hx)
  · obtain ⟨r', hr', rfl⟩ := List.mem_map.mp hr
    exact hs.nodup r' hr'
  · obtain ⟨r', hr', rfl⟩ := List.mem_map.mp hr
    obtain ⟨r₀, rest, hcons⟩ := List.exists_cons_of_ne_nil (List.ne_nil_of_mem hr')
    simp [PortScan.firstMetadata, hcons]
  · simpa using hs.first id p hp

/-- An interruption takes the streams out of the first request only. -/
theorem Tracked.interrupted (hs : ctx.Tracked) (hall : ctx.AllStarted ctx.activePorts.keys) :
    ctx.interrupted.Tracked := by
  have hsub : ∀ i, ∀ x ∈ idsAt ctx.interrupted.streamingActiveRequests i,
      x ∈ idsAt ctx.streamingActiveRequests i := by
    intro i x hx
    simp only [CameraContext.interrupted] at hx
    cases hrequests : ctx.streamingActiveRequests with
    | nil => simp [hrequests, idsAt] at hx
    | cons r rest =>
      rw [hrequests, List.modifyHead_cons] at hx
      cases i with
      | zero => simp [idsAt] at hx
      | succ i => exact hx
  have hmap : ctx.interrupted.streamingActiveRequests.map Camera3Request.metadata =
      ctx.streamingActiveRequests.map Camera3Request.metadata := by
    simp only [CameraContext.interrupted]
    cases ctx.streamingActiveRequests <;> rfl
  refine ⟨hs.ids.congr books_interrupted, fun id p hp => ?_, fun i x hx => hs.fresh i x (hsub i x hx),
    nodup_interrupted hs.nodup, fun r hr => ?_, fun id p hp => ?_⟩
  · have hsettled := settled_interrupted hp
    rw [getElem?_interrupted] at hp
    obtain ⟨q, hq, rfl⟩ := Option.map_eq_some_iff.mp hp
    have hq' := hs.ports id q hq
    have hready := hq'.ready.mpr (.inl (hall id (mem_keys hq) q hq))
    exact ⟨hsettled, iff_of_true hready (.inr rfl),
      fun i hi => ⟨.inr rfl, (hq'.below i (hsub i _ hi)).2⟩, by simp [CameraPort.setState]⟩
  · have hfirst : PortScan.firstMetadata ctx.interrupted.streamingActiveRequests =
        PortScan.firstMetadata ctx.streamingActiveRequests := by
      rw [PortScan.firstMetadata, PortScan.firstMetadata, ← List.head?_map, hmap, List.head?_map]
    have hr' : r.metadata ∈ ctx.streamingActiveRequests.map Camera3Request.metadata := by
      rw [← hmap]
      exact List.mem_map_of_mem hr
    obtain ⟨r', hr', heq⟩ := List.mem_map.mp hr'
    rw [← heq, hfirst]
    exact hs.alike r' hr'
  · rw [getElem?_interrupted] at hp
    obtain ⟨q, hq, -⟩ := Option.map_eq_some_iff.mp hp
    intro hnil
    rw [hnil] at hmap
    exact hs.first id q hq (List.map_eq_nil_iff.mp hmap.symm)

end CameraContext

namespace StreamRun

open CameraContext

variable {s t : StreamRun} {a : Action} {as : List Action} {config : CameraConfig}
  {snapshotType : SnapshotMode}

/-- The port that the step updates the requests for, with its track and the state that it goes to. -/
def turned (s : StreamRun) : Action → Option (UInt32 × CameraPort × PortState)
  | .startStream trackId _ _ => s.ctx.turnedPort trackId .started .started
  | .stopStream trackId _ _ => s.ctx.turnedPort trackId .created .stopped
  | .resumeNext _ _ => s.resuming.head?.bind fun trackId => s.ctx.turnedPort trackId .started .started
  | _ => none

/-- The updates of the step are undisturbed, and a port is not resumed by itself while its stream is
missing in the requests. -/
def MirrorFree (s : StreamRun) (a : Action) : Prop :=
  (∀ it ∈ s.turned a, s.ctx.Undisturbed it.1 it.2.1 it.2.2) ∧
  match a with
  | .resumeStream trackId => ∀ port ∈ s.ctx.activePorts[trackId]?, ∀ i < port.batchSize,
      port.cameraStreamId ∈ idsAt s.ctx.streamingActiveRequests i
  | _ => True

instance (s : StreamRun) (a : Action) : Decidable (s.MirrorFree a) :=
  match a with
  | .createStream .. | .deleteStream .. | .setConsumers .. | .startStream .. | .stopStream ..
  | .pauseStream .. | .resumeStream .. | .setCameraParam .. | .pauseActiveStreams ..
  | .resumeActiveStreams | .resumeNext .. => by
    unfold MirrorFree
    infer_instance

theorem tracked_init : (init config snapshotType).ctx.Tracked :=
  ⟨streamIds_init, by simp [init], by simp [init, idsAt], by simp [init], by simp [init, AllAlike],
    by simp [init]⟩

theorem tracked_finish (hs : s.ctx.Tracked) : (finish s).ctx.Tracked := by
  unfold finish
  split
  · exact hs.congr rfl rfl rfl
  · exact hs

theorem mirrors_finish (hs : s.ctx.Mirrors) : (finish s).ctx.Mirrors := by
  unfold finish
  split
  · exact ⟨hs.mem_iff, hs.nodup, hs.alike⟩
  · exact hs

theorem tracked_step (hs : s.ctx.Tracked) (hfree : s.MirrorFree a) (h : s.step a = some t) :
    t.ctx.Tracked ∧ ((s.turned a).isSome → t.ctx.Mirrors) := by
  obtain ⟨-, ha, st, hcall, -⟩ | ⟨-, rfl, -, rfl⟩ | ⟨-, rfl, rfl⟩ |
    ⟨submitted, flushed, trackId, rest, ctx, rfl, hlist, hnext, rfl⟩ := step_cases h
  · cases a with
    | createStream param d =>
      refine ⟨?_, by simp [turned]⟩
      obtain ⟨-, -, heq⟩ | ⟨batch, -, ⟨-, -, heq⟩ | ⟨-, -, requests, hrequests, hsome, heq⟩⟩ :=
        createStream_ok hcall
      · exact heq ▸ hs
      · rw [heq]
        exact ⟨⟨hs.ids.range, hs.ids.distinct, hs.ids.nonneg⟩, hs.ports, hs.fresh,
          hs.nodup, hs.alike, hs.first⟩
      · exact heq ▸ hs.withPort hsome hrequests
    | deleteStream trackId deleted =>
      refine ⟨?_, by simp [turned]⟩
      obtain heq | ⟨port, -, -, heq⟩ := deleteStream_ok hcall
      · exact heq ▸ hs
      · exact heq ▸ hs.deleted
    | setConsumers trackId consumers =>
      refine ⟨?_, by simp [turned]⟩
      obtain ⟨-, heq⟩ := Prod.mk.inj (Except.ok.inj hcall)
      exact heq ▸ hs.setConsumers
    | startStream trackId submitted flushed => exact hs.startStream hfree.1 hcall
    | stopStream trackId submitted flushed => exact hs.stopStream hfree.1 hcall
    | pauseStream trackId =>
      refine ⟨?_, by simp [turned]⟩
      obtain heq | ⟨port, hport, hstate, heq⟩ := pauseStream_ok hcall
      · exact heq ▸ hs
      · exact heq ▸ hs.setPortState hport (.inl hstate) (.inr rfl) (by simp)
    | resumeStream trackId =>
      refine ⟨?_, by simp [turned]⟩
      obtain heq | ⟨port, hport, hstate, heq⟩ := resumeStream_ok hcall
      · exact heq ▸ hs
      · exact heq ▸ hs.setPortState hport (.inr hstate) (.inl rfl) fun _ => hfree.2 port hport
    | setCameraParam metadata submitted => exact ⟨hs.setCameraParam hcall, by simp [turned]⟩
    | pauseActiveStreams flushed =>
      refine ⟨?_, by simp [turned]⟩
      obtain heq | ⟨hall, -, heq⟩ := pauseActiveStreams_ok hcall
      · exact heq ▸ hs
      · exact heq ▸ hs.interrupted hall
    | resumeActiveStreams | resumeNext _ _ => simp [Action.isCall] at ha
  · exact ⟨hs.congr rfl rfl rfl, by simp [turned]⟩
  · exact ⟨tracked_finish hs, by simp [turned]⟩
  · rw [resumeNext_eq_startStream] at hnext
    have hturned : s.turned (.resumeNext submitted flushed) =
        s.ctx.turnedPort trackId .started .started := by
      simp [turned, hlist]
    rw [hturned]
    cases hstart : s.ctx.startStream trackId submitted flushed with
    | error e => simp [hstart, Except.map] at hnext
    | ok r =>
      rw [hstart] at hnext
      obtain rfl := Except.ok.inj hnext
      obtain ⟨htracked, hmirrors⟩ := hs.startStream (hturned ▸ hfree.1) hstart
      exact ⟨tracked_finish htracked, fun hsome => mirrors_finish (hmirrors hsome)⟩

theorem tracked_run (h : (lts.guarded MirrorFree).MTr (init config snapshotType) as s) :
    s.ctx.Tracked :=
  LTS.inv_of_mTr (L := lts.guarded MirrorFree) (P := fun s => s.ctx.Tracked)
    (fun _ _ _ hstep hs => (tracked_step hs hstep.2 hstep.1).1) h tracked_init

/-- In a run whose steps all meet the condition, each update leaves requests that mirror the ports. -/
theorem mirrors_update (hrun : (lts.guarded MirrorFree).MTr (init config snapshotType) as s)
    (hfree : s.MirrorFree a) (hstep : s.step a = some t) (hupdate : (s.turned a).isSome) :
    t.ctx.Mirrors :=
  (tracked_step (tracked_run hrun) hfree hstep).2 hupdate

/-- `ANDROID_CONTROL_AE_MODE` -/
def controlAeMode : UInt32 := 0x10003

/-- A batch of four from a template with an exposure mode: the second request lacks the mode. -/
theorem second_request_without_mode :
    let as : List Action := [.createStream hfrStream
      { defaultRequest := some ((∅ : RequestMetadata).insert controlAeMode [1]) },
      .startStream 1 { requestId := 0 } true]
    ∃ s, LTS.run step (init hfrConfig .video) as = some s ∧ ¬ s.ctx.Mirrors := by
  intro as
  have hsome : (LTS.run step (init hfrConfig .video) as).isSome := by decide +kernel
  obtain ⟨s, hs⟩ := Option.isSome_iff_exists.mp hsome
  have hmodes : ∀ u ∈ LTS.run step (init hfrConfig .video) as,
      u.ctx.streamingActiveRequests.map (fun r => r.metadata[controlAeMode]?) =
        [some [1], none, some [1], some [1]] := by decide +kernel
  refine ⟨s, hs, fun hmirrors => ?_⟩
  have hall : ∀ mode ∈ s.ctx.streamingActiveRequests.map (fun r => r.metadata[controlAeMode]?),
      mode = (PortScan.firstMetadata s.ctx.streamingActiveRequests)[controlAeMode]? := by
    intro mode hmode
    obtain ⟨r, hr, rfl⟩ := List.mem_map.mp hmode
    rw [hmirrors.alike r hr]
  rw [hmodes s hs] at hall
  have hfirst := hall (some [1]) (by simp)
  have hsecond := hall none (by simp)
  rw [← hsecond] at hfirst
  simp at hfirst

/-- A batch whose template is a frame rate, then another stream beside it and a pause of the first. -/
theorem mirrors_update_run :
    let as : List Action := [.createStream hfrStream deviceAnswer,
      .createStream plainStream deviceAnswer, .startStream 1 { requestId := 0 } true,
      .startStream 2 { requestId := 1 } true, .pauseStream 1, .resumeStream 1]
    ∃ s t, LTS.run step (init hfrConfig .video) as = some s ∧
      s.step (.stopStream 2 { requestId := 2 } true) = some t ∧ t.ctx.Mirrors := by
  intro as
  have hsome : (LTS.run step (init hfrConfig .video) as).isSome := by decide +kernel
  obtain ⟨s, hs⟩ := Option.isSome_iff_exists.mp hsome
  have hlast : ∀ u ∈ LTS.run step (init hfrConfig .video) as,
      u.MirrorFree (.stopStream 2 { requestId := 2 } true) ∧
        (u.step (.stopStream 2 { requestId := 2 } true)).isSome ∧
        (u.turned (.stopStream 2 { requestId := 2 } true)).isSome := by decide +kernel
  obtain ⟨hfree, hnext, hupdate⟩ := hlast s hs
  obtain ⟨t, ht⟩ := Option.isSome_iff_exists.mp hnext
  have hrun : (lts.guarded MirrorFree).MTr (init hfrConfig .video) as s :=
    LTS.mTr_guarded_iff.mpr ⟨hs, by decide +kernel⟩
  exact ⟨s, t, hs, ht, mirrors_update hrun hfree ht hupdate⟩

end StreamRun

end QmmfSdk.Streams
