import QmmfSdk.Streams.Runs

/-! The batch size of a camera and the stream that it was chosen for. -/
namespace QmmfSdk.Streams

open Library (LTS bind_eq_ok_iff)
open Recorder (Status SnapshotMode)

/-- What a port was made with. -/
def CameraPort.identity (port : CameraPort) : Int × Nat := (port.cameraStreamId, port.batchSize)

namespace CameraContext

variable {ctx ctx' : CameraContext} {trackId : UInt32} {submitted : Submitted} {flushed : Bool}
  {st : Status}

/-- A batch size above one is that of a stream which is still there, and it is one without such a
stream. -/
structure BatchOwned (ctx : CameraContext) : Prop where
  owner : 1 < ctx.batchSize → ∃ (trackId : UInt32) (port : CameraPort), ctx.activePorts[trackId]? = some port ∧
    port.cameraStreamId = ctx.batchStreamId ∧ port.batchSize = ctx.batchSize
  live : ∀ (trackId : UInt32) (port : CameraPort), ctx.activePorts[trackId]? = some port →
    port.cameraStreamId = ctx.batchStreamId → 1 < ctx.batchSize
  idle : ctx.batchSize ≤ 1 → ctx.batchSize = 1

/-- The ports have streams of their own. -/
structure StreamIds (ctx : CameraContext) : Prop where
  range : ∀ (trackId : UInt32) (port : CameraPort), ctx.activePorts[trackId]? = some port →
    0 ≤ port.cameraStreamId ∧ port.cameraStreamId < ctx.nextStreamId
  distinct : ∀ (id id' : UInt32) (port port' : CameraPort), ctx.activePorts[id]? = some port →
    ctx.activePorts[id']? = some port' → port.cameraStreamId = port'.cameraStreamId → id = id'
  nonneg : 0 ≤ ctx.nextStreamId

/-- The batch stream, if there is one, is that of a port. -/
def BatchStored (ctx : CameraContext) : Prop :=
  ctx.batchStreamId = -1 ∨ ∃ (trackId : UInt32) (port : CameraPort),
    ctx.activePorts[trackId]? = some port ∧ port.cameraStreamId = ctx.batchStreamId

/-- The books of the batch: the ports as they were made, and the variables. -/
def books (ctx : CameraContext) : (UInt32 → Option (Int × Nat)) × Int × Nat × Int :=
  (fun id => (ctx.activePorts[id]?).map CameraPort.identity, ctx.batchStreamId, ctx.batchSize,
    ctx.nextStreamId)

theorem port_of_books (h : ctx'.books = ctx.books) {id : UInt32} {port' : CameraPort}
    (hport : ctx'.activePorts[id]? = some port') : ∃ port, ctx.activePorts[id]? = some port ∧
      port.cameraStreamId = port'.cameraStreamId ∧ port.batchSize = port'.batchSize := by
  have hbooks := congrFun (congrArg Prod.fst h) id
  simp only [books, hport, Option.map_some] at hbooks
  obtain ⟨port, hport, hsame⟩ := Option.map_eq_some_iff.mp hbooks.symm
  obtain ⟨hid, hbatch⟩ := Prod.mk.inj hsame
  exact ⟨port, hport, hid, hbatch⟩

theorem variables_of_books (h : ctx'.books = ctx.books) :
    ctx'.batchStreamId = ctx.batchStreamId ∧ ctx'.batchSize = ctx.batchSize ∧
      ctx'.nextStreamId = ctx.nextStreamId := by
  obtain ⟨hid, hrest⟩ := Prod.mk.inj (Prod.mk.inj h).2
  exact ⟨hid, Prod.mk.inj hrest⟩

theorem BatchOwned.congr (h : ctx'.books = ctx.books) (hs : ctx.BatchOwned) : ctx'.BatchOwned := by
  obtain ⟨hid, hsize, -⟩ := variables_of_books h
  refine ⟨fun hbatch => ?_, fun id port' hport' hlive => ?_, fun hbatch => ?_⟩
  · rw [hsize] at hbatch
    obtain ⟨id, port, hport, howner, hown⟩ := hs.owner hbatch
    obtain ⟨port', hport', hid', hbatch'⟩ := port_of_books h.symm hport
    exact ⟨id, port', hport', by rw [hid', howner, hid], by rw [hbatch', hown, hsize]⟩
  · obtain ⟨port, hport, hsame, -⟩ := port_of_books h hport'
    rw [hsize]
    exact hs.live id port hport (by rw [hsame, hlive, hid])
  · rw [hsize] at hbatch ⊢
    exact hs.idle hbatch

theorem StreamIds.congr (h : ctx'.books = ctx.books) (hs : ctx.StreamIds) : ctx'.StreamIds := by
  obtain ⟨-, -, hnext⟩ := variables_of_books h
  refine ⟨fun id port' hport' => ?_, fun id id' p p' hp hp' heq => ?_, ?_⟩
  · obtain ⟨port, hport, hsame, -⟩ := port_of_books h hport'
    rw [hnext, ← hsame]
    exact hs.range id port hport
  · obtain ⟨q, hq, hsame, -⟩ := port_of_books h hp
    obtain ⟨q', hq', hsame', -⟩ := port_of_books h hp'
    exact hs.distinct id id' q q' hq hq' (by rw [hsame, hsame', heq])
  · rw [hnext]
    exact hs.nonneg

theorem BatchStored.congr (h : ctx'.books = ctx.books) (hs : ctx.BatchStored) : ctx'.BatchStored := by
  obtain ⟨hid, -, -⟩ := variables_of_books h
  obtain hnone | ⟨id, port, hport, hlive⟩ := hs
  · exact .inl (hid.trans hnone)
  · obtain ⟨port', hport', hsame, -⟩ := port_of_books h.symm hport
    exact .inr ⟨id, port', hport', by rw [hsame, hlive, hid]⟩

theorem books_setPortState {target : PortState} :
    (ctx.setPortState trackId target).books = ctx.books := by
  have hports : ∀ id : UInt32, ((ctx.setPortState trackId target).activePorts[id]?).map
      CameraPort.identity = (ctx.activePorts[id]?).map CameraPort.identity := by
    intro id
    rw [getElem?_setPortState]
    split
    · rw [Option.map_map]
      rfl
    · rfl
  exact Prod.ext (funext hports) rfl

theorem books_setConsumers {consumers : Nat} :
    (ctx.setConsumers trackId consumers).books = ctx.books := by
  refine Prod.ext (funext fun id => ?_) rfl
  simp only [books, setConsumers, Std.ExtTreeMap.getElem?_modify]
  split
  next heq =>
    rw [← Std.LawfulEqCmp.eq_of_compare heq, Option.map_map]
    rfl
  next => rfl

/-- An update of the requests is no entry in the books. -/
theorem books_turned {port : CameraPort} {ready : Bool} {via target : PortState} {u : CameraContext}
    (hport : ctx.activePorts[trackId]? = some port)
    (h : (ctx.setPort trackId { port with readyToStart := ready, portState := via }).updateRequest
      submitted flushed = .ok (st, u)) :
    (u.setPortState trackId target).books = ctx.books := by
  have hsame := (updateRequest_same h).2
  refine Prod.ext (funext fun id => ?_) ?_
  · simp only [books]
    rw [getElem?_turned hsame]
    split
    next heq => rw [← heq, hport]; rfl
    next => rfl
  · rw [hsame]
    rfl

theorem books_startStream (h : ctx.startStream trackId submitted flushed = .ok (st, ctx')) :
    ctx'.books = ctx.books := by
  obtain rfl | ⟨port, hport, -, u, hu, rfl⟩ := startStream_ok h
  · rfl
  · exact books_turned hport hu

theorem books_interrupted : ctx.interrupted.books = ctx.books := by
  have hports : ∀ id : UInt32, (ctx.interrupted.activePorts[id]?).map CameraPort.identity =
      (ctx.activePorts[id]?).map CameraPort.identity := by
    intro id
    have hlook : ctx.interrupted.activePorts[id]? = _ :=
      getElem?_pausePorts ctx ctx.activePorts.keys id
    rw [hlook]
    split
    · rw [Option.map_map]
      rfl
    · rfl
  exact Prod.ext (funext hports) rfl

end CameraContext

namespace StreamRun

variable {s t : StreamRun} {a : Action} {as : List Action} {ctx ctx' : CameraContext} {st : Status}
  {config : CameraConfig} {snapshotType : SnapshotMode}

open CameraContext in
/-- Only the creation and the deletion of a stream write the books. -/
theorem books_call (h : call ctx a = .ok (st, ctx')) :
    ctx'.books = ctx.books ∨ (∃ param d, a = .createStream param d) ∨
      ∃ trackId deleted, a = .deleteStream trackId deleted := by
  cases a with
  | createStream param d => exact .inr (.inl ⟨param, d, rfl⟩)
  | deleteStream trackId deleted => exact .inr (.inr ⟨trackId, deleted, rfl⟩)
  | setConsumers trackId consumers =>
    obtain ⟨-, rfl⟩ := Prod.mk.inj (Except.ok.inj h)
    exact .inl books_setConsumers
  | startStream trackId submitted flushed => exact .inl (books_startStream h)
  | stopStream trackId submitted flushed =>
    obtain rfl | ⟨port, hport, -, u, hu, rfl⟩ := stopStream_ok h
    · exact .inl rfl
    · exact .inl (books_turned hport hu)
  | pauseStream trackId =>
    obtain rfl | ⟨port, -, -, rfl⟩ := pauseStream_ok h
    · exact .inl rfl
    · exact .inl books_setPortState
  | resumeStream trackId =>
    obtain rfl | ⟨port, -, -, rfl⟩ := resumeStream_ok h
    · exact .inl rfl
    · exact .inl books_setPortState
  | setCameraParam metadata submitted =>
    obtain rfl | ⟨_, _, -, rfl⟩ := setCameraParam_ok h
    · exact .inl rfl
    · exact .inl rfl
  | pauseActiveStreams flushed =>
    obtain rfl | ⟨-, -, rfl⟩ := pauseActiveStreams_ok h
    · exact .inl rfl
    · exact .inl books_interrupted
  | resumeActiveStreams | resumeNext _ _ =>
    obtain ⟨-, rfl⟩ := Prod.mk.inj (Except.ok.inj h)
    exact .inl rfl

theorem books_finish : (finish s).ctx.books = s.ctx.books := by
  unfold finish
  split <;> rfl

theorem books_step (h : s.step a = some t) : t.ctx.books = s.ctx.books ∨
    (∃ param d, a = .createStream param d) ∨ ∃ trackId deleted, a = .deleteStream trackId deleted := by
  obtain ⟨-, -, st, hcall, -⟩ | ⟨-, -, -, rfl⟩ | ⟨-, -, rfl⟩ |
    ⟨submitted, flushed, trackId, rest, ctx, -, -, hnext, rfl⟩ := step_cases h
  · exact books_call hcall
  · exact .inl rfl
  · exact .inl books_finish
  · rw [CameraContext.resumeNext_eq_startStream] at hnext
    cases hstart : s.ctx.startStream trackId submitted flushed with
    | error e => simp [hstart, Except.map] at hnext
    | ok r =>
      rw [hstart] at hnext
      obtain rfl := Except.ok.inj hnext
      exact .inl (books_finish.trans (CameraContext.books_startStream hstart))

open CameraContext

/-- No stream is made while there is a batch stream; a stream that the device then refuses, or that is
made for a track with a port, was to have no batch, and another one has a batch of one at least. -/
def BatchFree (s : StreamRun) : Action → Prop
  | .createStream param d => ∀ batch ∈ (s.ctx.getBatchSize param).1,
      s.ctx.batchSize ≤ 1 ∧
        if d.created ∧ param.id ∉ s.ctx.activePorts then batch ≠ 0 else batch = 1
  | _ => True

instance (s : StreamRun) (a : Action) : Decidable (s.BatchFree a) :=
  match a with
  | .createStream .. | .deleteStream .. | .setConsumers .. | .startStream .. | .stopStream ..
  | .pauseStream .. | .resumeStream .. | .setCameraParam .. | .pauseActiveStreams ..
  | .resumeActiveStreams | .resumeNext .. => by
    unfold BatchFree
    infer_instance

theorem streamIds_withPort {param : StreamParam} {batch : Nat} {requests : List Camera3Request}
    (hs : ctx.StreamIds) : (ctx.withPort param batch requests).StreamIds := by
  have hnonneg := hs.nonneg
  refine ⟨fun id port hport => ?_, fun id id' p p' hp hp' heq => ?_, Int.le_add_one hnonneg⟩
  · rw [getElem?_withPort] at hport
    split at hport
    · obtain rfl := Option.some.inj hport
      exact ⟨hnonneg, Int.lt_succ _⟩
    · obtain ⟨hlow, hhigh⟩ := hs.range id port hport
      exact ⟨hlow, hhigh.trans (Int.lt_succ _)⟩
  · rw [getElem?_withPort] at hp hp'
    split at hp <;> split at hp'
    next h h' => exact h.1.symm.trans h'.1
    next h h' =>
      obtain rfl := Option.some.inj hp
      exact absurd heq.symm (hs.range id' p' hp').2.ne
    next h h' =>
      obtain rfl := Option.some.inj hp'
      exact absurd heq (hs.range id p hp).2.ne
    next => exact hs.distinct id id' p p' hp hp' heq

/-- The batch stream is stored for a new port, or is one that was there. -/
theorem batchStored_withPort {param : StreamParam} {batch : Nat} {requests : List Camera3Request}
    (hs : ctx.BatchStored) (h : param.id ∉ ctx.activePorts ∨ batch ≤ 1) :
    (ctx.withPort param batch requests).BatchStored := by
  by_cases hstore : 1 < batch ∧ ctx.batchStreamId ≤ -1
  · have hnew : param.id ∉ ctx.activePorts := h.resolve_right (Nat.not_le.mpr hstore.1)
    refine .inr ⟨param.id, _, by rw [getElem?_withPort, if_pos ⟨rfl, hnew⟩], ?_⟩
    exact (if_pos hstore).symm
  · have hsame : (ctx.withPort param batch requests).batchStreamId = ctx.batchStreamId :=
      if_neg hstore
    obtain hnone | ⟨id, port, hport, hlive⟩ := hs
    · exact .inl (hsame.trans hnone)
    · exact .inr ⟨id, port, getElem?_withPort_of_some hport, hlive.trans hsame.symm⟩

/-- What a deletion leaves. -/
theorem getElem?_deleted {trackId id : UInt32} :
    (ctx.activePorts.erase trackId)[id]? = if trackId = id then none else ctx.activePorts[id]? := by
  simp only [Std.ExtTreeMap.getElem?_erase, Std.LawfulEqCmp.compare_eq_iff_eq]

theorem streamIds_deleted (trackId : UInt32) (port : CameraPort) (hs : ctx.StreamIds) :
    { ctx.restoreBatchStreamId port with
      activePorts := ctx.activePorts.erase trackId }.StreamIds := by
  have hlook : ∀ (id : UInt32) (p : CameraPort), (ctx.activePorts.erase trackId)[id]? = some p →
      ctx.activePorts[id]? = some p := by
    intro id p hp
    rw [getElem?_deleted] at hp
    split at hp
    · simp at hp
    · exact hp
  refine ⟨fun id p hp => ?_, fun id id' p p' hp hp' => ?_, ?_⟩
  · unfold restoreBatchStreamId
    split <;> exact hs.range id p (hlook id p hp)
  · exact hs.distinct id id' p p' (hlook id p hp) (hlook id' p' hp')
  · unfold restoreBatchStreamId
    split <;> exact hs.nonneg

theorem batchStored_deleted {trackId : UInt32} {port : CameraPort} (hs : ctx.BatchStored)
    (hport : ctx.activePorts[trackId]? = some port) :
    { ctx.restoreBatchStreamId port with
      activePorts := ctx.activePorts.erase trackId }.BatchStored := by
  unfold restoreBatchStreamId
  split
  · exact .inl rfl
  next hother =>
    obtain hnone | ⟨id, p, hp, hlive⟩ := hs
    · exact .inl hnone
    · refine .inr ⟨id, p, ?_, hlive⟩
      rw [getElem?_deleted, if_neg]
      · exact hp
      rintro rfl
      rw [hport] at hp
      obtain rfl := Option.some.inj hp
      exact hother hlive.symm

theorem streamIds_step (hs : s.ctx.StreamIds) (h : s.step a = some t) : t.ctx.StreamIds := by
  obtain hbooks | ⟨param, d, rfl⟩ | ⟨trackId, deleted, rfl⟩ := books_step h
  · exact hs.congr hbooks
  · obtain ⟨-, st, hcall, -⟩ := step_of_isCall rfl h
    obtain ⟨-, -, heq⟩ | ⟨batch, -, ⟨-, -, heq⟩ | ⟨-, -, requests, -, -, heq⟩⟩ :=
      createStream_ok hcall
    · exact heq ▸ hs
    · rw [heq]
      exact ⟨hs.range, hs.distinct, hs.nonneg⟩
    · exact heq ▸ streamIds_withPort hs
  · obtain ⟨-, st, hcall, -⟩ := step_of_isCall rfl h
    obtain heq | ⟨port, hport, -, heq⟩ := deleteStream_ok hcall
    · exact heq ▸ hs
    · exact heq ▸ streamIds_deleted _ _ hs

/-- A running batch makes every other stream one without a batch. -/
theorem getBatchSize_of_running {param : StreamParam} (h : 1 < ctx.batchSize) :
    (ctx.getBatchSize param).1 = some 1 := by
  rw [getBatchSize, if_pos h]

/-- Without a batch stream the variable for its id is free. -/
theorem batchStreamId_of_idle (hstored : ctx.BatchStored) (hs : ctx.BatchOwned)
    (hidle : ctx.batchSize ≤ 1) : ctx.batchStreamId = -1 := by
  obtain hnone | ⟨id, port, hport, hlive⟩ := hstored
  · exact hnone
  · exact absurd (hs.live id port hport hlive) (Nat.not_lt.mpr hidle)

/-- A failed creation leaves the batch size that was chosen for it. -/
theorem batchOwned_failed {param : StreamParam} {batch : Nat} (hs : ctx.BatchOwned)
    (hbatch : (ctx.getBatchSize param).1 = some batch) :
    { ctx with batchSize := batch }.BatchOwned ↔ ctx.batchSize ≤ 1 ∧ batch = 1 := by
  constructor
  · intro ht
    have hidle : ctx.batchSize ≤ 1 := by
      by_contra hrun
      rw [getBatchSize_of_running (Nat.not_le.mp hrun)] at hbatch
      obtain rfl := Option.some.inj hbatch
      obtain ⟨id, port, hport, hlive, -⟩ := hs.owner (Nat.not_le.mp hrun)
      exact absurd (ht.live id port hport hlive) (Nat.lt_irrefl 1)
    refine ⟨hidle, ht.idle ?_⟩
    by_contra hrun
    obtain ⟨id, port, hport, hlive, -⟩ := ht.owner (Nat.not_le.mp hrun)
    exact absurd (hs.live id port hport hlive) (Nat.not_lt.mpr hidle)
  · rintro ⟨hidle, rfl⟩
    exact ⟨fun h => absurd h (Nat.lt_irrefl 1), fun id port hport hlive =>
      absurd (hs.live id port hport hlive) (Nat.not_lt.mpr hidle), fun _ => rfl⟩

/-- A stream that is made leaves a running batch without its size; without a port for it the variables
are written all the same. -/
theorem batchOwned_withPort {param : StreamParam} {batch : Nat} {requests : List Camera3Request}
    (hids : ctx.StreamIds) (hstored : ctx.BatchStored) (hs : ctx.BatchOwned)
    (hbatch : (ctx.getBatchSize param).1 = some batch) :
    (ctx.withPort param batch requests).BatchOwned ↔
      ctx.batchSize ≤ 1 ∧ if param.id ∉ ctx.activePorts then batch ≠ 0 else batch = 1 := by
  by_cases hidle : ctx.batchSize ≤ 1
  · rw [and_iff_right hidle]
    have hfree := batchStreamId_of_idle hstored hs hidle
    have hwith : (ctx.withPort param batch requests).StreamIds := streamIds_withPort hids
    have hunlive : batch ≤ 1 → ∀ (id : UInt32) (port : CameraPort),
        (ctx.withPort param batch requests).activePorts[id]? = some port →
        port.cameraStreamId ≠ (ctx.withPort param batch requests).batchStreamId := by
      intro hone id port hport
      have hsame : (ctx.withPort param batch requests).batchStreamId = -1 :=
        (if_neg fun h => absurd h.1 (Nat.not_lt.mpr hone)).trans hfree
      have hrange := hwith.range id port hport
      omega
    split
    next hnew =>
      constructor
      · rintro ht rfl
        exact absurd (ht.idle (Nat.zero_le 1)) Nat.zero_ne_one
      · intro hpos
        refine ⟨fun hrun => ?_, fun id port hport hlive => ?_, fun hle => ?_⟩
        · refine ⟨param.id, _, by rw [getElem?_withPort, if_pos ⟨rfl, hnew⟩], ?_, rfl⟩
          exact (if_pos ⟨hrun, hfree.le⟩).symm
        · by_contra hone
          exact hunlive (Nat.not_lt.mp hone) id port hport hlive
        · exact Nat.le_antisymm hle (Nat.one_le_iff_ne_zero.mpr hpos)
    next hold =>
      rw [not_not] at hold
      constructor
      · intro ht
        refine ht.idle ?_
        by_contra hrun
        obtain ⟨id, port, hport, hlive, -⟩ := ht.owner (Nat.not_le.mp hrun)
        -- the stored id is that of a stream without a port
        have hstore : (ctx.withPort param batch requests).batchStreamId = ctx.nextStreamId :=
          if_pos ⟨Nat.not_le.mp hrun, hfree.le⟩
        rw [getElem?_withPort, if_neg fun h => h.2 hold] at hport
        exact absurd (hlive.trans hstore) (hids.range id port hport).2.ne
      · rintro rfl
        exact ⟨fun h => absurd h (Nat.lt_irrefl 1), fun id port hport hlive =>
          absurd hlive (hunlive (Nat.le_refl 1) id port hport), fun _ => rfl⟩
  · refine iff_of_false (fun ht => ?_) fun h => hidle h.1
    rw [getBatchSize_of_running (Nat.not_le.mp hidle)] at hbatch
    obtain rfl := Option.some.inj hbatch
    obtain ⟨id, port, hport, hlive, -⟩ := hs.owner (Nat.not_le.mp hidle)
    have hsame : (ctx.withPort param 1 requests).batchStreamId = ctx.batchStreamId := by
      simp [withPort]
    exact absurd (ht.live id port (getElem?_withPort_of_some hport) (hlive.trans hsame.symm))
      (Nat.lt_irrefl 1)

theorem batchOwned_deleted {trackId : UInt32} {port : CameraPort} (hids : ctx.StreamIds)
    (hs : ctx.BatchOwned) (hport : ctx.activePorts[trackId]? = some port) :
    { ctx.restoreBatchStreamId port with
      activePorts := ctx.activePorts.erase trackId }.BatchOwned := by
  have hlook : ∀ (id : UInt32) (p : CameraPort), (ctx.activePorts.erase trackId)[id]? = some p →
      ctx.activePorts[id]? = some p := by
    intro id p hp
    rw [getElem?_deleted] at hp
    split at hp
    · simp at hp
    · exact hp
  unfold restoreBatchStreamId
  split
  next hbatch =>
    refine ⟨fun h => absurd h (Nat.lt_irrefl 1), fun id p hp hlive => ?_, fun _ => rfl⟩
    have hrange := hids.range id p (hlook id p hp)
    dsimp only at hlive
    omega
  next hother =>
    refine ⟨fun hrun => ?_, fun id p hp hlive => hs.live id p (hlook id p hp) hlive, hs.idle⟩
    obtain ⟨id, p, hp, hlive, hown⟩ := hs.owner hrun
    refine ⟨id, p, ?_, hlive, hown⟩
    dsimp only
    rw [getElem?_deleted, if_neg]
    · exact hp
    rintro rfl
    rw [hport] at hp
    obtain rfl := Option.some.inj hp
    exact hother hlive.symm

/-- A step keeps the batch with its stream exactly when it meets the condition. -/
theorem batchOwned_step (hids : s.ctx.StreamIds) (hstored : s.ctx.BatchStored) (hs : s.ctx.BatchOwned)
    (h : s.step a = some t) : t.ctx.BatchOwned ↔ s.BatchFree a := by
  by_cases hcreate : ∃ param d, a = .createStream param d
  · obtain ⟨param, d, rfl⟩ := hcreate
    obtain ⟨-, st, hcall, -⟩ := step_of_isCall rfl h
    obtain ⟨hbatch, -, heq⟩ | ⟨batch, hbatch, hcase⟩ := createStream_ok hcall
    · rw [heq, BatchFree, hbatch]
      simp [hs]
    · have hfree : s.BatchFree (.createStream param d) ↔ s.ctx.batchSize ≤ 1 ∧
          if d.created ∧ param.id ∉ s.ctx.activePorts then batch ≠ 0 else batch = 1 := by
        simp [BatchFree, hbatch]
      rw [hfree]
      obtain ⟨hfailed, -, heq⟩ | ⟨hcreated, -, requests, -, -, heq⟩ := hcase
      · rw [heq, batchOwned_failed hs hbatch, if_neg (by simp [hfailed])]
      · rw [heq, batchOwned_withPort hids hstored hs hbatch]
        simp only [hcreated, true_and]
  · have hfree : s.BatchFree a := by
      cases a <;> first | trivial | exact absurd ⟨_, _, rfl⟩ hcreate
    obtain hbooks | hcreate' | ⟨trackId, deleted, rfl⟩ := books_step h
    · exact iff_of_true (hs.congr hbooks) hfree
    · exact absurd hcreate' hcreate
    · obtain ⟨-, st, hcall, -⟩ := step_of_isCall rfl h
      obtain heq | ⟨port, hport, -, heq⟩ := deleteStream_ok hcall
      · exact iff_of_true (heq ▸ hs) hfree
      · exact iff_of_true (heq ▸ batchOwned_deleted hids hs hport) hfree

/-- Under the condition the batch stream stays that of a port. -/
theorem batchStored_step (hstored : s.ctx.BatchStored) (hfree : s.BatchFree a)
    (h : s.step a = some t) : t.ctx.BatchStored := by
  obtain hbooks | ⟨param, d, rfl⟩ | ⟨trackId, deleted, rfl⟩ := books_step h
  · exact hstored.congr hbooks
  · obtain ⟨-, st, hcall, -⟩ := step_of_isCall rfl h
    obtain ⟨-, -, heq⟩ | ⟨batch, hbatch, ⟨-, -, heq⟩ | ⟨hcreated, -, requests, -, -, heq⟩⟩ :=
      createStream_ok hcall
    · exact heq ▸ hstored
    · rw [heq]
      exact hstored
    · obtain ⟨-, hsize⟩ := hfree batch hbatch
      rw [heq]
      refine batchStored_withPort hstored ?_
      split at hsize
      next hnew => exact .inl hnew.2
      next => exact .inr hsize.le
  · obtain ⟨-, st, hcall, -⟩ := step_of_isCall rfl h
    obtain heq | ⟨port, hport, -, heq⟩ := deleteStream_ok hcall
    · exact heq ▸ hstored
    · exact heq ▸ batchStored_deleted hstored hport

theorem streamIds_init : (init config snapshotType).ctx.StreamIds :=
  ⟨by simp [init], by simp [init], Int.le_refl 0⟩

theorem batchOwned_init : (init config snapshotType).ctx.BatchOwned :=
  ⟨by simp [init], by simp [init], fun _ => rfl⟩

/-- In a run the batch size belongs to a live stream all the time if and only if no stream is made
beside a batch stream, and none with a batch fails or is made for a track that has a port. -/
theorem batchOwned_iff (hrun : LTS.run step (init config snapshotType) as = some t) :
    (∀ bs cs u, as = bs ++ cs → LTS.run step (init config snapshotType) bs = some u →
      u.ctx.BatchOwned) ↔ LTS.Meets step BatchFree (init config snapshotType) as :=
  LTS.forall_prefix_iff_meets_of
    (P := fun s : StreamRun => s.ctx.StreamIds ∧ s.ctx.BatchStored ∧ s.ctx.BatchOwned)
    (fun _ hs => hs.2.2)
    (fun _ _ _ ⟨hids, hstored, hs⟩ hstep hfree => ⟨streamIds_step hids hstep,
      batchStored_step hstored hfree hstep, (batchOwned_step hids hstored hs hstep).mpr hfree⟩)
    (fun _ _ _ ⟨hids, hstored, hs⟩ hstep => (batchOwned_step hids hstored hs hstep).mp)
    ⟨streamIds_init, .inl rfl, batchOwned_init⟩ hrun

/-- A camera with one high-speed mode, a stream that chooses it, and one that does not. -/
def hfrConfig : CameraConfig :=
  { hfrBatchModesList := [{ width := 1920, height := 1080, batchSize := 4, framerate := 120 }] }

def hfrStream : StreamParam := { id := 1, width := 1920, height := 1080, framerate := 120 }

def plainStream : StreamParam := { id := 2, width := 1280, height := 720, framerate := 30 }

/-- What the device answers to a stream that is made, with a template of a frame rate. -/
def deviceAnswer : Creation :=
  { defaultRequest := some ((∅ : RequestMetadata).insert aeTargetFpsRange [30, 30]) }

/-- The device refuses the high-speed stream, and its batch size stays for the streams to come. -/
theorem batch_without_stream :
    ∃ t, LTS.run step (init hfrConfig .video) [.createStream hfrStream { created := false }] = some t ∧
      t.ctx.batchSize = 4 ∧ t.ctx.activePorts.isEmpty ∧ ¬ t.ctx.BatchOwned := by
  have hsome : (LTS.run step (init hfrConfig .video)
      [.createStream hfrStream { created := false }]).isSome := by decide +kernel
  obtain ⟨t, ht⟩ := Option.isSome_iff_exists.mp hsome
  have hfacts : ∀ u ∈ LTS.run step (init hfrConfig .video)
      [.createStream hfrStream { created := false }],
      u.ctx.batchSize = 4 ∧ u.ctx.activePorts.isEmpty := by decide +kernel
  obtain ⟨hsize, hempty⟩ := hfacts t ht
  refine ⟨t, ht, hsize, hempty, fun howned => ?_⟩
  obtain ⟨id, port, hport, -⟩ := howned.owner (by omega)
  rw [Std.ExtTreeMap.isEmpty_iff.mp hempty] at hport
  simp at hport

/-- A plain stream first, which is made a second time for its track; then the high-speed one, which is
deleted again. -/
theorem batch_owned_run :
    let as : List Action := [.createStream plainStream {}, .createStream plainStream {},
      .createStream hfrStream {}, .deleteStream 1 true]
    ∃ t, LTS.run step (init hfrConfig .video) as = some t ∧
      ∀ bs cs u, as = bs ++ cs → LTS.run step (init hfrConfig .video) bs = some u →
        u.ctx.BatchOwned := by
  intro as
  have hsome : (LTS.run step (init hfrConfig .video) as).isSome := by decide +kernel
  obtain ⟨t, ht⟩ := Option.isSome_iff_exists.mp hsome
  exact ⟨t, ht, (batchOwned_iff ht).mpr (by decide +kernel)⟩

end StreamRun

end QmmfSdk.Streams
