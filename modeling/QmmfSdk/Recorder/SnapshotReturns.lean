import QmmfSdk.Recorder.CameraSource

/-! `ReturnAllImageCaptureBuffers`: its loop compares a rising index with a list that gets shorter,
and so ends half way. -/
namespace QmmfSdk.Recorder

namespace CameraContext

/-- The loop of `ReturnAllImageCaptureBuffers`, which returns the first buffer of the list in each
turn; `size` is a bound for its turns. -/
def returnImageCaptureBuffers (returned : Int32 → Bool) :
    (size i : Nat) → CameraContext → Except Abort CameraContext
  | 0, _, ctx => .ok ctx
  | size + 1, i, ctx =>
    match ctx.snapshotBufferList.keys with
    | [] => .ok ctx
    | bufferId :: _ =>
      if ctx.snapshotBufferList.size ≤ i then .ok ctx
      else do
        let (st, ctx) ← ctx.returnImageCaptureBuffer bufferId (returned bufferId)
        if st ≠ .noError then .error .assertion
        else returnImageCaptureBuffers returned size (i + 1) ctx

/-- `returned` says of each buffer whether the device takes it back. -/
def returnAllImageCaptureBuffers (returned : Int32 → Bool) (ctx : CameraContext) :
    Except Abort (Status × CameraContext) := do
  let ctx ← returnImageCaptureBuffers returned ctx.snapshotBufferList.size 0 ctx
  .ok (.noError, ctx)

/-- The buffers that the loop comes to. -/
def returnedFirst (ctx : CameraContext) : List Int32 :=
  ctx.snapshotBufferList.keys.take ((ctx.snapshotBufferList.size + 1) / 2)

variable {ctx ctx' : CameraContext} {st : Status} {returned : Int32 → Bool} {size i : Nat}
  {fd : Int32}

theorem returnImageCaptureBuffer_ok {bufferId : Int32} {ret : Bool}
    (h : ctx.returnImageCaptureBuffer bufferId ret = .ok (.noError, ctx')) :
    ctx'.snapshotBufferList = ctx.snapshotBufferList.erase bufferId := by
  unfold returnImageCaptureBuffer at h
  split at h
  · simp at h
  split at h
  · simp at h
  split at h
  · simp at h
  split at h
  · simp at h
  · obtain ⟨-, rfl⟩ := Prod.mk.inj (Except.ok.inj h)
    rfl

/-- By induction on the turns: from turn `i` on, half of what the list is longer than `i` goes. -/
theorem keys_returnImageCaptureBuffers (hsize : ctx.snapshotBufferList.size ≤ size + i)
    (h : returnImageCaptureBuffers returned size i ctx = .ok ctx') :
    ctx'.snapshotBufferList.keys =
      ctx.snapshotBufferList.keys.drop ((ctx.snapshotBufferList.size - i + 1) / 2) := by
  induction size generalizing i ctx with
  | zero =>
    obtain rfl := Except.ok.inj h
    have hnone : (ctx.snapshotBufferList.size - i + 1) / 2 = 0 := by omega
    rw [hnone, List.drop_zero]
  | succ size ih =>
    unfold returnImageCaptureBuffers at h
    split at h
    next hnil =>
      obtain rfl := Except.ok.inj h
      rw [hnil, List.drop_nil]
    next bufferId rest hcons =>
      split at h
      next hend =>
        obtain rfl := Except.ok.inj h
        have hnone : (ctx.snapshotBufferList.size - i + 1) / 2 = 0 := by omega
        rw [hnone, List.drop_zero]
      next hturn =>
        obtain ⟨⟨st, u⟩, hu, h⟩ := Library.bind_eq_ok_iff.mp h
        dsimp only at h
        split at h
        · simp at h
        next hst =>
        obtain rfl := not_not.mp hst
        have hlist := returnImageCaptureBuffer_ok hu
        have hkeys : u.snapshotBufferList.keys = rest := by
          rw [hlist]
          exact Library.OrdMap.keys_erase_of_cons hcons
        have hlength : ctx.snapshotBufferList.size = rest.length + 1 := by
          rw [← Std.ExtTreeMap.length_keys, hcons, List.length_cons]
        have hrest : u.snapshotBufferList.size = rest.length := by
          rw [← Std.ExtTreeMap.length_keys, hkeys]
        rw [ih (by omega) h, hkeys, hcons, hrest, hlength]
        have hhalf : (rest.length + 1 - i + 1) / 2 = (rest.length - (i + 1) + 1) / 2 + 1 := by omega
        rw [hhalf, List.drop_succ_cons]

/-- What is left was not among the first half. -/
theorem mem_returnAllImageCaptureBuffers
    (h : ctx.returnAllImageCaptureBuffers returned = .ok (st, ctx')) :
    fd ∈ ctx'.snapshotBufferList ↔ fd ∈ ctx.snapshotBufferList ∧ fd ∉ ctx.returnedFirst := by
  obtain ⟨u, hu, h⟩ := Library.bind_eq_ok_iff.mp h
  obtain ⟨-, rfl⟩ := Prod.mk.inj (Except.ok.inj h)
  have hkeys := keys_returnImageCaptureBuffers (by omega) hu
  have hnodup : (ctx.snapshotBufferList.keys).Nodup := Std.ExtTreeMap.nodup_keys
  rw [← List.take_append_drop ((ctx.snapshotBufferList.size + 1) / 2) ctx.snapshotBufferList.keys,
    List.nodup_append] at hnodup
  rw [← Std.ExtTreeMap.mem_keys, ← Std.ExtTreeMap.mem_keys, hkeys, Nat.sub_zero, returnedFirst]
  constructor
  · intro hfd
    exact ⟨List.mem_of_mem_drop hfd, fun hfirst => hnodup.2.2 fd hfirst fd hfd rfl⟩
  · rintro ⟨hfd, hfirst⟩
    rw [← List.take_append_drop ((ctx.snapshotBufferList.size + 1) / 2) ctx.snapshotBufferList.keys,
      List.mem_append] at hfd
    exact hfd.resolve_left hfirst

end CameraContext

namespace CameraSource

/-- A camera that is not open is logged. -/
def returnAllImageCaptureBuffers (returned : Int32 → Bool) (src : CameraSource) (camera : UInt32) :
    Except Abort CameraSource := do
  let (_, src) ← src.onCamera camera (·.returnAllImageCaptureBuffers returned)
  .ok src

/-- The camera lists the buffer, for a client that has not returned it. -/
def lists (src : CameraSource) (camera : UInt32) (fd : Int32) : Bool :=
  src.cameraMap[camera]?.any (·.snapshotBufferList.contains fd)

/-- The loop over the list of the camera comes to the buffer. -/
def returnsFirst (src : CameraSource) (camera : UInt32) (fd : Int32) : Bool :=
  src.cameraMap[camera]?.any (·.returnedFirst.contains fd)

variable {src src' : CameraSource} {returned : Int32 → Bool} {camera cam : UInt32} {fd : Int32}
  {cams : List UInt32}

/-- One camera returns what its loop comes to, and the others nothing. -/
theorem lists_returnAllImageCaptureBuffers
    (h : src.returnAllImageCaptureBuffers returned camera = .ok src') :
    src'.trackSources = src.trackSources ∧
    (camera ≠ cam → src'.cameraMap[cam]? = src.cameraMap[cam]?) ∧
    (src'.lists camera fd = true ↔ src.lists camera fd = true ∧ src.returnsFirst camera fd = false) := by
  obtain ⟨⟨st, u⟩, hu, h⟩ := Library.bind_eq_ok_iff.mp h
  obtain rfl := Except.ok.inj h
  rcases onCamera_ok hu with ⟨hnone, -, rfl⟩ | ⟨ctx, ctx', hctx, hret, rfl⟩
  · exact ⟨rfl, fun _ => rfl, by simp [lists, returnsFirst, hnone]⟩
  · refine ⟨rfl, fun hne => ?_, ?_⟩
    · dsimp only
      rw [Std.ExtTreeMap.getElem?_insert, if_neg (by simpa using hne)]
    · have hmem := @CameraContext.mem_returnAllImageCaptureBuffers _ _ _ _ fd hret
      simpa [lists, returnsFirst, hctx] using hmem

theorem lists_returnCameras (hnodup : cams.Nodup)
    (h : cams.foldlM (returnAllImageCaptureBuffers returned) src = .ok src') :
    src'.trackSources = src.trackSources ∧
    (src'.lists cam fd = true ↔
      src.lists cam fd = true ∧ (cam ∈ cams → src.returnsFirst cam fd = false)) := by
  induction cams generalizing src with
  | nil =>
    obtain rfl : src = src' := by simpa [pure, Except.pure] using h
    simp
  | cons camera cams ih =>
    rw [List.foldlM_cons] at h
    obtain ⟨u, hu, h⟩ := Library.bind_eq_ok_iff.mp h
    obtain ⟨hnot, hnodup⟩ := List.nodup_cons.mp hnodup
    obtain ⟨hrest, hiff⟩ := ih hnodup h
    obtain ⟨hsources, hother, hone⟩ := @lists_returnAllImageCaptureBuffers _ _ _ _ cam fd hu
    refine ⟨hrest.trans hsources, ?_⟩
    by_cases hc : camera = cam
    · subst hc
      simp [hiff, hone, hnot]
    · have hsame := hother hc
      rw [hiff, lists, returnsFirst, hsame, ← lists, ← returnsFirst]
      simp [Ne.symm hc]

end CameraSource

end QmmfSdk.Recorder
