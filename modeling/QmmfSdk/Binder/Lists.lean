import QmmfSdk.Binder.Parcel

/-! The two requests that carry a list: how `BpRecorderService` writes them and what call
`RecorderService::onTransact` makes of them. -/
namespace QmmfSdk.Binder

open Library Library.Reader Parcel

variable {M : Type}

/-- The commands that carry a list. -/
inductive Command where
  | returnTrackbuffer
  | captureImage
  deriving DecidableEq, Repr

/-- The call that the stub makes. -/
inductive Call (M : Type) where
  | returnTrackBuffer (clientId sessionId trackId : UInt32) (buffers : List BnBuffer)
  | captureImage (clientId cameraId numImages : UInt32) (metas : List (Option M))
  deriving DecidableEq

/-- `sizeof (BnBuffer)`: 40 bytes of members and 8 of padding. -/
def sizeofBnBuffer : UInt32 := 48

namespace BpRecorderService

/-- `ReturnTrackBuffer` up to `transact`; `none` when its assertion fails. -/
def returnTrackBuffer (clientId sessionId trackId : UInt32) (buffers : List BnBuffer) :
    Option (List (Item BnBuffer M)) :=
  let data := [.token, .word clientId, .word sessionId, .word trackId]
  if trackId < 100 then
    let size := UInt32.ofNat buffers.length
    if size = 0 then none
    else some (data ++ .word size :: (buffers.take size.toNat).flatMap fun b =>
      [.word sizeofBnBuffer, .blob sizeofBnBuffer b])
  else some (data ++ int32 (.ofNat buffers.length) :: buffers.flatMap BnBuffer.toParcel)

/-- The loop of `CaptureImage`, whose counter has eight bits; `none` when the fuel runs out. -/
def writeMetas (metas : List (Option M)) :
    Nat → UInt8 → List (Item BnBuffer M) → Option (List (Item BnBuffer M))
  | 0, _, _ => none
  | fuel + 1, i, data =>
    match metas[i.toNat]? with
    | some m => writeMetas metas fuel (i + 1) (data ++ [.metadata m])
    | none => some data

def captureImage (fuel : Nat) (clientId cameraId numImages : UInt32) (metas : List (Option M)) :
    Option (List (Item BnBuffer M)) :=
  writeMetas metas fuel 0
    [.token, .word clientId, .word cameraId, .word numImages, .word (.ofNat metas.length)]

end BpRecorderService

namespace RecorderService

/-- One blob; the assertion on its size. -/
def readBnBuffer : Reader (Item BnBuffer M) BnBuffer := do
  let size ← readUint32
  let b ← readBlob size
  if size = sizeofBnBuffer then return b else failure

/-- One metadata: without a buffer the request is given up. -/
def readMeta : Reader (Item BnBuffer M) (Option M) := do
  match ← readMetadata with
  | some m => return some m
  | none => failure

/-- An `int32_t` as `size_t`. -/
def sizeOfInt32 (n : Int32) : Nat := (n.toInt % 2 ^ 64).toNat

/-- The list behind the ids of `RECORDER_RETURN_TRACKBUFFER`. -/
def readBuffers (trackId : UInt32) : Reader (Item BnBuffer M) (List BnBuffer) :=
  if trackId < 100 then do
    let vectorSize ← readUint32
    readBnBuffer.many vectorSize.toNat
  else do
    let numBuffers ← readInt32
    BnBuffer.fromParcel.many (sizeOfInt32 numBuffers)

def onTransact : Command → Reader (Item BnBuffer M) (Call M)
  | .returnTrackbuffer => do
    readToken
    let clientId ← readUint32
    let sessionId ← readUint32
    let trackId ← readUint32
    let buffers ← readBuffers trackId
    return .returnTrackBuffer clientId sessionId trackId buffers
  | .captureImage => do
    readToken
    let clientId ← readUint32
    let cameraId ← readUint32
    let numImages ← readUint32
    let metaSize ← readUint32
    let metas ← readMeta.many metaSize.toNat
    return .captureImage clientId cameraId numImages metas

/-- The call for a parcel, if one is made. -/
def callOf (cmd : Command) (data : List (Item BnBuffer M)) : Option (Call M) :=
  ((onTransact cmd).run data).map Prod.fst

end RecorderService

open BpRecorderService RecorderService

/-- The stub calls `ReturnTrackBuffer` with the arguments of the proxy. -/
def ReturnAgrees (M : Type) (clientId sessionId trackId : UInt32) (buffers : List BnBuffer) : Prop :=
  ∃ data : List (Item BnBuffer M), returnTrackBuffer clientId sessionId trackId buffers = some data ∧
    callOf .returnTrackbuffer data = some (.returnTrackBuffer clientId sessionId trackId buffers)

/-- The loop of the proxy ends and the stub calls `CaptureImage` with its arguments. -/
def CaptureAgrees (clientId cameraId numImages : UInt32) (metas : List (Option M)) : Prop :=
  ∃ fuel data, captureImage fuel clientId cameraId numImages metas = some data ∧
    callOf .captureImage data = some (.captureImage clientId cameraId numImages metas)

section Return

variable {clientId sessionId trackId : UInt32} {buffers bs : List BnBuffer}
  {data rest : List (Item BnBuffer M)}

theorem callOf_of_reads {cmd : Command} {w : List (Item BnBuffer M)} {c : Call M}
    (h : Reads (onTransact cmd) w c) : callOf cmd w = some c := by
  have hrun := h []
  rw [List.append_nil] at hrun
  rw [callOf, hrun, Option.map_some]

theorem reads_bnBuffer (b : BnBuffer) :
    Reads (readBnBuffer (M := M)) [.word sizeofBnBuffer, .blob sizeofBnBuffer b] b :=
  reads_uint32.bind (reads_blob.bind (.pure b))

theorem sizeOfInt32_ofNat {n : Nat} (h : n < 2 ^ 31) : sizeOfInt32 (.ofNat n) = n := by
  rw [sizeOfInt32, Int32.toInt_ofNat_of_lt h]
  omega

/-- A length from `2^31` on is not the one that the stub loops to. -/
theorem sizeOfInt32_ne {n : Nat} (h : 2 ^ 31 ≤ n) (hn : n < 2 ^ 63) (i : Int32) :
    sizeOfInt32 i ≠ n := by
  have hlo := i.le_toInt
  have hhi := i.toInt_lt
  rw [sizeOfInt32]
  omega

theorem reads_returnTrackbuffer {w : List (Item BnBuffer M)} (h : Reads (readBuffers trackId) w bs) :
    Reads (onTransact .returnTrackbuffer)
      ([.token, .word clientId, .word sessionId, .word trackId] ++ w)
      (.returnTrackBuffer clientId sessionId trackId bs) := by
  rw [← List.append_nil w]
  exact reads_token.bind (reads_uint32.bind (reads_uint32.bind (reads_uint32.bind (h.bind (.pure _)))))

theorem reads_blobs (ht : trackId < 100) (hlen : buffers.length < 2 ^ 32) :
    Reads (readBuffers (M := M) trackId) (.word (.ofNat buffers.length) :: buffers.flatMap fun b =>
      [.word sizeofBnBuffer, .blob sizeofBnBuffer b]) buffers := by
  have hsize : (UInt32.ofNat buffers.length).toNat = buffers.length := UInt32.toNat_ofNat_of_lt' hlen
  rw [readBuffers, if_pos ht]
  refine reads_uint32.bind ?_
  rw [hsize]
  exact .many fun b _ => reads_bnBuffer b

theorem reads_fields (ht : ¬ trackId < 100) (hlen : buffers.length < 2 ^ 31) :
    Reads (readBuffers (M := M) trackId)
      (int32 (.ofNat buffers.length) :: buffers.flatMap BnBuffer.toParcel) buffers := by
  rw [readBuffers, if_neg ht]
  refine reads_int32.bind ?_
  rw [sizeOfInt32_ofNat hlen]
  exact .many fun b _ => b.reads_toParcel

/-- What the stub passes on is as long as the first word of the list says. -/
theorem length_of_callOf {v : UInt32} {w : List (Item BnBuffer M)}
    (h : callOf .returnTrackbuffer ([.token, .word clientId, .word sessionId, .word trackId] ++
      .word v :: w) = some (.returnTrackBuffer clientId sessionId trackId bs)) :
    bs.length = if trackId < 100 then v.toNat else sizeOfInt32 v.toInt32 := by
  obtain ⟨⟨c, rest⟩, hrun, rfl⟩ := Option.map_eq_some_iff.mp h
  have hids : (onTransact (M := M) .returnTrackbuffer).run
      ([.token, .word clientId, .word sessionId, .word trackId] ++ .word v :: w) =
      (do let buffers ← readBuffers trackId
          return Call.returnTrackBuffer clientId sessionId trackId buffers :
        Reader (Item BnBuffer M) (Call M)).run (.word v :: w) := rfl
  rw [hids, StateT.run_bind, Option.bind_eq_bind, Option.bind_eq_some_iff] at hrun
  obtain ⟨⟨bs', rest'⟩, hbs, hcall⟩ := hrun
  cases hcall
  unfold readBuffers at hbs
  split at hbs
  · next ht =>
    rw [if_pos ht]
    exact length_of_many (show (readBnBuffer.many v.toNat).run w = _ from hbs)
  · next ht =>
    rw [if_neg ht]
    exact length_of_many
      (show (BnBuffer.fromParcel.many (sizeOfInt32 v.toInt32)).run w = _ from hbs)

/-- Both encodings agree as long as the word that the length is written to holds it. -/
theorem returnAgrees_iff (hne : trackId < 100 → buffers ≠ [])
    (hvec : buffers.length * sizeofBnBuffer.toNat < 2 ^ 63) :
    ReturnAgrees M clientId sessionId trackId buffers ↔
      buffers.length < if trackId < 100 then 2 ^ 32 else 2 ^ 31 := by
  rw [show sizeofBnBuffer.toNat = 48 from rfl] at hvec
  by_cases ht : trackId < 100
  · rw [if_pos ht]
    constructor
    · rintro ⟨data, hdata, hcall⟩
      rw [returnTrackBuffer, if_pos ht] at hdata
      dsimp only at hdata
      split at hdata
      · cases hdata
      · obtain rfl := Option.some.inj hdata
        have hlen := length_of_callOf hcall
        rw [if_pos ht] at hlen
        have hlt := (UInt32.ofNat buffers.length).toNat_lt
        omega
    · intro hlen
      have hsize : (UInt32.ofNat buffers.length).toNat = buffers.length :=
        UInt32.toNat_ofNat_of_lt' hlen
      have hpos : UInt32.ofNat buffers.length ≠ 0 := by
        intro h0
        rw [h0] at hsize
        exact hne ht (List.length_eq_zero_iff.mp hsize.symm)
      refine ⟨_, ?_, callOf_of_reads (reads_returnTrackbuffer (reads_blobs ht hlen))⟩
      rw [returnTrackBuffer, if_pos ht]
      dsimp only
      rw [if_neg hpos, hsize, List.take_length]
  · rw [if_neg ht]
    constructor
    · rintro ⟨data, hdata, hcall⟩
      rw [returnTrackBuffer, if_neg ht] at hdata
      obtain rfl := Option.some.inj hdata
      have hlen := length_of_callOf hcall
      rw [if_neg ht] at hlen
      by_contra hge
      exact sizeOfInt32_ne (Nat.le_of_not_lt hge) (by omega) _ hlen.symm
    · intro hlen
      refine ⟨_, ?_, callOf_of_reads (reads_returnTrackbuffer (reads_fields ht hlen))⟩
      rw [returnTrackBuffer, if_neg ht]

end Return

section Capture

variable {clientId cameraId numImages : UInt32} {metas : List (Option M)} {fuel : Nat} {i : UInt8}
  {data out : List (Item BnBuffer M)}

/-- With 256 metadata or more the counter comes round before it reaches the end. -/
theorem writeMetas_stuck (h : 256 ≤ metas.length) : writeMetas metas fuel i data = none := by
  induction fuel generalizing i data with
  | zero => rfl
  | succ fuel ih =>
    have hlt := i.toNat_lt
    have hget : metas[i.toNat]? = some metas[i.toNat] := List.getElem?_eq_getElem (by omega)
    rw [writeMetas, hget]
    exact ih

/-- With fewer it writes the ones that are left. -/
theorem writeMetas_done (h : metas.length < 256) (hi : i.toNat ≤ metas.length)
    (hfuel : metas.length - i.toNat < fuel) :
    writeMetas metas fuel i data = some (data ++ (metas.drop i.toNat).map .metadata) := by
  induction fuel generalizing i data with
  | zero => omega
  | succ fuel ih =>
    rw [writeMetas]
    by_cases hlt : i.toNat < metas.length
    · have hnext : (i + 1).toNat = i.toNat + 1 := by
        rw [UInt8.toNat_add]
        exact Nat.mod_eq_of_lt (show i.toNat + 1 < 256 by omega)
      rw [List.getElem?_eq_getElem hlt]
      dsimp only
      rw [ih (by omega) (by omega), hnext, List.drop_eq_getElem_cons hlt, List.map_cons,
        List.append_assoc]
      rfl
    · have hend : i.toNat = metas.length := by omega
      rw [List.getElem?_eq_none (by omega), hend, List.drop_length, List.map_nil, List.append_nil]

theorem reads_meta {m : M} : Reads readMeta [.metadata (some m)] (some m) :=
  reads_metadata.bind (.pure (some m))

theorem reads_metas (h : none ∉ metas) :
    Reads (readMeta.many metas.length) (metas.map .metadata) metas := by
  rw [List.map_eq_flatMap]
  refine .many fun m hm => ?_
  cases m with
  | none => exact absurd hm h
  | some m => exact reads_meta

/-- A metadata without a buffer never gets through. -/
theorem no_null_of_many {n : Nat} {w rest : List (Item BnBuffer M)} {ms : List (Option M)}
    (h : (readMeta.many n).run w = some (ms, rest)) : none ∉ ms := by
  induction n generalizing w rest ms with
  | zero =>
    cases h
    exact List.not_mem_nil
  | succ n ih =>
    simp only [Reader.many, StateT.run_bind, Option.bind_eq_bind, Option.bind_eq_some_iff] at h
    obtain ⟨⟨m, w'⟩, hm, ⟨ms', w''⟩, hms, h⟩ := h
    cases h
    intro hmem
    obtain hnone | hmem := List.mem_cons.mp hmem
    · subst hnone
      simp only [readMeta, StateT.run_bind, Option.bind_eq_bind, Option.bind_eq_some_iff] at hm
      obtain ⟨⟨m', w₁⟩, -, hm⟩ := hm
      cases m' with
      | some m' => cases hm
      | none => cases hm
    · exact ih hms hmem

theorem captureAgrees_iff : CaptureAgrees clientId cameraId numImages metas ↔
    metas.length < 256 ∧ none ∉ metas := by
  constructor
  · rintro ⟨fuel, data, hdata, hcall⟩
    have hlen : metas.length < 256 := by
      by_contra hge
      rw [captureImage, writeMetas_stuck (by omega)] at hdata
      cases hdata
    refine ⟨hlen, ?_⟩
    obtain ⟨⟨c, rest⟩, hrun, rfl⟩ := Option.map_eq_some_iff.mp hcall
    simp only [onTransact, StateT.run_bind, Option.bind_eq_bind, Option.bind_eq_some_iff] at hrun
    obtain ⟨_, -, _, -, _, -, _, -, _, -, ⟨ms, w'⟩, hms, hrun⟩ := hrun
    cases hrun
    exact no_null_of_many hms
  · rintro ⟨hlen, hnull⟩
    have hsize : (UInt32.ofNat metas.length).toNat = metas.length :=
      UInt32.toNat_ofNat_of_lt' (Nat.lt_trans hlen (by decide))
    refine ⟨metas.length + 1, _, writeMetas_done hlen (Nat.zero_le _) (Nat.lt_succ_self _),
      callOf_of_reads ?_⟩
    have hread := reads_metas hnull
    rw [← hsize] at hread
    rw [← List.append_nil (List.map _ _)]
    exact reads_token.bind (reads_uint32.bind (reads_uint32.bind (reads_uint32.bind (reads_uint32.bind
      (hread.bind (.pure _))))))

end Capture

/-- Both requests at once: when the stub's call has the arguments of the proxy's. -/
theorem lists_agree_iff {clientId sessionId trackId : UInt32} {buffers : List BnBuffer}
    {cameraId numImages : UInt32} {metas : List (Option M)} (hne : trackId < 100 → buffers ≠ [])
    (hvec : buffers.length * sizeofBnBuffer.toNat < 2 ^ 63) :
    ReturnAgrees M clientId sessionId trackId buffers ∧
        CaptureAgrees clientId cameraId numImages metas ↔
      (buffers.length < if trackId < 100 then 2 ^ 32 else 2 ^ 31) ∧
        metas.length < 256 ∧ none ∉ metas :=
  and_congr (returnAgrees_iff hne hvec) captureAgrees_iff

/-- Buffers as they go back from a client. -/
def returned : List BnBuffer :=
  [⟨3, -1, 4096, 100, 64, 64, 3, 0, 4096⟩, ⟨4, 9, 4096, 133, 64, 64, 4, 0, 4096⟩,
    ⟨7, -1, 2048, 166, 64, 32, 7, 16, 4096⟩]

/-- A list of blobs, one of fields, and a burst with its metadata. -/
theorem lists_agree_both_encodings :
    (ReturnAgrees Nat 1 2 7 returned ∧ CaptureAgrees 1 0 3 [some 5, some 6, some 5]) ∧
      ReturnAgrees Nat 1 2 101 returned ∧ CaptureAgrees 1 0 3 [some 5, some 6, some 5] :=
  ⟨(lists_agree_iff (by decide) (by decide)).mpr (by decide),
    (lists_agree_iff (by decide) (by decide)).mpr (by decide)⟩

/-- With 256 metadata the loop of the proxy does not end. -/
theorem captureImage_256_disagrees :
    (∀ fuel, captureImage fuel 1 0 1 (List.replicate 256 (some ())) = none) ∧
      ¬ CaptureAgrees 1 0 1 (List.replicate 256 (some ())) := by
  have hlen : 256 ≤ (List.replicate 256 (some ())).length := Nat.le_of_eq List.length_replicate.symm
  constructor
  · intro fuel
    exact writeMetas_stuck hlen
  · intro h
    have hlt := (captureAgrees_iff.mp h).1
    omega

end QmmfSdk.Binder
