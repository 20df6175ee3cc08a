import QmmfSdk.Library.Loop
import QmmfSdk.Library.OrdMap
import QmmfSdk.Recorder.Types
import QmmfSdk.Streams.ZslQueue

/-! The snapshot buffers that the client holds, and the loop that returns them all. -/
namespace QmmfSdk.Streams

open Library
open Recorder (Status Abort)

/-- `snapshot_buffer_list_`, `snapshot_buffer_stream_list_` and what the device was given back. -/
structure SnapshotBuffers where
  snapshotBufferList : OrdMap UInt32 StreamBuffer := ∅
  snapshotBufferStreamList : OrdMap UInt32 Int := ∅
  returned : List StreamBuffer := []

namespace SnapshotBuffers

variable {accepts : StreamBuffer → Bool} {s t : SnapshotBuffers} {id : UInt32} {buffer : StreamBuffer}
  {kvs : List (UInt32 × StreamBuffer)} {i : Nat}

/-- The snapshot buffers held by the client. -/
def held (s : SnapshotBuffers) : List StreamBuffer := s.snapshotBufferList.toList.map Prod.snd

/-- `SnapshotCaptureCallback`, which hands the buffer to the client; an old entry stays. -/
def snapshotCaptureCallback (s : SnapshotBuffers) (buffer : StreamBuffer) : SnapshotBuffers :=
  let id := (Int32.ofInt buffer.fd).toUInt32
  { s with
    snapshotBufferList := s.snapshotBufferList.insertIfNew id buffer
    snapshotBufferStreamList := s.snapshotBufferStreamList.insertIfNew id buffer.streamId }

/-- `accepts` is the device's `ReturnStreamBuffer`, which is asserted to succeed. -/
def returnImageCaptureBuffer (accepts : StreamBuffer → Bool) (s : SnapshotBuffers) (bufferId : Int32) :
    Except Abort (Status × SnapshotBuffers) :=
  match s.snapshotBufferList[bufferId.toUInt32]? with
  | none => .ok (.badValue, s)
  | some buffer =>
    if buffer.fd ≠ bufferId.toInt then .error .assertion
    else if bufferId.toUInt32 ∉ s.snapshotBufferStreamList then .ok (.badValue, s)
    else if ¬ accepts buffer then .error .assertion
    else
      .ok (.noError,
        { snapshotBufferList := s.snapshotBufferList.erase bufferId.toUInt32
          snapshotBufferStreamList := s.snapshotBufferStreamList.erase bufferId.toUInt32
          returned := s.returned ++ [buffer] })

/-- The loop of `ReturnAllImageCaptureBuffers`: `i` is compared with the size that is left. -/
def returnNext (accepts : StreamBuffer → Bool) : Turn (Nat × SnapshotBuffers) SnapshotBuffers :=
  fun (i, s) =>
    if i < s.snapshotBufferList.size then
      match s.snapshotBufferList.toList with
      | [] => none
      | (id, _) :: _ =>
        match s.returnImageCaptureBuffer accepts id.toInt32 with
        | .ok (.noError, s) => some (.inl (i + 1, s))
        | _ => none
    else some (.inr s)

/-- Each buffer is held under its file descriptor, its stream is known and takes it back. -/
def Valid (accepts : StreamBuffer → Bool) (s : SnapshotBuffers) : Prop :=
  ∀ id buffer, s.snapshotBufferList[id]? = some buffer →
    buffer.fd = id.toInt32.toInt ∧ id ∈ s.snapshotBufferStreamList ∧ accepts buffer = true

/-- The call gives each buffer back once and leaves the list empty. -/
def ReturnsAll (accepts : StreamBuffer → Bool) (s : SnapshotBuffers) : Prop :=
  ∃ t, Ends (returnNext accepts) (0, s) t ∧ t.snapshotBufferList.isEmpty = true ∧
    ∃ back, t.returned = s.returned ++ back ∧ back.Perm s.held

/-- A buffer that is handed to the client can come back. -/
theorem Valid.callback (hs : s.Valid accepts) (hfd : (Int32.ofInt buffer.fd).toInt = buffer.fd)
    (haccepts : accepts buffer = true) : (s.snapshotCaptureCallback buffer).Valid accepts := by
  intro a b hb
  have hkey : (Int32.ofInt buffer.fd).toUInt32.toInt32 = Int32.ofInt buffer.fd := rfl
  simp only [snapshotCaptureCallback, OrdMap.getElem?_emplace] at hb
  show _ ∧ a ∈ s.snapshotBufferStreamList.insertIfNew _ _ ∧ _
  rw [Std.ExtTreeMap.mem_insertIfNew]
  split at hb
  · next heq =>
    subst heq
    cases hold : s.snapshotBufferList[(Int32.ofInt buffer.fd).toUInt32]? with
    | none =>
      rw [hold] at hb
      obtain rfl := Option.some.inj hb
      exact ⟨by rw [hkey, hfd]; rfl, .inl (by simp), haccepts⟩
    | some old =>
      rw [hold] at hb
      obtain rfl := Option.some.inj hb
      obtain ⟨h₁, h₂, h₃⟩ := hs _ _ hold
      exact ⟨h₁, .inr h₂, h₃⟩
  · obtain ⟨h₁, h₂, h₃⟩ := hs a b hb
    exact ⟨h₁, .inr h₂, h₃⟩

theorem returnImageCaptureBuffer_valid (hs : s.Valid accepts)
    (h : s.snapshotBufferList[id]? = some buffer) : ∃ t,
      s.returnImageCaptureBuffer accepts id.toInt32 = .ok (.noError, t) ∧ t.Valid accepts ∧
      t.snapshotBufferList = s.snapshotBufferList.erase id ∧ t.returned = s.returned ++ [buffer] := by
  obtain ⟨hfd, hstream, haccepts⟩ := hs id buffer h
  refine ⟨{
    snapshotBufferList := s.snapshotBufferList.erase id
    snapshotBufferStreamList := s.snapshotBufferStreamList.erase id
    returned := s.returned ++ [buffer] }, ?_, ?_, rfl, rfl⟩
  · have hkey : id.toInt32.toUInt32 = id := UInt32.toUInt32_toInt32 id
    unfold returnImageCaptureBuffer
    simp only [hkey, h]
    rw [if_neg (by simp [hfd]), if_neg (by simp [hstream]), if_neg (by simp [haccepts])]
  · intro a b hb
    rw [Std.ExtTreeMap.getElem?_erase] at hb
    split at hb
    · cases hb
    · next hne =>
      obtain ⟨hfd', hstream', haccepts'⟩ := hs a b hb
      exact ⟨hfd', Std.ExtTreeMap.mem_erase.mpr ⟨hne, hstream'⟩, haccepts'⟩

theorem returnNext_done (h : s.snapshotBufferList.size ≤ i) :
    returnNext accepts (i, s) = some (.inr s) := if_neg (Nat.not_lt.mpr h)

/-- One turn gives the first buffer back. -/
theorem returnNext_turn (hs : s.Valid accepts) (h : s.snapshotBufferList.toList = (id, buffer) :: kvs)
    (hi : i < s.snapshotBufferList.size) : ∃ t,
      returnNext accepts (i, s) = some (.inl (i + 1, t)) ∧ t.Valid accepts ∧
      t.snapshotBufferList.toList = kvs ∧ t.returned = s.returned ++ [buffer] := by
  have hget : s.snapshotBufferList[id]? = some buffer := by
    rw [← Std.ExtTreeMap.mem_toList_iff_getElem?_eq_some, h]
    exact List.mem_cons_self
  obtain ⟨t, ht, hvalid, hlist, hreturned⟩ := returnImageCaptureBuffer_valid hs hget
  refine ⟨t, ?_, hvalid, ?_, hreturned⟩
  · unfold returnNext
    dsimp only
    rw [if_pos hi, h]
    dsimp only
    rw [ht]
  · rw [hlist]
    exact OrdMap.toList_erase_of_cons h

/-- While `i` grows the size falls, and the loop ends half way. -/
theorem ends_returnNext (hs : s.Valid accepts) (h : s.snapshotBufferList.toList = kvs) : ∃ t,
    Ends (returnNext accepts) (i, s) t ∧
      t.snapshotBufferList.toList = kvs.drop ((kvs.length - i + 1) / 2) ∧
      t.returned = s.returned ++ (kvs.take ((kvs.length - i + 1) / 2)).map Prod.snd := by
  have hsize : s.snapshotBufferList.size = kvs.length := by rw [← h, Std.ExtTreeMap.length_toList]
  induction kvs generalizing s i with
  | nil => exact ⟨s, ⟨_, .refl, returnNext_done (by simp [hsize])⟩, by simpa using h, by simp⟩
  | cons kv kvs ih =>
    obtain ⟨id, buffer⟩ := kv
    rw [List.length_cons] at hsize ⊢
    by_cases hi : i < kvs.length + 1
    · have hleft : i < s.snapshotBufferList.size := by omega
      obtain ⟨u, hturn, hvalid, hlist, hreturned⟩ := returnNext_turn hs h hleft
      obtain ⟨t, ⟨v, hvisits, hend⟩, ht, hback⟩ := @ih u (i + 1) hvalid hlist (by
        rw [← hlist, Std.ExtTreeMap.length_toList])
      have hhalf : (kvs.length + 1 - i + 1) / 2 = (kvs.length - (i + 1) + 1) / 2 + 1 := by omega
      refine ⟨t, ⟨v, .head hturn hvisits, hend⟩, ?_, ?_⟩
      · rw [hhalf, List.drop_succ_cons, ht]
      · rw [hhalf, List.take_succ_cons, hback, hreturned, List.map_cons, List.append_assoc]
        rfl
    · have hnone : (kvs.length + 1 - i + 1) / 2 = 0 := by omega
      have hdone : s.snapshotBufferList.size ≤ i := by omega
      refine ⟨s, ⟨_, .refl, returnNext_done hdone⟩, ?_, ?_⟩
      · rw [hnone, h]
        rfl
      · rw [hnone]
        simp

/-- Of two buffers one stays in the list. -/
theorem not_returnsAll (hs : s.Valid accepts) (h : 1 < s.snapshotBufferList.size) :
    ¬ s.ReturnsAll accepts := by
  rintro ⟨u, hends', hempty, -⟩
  obtain ⟨t, hends, hlist, -⟩ := ends_returnNext (i := 0) hs rfl
  obtain rfl := hends.unique hends'
  have hnil : t.snapshotBufferList.toList = [] := by
    rw [Std.ExtTreeMap.toList_eq_nil_iff, ← Std.ExtTreeMap.isEmpty_iff]
    exact hempty
  rw [hlist, List.drop_eq_nil_iff, Std.ExtTreeMap.length_toList] at hnil
  omega

/-- All buffers come back if and only if there is at most one. -/
theorem returnsAllBuffers_iff (hs : s.Valid accepts) :
    s.ReturnsAll accepts ↔ s.snapshotBufferList.size ≤ 1 := by
  constructor
  · intro h
    by_contra hmany
    exact not_returnsAll hs (Nat.not_le.mp hmany) h
  · intro hsize
    obtain ⟨t, hends, hlist, hreturned⟩ := ends_returnNext (i := 0) hs rfl
    rw [Std.ExtTreeMap.length_toList] at hlist hreturned
    have hall : s.snapshotBufferList.toList.length ≤ (s.snapshotBufferList.size - 0 + 1) / 2 := by
      rw [Std.ExtTreeMap.length_toList]
      omega
    refine ⟨t, hends, ?_, _, hreturned, ?_⟩
    · rw [Std.ExtTreeMap.isEmpty_iff, ← Std.ExtTreeMap.toList_eq_nil_iff, hlist]
      exact List.drop_eq_nil_of_le hall
    · rw [List.take_of_length_le hall]
      exact .refl _

/-- The buffers with the file descriptors `fds`, of one stream. -/
def captured (fds : List Int) : SnapshotBuffers :=
  fds.foldl (fun s fd => s.snapshotCaptureCallback { fd := fd, streamId := 1 }) {}

theorem captured_valid {fds : List Int} (h : ∀ fd ∈ fds, (Int32.ofInt fd).toInt = fd) :
    (captured fds).Valid fun _ => true := by
  have hall : ∀ s : SnapshotBuffers, s.Valid (fun _ => true) → (fds.foldl (fun s fd =>
      s.snapshotCaptureCallback { fd := fd, streamId := 1 }) s).Valid fun _ => true := by
    induction fds with
    | nil => exact fun _ hs => hs
    | cons fd fds ih =>
      intro s hs
      exact ih (fun fd' h' => h fd' (List.mem_cons_of_mem _ h')) _
        (hs.callback (h fd List.mem_cons_self) rfl)
  exact hall {} fun _ _ h => by simp at h

theorem returnsAllBuffers_one : (captured [5]).ReturnsAll fun _ => true :=
  (returnsAllBuffers_iff (captured_valid (by decide))).mpr (by decide)

theorem two_buffers_not_returned : ¬ (captured [5, 6]).ReturnsAll fun _ => true :=
  not_returnsAll (captured_valid (by decide)) (by decide)

end SnapshotBuffers

end QmmfSdk.Streams
