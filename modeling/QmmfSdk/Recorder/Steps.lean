import QmmfSdk.Recorder.Effects

/-! One request of the service, sorted by what it does to the two registries. -/
namespace QmmfSdk.Recorder

open RecorderImpl

/-- The session in which a request creates a track, and that track's id. -/
def Request.Creates (client session track : UInt32) : Request → Prop
  | .createVideoTrack c s t _ _ _ => c = client ∧ s = session ∧ t = track
  | .createAudioTrack c s t _ _ => c = client ∧ s = session ∧ t = track
  | _ => False

/-- The track that a request may register: one with a 16-bit id, in an existing session. -/
def Request.New (r : RecorderImpl) (a : Request) (c s t : UInt32) (info : TrackInfo) : Prop :=
  a.Creates c s t ∧ r.isSessionValid c s = true ∧ Service.isTrackIdAccepted t = true ∧
    info.trackId = getUniqueServiceTrackId c s t

/-- `StartSession` and `StopSession` take the session lock before they check the client. -/
def Request.LocksSession (client : UInt32) : Request → Prop
  | .startSession c _ _ => c = client
  | .stopSession c _ _ => c = client
  | _ => False

/-- A departure, with the flag that it passes to `DeRegisterClient`. -/
def Request.Leaves (client : UInt32) (force : Bool) : Request → Prop
  | .disconnect c => c = client ∧ force = false
  | .clientDeath c _ => c = client ∧ force = true
  | _ => False

namespace Service

variable {s t : Service} {a : Request} {r r' : RecorderImpl} {st unset : Status}
  {client : UInt32} {f : RecorderImpl → Result}

inductive Effect (s : Service) (a : Request) (t : Service) : Prop where
  | none (ht : t = s)
  | joined {init : Status} (ha : a = .connect init) (ht : t = (s.connect init).2)
  | left {client : UInt32} {m : Media} {force : Bool} {r r' : RecorderImpl} {st : Status}
      (ha : a.Leaves client force) (hr : s.recorder = some r)
      (hc : client ∈ s.remoteCbList)
      (hd : r.deRegisterClient s.remoteCb m client force = .ok (st, r'))
      (ht : t = s.forget r' client)
  | edited {client : UInt32} {r r' : RecorderImpl} (hr : s.recorder = some r)
      (ht : t = { s with recorder := some r' }) (he : Edits (a.New r) client r r')
      (hc : client ∈ r.clientSessionMap ∨ a.LocksSession client)
  | cameras {client cam : UInt32} {r r' : RecorderImpl} (hr : s.recorder = some r)
      (ht : t = { s with recorder := some r' }) (hc : client ∈ r.clientSessionMap)
      (he : CameraEdit client cam r r')

theorem next_eq_some : s.next a = some t ↔ ∃ st, s.step a = .ok (st, t) := by
  unfold next
  split <;> simp_all

theorem onRecorder_cases (h : s.onRecorder unset f = .ok (st, t)) :
    s.recorder = none ∧ st = unset ∧ t = s ∨
      ∃ r r', s.recorder = some r ∧ f r = .ok (st, r') ∧ t = { s with recorder := some r' } := by
  unfold onRecorder at h
  split at h
  · next hr =>
    obtain ⟨rfl, rfl⟩ := Prod.mk.inj (Except.ok.inj h)
    exact .inl ⟨hr, rfl, rfl⟩
  · next r hr =>
    obtain ⟨⟨st', r'⟩, hf, h⟩ := Library.bind_eq_ok_iff.mp h
    obtain ⟨rfl, rfl⟩ := Prod.mk.inj (Except.ok.inj h)
    exact .inr ⟨r, r', hr, hf, rfl⟩

theorem onRecorder_ok (h : s.onRecorder unset f = .ok (st, t)) :
    t = s ∨ ∃ r r' st, s.recorder = some r ∧ f r = .ok (st, r') ∧
      t = { s with recorder := some r' } := by
  rcases onRecorder_cases h with ⟨-, -, rfl⟩ | ⟨r, r', hr, hf, ht⟩
  · exact .inl rfl
  · exact .inr ⟨r, r', st, hr, hf, ht⟩

theorem leave_ok {m : Media} {force : Bool} (h : s.leave client m force = .ok (st, t)) :
    t = s ∨ ∃ r r' st, s.recorder = some r ∧ client ∈ s.remoteCbList ∧
      r.deRegisterClient s.remoteCb m client force = .ok (st, r') ∧ t = s.forget r' client := by
  unfold leave at h
  split at h
  · exact .inl (by simpa using (Except.ok.inj h).symm : _ ∧ t = s).2
  next r hr =>
  split at h
  · exact .inl (by simpa using (Except.ok.inj h).symm : _ ∧ t = s).2
  split at h
  · exact .inl (by simpa using (Except.ok.inj h).symm : _ ∧ t = s).2
  next hc =>
  obtain ⟨⟨st', r'⟩, hd, h⟩ := Library.bind_eq_ok_iff.mp h
  obtain ⟨-, rfl⟩ := by simpa using h
  exact .inr ⟨r, r', st', hr, by simpa using hc, hd, rfl⟩

/-- A request that checks its client first and then edits sessions or tracks. -/
theorem Effect.of_checked (h : s.onRecorder unset f = .ok (st, t))
    (hn : ∀ r, r.isClientValid client = false → f r = .ok (.badValue, r))
    (he : ∀ r r' st, f r = .ok (st, r') → Edits (a.New r) client r r') : Effect s a t := by
  obtain rfl | ⟨r, r', st', hr, hf, rfl⟩ := onRecorder_ok h
  · exact .none rfl
  · cases hv : r.isClientValid client with
    | true => exact .edited hr rfl (he _ _ _ hf) (.inl (isClientValid_iff.mp hv))
    | false =>
      rw [hn r hv] at hf
      obtain rfl := eq_of_ok hf
      exact .none (by rw [← hr])

/-- A request that takes the session lock before it checks its client. -/
theorem Effect.of_locking (h : s.onRecorder unset f = .ok (st, t)) (ha : a.LocksSession client)
    (he : ∀ r r' st, f r = .ok (st, r') → Edits (a.New r) client r r') : Effect s a t := by
  obtain rfl | ⟨r, r', st', hr, hf, rfl⟩ := onRecorder_ok h
  · exact .none rfl
  · exact .edited hr rfl (he _ _ _ hf) (.inr ha)

theorem Effect.of_camera {cam : UInt32} (h : s.onRecorder unset f = .ok (st, t))
    (he : ∀ r r' st, f r = .ok (st, r') →
      r' = r ∨ client ∈ r.clientSessionMap ∧ CameraEdit client cam r r') : Effect s a t := by
  obtain rfl | ⟨r, r', st', hr, hf, rfl⟩ := onRecorder_ok h
  · exact .none rfl
  · obtain rfl | ⟨hc, hcam⟩ := he _ _ _ hf
    · exact .none (by rw [← hr])
    · exact .cameras hr rfl hc hcam

theorem Effect.of_leave {m : Media} {force : Bool} (ha : a.Leaves client force)
    (h : s.leave client m force = .ok (st, t)) : Effect s a t := by
  obtain rfl | ⟨r, r', st', hr, hc, hd, rfl⟩ := leave_ok h
  · exact .none rfl
  · exact .left ha hr hc hd rfl

theorem Effect.of_callback {cam : UInt32}
    (h : s.onRecorder unset (fun r => do
      r.notifyCameraClients s.remoteCb cam
      .ok (.noError, r)) = .ok (st, t)) : Effect s a t := by
  obtain rfl | ⟨r, r', st', hr, hf, rfl⟩ := onRecorder_ok h
  · exact .none rfl
  · obtain ⟨_, -, hf⟩ := Library.bind_eq_ok_iff.mp hf
    obtain rfl := eq_of_ok hf
    exact .none (by rw [← hr])

/-- What a create request registers, once the check of its track id is passed. -/
theorem edits_new {session track : UInt32} (ha : a.Creates client session track)
    (hi : isTrackIdAccepted track = true)
    (hn : r.isSessionValid client session = false → r' = r)
    (he : Edits (Created client session track) client r r') : Edits (a.New r) client r r' := by
  cases hv : r.isSessionValid client session with
  | false =>
    obtain rfl := hn hv
    exact .refl
  | true =>
    apply he.mono
    rintro c s t info ⟨⟨rfl, rfl, rfl⟩, hid⟩
    exact ⟨ha, hv, hi, hid⟩

theorem step_effect (h : lts.Tr s a t) : Effect s a t := by
  obtain ⟨st, h⟩ := next_eq_some.mp h
  cases a with
  | connect init => exact .joined rfl (by simpa [step] using congrArg Prod.snd (Except.ok.inj h).symm)
  | disconnect client => exact .of_leave ⟨rfl, rfl⟩ h
  | clientDeath client m => exact .of_leave ⟨rfl, rfl⟩ h
  | startCamera client camera slave m => exact .of_camera h fun _ _ _ => startCamera_cases
  | stopCamera client camera m => exact .of_camera h fun _ _ _ => stopCamera_cases
  | createSession client =>
    exact .of_checked h (fun r hv => by simp [createSession, hv]) fun _ _ _ => edits_createSession
  | deleteSession client session =>
    exact .of_checked h (fun r hv => by simp [deleteSession, hv]) fun _ _ _ => edits_deleteSession
  | startSession client session m =>
    exact .of_locking h rfl fun _ _ _ => edits_startSession
  | stopSession client session m =>
    exact .of_locking h rfl fun _ _ _ => edits_stopSession
  | pauseSession client session m =>
    refine .of_checked h (fun r (hv : r.isClientValid client = false) => ?_) fun r r' st hf => ?_
    · simp [pauseSession, hv]
    · obtain rfl : (r.pauseSession m client session).2 = r' :=
        congrArg Prod.snd (Except.ok.inj hf)
      exact edits_pauseSession
  | resumeSession client session m =>
    refine .of_checked h (fun r (hv : r.isClientValid client = false) => ?_) fun r r' st hf => ?_
    · simp [resumeSession, hv]
    · obtain rfl : (r.resumeSession m client session).2 = r' :=
        congrArg Prod.snd (Except.ok.inj hf)
      exact edits_resumeSession
  | createVideoTrack client session track p extra m =>
    refine .of_checked h (fun r (hv : r.isClientValid client = false) => ?_) fun r r' st hf => ?_
    · simp [createVideoTrack, hv]
    split at hf
    · exact .unchanged hf
    next hi =>
    refine edits_new ⟨rfl, rfl, rfl⟩ (by simpa using hi) (fun hv => ?_) (edits_createVideoTrack hf)
    by_cases hc : r.isClientValid client = true <;>
      exact eq_of_ok (by simpa [createVideoTrack, hv, hc] using hf)
  | createAudioTrack client session track p m =>
    refine .of_checked h (fun r (hv : r.isClientValid client = false) => ?_) fun r r' st hf => ?_
    · simp [createAudioTrack, hv]
    split at hf
    · exact .unchanged hf
    next hi =>
    refine edits_new ⟨rfl, rfl, rfl⟩ (by simpa using hi) (fun hv => ?_) (edits_createAudioTrack hf)
    by_cases hc : r.isClientValid client = true <;>
      exact eq_of_ok (by simpa [createAudioTrack, hv, hc] using hf)
  | deleteVideoTrack client session track m =>
    exact .of_checked h (fun r hv => by simp [deleteVideoTrack, hv])
      fun _ _ _ => edits_deleteVideoTrack
  | deleteAudioTrack client session track m =>
    exact .of_checked h (fun r hv => by simp [deleteAudioTrack, hv])
      fun _ _ _ => edits_deleteAudioTrack
  | cameraResult camera => exact .of_callback h
  | cameraError camera => exact .of_callback h

/-- The two lists of the service name the same clients, the connected ones. -/
def SameLists (s : Service) : Prop := s.deathNotifierList = s.remoteCbList

theorem sameLists_step : lts.TrInv SameLists := by
  intro s a t hstep (hs : s.deathNotifierList = s.remoteCbList)
  cases step_effect hstep with
  | none ht => exact ht ▸ hs
  | joined ha ht =>
    subst ht
    unfold connect
    split
    · exact hs
    · exact congrArg (·.insertIfNew (s.uniqueClientId + 1) ()) hs
  | left ha hr hc hd ht =>
    subst ht
    unfold forget SameLists
    dsimp only
    split <;> simp [hs]
  | edited hr ht he hc => exact ht ▸ hs
  | cameras hr ht hc he => exact ht ▸ hs

/-- What `DeRegisterClient` leaves of the registry when some other client stays connected;
without one the recorder goes away. -/
theorem recorder_forget (h : (s.forget r client).recorder = some r') : r' = r := by
  unfold forget at h
  dsimp only at h
  split at h
  · simp at h
  · exact (Option.some.inj h).symm

theorem recorder_forget_of_connected {e : UInt32} (hc : client ≠ e) (he : e ∈ s.deathNotifierList) :
    (s.forget r client).recorder = some r := by
  have hleft : (s.deathNotifierList.erase client).isEmpty = false := by
    rw [Bool.eq_false_iff, ne_eq, Std.ExtTreeMap.isEmpty_iff]
    intro hempty
    have hmem : e ∈ s.deathNotifierList.erase client :=
      Std.ExtTreeMap.mem_erase.mpr ⟨by simpa using hc, he⟩
    simp [hempty] at hmem
  simp [forget, hleft]

theorem exists_other_of_forget (hs : SameLists s) (h : (s.forget r client).recorder = some r') :
    ∃ c ∈ s.remoteCbList, c ≠ client := by
  by_contra hall
  have hempty : s.remoteCbList.erase client = ∅ := by
    rw [Std.ExtTreeMap.eq_empty_iff_forall_not_mem]
    intro c hc
    obtain ⟨hne, hc⟩ := Std.ExtTreeMap.mem_erase.mp hc
    exact hall ⟨c, hc, by rintro rfl; simp at hne⟩
  have hs : s.deathNotifierList = s.remoteCbList := hs
  simp [forget, hs, hempty] at h

end Service

end QmmfSdk.Recorder
