import QmmfSdk.Recorder.VideoTracks

/-! What the requests of other clients leave of the sessions of a client: all of them. -/
namespace QmmfSdk.Recorder

/-- The client that a request comes from. -/
def Request.client : Request → Option UInt32
  | .connect _ | .cameraResult _ | .cameraError _ => none
  | .disconnect c | .clientDeath c _ | .startCamera c _ _ _ | .stopCamera c _ _ | .createSession c
  | .deleteSession c _ | .startSession c _ _ | .stopSession c _ _ | .pauseSession c _ _
  | .resumeSession c _ _ | .createVideoTrack c _ _ _ _ _ | .createAudioTrack c _ _ _ _
  | .deleteVideoTrack c _ _ _ | .deleteAudioTrack c _ _ _ => some c

namespace RecorderImpl

variable {r r' r'' : RecorderImpl} {remoteCb : UInt32 → Bool} {m : Media} {st : Status}
  {client session track e : UInt32}

/-- The client `e` keeps its sessions with their tracks. -/
def KeepsClient (e : UInt32) (r r' : RecorderImpl) : Prop :=
  r'.clientSessionMap[e]? = r.clientSessionMap[e]?

theorem KeepsClient.refl : KeepsClient e r r := rfl

theorem KeepsClient.trans (h : KeepsClient e r r') (h' : KeepsClient e r' r'') : KeepsClient e r r'' :=
  Eq.trans h' h

theorem keepsClient_updateSessions {f : SessionTrackMap → SessionTrackMap} (hc : client ≠ e) :
    KeepsClient e r (r.updateSessions client f) :=
  getElem?_updateSessions.trans (if_neg hc)

theorem Restated.keepsClient (h : Restated session r r') : KeepsClient e r r' := by
  obtain ⟨ss, rfl, -⟩ := h
  exact .refl

theorem keepsClient_createSession (hc : client ≠ e) (h : r.createSession client = .ok (st, r')) :
    KeepsClient e r r' := by
  rcases createSession_cases h with ⟨-, rfl⟩ | ⟨-, rfl⟩
  · exact .refl
  · exact keepsClient_updateSessions hc

theorem keepsClient_deleteSession (hc : client ≠ e)
    (h : r.deleteSession client session = .ok (st, r')) : KeepsClient e r r' := by
  rcases deleteSession_cases h with ⟨-, rfl, -⟩ | ⟨-, -, -, n, rfl, -⟩
  · exact .refl
  · exact keepsClient_updateSessions hc

theorem keepsClient_startSession (hc : client ≠ e)
    (h : r.startSession m client session = .ok (st, r')) : KeepsClient e r r' :=
  (keepsClient_updateSessions hc).trans (startSession_cases h).2.keepsClient

theorem keepsClient_stopSession (hc : client ≠ e)
    (h : r.stopSession m client session = .ok (st, r')) : KeepsClient e r r' :=
  (keepsClient_updateSessions hc).trans (stopSession_cases h).2.keepsClient

theorem keepsClient_pauseSession : KeepsClient e r (r.pauseSession m client session).2 := by
  rcases @pauseSession_cases r m client session with heq | ⟨-, hres⟩
  · rw [heq]
    exact .refl
  · exact hres.keepsClient

theorem keepsClient_resumeSession : KeepsClient e r (r.resumeSession m client session).2 := by
  rcases @resumeSession_cases r m client session with heq | ⟨-, hres⟩
  · rw [heq]
    exact .refl
  · exact hres.keepsClient

theorem keepsClient_createVideoTrack {p : VideoTrackCreateParam} {extra : VideoExtraParam}
    (hc : client ≠ e) (h : r.createVideoTrack m client session track p extra = .ok (st, r')) :
    KeepsClient e r r' := by
  obtain ⟨tm, ⟨-, rfl⟩ | ⟨-, -, -, -, -, rfl⟩⟩ := createVideoTrack_cases h
  · exact .refl
  · exact keepsClient_updateSessions hc

theorem keepsClient_createAudioTrack {p : AudioTrackCreateParam} (hc : client ≠ e)
    (h : r.createAudioTrack m client session track p = .ok (st, r')) : KeepsClient e r r' := by
  rcases createAudioTrack_cases h with ⟨-, rfl⟩ | ⟨-, -, -, rfl⟩
  · exact .refl
  · exact keepsClient_updateSessions hc

theorem keepsClient_deleteVideoTrack (hc : client ≠ e)
    (h : r.deleteVideoTrack remoteCb m client session track = .ok (st, r')) : KeepsClient e r r' := by
  rcases deleteVideoTrack_cases h with ⟨-, rfl, -⟩ | ⟨-, i, f, -, -, rfl⟩
  · exact .refl
  · unfold KeepsClient
    rw [clientSessionMap_withoutVideoTrack]
    exact keepsClient_updateSessions hc

theorem keepsClient_deleteAudioTrack (hc : client ≠ e)
    (h : r.deleteAudioTrack m client session track = .ok (st, r')) : KeepsClient e r r' := by
  rcases deleteAudioTrack_cases h with ⟨-, rfl, -⟩ | ⟨-, i, f, -, -, rfl⟩
  · exact .refl
  · exact keepsClient_updateSessions hc

theorem keepsClient_deleteTrack {q : UInt32 × TrackInfo} (hc : client ≠ e)
    (h : deleteTrack remoteCb m client session r q = .ok r') : KeepsClient e r r' := by
  unfold deleteTrack at h
  split at h
  · obtain ⟨⟨st, r₁⟩, h₁, h⟩ := Library.bind_eq_ok_iff.mp h
    obtain rfl := by simpa using h
    exact keepsClient_deleteVideoTrack hc h₁
  · obtain ⟨⟨st, r₁⟩, h₁, h⟩ := Library.bind_eq_ok_iff.mp h
    obtain rfl := by simpa using h
    exact keepsClient_deleteAudioTrack hc h₁

theorem CameraEdit.keepsClient {cam : UInt32} (h : CameraEdit client cam r r') : KeepsClient e r r' := by
  cases h <;> next h => exact h ▸ .refl

theorem keepsClient_cleanupSession {p : UInt32 × TrackInfoMap} (hc : client ≠ e)
    (h : cleanupSession remoteCb m client r p = .ok r') : KeepsClient e r r' := by
  obtain ⟨⟨st₁, r₁⟩, h₁, h⟩ := Library.bind_eq_ok_iff.mp h
  obtain ⟨r₂, h₂, h⟩ := Library.bind_eq_ok_iff.mp h
  obtain ⟨⟨st₃, r₃⟩, h₃, h⟩ := Library.bind_eq_ok_iff.mp h
  obtain rfl := by simpa using h
  have htracks : KeepsClient e r₁ r₂ := Library.foldlM_rel (R := KeepsClient e)
    (fun _ => .refl) (fun _ _ _ => .trans) (fun _ _ _ => keepsClient_deleteTrack hc) h₂
  exact ((keepsClient_stopSession hc h₁).trans htracks).trans (keepsClient_deleteSession hc h₃)

theorem keepsClient_deRegisterClient {force : Bool} (hc : client ≠ e)
    (h : r.deRegisterClient remoteCb m client force = .ok (st, r')) : KeepsClient e r r' := by
  cases hv : r.isClientValid client with
  | false =>
    rw [deRegisterClient, hv] at h
    exact eq_of_ok h ▸ .refl
  | true =>
    cases force with
    | false =>
      simp only [deRegisterClient, hv, Bool.not_true, Bool.not_false, Bool.false_eq_true, if_false,
        if_true] at h
      split at h
      · exact eq_of_ok h ▸ .refl
      · exact eq_of_ok h ▸ .refl
    | true =>
      simp only [deRegisterClient, hv, Bool.not_true, Bool.false_eq_true, if_false] at h
      obtain ⟨r₁, h₁, h⟩ := Library.bind_eq_ok_iff.mp h
      obtain ⟨r₂, h₂, h⟩ := Library.bind_eq_ok_iff.mp h
      obtain ⟨r₃, h₃, h⟩ := Library.bind_eq_ok_iff.mp h
      obtain ⟨-, rfl⟩ := by simpa using h
      have hcut : r₃ = _ := stopCameras_of_not_valid (by simp [isClientValid, updateCameras]) h₃
      obtain ⟨cams, index, rfl⟩ := forceReturnBuffers_cases h₁
      have hsessions : KeepsClient e _ r₂ := Library.foldlM_rel (R := KeepsClient e)
        (fun _ => .refl) (fun _ _ _ => .trans) (fun _ _ _ => keepsClient_cleanupSession hc) h₂
      subst hcut
      have herased : KeepsClient e r₂
          { r₂ with clientSessionMap := r₂.clientSessionMap.erase client } := by
        unfold KeepsClient
        rw [Std.ExtTreeMap.getElem?_erase, if_neg (by simpa using hc)]
      exact hsessions.trans herased

end RecorderImpl

open RecorderImpl

namespace Service

variable {s t : Service} {a : Request} {r : RecorderImpl} {st unset : Status} {client e : UInt32}
  {f : RecorderImpl → Result} {ts : SessionTrackMap}

/-- The sessions that the service has for a client, when it has the client at all. -/
def held (s : Service) (client : UInt32) : Option SessionTrackMap :=
  s.recorder.bind (·.clientSessionMap[client]?)

/-- The client `e` is connected, with these sessions. -/
structure Holds (s : Service) (e : UInt32) (ts : SessionTrackMap) : Prop where
  connected : e ∈ s.deathNotifierList
  sessions : s.held e = some ts

theorem Holds.recorder (h : s.Holds e ts) :
    ∃ r, s.recorder = some r ∧ r.clientSessionMap[e]? = some ts :=
  Option.bind_eq_some_iff.mp h.sessions

theorem holds_onRecorder (hs : s.Holds e ts) (h : s.onRecorder unset f = .ok (st, t))
    (hf : ∀ {r r' st}, f r = .ok (st, r') → KeepsClient e r r') : t.Holds e ts := by
  obtain rfl | ⟨r, r', st', hr, hf', rfl⟩ := onRecorder_ok h
  · exact hs
  · have hheld : r.clientSessionMap[e]? = some ts := by simpa [Service.held, hr] using hs.sessions
    exact ⟨hs.connected, Eq.trans (hf hf') hheld⟩

theorem holds_leave {m : Media} {force : Bool} (hs : s.Holds e ts) (hc : client ≠ e)
    (h : s.leave client m force = .ok (st, t)) : t.Holds e ts := by
  obtain rfl | ⟨r, r', st', hr, -, hd, rfl⟩ := leave_ok h
  · exact hs
  · have hheld : r.clientSessionMap[e]? = some ts := by simpa [Service.held, hr] using hs.sessions
    have hleft : e ∈ s.deathNotifierList.erase client :=
      Std.ExtTreeMap.mem_erase.mpr ⟨by simpa using hc, hs.connected⟩
    refine ⟨?_, ?_⟩
    · unfold forget
      dsimp only
      split
      · exact hleft
      · exact hleft
    · rw [Service.held, recorder_forget_of_connected hc hs.connected]
      exact Eq.trans (keepsClient_deRegisterClient hc hd) hheld

theorem holds_connect {init : Status} (hs : s.Holds e ts) : (s.connect init).2.Holds e ts := by
  obtain ⟨r, hr, hheld⟩ := hs.recorder
  unfold connect
  split
  · exact hs
  · refine ⟨Std.ExtTreeMap.mem_insertIfNew.mpr (.inr hs.connected), ?_⟩
    simp only [Service.held, hr, Option.getD_some, Option.bind_some, registerClient]
    split
    · exact hheld
    next hnew =>
      have hne : ¬ compare (s.uniqueClientId + 1) e = .eq := by
        intro heq
        obtain rfl := Std.compare_eq_iff_eq.mp heq
        simp [isClientValid, Std.ExtTreeMap.contains_eq_isSome_getElem?, hheld] at hnew
      rw [Std.ExtTreeMap.getElem?_insertIfNew]
      simp [hne, hheld]

/-- A request of another client, a new one among them, or a callback of a camera. -/
theorem holds_step (hs : s.Holds e ts) (ha : a.client ≠ some e) (h : s.step a = .ok (st, t)) :
    t.Holds e ts := by
  have hc : ∀ {c}, a.client = some c → c ≠ e := fun heq hce => ha (hce ▸ heq)
  cases a with
  | connect init =>
    obtain rfl : (s.connect init).2 = t := congrArg Prod.snd (Except.ok.inj h)
    exact holds_connect hs
  | disconnect c | clientDeath c m => exact holds_leave hs (hc rfl) h
  | startCamera c camera slave m =>
    refine holds_onRecorder hs h fun hf => ?_
    rcases startCamera_cases hf with rfl | ⟨-, hedit⟩
    · exact .refl
    · exact hedit.keepsClient
  | stopCamera c camera m =>
    refine holds_onRecorder hs h fun hf => ?_
    rcases stopCamera_cases hf with rfl | ⟨-, hedit⟩
    · exact .refl
    · exact hedit.keepsClient
  | createSession c => exact holds_onRecorder hs h (keepsClient_createSession (hc rfl))
  | deleteSession c i => exact holds_onRecorder hs h (keepsClient_deleteSession (hc rfl))
  | startSession c i m => exact holds_onRecorder hs h (keepsClient_startSession (hc rfl))
  | stopSession c i m => exact holds_onRecorder hs h (keepsClient_stopSession (hc rfl))
  | pauseSession c i m =>
    refine holds_onRecorder hs h fun {r r' st} hf => ?_
    obtain rfl : (r.pauseSession m c i).2 = r' := congrArg Prod.snd (Except.ok.inj hf)
    exact keepsClient_pauseSession
  | resumeSession c i m =>
    refine holds_onRecorder hs h fun {r r' st} hf => ?_
    obtain rfl : (r.resumeSession m c i).2 = r' := congrArg Prod.snd (Except.ok.inj hf)
    exact keepsClient_resumeSession
  | createVideoTrack c i k p extra m =>
    refine holds_onRecorder hs h fun hf => ?_
    split at hf
    · exact eq_of_ok hf ▸ .refl
    · exact keepsClient_createVideoTrack (hc rfl) hf
  | createAudioTrack c i k p m =>
    refine holds_onRecorder hs h fun hf => ?_
    split at hf
    · exact eq_of_ok hf ▸ .refl
    · exact keepsClient_createAudioTrack (hc rfl) hf
  | deleteVideoTrack c i k m => exact holds_onRecorder hs h (keepsClient_deleteVideoTrack (hc rfl))
  | deleteAudioTrack c i k m => exact holds_onRecorder hs h (keepsClient_deleteAudioTrack (hc rfl))
  | cameraResult camera | cameraError camera =>
    refine holds_onRecorder hs h fun hf => ?_
    obtain ⟨_, -, hf⟩ := Library.bind_eq_ok_iff.mp hf
    exact eq_of_ok hf ▸ .refl

end Service

end QmmfSdk.Recorder
