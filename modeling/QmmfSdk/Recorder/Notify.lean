import QmmfSdk.Recorder.Steps

/-! Remote callbacks: every registered client is connected, so every notification finds the
callback that it looks up. -/
namespace QmmfSdk.Recorder

namespace RecorderImpl

variable {r r' : RecorderImpl} {remoteCb : UInt32 → Bool} {m : Media}
  {client cam c : UInt32}

theorem notifyOthers_ok (h : ∀ c ∈ r.clientCameraidMap, c ≠ client → remoteCb c = true) :
    notifyOthers remoteCb r client = .ok () := by
  have hnone : r.clientCameraidMap.keys.find? (fun id => id != client && !remoteCb id) = none := by
    rw [Library.OrdMap.find?_keys_eq_none]
    intro c hc
    by_cases hne : c = client
    · simp [hne]
    · simp [h c hc hne]
  simp [notifyOthers, hnone]

theorem mem_getCameraClients (h : c ∈ r.getCameraClients cam) : c ∈ r.clientCameraidMap := by
  simp only [getCameraClients, List.mem_map, List.mem_filter] at h
  obtain ⟨p, ⟨hp, -⟩, rfl⟩ := h
  have hp := Std.ExtTreeMap.mem_toList_iff_getElem?_eq_some.mp hp
  exact Std.ExtTreeMap.mem_iff_isSome_getElem?.mpr (by simp [hp])

/-- Only edits of the client's own entry happen before the notifications of one request. -/
theorem mem_updateCameras {f : IdMap Bool → IdMap Bool}
    (h : c ∈ (r.updateCameras client f).clientCameraidMap) (hne : c ≠ client) :
    c ∈ r.clientCameraidMap := by
  have h : client = c ∨ c ∈ r.clientCameraidMap := by simpa [updateCameras] using h
  exact h.resolve_left (Ne.symm hne)

theorem mem_touchCameras (h : c ∈ (r.touchCameras client).clientCameraidMap) (hne : c ≠ client) :
    c ∈ r.clientCameraidMap := by
  unfold touchCameras at h
  split at h
  · exact mem_updateCameras h hne
  · exact h

section Notifications

variable (h : ∀ c ∈ r.clientCameraidMap, remoteCb c = true)
include h

theorem startCamera_returns {slave : Bool} :
    ∃ x, r.startCamera remoteCb m client cam slave = .ok x := by
  have hn : notifyOthers remoteCb (r.touchCameras client) client = .ok () :=
    notifyOthers_ok fun c hc hne => h c (mem_touchCameras hc hne)
  unfold startCamera
  simp only [hn, bind, Except.bind]
  repeat' split
  all_goals exact ⟨_, rfl⟩

theorem stopCamera_returns : ∃ x, r.stopCamera remoteCb m client cam = .ok x := by
  have hn : notifyOthers remoteCb (r.touchCameras client) client = .ok () :=
    notifyOthers_ok fun c hc hne => h c (mem_touchCameras hc hne)
  have hn' : notifyOthers remoteCb
      ((r.touchCameras client).updateCameras client fun cs => cs.erase cam) client = .ok () :=
    notifyOthers_ok fun c hc hne => h c (mem_touchCameras (mem_updateCameras hc hne) hne)
  unfold stopCamera
  simp only [hn, hn', bind, Except.bind]
  repeat' split
  all_goals exact ⟨_, rfl⟩

theorem notifyCameraClients_returns (hv : ∀ c ∈ r.clientCameraidMap, c ∈ r.clientSessionMap) :
    r.notifyCameraClients remoteCb cam = .ok () := by
  apply Library.forM_eq_ok
  intro id hid
  have hid := mem_getCameraClients hid
  have hvalid : r.isClientValid id = true := isClientValid_iff.mpr (hv id hid)
  simp [hvalid, h id hid]

end Notifications

end RecorderImpl

namespace Service

open RecorderImpl

variable {s t : Service} {a : Request} {as : List Request} {r : RecorderImpl}

/-- Every key of the two registries is a connected client. -/
def Notifiable (s : Service) : Prop :=
  ∀ r, s.recorder = some r → ∀ c, c ∈ r.clientCameraidMap ∨ c ∈ r.clientSessionMap →
    c ∈ s.remoteCbList

/-- The requests and callbacks that notify other clients. -/
def Notifies : Request → Prop
  | .startCamera .. | .stopCamera .. | .cameraResult _ | .cameraError _ => True
  | _ => False

/-- A client disconnects only when no other client is connected, and starts or stops a
session only while it is connected. -/
def DisconnectsLast (s : Service) (a : Request) : Prop :=
  (∀ c, a = .disconnect c → c ∈ s.remoteCbList → ∀ d ∈ s.remoteCbList, d = c) ∧
    ∀ c, a.LocksSession c → c ∈ s.remoteCbList

/-- The connected clients are exactly the registered ones, and only they have cameras. -/
structure Connected (s : Service) : Prop where
  recorder : ∀ c ∈ s.remoteCbList, ∃ r, s.recorder = some r
  clients : ∀ r, s.recorder = some r → ∀ c, c ∈ r.clientSessionMap ↔ c ∈ s.remoteCbList
  cameras : ∀ r, s.recorder = some r → ∀ c ∈ r.clientCameraidMap, c ∈ s.remoteCbList

theorem Connected.notifiable (h : Connected s) : Notifiable s := by
  rintro r hr c (hc | hc)
  · exact h.cameras r hr c hc
  · exact (h.clients r hr c).mp hc

theorem connected_initial : Connected initial where
  recorder c hc := by simp [initial] at hc
  clients r hr := by simp [initial] at hr
  cameras r hr := by simp [initial] at hr

theorem connected_connect {init : Status} (h : Connected s) : Connected (s.connect init).2 := by
  unfold connect
  split
  · exact h
  · have hold : ∀ c, (c ∈ (s.recorder.getD {}).clientSessionMap ↔ c ∈ s.remoteCbList) ∧
        (c ∈ (s.recorder.getD {}).clientCameraidMap → c ∈ s.remoteCbList) := by
      intro c
      cases hr : s.recorder with
      | none =>
        have hno : c ∉ s.remoteCbList := by
          intro hc
          obtain ⟨r, hr'⟩ := h.recorder c hc
          simp [hr] at hr'
        simp [hno]
      | some r => exact ⟨h.clients r hr c, h.cameras r hr c⟩
    refine ⟨fun c hc => ⟨_, rfl⟩, ?_, ?_⟩
    · intro r hr c
      obtain rfl := Option.some.inj hr
      have hc := (hold c).1
      unfold registerClient
      split
      · next hv =>
        have hv := (hold _).1.mp (isClientValid_iff.mp hv)
        simp only [Std.ExtTreeMap.mem_insertIfNew]
        grind
      · simp only [Std.ExtTreeMap.mem_insertIfNew]
        grind
    · intro r hr c hc
      obtain rfl := Option.some.inj hr
      have hcam := (hold c).2
      unfold registerClient at hc
      split at hc
      · simp only [Std.ExtTreeMap.mem_insertIfNew]
        grind
      · simp only [Std.ExtTreeMap.mem_insertIfNew] at hc ⊢
        grind

/-- A death takes the client out of both registries and out of both lists. -/
theorem connected_forget {r r' : RecorderImpl} {client : UInt32} (hr : s.recorder = some r)
    (hl : SameLists s) (hs : Connected s) (h : Removes client r r') :
    Connected (s.forget r' client) := by
  have hlists : s.deathNotifierList = s.remoteCbList := hl
  have herase : ∀ c, c ∈ s.remoteCbList.erase client ↔ c ≠ client ∧ c ∈ s.remoteCbList := by
    intro c
    rw [Std.ExtTreeMap.mem_erase]
    grind
  unfold forget
  dsimp only
  split
  · next hempty =>
    refine ⟨fun c hc => ?_, by simp, by simp⟩
    have hno : s.remoteCbList.erase client = ∅ := by simpa [hlists] using hempty
    simp [hno] at hc
  · refine ⟨fun c _ => ⟨r', rfl⟩, ?_, ?_⟩
    · intro u hu c
      obtain rfl := Option.some.inj hu
      rw [herase, h.clients, hs.clients r hr]
    · intro u hu c hc
      obtain rfl := Option.some.inj hu
      rw [h.cameras, Std.ExtTreeMap.mem_erase] at hc
      rw [herase]
      have hcam := hs.cameras r hr c
      grind

/-- The only connected client takes the recorder with it. -/
theorem connected_forget_last {r : RecorderImpl} {client : UInt32}
    (hl : SameLists s) (hlast : ∀ d ∈ s.remoteCbList, d = client) :
    Connected (s.forget r client) := by
  have hlists : s.deathNotifierList = s.remoteCbList := hl
  have hempty : s.remoteCbList.erase client = ∅ := by
    rw [Std.ExtTreeMap.eq_empty_iff_forall_not_mem]
    intro c hc
    obtain ⟨hne, hc⟩ := Std.ExtTreeMap.mem_erase.mp hc
    simp [hlast c hc] at hne
  refine ⟨?_, ?_, ?_⟩ <;> simp [forget, hlists, hempty]

theorem connected_step :
    (lts.guarded DisconnectsLast).TrInv fun s => SameLists s ∧ Connected s := by
  rintro s a t ⟨hstep, hguard⟩ ⟨hl, hs⟩
  refine ⟨sameLists_step _ _ _ hstep hl, ?_⟩
  cases step_effect hstep with
  | none ht => exact ht ▸ hs
  | joined ha ht => exact ht ▸ connected_connect hs
  | @left client m force r r' st ha hr hc hd ht =>
    subst ht
    have hv : r.isClientValid client = true :=
      isClientValid_iff.mpr ((hs.clients r hr client).mpr hc)
    cases force with
    | true => exact connected_forget hr hl hs (removes_deRegisterClient hv hd)
    | false =>
      obtain rfl : a = .disconnect client := by
        cases a <;> simp_all [Request.Leaves]
      exact connected_forget_last hl (hguard.1 client rfl hc)
  | @edited client r r' hr ht he hc =>
    subst ht
    have hclient : client ∈ s.remoteCbList := by
      rcases hc with hc | hc
      · exact (hs.clients r hr client).mp hc
      · exact hguard.2 client hc
    refine ⟨fun c _ => ⟨r', rfl⟩, ?_, ?_⟩
    · intro u hu c
      obtain rfl := Option.some.inj hu
      constructor
      · intro hm
        rcases he.registers c hm with rfl | hm
        · exact hclient
        · exact (hs.clients r hr c).mp hm
      · intro hm
        exact he.keeps c ((hs.clients r hr c).mpr hm)
    · intro u hu c hm
      obtain rfl := Option.some.inj hu
      exact hs.cameras r hr c (he.cameras ▸ hm)
  | @cameras client cam r r' hr ht hc he =>
    subst ht
    obtain ⟨f, rfl⟩ : ∃ f, r' = r.updateCameras client f := by
      cases he <;> exact ⟨_, by assumption⟩
    refine ⟨fun c _ => ⟨_, rfl⟩, ?_, ?_⟩
    · intro u hu c
      obtain rfl := Option.some.inj hu
      exact hs.clients r hr c
    · intro u hu c hm
      obtain rfl := Option.some.inj hu
      by_cases hne : c = client
      · exact hne ▸ (hs.clients r hr client).mp hc
      · exact hs.cameras r hr c (mem_updateCameras hm hne)

theorem onRecorder_returns {unset : Status} {f : RecorderImpl → Result}
    (h : ∀ r, s.recorder = some r → ∃ x, f r = .ok x) : ∃ x, s.onRecorder unset f = .ok x := by
  unfold onRecorder
  split
  · exact ⟨_, rfl⟩
  · next r hr =>
    obtain ⟨x, hx⟩ := h r hr
    simp only [hx, bind, Except.bind]
    exact ⟨_, rfl⟩

/-- In a connected state every notification goes through. -/
theorem Connected.returns (h : Connected s) (ha : Notifies a) : ∃ x, s.step a = .ok x := by
  have hcb : ∀ r, s.recorder = some r → ∀ c ∈ r.clientCameraidMap, s.remoteCb c = true := by
    intro r hr c hc
    simpa [remoteCb] using h.cameras r hr c hc
  have hall : ∀ cam r, s.recorder = some r →
      ∃ x, (do r.notifyCameraClients s.remoteCb cam; .ok (.noError, r) : Result) = .ok x := by
    intro cam r hr
    have hvalid : ∀ c ∈ r.clientCameraidMap, c ∈ r.clientSessionMap := fun c hc =>
      (h.clients r hr c).mpr (h.cameras r hr c hc)
    rw [notifyCameraClients_returns (hcb r hr) hvalid]
    exact ⟨_, rfl⟩
  cases a with
  | startCamera => exact onRecorder_returns fun r hr => startCamera_returns (hcb r hr)
  | stopCamera => exact onRecorder_returns fun r hr => stopCamera_returns (hcb r hr)
  | cameraResult cam => exact onRecorder_returns (hall cam)
  | cameraError cam => exact onRecorder_returns (hall cam)
  | _ => exact ha.elim

/-- Every registered client can be notified, and no notification fails its lookup, as long
as only the last connected client leaves by `Disconnect`. -/
theorem notifiable_of_disconnectsLast (h : (lts.guarded DisconnectsLast).MTr initial as t) :
    Notifiable t ∧ ∀ a id, Notifies a → t.step a ≠ .error (.remoteCallback id) := by
  have hc := (Library.LTS.inv_of_mTr connected_step h ⟨rfl, connected_initial⟩).2
  refine ⟨hc.notifiable, fun a id ha herr => ?_⟩
  obtain ⟨x, hx⟩ := hc.returns ha
  simp [hx] at herr

/-- After a run: whether client 1 is registered for cameras and sessions, whether it is
connected, and what the next request does to the service. -/
def clientAfter (as : List Request) (a : Request) :
    Option ((Bool × Bool) × Bool × Except Abort Status) := do
  let s ← Library.LTS.run next initial as
  let r ← s.recorder
  return ((r.clientCameraidMap.contains 1, r.clientSessionMap.contains 1), s.remoteCb 1,
    (s.step a).map Prod.fst)

theorem clientAfter_eq_some {b b' cb : Bool} {o : Except Abort Status}
    (h : clientAfter as a = some ((b, b'), cb, o)) :
    ∃ t r, lts.MTr initial as t ∧ t.recorder = some r ∧ r.clientCameraidMap.contains 1 = b ∧
      r.clientSessionMap.contains 1 = b' ∧ t.remoteCb 1 = cb ∧ (t.step a).map Prod.fst = o := by
  simp only [clientAfter, Option.bind_eq_bind, Option.pure_def, Option.bind_eq_some_iff,
    Option.some.injEq, Prod.mk.injEq] at h
  obtain ⟨t, hrun, r, hr, ⟨hb, hb'⟩, hcb, ho⟩ := h
  exact ⟨t, r, Library.LTS.mTr_ofStep_iff.mpr hrun, hr, hb, hb', hcb, ho⟩

/-- Two clients, each with a camera of its own; then one of them leaves. -/
def twoCamerasRun (leaving : Request) : List Request :=
  [.connect .noError, .connect .noError, .startCamera 1 0 false {}, .startCamera 2 1 false {},
    leaving]

theorem notifiable_after_client_death :
    clientAfter (twoCamerasRun (.clientDeath 1 {})) (.stopCamera 2 1 {}) =
        some ((false, false), false, .ok .noError) ∧
      ∃ t, (lts.guarded DisconnectsLast).MTr initial (twoCamerasRun (.clientDeath 1 {})) t ∧
        Notifiable t ∧ ∀ a id, Notifies a → t.step a ≠ .error (.remoteCallback id) := by
  have hafter : clientAfter (twoCamerasRun (.clientDeath 1 {})) (.stopCamera 2 1 {}) =
      some ((false, false), false, .ok .noError) := by decide
  obtain ⟨t, -, hrun, -⟩ := clientAfter_eq_some hafter
  have hlast : ∀ a ∈ twoCamerasRun (.clientDeath 1 {}), ∀ s, DisconnectsLast s a := by
    intro a ha s
    simp only [twoCamerasRun, List.mem_cons, List.not_mem_nil, or_false] at ha
    constructor
    · rintro c rfl
      simp at ha
    · intro c hc
      rcases ha with rfl | rfl | rfl | rfl | rfl <;> exact hc.elim
  have hguard := Library.LTS.mTr_guarded_of_forall hrun hlast
  exact ⟨hafter, t, hguard, notifiable_of_disconnectsLast hguard⟩

/-- Client 1 leaves by `Disconnect` with its camera open: both keys stay behind, and the next
`StopCamera` of client 2 takes the service down. -/
theorem disconnected_client_aborts_service :
    ∃ t, lts.MTr initial (twoCamerasRun (.disconnect 1)) t ∧ ¬ Notifiable t ∧
      t.step (.stopCamera 2 1 {}) = .error (.remoteCallback 1) := by
  have hafter : clientAfter (twoCamerasRun (.disconnect 1)) (.stopCamera 2 1 {}) =
      some ((true, true), false, .error (.remoteCallback 1)) := by decide
  obtain ⟨t, r, hrun, hr, hcam, -, hcb, hstep⟩ := clientAfter_eq_some hafter
  refine ⟨t, hrun, fun hn => ?_, ?_⟩
  · have hmem : t.remoteCbList.contains 1 = true := by
      simpa using hn r hr 1 (.inl (by simpa using hcam))
    simp [remoteCb, hmem] at hcb
  · cases h : t.step (.stopCamera 2 1 {}) with
    | ok x => simp [h, Except.map] at hstep
    | error e => simpa [h, Except.map] using hstep

end Service

end QmmfSdk.Recorder
