import QmmfSdk.Recorder.Steps

/-! Camera ownership: one owner for each camera, and no slave without an owner. -/
namespace QmmfSdk.Recorder

namespace RecorderImpl

variable {r r' : RecorderImpl} {client cam c k : UInt32} {owned : Bool}

/-- A new entry never replaces an old one. -/
theorem camera_emplace {b : Bool} :
    (r.updateCameras client fun cs => cs.insertIfNew cam owned).camera c k = some b ↔
      r.camera c k = some b ∨ client = c ∧ cam = k ∧ r.camera c k = none ∧ b = owned := by
  rw [camera_updateCameras, Library.OrdMap.getElem?_emplace]
  by_cases hc : client = c
  · by_cases hk : cam = k
    · cases h : r.camera c k with
      | none =>
        have h : (r.cameras c)[k]? = none := h
        simp [hc, hk, h, eq_comm]
      | some b' =>
        have h : (r.cameras c)[k]? = some b' := h
        simp [hc, hk, h]
    · simp [hc, hk, camera]
  · simp [hc]

theorem camera_erase {b : Bool} :
    (r.updateCameras client fun cs => cs.erase cam).camera c k = some b ↔
      r.camera c k = some b ∧ ¬ (client = c ∧ cam = k) := by
  rw [camera_updateCameras, Std.ExtTreeMap.getElem?_erase]
  by_cases hc : client = c <;> by_cases hk : cam = k <;> simp [hc, hk, camera]

theorem camera_touched : (r.updateCameras client id).camera c k = r.camera c k := by
  rw [camera_updateCameras]
  split <;> rfl

theorem camera_registerClient : (r.registerClient client).camera c k = r.camera c k := by
  unfold registerClient
  split
  · rfl
  · simp only [camera, cameras, Library.OrdMap.getElem?_emplace]
    split <;> simp_all

/-- Every camera has at most one owner. -/
def OwnerUnique (r : RecorderImpl) : Prop :=
  ∀ cam c c', r.camera c cam = some true → r.camera c' cam = some true → c = c'

/-- A camera is used in slave mode only while another client owns it. -/
def SlaveHasOwner (r : RecorderImpl) : Prop :=
  ∀ cam c, r.camera c cam = some false → ∃ c', c' ≠ c ∧ r.camera c' cam = some true

/-- Both facts depend on the camera entries only. -/
theorem ownerUnique_congr (h : ∀ c k, r'.camera c k = r.camera c k) (hu : OwnerUnique r) :
    OwnerUnique r' := by
  intro cam c c' hc hc'
  exact hu cam c c' (h c cam ▸ hc) (h c' cam ▸ hc')

theorem slaveHasOwner_congr (h : ∀ c k, r'.camera c k = r.camera c k) (hs : SlaveHasOwner r) :
    SlaveHasOwner r' := by
  intro cam c hc
  obtain ⟨c', hne, hc'⟩ := hs cam c (h c cam ▸ hc)
  exact ⟨c', hne, (h c' cam).trans hc'⟩

theorem isCameraOwned_eq_false (h : r.isCameraOwned client cam = false) :
    ∀ c, r.camera c cam = some true → c = client := by
  intro c hc
  by_contra hne
  have := isCameraOwned_iff.mpr ⟨c, hne, hc⟩
  simp [this] at h

theorem ownerUnique_edit (he : CameraEdit client cam r r') (hu : OwnerUnique r) :
    OwnerUnique r' := by
  cases he with
  | touched h =>
    subst h
    exact ownerUnique_congr (fun _ _ => camera_touched) hu
  | joined ho h =>
    subst h
    intro k c c' hc hc'
    rw [camera_emplace] at hc hc'
    have := hu k c c'
    grind
  | opened ho h =>
    subst h
    have hown := isCameraOwned_eq_false ho
    intro k c c' hc hc'
    rw [camera_emplace] at hc hc'
    have := hu k c c'
    grind
  | left ho h =>
    subst h
    intro k c c' hc hc'
    rw [camera_erase] at hc hc'
    have := hu k c c'
    grind
  | closed hs h =>
    subst h
    intro k c c' hc hc'
    rw [camera_erase] at hc hc'
    have := hu k c c'
    grind

theorem slaveHasOwner_edit (he : CameraEdit client cam r r') (hu : OwnerUnique r)
    (hs : SlaveHasOwner r) : SlaveHasOwner r' := by
  cases he with
  | touched h =>
    subst h
    exact slaveHasOwner_congr (fun _ _ => camera_touched) hs
  | joined ho h =>
    subst h
    obtain ⟨o, hne, ho⟩ := isCameraOwned_iff.mp ho
    intro k c hc
    simp only [camera_emplace] at hc ⊢
    have := hs k c
    grind
  | opened ho h =>
    subst h
    -- the client has no slave entry of its own: its owner would be another client
    have hown := isCameraOwned_eq_false ho
    intro k c hc
    simp only [camera_emplace] at hc ⊢
    have := hs k c
    grind
  | left ho h =>
    subst h
    obtain ⟨o, hne, ho⟩ := isCameraOwned_iff.mp ho
    intro k c hc
    simp only [camera_erase] at hc ⊢
    have hk := hs k c
    have hu := hu cam o
    grind
  | closed hn h =>
    subst h
    have hno : ∀ c, r.camera c cam ≠ some false := by
      intro c hc
      have := hasSlave_iff.mpr ⟨c, hc⟩
      simp [this] at hn
    intro k c hc
    simp only [camera_erase] at hc ⊢
    have := hs k c
    grind

theorem camera_removes (h : Removes client r r') :
    r'.camera c k = if client = c then none else r.camera c k := by
  simp only [camera, cameras, h.cameras, Std.ExtTreeMap.getElem?_erase]
  by_cases hc : client = c <;> simp [hc]

end RecorderImpl

namespace Service

open RecorderImpl

variable {s t : Service} {a : Request} {as : List Request} {r : RecorderImpl}

/-- Ownership is coherent: at most one owner, and an owner for every slave. -/
def CamerasCoherent (s : Service) : Prop :=
  ∀ r, s.recorder = some r → OwnerUnique r ∧ SlaveHasOwner r

/-- While others stay connected, a client owns a camera that somebody uses in slave mode. -/
def OwnsSharedCamera (s : Service) (client : UInt32) : Prop :=
  (∃ c ∈ s.remoteCbList, c ≠ client) ∧ ∃ r cam, s.recorder = some r ∧
    r.camera client cam = some true ∧ ∃ c, r.camera c cam = some false

/-- No client dies while it owns a shared camera. -/
def NoOwnerDeath (s : Service) (a : Request) : Prop :=
  ∀ client m, a = .clientDeath client m → client ∈ s.remoteCbList → ¬ OwnsSharedCamera s client

theorem slaveHasOwner_removes {r' : RecorderImpl} {client : UInt32}
    (hrem : Removes client r r') (hs : SlaveHasOwner r)
    (hn : ∀ cam, r.camera client cam = some true → ∀ c, r.camera c cam ≠ some false) :
    SlaveHasOwner r' := by
  intro cam c hc
  simp only [camera_removes hrem] at hc ⊢
  have hcam := hs cam c
  have hown := hn cam
  grind

theorem ownerUnique_removes {r' : RecorderImpl} {client : UInt32}
    (hrem : Removes client r r') (hu : OwnerUnique r) : OwnerUnique r' := by
  intro cam c c' hc hc'
  rw [camera_removes hrem] at hc hc'
  have := hu cam c c'
  grind

/-- What a departure leaves, given that a forced one does not remove the owner of a shared
camera. -/
theorem coherent_deRegisterClient {m : Media} {client : UInt32} {force : Bool} {st : Status}
    {r' : RecorderImpl} {remoteCb : UInt32 → Bool}
    (hd : r.deRegisterClient remoteCb m client force = .ok (st, r'))
    (hc : OwnerUnique r ∧ SlaveHasOwner r)
    (hn : force = true →
      ∀ cam, r.camera client cam = some true → ∀ c, r.camera c cam ≠ some false) :
    OwnerUnique r' ∧ SlaveHasOwner r' := by
  cases hv : r.isClientValid client with
  | false =>
    obtain rfl : r' = r := eq_of_ok (by simpa [deRegisterClient, hv] using hd)
    exact hc
  | true =>
    cases force with
    | true =>
      have hrem := removes_deRegisterClient hv hd
      exact ⟨ownerUnique_removes hrem hc.1, slaveHasOwner_removes hrem hc.2 (hn rfl)⟩
    | false =>
      have hsame := (deRegisterClient_voluntary hv hd).2
      exact ⟨ownerUnique_congr hsame hc.1, slaveHasOwner_congr hsame hc.2⟩

theorem camerasCoherent_step :
    (lts.guarded NoOwnerDeath).TrInv fun s => SameLists s ∧ CamerasCoherent s := by
  rintro s a t ⟨hstep, hguard⟩ ⟨hl, hs⟩
  refine ⟨sameLists_step _ _ _ hstep hl, ?_⟩
  cases step_effect hstep with
  | none ht => exact ht ▸ hs
  | joined ha ht =>
    subst ht
    intro r hr
    unfold connect at hr
    split at hr
    · exact hs r hr
    · obtain rfl := Option.some.inj hr
      have hold : OwnerUnique (s.recorder.getD {}) ∧ SlaveHasOwner (s.recorder.getD {}) := by
        cases hrec : s.recorder with
        | none => constructor <;> intro cam c <;> simp [camera, RecorderImpl.cameras]
        | some r => exact hs r hrec
      exact ⟨ownerUnique_congr (fun _ _ => camera_registerClient) hold.1,
        slaveHasOwner_congr (fun _ _ => camera_registerClient) hold.2⟩
  | @left client m force r r' st ha hr hc hd ht =>
    subst ht
    intro u hu
    have hother := exists_other_of_forget hl hu
    obtain rfl := recorder_forget hu
    refine coherent_deRegisterClient hd (hs r hr) ?_
    rintro rfl cam hcam c hslave
    have hdeath : ∃ m, a = .clientDeath client m := by
      cases a <;> simp_all [Request.Leaves]
    obtain ⟨m, rfl⟩ := hdeath
    exact hguard client m rfl hc ⟨hother, r, cam, hr, hcam, c, hslave⟩
  | @edited client r r' hr ht he hc =>
    subst ht
    intro u hu
    obtain rfl := Option.some.inj hu
    have hsame : ∀ c k, r'.camera c k = r.camera c k := by
      intro c k
      simp [camera, RecorderImpl.cameras, he.cameras]
    exact ⟨ownerUnique_congr hsame (hs r hr).1, slaveHasOwner_congr hsame (hs r hr).2⟩
  | @cameras client cam r r' hr ht hc he =>
    subst ht
    intro u hu
    obtain rfl := Option.some.inj hu
    have hr := hs r hr
    exact ⟨ownerUnique_edit he hr.1, slaveHasOwner_edit he hr.1 hr.2⟩

theorem camerasCoherent_initial : SameLists initial ∧ CamerasCoherent initial :=
  ⟨rfl, fun r hr => by simp [initial] at hr⟩

/-- Whatever the order of connects, starts, stops and departures, and whatever the media
back ends answer, ownership is coherent as long as no owner of a shared camera dies. -/
theorem camerasCoherent_of_noOwnerDeath
    (h : (lts.guarded NoOwnerDeath).MTr initial as t) : CamerasCoherent t :=
  (Library.LTS.inv_of_mTr camerasCoherent_step h camerasCoherent_initial).2

/-- After a run: client 2's flag for camera 0, and whether another client owns it. -/
def sharingAfter (as : List Request) : Option (Option Bool × Bool) := do
  let r ← (← Library.LTS.run next initial as).recorder
  return (r.camera 2 0, r.isCameraOwned 2 0)

theorem sharingAfter_eq_some {flag : Option Bool} {owned : Bool}
    (h : sharingAfter as = some (flag, owned)) :
    ∃ t r, lts.MTr initial as t ∧ t.recorder = some r ∧ r.camera 2 0 = flag ∧
      r.isCameraOwned 2 0 = owned := by
  simp only [sharingAfter, Option.bind_eq_bind, Option.pure_def, Option.bind_eq_some_iff,
    Option.some.injEq, Prod.mk.injEq] at h
  obtain ⟨t, hrun, r, hr, hflag, howned⟩ := h
  exact ⟨t, r, Library.LTS.mTr_ofStep_iff.mpr hrun, hr, hflag, howned⟩

/-- Client 1 owns camera 0 and client 2 uses it in slave mode. -/
def sharedRun : List Request :=
  [.connect .noError, .connect .noError, .startCamera 1 0 false {}, .startCamera 2 0 true {}]

theorem camerasCoherent_shared_camera :
    sharingAfter sharedRun = some (some false, true) ∧
      ∃ t, (lts.guarded NoOwnerDeath).MTr initial sharedRun t ∧ CamerasCoherent t := by
  have hshare : sharingAfter sharedRun = some (some false, true) := by decide
  obtain ⟨t, -, hrun, -⟩ := sharingAfter_eq_some hshare
  have hno : ∀ a ∈ sharedRun, ∀ s, NoOwnerDeath s a := by
    intro a ha s client m heq
    simp [sharedRun] at ha
    grind
  have hguard := Library.LTS.mTr_guarded_of_forall hrun hno
  exact ⟨hshare, t, hguard, camerasCoherent_of_noOwnerDeath hguard⟩

/-- The forced cleanup of client 1 removes its entry, while client 2 is still a slave. -/
theorem slave_stranded_by_owner_death :
    ¬ ∀ (as : List Request) (t : Service), lts.MTr initial as t → CamerasCoherent t := by
  intro hall
  have hshare : sharingAfter (sharedRun ++ [.clientDeath 1 {}]) = some (some false, false) := by
    decide
  obtain ⟨t, r, hrun, hr, hflag, howned⟩ := sharingAfter_eq_some hshare
  obtain ⟨c, hne, hc⟩ := (hall _ t hrun r hr).2 0 2 hflag
  exact hne (isCameraOwned_eq_false howned c hc)

end Service

end QmmfSdk.Recorder
