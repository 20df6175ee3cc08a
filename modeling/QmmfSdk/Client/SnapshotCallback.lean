import QmmfSdk.Library.Transition

/-! `CaptureImage` of `RecorderClient` and the one-way snapshot notifications, which the client takes
without the lock that the call holds. -/
namespace QmmfSdk.Client

open Library

universe u

/-- A `CaptureImage` call that the service has got. The callback may be an empty function. -/
structure Capture (κ : Type u) where
  cameraId : UInt32
  cb : Option κ
  deriving DecidableEq, Repr

/-- A snapshot notification, and the capture that has caused it. -/
structure SnapshotData where
  capture : Nat
  imageSequenceCount : UInt32
  ionFd : Int
  bufferId : UInt32
  deriving DecidableEq, Repr

/-- A callback that was called for a notification. -/
structure Delivery (κ : Type u) where
  data : SnapshotData
  cameraId : UInt32
  cb : κ
  deriving DecidableEq, Repr

/-- `waiting` is the call that holds `lock_` until the service has answered, `arriving` are the
notifications between the assertions and the callback, `lost` those that are not passed on. `aborted`
is a failed assertion, or the call of an empty function. -/
structure SnapshotClient (κ : Type u) where
  imageCaptureCb : Option κ := none
  captures : List (Capture κ) := []
  waiting : Option Nat := none
  arriving : List SnapshotData := []
  snapshotBuffers : List Int := []
  delivered : List (Delivery κ) := []
  lost : List SnapshotData := []
  aborted : Bool := false
  returned : Option Nat := none

namespace SnapshotClient

/-- What the client's threads do: the two ends of `CaptureImage`, and `NotifySnapshotData` up to the
callback and from there on. -/
inductive Action (κ : Type u) where
  | captureImage (capture : Capture κ)
  | captureImageReturns
  | notifySnapshotData (data : SnapshotData) (mapped : Bool)
  | imageCaptureCb (i : Nat)
  deriving DecidableEq, Repr

variable {κ : Type u}

/-- The service has the request, and may notify from now on. -/
def captureImage (s : SnapshotClient κ) (capture : Capture κ) : SnapshotClient κ :=
  { s with captures := s.captures ++ [capture], waiting := some s.captures.length }

/-- The callback is stored when the service has answered, whatever it has answered. -/
def captureImageReturns (s : SnapshotClient κ) (k : Nat) : SnapshotClient κ :=
  { s with
    imageCaptureCb := (s.captures[k]?).bind Capture.cb
    waiting := none
    returned := some k }

def notifySnapshotData (s : SnapshotClient κ) (data : SnapshotData) (mapped : Bool) :
    SnapshotClient κ :=
  if s.imageCaptureCb.isNone ∨ ¬ 0 < data.ionFd ∨ ¬ 0 < data.bufferId then { s with aborted := true }
  else if !mapped then { s with lost := s.lost ++ [data] }
  else { s with
    snapshotBuffers := if data.ionFd ∈ s.snapshotBuffers then s.snapshotBuffers
      else s.snapshotBuffers ++ [data.ionFd]
    arriving := s.arriving ++ [data] }

/-- The callback that is called is the one that is stored by now. -/
def callImageCaptureCb (s : SnapshotClient κ) (i : Nat) (data : SnapshotData)
    (capture : Capture κ) : SnapshotClient κ :=
  let s := { s with arriving := s.arriving.eraseIdx i }
  match s.imageCaptureCb with
  | none => { s with aborted := true }
  | some cb => { s with delivered := s.delivered ++ [⟨data, capture.cameraId, cb⟩] }

/-- `none` is a step that is not enabled: one call at a time has the lock, and only captures that the
service knows are notified. An aborted client takes no step. -/
def step (s : SnapshotClient κ) (a : Action κ) : Option (SnapshotClient κ) :=
  if s.aborted then none
  else
    match a with
    | .captureImage capture => if s.waiting.isSome then none else some (s.captureImage capture)
    | .captureImageReturns => s.waiting.map s.captureImageReturns
    | .notifySnapshotData data mapped =>
      if data.capture < s.captures.length then some (s.notifySnapshotData data mapped) else none
    | .imageCaptureCb i =>
      match s.arriving[i]? with
      | none => none
      | some data => (s.captures[data.capture]?).map (s.callImageCaptureCb i data)

/-- The callback of a capture. -/
def cbOf (s : SnapshotClient κ) (k : Nat) : Option κ := (s.captures[k]?).bind Capture.cb

/-- Every notification that was dealt with has reached the callback of its capture. -/
structure Delivers (s : SnapshotClient κ) : Prop where
  aborted : s.aborted = false
  lost : s.lost = []
  delivered : ∀ d ∈ s.delivered, s.cbOf d.data.capture = some d.cb

/-- Along a run of the client's threads. -/
def AllDelivered (actions : List (Action κ)) : Prop :=
  ∀ before after s, actions = before ++ after → LTS.run step {} before = some s → s.Delivers

/-- A notification comes after a call with a callback has returned, with a descriptor and an id, and is
mapped; and it gets to the callback when the last call to return was its own, or one with the same
callback. -/
def Ordered (s : SnapshotClient κ) : Action κ → Prop
  | .captureImage _ | .captureImageReturns => True
  | .notifySnapshotData data mapped =>
    (∃ k ∈ s.returned, s.cbOf k ≠ none) ∧ 0 < data.ionFd ∧ 0 < data.bufferId ∧ mapped = true
  | .imageCaptureCb i =>
    ∃ data ∈ s.arriving[i]?, ∃ k ∈ s.returned, s.cbOf k ≠ none ∧ s.cbOf k = s.cbOf data.capture

instance [DecidableEq κ] (s : SnapshotClient κ) (a : Action κ) : Decidable (s.Ordered a) :=
  match a with
  | .captureImage _ | .captureImageReturns => .isTrue trivial
  | .notifySnapshotData data mapped => inferInstanceAs (Decidable
      ((∃ k ∈ s.returned, s.cbOf k ≠ none) ∧ 0 < data.ionFd ∧ 0 < data.bufferId ∧ mapped = true))
  | .imageCaptureCb i => inferInstanceAs (Decidable (∃ data ∈ s.arriving[i]?, ∃ k ∈ s.returned,
      s.cbOf k ≠ none ∧ s.cbOf k = s.cbOf data.capture))

variable {s t : SnapshotClient κ} {a : Action κ}

/-- The stored callback is that of the last call that has returned. -/
structure Stored (s : SnapshotClient κ) : Prop where
  cb : s.imageCaptureCb = s.returned.bind s.cbOf
  waiting : ∀ k ∈ s.waiting, k < s.captures.length
  returned : ∀ k ∈ s.returned, k < s.captures.length
  delivered : ∀ d ∈ s.delivered, d.data.capture < s.captures.length

theorem cbOf_captureImage {capture : Capture κ} {k : Nat} (hk : k < s.captures.length) :
    (s.captureImage capture).cbOf k = s.cbOf k := by
  simp only [cbOf, captureImage]
  rw [List.getElem?_append_left hk]

theorem stored_captureImage {capture : Capture κ} (h : s.Stored) :
    (s.captureImage capture).Stored := by
  have hlength : (s.captureImage capture).captures.length = s.captures.length + 1 := by
    simp [captureImage]
  refine ⟨?_, ?_, ?_, ?_⟩
  · change s.imageCaptureCb = s.returned.bind (s.captureImage capture).cbOf
    rw [h.cb]
    cases hr : s.returned with
    | none => rfl
    | some k => exact (cbOf_captureImage (h.returned k hr)).symm
  · intro k hk
    obtain rfl := Option.some.inj hk
    omega
  · intro k hk
    have := h.returned k hk
    omega
  · intro d hd
    have := h.delivered d hd
    omega

theorem delivers_captureImage {capture : Capture κ} (h : s.Stored) (hd : s.Delivers) :
    (s.captureImage capture).Delivers := by
  refine ⟨hd.aborted, hd.lost, fun d hmem => ?_⟩
  rw [cbOf_captureImage (h.delivered d hmem)]
  exact hd.delivered d hmem

theorem isNone_imageCaptureCb (h : s.Stored) :
    s.imageCaptureCb.isNone = true ↔ ¬ ∃ k ∈ s.returned, s.cbOf k ≠ none := by
  rw [h.cb]
  cases hr : s.returned with
  | none => simp
  | some k => simp

/-- A notification is taken on when it is in order; else it is lost, or the client is. -/
theorem notifySnapshotData_iff {data : SnapshotData} {mapped : Bool} (h : s.Stored)
    (hd : s.Delivers) : (s.notifySnapshotData data mapped).Delivers ↔
      s.Ordered (.notifySnapshotData data mapped) := by
  unfold notifySnapshotData
  split
  next hassert =>
    refine iff_of_false (fun hbad => ?_) ?_
    · have habort := hbad.aborted
      cases habort
    · rintro ⟨hcb, hfd, hid, -⟩
      rw [isNone_imageCaptureCb h] at hassert
      rcases hassert with hnone | hnone | hnone
      · exact hnone hcb
      · exact hnone hfd
      · exact hnone hid
  next hassert =>
    simp only [not_or, not_not] at hassert
    obtain ⟨hcb, hfd, hid⟩ := hassert
    rw [isNone_imageCaptureCb h, not_not] at hcb
    cases mapped with
    | false =>
      refine iff_of_false (fun hbad => ?_) ?_
      · have hlost := hbad.lost
        simp at hlost
      · rintro ⟨-, -, -, hmapped⟩
        cases hmapped
    | true => exact iff_of_true ⟨hd.aborted, hd.lost, hd.delivered⟩ ⟨hcb, hfd, hid, rfl⟩

/-- The callback that is called is the right one when the notification's own call, or one with its
callback, was the last to return. -/
theorem callImageCaptureCb_iff {i : Nat} {data : SnapshotData} {capture : Capture κ} (h : s.Stored)
    (hd : s.Delivers) (hdata : s.arriving[i]? = some data)
    (hcapture : s.captures[data.capture]? = some capture) :
    (s.callImageCaptureCb i data capture).Delivers ↔ s.Ordered (.imageCaptureCb i) := by
  have hown : s.cbOf data.capture = capture.cb := by simp [cbOf, hcapture]
  simp only [Ordered, hdata, Option.mem_def, Option.some.injEq, exists_eq_left']
  unfold callImageCaptureCb
  have hcb := h.cb
  cases hr : s.returned with
  | none =>
    rw [hr] at hcb
    have hnone : s.imageCaptureCb = none := hcb
    refine iff_of_false (fun hbad => ?_) (by simp)
    simp only [hnone] at hbad
    exact absurd hbad.aborted (by simp)
  | some k =>
    rw [hr] at hcb
    have hlast : s.imageCaptureCb = s.cbOf k := hcb
    simp only [Option.some.injEq, exists_eq_left']
    cases hk : s.cbOf k with
    | none =>
      rw [hk] at hlast
      refine iff_of_false (fun hbad => ?_) (by simp)
      simp only [hlast] at hbad
      exact absurd hbad.aborted (by simp)
    | some cb =>
      rw [hk] at hlast
      simp only [hlast]
      constructor
      · intro hgood
        refine ⟨by simp, ?_⟩
        exact (hgood.delivered _ (List.mem_append_right _ (List.mem_singleton_self _))).symm
      · rintro ⟨-, hsame⟩
        refine ⟨hd.aborted, hd.lost, fun d hmem => ?_⟩
        rcases List.mem_append.mp hmem with hmem | hmem
        · exact hd.delivered d hmem
        · obtain rfl := List.mem_singleton.mp hmem
          exact hsame.symm

/-- The enabled steps, with what they lead to. -/
inductive Effect (s : SnapshotClient κ) : Action κ → SnapshotClient κ → Prop where
  | captureImage {capture : Capture κ} : Effect s (.captureImage capture) (s.captureImage capture)
  | captureImageReturns {k : Nat} (hk : s.waiting = some k) :
      Effect s .captureImageReturns (s.captureImageReturns k)
  | notifySnapshotData {data : SnapshotData} {mapped : Bool} :
      Effect s (.notifySnapshotData data mapped) (s.notifySnapshotData data mapped)
  | imageCaptureCb {i : Nat} {data : SnapshotData} {capture : Capture κ}
      (hdata : s.arriving[i]? = some data) (hcapture : s.captures[data.capture]? = some capture) :
      Effect s (.imageCaptureCb i) (s.callImageCaptureCb i data capture)

theorem step_effect (hstep : s.step a = some t) : Effect s a t := by
  unfold step at hstep
  split at hstep
  · cases hstep
  cases a with
  | captureImage capture =>
    dsimp only at hstep
    split at hstep
    · cases hstep
    · exact Option.some.inj hstep ▸ .captureImage
  | captureImageReturns =>
    obtain ⟨k, hk, rfl⟩ := Option.map_eq_some_iff.mp hstep
    exact .captureImageReturns hk
  | notifySnapshotData data mapped =>
    dsimp only at hstep
    split at hstep
    · exact Option.some.inj hstep ▸ .notifySnapshotData
    · cases hstep
  | imageCaptureCb i =>
    dsimp only at hstep
    split at hstep
    · cases hstep
    next data hdata =>
      obtain ⟨capture, hcapture, rfl⟩ := Option.map_eq_some_iff.mp hstep
      exact .imageCaptureCb hdata hcapture

theorem stored_step (h : s.Stored) (hstep : s.step a = some t) : t.Stored := by
  cases step_effect hstep with
  | captureImage => exact stored_captureImage h
  | captureImageReturns hk =>
    refine ⟨rfl, nofun, fun j hj => ?_, h.delivered⟩
    obtain rfl := Option.some.inj hj
    exact h.waiting _ hk
  | notifySnapshotData =>
    unfold notifySnapshotData
    split
    · exact ⟨h.cb, h.waiting, h.returned, h.delivered⟩
    split
    · exact ⟨h.cb, h.waiting, h.returned, h.delivered⟩
    · exact ⟨h.cb, h.waiting, h.returned, h.delivered⟩
  | imageCaptureCb hdata hcapture =>
    unfold callImageCaptureCb
    dsimp only
    split
    · exact ⟨h.cb, h.waiting, h.returned, h.delivered⟩
    · refine ⟨h.cb, h.waiting, h.returned, fun d hd => ?_⟩
      rcases List.mem_append.mp hd with hd | hd
      · exact h.delivered d hd
      · obtain rfl := List.mem_singleton.mp hd
        exact (List.getElem?_eq_some_iff.mp hcapture).1

theorem delivers_step_iff (h : s.Stored) (hd : s.Delivers) (hstep : s.step a = some t) :
    t.Delivers ↔ s.Ordered a := by
  cases step_effect hstep with
  | captureImage => exact iff_of_true (delivers_captureImage h hd) trivial
  | captureImageReturns => exact iff_of_true ⟨hd.aborted, hd.lost, hd.delivered⟩ trivial
  | notifySnapshotData => exact notifySnapshotData_iff h hd
  | imageCaptureCb hdata hcapture => exact callImageCaptureCb_iff h hd hdata hcapture

/-- In every run all notifications reach the callbacks of their captures just when each of them comes
in order. -/
theorem delivers_iff (actions : List (Action κ)) {t : SnapshotClient κ}
    (hrun : LTS.run step {} actions = some t) :
    AllDelivered actions ↔ LTS.Meets step Ordered ({} : SnapshotClient κ) actions := by
  have hinit : ({} : SnapshotClient κ).Stored := ⟨rfl, nofun, nofun, by simp⟩
  exact LTS.forall_prefix_iff_meets_of (P := fun s => s.Stored ∧ s.Delivers) (Q := Delivers)
    (fun _ h => h.2)
    (fun _ _ _ h hstep hG => ⟨stored_step h.1 hstep, (delivers_step_iff h.1 h.2 hstep).mpr hG⟩)
    (fun _ _ _ h hstep hQ => (delivers_step_iff h.1 h.2 hstep).mp hQ)
    ⟨hinit, rfl, rfl, by simp⟩ hrun

/-- The call has returned before its first snapshot comes. -/
def snapshotAfterReturn : List (Action Nat) :=
  [.captureImage ⟨0, some 7⟩, .captureImageReturns, .notifySnapshotData ⟨0, 0, 5, 1⟩ true,
    .imageCaptureCb 0]

theorem delivers_snapshotAfterReturn : AllDelivered snapshotAfterReturn :=
  (delivers_iff snapshotAfterReturn rfl).mpr (by decide)

/-- A notification that overtakes the answer to its call finds no callback. -/
theorem snapshot_overtakes_return : ¬ ∀ (actions : List (Action Nat)) (t : SnapshotClient Nat),
    LTS.run step {} actions = some t → AllDelivered actions := by
  intro h
  have haborted := (h [.captureImage ⟨0, some 7⟩, .notifySnapshotData ⟨0, 0, 5, 1⟩ true] _ rfl _ []
    _ (List.append_nil _).symm rfl).aborted
  exact absurd haborted (by decide)

end SnapshotClient

end QmmfSdk.Client
