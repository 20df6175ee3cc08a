import Mathlib.Logic.Function.Iterate
import QmmfSdk.Camera3.RequestHandler
import QmmfSdk.Memory.Usage

/-! The usage words of the streams of a request, through `SubmitRequest` in a GBM build. -/
namespace QmmfSdk.Camera3

open Library.FlagTable Memory

namespace StreamUsage

variable {g : GbmFlags} {usage : Nat → Usage} {r : CaptureRequest} {streams : List Nat}
  {f : Usage → Usage} {x : Nat}

/-- `streams[i]->usage = f(streams[i]->usage)` for each stream of the request in turn. -/
def convert (f : Usage → Usage) (usage : Nat → Usage) (streams : List Nat) : Nat → Usage :=
  streams.foldl (fun usage x => Function.update usage x (f (usage x))) usage

/-- The usage words that `SubmitRequest` leaves: the exits after the first conversion do not make
the second. -/
def submitRequest (g : GbmFlags) (usage : Nat → Usage) (r : CaptureRequest) (o : Submission) :
    Nat → Usage :=
  match o with
  | .noBuffer | .noDevice => usage
  | .notRegistered | .refused => convert g.localToGralloc usage r.streams
  | .accepted =>
    convert g.grallocToLocal (convert g.localToGralloc usage r.streams) r.streams

/-- Each time that a stream is listed its word is converted once more. -/
theorem convert_apply : convert f usage streams x = f^[streams.count x] (usage x) := by
  induction streams generalizing usage with
  | nil => rfl
  | cons y streams ih =>
    change convert f (Function.update usage y (f (usage y))) streams x = _
    rw [ih]
    by_cases h : x = y
    · subst h
      simp [Function.iterate_succ_apply]
    · simp [h, Ne.symm h]

/-- When a submission leaves the words alone: no conversion is made; or the words are the same in
both vocabularies and the submission fails; or it is accepted and no word names a heap. A stream that
is listed several times is to keep its word through as many conversions. -/
def KeepsUsage (g : GbmFlags) (usage : Nat → Usage) (r : CaptureRequest) (o : Submission) : Prop :=
  match o with
  | .noBuffer | .noDevice => True
  | .notRegistered | .refused =>
    ∀ x ∈ r.streams, g.localToGralloc^[r.streams.count x] (usage x) = usage x
  | .accepted => ∀ x ∈ r.streams,
    if r.streams.count x = 1 then ∀ f, GbmFlags.IsHeap f → ¬ Hits (g.word f) (usage x)
    else g.grallocToLocal^[r.streams.count x]
      (g.localToGralloc^[r.streams.count x] (usage x)) = usage x

/-- Every usage word is the same after a submission exactly when the request and its outcome are
such. -/
theorem submitRequest_eq_iff {o : Submission}
    (hlocal : ∀ x ∈ r.streams, ∃ common, usage x = g.toLocal common) :
    (∀ x, submitRequest g usage r o x = usage x) ↔ KeepsUsage g usage r o := by
  have hunlisted : ∀ x, x ∉ r.streams → r.streams.count x = 0 := fun x hx =>
    List.count_eq_zero.mpr hx
  cases o with
  | noBuffer => exact iff_of_true (fun x => rfl) trivial
  | noDevice => exact iff_of_true (fun x => rfl) trivial
  | notRegistered | refused =>
    simp only [submitRequest, KeepsUsage, convert_apply]
    refine ⟨fun h x _ => h x, fun h x => ?_⟩
    by_cases hx : x ∈ r.streams
    · exact h x hx
    · rw [hunlisted x hx]
      rfl
  | accepted =>
    simp only [submitRequest, KeepsUsage, convert_apply]
    have honce : ∀ x ∈ r.streams, r.streams.count x = 1 →
        (g.grallocToLocal^[r.streams.count x] (g.localToGralloc^[r.streams.count x] (usage x)) =
          usage x ↔ ∀ f, GbmFlags.IsHeap f → ¬ Hits (g.word f) (usage x)) := by
      intro x hx hcount
      obtain ⟨common, hcommon⟩ := hlocal x hx
      rw [hcount, hcommon]
      exact GbmFlags.grallocToLocal_localToGralloc_iff
    constructor
    · intro h x hx
      split
      next hcount => exact (honce x hx hcount).mp (h x)
      next => exact h x
    · intro h x
      by_cases hx : x ∈ r.streams
      · have hkeep := h x hx
        split at hkeep
        next hcount => exact (honce x hx hcount).mpr hkeep
        next => exact hkeep
      · rw [hunlisted x hx]
        rfl

/-- Two streams that the camera writes and the encoder reads. -/
theorem submitRequest_keeps_encoder_streams : submitRequest .consecutive
    (fun _ => GbmFlags.consecutive.toLocal 0x4100) { resultExtras := {}, streams := [0, 1] }
      .accepted = fun _ => GbmFlags.consecutive.toLocal 0x4100 := by
  refine funext ((submitRequest_eq_iff fun _ _ => ⟨0x4100, rfl⟩).mpr fun x hx => ?_)
  have hcount : [0, 1].count x = 1 := by
    obtain rfl | rfl : x = 0 ∨ x = 1 := by simpa using hx
    · rfl
    · rfl
  have hheap : ∀ f, GbmFlags.IsHeap f →
      ¬ Hits (GbmFlags.consecutive.word f) (GbmFlags.consecutive.toLocal 0x4100) := by
    rintro f (rfl | rfl) <;> decide
  rw [if_pos hcount]
  exact hheap

/-- A stream in the multimedia heap loses the heap with its first request. -/
theorem submitRequest_loses_heap : ¬ ∀ (g : GbmFlags) (usage : Nat → Usage) (r : CaptureRequest)
    (o : Submission), (∀ x ∈ r.streams, ∃ common, usage x = g.toLocal common) →
      ∀ x, submitRequest g usage r o x = usage x := by
  intro h
  have hkeep := h .consecutive (fun _ => GbmFlags.consecutive.toLocal IMemAllocUsage.kPrivateMmHeap)
    { resultExtras := {}, streams := [0] } .accepted (fun _ _ => ⟨_, rfl⟩) 0
  revert hkeep
  decide

end StreamUsage

end QmmfSdk.Camera3
