import Mathlib.Data.Bool.Basic
import QmmfSdk.Camera3.Life
import QmmfSdk.Camera3.RequestHandler

/-! The frame numbers in flight: when the requests of the two loops keep apart in one table. -/
namespace QmmfSdk.Camera3

open Library

namespace Camera

variable {cfg : Config} {s t : Camera} {a : Action} {as : List Action} {k : Bool} {n : UInt32}
  {r : CaptureRequest}

/-- No loop is about to submit a request whose frame number is pending. -/
def Fresh (s : Camera) : Prop :=
  ∀ r, s.held = some r ∨ s.heldReproc = some r → r.frameNumber ∉ s.client.pendingRequests

/-- What the loop for one kind of request has stamped and not yet submitted. -/
def heldOf (s : Camera) (k : Bool) : Option CaptureRequest := if k then s.heldReproc else s.held

/-- The number that the next request of a kind gets. -/
def nextNumber (s : Camera) (k : Bool) : UInt32 :=
  if k then s.handler.currentInputFrameNumber else s.handler.currentFrameNumber

/-- The kind of the pending request under a frame number. -/
def kindOf (s : Camera) (n : UInt32) : Option Bool := (DeviceClient.life n s.client).kind

theorem kindOf_eq_none : s.kindOf n = none ↔ n ∉ s.client.pendingRequests := by
  simp [kindOf, Life.kind, DeviceClient.life]

/-- The counter does not wrap, and no request of the other kind that is pending or about to be
submitted has the next number. -/
def canStamp (s : Camera) (k : Bool) : Bool :=
  (s.nextNumber k).toNat + 1 < 2 ^ 32 && s.kindOf (s.nextNumber k) != some !k &&
    (s.heldOf !k).all fun r => r.frameNumber != s.nextNumber k

/-- The steps that stamp a number meet no number of the other kind and do not wrap. -/
def keepsApart (s : Camera) : Action → Bool
  | .getRequest =>
    (s.handler.requests.isEmpty && s.handler.streamingRequests.isEmpty) || s.canStamp false
  | .nextReproc => s.handler.reprocRequests.isEmpty || s.canStamp true
  | .clear =>
    !s.handler.hasErrorCb || (s.nextNumber false).toNat + s.handler.requests.length < 2 ^ 32
  | _ => true

/-- Requests wait for the loop of their kind. -/
structure Routed (h : RequestHandler) : Prop where
  requests : ∀ r ∈ h.requests, r.input = false
  streaming : ∀ r ∈ h.streamingRequests, r.input = false
  reproc : ∀ r ∈ h.reprocRequests, r.input = true

/-- Numbers in use are below the counter of their kind, and those about to be submitted are used
by nothing else. -/
structure Numbered (s : Camera) : Prop where
  pending : ∀ n k, s.kindOf n = some k → n < s.nextNumber k
  held : ∀ k r, s.heldOf k = some r →
    r.input = k ∧ r.frameNumber < s.nextNumber k ∧ s.kindOf r.frameNumber = none
  apart : ∀ k r r', s.heldOf k = some r → s.heldOf (!k) = some r' → r.frameNumber ≠ r'.frameNumber
  routed : Routed s.handler

theorem Numbered.fresh (h : Numbered s) : Fresh s := by
  rintro r (hr | hr)
  · exact kindOf_eq_none.mp (h.held false r hr).2.2
  · exact kindOf_eq_none.mp (h.held true r hr).2.2

/-- Counters may grow and everything in use may go away. -/
theorem Numbered.mono (h : Numbered s) (hn : ∀ k, s.nextNumber k ≤ t.nextNumber k)
    (hkind : ∀ n, t.kindOf n = s.kindOf n ∨ t.kindOf n = none)
    (hheld : ∀ k, t.heldOf k = s.heldOf k ∨ t.heldOf k = none) (hrouted : Routed t.handler) :
    Numbered t := by
  have hold : ∀ k r, t.heldOf k = some r → s.heldOf k = some r := by
    intro k r hr
    rcases hheld k with heq | hnone
    · exact heq ▸ hr
    · simp [hnone] at hr
  refine ⟨fun n k hk => ?_, fun k r hr => ?_, fun k r r' hr hr' => ?_, hrouted⟩
  · rcases hkind n with heq | hnone
    · exact UInt32.lt_of_lt_of_le (h.pending n k (heq ▸ hk)) (hn k)
    · simp [hnone] at hk
  · obtain ⟨hinput, hlt, hfree⟩ := h.held k r (hold k r hr)
    refine ⟨hinput, UInt32.lt_of_lt_of_le hlt (hn k), ?_⟩
    rcases hkind r.frameNumber with heq | hnone
    · exact heq.trans hfree
    · exact hnone
  · exact h.apart k r r' (hold k r hr) (hold _ r' hr')

/-- A loop stamps the next number of its kind. -/
theorem numbered_stamp (h : Numbered s) (hfree : s.canStamp k = true) (hr : r.input = k)
    (hnum : r.frameNumber = s.nextNumber k) (hnext : t.nextNumber k = s.nextNumber k + 1)
    (hother : t.nextNumber (!k) = s.nextNumber (!k)) (hclient : t.client = s.client)
    (hheld : t.heldOf k = some r) (hheld' : t.heldOf (!k) = s.heldOf (!k))
    (hrouted : Routed t.handler) : Numbered t := by
  have hkind : ∀ n, t.kindOf n = s.kindOf n := fun n => by rw [kindOf, hclient, kindOf]
  simp only [canStamp, Bool.and_eq_true, decide_eq_true_eq, bne_iff_ne, ne_eq] at hfree
  obtain ⟨⟨hwrap, hcross⟩, hheldcross⟩ := hfree
  have hlt : s.nextNumber k < t.nextNumber k := hnext ▸ lt_next_frame hwrap
  -- the number is below its own counter in no pending request, and the other kind is excluded
  have hnone : s.kindOf (s.nextNumber k) = none := by
    cases hk : s.kindOf (s.nextNumber k) with
    | none => rfl
    | some j =>
      rcases Bool.eq_or_eq_not j k with rfl | rfl
      · exact absurd (h.pending _ _ hk) (UInt32.lt_irrefl _)
      · exact absurd hk hcross
  have hapart : ∀ r', s.heldOf (!k) = some r' → r'.frameNumber ≠ s.nextNumber k := by
    intro r' hr'
    simpa [hr'] using hheldcross
  refine ⟨fun n j hj => ?_, fun j r' hr' => ?_, fun j r₁ r₂ h₁ h₂ => ?_, hrouted⟩
  · rw [hkind] at hj
    rcases Bool.eq_or_eq_not j k with rfl | rfl
    · exact UInt32.lt_trans (h.pending n _ hj) hlt
    · exact hother ▸ h.pending n _ hj
  · rw [hkind]
    rcases Bool.eq_or_eq_not j k with rfl | rfl
    · obtain rfl : r = r' := Option.some.inj (hheld.symm.trans hr')
      exact ⟨hr, hnum ▸ hlt, hnum ▸ hnone⟩
    · rw [hother]
      exact h.held _ r' (hheld' ▸ hr')
  · rcases Bool.eq_or_eq_not j k with rfl | rfl
    · obtain rfl : r = r₁ := Option.some.inj (hheld.symm.trans h₁)
      exact hnum ▸ (hapart r₂ (hheld' ▸ h₂)).symm
    · rw [Bool.not_not] at h₂
      obtain rfl : r = r₂ := Option.some.inj (hheld.symm.trans h₂)
      exact hnum ▸ hapart r₁ (hheld' ▸ h₁)

/-- A loop registers what it has stamped. -/
theorem numbered_mark {numBuffers : Nat} (h : Numbered s) (hr : s.heldOf k = some r)
    (hclient : t.client = s.client.markPendingRequest r.frameNumber numBuffers r.resultExtras)
    (hnext : ∀ k, t.nextNumber k = s.nextNumber k) (hheld : t.heldOf k = none)
    (hheld' : t.heldOf (!k) = s.heldOf (!k)) (hrouted : Routed t.handler) : Numbered t := by
  obtain ⟨hinput, hlt, -⟩ := h.held k r hr
  have hkind : ∀ n, t.kindOf n = if r.frameNumber = n then some k else s.kindOf n := by
    intro n
    rw [kindOf, hclient, DeviceClient.markPendingRequest, DeviceClient.life_setPending]
    unfold DeviceClient.onFrame
    split
    · rw [← hinput]
      rfl
    · rfl
  have hold : ∀ j r', t.heldOf j = some r' → j = (!k) ∧ s.heldOf (!k) = some r' := by
    intro j r' hr'
    rcases Bool.eq_or_eq_not j k with rfl | rfl
    · simp [hheld] at hr'
    · exact ⟨rfl, hheld' ▸ hr'⟩
  refine ⟨fun n j hj => ?_, fun j r' hr' => ?_, fun j r₁ r₂ h₁ h₂ => ?_, hrouted⟩
  · rw [hnext]
    rw [hkind] at hj
    split at hj
    next heq =>
      obtain rfl := Option.some.inj hj
      exact heq ▸ hlt
    · exact h.pending n j hj
  · obtain ⟨rfl, hs⟩ := hold j r' hr'
    obtain ⟨hinput', hlt', hnone⟩ := h.held _ r' hs
    rw [hnext, hkind, if_neg (h.apart k r r' hr hs)]
    exact ⟨hinput', hlt', hnone⟩
  · obtain ⟨rfl, -⟩ := hold j r₁ h₁
    rw [Bool.not_not, hheld] at h₂
    simp at h₂

section Handler

variable {h d : RequestHandler} {rs : List CaptureRequest} {streaming : Bool}

theorem addRequestList_spec (hr : Routed h) (hadd : h.addRequestList rs streaming = some d) :
    Routed d ∧ d.currentFrameNumber = h.currentFrameNumber ∧
      d.currentInputFrameNumber = h.currentInputFrameNumber := by
  have hplain : ∀ r ∈ rs.filter fun r => !r.input, r.input = false := by
    intro r hmem
    simpa using (List.mem_filter.mp hmem).2
  have hreproc : ∀ r ∈ rs.filter CaptureRequest.input, r.input = true := by
    intro r hmem
    exact (List.mem_filter.mp hmem).2
  unfold RequestHandler.addRequestList at hadd
  dsimp only at hadd
  split at hadd
  · obtain rfl := Option.some.inj hadd
    exact ⟨hr, rfl, rfl⟩
  split at hadd
  · unfold RequestHandler.queueReprocRequestList at hadd
    split at hadd
    · simp at hadd
    · obtain rfl := Option.some.inj hadd
      refine ⟨⟨hr.requests, hr.streaming, fun r hmem => ?_⟩, rfl, rfl⟩
      exact (List.mem_append.mp hmem).elim (hr.reproc r) (hreproc r)
  split at hadd
  · obtain rfl := Option.some.inj hadd
    exact ⟨⟨hr.requests, hplain, hr.reproc⟩, rfl, rfl⟩
  · obtain rfl := Option.some.inj hadd
    refine ⟨⟨fun r hmem => ?_, hr.streaming, hr.reproc⟩, rfl, rfl⟩
    exact (List.mem_append.mp hmem).elim (hr.requests r) (hplain r)

/-- The normal loop takes a request of its kind, if there is one, under its own counter. -/
theorem getRequest_cases (hr : Routed h) :
    (h.requests = [] ∧ h.streamingRequests = [] ∧ h.getRequest = (none, h)) ∨
      ∃ (r : CaptureRequest) (rest : List CaptureRequest), r.input = false ∧
        (∀ x ∈ rest, x.input = false) ∧
        ¬ (h.requests = [] ∧ h.streamingRequests = []) ∧
        h.getRequest = (some (r.stamp h.currentFrameNumber),
          { h with requests := rest, currentFrameNumber := h.currentFrameNumber + 1 }) := by
  unfold RequestHandler.getRequest
  cases hq : h.requests with
  | nil =>
    cases hs : h.streamingRequests with
    | nil => exact .inl ⟨rfl, rfl, rfl⟩
    | cons r rest =>
      have hkind := hr.streaming
      rw [hs] at hkind
      exact .inr ⟨r, rest, hkind r (by simp), fun x hx => hkind x (by simp [hx]), by simp, rfl⟩
  | cons r rest =>
    have hkind := hr.requests
    rw [hq] at hkind
    have hfind : (r :: rest).find? CaptureRequest.input = none := by
      simpa [List.find?_eq_none] using hkind
    refine .inr ⟨r, rest, hkind r (by simp), fun x hx => hkind x (by simp [hx]), by simp, ?_⟩
    simp only [hfind]

end Handler

theorem numbered_clear (h : Numbered s) (hguard : s.keepsApart .clear = true) :
    Numbered { s with handler := s.handler.clear } := by
  refine h.mono (fun k => ?_) (fun n => .inl rfl) (fun k => .inl rfl)
    ⟨by simp [RequestHandler.clear], by simp [RequestHandler.clear], h.routed.reproc⟩
  cases k with
  | true => exact UInt32.le_refl _
  | false =>
    simp only [nextNumber, RequestHandler.clear, Bool.false_eq_true, if_false]
    split
    next hcb =>
      have hlt : s.handler.currentFrameNumber.toNat + s.handler.requests.length < 2 ^ 32 := by
        simpa [keepsApart, hcb, nextNumber] using hguard
      have hlen : (UInt32.ofNat s.handler.requests.length).toNat = s.handler.requests.length :=
        UInt32.toNat_ofNat_of_lt' (show _ < 2 ^ 32 by omega)
      rw [UInt32.le_iff_toNat_le, UInt32.toNat_add, hlen, Nat.mod_eq_of_lt hlt]
      omega
    · exact UInt32.le_refl _

/-- A loop submits what it has stamped, whatever becomes of it. -/
theorem numbered_submit {inBuf : Bool} {o : Submission} (h : Numbered s) (hr : s.heldOf k = some r)
    (hclient : t.client = submitRequest s.client r inBuf o)
    (hnext : ∀ k, t.nextNumber k = s.nextNumber k) (hheld : t.heldOf k = none)
    (hheld' : t.heldOf (!k) = s.heldOf (!k)) (hrouted : Routed t.handler) : Numbered t := by
  unfold submitRequest at hclient
  split at hclient
  · exact numbered_mark h hr hclient hnext hheld hheld' hrouted
  · refine h.mono (fun j => hnext j ▸ UInt32.le_refl _) (fun n => ?_) (fun j => ?_) hrouted
    · exact .inl (by rw [kindOf, hclient, kindOf])
    · rcases Bool.eq_or_eq_not j k with rfl | rfl
      · exact .inr hheld
      · exact .inl hheld'

theorem numbered_step (h : Numbered s) (hguard : s.keepsApart a = true)
    (hstep : s.step cfg a = some t) : Numbered t := by
  cases a with
  | addRequestList rs streaming =>
    obtain ⟨d, hadd, hd⟩ := Option.bind_eq_some_iff.mp hstep
    obtain rfl := Option.some.inj hd
    obtain ⟨hrouted, hcur, hin⟩ := addRequestList_spec h.routed hadd
    refine h.mono (fun k => ?_) (fun n => .inl rfl) (fun k => .inl rfl) hrouted
    cases k <;> simp [nextNumber, hcur, hin]
  | clearRepeatingRequests =>
    obtain rfl := Option.some.inj hstep
    exact h.mono (fun k => UInt32.le_refl _) (fun n => .inl rfl) (fun k => .inl rfl)
      ⟨h.routed.requests, by simp [RequestHandler.clearRepeatingRequests], h.routed.reproc⟩
  | clear =>
    obtain rfl := Option.some.inj hstep
    exact numbered_clear h hguard
  | getRequest =>
    simp only [step] at hstep
    split at hstep
    · simp at hstep
    next hidle =>
    have hnone : s.held = none := by simpa using hidle
    obtain rfl := Option.some.inj hstep
    rcases getRequest_cases h.routed with ⟨-, -, hget⟩ | ⟨r, rest, hin, hrest, hsome, hget⟩
    · rw [hget, ← hnone]
      exact h
    · have hfree : s.canStamp false = true := by
        simpa [keepsApart, hsome] using hguard
      rw [hget]
      exact numbered_stamp h hfree (r := r.stamp s.handler.currentFrameNumber) hin
        rfl rfl rfl rfl rfl rfl ⟨hrest, h.routed.streaming, h.routed.reproc⟩
  | exitPending =>
    obtain rfl := Option.some.inj hstep
    refine h.mono (fun k => UInt32.le_refl _) (fun n => .inl rfl) (fun k => ?_) h.routed
    cases k
    · exact .inr rfl
    · exact .inl rfl
  | submitRequest o =>
    obtain ⟨r, hr, ht⟩ := Option.bind_eq_some_iff.mp hstep
    obtain rfl := Option.some.inj ht
    exact numbered_submit (k := false) h hr rfl (fun k => rfl) rfl rfl h.routed
  | nextReproc =>
    simp only [step] at hstep
    split at hstep
    · simp at hstep
    next hidle =>
    have hnone : s.heldReproc = none := by simpa using hidle
    obtain rfl := Option.some.inj hstep
    unfold RequestHandler.nextReproc
    cases hq : s.handler.reprocRequests with
    | nil =>
      dsimp only
      rw [← hnone]
      exact h
    | cons r rest =>
      have hfree : s.canStamp true = true := by simpa [keepsApart, hq] using hguard
      have hkind := h.routed.reproc
      rw [hq] at hkind
      exact numbered_stamp h hfree (r := r.stamp s.handler.currentInputFrameNumber)
        (hkind r (by simp)) rfl rfl rfl rfl rfl rfl
        ⟨h.routed.requests, h.routed.streaming, fun x hx => hkind x (by simp [hx])⟩
  | submitReproc o =>
    obtain ⟨r, hr, ht⟩ := Option.bind_eq_some_iff.mp hstep
    obtain rfl := Option.some.inj ht
    exact numbered_submit (k := true) h hr rfl (fun k => by cases k <;> rfl) rfl rfl
      ⟨h.routed.requests, h.routed.streaming, h.routed.reproc⟩
  | hal e =>
    simp only [step] at hstep
    split at hstep
    · simp at hstep
    next hmark =>
      obtain rfl := Option.some.inj hstep
      exact h.mono (fun k => UInt32.le_refl _)
        (fun n => DeviceClient.kind_step (by simpa using hmark)) (fun k => .inl rfl) h.routed

theorem numbered_initial : Numbered {} where
  pending n k hk := by simp [kindOf, Life.kind, DeviceClient.life] at hk
  held k r hr := by cases k <;> simp [heldOf] at hr
  apart k r r' hr := by cases k <;> simp [heldOf] at hr
  routed := ⟨by simp, by simp, by simp⟩

/-- In every run in which no number is stamped while a request of the other kind uses it, and no
counter wraps, the loops only submit numbers that are not pending. -/
theorem fresh_of_keepsApart (cfg : Config) (as : List Action) (t : Camera)
    (h : ((lts cfg).guarded fun s a => s.keepsApart a = true).MTr {} as t) : Fresh t := by
  have hinv : ((lts cfg).guarded fun s a => s.keepsApart a = true).TrInv Numbered :=
    fun s a t hstep hs => numbered_step hs hstep.2 hstep.1
  exact (LTS.inv_of_mTr hinv h numbered_initial).fresh

/-- A request with one output stream. -/
def oneStream (input : Bool) : CaptureRequest := ⟨[0], { input := input }⟩

/-- Two normal requests, of which the first completes before a reprocess request takes its
number. -/
def reusedNumberRun : List Action :=
  [.addRequestList [oneStream false, oneStream false] false, .getRequest, .submitRequest .accepted,
    .hal (.shutter 0 5 true),
    .hal (.result { frameNumber := 0, result := some { sensorTimestamps := [5] },
                    partialResult := 1, outputBuffers := [⟨1, 0, false⟩] } true),
    .getRequest, .submitRequest .accepted, .addRequestList [oneStream true] false, .nextReproc]

theorem fresh_reused_number :
    ((LTS.run (step {}) {} reusedNumberRun).bind fun t =>
        t.heldReproc.map CaptureRequest.frameNumber) = some 0 ∧
      ∃ t, ((lts {}).guarded fun s a => s.keepsApart a = true).MTr {} reusedNumberRun t ∧
        Fresh t := by
  have hheld : ((LTS.run (step {}) {} reusedNumberRun).bind fun t =>
      t.heldReproc.map CaptureRequest.frameNumber) = some 0 := by decide
  obtain ⟨t, hrun, -⟩ := Option.bind_eq_some_iff.mp hheld
  have hguard : ((lts {}).guarded fun s a => s.keepsApart a = true).MTr {} reusedNumberRun t :=
    LTS.mTr_guarded_iff.mpr ⟨hrun, by decide⟩
  exact ⟨hheld, t, hguard, fresh_of_keepsApart {} reusedNumberRun t hguard⟩

/-- A normal request is in flight when the first reprocess request is stamped. -/
def crossingRun : List Action :=
  [.addRequestList [oneStream false] false, .getRequest, .submitRequest .accepted,
    .addRequestList [oneStream true] false, .nextReproc]

/-- Both counters start at 0, so the first reprocess request takes the number of a pending normal
one. -/
theorem reprocess_overwrites_pending :
    ¬ ∀ (cfg : Config) (as : List Action) (t : Camera), (lts cfg).MTr {} as t → Fresh t := by
  intro hall
  have hclash : ((LTS.run (step {}) {} crossingRun).bind fun t => t.heldReproc.bind fun r =>
      some (t.client.pendingRequests.contains r.frameNumber)) = some true := by decide
  obtain ⟨t, hrun, hr⟩ := Option.bind_eq_some_iff.mp hclash
  obtain ⟨r, hheld, hmem⟩ := Option.bind_eq_some_iff.mp hr
  have hfresh := hall {} crossingRun t (LTS.mTr_ofStep_iff.mpr hrun) r (.inr hheld)
  exact hfresh (Std.ExtTreeMap.contains_iff_mem.mp (Option.some.inj hmem))

end Camera

end QmmfSdk.Camera3
