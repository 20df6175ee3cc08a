import QmmfSdk.Camera3.DeviceClient

/-! The order in which complete results reach the client. -/
namespace QmmfSdk.Camera3

open Library

namespace DeviceClient

variable {cfg : Config} {c d : DeviceClient} {e : Event} {es : List Event} {frame : UInt32}
  {k updates : Bool}

/-- The frame numbers of the complete results reported so far, of one kind. -/
def finals (k : Bool) (c : DeviceClient) : List UInt32 :=
  (c.reports.filter fun p => !p.partialResult && p.input == k).map Report.frameNumber

/-- All that matters for the order: the expected frame number and what was reported. -/
def order (k : Bool) (c : DeviceClient) : UInt32 × List UInt32 := (c.nextResult k, c.finals k)

@[simp] theorem order_setPending {r : PendingRequest} :
    order k (c.setPending frame r) = order k c := rfl

@[simp] theorem order_editPending {f : PendingRequest → PendingRequest} :
    order k (c.editPending frame f) = order k c := by
  unfold editPending
  split <;> rfl

@[simp] theorem order_returnOutputBuffer {b : StreamBuffer} :
    order k (returnOutputBuffer frame c b) = order k c := by
  unfold returnOutputBuffer
  dsimp only
  split
  · exact order_editPending
  · rfl

@[simp] theorem order_returnOutputBuffers {bs : List StreamBuffer} :
    order k (c.returnOutputBuffers bs frame) = order k c := by
  unfold returnOutputBuffers
  induction bs generalizing c with
  | nil => rfl
  | cons b bs ih => rw [List.foldl_cons, ih, order_returnOutputBuffer]

@[simp] theorem order_removePendingRequestLocked :
    order k (c.removePendingRequestLocked frame) = order k c := by
  unfold removePendingRequestLocked
  split
  · rfl
  · split
    · exact order_returnOutputBuffers
    · rfl

@[simp] theorem order_returnInputBuffer {res : CaptureResult} :
    order k (c.returnInputBuffer res) = order k c := rfl

@[simp] theorem order_setNextShutter {input : Bool} {n : UInt32} :
    order k (c.setNextShutter input n) = order k c := by
  unfold setNextShutter
  split <;> rfl

@[simp] theorem order_handlePartialResult {extras : CaptureResultExtras} :
    order k (c.handlePartialResult cfg frame extras updates).2 = order k c := by
  unfold handlePartialResult
  repeat' split
  · rfl
  · rfl
  · simp [order, finals, nextResult]

@[simp] theorem order_composePartial (cfg : Config) (c : DeviceClient) (res : CaptureResult)
    (r : PendingRequest) (updates : Bool) :
    order k (c.composePartial cfg res r updates).1 = order k c := by
  unfold composePartial
  split
  · split
    · exact order_handlePartialResult
    · rfl
  · rfl

/-- How one callback for a frame can move the order: not at all, or it accepts the frame, which
it then reports or not. -/
inductive Accepts (frame : UInt32) (x : UInt32 × List UInt32) : UInt32 × List UInt32 → Prop where
  | nothing : Accepts frame x x
  | dropped (h : x.1 ≤ frame) : Accepts frame x (frame + 1, x.2)
  | reported (h : x.1 ≤ frame) : Accepts frame x (frame + 1, x.2 ++ [frame])

theorem order_setNextResult {input : Bool} {n : UInt32} :
    order k (c.setNextResult input n) = if input = k then (n, c.finals k) else order k c := by
  cases input <;> cases k <;> rfl

theorem order_report {input : Bool} :
    order k { c with reports := c.reports ++ [⟨false, input, frame⟩] } =
      if input = k then (c.nextResult k, c.finals k ++ [frame]) else order k c := by
  cases input <;> cases k <;> simp [order, finals, nextResult]

theorem accepts_sendCaptureResult {metadata collected : Metadata} {extras : CaptureResultExtras} :
    Accepts frame (order k c)
      (order k (c.sendCaptureResult cfg metadata extras collected frame updates)) := by
  unfold sendCaptureResult
  split
  · exact .nothing
  split
  · exact .nothing
  split
  · exact .nothing
  next hlt =>
  have hle : c.nextResult extras.input ≤ frame := by simpa using hlt
  dsimp only
  generalize (if (cfg.isPartialResultSupported && !collected.isEmpty) = true then
    metadata.append collected else metadata) = sent
  by_cases hk : extras.input = k
  · subst hk
    have hnext : order extras.input (c.setNextResult extras.input (frame + 1)) =
        (frame + 1, c.finals extras.input) := by
      rw [order_setNextResult, if_pos rfl]
    split
    · exact hnext ▸ .dropped hle
    split
    · exact hnext ▸ .dropped hle
    · obtain ⟨hn, hf⟩ := Prod.mk.inj hnext
      rw [order_report, if_pos rfl, hn, hf]
      exact .reported hle
  · have hnext : order k (c.setNextResult extras.input (frame + 1)) = order k c := by
      rw [order_setNextResult, if_neg hk]
    split
    · exact hnext ▸ .nothing
    split
    · exact hnext ▸ .nothing
    · rw [order_report, if_neg hk, hnext]
      exact .nothing

theorem accepts_sendFinal {res : CaptureResult} {r : PendingRequest} {collected : Metadata} :
    Accepts res.frameNumber (order k c) (order k (c.sendFinal cfg res r collected updates)) := by
  unfold sendFinal
  split
  · split
    · exact .nothing
    · exact accepts_sendCaptureResult
  · exact .nothing

/-- Of the steps after the checks only the sending of the result moves the order. -/
theorem accepts_deliverResult {res : CaptureResult} {r : PendingRequest} {collected : Metadata} :
    Accepts res.frameNumber (order k c)
      (order k (c.deliverResult cfg res r collected updates)) := by
  unfold deliverResult
  dsimp only
  split <;> simpa using accepts_sendFinal (c := c.setPending _ _)

theorem accepts_handleCaptureResult {res : CaptureResult} :
    Accepts res.frameNumber (order k c) (order k (c.handleCaptureResult cfg res updates)) := by
  unfold handleCaptureResult
  split
  · exact .nothing
  split
  · exact .nothing
  split
  · exact .nothing
  next r _ =>
  dsimp only
  split
  · exact .nothing
  have hsame := order_composePartial cfg c res (notePartialCount res r) updates (k := k)
  rw [← hsame]
  split
  · exact .nothing
  split
  · exact .nothing
  · exact accepts_deliverResult

theorem accepts_notifyShutter {timestamp : Int} :
    Accepts frame (order k c) (order k (c.notifyShutter cfg frame timestamp updates)) := by
  unfold notifyShutter
  split
  · exact .nothing
  split
  · exact .nothing
  next r _ _ =>
  simpa using accepts_sendCaptureResult (c := (c.setNextShutter _ _).setPending _ _)

theorem accepts_step : Accepts e.frame (order k c) (order k (c.step cfg e)) := by
  cases e with
  | mark frame numBuffers extras => exact .nothing
  | result res updates => exact accepts_handleCaptureResult
  | shutter frame timestamp updates => exact accepts_notifyShutter
  | error code frame =>
    cases code <;> simpa [step, notifyError] using .nothing
  | flush on => exact .nothing

/-- No callback is for the last frame number, after which the expected number wraps to 0. -/
def NotLast (_ : DeviceClient) : Event → Prop
  | .result res _ => res.frameNumber ≠ UInt32.ofNat (2 ^ 32 - 1)
  | .shutter frame _ _ => frame ≠ UInt32.ofNat (2 ^ 32 - 1)
  | _ => True

instance : Decidable (NotLast c e) :=
  match e with
  | .result _ _ | .shutter _ _ _ => inferInstanceAs (Decidable (_ ≠ _))
  | .mark _ _ _ | .error _ _ | .flush _ => inferInstanceAs (Decidable True)

/-- What was reported since `start` ascends and stays below the expected frame number. -/
def Ascending (start : List UInt32) (x : UInt32 × List UInt32) : Prop :=
  ∃ new, x.2 = start ++ new ∧ new.Pairwise (· < ·) ∧ ∀ n ∈ new, n < x.1

theorem lt_succ_of_notLast (h : frame ≠ UInt32.ofNat (2 ^ 32 - 1)) : frame < frame + 1 := by
  apply lt_next_frame
  have := frame.toNat_lt
  have : frame.toNat ≠ 2 ^ 32 - 1 := fun heq => h (UInt32.toNat_inj.mp heq)
  omega

theorem ascending_accepts {start : List UInt32} {x x' : UInt32 × List UInt32}
    (h : Accepts frame x x') (hlast : frame ≠ UInt32.ofNat (2 ^ 32 - 1))
    (hx : Ascending start x) : Ascending start x' := by
  obtain ⟨new, hnew, hsorted, hbelow⟩ := hx
  have hsucc := lt_succ_of_notLast hlast
  have hframe : x.1 ≤ frame → ∀ n ∈ new, n < frame := fun hle n hn =>
    UInt32.lt_of_lt_of_le (hbelow n hn) hle
  cases h with
  | nothing => exact ⟨new, hnew, hsorted, hbelow⟩
  | dropped hle =>
    exact ⟨new, hnew, hsorted, fun n hn => UInt32.lt_trans (hframe hle n hn) hsucc⟩
  | reported hle =>
    refine ⟨new ++ [frame], by simp [hnew], ?_, ?_⟩
    · rw [List.pairwise_append]
      exact ⟨hsorted, by simp, by simpa using hframe hle⟩
    · intro n hn
      rcases List.mem_append.mp hn with hn | hn
      · exact UInt32.lt_trans (hframe hle n hn) hsucc
      · obtain rfl := List.mem_singleton.mp hn
        exact hsucc

theorem ascending_step {start : List UInt32} (h : NotLast c e) (hc : Ascending start (order k c)) :
    Ascending start (order k (c.step cfg e)) := by
  cases e with
  | result res updates => exact ascending_accepts accepts_step h hc
  | shutter frame timestamp updates => exact ascending_accepts accepts_step h hc
  | mark frame numBuffers extras => exact hc
  | error code frame => cases code <;> simpa [step, notifyError] using hc
  | flush on => exact hc

/-- Over any stretch of a run without a callback for the last frame number, the complete results
of one kind are reported in strictly ascending order. -/
theorem finals_ascend_of_notLast (cfg : Config) (s t : DeviceClient) (es : List Event)
    (h : ((lts cfg).guarded NotLast).MTr s es t) (k : Bool) :
    ∃ new, finals k t = finals k s ++ new ∧ new.Pairwise (· < ·) := by
  have hinv : ((lts cfg).guarded NotLast).TrInv fun c => Ascending (finals k s) (order k c) := by
    rintro c e d ⟨hstep, hguard⟩ hc
    obtain rfl : c.step cfg e = d := Option.some.inj hstep
    exact ascending_step hguard hc
  have hstart : Ascending (finals k s) (order k s) := ⟨[], by simp [order], .nil, by simp⟩
  obtain ⟨new, hnew, hsorted, -⟩ := LTS.inv_of_mTr hinv h hstart
  exact ⟨new, hnew, hsorted⟩

/-- A request without a buffer to return, completed by its shutter and its metadata. -/
def completeFrame (frame : UInt32) (timestamp : Int) : List Event :=
  [.mark frame 0 { frameNumber := frame }, .shutter frame timestamp true,
    .result { frameNumber := frame, result := some { sensorTimestamps := [timestamp] },
              partialResult := 1 } true]

/-- Frame 2 completes before frame 1, whose result is then out of order. -/
def overtakenRun : List Event := completeFrame 2 20 ++ completeFrame 1 10 ++ completeFrame 3 30

theorem finals_ascend_overtaken :
    finals false (overtakenRun.foldl (step {}) {}) = [2, 3] ∧
      ∃ t, ((lts {}).guarded NotLast).MTr {} overtakenRun t ∧
        ∃ new, finals false t = finals false {} ++ new ∧ new.Pairwise (· < ·) := by
  have hrun : ((lts {}).guarded NotLast).MTr {} overtakenRun (overtakenRun.foldl (step {}) {}) :=
    LTS.mTr_guarded_iff.mpr ⟨LTS.run_some _, by decide⟩
  exact ⟨by decide, _, hrun, finals_ascend_of_notLast {} {} _ overtakenRun hrun false⟩

/-- After the last frame number the expected number is 0 again, and frame 0 is accepted. -/
theorem finals_restart_after_last_frame :
    ¬ ∀ (cfg : Config) (es : List Event) (t : DeviceClient), (lts cfg).MTr {} es t →
      ∀ k, (finals k t).Pairwise (· < ·) := by
  intro hall
  have hrun : (lts {}).MTr {} (completeFrame (UInt32.ofNat (2 ^ 32 - 1)) 10 ++ completeFrame 0 20)
      _ := LTS.mTr_ofStep_iff.mpr (LTS.run_some (step {}))
  exact absurd (hall {} _ _ hrun false) (by decide)

end DeviceClient

end QmmfSdk.Camera3
