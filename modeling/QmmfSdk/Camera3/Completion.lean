import QmmfSdk.Camera3.Life

/-! How a request completes: every buffer the HAL returns reaches its stream once, and nothing
complete stays pending. -/
namespace QmmfSdk.Camera3

open Library

/-- What the HAL has delivered for a request, counted from its registration: how many of its
buffers, its last metadata, its shutter, an error. -/
structure Delivery where
  numBuffers : Nat := 0
  buffersBack : Nat := 0
  failed : Bool := false
  metadata : Bool := false
  shutter : Bool := false
  deriving DecidableEq

/-- The entry counts what was delivered. -/
structure Progress.Follows (d : Delivery) (p : Progress) : Prop where
  remaining : p.remaining = d.numBuffers - d.buffersBack
  status : d.failed = true → p.status ≠ none
  metadata : p.hasMetadata = d.metadata
  shutter : d.shutter = true ↔ p.shutterTS ≠ 0

def Life.Follows (d : Delivery) (l : Life) : Prop := ∀ p, l.entry = some p → p.Follows d

section Follows

variable {p : Progress} {l : Life} {d : Delivery} {flush : Bool} {bs : List StreamBuffer}

theorem Progress.Follows.noteErrors (h : p.Follows d) : (p.noteErrors flush bs).Follows d := by
  refine ⟨h.remaining, fun hfailed => ?_, h.metadata, h.shutter⟩
  unfold Progress.noteErrors
  dsimp only
  split
  · simp
  · exact h.status hfailed

theorem Life.Follows.settle (h : l.Follows d) : l.settle.Follows d := by
  unfold Life.settle
  split
  next p hp =>
    split
    · exact fun q hq => by simp at hq
    · exact h
  · exact h

theorem Life.Follows.returnBuffers (h : l.Follows d) : (l.returnBuffers flush bs).Follows d := by
  intro p hp
  obtain ⟨q, hq, rfl⟩ := Option.map_eq_some_iff.mp hp
  exact (h q hq).noteErrors

theorem Life.follows_setEntry (h : p.Follows d) : (l.setEntry p).Follows d := by
  intro q hq
  obtain rfl := Option.some.inj hq
  exact h

theorem Life.follows_deliver (h : p.Follows d) : (l.deliver flush p bs).Follows d := by
  have hparked : Progress.Follows d { p with parked := p.parked ++ bs } :=
    ⟨h.remaining, h.status, h.metadata, h.shutter⟩
  unfold Life.deliver
  split
  · exact (Life.follows_setEntry hparked).settle
  split
  · exact (Life.follows_setEntry h).returnBuffers.settle
  · exact (Life.follows_setEntry h).settle

theorem Life.Follows.shutter {timestamp : Int} (h : l.Follows d) (hts : timestamp ≠ 0) :
    (l.shutter flush timestamp).Follows { d with shutter := true } := by
  have hnoted : Life.Follows { d with shutter := true }
      { l with entry := l.entry.map fun p => { p with shutterTS := timestamp } } := by
    intro p hp
    obtain ⟨q, hq, rfl⟩ := Option.map_eq_some_iff.mp hp
    obtain ⟨hrem, hstatus, hmeta, -⟩ := h q hq
    exact ⟨hrem, hstatus, hmeta, by simp [hts]⟩
  refine Life.Follows.settle fun p hp => ?_
  obtain ⟨q, hq, rfl⟩ := Option.map_eq_some_iff.mp hp
  obtain ⟨hrem, hstatus, hmeta, hshutter⟩ := hnoted.returnBuffers q hq
  exact ⟨hrem, hstatus, hmeta, hshutter⟩

theorem Progress.Follows.count {isFinal : Bool} {n : Nat} (h : p.Follows d) :
    (p.count isFinal n).Follows { d with
      buffersBack := d.buffersBack + n, metadata := d.metadata || isFinal } := by
  refine ⟨?_, h.status, congrArg (· || isFinal) h.metadata, h.shutter⟩
  simp only [Progress.count, h.remaining]
  omega

end Follows

namespace DeviceClient

variable {cfg : Config} {c t : DeviceClient} {e : Event} {es : List Event} {frame f : UInt32}
  {updates : Bool} {res : CaptureResult} {d : Delivery}

/-- What an event delivers for a frame number. A result counts if it passes the checks; the rest
is a mistake of the HAL. -/
def noteDelivery (cfg : Config) (c : DeviceClient) (f : UInt32) (d : Delivery) :
    Event → Delivery
  | .mark frame numBuffers _ => if frame = f then { numBuffers := numBuffers } else d
  | .result res _ =>
    if res.frameNumber = f ∧ passesChecks cfg c res = true then
      { d with
        buffersBack := d.buffersBack + numBuffersReturned res
        metadata := d.metadata || (finalMetadata cfg res).isSome }
    else d
  | .shutter frame _ _ => if frame = f then { d with shutter := true } else d
  | .error .request frame | .error .result frame | .error .buffer frame =>
    if frame = f then { d with failed := true } else d
  | .error _ _ | .flush _ => d

/-- What a run of events has delivered for a frame number. -/
def delivered (cfg : Config) (f : UInt32) : DeviceClient → Delivery → List Event → Delivery
  | _, d, [] => d
  | c, d, e :: es => delivered cfg f (c.step cfg e) (noteDelivery cfg c f d e) es

/-- The request handler registers a fresh frame number; the HAL returns buffers in results that
pass the checks. -/
def inContract (cfg : Config) (c : DeviceClient) : Event → Bool
  | .mark frame _ _ => !c.pendingRequests.contains frame
  | .result res _ => numBuffersReturned res == 0 || passesChecks cfg c res
  | .shutter _ _ _ | .error _ _ | .flush _ => true

/-- A request fails only while some of its buffers are still to come, and its first shutter comes
in turn and with a time. -/
def inTime (c : DeviceClient) : Event → Bool
  | .error .request frame | .error .result frame | .error .buffer frame =>
    (c.pendingRequests[frame]?).all fun r => r.buffersRemaining != 0
  | .shutter frame timestamp _ => (c.pendingRequests[frame]?).all fun r =>
    if frame < c.nextShutter r.resultExtras.input then r.shutterTS != 0 else decide (0 < timestamp)
  | _ => true

/-- The output buffers that an event hands over for a frame number. -/
def Event.buffers (f : UInt32) : Event → List StreamBuffer
  | .result res _ => if res.frameNumber = f then res.outputBuffers else []
  | _ => []

/-- What holds of a frame number between two callbacks. -/
structure Tracks (c : DeviceClient) (f : UInt32) (d : Delivery) : Prop where
  sound : (life f c).Sound
  follows : (life f c).Follows d

theorem entry_of_pending {r : PendingRequest} (hr : c.pendingRequests[f]? = some r) :
    (life f c).entry = some r.progress := by
  simp [life, hr]

theorem outputBuffers_eq_nil (h : numBuffersReturned res = 0) : res.outputBuffers = [] :=
  List.eq_nil_of_length_eq_zero (Nat.eq_zero_of_add_eq_zero_right h)

/-- A result keeps the invariant and hands over its buffers. -/
theorem tracks_result {g : Life → Life} (h : ResultOutcome cfg c res g)
    (hcontract : numBuffersReturned res = 0 ∨ passesChecks cfg c res = true)
    (hc : Tracks c res.frameNumber d) :
    (g (life res.frameNumber c)).Sound ∧
      (g (life res.frameNumber c)).Follows
        (noteDelivery cfg c res.frameNumber d (.result res updates)) ∧
      (g (life res.frameNumber c)).ledger =
        (life res.frameNumber c).ledger ++ res.outputBuffers := by
  cases h with
  | refused hchecks =>
    have hnil := outputBuffers_eq_nil (hcontract.resolve_right (by simp [hchecks]))
    refine ⟨hc.sound, ?_, by simp [hnil]⟩
    rw [noteDelivery, if_neg (by simp [hchecks])]
    exact hc.follows
  | @overdrawn r hr hmany =>
    -- a result of the contract is never one too many
    have hrem : 0 ≤ r.buffersRemaining := (hc.sound.entry _ (entry_of_pending hr)).remaining
    rcases hcontract with hzero | hpass
    · omega
    · rw [passesChecks, hr, Option.any_some] at hpass
      simp only [Bool.and_eq_true, decide_eq_true_eq] at hpass
      omega
  | @delivered r hr hchecks =>
    have hentry := entry_of_pending hr
    have hfits : (numBuffersReturned res : Int) ≤ r.progress.remaining := by
      rw [passesChecks, hr, Option.any_some] at hchecks
      simp only [Bool.and_eq_true, decide_eq_true_eq] at hchecks
      exact hchecks.2.2
    have hp := (hc.sound.entry _ hentry).count (finalMetadata cfg res).isSome hfits
    refine ⟨Life.sound_deliver hp, ?_, ?_⟩
    · rw [noteDelivery, if_pos ⟨rfl, hchecks⟩]
      exact Life.follows_deliver (hc.follows _ hentry).count
    · rw [Life.ledger_deliver hp]
      simp [Life.ledger, Life.parked, hentry, Progress.count]

/-- An error keeps the invariant while buffers are still to come. -/
theorem tracks_fail {code : HalError} (hc : Tracks c f d)
    (hearly : (c.pendingRequests[frame]?).all (fun r => r.buffersRemaining != 0) = true) :
    Tracks (c.editPending frame fun r => { r with status := some code }) f
        (if frame = f then { d with failed := true } else d) ∧
      (life f (c.editPending frame fun r => { r with status := some code })).ledger =
        (life f c).ledger := by
  have hlife : life f (c.editPending frame fun r => { r with status := some code }) =
      onFrame frame f (fun l => { l with
        entry := l.entry.map fun p => { p with status := some code } }) (life f c) :=
    life_editPending (fun p => { p with status := some code }) fun r => rfl
  by_cases heq : frame = f
  · subst heq
    rw [onFrame_self] at hlife
    have hentry : ∀ p, (life frame c).entry = some p → p.remaining ≠ 0 := by
      intro p hp
      obtain ⟨r, hr, rfl⟩ := Option.map_eq_some_iff.mp hp
      have hrem : r.buffersRemaining ≠ 0 := by simpa [hr] using hearly
      exact hrem
    rw [if_pos rfl]
    refine ⟨⟨⟨fun p hp => ?_, fun p hp hcomplete => ?_⟩, fun p hp => ?_⟩, ?_⟩
    · rw [hlife] at hp
      obtain ⟨q, hq, rfl⟩ := Option.map_eq_some_iff.mp hp
      obtain ⟨hrem, htime, hparked⟩ := hc.sound.entry q hq
      exact ⟨hrem, htime, hparked⟩
    · rw [hlife] at hp
      obtain ⟨q, hq, rfl⟩ := Option.map_eq_some_iff.mp hp
      exact hentry q hq hcomplete.1
    · rw [hlife] at hp
      obtain ⟨q, hq, rfl⟩ := Option.map_eq_some_iff.mp hp
      obtain ⟨hrem, -, hmeta, hshutter⟩ := hc.follows q hq
      exact ⟨hrem, fun _ => by simp, hmeta, hshutter⟩
    · rw [hlife]
      cases hl : (life frame c).entry <;> simp [Life.ledger, Life.parked, hl]
  · rw [onFrame, if_neg heq] at hlife
    rw [if_neg heq]
    exact ⟨⟨hlife ▸ hc.sound, hlife ▸ hc.follows⟩, by rw [hlife]⟩

theorem tracks_mark {numBuffers : Nat} {extras : CaptureResultExtras} (hc : Tracks c f d)
    (hfresh : c.pendingRequests[frame]? = none) :
    Tracks (c.markPendingRequest frame numBuffers extras) f
        (if frame = f then { numBuffers := numBuffers } else d) ∧
      (life f (c.markPendingRequest frame numBuffers extras)).ledger = (life f c).ledger := by
  have hlife : life f (c.markPendingRequest frame numBuffers extras) = _ := life_setPending
  by_cases heq : frame = f
  · subst heq
    rw [onFrame_self] at hlife
    rw [if_pos rfl]
    refine ⟨⟨⟨fun p hp => ?_, fun p hp => ?_⟩, fun p hp => ?_⟩, ?_⟩
    · rw [hlife] at hp
      obtain rfl := Option.some.inj hp
      exact ⟨Int.natCast_nonneg _, Int.le_refl 0, fun _ => rfl⟩
    · rw [hlife] at hp
      obtain rfl := Option.some.inj hp
      simp [Progress.Complete, PendingRequest.progress]
    · rw [hlife] at hp
      obtain rfl := Option.some.inj hp
      exact ⟨by simp [PendingRequest.progress], by simp, rfl, by simp [PendingRequest.progress]⟩
    · rw [hlife]
      simp [Life.ledger, Life.parked, Life.setEntry, life, hfresh, PendingRequest.progress]
  · rw [onFrame, if_neg heq] at hlife
    rw [if_neg heq]
    exact ⟨⟨hlife ▸ hc.sound, hlife ▸ hc.follows⟩, by rw [hlife]⟩

/-- A late shutter of a frame that already has one changes nothing; any other is accepted. -/
theorem tracks_shutter {timestamp : Int} (hc : Tracks c f d)
    (htime : inTime c (.shutter frame timestamp updates) = true) :
    Tracks (c.notifyShutter cfg frame timestamp updates) f
        (if frame = f then { d with shutter := true } else d) ∧
      (life f (c.notifyShutter cfg frame timestamp updates)).ledger = (life f c).ledger := by
  have hlife := life_notifyShutter cfg c frame timestamp updates f
  by_cases heq : frame = f
  · subst heq
    rw [if_pos rfl]
    cases hr : c.pendingRequests[frame]? with
    | none =>
      have hsame : life frame (c.notifyShutter cfg frame timestamp updates) = life frame c := by
        rw [notifyShutter, hr]
      have hentry : (life frame c).entry = none := by simp [life, hr]
      exact ⟨⟨hsame ▸ hc.sound, fun p hp => by simp [hsame, hentry] at hp⟩, by rw [hsame]⟩
    | some r =>
      rw [inTime, hr, Option.all_some] at htime
      rw [isShutterLate, hr, Option.any_some, onFrame_self] at hlife
      by_cases hlate : frame < c.nextShutter r.resultExtras.input
      · rw [if_pos hlate, bne_iff_ne] at htime
        rw [if_pos (decide_eq_true hlate)] at hlife
        rw [hlife]
        refine ⟨⟨hlife ▸ hc.sound, fun p hp => ?_⟩, rfl⟩
        rw [hlife, entry_of_pending hr] at hp
        obtain rfl := Option.some.inj hp
        obtain ⟨hrem, hstatus, hmeta, -⟩ := hc.follows _ (entry_of_pending hr)
        exact ⟨hrem, hstatus, hmeta, by simpa [PendingRequest.progress] using htime⟩
      · rw [if_neg hlate, decide_eq_true_eq] at htime
        rw [if_neg (by simpa using hlate)] at hlife
        refine ⟨⟨?_, ?_⟩, ?_⟩
        · rw [hlife]
          exact Life.sound_shutter hc.sound (by omega)
        · rw [hlife]
          exact hc.follows.shutter (by omega)
        · rw [hlife, Life.ledger_shutter]
  · have hsame : life f (c.notifyShutter cfg frame timestamp updates) = life f c := by
      rw [hlife, onFrame, if_neg heq, ite_self]
    rw [if_neg heq]
    exact ⟨⟨hsame ▸ hc.sound, hsame ▸ hc.follows⟩, by rw [hsame]⟩

theorem tracks_step (hc : Tracks c f d) (hcontract : inContract cfg c e = true)
    (htime : inTime c e = true) : Tracks (c.step cfg e) f (noteDelivery cfg c f d e) ∧
      (life f (c.step cfg e)).ledger = (life f c).ledger ++ e.buffers f := by
  cases e with
  | mark frame numBuffers extras =>
    have hfresh : c.pendingRequests[frame]? = none := by
      apply Std.ExtTreeMap.getElem?_eq_none_of_contains_eq_false
      simpa only [inContract, Bool.not_eq_true'] using hcontract
    simpa [step, noteDelivery, Event.buffers] using tracks_mark hc hfresh
  | result res updates =>
    have hcontract : numBuffersReturned res = 0 ∨ passesChecks cfg c res = true := by
      simpa [inContract] using hcontract
    obtain ⟨g, hg, hlife⟩ := outcome_handleCaptureResult cfg c res updates
    have hlife := hlife f
    by_cases heq : res.frameNumber = f
    · subst heq
      rw [onFrame_self] at hlife
      obtain ⟨hsound, hfollows, hledger⟩ := tracks_result hg hcontract hc
      rw [step, Event.buffers, if_pos rfl]
      exact ⟨⟨hlife ▸ hsound, hlife ▸ hfollows⟩, hlife ▸ hledger⟩
    · rw [onFrame, if_neg heq] at hlife
      rw [step, Event.buffers, if_neg heq, noteDelivery, if_neg fun h => heq h.1]
      exact ⟨⟨hlife ▸ hc.sound, hlife ▸ hc.follows⟩, by rw [hlife, List.append_nil]⟩
  | shutter frame timestamp updates =>
    simpa [step, noteDelivery, Event.buffers] using tracks_shutter hc htime
  | error code frame =>
    simp only [step, Event.buffers, List.append_nil]
    cases code with
    | request | result | buffer => exact tracks_fail hc htime
    | invalid | device => exact ⟨hc, rfl⟩
  | flush on =>
    simp only [step, Event.buffers, List.append_nil]
    exact ⟨⟨hc.sound, hc.follows⟩, rfl⟩

/-- The output buffers that the HAL has handed over for a frame number, in order. -/
def handedOver (f : UInt32) (es : List Event) : List StreamBuffer := es.flatMap (Event.buffers f)

def parkedOf (f : UInt32) (c : DeviceClient) : List StreamBuffer :=
  ((c.pendingRequests[f]?).map PendingRequest.pendingBuffers).getD []

/-- After the events, every buffer was returned to its stream once or waits, in a request that is
still pending, for a shutter that the HAL has not delivered; and no request is pending that has
failed, or whose metadata and shutter were delivered, with all its buffers. -/
structure Completes (cfg : Config) (es : List Event) (c : DeviceClient) : Prop where
  once : ∀ f, c.returnedOf f ++ c.parkedOf f = handedOver f es
  waiting : ∀ (f : UInt32) (r : PendingRequest), c.pendingRequests[f]? = some r →
    r.pendingBuffers ≠ [] → (delivered cfg f {} {} es).shutter = false
  removed : ∀ (f : UInt32) (r : PendingRequest) (d : Delivery), c.pendingRequests[f]? = some r →
    delivered cfg f {} {} es = d → ¬ (d.buffersBack = d.numBuffers ∧
      (r.status ≠ none ∨ d.failed = true ∨ (d.metadata = true ∧ d.shutter = true)))

theorem tracks_mTr (h : ((lts cfg).guarded fun c e =>
      inContract cfg c e = true ∧ inTime c e = true).MTr c es t) (hc : Tracks c f d) :
    Tracks t f (delivered cfg f c d es) ∧
      (life f t).ledger = (life f c).ledger ++ handedOver f es := by
  induction h generalizing d with
  | refl => exact ⟨hc, by simp [handedOver]⟩
  | @stepL c u t e es hstep _ ih =>
    obtain ⟨hrun, hcontract, htime⟩ := hstep
    obtain rfl : c.step cfg e = u := Option.some.inj hrun
    obtain ⟨hu, hledger⟩ := tracks_step hc hcontract htime
    obtain ⟨ht, hledger'⟩ := ih hu
    exact ⟨ht, by rw [hledger', hledger]; simp [handedOver]⟩

/-- In every run in which requests fail only before their last buffer and shutters come in turn,
all buffers are returned once and no complete request stays pending. -/
theorem completes_of_inTime (cfg : Config) (es : List Event) (t : DeviceClient)
    (h : ((lts cfg).guarded fun c e =>
      inContract cfg c e = true ∧ inTime c e = true).MTr {} es t) : Completes cfg es t := by
  have hstart : ∀ f, Tracks {} f {} := fun f =>
    ⟨⟨by simp [life], by simp [life]⟩, fun p hp => by simp [life] at hp⟩
  refine ⟨fun f => ?_, fun f r hr hne => ?_, ?_⟩
  · have hledger := (tracks_mTr h (hstart f)).2
    cases hr : t.pendingRequests[f]? <;>
      simpa [Life.ledger, Life.parked, life, parkedOf, returnedOf, hr, PendingRequest.progress]
        using hledger
  · obtain ⟨⟨hsound, hfollows⟩, -⟩ := tracks_mTr h (hstart f)
    by_contra hshutter
    have hts := (hfollows _ (entry_of_pending hr)).shutter.mp (by simpa using hshutter)
    exact hne ((hsound.entry _ (entry_of_pending hr)).parked hts)
  · rintro f r d hr rfl ⟨hback, hdone⟩
    obtain ⟨⟨hsound, hfollows⟩, -⟩ := tracks_mTr h (hstart f)
    obtain ⟨hrem, hstatus, hmeta, hshutter⟩ := hfollows _ (entry_of_pending hr)
    refine hsound.notComplete _ (entry_of_pending hr) ⟨by omega, ?_⟩
    rcases hdone with hstat | hfailed | ⟨hm, hs⟩
    · exact .inl hstat
    · exact .inl (hstatus hfailed)
    · exact .inr ⟨hmeta.trans hm, hshutter.mp hs⟩

/-- A failed buffer, a parked one and, after the shutter, the rest with the metadata. -/
def lateShutterRun : List Event :=
  [.mark 7 3 { frameNumber := 7 }, .result { frameNumber := 7, outputBuffers := [⟨1, 0, true⟩] } true,
    .error .buffer 7, .result { frameNumber := 7, outputBuffers := [⟨2, 1, false⟩] } true,
    .shutter 7 40 true,
    .result { frameNumber := 7, result := some { sensorTimestamps := [40] }, partialResult := 1,
              outputBuffers := [⟨3, 2, false⟩] } true]

theorem completes_late_shutter :
    (lateShutterRun.foldl (step {}) {}).returnedOf 7 =
        [⟨1, 0, true⟩, ⟨2, 1, false⟩, ⟨3, 2, false⟩] ∧
      ∃ t, ((lts {}).guarded fun c e =>
        inContract {} c e = true ∧ inTime c e = true).MTr {} lateShutterRun t ∧
          Completes {} lateShutterRun t := by
  have hrun : ((lts {}).guarded fun c e => inContract {} c e = true ∧ inTime c e = true).MTr {}
      lateShutterRun (lateShutterRun.foldl (step {}) {}) :=
    LTS.mTr_guarded_iff.mpr ⟨LTS.run_some _, by decide⟩
  exact ⟨by decide, _, hrun, completes_of_inTime {} lateShutterRun _ hrun⟩

/-- The only buffer of a request comes back, then the request fails. -/
def lateErrorRun : List Event :=
  [.mark 7 1 { frameNumber := 7 }, .result { frameNumber := 7, outputBuffers := [⟨1, 0, true⟩] } true,
    .error .request 7]

/-- An error after the last buffer completes a request that nobody removes, and its buffer stays
parked. -/
theorem late_error_leaves_request_pending :
    ¬ ∀ (cfg : Config) (es : List Event) (t : DeviceClient),
      ((lts cfg).guarded fun c e => inContract cfg c e = true).MTr {} es t → Completes cfg es t := by
  intro hall
  have hrun : ((lts {}).guarded fun c e => inContract {} c e = true).MTr {} lateErrorRun
      (lateErrorRun.foldl (step {}) {}) :=
    LTS.mTr_guarded_iff.mpr ⟨LTS.run_some _, by decide⟩
  have hpending : (lateErrorRun.foldl (step {}) {}).pendingRequests[(7 : UInt32)]? =
      some { buffersRemaining := 0, resultExtras := { frameNumber := 7 }, status := some .request,
             pendingBuffers := [⟨1, 0, true⟩] } := by decide
  exact (hall {} lateErrorRun _ hrun).removed 7 _ _ hpending rfl (by decide)

end DeviceClient

end QmmfSdk.Camera3
