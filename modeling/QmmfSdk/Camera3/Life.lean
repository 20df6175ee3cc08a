import QmmfSdk.Camera3.DeviceClient

/-! The life of one frame number: what each callback does to its pending request and to the
buffers returned for it. -/
namespace QmmfSdk.Camera3

open Library

/-- How far a pending request has come. -/
structure Progress where
  input : Bool
  remaining : Int
  shutterTS : Int
  status : Option HalError
  hasMetadata : Bool
  parked : List StreamBuffer
  deriving DecidableEq

def PendingRequest.progress (r : PendingRequest) : Progress where
  input := r.resultExtras.input
  remaining := r.buffersRemaining
  shutterTS := r.shutterTS
  status := r.status
  hasMetadata := r.isMetaPresent
  parked := r.pendingBuffers

namespace Progress

variable {p : Progress} {flush : Bool} {bs : List StreamBuffer}

/-- All buffers are back, and the request has failed or has both metadata and shutter. -/
def Complete (p : Progress) : Prop :=
  p.remaining = 0 ∧ (p.status ≠ none ∨ (p.hasMetadata = true ∧ p.shutterTS ≠ 0))

instance : Decidable p.Complete := inferInstanceAs (Decidable (_ ∧ (_ ∨ _)))

/-- Buffers are parked only before the shutter. -/
structure Sound (p : Progress) : Prop where
  remaining : 0 ≤ p.remaining
  time : 0 ≤ p.shutterTS
  parked : p.shutterTS ≠ 0 → p.parked = []

/-- Returning a buffer with an error fails the request, unless a flush is going on. -/
def noteErrors (flush : Bool) (bs : List StreamBuffer) (p : Progress) : Progress :=
  { p with status := if bs.any StreamBuffer.error && !flush then some .buffer else p.status }

/-- A result takes its buffers off the count; `isFinal` says that it has the rest of the
metadata. -/
def count (isFinal : Bool) (n : Nat) (p : Progress) : Progress :=
  { p with hasMetadata := p.hasMetadata || isFinal, remaining := p.remaining - n }

theorem Sound.noteErrors (h : p.Sound) : (p.noteErrors flush bs).Sound :=
  ⟨h.remaining, h.time, h.parked⟩

theorem Sound.count {n : Nat} (isFinal : Bool) (h : p.Sound) (hn : (n : Int) ≤ p.remaining) :
    (p.count isFinal n).Sound :=
  ⟨Int.sub_nonneg_of_le hn, h.time, h.parked⟩

end Progress

theorem PendingRequest.isComplete_iff {r : PendingRequest} :
    r.isComplete = true ↔ r.progress.Complete := by
  simp [isComplete, progress, Progress.Complete, Option.isSome_iff_ne_none]

/-- What concerns one frame number: its pending request and the buffers returned for it. -/
structure Life where
  entry : Option Progress
  returned : List StreamBuffer

namespace Life

variable {l : Life} {p : Progress} {flush : Bool} {bs : List StreamBuffer}

def parked (l : Life) : List StreamBuffer := (l.entry.map Progress.parked).getD []

/-- All buffers that the HAL has handed over, in the order in which it did. -/
def ledger (l : Life) : List StreamBuffer := l.returned ++ l.parked

/-- The invariant of a frame number between two callbacks. -/
structure Sound (l : Life) : Prop where
  entry : ∀ p, l.entry = some p → p.Sound
  notComplete : ∀ p, l.entry = some p → ¬ p.Complete

def setEntry (p : Progress) (l : Life) : Life := { l with entry := some p }

def returnBuffers (flush : Bool) (bs : List StreamBuffer) (l : Life) : Life where
  entry := l.entry.map (Progress.noteErrors flush bs)
  returned := l.returned ++ bs

/-- The check that ends the life of a request; what is parked is returned then. -/
def settle (l : Life) : Life :=
  match l.entry with
  | some p => if p.Complete then ⟨none, l.returned ++ p.parked⟩ else l
  | none => l

theorem returnBuffers_nil : l.returnBuffers flush [] = l := by
  have hid : Progress.noteErrors flush [] = id := rfl
  simp [returnBuffers, hid]

theorem returnBuffers_cons {b : StreamBuffer} :
    (l.returnBuffers flush [b]).returnBuffers flush bs = l.returnBuffers flush (b :: bs) := by
  cases hb : b.error <;> cases flush <;> cases hl : l.entry <;>
    simp [returnBuffers, Progress.noteErrors, hl, hb]

/-- What an accepted result does: `p` already counts its buffers, which are parked before the
shutter and returned after it. -/
def deliver (flush : Bool) (p : Progress) (bs : List StreamBuffer) (l : Life) : Life :=
  if p.shutterTS = 0 then (l.setEntry { p with parked := p.parked ++ bs }).settle
  else if 0 < p.shutterTS then ((l.setEntry p).returnBuffers flush bs).settle
  else (l.setEntry p).settle

/-- What an accepted shutter does. -/
def shutter (flush : Bool) (timestamp : Int) (l : Life) : Life :=
  let l := { l with entry := l.entry.map fun (p : Progress) => { p with shutterTS := timestamp } }
  let l := l.returnBuffers flush l.parked
  settle { l with entry := l.entry.map fun (p : Progress) => { p with parked := [] } }

theorem ledger_settle : l.settle.ledger = l.ledger := by
  unfold settle
  split
  next p hp =>
    split
    · simp [ledger, parked, hp]
    · rfl
  · rfl

/-- Settling is all that is needed to leave nothing complete behind. -/
theorem sound_settle (h : ∀ p, l.entry = some p → p.Sound) : l.settle.Sound := by
  unfold settle
  split
  next p hp =>
    split
    · exact ⟨by simp, by simp⟩
    next hno =>
      refine ⟨h, fun q hq => ?_⟩
      obtain rfl : p = q := Option.some.inj (hp.symm.trans hq)
      exact hno
  next hnone => exact ⟨h, by simp [hnone]⟩

theorem ledger_deliver (h : p.Sound) :
    (l.deliver flush p bs).ledger = l.returned ++ p.parked ++ bs := by
  unfold deliver
  split
  · rw [ledger_settle]
    simp [ledger, parked, setEntry]
  next hts =>
    have hnil := h.parked hts
    have hpos : 0 < p.shutterTS := by
      have := h.time
      omega
    rw [if_pos hpos, ledger_settle]
    simp [ledger, parked, setEntry, returnBuffers, Progress.noteErrors, hnil]

theorem sound_deliver (h : p.Sound) : (l.deliver flush p bs).Sound := by
  unfold deliver
  repeat' split
  all_goals apply sound_settle
  next hts =>
    intro q hq
    obtain rfl := Option.some.inj hq
    exact ⟨h.remaining, h.time, fun hne => absurd hts hne⟩
  next =>
    intro q hq
    obtain rfl := Option.some.inj hq
    exact h.noteErrors
  next =>
    intro q hq
    obtain rfl := Option.some.inj hq
    exact h

theorem ledger_shutter {timestamp : Int} : (l.shutter flush timestamp).ledger = l.ledger := by
  unfold shutter
  rw [ledger_settle]
  cases hl : l.entry <;> simp [ledger, parked, returnBuffers, Progress.noteErrors, hl]

theorem sound_shutter {timestamp : Int} (hl : l.Sound) (h : 0 ≤ timestamp) :
    (l.shutter flush timestamp).Sound := by
  apply sound_settle
  intro p hp
  cases hentry : l.entry with
  | none => simp [returnBuffers, hentry] at hp
  | some q =>
    simp only [returnBuffers, hentry, Option.map_some, Option.some.injEq] at hp
    subst hp
    exact ⟨(hl.entry q hentry).remaining, h, fun _ => rfl⟩

/-- Whether the pending request has an input buffer. -/
def kind (l : Life) : Option Bool := l.entry.map Progress.input

theorem kind_settle : l.settle.kind = l.kind ∨ l.settle.kind = none := by
  unfold settle
  split
  · split
    · exact .inr rfl
    · exact .inl rfl
  · exact .inl rfl

theorem kind_deliver :
    (l.deliver flush p bs).kind = some p.input ∨ (l.deliver flush p bs).kind = none := by
  unfold deliver
  repeat' split
  all_goals exact kind_settle

theorem kind_shutter {timestamp : Int} :
    (l.shutter flush timestamp).kind = l.kind ∨ (l.shutter flush timestamp).kind = none := by
  unfold shutter
  refine kind_settle.imp_left fun h => h.trans ?_
  cases hl : l.entry <;> simp [kind, returnBuffers, Progress.noteErrors, hl]

end Life

namespace DeviceClient

variable {cfg : Config} {c d : DeviceClient} {e : Event} {es : List Event} {frame f : UInt32}
  {updates : Bool} {r : PendingRequest} {bs : List StreamBuffer} {res : CaptureResult}

def returnedOf (f : UInt32) (c : DeviceClient) : List StreamBuffer :=
  (c.returned.filter fun x => x.1 == f).map Prod.snd

def life (f : UInt32) (c : DeviceClient) : Life where
  entry := (c.pendingRequests[f]?).map PendingRequest.progress
  returned := c.returnedOf f

/-- Edits the life of one frame number only. -/
def onFrame (frame f : UInt32) (g : Life → Life) (l : Life) : Life := if frame = f then g l else l

@[simp] theorem onFrame_self {g : Life → Life} {l : Life} : onFrame frame frame g l = g l := by
  simp [onFrame]

@[simp] theorem onFrame_onFrame {g h : Life → Life} {l : Life} :
    onFrame frame f g (onFrame frame f h l) = onFrame frame f (fun l => g (h l)) l := by
  unfold onFrame
  split <;> rfl

theorem life_setPending : life f (c.setPending frame r) =
    onFrame frame f (Life.setEntry r.progress) (life f c) := by
  unfold onFrame
  split
  next h => simp [life, setPending, Life.setEntry, h, returnedOf]
  next h => simp [life, setPending, h, Std.ExtTreeMap.getElem?_insert, returnedOf]

theorem life_editPending {g : PendingRequest → PendingRequest} (g' : Progress → Progress)
    (hg : ∀ r, (g r).progress = g' r.progress) : life f (c.editPending frame g) =
      onFrame frame f (fun l => { l with entry := l.entry.map g' }) (life f c) := by
  unfold editPending
  split
  next r hr =>
    rw [life_setPending, hg]
    unfold onFrame
    split
    next h => subst h; simp [life, Life.setEntry, hr]
    · rfl
  next hr =>
    unfold onFrame
    split
    next h => subst h; simp [life, hr]
    · rfl

theorem flushOnGoing_setPending : (c.setPending frame r).flushOnGoing = c.flushOnGoing := rfl

@[simp] theorem flushOnGoing_editPending {g : PendingRequest → PendingRequest} :
    (c.editPending frame g).flushOnGoing = c.flushOnGoing := by
  unfold editPending
  split <;> rfl

@[simp] theorem flushOnGoing_returnOutputBuffer {b : StreamBuffer} :
    (returnOutputBuffer frame c b).flushOnGoing = c.flushOnGoing := by
  unfold returnOutputBuffer
  dsimp only
  split
  · exact flushOnGoing_editPending
  · rfl

theorem life_addReturned {b : StreamBuffer} :
    life f { c with returned := c.returned ++ [(frame, b)] } =
      onFrame frame f (fun l => { l with returned := l.returned ++ [b] }) (life f c) := by
  unfold onFrame
  split
  next h => simp [life, returnedOf, h]
  next h => simp [life, returnedOf, h]

theorem life_returnOutputBuffer {b : StreamBuffer} : life f (returnOutputBuffer frame c b) =
    onFrame frame f (Life.returnBuffers c.flushOnGoing [b]) (life f c) := by
  unfold returnOutputBuffer
  dsimp only
  split
  next h =>
    rw [life_editPending (fun p => { p with status := some .buffer }) fun r => rfl,
      life_addReturned]
    unfold onFrame
    split
    · cases hl : (life f c).entry <;> simp [Life.returnBuffers, Progress.noteErrors, hl, h]
    · rfl
  next h =>
    rw [life_addReturned]
    unfold onFrame
    split
    · cases hl : (life f c).entry <;> simp [Life.returnBuffers, Progress.noteErrors, hl, h]
    · rfl

theorem life_returnOutputBuffers : life f (c.returnOutputBuffers bs frame) =
    onFrame frame f (Life.returnBuffers c.flushOnGoing bs) (life f c) := by
  unfold returnOutputBuffers
  induction bs generalizing c with
  | nil => simp [onFrame, Life.returnBuffers_nil]
  | cons b bs ih =>
    rw [List.foldl_cons, ih, life_returnOutputBuffer, flushOnGoing_returnOutputBuffer]
    unfold onFrame
    split
    · rw [Life.returnBuffers_cons]
    · rfl

theorem life_erase {errors : FrameMap PendingRequest} :
    life f { c with pendingErrorRequests := errors
                    pendingRequests := c.pendingRequests.erase frame } =
      onFrame frame f (fun l => { l with entry := none }) (life f c) := by
  unfold onFrame
  split
  next h => simp [life, returnedOf, h]
  next h => simp [life, returnedOf, Std.ExtTreeMap.getElem?_erase, h]

theorem life_removePendingRequestLocked : life f (c.removePendingRequestLocked frame) =
    onFrame frame f Life.settle (life f c) := by
  unfold removePendingRequestLocked
  split
  next hr =>
    unfold onFrame
    split
    next h => subst h; simp [Life.settle, life, hr]
    · rfl
  next r hr =>
    have hentry : (life frame c).entry = some r.progress := by simp [life, hr]
    split
    next h =>
      rw [life_erase, life_returnOutputBuffers]
      unfold onFrame
      split
      next heq =>
        subst heq
        simp [Life.settle, hentry, PendingRequest.isComplete_iff.mp h, Life.returnBuffers]
        rfl
      · rfl
    next h =>
      rw [PendingRequest.isComplete_iff] at h
      unfold onFrame
      split
      next heq => subst heq; simp [Life.settle, hentry, h]
      · rfl

/-- All that the life of a frame number depends on. -/
def tables (c : DeviceClient) :
    FrameMap PendingRequest × List (UInt32 × StreamBuffer) × Bool :=
  (c.pendingRequests, c.returned, c.flushOnGoing)

theorem life_congr (h : tables d = tables c) : life f d = life f c := by
  obtain ⟨hp, hr, -⟩ : d.pendingRequests = c.pendingRequests ∧ d.returned = c.returned ∧ _ := by
    simpa [tables] using h
  simp [life, returnedOf, hp, hr]

theorem flushOnGoing_congr (h : tables d = tables c) : d.flushOnGoing = c.flushOnGoing :=
  congrArg (fun x => x.2.2) h

theorem tables_setNextResult {input : Bool} {n : UInt32} :
    tables (c.setNextResult input n) = tables c := by
  unfold setNextResult
  split <;> rfl

theorem tables_setNextShutter {input : Bool} {n : UInt32} :
    tables (c.setNextShutter input n) = tables c := by
  unfold setNextShutter
  split <;> rfl

theorem tables_sendCaptureResult {metadata collected : Metadata} {extras : CaptureResultExtras} :
    tables (c.sendCaptureResult cfg metadata extras collected frame updates) = tables c := by
  unfold sendCaptureResult
  dsimp only
  repeat' split
  all_goals first | rfl | exact tables_setNextResult

theorem tables_sendFinal {collected : Metadata} :
    tables (c.sendFinal cfg res r collected updates) = tables c := by
  unfold sendFinal
  split
  · split
    · rfl
    · exact tables_sendCaptureResult
  · rfl

theorem tables_handlePartialResult {extras : CaptureResultExtras} :
    tables (c.handlePartialResult cfg frame extras updates).2 = tables c := by
  unfold handlePartialResult
  repeat' split
  all_goals rfl

theorem tables_composePartial (cfg : Config) (c : DeviceClient) (res : CaptureResult)
    (r : PendingRequest) (updates : Bool) :
    tables (c.composePartial cfg res r updates).1 = tables c := by
  unfold composePartial
  split
  · split
    · exact tables_handlePartialResult
    · rfl
  · rfl

theorem progress_composePartial (cfg : Config) (c : DeviceClient) (res : CaptureResult)
    (r : PendingRequest) (updates : Bool) :
    (c.composePartial cfg res r updates).2.progress = r.progress := by
  unfold composePartial
  repeat' split
  all_goals rfl

theorem progress_notePartialCount : (notePartialCount res r).progress = r.progress := by
  unfold notePartialCount
  split <;> rfl

theorem progress_noteSensorTimestamp : (noteSensorTimestamp res r).progress = r.progress := by
  unfold noteSensorTimestamp
  split <;> rfl

theorem progress_park {collected : Metadata} : (park cfg res collected r).progress =
    if r.shutterTS = 0 then { r.progress with parked := r.pendingBuffers ++ res.outputBuffers }
    else r.progress := by
  unfold park
  repeat' split
  all_goals rfl

theorem life_deliverResult {collected : Metadata} :
    life f (c.deliverResult cfg res r collected updates) = onFrame res.frameNumber f
      (fun l => l.deliver c.flushOnGoing r.progress res.outputBuffers) (life f c) := by
  have hr : (noteSensorTimestamp res r).progress = r.progress := progress_noteSensorTimestamp
  have hts : (noteSensorTimestamp res r).shutterTS = r.progress.shutterTS :=
    congrArg Progress.shutterTS hr
  have hbs : (noteSensorTimestamp res r).pendingBuffers = r.progress.parked :=
    congrArg Progress.parked hr
  unfold deliverResult
  dsimp only
  -- sending the result changes nothing that concerns a frame number
  generalize hd : (c.setPending res.frameNumber (park cfg res collected
    (noteSensorTimestamp res r))).sendFinal cfg res (noteSensorTimestamp res r) collected updates = d
  have htables : tables d = _ := hd ▸ tables_sendFinal
  have hflush : d.flushOnGoing = c.flushOnGoing := by
    rw [flushOnGoing_congr htables, flushOnGoing_setPending]
  have hlife := (life_congr (f := f) htables).trans life_setPending
  rw [progress_park, hr, hts, hbs] at hlife
  rw [hts, show ∀ d, life f (returnInputBuffer d res) = life f d from fun d => rfl,
    life_removePendingRequestLocked]
  by_cases hzero : r.progress.shutterTS = 0
  · have hpos : ¬ 0 < r.progress.shutterTS := by omega
    rw [if_pos hzero] at hlife
    rw [if_neg hpos, hlife, onFrame_onFrame]
    simp only [Life.deliver, if_pos hzero]
  · rw [if_neg hzero] at hlife
    split
    next hpos =>
      rw [life_returnOutputBuffers, hlife, hflush, onFrame_onFrame, onFrame_onFrame]
      simp only [Life.deliver, if_neg hzero, if_pos hpos]
    next hpos =>
      rw [hlife, onFrame_onFrame]
      simp only [Life.deliver, if_neg hzero, if_neg hpos]

/-- A shutter of a pending frame whose turn is past. -/
def isShutterLate (c : DeviceClient) (frame : UInt32) : Bool :=
  (c.pendingRequests[frame]?).any fun r => frame < c.nextShutter r.resultExtras.input

theorem life_notifyShutter (cfg : Config) (c : DeviceClient) (frame : UInt32) (timestamp : Int)
    (updates : Bool) (f : UInt32) :
    life f (c.notifyShutter cfg frame timestamp updates) = if c.isShutterLate frame then life f c
      else onFrame frame f (fun l => l.shutter c.flushOnGoing timestamp) (life f c) := by
  unfold notifyShutter isShutterLate
  split
  next hr =>
    rw [hr, Option.any_none, if_neg Bool.false_ne_true]
    unfold onFrame
    split
    next heq =>
      subst heq
      simp [Life.shutter, Life.settle, Life.returnBuffers, Life.parked, life, hr]
    · rfl
  next r hr =>
  rw [hr, Option.any_some]
  split
  next hlate => rw [if_pos (decide_eq_true hlate)]
  next hlate =>
  rw [if_neg (by simpa using hlate)]
  dsimp only
  generalize hd : ((c.setNextShutter r.resultExtras.input (frame + 1)).setPending frame
    { r with shutterTS := timestamp }).sendCaptureResult cfg r.pendingMetadata r.resultExtras
      r.composedResult frame updates = d
  have htables : tables d = _ := hd ▸ tables_sendCaptureResult
  have hflush : d.flushOnGoing = c.flushOnGoing := by
    rw [flushOnGoing_congr htables, flushOnGoing_setPending,
      flushOnGoing_congr tables_setNextShutter]
  have hlife := (life_congr (f := f) htables).trans life_setPending
  rw [life_congr tables_setNextShutter] at hlife
  rw [life_removePendingRequestLocked,
    life_editPending (fun p => { p with parked := [] }) fun r => rfl,
    life_returnOutputBuffers, hlife, hflush, onFrame_onFrame, onFrame_onFrame, onFrame_onFrame]
  unfold onFrame
  split
  next heq =>
    subst heq
    have hentry : (life frame c).entry = some r.progress := by simp [life, hr]
    simp [Life.shutter, hentry, Life.setEntry, Life.returnBuffers, Life.parked]
    rfl
  · rfl

/-- A result with nothing in it. -/
def isEmptyResult (res : CaptureResult) : Bool :=
  res.result.isNone && res.outputBuffers.isEmpty && res.inputBuffer.isNone

/-- The result passes every check of `HandleCaptureResult`. -/
def passesChecks (cfg : Config) (c : DeviceClient) (res : CaptureResult) : Bool :=
  !isEmptyResult res &&
    !(!cfg.isPartialResultSupported && res.result.isSome && res.partialResult ≠ 1) &&
    (c.pendingRequests[res.frameNumber]?).any fun r =>
      !isPartialCountInvalid cfg res && !((finalMetadata cfg res).isSome && r.isMetaPresent) &&
        (numBuffersReturned res : Int) ≤ r.buffersRemaining

/-- What a result can do to the life of its frame number. -/
inductive ResultOutcome (cfg : Config) (c : DeviceClient) (res : CaptureResult) :
    (Life → Life) → Prop where
  | refused (hchecks : passesChecks cfg c res = false) : ResultOutcome cfg c res id
  | overdrawn {r : PendingRequest} (hr : c.pendingRequests[res.frameNumber]? = some r)
      (hmany : r.buffersRemaining < numBuffersReturned res) :
      ResultOutcome cfg c res (Life.setEntry
        (r.progress.count (finalMetadata cfg res).isSome (numBuffersReturned res)))
  | delivered {r : PendingRequest} (hr : c.pendingRequests[res.frameNumber]? = some r)
      (hchecks : passesChecks cfg c res = true) :
      ResultOutcome cfg c res fun l => l.deliver c.flushOnGoing
        (r.progress.count (finalMetadata cfg res).isSome (numBuffersReturned res))
        res.outputBuffers

/-- An entry that is written back without progress. -/
theorem onFrame_setEntry {r : PendingRequest} (hr : c.pendingRequests[frame]? = some r) :
    onFrame frame f (Life.setEntry r.progress) (life f c) = onFrame frame f id (life f c) := by
  unfold onFrame
  split
  next heq =>
    subst heq
    simp [Life.setEntry, life, hr]
  · rfl

theorem progress_countResult : (countResult cfg res r).progress =
    r.progress.count (finalMetadata cfg res).isSome (numBuffersReturned res) := rfl

theorem outcome_handleCaptureResult (cfg : Config) (c : DeviceClient) (res : CaptureResult)
    (updates : Bool) : ∃ g, ResultOutcome cfg c res g ∧
    ∀ f, life f (c.handleCaptureResult cfg res updates) =
      onFrame res.frameNumber f g (life f c) := by
  have hid : ∀ f l, onFrame res.frameNumber f id l = l := fun f l => by
    unfold onFrame
    split <;> rfl
  unfold handleCaptureResult
  split
  next h =>
    exact ⟨id, .refused (by rw [passesChecks, isEmptyResult, h]; rfl), fun f => (hid f _).symm⟩
  next hsome =>
  split
  next h =>
    exact ⟨id, .refused (by rw [passesChecks, h]; simp), fun f => (hid f _).symm⟩
  next hcount =>
  split
  next hr => exact ⟨id, .refused (by simp [passesChecks, hr]), fun f => (hid f _).symm⟩
  next r hr =>
  dsimp only
  split
  next hbad =>
    refine ⟨id, .refused (by simp [passesChecks, hr, hbad]), fun f => ?_⟩
    rw [life_setPending, progress_notePartialCount, onFrame_setEntry hr]
  next hbad =>
  have hprog := (progress_composePartial cfg c res (notePartialCount res r) updates).trans
    progress_notePartialCount
  have htables := tables_composePartial cfg c res (notePartialCount res r) updates
  generalize c.composePartial cfg res (notePartialCount res r) updates = x at hprog htables ⊢
  obtain ⟨d, r'⟩ := x
  dsimp only at hprog htables ⊢
  have hmeta : r'.isMetaPresent = r.isMetaPresent := congrArg Progress.hasMetadata hprog
  have hrem : r'.buffersRemaining = r.buffersRemaining := congrArg Progress.remaining hprog
  split
  next htwice =>
    refine ⟨id, .refused ?_, fun f => ?_⟩
    · rw [hmeta] at htwice
      rw [passesChecks, hr, Option.any_some, htwice]
      simp
    · rw [life_setPending, hprog, life_congr htables, onFrame_setEntry hr]
  next htwice =>
  split
  next hmany =>
    refine ⟨_, .overdrawn hr ?_, fun f => ?_⟩
    · simp only [countResult, hrem] at hmany
      omega
    · rw [life_setPending, progress_countResult, hprog, life_congr htables]
  next hmany =>
    refine ⟨_, .delivered hr ?_, fun f => ?_⟩
    · rw [hmeta] at htwice
      simp only [countResult, hrem] at hmany
      simp only [passesChecks, isEmptyResult, hr, Option.any_some, Bool.and_eq_true,
        Bool.not_eq_true', decide_eq_true_eq]
      exact ⟨⟨Bool.eq_false_iff.mpr hsome, Bool.eq_false_iff.mpr hcount⟩,
        ⟨Bool.eq_false_iff.mpr hbad, Bool.eq_false_iff.mpr htwice⟩, by omega⟩
    · rw [life_deliverResult, progress_countResult, hprog, life_congr htables,
        flushOnGoing_congr htables]

theorem kind_fail {code : HalError} :
    (life f (c.editPending frame fun r => { r with status := some code })).kind =
      (life f c).kind := by
  rw [life_editPending (fun p => { p with status := some code }) fun r => rfl]
  unfold onFrame
  split
  · cases hl : (life f c).entry <;> simp [Life.kind, hl]
  · rfl

/-- Callbacks of the HAL only remove requests, and never change their kind. -/
theorem kind_step (he : e.isMark = false) : (life f (c.step cfg e)).kind = (life f c).kind ∨
    (life f (c.step cfg e)).kind = none := by
  cases e with
  | mark frame numBuffers extras => simp [Event.isMark] at he
  | result res updates =>
    obtain ⟨g, hg, hlife⟩ := outcome_handleCaptureResult cfg c res updates
    rw [step, hlife]
    unfold onFrame
    split
    next heq =>
      subst heq
      have hkind : ∀ r, c.pendingRequests[res.frameNumber]? = some r →
          (life res.frameNumber c).kind = some r.progress.input :=
        fun r hr => by simp [Life.kind, life, hr]
      cases hg with
      | refused h => exact .inl rfl
      | overdrawn hr _ => exact .inl (hkind _ hr).symm
      | delivered hr _ =>
        rw [hkind _ hr]
        exact Life.kind_deliver
    · exact .inl rfl
  | shutter frame timestamp updates =>
    rw [step, life_notifyShutter]
    split
    · exact .inl rfl
    · unfold onFrame
      split
      · exact Life.kind_shutter
      · exact .inl rfl
  | error code frame =>
    left
    cases code with
    | request | result | buffer =>
      rw [step, notifyError, kind_fail]
    | invalid | device => rfl
  | flush on => exact .inl rfl

end DeviceClient

end QmmfSdk.Camera3
