import QmmfSdk.Camera3.RequestHandler
import QmmfSdk.Camera3.ResultOrder

/-! The order in which shutter notifications reach the client. -/
namespace QmmfSdk.Camera3

open Library

namespace DeviceClient

variable {cfg : Config} {c d : DeviceClient} {e : Event} {frame : UInt32} {n : Bool → UInt32}
  {r : PendingRequest} {updates : Bool}

/-- A request is registered under its own frame number. -/
def Keyed (c : DeviceClient) : Prop :=
  ∀ (f : UInt32) (r : PendingRequest), c.pendingRequests[f]? = some r →
    r.resultExtras.frameNumber = f

/-- The table is keyed and `n` gives the next shutter expected of each kind. -/
structure Tracked (n : Bool → UInt32) (c : DeviceClient) : Prop where
  keyed : Keyed c
  next : ∀ k, c.nextShutter k = n k

theorem Tracked.congr (h : Tracked n c) (hp : d.pendingRequests = c.pendingRequests)
    (hn : ∀ k, d.nextShutter k = c.nextShutter k) : Tracked n d :=
  ⟨fun f r hr => h.keyed f r (hp ▸ hr), fun k => (hn k).trans (h.next k)⟩

theorem tracked_setPending (h : Tracked n c) (hr : r.resultExtras.frameNumber = frame) :
    Tracked n (c.setPending frame r) := by
  refine ⟨fun f r' hr' => ?_, h.next⟩
  simp only [setPending, Std.ExtTreeMap.getElem?_insert, Std.LawfulEqOrd.compare_eq_iff_eq] at hr'
  split at hr'
  next heq =>
    obtain rfl := Option.some.inj hr'
    exact hr.trans heq
  · exact h.keyed f r' hr'

theorem tracked_editPending {g : PendingRequest → PendingRequest} (h : Tracked n c)
    (hg : ∀ r, (g r).resultExtras = r.resultExtras) : Tracked n (c.editPending frame g) := by
  unfold editPending
  split
  next r hr => exact tracked_setPending h ((hg r).symm ▸ h.keyed frame r hr)
  · exact h

theorem tracked_returnOutputBuffer {b : StreamBuffer} (h : Tracked n c) :
    Tracked n (returnOutputBuffer frame c b) := by
  have h' : Tracked n { c with returned := c.returned ++ [(frame, b)] } :=
    h.congr rfl fun k => rfl
  unfold returnOutputBuffer
  dsimp only
  split
  · exact tracked_editPending h' fun r => rfl
  · exact h'

theorem tracked_returnOutputBuffers {bs : List StreamBuffer} (h : Tracked n c) :
    Tracked n (c.returnOutputBuffers bs frame) := by
  unfold returnOutputBuffers
  induction bs generalizing c with
  | nil => exact h
  | cons b bs ih => exact ih (tracked_returnOutputBuffer h)

theorem tracked_erase {errors : FrameMap PendingRequest} (h : Tracked n c) :
    Tracked n { c with pendingErrorRequests := errors
                       pendingRequests := c.pendingRequests.erase frame } := by
  refine ⟨fun f r hr => ?_, h.next⟩
  simp only [Std.ExtTreeMap.getElem?_erase, Std.LawfulEqOrd.compare_eq_iff_eq] at hr
  split at hr
  · simp at hr
  · exact h.keyed f r hr

theorem tracked_removePendingRequestLocked (h : Tracked n c) :
    Tracked n (c.removePendingRequestLocked frame) := by
  unfold removePendingRequestLocked
  split
  · exact h
  split
  · exact tracked_erase (tracked_returnOutputBuffers h)
  · exact h

theorem tracked_sendCaptureResult {metadata collected : Metadata} {extras : CaptureResultExtras}
    (h : Tracked n c) :
    Tracked n (c.sendCaptureResult cfg metadata extras collected frame updates) := by
  have hset : Tracked n (c.setNextResult extras.input (frame + 1)) := by
    unfold setNextResult
    split <;> exact h.congr rfl fun k => rfl
  unfold sendCaptureResult
  dsimp only
  repeat' split
  all_goals first | exact h | exact hset | exact hset.congr rfl fun k => rfl

theorem tracked_sendFinal (cfg : Config) (res : CaptureResult) (r : PendingRequest)
    (collected : Metadata) (updates : Bool) (h : Tracked n c) :
    Tracked n (c.sendFinal cfg res r collected updates) := by
  unfold sendFinal
  repeat' split
  · exact h
  · exact tracked_sendCaptureResult h
  · exact h

theorem tracked_handlePartialResult {extras : CaptureResultExtras} (h : Tracked n c) :
    Tracked n (c.handlePartialResult cfg frame extras updates).2 := by
  unfold handlePartialResult
  repeat' split
  all_goals exact h.congr rfl fun k => rfl

theorem tracked_composePartial (cfg : Config) (res : CaptureResult) (r : PendingRequest)
    (updates : Bool) (h : Tracked n c) :
    Tracked n (c.composePartial cfg res r updates).1 ∧
      (c.composePartial cfg res r updates).2.resultExtras = r.resultExtras := by
  unfold composePartial
  split
  · split
    · exact ⟨tracked_handlePartialResult h, rfl⟩
    · exact ⟨h, rfl⟩
  · exact ⟨h, rfl⟩

theorem frameNumber_notePartialCount {res : CaptureResult} :
    (notePartialCount res r).resultExtras.frameNumber = r.resultExtras.frameNumber := by
  unfold notePartialCount
  split <;> rfl

theorem resultExtras_noteSensorTimestamp {res : CaptureResult} :
    (noteSensorTimestamp res r).resultExtras = r.resultExtras := by
  unfold noteSensorTimestamp
  split <;> rfl

theorem resultExtras_park {res : CaptureResult} {collected : Metadata} :
    (park cfg res collected r).resultExtras = r.resultExtras := by
  unfold park
  repeat' split
  all_goals rfl

theorem tracked_deliverResult {res : CaptureResult} {collected : Metadata} (h : Tracked n c)
    (hr : r.resultExtras.frameNumber = res.frameNumber) :
    Tracked n (c.deliverResult cfg res r collected updates) := by
  have hpark : Tracked n (c.setPending res.frameNumber
      (park cfg res collected (noteSensorTimestamp res r))) := by
    apply tracked_setPending h
    rw [resultExtras_park, resultExtras_noteSensorTimestamp, hr]
  have hsent := tracked_sendFinal cfg res (noteSensorTimestamp res r) collected updates hpark
  have hinput : ∀ {d : DeviceClient}, Tracked n d → Tracked n (d.returnInputBuffer res) :=
    fun hd => hd.congr rfl fun k => rfl
  unfold deliverResult
  dsimp only
  split
  · exact hinput (tracked_removePendingRequestLocked (tracked_returnOutputBuffers hsent))
  · exact hinput (tracked_removePendingRequestLocked hsent)

theorem tracked_handleCaptureResult {res : CaptureResult} (h : Tracked n c) :
    Tracked n (c.handleCaptureResult cfg res updates) := by
  unfold handleCaptureResult
  split
  · exact h
  split
  · exact h
  split
  · exact h.congr rfl fun k => rfl
  next r hr =>
  have hnote : (notePartialCount res r).resultExtras.frameNumber = res.frameNumber :=
    frameNumber_notePartialCount.trans (h.keyed _ r hr)
  dsimp only
  split
  · exact tracked_setPending h hnote
  obtain ⟨hcomp, hextras⟩ := tracked_composePartial cfg res (notePartialCount res r) updates h
  rw [← hextras] at hnote
  split
  · exact tracked_setPending hcomp hnote
  split
  · exact tracked_setPending hcomp hnote
  · exact tracked_deliverResult hcomp hnote

theorem tracked_setNextShutter {k : Bool} {m : UInt32} (h : Tracked n c) :
    Tracked (Function.update n k m) (c.setNextShutter k m) := by
  refine ⟨?_, fun j => ?_⟩
  · unfold setNextShutter
    split <;> exact (h.congr rfl fun k => rfl).keyed
  · have hj := h.next j
    cases k <;> cases j <;> simp_all [setNextShutter, nextShutter]

/-- A shutter that is in order moves the expected number of its kind only. -/
theorem tracked_notifyShutter (cfg : Config) (timestamp : Int) (updates : Bool) (h : Tracked n c)
    (hr : c.pendingRequests[frame]? = some r) (hle : n r.resultExtras.input ≤ frame) :
    Tracked (Function.update n r.resultExtras.input (frame + 1))
      (c.notifyShutter cfg frame timestamp updates) := by
  have hlt : ¬ frame < c.nextShutter r.resultExtras.input := by
    rw [h.next]
    exact UInt32.not_lt.mpr hle
  unfold notifyShutter
  rw [hr]
  dsimp only
  rw [if_neg hlt]
  apply tracked_removePendingRequestLocked
  refine tracked_editPending ?_ fun r => rfl
  apply tracked_returnOutputBuffers
  apply tracked_sendCaptureResult
  exact tracked_setPending (tracked_setNextShutter h) (h.keyed frame r hr)

/-- Apart from shutters no callback moves an expected number. -/
theorem tracked_step (cfg : Config) (e : Event) (h : Tracked n c) (hmark : e.isMark = false)
    (hshutter : ∀ frame ts updates, e ≠ .shutter frame ts updates) : Tracked n (c.step cfg e) := by
  cases e with
  | mark frame numBuffers extras => simp [Event.isMark] at hmark
  | result res updates => exact tracked_handleCaptureResult h
  | shutter frame ts updates => exact absurd rfl (hshutter frame ts updates)
  | error code frame =>
    cases code with
    | invalid => exact h
    | device => exact h
    | request => exact tracked_editPending h fun r => rfl
    | result => exact tracked_editPending h fun r => rfl
    | buffer => exact tracked_editPending h fun r => rfl
  | flush on => exact h.congr rfl fun k => rfl

/-- What `NotifyShutter` passes to `client_cb_.shutterCb`: the kind and the frame number of the
pending request. The call comes before the check of the order. -/
def shutterCalls (c : DeviceClient) (frame : UInt32) : List (Bool × UInt32) :=
  (c.pendingRequests[frame]?.map fun r => (r.resultExtras.input, r.resultExtras.frameNumber)).toList

end DeviceClient

/-- A camera and the shutter notifications that its client has received. -/
structure ShutterWatch where
  camera : Camera := {}
  calls : List (Bool × UInt32) := []

namespace ShutterWatch

variable {cfg : Config} {hasShutterCb : Bool} {s t : ShutterWatch} {a : Camera.Action} {k : Bool}

def callsOf (hasShutterCb : Bool) (c : DeviceClient) : Camera.Action → List (Bool × UInt32)
  | .hal (.shutter frame _ _) => if hasShutterCb then c.shutterCalls frame else []
  | _ => []

def step (cfg : Config) (hasShutterCb : Bool) (s : ShutterWatch) (a : Camera.Action) :
    Option ShutterWatch := do
  return { camera := ← s.camera.step cfg a
           calls := s.calls ++ callsOf hasShutterCb s.camera.client a }

def lts (cfg : Config) (hasShutterCb : Bool) : LTS ShutterWatch Camera.Action :=
  .ofStep (step cfg hasShutterCb)

/-- The frame numbers of the notifications of one kind. -/
def shutters (s : ShutterWatch) (k : Bool) : List UInt32 :=
  (s.calls.filter fun p => p.1 == k).map Prod.snd

/-- A shutter for a pending request is not behind the number expected of its kind, nor is it for
the last frame number. -/
def inOrder (s : ShutterWatch) : Camera.Action → Bool
  | .hal (.shutter frame _ _) => (s.camera.client.pendingRequests[frame]?).all fun r =>
      s.camera.client.nextShutter r.resultExtras.input ≤ frame &&
        frame ≠ UInt32.ofNat (2 ^ 32 - 1)
  | _ => true

/-- Requests are registered under their own numbers, and what was notified ascends below the
expected number. -/
structure Ordered (s : ShutterWatch) : Prop where
  keyed : s.camera.client.Keyed
  ascending : ∀ k, DeviceClient.Ascending [] (s.camera.client.nextShutter k, s.shutters k)

theorem Ordered.mono {n : Bool → UInt32} (h : Ordered s)
    (ht : DeviceClient.Tracked n t.camera.client) (hn : ∀ k, n k = s.camera.client.nextShutter k)
    (hcalls : t.calls = s.calls) : Ordered t := by
  refine ⟨ht.keyed, fun k => ?_⟩
  rw [ht.next k, hn k, shutters, hcalls]
  exact h.ascending k

/-- A step that leaves the client alone. -/
theorem Ordered.frame (h : Ordered s) (hclient : t.camera.client = s.camera.client)
    (hcalls : t.calls = s.calls) : Ordered t := by
  refine h.mono ?_ (fun _ => rfl) hcalls
  rw [hclient]
  exact ⟨h.keyed, fun _ => rfl⟩

/-- The handler registers a request under the number it carries. -/
theorem Ordered.submit {r : CaptureRequest} {inBuf : Bool} {o : Submission} (h : Ordered s)
    (hclient : t.camera.client = Camera.submitRequest s.camera.client r inBuf o)
    (hcalls : t.calls = s.calls) : Ordered t := by
  unfold Camera.submitRequest at hclient
  split at hclient
  · refine h.mono ?_ (fun _ => rfl) hcalls
    rw [hclient]
    exact DeviceClient.tracked_setPending ⟨h.keyed, fun _ => rfl⟩ rfl
  · exact h.frame hclient hcalls

theorem shutters_append {xs : List (Bool × UInt32)} {c : Camera} :
    shutters { camera := c, calls := s.calls ++ xs } k =
      s.shutters k ++ (xs.filter fun p => p.1 == k).map Prod.snd := by
  simp [shutters]

/-- A shutter in order accepts its frame for its kind and does not concern the other kind. -/
theorem ordered_shutter {frame : UInt32} {timestamp : Int} {updates : Bool} (h : Ordered s)
    (hguard : s.inOrder (.hal (.shutter frame timestamp updates)) = true) :
    Ordered { camera := { s.camera with
                client := s.camera.client.notifyShutter cfg frame timestamp updates }
              calls := s.calls ++ callsOf hasShutterCb s.camera.client
                (.hal (.shutter frame timestamp updates)) } := by
  cases hr : s.camera.client.pendingRequests[frame]? with
  | none =>
    apply h.frame
    · simp [DeviceClient.notifyShutter, hr]
    · simp [callsOf, DeviceClient.shutterCalls, hr]
  | some r =>
    simp only [inOrder, hr, Option.all_some, Bool.and_eq_true, decide_eq_true_eq] at hguard
    obtain ⟨hle, hlast⟩ := hguard
    have htracked := DeviceClient.tracked_notifyShutter cfg timestamp updates
      ⟨h.keyed, fun _ => rfl⟩ hr hle
    refine ⟨htracked.keyed, fun k => ?_⟩
    suffices haccepts : DeviceClient.Accepts frame _ _ from
      DeviceClient.ascending_accepts haccepts hlast (h.ascending k)
    rw [htracked.next k, shutters_append]
    have hkey := h.keyed frame r hr
    by_cases hk : k = r.resultExtras.input
    · subst hk
      cases hasShutterCb with
      | true => simpa [callsOf, DeviceClient.shutterCalls, hr, hkey] using .reported hle
      | false => simpa [callsOf] using .dropped hle
    · have hk' : (r.resultExtras.input == k) = false := by simpa using Ne.symm hk
      cases hasShutterCb with
      | true => simpa [callsOf, DeviceClient.shutterCalls, hr, hk, hk'] using .nothing
      | false => simpa [callsOf, hk] using .nothing

theorem ordered_hal {e : DeviceClient.Event} (h : Ordered s)
    (hguard : s.inOrder (.hal e) = true) (hmark : e.isMark = false) :
    Ordered { camera := { s.camera with client := s.camera.client.step cfg e }
              calls := s.calls ++ callsOf hasShutterCb s.camera.client (.hal e) } := by
  cases e with
  | shutter frame timestamp updates => exact ordered_shutter h hguard
  | mark frame numBuffers extras => simp [DeviceClient.Event.isMark] at hmark
  | result res updates =>
    have htracked := DeviceClient.tracked_step cfg (.result res updates)
      ⟨h.keyed, fun _ => rfl⟩ hmark (by simp)
    exact h.mono htracked (fun _ => rfl) (by simp [callsOf])
  | error code frame =>
    have htracked := DeviceClient.tracked_step cfg (.error code frame)
      ⟨h.keyed, fun _ => rfl⟩ hmark (by simp)
    exact h.mono htracked (fun _ => rfl) (by simp [callsOf])
  | flush on =>
    have htracked := DeviceClient.tracked_step cfg (.flush on)
      ⟨h.keyed, fun _ => rfl⟩ hmark (by simp)
    exact h.mono htracked (fun _ => rfl) (by simp [callsOf])

theorem ordered_step (h : Ordered s) (hguard : s.inOrder a = true)
    (hstep : s.step cfg hasShutterCb a = some t) : Ordered t := by
  obtain ⟨d, hd, ht⟩ := Option.bind_eq_some_iff.mp hstep
  obtain rfl := Option.some.inj ht
  cases a with
  | addRequestList rs streaming =>
    obtain ⟨x, -, hx⟩ := Option.bind_eq_some_iff.mp hd
    obtain rfl := Option.some.inj hx
    exact h.frame rfl (by simp [callsOf])
  | clearRepeatingRequests =>
    obtain rfl := Option.some.inj hd
    exact h.frame rfl (by simp [callsOf])
  | clear =>
    obtain rfl := Option.some.inj hd
    exact h.frame rfl (by simp [callsOf])
  | getRequest =>
    simp only [Camera.step] at hd
    split at hd
    · simp at hd
    · obtain rfl := Option.some.inj hd
      exact h.frame rfl (by simp [callsOf])
  | exitPending =>
    obtain rfl := Option.some.inj hd
    exact h.frame rfl (by simp [callsOf])
  | submitRequest o =>
    obtain ⟨r, -, hx⟩ := Option.bind_eq_some_iff.mp hd
    obtain rfl := Option.some.inj hx
    exact h.submit rfl (by simp [callsOf])
  | nextReproc =>
    simp only [Camera.step] at hd
    split at hd
    · simp at hd
    · obtain rfl := Option.some.inj hd
      exact h.frame rfl (by simp [callsOf])
  | submitReproc o =>
    obtain ⟨r, -, hx⟩ := Option.bind_eq_some_iff.mp hd
    obtain rfl := Option.some.inj hx
    exact h.submit rfl (by simp [callsOf])
  | hal e =>
    simp only [Camera.step] at hd
    split at hd
    · simp at hd
    next hmark =>
      obtain rfl := Option.some.inj hd
      exact ordered_hal h hguard (by simpa using hmark)

theorem ordered_initial : Ordered {} where
  keyed f r hr := by simp at hr
  ascending k := ⟨[], by simp [shutters], .nil, by simp⟩

/-- In every run in which the HAL sends no shutter behind the expected number, the notifications
of each kind ascend. -/
theorem shutters_ascend_of_inOrder (cfg : Config) (hasShutterCb : Bool)
    (as : List Camera.Action) (t : ShutterWatch)
    (h : ((lts cfg hasShutterCb).guarded fun s a => s.inOrder a = true).MTr {} as t) (k : Bool) :
    (t.shutters k).Pairwise (· < ·) := by
  have hinv : ((lts cfg hasShutterCb).guarded fun s a => s.inOrder a = true).TrInv Ordered :=
    fun s a t hstep hs => ordered_step hs hstep.2 hstep.1
  obtain ⟨new, hnew, hsorted, -⟩ := (LTS.inv_of_mTr hinv h ordered_initial).ascending k
  rw [show t.shutters k = new from hnew]
  exact hsorted

/-- Two requests of two buffers each, submitted one after the other. -/
def submitTwo : List Camera.Action :=
  [.addRequestList [⟨[0, 1], {}⟩, ⟨[0, 1], {}⟩] false, .getRequest, .submitRequest .accepted,
    .getRequest, .submitRequest .accepted]

/-- Their shutters in order, with a result in between. -/
def orderedRun : List Camera.Action :=
  submitTwo ++ [.hal (.shutter 0 5 true),
    .hal (.result { frameNumber := 0, outputBuffers := [⟨1, 0, false⟩] } true),
    .hal (.shutter 1 9 true)]

theorem shutters_ascend_two :
    ((LTS.run (step {} true) {} orderedRun).map fun t => t.shutters false) = some [0, 1] ∧
      ∃ t, ((lts {} true).guarded fun s a => s.inOrder a = true).MTr {} orderedRun t ∧
        ∀ k, (t.shutters k).Pairwise (· < ·) := by
  have hcalls : ((LTS.run (step {} true) {} orderedRun).map fun t => t.shutters false) =
      some [0, 1] := by decide
  obtain ⟨t, hrun, -⟩ := Option.map_eq_some_iff.mp hcalls
  have hguard : ((lts {} true).guarded fun s a => s.inOrder a = true).MTr {} orderedRun t :=
    LTS.mTr_guarded_iff.mpr ⟨hrun, by decide⟩
  exact ⟨hcalls, t, hguard, shutters_ascend_of_inOrder {} true orderedRun t hguard⟩

/-- The HAL notifies frame 1 and then frame 0: the check comes too late. -/
theorem late_shutter_reaches_client :
    ¬ ∀ (cfg : Config) (hasShutterCb : Bool) (as : List Camera.Action) (t : ShutterWatch),
      (lts cfg hasShutterCb).MTr {} as t → ∀ k, (t.shutters k).Pairwise (· < ·) := by
  intro hall
  have hcalls : ((LTS.run (step {} true) {}
      (submitTwo ++ [.hal (.shutter 1 9 true), .hal (.shutter 0 5 true)])).map
        fun t => t.shutters false) = some [1, 0] := by decide
  obtain ⟨t, hrun, ht⟩ := Option.map_eq_some_iff.mp hcalls
  have hsorted := hall {} true _ t (LTS.mTr_ofStep_iff.mpr hrun) false
  rw [ht] at hsorted
  exact absurd hsorted (by decide)

end ShutterWatch

end QmmfSdk.Camera3
