import QmmfSdk.Camera3.Device

/-! Whether a stream that `DeleteStream` takes away is still used by a request. -/
namespace QmmfSdk.Camera3

open Library

namespace Device

variable {cfg : Config} {d e t : Device} {a : DeviceAction} {call : StreamCall} {ans : Answers}
  {o : HalConfigure} {stream : Nat}

/-- Requests that wait use streams that there are. -/
def OnlyLive (d : Device) : Prop := ∀ r ∈ d.loops.waiting,
  (∀ id ∈ r.streams, id ∈ d.streams) ∧ (r.input = true → d.inputStream.isSome = true)

/-- The check of `DeleteStream` sees everything that uses the stream. An output stream is unknown,
it is found active, or no request that the check leaves out uses it; of the input stream there is
no check, so no request uses it. -/
def finds (d : Device) (stream : Nat) : Bool :=
  if d.isInput stream then d.loops.waiting.all fun r => !r.input
  else !d.streams.contains stream || d.loops.isStreamActive stream ||
    d.loops.inHand.all fun r => !r.streams.contains stream

/-- The steps in which `DeleteStream` makes its check. -/
def findsUsers (d : Device) : DeviceAction → Bool
  | .deleteStream stream cache _ =>
    d.state == .error || (!cache && d.state == .running) || d.finds stream
  | .wake i true _ => (d.waits[i]?).all fun w =>
    w.resuming ||
      match w.call with
      | .deleteStream stream => d.finds stream
      | .createStream | .createInputStream => true
  | _ => true

/-- The requests are the same and no stream is gone. -/
structure Extends (d t : Device) : Prop where
  loops : t.loops = d.loops
  streams : ∀ id ∈ d.streams, id ∈ t.streams
  input : d.inputStream.isSome = true → t.inputStream.isSome = true

theorem Extends.refl : Extends d d := ⟨rfl, fun _ h => h, id⟩

theorem Extends.trans (h : Extends d e) (h' : Extends e t) : Extends d t :=
  ⟨h'.loops.trans h.loops, fun id hid => h'.streams id (h.streams id hid),
    fun hin => h'.input (h.input hin)⟩

theorem Extends.onlyLive (h : Extends d t) (hd : OnlyLive d) : OnlyLive t := by
  intro r hr
  rw [h.loops] at hr
  obtain ⟨hstreams, hinput⟩ := hd r hr
  exact ⟨fun id hid => h.streams id (hstreams id hid), fun hin => h.input (hinput hin)⟩

theorem extends_setErrorState : Extends d d.setErrorState := by
  unfold setErrorState
  split <;> exact ⟨rfl, fun _ h => h, id⟩

theorem extends_finish : Extends d (d.finish call) := by
  cases call <;> exact ⟨rfl, fun _ h => h, id⟩

theorem extends_configureStreamsLocked : Extends d (d.configureStreamsLocked o).2 := by
  unfold configureStreamsLocked
  split
  · exact .refl
  split
  · exact .refl
  · cases o <;> exact ⟨rfl, fun _ h => h, id⟩

theorem extends_internalResumeLocked : Extends d (d.internalResumeLocked call) := by
  have hfinish : ∀ {e : Device}, Extends d e → Extends d (e.finish call) :=
    fun h => h.trans extends_finish
  unfold internalResumeLocked
  dsimp only
  split
  · exact hfinish ⟨rfl, fun _ h => h, id⟩
  split
  · exact hfinish ⟨rfl, fun _ h => h, id⟩
  · exact ⟨rfl, fun _ h => h, id⟩

theorem extends_reconfigure : Extends d (d.reconfigure call o) := by
  have hconf := extends_configureStreamsLocked (d := d) (o := o)
  unfold reconfigure
  split
  next heq =>
    rw [heq] at hconf
    exact hconf
  next heq =>
    rw [heq] at hconf
    exact hconf.trans extends_internalResumeLocked

theorem extends_addStream : Extends d d.addStream := by
  refine ⟨rfl, fun id hid => ?_, id⟩
  unfold addStream
  dsimp only
  split
  · exact hid
  · exact List.mem_append_left _ hid

theorem extends_createStreamIdle {wasActive : Bool} :
    Extends d (d.createStreamIdle wasActive ans) := by
  unfold createStreamIdle
  split
  · exact .refl
  split
  · exact extends_addStream.trans extends_reconfigure
  · exact extends_addStream.trans extends_finish

theorem extends_createInputStreamIdle {wasActive : Bool} :
    Extends d (d.createInputStreamIdle wasActive ans) := by
  have hadd : Extends d d.addInputStream := ⟨rfl, fun _ h => h, fun _ => rfl⟩
  unfold createInputStreamIdle
  split
  · exact hadd.trans extends_reconfigure
  · exact hadd

/-- A stream that nothing uses may go. -/
theorem onlyLive_removeStream (h : OnlyLive d) (hactive : d.loops.isStreamActive stream = false)
    (hhand : ∀ r ∈ d.loops.inHand, stream ∉ r.streams) : OnlyLive (d.removeStream stream) := by
  intro r hr
  refine ⟨fun id hid => List.mem_filter.mpr ⟨(h r hr).1 id hid, ?_⟩, (h r hr).2⟩
  simp only [Loops.isStreamActive, Bool.or_eq_false_iff, List.any_eq_false,
    List.contains_iff_mem] at hactive
  obtain ⟨⟨-, hqueue⟩, hstreaming⟩ := hactive
  have hunused : stream ∉ r.streams := by
    rcases List.mem_append.mp hr with hr | hr
    · rcases List.mem_append.mp hr with hr | hr
      · exact hqueue r hr
      · exact hstreaming r hr
    · exact hhand r hr
  simp only [decide_eq_true_eq]
  rintro rfl
  exact hunused hid

theorem onlyLive_deleteStreamIdle {cache : Bool} (h : OnlyLive d) (hfinds : d.finds stream = true) :
    OnlyLive (d.deleteStreamIdle stream cache ans) := by
  unfold deleteStreamIdle
  split
  next hinput =>
    rw [finds, isInput, if_pos (by simp [hinput]), List.all_eq_true] at hfinds
    intro r hr
    exact ⟨(h r hr).1, fun hin => absurd hin (by simpa using hfinds r hr)⟩
  next hinput =>
  split
  · exact h
  next hmem =>
  split
  · exact h
  next hactive =>
  rw [Bool.not_eq_true] at hactive
  have hhand : ∀ r ∈ d.loops.inHand, stream ∉ r.streams := by
    rw [finds, isInput, if_neg (by simp [hinput])] at hfinds
    simp only [hactive, Bool.or_false, Bool.or_eq_true, Bool.not_eq_true', List.all_eq_true]
      at hfinds
    have hin : d.streams.contains stream = true := by simpa using hmem
    have hall := hfinds.resolve_left (by rw [hin]; simp)
    intro r hr
    simpa using hall r hr
  have hremoved := onlyLive_removeStream h hactive hhand
  dsimp only
  split
  · have hext : Extends (d.removeStream stream)
        { d.removeStream stream with reconfig := true } := ⟨rfl, fun _ h => h, id⟩
    exact (hext.trans extends_reconfigure).onlyLive hremoved
  · exact hremoved

theorem onlyLive_proceed (h : OnlyLive d)
    (hfinds : ∀ stream, call = .deleteStream stream → d.finds stream = true) :
    OnlyLive (d.proceed ans call) := by
  cases call with
  | createStream => exact extends_createStreamIdle.onlyLive h
  | createInputStream => exact extends_createInputStreamIdle.onlyLive h
  | deleteStream stream => exact onlyLive_deleteStreamIdle h (hfinds stream rfl)

theorem onlyLive_internalPauseLocked (h : OnlyLive d)
    (hfinds : d.state ≠ .running → ∀ stream, call = .deleteStream stream → d.finds stream = true) :
    OnlyLive (d.internalPauseLocked call ans) := by
  unfold internalPauseLocked
  dsimp only
  split
  · exact h
  next hidle => exact onlyLive_proceed h (hfinds hidle)

theorem onlyLive_createStream (h : OnlyLive d) : OnlyLive (d.createStream ans) := by
  unfold createStream
  split
  · exact h
  · exact extends_createStreamIdle.onlyLive h
  · exact extends_createStreamIdle.onlyLive h
  · exact onlyLive_internalPauseLocked h (by simp)

theorem onlyLive_createInputStream (h : OnlyLive d) : OnlyLive (d.createInputStream ans) := by
  unfold createInputStream
  split
  · exact h
  split
  · exact h
  · exact extends_createInputStreamIdle.onlyLive h
  · exact extends_createInputStreamIdle.onlyLive h
  · exact onlyLive_internalPauseLocked h (by simp)

theorem onlyLive_deleteStream {cache : Bool} (h : OnlyLive d)
    (hguard : d.findsUsers (.deleteStream stream cache ans) = true) :
    OnlyLive (d.deleteStream stream cache ans) := by
  simp only [findsUsers, Bool.or_eq_true, Bool.and_eq_true, beq_iff_eq, Bool.not_eq_true']
    at hguard
  have hbody : d.state ≠ .error → OnlyLive (if cache then d.deleteStreamIdle stream true ans
      else d.internalPauseLocked (.deleteStream stream) ans) := by
    intro hstate
    split
    next hcache =>
      refine onlyLive_deleteStreamIdle h ?_
      simpa [hstate, hcache] using hguard
    next hcache =>
      refine onlyLive_internalPauseLocked h fun hidle id hid => ?_
      cases hid
      simpa [hstate, hidle] using hguard
  unfold deleteStream
  split
  · exact h
  next hstate => exact hbody (by simp [hstate])
  next hstate => exact hbody (by simp [hstate])
  next hstate => exact hbody (by simp [hstate])

theorem onlyLive_wake {i : Nat} {w : Waiting} {timely : Bool} (h : OnlyLive d)
    (hw : d.waits[i]? = some w) (hguard : d.findsUsers (.wake i timely ans) = true) :
    OnlyLive ({ d with waits := d.waits.eraseIdx i }.wake w timely ans) := by
  have hd : OnlyLive { d with waits := d.waits.eraseIdx i } := h
  unfold wake
  split
  · have hflag : ∀ {e : Device}, OnlyLive e → OnlyLive { e with pauseStateNotify := false } :=
      fun he => he
    dsimp only
    split
    · exact extends_finish.onlyLive (hflag hd)
    · exact extends_finish.onlyLive (hflag (extends_setErrorState.onlyLive hd))
  next hresuming =>
    split
    next htimely =>
      subst htimely
      refine onlyLive_proceed hd fun stream hcall => ?_
      have hfinds : d.finds stream = true := by
        simpa [findsUsers, hw, hresuming, hcall] using hguard
      exact hfinds
    · exact extends_setErrorState.onlyLive hd

theorem extends_configureForRequest (d : Device) (o : HalConfigure) (ready : Bool) :
    Extends d (d.configureForRequest o ready).2 := by
  show Extends d (if d.state = .notConfigured ∨ d.reconfig then d.configureStreamsLocked o
    else (true, d)).2
  split
  · exact extends_configureStreamsLocked
  · exact .refl

/-- A request that is queued has passed the check of its streams. -/
theorem onlyLive_submitRequestList {rs : List (List Nat)} {streaming ready : Bool} (h : OnlyLive d)
    (hstep : d.submitRequestList cfg rs streaming o ready = some t) : OnlyLive t := by
  unfold submitRequestList at hstep
  split at hstep
  · obtain rfl := Option.some.inj hstep
    exact h
  dsimp only at hstep
  have hconf := extends_configureForRequest
    { d with nextRequestId := d.nextRequestId + rs.length } o ready
  split at hstep
  next e heq =>
    obtain rfl := Option.some.inj hstep
    rw [heq] at hconf
    exact hconf.onlyLive h
  next e heq =>
    rw [heq] at hconf
    have he : OnlyLive e := hconf.onlyLive h
    split at hstep
    · obtain rfl := Option.some.inj hstep
      exact he
    next hout =>
    obtain ⟨l, hl, ht⟩ := Option.bind_eq_some_iff.mp hstep
    obtain rfl := Option.some.inj ht
    cases Loops.step_cases hl with
    | added hadd =>
      intro r hr
      rcases Loops.mem_waiting_added hadd hr with hold | hnew
      · exact he r hold
      · obtain ⟨p, hp, hstreams, hinput⟩ := Loops.exists_of_mem_requestsOf hnew
        simp only [hasOutputs, Bool.not_eq_true', Bool.not_eq_false, List.all_eq_true,
          Bool.and_eq_true, decide_eq_true_eq] at hout
        refine ⟨fun id hid => (hout p hp).2 id (hstreams ▸ hid), fun hin => hconf.input ?_⟩
        obtain ⟨ids, -, rfl⟩ := List.mem_map.mp hp
        obtain ⟨id, -, hid⟩ := List.any_eq_true.mp (hinput.symm.trans hin)
        rw [isInput, beq_iff_eq] at hid
        exact Option.isSome_of_mem hid

theorem onlyLive_step (h : OnlyLive d) (hguard : d.findsUsers a = true)
    (hstep : d.step cfg a = some t) : OnlyLive t := by
  cases a with
  | createStream ans =>
    obtain rfl := Option.some.inj hstep
    exact onlyLive_createStream h
  | createInputStream ans =>
    obtain rfl := Option.some.inj hstep
    exact onlyLive_createInputStream h
  | deleteStream stream cache ans =>
    obtain rfl := Option.some.inj hstep
    exact onlyLive_deleteStream h hguard
  | wake i timely ans =>
    simp only [step] at hstep
    split at hstep
    next w hw =>
      split at hstep
      · simp at hstep
      · obtain rfl := Option.some.inj hstep
        exact onlyLive_wake h hw hguard
    · simp at hstep
  | configureStreams o =>
    obtain rfl := Option.some.inj hstep
    exact extends_configureStreamsLocked.onlyLive h
  | submitRequestList rs streaming o ready => exact onlyLive_submitRequestList h hstep
  | notifyStatus idle =>
    obtain rfl := Option.some.inj hstep
    unfold notifyStatus
    split <;> exact h
  | setError =>
    obtain rfl := Option.some.inj hstep
    exact extends_setErrorState.onlyLive h
  | loop b =>
    simp only [step] at hstep
    split at hstep
    · simp at hstep
    next hadd =>
      obtain ⟨l, hl, ht⟩ := Option.bind_eq_some_iff.mp hstep
      obtain rfl := Option.some.inj ht
      intro r hr
      obtain ⟨r', hr', hstreams, hinput⟩ := Loops.mem_waiting_moves (Loops.step_cases hl) hadd hr
      rw [hstreams, hinput]
      exact h r' hr'

end Device

/-- A device, the output streams that were taken away from it, and the requests that a loop has
carried to `SubmitRequest` with a stream that was gone. -/
structure DeleteWatch where
  device : Device := {}
  deleted : List Nat := []
  stale : List CaptureRequest := []

namespace DeleteWatch

variable {cfg : Config} {w v : DeleteWatch} {a : DeviceAction}

/-- The request that a step submits. -/
def submitted (d : Device) : DeviceAction → List CaptureRequest
  | .loop (.submitRequest _) => d.loops.camera.held.toList
  | .loop (.submitReproc _) => d.loops.camera.heldReproc.toList
  | _ => []

/-- The request uses a deleted output stream, or the input stream while there is none. -/
def usesDeleted (w : DeleteWatch) (r : CaptureRequest) : Bool :=
  r.streams.any (fun id => w.deleted.contains id) || (r.input && w.device.inputStream.isNone)

def step (cfg : Config) (w : DeleteWatch) (a : DeviceAction) : Option DeleteWatch :=
  (w.device.step cfg a).map fun device =>
    { device
      deleted := (w.deleted ++ w.device.streams).filter (· ∉ device.streams)
      stale := w.stale ++ (submitted w.device a).filter w.usesDeleted }

def lts (cfg : Config) : LTS DeleteWatch DeviceAction := .ofStep (step cfg)

/-- No request that waits or is in hand uses a deleted stream, and none was submitted with one. -/
def Unused (w : DeleteWatch) : Prop :=
  w.stale = [] ∧ ∀ r ∈ w.device.loops.waiting, w.usesDeleted r = false

structure Tracked (w : DeleteWatch) : Prop where
  live : w.device.OnlyLive
  deleted : ∀ id ∈ w.deleted, id ∉ w.device.streams
  stale : w.stale = []

theorem Tracked.usesDeleted (h : Tracked w) {r : CaptureRequest}
    (hr : r ∈ w.device.loops.waiting) : w.usesDeleted r = false := by
  obtain ⟨hstreams, hinput⟩ := h.live r hr
  rw [DeleteWatch.usesDeleted, Bool.or_eq_false_iff, List.any_eq_false]
  refine ⟨fun id hid hdel => h.deleted id (by simpa using hdel) (hstreams id hid), ?_⟩
  cases hin : r.input with
  | false => rfl
  | true => simp [hinput hin]

theorem Tracked.unused (h : Tracked w) : Unused w := ⟨h.stale, fun _ hr => h.usesDeleted hr⟩

/-- What is submitted was in hand. -/
theorem mem_submitted {d : Device} {r : CaptureRequest} (h : r ∈ submitted d a) :
    r ∈ d.loops.waiting := by
  unfold submitted at h
  split at h
  · exact Loops.mem_waiting.mpr (.inr (.inr (.inr (.inl (by simpa using h)))))
  · exact Loops.mem_waiting.mpr (.inr (.inr (.inr (.inr (by simpa using h)))))
  · simp at h

theorem tracked_step (h : Tracked w) (hguard : w.device.findsUsers a = true)
    (hstep : w.step cfg a = some v) : Tracked v := by
  obtain ⟨device, hdevice, rfl⟩ := Option.map_eq_some_iff.mp hstep
  refine ⟨Device.onlyLive_step h.live hguard hdevice, fun id hid => ?_, ?_⟩
  · simpa using (List.mem_filter.mp hid).2
  · dsimp only
    rw [h.stale, List.nil_append, List.filter_eq_nil_iff]
    intro r hr
    simp [h.usesDeleted (mem_submitted hr)]

/-- In every run in which each check of `DeleteStream` sees all that uses the stream, no request
uses a deleted stream. -/
theorem unused_of_findsUsers (cfg : Config) (as : List DeviceAction) (t : DeleteWatch)
    (h : ((lts cfg).guarded fun w a => w.device.findsUsers a = true).MTr {} as t) : Unused t := by
  have hinv : ((lts cfg).guarded fun w a => w.device.findsUsers a = true).TrInv Tracked :=
    fun w a v hstep hw => tracked_step hw hstep.2 hstep.1
  exact (LTS.inv_of_mTr hinv h ⟨by simp [Device.OnlyLive, Loops.waiting, Loops.inHand], by simp,
    rfl⟩).unused

/-- A stream is deleted once the request for it has been submitted; until then it is active. The
input stream goes while the other stream is still used. -/
def deleteAfterUse : List DeviceAction :=
  [.createStream {}, .createStream {}, .createInputStream {},
    .submitRequestList [[0], [1]] false .ok true, .submitRequestList [[1, 2]] false .ok true,
    .loop .getRequest, .deleteStream 0 true {}, .loop (.submitRequest .accepted),
    .deleteStream 0 true {}, .loop .nextReproc, .loop (.submitReproc .accepted),
    .deleteStream 2 true {}, .loop .getRequest, .loop (.submitRequest .accepted)]

theorem unused_after_use :
    ((LTS.run (step {}) {} deleteAfterUse).map fun t =>
      (t.deleted, t.device.streams, t.device.inputStream)) = some ([0], [1], none) ∧
    ∃ t, ((lts {}).guarded fun w a => w.device.findsUsers a = true).MTr {} deleteAfterUse t ∧
      Unused t := by
  have hrun : ((LTS.run (step {}) {} deleteAfterUse).map fun t =>
      (t.deleted, t.device.streams, t.device.inputStream)) = some ([0], [1], none) := by decide
  obtain ⟨t, ht, -⟩ := Option.map_eq_some_iff.mp hrun
  have hguard : ((lts {}).guarded fun w a => w.device.findsUsers a = true).MTr {}
      deleteAfterUse t := LTS.mTr_guarded_iff.mpr ⟨ht, by decide⟩
  exact ⟨hrun, t, hguard, unused_of_findsUsers {} deleteAfterUse t hguard⟩

/-- The check leaves out the queue of the reprocess loop. -/
theorem queued_reprocess_uses_deleted :
    ¬ ∀ (cfg : Config) (as : List DeviceAction) (t : DeleteWatch), (lts cfg).MTr {} as t →
      Unused t := by
  intro hall
  have hstale : ((LTS.run (step {}) {}
      [.createStream {}, .createInputStream {}, .submitRequestList [[0, 1]] false .ok true,
        .deleteStream 0 true {}, .loop .nextReproc, .loop (.submitReproc .accepted)]).map
          fun t => t.stale.map CaptureRequest.streams) = some [[0]] := by decide
  obtain ⟨t, hrun, ht⟩ := Option.map_eq_some_iff.mp hstale
  have hunused := hall {} _ t (LTS.mTr_ofStep_iff.mpr hrun)
  simp [hunused.1] at ht

end DeleteWatch

end QmmfSdk.Camera3
