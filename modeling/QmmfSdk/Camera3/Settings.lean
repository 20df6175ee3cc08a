import QmmfSdk.Camera3.RequestLoops
import QmmfSdk.Camera3.SmoothZoom

/-! The settings of the requests: which of them go to the HAL with `settings`, and what the HAL took
last. -/
namespace QmmfSdk.Camera3

open Library

/-- A request with its settings. -/
structure MetaRequest extends CaptureRequest where
  metadata : CameraSettings
  deriving DecidableEq

namespace MetaRequest

def stamp (r : MetaRequest) (n : UInt32) : MetaRequest :=
  { r with toCaptureRequest := r.toCaptureRequest.stamp n }

/-- What `ClearCaptureRequest` leaves. -/
def cleared : MetaRequest := { toCaptureRequest := .cleared, metadata := {} }

@[simp] theorem requestId_stamp (r : MetaRequest) (n : UInt32) :
    (r.stamp n).requestId = r.requestId := rfl

@[simp] theorem metadata_stamp (r : MetaRequest) (n : UInt32) :
    (r.stamp n).metadata = r.metadata := rfl

@[simp] theorem requestId_cleared : cleared.requestId = -1 := rfl

end MetaRequest

inductive LoopName where
  | thread
  | reproc
  deriving DecidableEq, Repr

def LoopName.other : LoopName → LoopName
  | .thread => .reproc
  | .reproc => .thread

/-- A loop has nothing, has a request that `SubmitRequest` has not begun with, or has chosen the settings
for it and is on the way to the HAL. -/
inductive SubmitPhase where
  | idle
  | taken (r : MetaRequest)
  | submitting (r : MetaRequest) (settings : Option CameraSettings)
  deriving DecidableEq

def SubmitPhase.request : SubmitPhase → Option MetaRequest
  | .taken r => some r
  | .idle | .submitting _ _ => none

def SubmitPhase.sending : SubmitPhase → Option (MetaRequest × Option CameraSettings)
  | .submitting r settings => some (r, settings)
  | .idle | .taken _ => none

/-- A call of `process_capture_request`, and the settings that the HAL had accepted last before it. -/
structure HandedRequest where
  request : MetaRequest
  settings : Option CameraSettings
  last : Option CameraSettings

/-- `configuring` lasts from `configure_streams` to `FinishConfiguration`. `accepted` is what the HAL has
accepted last since the former. -/
structure SettingsLoops (F : Type) where
  requests : List MetaRequest := []
  streamingRequests : List MetaRequest := []
  reprocRequests : List MetaRequest := []
  currentFrameNumber : UInt32 := 0
  currentInputFrameNumber : UInt32 := 0
  nextRequestId : Int := 0
  workerBusy : Bool := false
  hasErrorCb : Bool := true
  oldRequest : MetaRequest := .cleared
  configurationUpdate : Bool := false
  batchSize : UInt32 := 1
  smoothZoom : SmoothZoom F
  loops : LoopName → SubmitPhase := fun _ => .idle
  configuring : Bool := false
  accepted : Option CameraSettings := none
  handed : List HandedRequest := []

inductive SettingsAction where
  | submitRequestList (rs : List (CameraSettings × List Nat × Bool)) (streaming : Bool)
  | clearRepeatingRequests
  | clear
  | configureStreams
  | finishConfiguration (batchSize : UInt32)
  | getRequest
  | exitPending
  | nextReproc
  | chooseSettings (l : LoopName)
  | submit (l : LoopName) (o : Submission)

namespace SettingsLoops

variable {F : Type}

/-- The same without the settings. -/
def toRequestHandler (s : SettingsLoops F) : RequestHandler where
  requests := s.requests.map (·.toCaptureRequest)
  streamingRequests := s.streamingRequests.map (·.toCaptureRequest)
  reprocRequests := s.reprocRequests.map (·.toCaptureRequest)
  currentFrameNumber := s.currentFrameNumber
  currentInputFrameNumber := s.currentInputFrameNumber
  workerBusy := s.workerBusy
  hasErrorCb := s.hasErrorCb

/-- `SubmitRequestList` writes the id and the streams of a request into its settings.
`GenerateCaptureRequest` erases the streams there again; here they stay, which no thread looks at. -/
def requestsOf (next : Int) (rs : List (CameraSettings × List Nat × Bool)) : List MetaRequest :=
  rs.zipIdx.map fun (p, i) =>
    { streams := p.2.1
      resultExtras := { requestId := next + i, input := p.2.2 }
      metadata := { p.1 with
        requestId := some (next + i), outputStreams := p.2.1, inputStreams := p.2.2 } }

def addRequestList (s : SettingsLoops F) (rs : List MetaRequest) (streaming : Bool) :
    Option (SettingsLoops F) :=
  let requestList := rs.filter fun r => !r.input
  let requestListReproc := rs.filter fun r => r.input
  if requestList.isEmpty == requestListReproc.isEmpty then some s
  else if !requestListReproc.isEmpty then
    if s.workerBusy then none
    else some { s with reprocRequests := s.reprocRequests ++ requestListReproc }
  else if streaming then some { s with streamingRequests := requestList }
  else some { s with requests := s.requests ++ requestList }

def clear (s : SettingsLoops F) : SettingsLoops F :=
  { s with
    streamingRequests := []
    requests := []
    currentFrameNumber :=
      if s.hasErrorCb then s.currentFrameNumber + UInt32.ofNat s.requests.length
      else s.currentFrameNumber }

/-- `Update` of every request of the streaming list. -/
def updateAll (fl : FloatOps F) : SmoothZoom F → List MetaRequest → SmoothZoom F × List MetaRequest
  | z, [] => (z, [])
  | z, r :: rs =>
    let u := z.update fl r.metadata
    let rest := updateAll fl u.1 rs
    (rest.1, { r with metadata := u.2 } :: rest.2)

/-- A request that comes after a configuration finds no old one to be compared with. -/
def forgetOld (s : SettingsLoops F) : SettingsLoops F :=
  if s.configurationUpdate then { s with oldRequest := .cleared, configurationUpdate := false } else s

def setLoop (s : SettingsLoops F) (l : LoopName) (p : SubmitPhase) : SettingsLoops F :=
  { s with loops := Function.update s.loops l p }

/-- What `GetRequest` takes next. -/
def nextRequest (fl : FloatOps F) (s : SettingsLoops F) : Option (MetaRequest × SettingsLoops F) :=
  match s.requests with
  | [] =>
    let u := updateAll fl s.smoothZoom s.streamingRequests
    match u.2 with
    | [] => none
    | r :: rest =>
      some (r.stamp s.currentFrameNumber,
        { s with
          requests := rest
          streamingRequests := u.2
          smoothZoom := u.1
          currentFrameNumber := s.currentFrameNumber + 1 })
  | r :: rest =>
    match (r :: rest).find? fun r => r.input with
    | some reproc =>
      some (reproc.stamp s.currentInputFrameNumber,
        { s with
          requests := (r :: rest).eraseP fun r => r.input
          currentInputFrameNumber := s.currentInputFrameNumber + 1 })
    | none =>
      some (r.stamp s.currentFrameNumber,
        { s with requests := rest, currentFrameNumber := s.currentFrameNumber + 1 })

def getRequest (fl : FloatOps F) (s : SettingsLoops F) : SettingsLoops F :=
  match s.nextRequest fl with
  | none => s
  | some (r, s) => s.forgetOld.setLoop .thread (.taken r)

/-- One turn of `ReprocLoop` up to the submission. -/
def nextReproc (s : SettingsLoops F) : SettingsLoops F :=
  match s.reprocRequests with
  | [] => s
  | r :: rest =>
    setLoop (forgetOld { s with
      reprocRequests := rest
      currentInputFrameNumber := s.currentInputFrameNumber + 1
      workerBusy := true }) .reproc (.taken (r.stamp s.currentInputFrameNumber))

/-- `SubmitRequest` compares ids only, and remembers the request before it knows what becomes of it. -/
def chooseSettings (s : SettingsLoops F) (l : LoopName) (r : MetaRequest) : SettingsLoops F :=
  if s.oldRequest.requestId ≠ r.requestId ∨ s.smoothZoom.isGoing then
    setLoop { s with oldRequest := r } l (.submitting r (some r.metadata))
  else s.setLoop l (.submitting r none)

/-- The rest of `SubmitRequest`; the HAL takes over what it accepts. -/
def submit (s : SettingsLoops F) (l : LoopName) (r : MetaRequest) (settings : Option CameraSettings)
    (o : Submission) : SettingsLoops F :=
  setLoop { s with
    handed := if o.marks then s.handed ++ [⟨r, settings, s.accepted⟩] else s.handed
    accepted := if o = .accepted then settings.or s.accepted else s.accepted
    workerBusy := if l = .reproc then !s.reprocRequests.isEmpty else s.workerBusy } l .idle

/-- `FinishConfiguration` is called after `configure_streams` only. -/
def step (fl : FloatOps F) (s : SettingsLoops F) : SettingsAction → Option (SettingsLoops F)
  | .submitRequestList rs streaming =>
    (s.addRequestList (requestsOf s.nextRequestId rs) streaming).map fun s =>
      { s with nextRequestId := s.nextRequestId + rs.length }
  | .clearRepeatingRequests => some { s with streamingRequests := [] }
  | .clear => some s.clear
  | .configureStreams => some { s with configuring := true, accepted := none }
  | .finishConfiguration batchSize =>
    if s.configuring then
      some { s with configuring := false, configurationUpdate := true, batchSize }
    else none
  | .getRequest =>
    match s.loops .thread with
    | .idle => some (s.getRequest fl)
    | .taken _ | .submitting _ _ => none
  | .exitPending =>
    match s.loops .thread with
    | .idle | .taken _ => some (s.setLoop .thread .idle)
    | .submitting _ _ => none
  | .nextReproc =>
    match s.loops .reproc with
    | .idle => some s.nextReproc
    | .taken _ | .submitting _ _ => none
  | .chooseSettings l =>
    match s.loops l with
    | .taken r => some (s.chooseSettings l r)
    | .idle | .submitting _ _ => none
  | .submit l o =>
    match s.loops l with
    | .submitting r settings => some (s.submit l r settings o)
    | .idle | .taken _ => none

variable {fl : FloatOps F} {s t : SettingsLoops F} {a : SettingsAction} {as : List SettingsAction}
  {l l' : LoopName} {p : SubmitPhase} {r r' : MetaRequest} {rs rs' : List MetaRequest}
  {settings : Option CameraSettings} {o : Submission} {z : SmoothZoom F} {i : Int}

theorem updateAll_requests (fl : FloatOps F) (z : SmoothZoom F) (rs : List MetaRequest) :
    (updateAll fl z rs).2.map (·.toCaptureRequest) = rs.map (·.toCaptureRequest) := by
  induction rs generalizing z with
  | nil => rfl
  | cons r rs ih => simp [updateAll, ih]

/-- Without the settings, `GetRequest` is that of the request handler. -/
theorem toRequestHandler_nextRequest : s.toRequestHandler.getRequest =
    match s.nextRequest fl with
    | none => (none, s.toRequestHandler)
    | some (r, t) => (some r.toCaptureRequest, t.toRequestHandler) := by
  unfold RequestHandler.getRequest nextRequest
  cases hq : s.requests with
  | nil =>
    cases hs : s.streamingRequests with
    | nil => simp [toRequestHandler, hq, hs, updateAll]
    | cons r rest =>
      simp [toRequestHandler, hq, hs, updateAll, updateAll_requests]
      rfl
  | cons r rest =>
    have hfind : (r.toCaptureRequest :: rest.map (·.toCaptureRequest)).find? CaptureRequest.input =
        ((r :: rest).find? fun r => r.input).map (·.toCaptureRequest) :=
      List.find?_map (f := fun r : MetaRequest => r.toCaptureRequest) (l := r :: rest)
    have herase : (r.toCaptureRequest :: rest.map (·.toCaptureRequest)).eraseP CaptureRequest.input =
        ((r :: rest).eraseP fun r => r.input).map (·.toCaptureRequest) :=
      List.eraseP_map (f := fun r : MetaRequest => r.toCaptureRequest) (l := r :: rest)
    simp only [toRequestHandler, hq, List.map_cons, hfind, herase]
    cases hf : (r :: rest).find? fun r => r.input with
    | none => rfl
    | some reproc => rfl

def queued (s : SettingsLoops F) : List Int :=
  (s.requests ++ s.streamingRequests ++ s.reprocRequests).map (·.requestId)

/-- The ids of the requests that a loop may still submit. -/
def waiting (s : SettingsLoops F) : List Int :=
  s.queued ++ ((s.loops .thread).request.toList ++ (s.loops .reproc).request.toList).map (·.requestId)

/-- What a loop is on the way to the HAL with. -/
def sending (s : SettingsLoops F) (l : LoopName) : Option (MetaRequest × Option CameraSettings) :=
  (s.loops l).sending

/-- The settings that a request would go without. -/
def LeavesOut (s : SettingsLoops F) (r : MetaRequest) : Prop :=
  s.oldRequest.requestId = r.requestId ∧ s.smoothZoom.isGoing = false

/-- Conditions on the steps: the streams are configured while no request is under way and none is taken
before it is finished; a loop chooses the settings while the other is not on its way to the HAL, and
leaves them out only where smooth zoom has not changed them; and what has been sent with settings fails
only if its id does not come again. -/
def Careful (fl : FloatOps F) (s : SettingsLoops F) : SettingsAction → Prop
  | .configureStreams => s.loops .thread = .idle ∧ s.loops .reproc = .idle
  | .getRequest => s.configuring = true → (s.nextRequest fl).isNone
  | .nextReproc => s.configuring = true → s.reprocRequests = []
  | .chooseSettings l =>
    s.sending l.other = none ∧
      ∀ r ∈ (s.loops l).request, s.LeavesOut r → r.metadata = s.oldRequest.metadata
  | .submit l o =>
    o ≠ .accepted → ∀ x ∈ s.sending l, x.2.isSome → x.1.requestId ∉ s.waiting
  | .submitRequestList _ _ | .clearRepeatingRequests | .clear | .finishConfiguration _ | .exitPending =>
    True

instance {r : MetaRequest} : Decidable (s.LeavesOut r) :=
  inferInstanceAs (Decidable (_ ∧ _))

instance : Decidable (s.Careful fl a) := by
  cases a <;> unfold Careful <;> infer_instance

/-- What goes without settings has those that the HAL accepted last. -/
def Elides (s : SettingsLoops F) : Prop :=
  ∀ h ∈ s.handed, h.settings = none → h.last = some h.request.metadata

instance : Decidable s.Elides :=
  inferInstanceAs (Decidable (∀ h ∈ s.handed, h.settings = none → h.last = some h.request.metadata))

/-- As long as the old request is not on its way itself, a request with its id finds that the HAL has
accepted its settings last. -/
structure Remembers (s : SettingsLoops F) : Prop where
  next : 0 ≤ s.nextRequestId
  ids : ∀ i ∈ s.waiting, 0 ≤ i ∧ i < s.nextRequestId
  old : s.oldRequest.requestId < s.nextRequestId
  quiet : s.configuring = true ∨ s.configurationUpdate = true → ∀ l, s.loops l = .idle
  alone : ∀ l l', s.sending l ≠ none → s.sending l' ≠ none → l = l'
  carried : ∀ l r m, s.sending l = some (r, some m) →
    s.oldRequest.requestId = r.requestId ∧ s.oldRequest.metadata = m
  elided : ∀ l r, s.sending l = some (r, none) → s.accepted = some r.metadata
  remembered : (∀ l r m, s.sending l ≠ some (r, some m)) → s.configuring = false →
    s.configurationUpdate = false → s.oldRequest.requestId ∈ s.waiting →
    s.accepted = some s.oldRequest.metadata

theorem remembers_init : Remembers { smoothZoom := z } where
  next := Int.le_refl _
  ids := by simp [waiting, queued, SubmitPhase.request]
  old := by simp
  quiet := fun _ _ => rfl
  alone := fun _ _ h => absurd rfl h
  carried := by simp [sending, SubmitPhase.sending]
  elided := by simp [sending, SubmitPhase.sending]
  remembered := by simp [waiting, queued, SubmitPhase.request]

theorem mem_waiting : i ∈ s.waiting ↔
    i ∈ s.queued ∨ ∃ l r, (s.loops l).request = some r ∧ r.requestId = i := by
  simp only [waiting, List.mem_append, List.mem_map, Option.mem_toList]
  refine or_congr_right ⟨?_, ?_⟩
  · rintro ⟨r, hr | hr, rfl⟩
    · exact ⟨.thread, r, hr, rfl⟩
    · exact ⟨.reproc, r, hr, rfl⟩
  · rintro ⟨l, r, hr, rfl⟩
    cases l with
    | thread => exact ⟨r, .inl hr, rfl⟩
    | reproc => exact ⟨r, .inr hr, rfl⟩

theorem waiting_setLoop (hi : i ∈ (s.setLoop l p).waiting) :
    i ∈ s.waiting ∨ ∃ r, p.request = some r ∧ r.requestId = i := by
  obtain hi | ⟨l', r, hr, rfl⟩ := mem_waiting.mp hi
  · exact .inl (mem_waiting.mpr (.inl hi))
  · simp only [setLoop, Function.update_apply] at hr
    split at hr
    · exact .inr ⟨r, hr, rfl⟩
    · exact .inl (mem_waiting.mpr (.inr ⟨l', r, hr, rfl⟩))

theorem sending_setLoop :
    (s.setLoop l p).sending l' = if l' = l then p.sending else s.sending l' := by
  simp only [sending, setLoop, Function.update_apply]
  split
  · rfl
  · rfl

theorem sending_setLoop_idle (hp : p.sending = none) (hl : s.sending l = none) :
    (s.setLoop l p).sending = s.sending := by
  funext l'
  rw [sending_setLoop]
  split
  next heq => rw [hp, heq, hl]
  next => rfl

theorem sending_of_eq (hp : s.loops l = p) : s.sending l = p.sending := by
  rw [sending, hp]

/-- Other requests may wait, as long as their ids are old or quite new and the rest stays as it is. -/
theorem Remembers.of_waiting (hs : s.Remembers) (hnext : s.nextRequestId ≤ t.nextRequestId)
    (hwaiting : ∀ i ∈ t.waiting, i ∈ s.waiting ∨ s.nextRequestId ≤ i ∧ i < t.nextRequestId)
    (hsending : t.sending = s.sending) (hold : t.oldRequest = s.oldRequest)
    (hquiet : t.configuring = true ∨ t.configurationUpdate = true → ∀ l, t.loops l = .idle)
    (hconfiguring : t.configuring = s.configuring)
    (hupdate : t.configurationUpdate = s.configurationUpdate) (haccepted : t.accepted = s.accepted) :
    t.Remembers := by
  have hle := hs.next
  have hlt := hs.old
  refine ⟨by omega, fun i hi => ?_, by rw [hold]; omega, hquiet, ?_, ?_, ?_, ?_⟩
  · obtain hi | hi := hwaiting i hi
    · have hi := hs.ids i hi
      omega
    · omega
  · rw [hsending]
    exact hs.alone
  · rw [hsending, hold]
    exact hs.carried
  · rw [hsending, haccepted]
    exact hs.elided
  · rw [hsending, hconfiguring, hupdate, hold, haccepted]
    intro hnone hconf hupd hmem
    refine hs.remembered hnone hconf hupd ((hwaiting _ hmem).resolve_right ?_)
    omega

/-- After a configuration a request with the old id cannot come. -/
theorem Remembers.forget (hs : s.Remembers) (hnext : t.nextRequestId = s.nextRequestId)
    (hwaiting : ∀ i ∈ t.waiting, i ∈ s.waiting) (hsending : ∀ l, t.sending l = none)
    (hold : t.oldRequest = .cleared) (hconfiguring : t.configuring = false)
    (hupdate : t.configurationUpdate = false) : t.Remembers := by
  have hle := hs.next
  refine ⟨by omega, fun i hi => ?_, ?_, ?_, ?_, ?_, ?_, ?_⟩
  · rw [hnext]
    exact hs.ids i (hwaiting i hi)
  · rw [hold, MetaRequest.requestId_cleared]
    omega
  · rw [hconfiguring, hupdate]
    exact fun h => h.elim nofun nofun
  · exact fun l _ h => absurd (hsending l) h
  · intro l r m h
    rw [hsending] at h
    cases h
  · intro l r h
    rw [hsending] at h
    cases h
  · intro _ _ _ hmem
    rw [hold, MetaRequest.requestId_cleared] at hmem
    have hpos := (hs.ids _ (hwaiting _ hmem)).1
    omega

/-- A loop that has nothing takes one of the waiting requests. -/
theorem Remembers.take {u : SettingsLoops F} (hs : s.Remembers) (hidle : s.loops l = .idle)
    (hr : r.requestId ∈ s.waiting) (hwaiting : ∀ i ∈ u.waiting, i ∈ s.waiting)
    (hnext : u.nextRequestId = s.nextRequestId) (hloops : u.loops = s.loops)
    (hold : u.oldRequest = s.oldRequest) (hconf : u.configuring = false)
    (hconfiguring : u.configuring = s.configuring)
    (hupdate : u.configurationUpdate = s.configurationUpdate) (haccepted : u.accepted = s.accepted) :
    (u.forgetOld.setLoop l (.taken r)).Remembers := by
  have htaken : ∀ v : SettingsLoops F, v.waiting = u.waiting →
      ∀ i ∈ (v.setLoop l (.taken r)).waiting, i ∈ s.waiting := by
    intro v hv i hi
    obtain hi | ⟨r', hr', rfl⟩ := waiting_setLoop hi
    · exact hwaiting i (hv ▸ hi)
    · exact Option.some.inj hr' ▸ hr
  have hsame : u.sending = s.sending := by
    funext l'
    rw [sending, hloops, sending]
  have hl : s.sending l = none := by rw [sending_of_eq hidle]; rfl
  unfold forgetOld
  split
  next hupd =>
    have hquiet := hs.quiet (.inr (hupdate ▸ hupd))
    refine hs.forget hnext (htaken _ rfl) (fun l' => ?_) rfl hconf rfl
    rw [sending_setLoop]
    split
    · rfl
    · change u.sending l' = none
      rw [hsame, sending_of_eq (hquiet l')]
      rfl
  next hupd =>
    refine hs.of_waiting (le_of_eq hnext.symm) (fun i hi => .inl (htaken u rfl i hi)) ?_ hold ?_
      hconfiguring hupdate haccepted
    · rw [sending_setLoop_idle rfl (hsame ▸ hl), hsame]
    · rintro (h | h)
      · rw [show (u.setLoop l (.taken r)).configuring = u.configuring from rfl, hconf] at h
        cases h
      · exact absurd h hupd

theorem mem_queued : i ∈ s.queued ↔ i ∈ s.requests.map (·.requestId) ∨
    i ∈ s.streamingRequests.map (·.requestId) ∨ i ∈ s.reprocRequests.map (·.requestId) := by
  simp [queued]

theorem waiting_mono (hloops : t.loops = s.loops) (hqueued : ∀ i ∈ t.queued, i ∈ s.queued) :
    ∀ i ∈ t.waiting, i ∈ s.waiting := by
  intro i hi
  rw [mem_waiting, hloops] at hi
  exact mem_waiting.mpr (hi.imp_left (hqueued i))

/-- Smooth zoom leaves the ids as they are. -/
theorem updateAll_ids (fl : FloatOps F) (z : SmoothZoom F) (rs : List MetaRequest) :
    (updateAll fl z rs).2.map (·.requestId) = rs.map (·.requestId) := by
  have h := congrArg (List.map CaptureRequest.requestId) (updateAll_requests fl z rs)
  simpa [List.map_map, Function.comp_def] using h

/-- A request is taken out of the lists; what stays in them was there. -/
theorem nextRequest_spec {u : SettingsLoops F} (h : s.nextRequest fl = some (r, u)) :
    ∃ requests streaming n m zoom, u = { s with
        requests := requests
        streamingRequests := streaming
        currentFrameNumber := n
        currentInputFrameNumber := m
        smoothZoom := zoom } ∧
      r.requestId ∈ s.queued ∧ ∀ i ∈ u.queued, i ∈ s.queued := by
  unfold nextRequest at h
  split at h
  next hq =>
    dsimp only at h
    split at h
    next => cases h
    next q rest hu =>
      obtain ⟨rfl, rfl⟩ := Prod.mk.inj (Option.some.inj h)
      have hids := updateAll_ids fl s.smoothZoom s.streamingRequests
      rw [hu, List.map_cons] at hids
      refine ⟨_, _, _, _, _, rfl, ?_, fun i hi => ?_⟩
      · rw [mem_queued, ← hids]
        simp
      · simp only [mem_queued, hu, List.map_cons] at hi
        rw [mem_queued, ← hids]
        obtain hi | hi := hi
        · exact .inr (.inl (List.mem_cons_of_mem _ hi))
        · exact .inr hi
  next q rest hq =>
    have hsub : ∀ {qs : List MetaRequest}, (∀ x ∈ qs, x ∈ s.requests) →
        ∀ i ∈ queued { s with requests := qs }, i ∈ s.queued := by
      intro qs hqs i hi
      rw [mem_queued] at hi ⊢
      refine hi.imp_left fun hi => ?_
      obtain ⟨x, hx, rfl⟩ := List.mem_map.mp hi
      exact List.mem_map_of_mem (hqs x hx)
    split at h
    next reproc hfind =>
      obtain ⟨rfl, rfl⟩ := Prod.mk.inj (Option.some.inj h)
      refine ⟨_, _, _, _, _, rfl, ?_, hsub fun x hx => ?_⟩
      · rw [mem_queued, hq]
        exact .inl (List.mem_map.mpr ⟨reproc, List.mem_of_find?_eq_some hfind, rfl⟩)
      · rw [hq]
        exact List.mem_of_mem_eraseP hx
    next =>
      obtain ⟨rfl, rfl⟩ := Prod.mk.inj (Option.some.inj h)
      refine ⟨_, _, _, _, _, rfl, ?_, hsub fun x hx => ?_⟩
      · rw [mem_queued, hq]
        exact .inl (by simp)
      · rw [hq]
        exact List.mem_cons_of_mem _ hx

theorem mem_requestsOf {next : Int} {l : List (CameraSettings × List Nat × Bool)}
    (h : r ∈ requestsOf next l) : next ≤ r.requestId ∧ r.requestId < next + l.length := by
  obtain ⟨⟨p, i⟩, hp, rfl⟩ := List.mem_map.mp h
  have hlt := List.snd_lt_of_mem_zipIdx hp
  have hid : CaptureRequest.requestId
      { streams := p.2.1, resultExtras := { requestId := next + i, input := p.2.2 } } = next + i := rfl
  change next ≤ CaptureRequest.requestId _ ∧ CaptureRequest.requestId _ < _
  rw [hid]
  omega

/-- A list of requests joins one of the three lists, or replaces the streaming one. -/
theorem addRequestList_spec {streaming : Bool} {u : SettingsLoops F}
    (h : s.addRequestList rs streaming = some u) :
    ∃ requests repeating reproc, u = { s with
        requests := requests
        streamingRequests := repeating
        reprocRequests := reproc } ∧
      ∀ i ∈ u.queued, i ∈ s.queued ∨ ∃ r ∈ rs, r.requestId = i := by
  have hnew : ∀ {p : MetaRequest → Bool} {i}, i ∈ (rs.filter p).map (·.requestId) →
      ∃ r ∈ rs, r.requestId = i := by
    intro p i hi
    obtain ⟨r, hr, rfl⟩ := List.mem_map.mp hi
    exact ⟨r, (List.mem_filter.mp hr).1, rfl⟩
  unfold addRequestList at h
  dsimp only at h
  split at h
  · obtain rfl := Option.some.inj h
    exact ⟨_, _, _, rfl, fun i hi => .inl hi⟩
  split at h
  · split at h
    · cases h
    · obtain rfl := Option.some.inj h
      refine ⟨_, _, _, rfl, fun i hi => ?_⟩
      simp only [mem_queued, List.map_append, List.mem_append] at hi ⊢
      obtain hi | hi | hi | hi := hi
      · exact .inl (.inl hi)
      · exact .inl (.inr (.inl hi))
      · exact .inl (.inr (.inr hi))
      · exact .inr (hnew hi)
  split at h
  · obtain rfl := Option.some.inj h
    refine ⟨_, _, _, rfl, fun i hi => ?_⟩
    simp only [mem_queued] at hi ⊢
    obtain hi | hi | hi := hi
    · exact .inl (.inl hi)
    · exact .inr (hnew hi)
    · exact .inl (.inr (.inr hi))
  · obtain rfl := Option.some.inj h
    refine ⟨_, _, _, rfl, fun i hi => ?_⟩
    simp only [mem_queued, List.map_append, List.mem_append] at hi ⊢
    obtain (hi | hi) | hi := hi
    · exact .inl (.inl hi)
    · exact .inr (hnew hi)
    · exact .inl (.inr hi)

/-- A loop at work has no configuration beside it. -/
theorem Remembers.busy (hs : s.Remembers) (hbusy : s.loops l ≠ .idle) :
    s.configuring = false ∧ s.configurationUpdate = false := by
  constructor
  · by_contra hne
    exact hbusy (hs.quiet (.inl (by simpa using hne)) l)
  · by_contra hne
    exact hbusy (hs.quiet (.inr (by simpa using hne)) l)

/-- A loop that has let go of its request or has sent it. -/
theorem waiting_setLoop_sub (hp : p.request = none) (hi : i ∈ (s.setLoop l p).waiting) :
    i ∈ s.waiting := by
  obtain hi | ⟨r, hr, -⟩ := waiting_setLoop hi
  · exact hi
  · rw [hp] at hr
    cases hr

theorem Remembers.chooseSettings (hs : s.Remembers) (hl : s.loops l = .taken r)
    (hg : s.Careful fl (.chooseSettings l)) : (s.chooseSettings l r).Remembers := by
  obtain ⟨hconf, hupd⟩ := hs.busy (l := l) (by simp [hl])
  have hr : r.requestId ∈ s.waiting := mem_waiting.mpr (.inr ⟨l, r, by rw [hl]; rfl, rfl⟩)
  have hnone : ∀ l', s.sending l' = none := by
    intro l'
    by_cases heq : l' = l
    · rw [heq, sending_of_eq hl]
      rfl
    · have hother : l' = l.other := by
        cases l <;> cases l' <;> first | rfl | exact absurd rfl heq
      exact hother ▸ hg.1
  have hothers : ∀ {u : SettingsLoops F} {q : SubmitPhase} {l'}, u.sending = s.sending →
      (u.setLoop l q).sending l' ≠ none → l' = l := by
    intro u q l' hu hne
    rw [sending_setLoop, hu] at hne
    by_contra hl'
    rw [if_neg hl'] at hne
    exact hne (hnone l')
  unfold SettingsLoops.chooseSettings
  split
  next =>
    have hsend : ∀ {l' q x}, (setLoop { s with oldRequest := r } l
        (.submitting r (some r.metadata))).sending l' = some (q, x) →
        l' = l ∧ q = r ∧ x = some r.metadata := by
      intro l' q x h
      have heq : l' = l := hothers (u := { s with oldRequest := r })
        (q := .submitting r (some r.metadata)) rfl (by simp [h])
      rw [sending_setLoop, if_pos heq] at h
      obtain ⟨rfl, rfl⟩ := Prod.mk.inj (Option.some.inj h)
      exact ⟨heq, rfl, rfl⟩
    refine ⟨hs.next, fun i hi => hs.ids i (waiting_setLoop_sub rfl hi), (hs.ids _ hr).2, ?_, ?_, ?_, ?_,
      ?_⟩
    · rintro (h | h)
      · exact absurd (hconf.symm.trans h) nofun
      · exact absurd (hupd.symm.trans h) nofun
    · intro l₁ l₂ h₁ h₂
      rw [hothers (u := { s with oldRequest := r }) rfl h₁,
        hothers (u := { s with oldRequest := r }) rfl h₂]
    · intro l' q m h
      obtain ⟨-, rfl, hm⟩ := hsend h
      exact ⟨rfl, (Option.some.inj hm).symm⟩
    · intro l' q h
      cases (hsend h).2.2
    · intro h
      refine absurd ?_ (h l r r.metadata)
      rw [sending_setLoop, if_pos rfl]
      rfl
  next hc =>
    have hout : s.LeavesOut r := by simpa [LeavesOut] using hc
    have haccepted : s.oldRequest.requestId ∈ s.waiting → s.accepted = some s.oldRequest.metadata :=
      hs.remembered (fun l' q m h => by rw [hnone] at h; cases h) hconf hupd
    have hsend : ∀ {l' q x}, (s.setLoop l (.submitting r none)).sending l' = some (q, x) →
        q = r ∧ x = none := by
      intro l' q x h
      have heq : l' = l := hothers (q := .submitting r none) rfl (by simp [h])
      rw [sending_setLoop, if_pos heq] at h
      obtain ⟨rfl, rfl⟩ := Prod.mk.inj (Option.some.inj h)
      exact ⟨rfl, rfl⟩
    refine ⟨hs.next, fun i hi => hs.ids i (waiting_setLoop_sub rfl hi), hs.old, ?_, ?_, ?_, ?_, ?_⟩
    · rintro (h | h)
      · exact absurd (hconf.symm.trans h) nofun
      · exact absurd (hupd.symm.trans h) nofun
    · intro l₁ l₂ h₁ h₂
      rw [hothers rfl h₁, hothers rfl h₂]
    · intro l' q m h
      cases (hsend h).2
    · intro l' q h
      obtain ⟨rfl, -⟩ := hsend h
      change s.accepted = _
      rw [haccepted (hout.1 ▸ hr), hg.2 q (by rw [hl]; rfl) hout]
    · intro _ _ _ hmem
      exact haccepted (waiting_setLoop_sub rfl hmem)

theorem Remembers.submit (hs : s.Remembers) (hl : s.loops l = .submitting r settings)
    (hg : s.Careful fl (.submit l o)) : (s.submit l r settings o).Remembers := by
  obtain ⟨hconf, hupd⟩ := hs.busy (l := l) (by simp [hl])
  have hsending : s.sending l = some (r, settings) := by rw [sending_of_eq hl]; rfl
  have hnone : ∀ l', (s.submit l r settings o).sending l' = none := by
    intro l'
    rw [SettingsLoops.submit, sending_setLoop]
    split
    · rfl
    next hne =>
      by_contra hsome
      exact hne (hs.alone l' l hsome (by simp [hsending]))
  have hwaiting : ∀ i ∈ (s.submit l r settings o).waiting, i ∈ s.waiting := by
    intro i hi
    exact waiting_setLoop_sub rfl hi
  refine ⟨hs.next, fun i hi => hs.ids i (hwaiting i hi), hs.old, ?_, ?_, ?_, ?_, ?_⟩
  · rintro (h | h)
    · exact absurd (hconf.symm.trans h) nofun
    · exact absurd (hupd.symm.trans h) nofun
  · exact fun l' _ h => absurd (hnone l') h
  · intro l' q m h
    rw [hnone] at h
    cases h
  · intro l' q h
    rw [hnone] at h
    cases h
  · intro _ _ _ hmem
    change (if o = .accepted then settings.or s.accepted else s.accepted) = some s.oldRequest.metadata
    have hold : s.oldRequest.requestId ∈ s.waiting := hwaiting _ hmem
    cases settings with
    | none =>
      have haccepted := hs.remembered (fun l' q m h => by
        obtain rfl := hs.alone l' l (by simp [h]) (by simp [hsending])
        rw [hsending] at h
        cases h) hconf hupd hold
      simp [haccepted]
    | some m =>
      obtain ⟨hid, hm⟩ := hs.carried l r m hsending
      split
      next => rw [hm]; rfl
      next ho => exact absurd (hid ▸ hold) (hg ho (r, some m) hsending rfl)

theorem remembers_step (hs : s.Remembers) (hg : s.Careful fl a) (h : s.step fl a = some t) :
    t.Remembers := by
  cases a with
  | submitRequestList rs streaming =>
    obtain ⟨u, hu, rfl⟩ := Option.map_eq_some_iff.mp h
    obtain ⟨requests, repeating, reproc, rfl, hqueued⟩ := addRequestList_spec hu
    refine hs.of_waiting (by simp) (fun i hi => ?_) rfl rfl hs.quiet rfl rfl rfl
    obtain hi | hi := mem_waiting.mp hi
    · obtain hi | ⟨r, hr, rfl⟩ := hqueued i hi
      · exact .inl (mem_waiting.mpr (.inl hi))
      · exact .inr (mem_requestsOf hr)
    · exact .inl (mem_waiting.mpr (.inr hi))
  | clearRepeatingRequests =>
    obtain rfl := Option.some.inj h
    have hqueued : ∀ i ∈ queued { s with streamingRequests := [] }, i ∈ s.queued := by
      intro i hi
      rw [mem_queued] at hi ⊢
      exact hi.imp_right fun hi => .inr (hi.resolve_left (by simp))
    have hwaiting := waiting_mono (s := s) (t := { s with streamingRequests := [] }) rfl hqueued
    exact hs.of_waiting le_rfl (fun i hi => .inl (hwaiting i hi)) rfl rfl hs.quiet rfl rfl rfl
  | clear =>
    obtain rfl := Option.some.inj h
    have hqueued : ∀ i ∈ s.clear.queued, i ∈ s.queued := by
      intro i hi
      rw [mem_queued] at hi ⊢
      exact .inr (.inr ((hi.resolve_left (by simp [clear])).resolve_left (by simp [clear])))
    have hwaiting := waiting_mono (s := s) (t := s.clear) rfl hqueued
    exact hs.of_waiting le_rfl (fun i hi => .inl (hwaiting i hi)) rfl rfl hs.quiet rfl rfl rfl
  | configureStreams =>
    obtain rfl := Option.some.inj h
    have hidle : ∀ l, s.loops l = .idle := fun l => by
      cases l with
      | thread => exact hg.1
      | reproc => exact hg.2
    have hnone : ∀ l, sending { s with configuring := true, accepted := none } l = none := by
      intro l
      exact sending_of_eq (s := s) (hidle l)
    refine ⟨hs.next, hs.ids, hs.old, fun _ => hidle, hs.alone, hs.carried, fun l r h => ?_, nofun⟩
    rw [hnone] at h
    cases h
  | finishConfiguration batchSize =>
    simp only [step] at h
    split at h
    next hconf =>
      obtain rfl := Option.some.inj h
      exact ⟨hs.next, hs.ids, hs.old, fun _ => hs.quiet (.inl hconf), hs.alone, hs.carried, hs.elided,
        nofun⟩
    next => cases h
  | getRequest =>
    simp only [step] at h
    split at h
    next hidle =>
      obtain rfl := Option.some.inj h
      unfold getRequest
      split
      · exact hs
      next r u hnext =>
        have hconf : s.configuring = false := by
          by_contra hne
          have hnone := hg (by simpa using hne)
          simp [hnext] at hnone
        obtain ⟨_, _, _, _, _, rfl, hr, hqueued⟩ := nextRequest_spec hnext
        exact hs.take hidle (mem_waiting.mpr (.inl hr)) (waiting_mono rfl hqueued) rfl rfl rfl hconf rfl
          rfl rfl
    next => cases h
    next => cases h
  | exitPending =>
    have hidle : ∀ (hs' : s.sending .thread = none),
        (s.setLoop .thread .idle).Remembers := by
      intro hs'
      refine hs.of_waiting le_rfl (fun i hi => .inl (waiting_setLoop_sub rfl hi))
        (sending_setLoop_idle rfl hs') rfl (fun hconf l => ?_) rfl rfl rfl
      have hl := hs.quiet hconf l
      simp only [setLoop, Function.update_apply]
      split
      · rfl
      · exact hl
    simp only [step] at h
    split at h
    next hl => exact Option.some.inj h ▸ hidle (sending_of_eq hl)
    next hl => exact Option.some.inj h ▸ hidle (sending_of_eq hl)
    next => cases h
  | nextReproc =>
    simp only [step] at h
    split at h
    next hidle =>
      obtain rfl := Option.some.inj h
      unfold nextReproc
      split
      · exact hs
      next r rest hq =>
        have hconf : s.configuring = false := by
          by_contra hne
          exact absurd (hq.symm.trans (hg (by simpa using hne))) nofun
        have hr : r.requestId ∈ s.queued := by
          rw [mem_queued, hq]
          simp
        refine hs.take hidle (mem_waiting.mpr (.inl hr)) (waiting_mono rfl fun i hi => ?_) rfl rfl rfl
          hconf rfl rfl rfl
        rw [mem_queued] at hi ⊢
        refine hi.imp_right fun hi => hi.imp_right fun hi => ?_
        rw [hq]
        exact List.mem_cons_of_mem _ hi
    next => cases h
    next => cases h
  | chooseSettings l =>
    simp only [step] at h
    split at h
    next r hl => exact Option.some.inj h ▸ hs.chooseSettings hl hg
    next => cases h
    next => cases h
  | submit l o =>
    simp only [step] at h
    split at h
    next r settings hl => exact Option.some.inj h ▸ hs.submit hl hg
    next => cases h
    next => cases h

theorem handed_forgetOld : s.forgetOld.handed = s.handed := by
  unfold forgetOld
  split
  · rfl
  · rfl

theorem elides_submit (hs : s.Remembers) (he : s.Elides) (hl : s.loops l = .submitting r settings) :
    (s.submit l r settings o).Elides := by
  intro h hh hnone
  have hmem : h ∈ (if o.marks then s.handed ++ [⟨r, settings, s.accepted⟩] else s.handed) := hh
  split at hmem
  · obtain hmem | hmem := List.mem_append.mp hmem
    · exact he h hmem hnone
    · obtain rfl := List.mem_singleton.mp hmem
      obtain rfl : settings = none := hnone
      exact hs.elided l r (sending_of_eq hl)
  · exact he h hmem hnone

/-- Only the rest of `SubmitRequest` hands a request over. -/
theorem elides_step (hs : s.Remembers) (he : s.Elides) (h : s.step fl a = some t) : t.Elides := by
  have hsame : t.handed = s.handed → t.Elides := fun heq x hx => he x (heq ▸ hx)
  cases a with
  | submitRequestList rs streaming =>
    obtain ⟨u, hu, rfl⟩ := Option.map_eq_some_iff.mp h
    obtain ⟨_, _, _, rfl, -⟩ := addRequestList_spec hu
    exact hsame rfl
  | clearRepeatingRequests | clear | configureStreams =>
    obtain rfl := Option.some.inj h
    exact hsame rfl
  | finishConfiguration batchSize =>
    simp only [step] at h
    split at h
    · exact hsame (Option.some.inj h ▸ rfl)
    · cases h
  | getRequest =>
    simp only [step] at h
    split at h
    next =>
      obtain rfl := Option.some.inj h
      refine hsame ?_
      unfold getRequest
      split
      · rfl
      next r u hnext =>
        obtain ⟨_, _, _, _, _, rfl, -⟩ := nextRequest_spec hnext
        exact handed_forgetOld
    next => cases h
    next => cases h
  | exitPending =>
    simp only [step] at h
    split at h
    · exact hsame (Option.some.inj h ▸ rfl)
    · exact hsame (Option.some.inj h ▸ rfl)
    · cases h
  | nextReproc =>
    simp only [step] at h
    split at h
    next =>
      obtain rfl := Option.some.inj h
      refine hsame ?_
      unfold nextReproc
      split
      · rfl
      · exact handed_forgetOld
    next => cases h
    next => cases h
  | chooseSettings l =>
    simp only [step] at h
    split at h
    next =>
      obtain rfl := Option.some.inj h
      refine hsame ?_
      unfold chooseSettings
      split
      · rfl
      · rfl
    next => cases h
    next => cases h
  | submit l o =>
    simp only [step] at h
    split at h
    next r settings hl => exact Option.some.inj h ▸ elides_submit hs he hl
    next => cases h
    next => cases h

/-- In a run of careful steps the settings are left out only where the HAL has them. -/
theorem elides_run (fl : FloatOps F) (z : SmoothZoom F) (as : List SettingsAction) (t : SettingsLoops F)
    (h : LTS.run (step fl) { smoothZoom := z } as = some t)
    (hg : LTS.Meets (step fl) (Careful fl) { smoothZoom := z } as) : t.Elides := by
  have hinv : ((LTS.ofStep (step fl)).guarded (Careful fl)).TrInv
      fun s : SettingsLoops F => s.Remembers ∧ s.Elides :=
    fun _ _ _ hstep hi => ⟨remembers_step hi.1 hstep.2 hstep.1, elides_step hi.1 hi.2 hstep.1⟩
  exact (LTS.inv_of_mTr hinv (LTS.mTr_guarded_iff.mpr ⟨h, hg⟩) ⟨remembers_init, by simp [Elides]⟩).2

section Runs

/-- Exact arithmetic, rounded towards zero at the end. -/
def ratOps : FloatOps Rat where
  ofInt i := i.toInt
  add := (· + ·)
  sub := (· - ·)
  mul := (· * ·)
  div := (· / ·)
  abs q := if q < 0 then -q else q
  toInt q := .ofInt (q.num.tdiv q.den)
  nonpos q := q ≤ 0

def wholeArray : CropData := { width := 4000, height := 3000 }

def zoom : SmoothZoom Rat := { SmoothZoom.init ratOps (1 / 10) with enable := true }

/-- A configuration, and a repeating request that shows the whole array. -/
def repeatingRun : List SettingsAction := [.configureStreams, .finishConfiguration 1,
  .submitRequestList [({ activeArraySize := some wholeArray, cropRegion := some wholeArray }, [0], false)]
    true]

def twoRounds (o : Submission) : List SettingsAction :=
  repeatingRun ++ [.getRequest, .chooseSettings .thread, .submit .thread o, .getRequest,
    .chooseSettings .thread, .submit .thread .accepted]

/-- The second round goes without settings. -/
theorem elides_second_round : ∃ t, LTS.run (step ratOps) { smoothZoom := zoom }
    (twoRounds .accepted) = some t ∧ t.Elides := by
  have hcareful : LTS.Meets (step ratOps) (Careful ratOps) { smoothZoom := zoom } (twoRounds .accepted) := by
    decide +kernel
  have hruns : (LTS.run (step ratOps) { smoothZoom := zoom } (twoRounds .accepted)).isSome := by
    decide +kernel
  obtain ⟨t, ht⟩ := Option.isSome_iff_exists.mp hruns
  exact ⟨t, ht, elides_run ratOps zoom _ t ht hcareful⟩

/-- The first round gets no buffer, and the second goes without settings all the same. -/
theorem stale_after_failed_buffer : ¬ ∀ t, LTS.run (step ratOps) { smoothZoom := zoom }
    (twoRounds .noBuffer) = some t → t.Elides := by
  intro h
  have hfails : (LTS.run (step ratOps) { smoothZoom := zoom } (twoRounds .noBuffer)).map
      (fun t => decide t.Elides) = some false := by
    decide +kernel
  obtain ⟨t, ht, helides⟩ := Option.map_eq_some_iff.mp hfails
  exact of_decide_eq_false helides (h t ht)

end Runs

end SettingsLoops

end QmmfSdk.Camera3
