import QmmfSdk.Hal1.Context

/-! The two ports as a list of running streams: the first one is previewed, the second recorded. -/
namespace QmmfSdk.Hal1

open Library
open Pipeline (ConsumerKey)

/-- What a client may rely on: streams, their consumers, and the running ones as they were started. -/
structure Streams where
  params : OrdMap UInt32 StreamParam := ∅
  consumers : OrdMap UInt32 ConsumerKey := ∅
  running : List UInt32 := []

namespace Streams

def call (s : Streams) : CameraContext.Call → Streams
  | .init p => if 2 < s.params.size then s else { s with params := s.params.insertIfNew p.id p }
  | .startTrack id c =>
    { s with consumers := s.consumers.insert id c, running := s.running ++ [id] }
  | .stopTrack id => { s with consumers := s.consumers.erase id, running := s.running.erase id }
  | .deInit id => { s with params := s.params.erase id }

end Streams

/-- The place of a port in the list. -/
def CameraPortType.index : CameraPortType → Nat
  | .preview => 0
  | .video => 1

namespace CameraContext

variable {ctx ctx' : CameraContext} {t u : CameraPortType} {p : StreamParam} {c : ConsumerKey}
  {id : UInt32} {junk : CameraPortType → UInt32} {s : Streams} {a : Call} {as : List Call}

/-- The ids that a port without a stream may have. -/
def Stray (junk : CameraPortType → UInt32) (id : UInt32) : Prop :=
  id = 0 ∨ id = junk .preview ∨ id = junk .video

instance (junk : CameraPortType → UInt32) (id : UInt32) : Decidable (Stray junk id) :=
  inferInstanceAs (Decidable (_ ∨ _))

structure Idle (ctx : CameraContext) (junk : CameraPortType → UInt32) (t : CameraPortType) :
    Prop where
  state : (ctx.port t).portState = .created
  id : Stray junk (ctx.port t).trackId
  rate : (ctx.port t).portFrameRate = 0
  consumers : (ctx.port t).consumers = ∅
  quiet : (ctx.port t).flow.notifying = none
  producer : (ctx.port t).flow.producer.bufferConsumers = ∅
  off : ctx.device.streaming t = false

/-- The device runs a port with the size and format of the stream. -/
def Wanted (q : CameraParameters) (p : StreamParam) : CameraPortType → Prop
  | .preview => q.previewSize = (p.width, p.height) ∧
      q.previewFormat = fromQmmfToHalFormat p.format
  | .video => q.videoSize = (p.width, p.height) ∧
      q.videoFrameFormat = fromQmmfToHalFormat p.format

/-- The device was set to run no slower than this, as far as whole frames and thousandths go. -/
def Paced (q : CameraParameters) (rate : Rat) : Prop :=
  ∃ fps, rate ≤ fps ∧ q.previewFrameRate = truncate fps ∧
    q.previewFpsRange = (truncate (thousandfold fps), truncate (thousandfold fps))

structure Serves (ctx : CameraContext) (t : CameraPortType) (p : StreamParam) (c : ConsumerKey) :
    Prop where
  state : (ctx.port t).portState = .started
  id : (ctx.port t).trackId = p.id
  rate : (ctx.port t).portFrameRate = p.framerate
  size : (ctx.port t).width = p.width ∧ (ctx.port t).height = p.height
  consumers : (ctx.port t).consumers = (∅ : OrdMap ConsumerKey Unit).insertIfNew c ()
  quiet : (ctx.port t).flow.notifying = none
  producer : (ctx.port t).flow.producer.bufferConsumers =
    (∅ : OrdMap ConsumerKey Unit).insertIfNew c ()
  on : ctx.device.streaming t = true
  wanted : Wanted ctx.device.parameters p t
  paced : Paced ctx.device.parameters p.framerate

/-- What an operation on one port leaves as it was. -/
structure SameElsewhere (t : CameraPortType) (ctx ctx' : CameraContext) : Prop where
  port : ∀ u, u ≠ t → ctx'.port u = ctx.port u
  streaming : ∀ u, u ≠ t → ctx'.device.streaming u = ctx.device.streaming u
  streamsParams : ctx'.streamsParams = ctx.streamsParams
  consumers : ctx'.consumers = ctx.consumers

theorem Idle.congr (h : ctx.Idle junk t) (hport : ctx'.port t = ctx.port t)
    (hoff : ctx'.device.streaming t = ctx.device.streaming t) : ctx'.Idle junk t :=
  ⟨hport ▸ h.state, hport ▸ h.id, hport ▸ h.rate, hport ▸ h.consumers, hport ▸ h.quiet,
    hport ▸ h.producer, hoff.trans h.off⟩

/-- A port keeps its stream while the device keeps the parameters for it. -/
theorem Serves.congr (h : ctx.Serves t p c) (hport : ctx'.port t = ctx.port t)
    (hon : ctx'.device.streaming t = ctx.device.streaming t)
    (hwanted : Wanted ctx'.device.parameters p t)
    (hpaced : Paced ctx'.device.parameters p.framerate) : ctx'.Serves t p c :=
  ⟨hport ▸ h.state, hport ▸ h.id, hport ▸ h.rate, hport ▸ h.size, hport ▸ h.consumers,
    hport ▸ h.quiet, hport ▸ h.producer, hon.trans h.on, hwanted, hpaced⟩

theorem Idle.frame (h : ctx.Idle junk u) (hsame : SameElsewhere t ctx ctx') (hne : u ≠ t) :
    ctx'.Idle junk u :=
  h.congr (hsame.port u hne) (hsame.streaming u hne)

theorem portFrameRate_le_maxFps : (ctx.port t).portFrameRate ≤ ctx.maxFps := by
  simp only [maxFps, portTypes, List.foldl_cons, List.foldl_nil]
  cases t <;> split_ifs <;> grind

theorem initPort_idle (h : ctx.Idle junk t) (hf : (fromQmmfToHalFormat p.format).isSome) :
    ∃ ctx', ctx.initPort t p = some ctx' ∧ SameElsewhere t ctx ctx' ∧
      (ctx'.port t).portState = .initialized ∧ (ctx'.port t).trackId = p.id ∧
      (ctx'.port t).portFrameRate = p.framerate ∧
      ((ctx'.port t).width = p.width ∧ (ctx'.port t).height = p.height) ∧
      (ctx'.port t).consumers = ∅ ∧ (ctx'.port t).flow = (ctx.port t).flow ∧
      Wanted ctx'.mParameters p t ∧
      (t = .video → ctx'.mParameters.previewSize = ctx.mParameters.previewSize ∧
        ctx'.mParameters.previewFormat = ctx.mParameters.previewFormat) := by
  obtain ⟨format, hformat⟩ := Option.isSome_iff_exists.mp hf
  simp only [initPort, hformat, Option.bind_eq_bind, Option.bind_some]
  refine ⟨_, rfl, ⟨fun u hu => ?_, fun u hu => rfl, rfl, rfl⟩, ?_⟩
  · simp [hu]
  · cases t <;> simp [CameraPort.init, Wanted, hformat, h.consumers]

/-- The first consumer of a port. -/
theorem addConsumer_empty {q : CameraPort} (hc : c ≠ 0) (hcons : q.consumers = ∅)
    (hquiet : q.flow.notifying = none) (hprod : q.flow.producer.bufferConsumers = ∅) :
    ∃ flow, q.addConsumer c =
        some { q with flow := flow, consumers := (∅ : OrdMap ConsumerKey Unit).insertIfNew c () } ∧
      flow.notifying = none ∧
      flow.producer.bufferConsumers = (∅ : OrdMap ConsumerKey Unit).insertIfNew c () := by
  refine ⟨{ q.flow with producer := { q.flow.producer with
    bufferConsumers := (∅ : OrdMap ConsumerKey Unit).insertIfNew c () } }, ?_, hquiet, rfl⟩
  simp [CameraPort.addConsumer, hc, hcons, Pipeline.Flow.withConsumers, hquiet,
    Pipeline.BufferProducer.addConsumer, hprod]

theorem sameElsewhere_setPort {q : CameraPort} : SameElsewhere t ctx (ctx.setPort t q) :=
  ⟨fun u hu => by simp [hu], fun u hu => rfl, rfl, rfl⟩

theorem SameElsewhere.trans {third : CameraContext} (h : SameElsewhere t ctx ctx')
    (h' : SameElsewhere t ctx' third) : SameElsewhere t ctx third :=
  ⟨fun u hu => (h'.port u hu).trans (h.port u hu),
    fun u hu => (h'.streaming u hu).trans (h.streaming u hu),
    h'.streamsParams.trans h.streamsParams, h'.consumers.trans h.consumers⟩

theorem maxFps_congr (h : ∀ u, (ctx'.port u).portFrameRate = (ctx.port u).portFrameRate) :
    ctx'.maxFps = ctx.maxFps := by
  simp [maxFps, h]

theorem startPort_initialized (h : (ctx.port t).portState = .initialized) :
    SameElsewhere t ctx (ctx.startPort t) ∧
      (ctx.startPort t).port t =
        { ctx.port t with frameNumber := 0, portState := .started } ∧
      (ctx.startPort t).device.streaming t = true ∧
      (ctx.startPort t).device.parameters = ctx.device.parameters ∧
      (ctx.startPort t).mParameters = ctx.mParameters := by
  rw [startPort, if_neg (not_not.mpr h)]
  refine ⟨⟨fun u hu => ?_, fun u hu => ?_, rfl, rfl⟩, ?_, ?_, rfl, rfl⟩
  · simp [setPort, hu]
  · simp [hu]
  · simp [setPort, CameraPort.start, h]
  · simp

/-- A free port takes a stream of a supported format with its consumer. -/
theorem runOn_idle (h : ctx.Idle junk t) (hf : (fromQmmfToHalFormat p.format).isSome)
    (hc : c ≠ 0) (happlied : ctx.device.parameters = ctx.mParameters) :
    ∃ ctx', ctx.runOn t p c = some ctx' ∧ SameElsewhere t ctx ctx' ∧ ctx'.Serves t p c ∧
      ctx'.device.parameters = ctx'.mParameters ∧
      (∀ rate, rate ≤ ctx'.maxFps → Paced ctx'.device.parameters rate) ∧
      (t = .video → ∀ q, Wanted ctx.device.parameters q .preview →
        Wanted ctx'.device.parameters q .preview) := by
  obtain ⟨init, hinit, hsame, hstate, hid, hrate, hsize, hcons, hflow, hwanted, hkept⟩ :=
    initPort_idle h hf
  obtain ⟨flow, hadd, hquiet, hprod⟩ := addConsumer_empty hc hcons (by rw [hflow, h.quiet])
    (by rw [hflow, h.producer])
  let q := { init.port t with
    flow := flow, consumers := (∅ : OrdMap ConsumerKey Unit).insertIfNew c () }
  let ready := (init.setPort t q).setFps (init.setPort t q).maxFps
  have hready : ready.port t = q := by simp [ready, setFps]
  obtain ⟨hrest, hport, hon, hparams, hmine⟩ :=
    startPort_initialized (show (ready.port t).portState = .initialized by rw [hready]; exact hstate)
  have hfps : ready.maxFps = (init.setPort t q).maxFps := maxFps_congr fun u => rfl
  have hlast : (ready.startPort t).maxFps = ready.maxFps := by
    refine maxFps_congr fun u => ?_
    by_cases hu : u = t
    · rw [hu, hport]
    · rw [hrest.port u hu]
  have hmax : p.framerate ≤ (init.setPort t q).maxFps := by
    have hle : ((init.setPort t q).port t).portFrameRate ≤ (init.setPort t q).maxFps :=
      portFrameRate_le_maxFps
    rwa [port_setPort, if_pos rfl, show q.portFrameRate = p.framerate from hrate] at hle
  have hrun : ctx.runOn t p c = some (ready.startPort t) := by
    simp only [runOn, hinit, hadd, Option.bind_eq_bind, Option.bind_some]
    rfl
  have hframe : SameElsewhere t init ready :=
    ⟨sameElsewhere_setPort.port, fun u hu => rfl, rfl, rfl⟩
  rw [hready] at hport
  refine ⟨_, hrun, (hsame.trans hframe).trans hrest, ?_, ?_, ?_, ?_⟩
  · exact ⟨by rw [hport], by rw [hport]; exact hid, by rw [hport]; exact hrate,
      by rw [hport]; exact hsize, by rw [hport], by rw [hport]; exact hquiet,
      by rw [hport]; exact hprod, hon, by rw [hparams]; cases t <;> exact hwanted,
      by rw [hparams]; exact ⟨_, hmax, rfl, rfl⟩⟩
  · rw [hparams, hmine]
    rfl
  · rw [hparams, hlast, hfps]
    exact fun rate hrate => ⟨_, hrate, rfl, rfl⟩
  · rintro rfl r hr
    rw [hparams]
    obtain ⟨hsize, hformat⟩ := hkept rfl
    rw [happlied] at hr
    exact ⟨hsize.trans hr.1, hformat.trans hr.2⟩

theorem stopPort_started (h : (ctx.port t).portState = .started) :
    SameElsewhere t ctx (ctx.stopPort t) ∧
      (ctx.stopPort t).port t = { ctx.port t with portState := .initialized } ∧
      (ctx.stopPort t).device.streaming t = false ∧
      (ctx.stopPort t).device.parameters = ctx.device.parameters ∧
      (ctx.stopPort t).mParameters = ctx.mParameters := by
  rw [stopPort, if_neg (not_not.mpr h)]
  refine ⟨⟨fun u hu => ?_, fun u hu => ?_, rfl, rfl⟩, ?_, ?_, rfl, rfl⟩
  · simp [setPort, hu]
  · simp [hu]
  · simp [setPort, CameraPort.stop, h]
  · simp

theorem removeConsumer_only {q : CameraPort} (hc : c ≠ 0)
    (hcons : q.consumers = (∅ : OrdMap ConsumerKey Unit).insertIfNew c ())
    (hquiet : q.flow.notifying = none)
    (hprod : q.flow.producer.bufferConsumers =
      (∅ : OrdMap ConsumerKey Unit).insertIfNew c ()) :
    ∃ flow, q.removeConsumer c = some { q with flow := flow, consumers := ∅ } ∧
      flow.notifying = none ∧ flow.producer.bufferConsumers = ∅ := by
  have hempty : ((∅ : OrdMap ConsumerKey Unit).insertIfNew c ()).erase c = ∅ := by
    apply Std.ExtTreeMap.ext_getElem?
    intro k
    by_cases hk : c = k <;> simp [hk]
  refine ⟨{ q.flow with producer := { q.flow.producer with bufferConsumers := ∅ } }, ?_, hquiet,
    rfl⟩
  simp [CameraPort.removeConsumer, hc, hcons, Pipeline.Flow.withConsumers, hquiet,
    Pipeline.BufferProducer.removeConsumer, hprod, hempty]

/-- A port that lets its stream go is free again. -/
theorem release_serves (junk : CameraPortType → UInt32) (h : ctx.Serves t p c) (hc : ctx.consumers[id]? = some c) (h0 : c ≠ 0) :
    ∃ ctx', ctx.release t id = some ctx' ∧ SameElsewhere t ctx ctx' ∧ ctx'.Idle junk t ∧
      ctx'.device.parameters = ctx.device.parameters ∧ ctx'.mParameters = ctx.mParameters := by
  obtain ⟨hsame, hport, hoff, hparams, hmine⟩ := stopPort_started h.state
  obtain ⟨flow, hremove, hquiet, hprod⟩ :=
    removeConsumer_only (q := (ctx.stopPort t).port t) h0 (by rw [hport]; exact h.consumers)
      (by rw [hport]; exact h.quiet) (by rw [hport]; exact h.producer)
  have hmap : (ctx.stopPort t).consumers[id]?.getD 0 = c := by rw [hsame.consumers, hc]; rfl
  have hempty : (∅ : OrdMap ConsumerKey Unit).isEmpty = true := rfl
  simp only [release, hmap, hremove, CameraPort.deInit, hempty, if_true, Option.bind_eq_bind,
    Option.bind_some]
  refine ⟨_, rfl, hsame.trans sameElsewhere_setPort, ?_, hparams, hmine⟩
  refine ⟨?_, .inl ?_, ?_, ?_, ?_, ?_, hoff⟩ <;> simp [hquiet, hprod]

/-- A port runs the stream with its consumer. -/
def ServesStream (ctx : CameraContext) (s : Streams) (t : CameraPortType) (id : UInt32) : Prop :=
  ∃ p c, s.params[id]? = some p ∧ s.consumers[id]? = some c ∧ c ≠ 0 ∧ ctx.Serves t p c

/-- The device and the ports do what the list of running streams says. -/
structure Refines (junk : CameraPortType → UInt32) (ctx : CameraContext) (s : Streams) : Prop where
  params : ctx.streamsParams = s.params
  consumers : ctx.consumers = s.consumers
  applied : ctx.device.parameters = ctx.mParameters
  named : ∀ id p, s.params[id]? = some p →
    p.id = id ∧ ¬ Stray junk id ∧ (fromQmmfToHalFormat p.format).isSome
  nodup : s.running.Nodup
  two : s.running.length ≤ 2
  consumed : ∀ id, id ∈ s.consumers ↔ id ∈ s.running
  port : ∀ t, match s.running[t.index]? with
    | none => ctx.Idle junk t
    | some id => ctx.ServesStream s t id

theorem refines_opened : Refines junk (opened junk) {} := by
  have hidle : ∀ t, (opened junk).Idle junk t := fun t =>
    ⟨rfl, .inr (by cases t <;> simp [opened]), rfl, rfl, rfl, rfl, rfl⟩
  exact ⟨rfl, rfl, rfl, by simp, .nil, by simp, by simp, hidle⟩

theorem Refines.shape (h : Refines junk ctx s) :
    (s.running = [] ∧ ctx.Idle junk .preview ∧ ctx.Idle junk .video) ∨
    (∃ a, s.running = [a] ∧ ctx.ServesStream s .preview a ∧ ctx.Idle junk .video) ∨
    ∃ a b, a ≠ b ∧ s.running = [a, b] ∧ ctx.ServesStream s .preview a ∧
      ctx.ServesStream s .video b := by
  have hfirst := h.port .preview
  have hsecond := h.port .video
  have hnodup := h.nodup
  have htwo := h.two
  rcases hrun : s.running with _ | ⟨a, _ | ⟨b, _ | ⟨x, rest⟩⟩⟩ <;>
    simp only [hrun, CameraPortType.index] at hfirst hsecond hnodup htwo
  · exact .inl ⟨rfl, hfirst, hsecond⟩
  · exact .inr (.inl ⟨a, rfl, hfirst, hsecond⟩)
  · exact .inr (.inr ⟨a, b, by simpa using hnodup, rfl, hfirst, hsecond⟩)
  · simp at htwo

/-- A stream that a port runs. -/
def Runs (ctx : CameraContext) (id : UInt32) : Prop :=
  ∃ t ∈ portTypes, (ctx.port t).portState = .started ∧ (ctx.port t).trackId = id

theorem ServesStream.id_eq (hs : ctx.ServesStream s t id) (h : Refines junk ctx s) :
    (ctx.port t).portState = .started ∧ (ctx.port t).trackId = id := by
  obtain ⟨p, c, hp, -, -, hserves⟩ := hs
  exact ⟨hserves.state, hserves.id.trans (h.named id p hp).1⟩

theorem Idle.not_started (h : ctx.Idle junk t) : (ctx.port t).portState ≠ .started := by
  rw [h.state]
  nofun

theorem runs_iff (h : Refines junk ctx s) : ctx.Runs id ↔ id ∈ s.running := by
  simp only [Runs, portTypes, List.mem_cons, List.not_mem_nil, or_false, exists_eq_or_imp,
    exists_eq_left]
  obtain ⟨hrun, hp, hv⟩ | ⟨a, hrun, hp, hv⟩ | ⟨a, b, hab, hrun, hp, hv⟩ := h.shape
  · simp [hrun, hp.not_started, hv.not_started]
  · obtain ⟨hstate, rfl⟩ := hp.id_eq h
    simp [hrun, hstate, hv.not_started, eq_comm]
  · obtain ⟨hstate, rfl⟩ := hp.id_eq h
    obtain ⟨hstate', rfl⟩ := hv.id_eq h
    simp [hrun, hstate, hstate', eq_comm]

/-- The ports a call may rely on: a free one to start on, or the right stream to go on with. -/
def Served (ctx : CameraContext) : Call → Prop
  | .startTrack _ _ => ∃ t ∈ portTypes, (ctx.port t).portState = .created
  | .stopTrack id => (∀ t ∈ portTypes, (ctx.port t).portState = .started) →
      (ctx.port .preview).trackId = id → (ctx.otherStream id).id = (ctx.port .video).trackId
  | .init _ | .deInit _ => True

/-- How a `TrackSource` makes its calls: fresh ids, consumers that are there, and a track starts
and stops in turn. -/
def Ordered (junk : CameraPortType → UInt32) (ctx : CameraContext) : Call → Prop
  | .init p => p.id ∉ ctx.streamsParams ∧ ¬ Stray junk p.id ∧
      (fromQmmfToHalFormat p.format).isSome
  | .startTrack id c => id ∈ ctx.streamsParams ∧ c ≠ 0 ∧ ¬ ctx.Runs id
  | .stopTrack id => ctx.Runs id
  | .deInit id => ¬ ctx.Runs id

instance (ctx : CameraContext) (id : UInt32) : Decidable (ctx.Runs id) :=
  inferInstanceAs (Decidable (∃ t ∈ portTypes, _))

instance (ctx : CameraContext) : (a : Call) → Decidable (ctx.Served a)
  | .startTrack _ _ => inferInstanceAs (Decidable (∃ t ∈ portTypes, _))
  | .stopTrack _ => inferInstanceAs (Decidable (_ → _ → _))
  | .init _ | .deInit _ => .isTrue trivial

instance (ctx : CameraContext) : (a : Call) → Decidable (ctx.Ordered junk a)
  | .init _ | .startTrack _ _ => inferInstanceAs (Decidable (_ ∧ _))
  | .stopTrack id => inferInstanceAs (Decidable (ctx.Runs id))
  | .deInit id => inferInstanceAs (Decidable (¬ ctx.Runs id))

theorem refines_init (h : Refines junk ctx s) (hord : ctx.Ordered junk (.init p)) :
    Refines junk (ctx.createStream p).2 (s.call (.init p)) := by
  obtain ⟨hfresh, hstray, hformat⟩ := hord
  rw [h.params] at hfresh
  by_cases hfull : 2 < s.params.size
  · simpa [createStream, Streams.call, h.params, hfull] using h
  simp only [createStream, Streams.call, h.params, gt_iff_lt, hfull, if_false]
  refine ⟨rfl, h.consumers, h.applied, fun id q hq => ?_, h.nodup, h.two, h.consumed, fun t => ?_⟩
  · rw [OrdMap.getElem?_emplace] at hq
    split at hq
    · next hid =>
      subst hid
      rw [Std.ExtTreeMap.getElem?_eq_none hfresh] at hq
      obtain rfl := Option.some.inj hq
      exact ⟨rfl, hstray, hformat⟩
    · exact h.named id q hq
  · have hport := h.port t
    revert hport
    dsimp only
    cases s.running[t.index]? with
    | none => exact fun hidle => hidle.congr rfl rfl
    | some id =>
      rintro ⟨q, c, hq, hc, h0, hserves⟩
      refine ⟨q, c, ?_, hc, h0, hserves.congr rfl rfl hserves.wanted hserves.paced⟩
      dsimp only
      rw [OrdMap.getElem?_emplace]
      split
      · next hid =>
        subst hid
        rw [hq]
        rfl
      · exact hq

/-- What `StartStream` finds once the consumer is there. -/
theorem startTrack_eq (h : Refines junk ctx s) (hord : ctx.Ordered junk (.startTrack id c))
    (hparam : s.params[id]? = some p) :
    ctx.call (.startTrack id c) =
      (match ctx.getFreePort with
      | none => none
      | some t => ({ ctx with consumers := s.consumers.insert id c }).runOn t p c) := by
  obtain ⟨hmem, -, hidle⟩ := hord
  have hnew : id ∉ ctx.consumers := by
    rwa [h.consumers, h.consumed, ← runs_iff h]
  have hcons : ctx.consumers.insertIfNew id c = s.consumers.insert id c := by
    apply Std.ExtTreeMap.ext_getElem?
    intro k
    rw [OrdMap.getElem?_emplace, Std.ExtTreeMap.getElem?_insert, ← h.consumers]
    by_cases hk : id = k
    · subst hk
      simp [Std.ExtTreeMap.getElem?_eq_none hnew]
    · simp [hk]
  have hkeep : (s.consumers.insert id c).insertIfNew id 0 = s.consumers.insert id c :=
    OrdMap.insertIfNew_of_mem (by simp)
  have hget : (s.consumers.insert id c)[id]?.getD 0 = c := by simp
  have hparams : ctx.streamsParams[id]?.getD {} = p := by
    rw [h.params, hparam]
    rfl
  simp only [call, addConsumer, expect, if_true, Option.bind_eq_bind, Option.bind_some,
    startStream, hcons, hkeep, hget, hparams, OrdMap.insertIfNew_of_mem hmem]
  change Option.bind (match ctx.getFreePort with | none => _ | some t => _) _ = _
  cases ctx.getFreePort with
  | none => rfl
  | some t =>
    dsimp only
    cases runOn _ t p c <;> rfl

theorem getFreePort_eq : ctx.getFreePort =
    if (ctx.port .preview).portState = .created then some .preview
    else if (ctx.port .video).portState = .created then some .video else none := by
  simp only [getFreePort, portTypes, List.find?_cons, List.find?_nil]
  split_ifs <;> simp_all

theorem refines_startTrack (h : Refines junk ctx s) (hord : ctx.Ordered junk (.startTrack id c))
    (hserved : ctx.Served (.startTrack id c)) :
    ∃ ctx', ctx.call (.startTrack id c) = some ctx' ∧
      Refines junk ctx' (s.call (.startTrack id c)) := by
  have hmem := hord.1
  have hnot : id ∉ s.running := mt (runs_iff h).mpr hord.2.2
  rw [h.params, Std.ExtTreeMap.mem_iff_isSome_getElem?] at hmem
  obtain ⟨p, hp⟩ := Option.isSome_iff_exists.mp hmem
  obtain ⟨hpid, hstray, hformat⟩ := h.named id p hp
  rw [startTrack_eq h hord hp]
  set mid : CameraContext := { ctx with consumers := s.consumers.insert id c }
  have hget : (s.consumers.insert id c)[id]? = some c := by simp
  have hothers : ∀ a, a ∈ s.running → ∀ d, s.consumers[a]? = some d →
      (s.consumers.insert id c)[a]? = some d := by
    intro a ha d hd
    rw [Std.ExtTreeMap.getElem?_insert, if_neg (by simpa using fun heq : id = a => hnot (heq ▸ ha))]
    exact hd
  have hconsumed : ∀ a, a ∈ s.consumers.insert id c ↔ a ∈ s.running ++ [id] := by
    intro a
    rw [Std.ExtTreeMap.mem_insert, h.consumed, List.mem_append, List.mem_singleton, or_comm,
      Std.compare_eq_iff_eq, eq_comm]
  have hnodup : (s.running ++ [id]).Nodup := by
    simpa [List.nodup_append] using ⟨h.nodup, fun a ha heq => hnot (heq ▸ ha)⟩
  obtain ⟨hrun, hpre, hvid⟩ | ⟨a, hrun, hpre, hvid⟩ | ⟨a, b, hab, hrun, hpre, hvid⟩ := h.shape
  · -- the preview port is free
    have hfree : ctx.getFreePort = some .preview := by rw [getFreePort_eq, if_pos hpre.state]
    rw [hfree]
    obtain ⟨ctx', hctx, hsame, hserves, happlied, hfps, -⟩ :=
      runOn_idle (show mid.Idle junk .preview from hpre.congr rfl rfl) hformat hord.2.1 h.applied
    refine ⟨ctx', hctx, hsame.streamsParams.trans h.params, hsame.consumers, happlied, h.named,
      hnodup, by simp [Streams.call, hrun], hconsumed, fun t => ?_⟩
    cases t
    · simpa [Streams.call, hrun, CameraPortType.index] using ⟨p, c, hp, hget, hord.2.1, hserves⟩
    · simpa [Streams.call, hrun, CameraPortType.index] using
        Idle.frame (show mid.Idle junk .video from hvid.congr rfl rfl) hsame nofun
  · -- one stream is previewed and stays
    have hfree : ctx.getFreePort = some .video := by
      rw [getFreePort_eq, if_neg (by simp [(hpre.id_eq h).1]), if_pos hvid.state]
    rw [hfree]
    obtain ⟨ctx', hctx, hsame, hserves, happlied, hfps, hkeep⟩ :=
      runOn_idle (show mid.Idle junk .video from hvid.congr rfl rfl) hformat hord.2.1 h.applied
    obtain ⟨q, d, hq, hd, hd0, hold⟩ := hpre
    have hport : ctx'.port .preview = ctx.port .preview := hsame.port _ nofun
    have hrate : Paced ctx'.device.parameters q.framerate := by
      refine hfps _ ?_
      rw [← hold.rate, ← hport]
      exact portFrameRate_le_maxFps
    have hstill : ctx'.Serves .preview q d :=
      hold.congr hport (hsame.streaming _ nofun) (hkeep rfl q hold.wanted) hrate
    refine ⟨ctx', hctx, hsame.streamsParams.trans h.params, hsame.consumers, happlied, h.named,
      hnodup, by simp [Streams.call, hrun], hconsumed, fun t => ?_⟩
    cases t
    · simpa [Streams.call, hrun, CameraPortType.index] using
        ⟨q, d, hq, hothers a (by simp [hrun]) d hd, hd0, hstill⟩
    · simpa [Streams.call, hrun, CameraPortType.index] using ⟨p, c, hp, hget, hord.2.1, hserves⟩
  · -- both ports are taken
    obtain ⟨t, -, ht⟩ := hserved
    cases t
    · exact absurd ht (by simp [(hpre.id_eq h).1])
    · exact absurd ht (by simp [(hvid.id_eq h).1])

/-- Without a free port the answer is an error, which a `TrackSource` asserts on. -/
theorem startTrack_full (h : Refines junk ctx s) (hord : ctx.Ordered junk (.startTrack id c))
    (hfull : ¬ ctx.Served (.startTrack id c)) : ctx.call (.startTrack id c) = none := by
  have hmem := hord.1
  rw [h.params, Std.ExtTreeMap.mem_iff_isSome_getElem?] at hmem
  obtain ⟨p, hp⟩ := Option.isSome_iff_exists.mp hmem
  have hnone : ctx.getFreePort = none := by
    simpa [getFreePort, Served] using hfull
  rw [startTrack_eq h hord hp, hnone]

theorem refines_deInit (h : Refines junk ctx s) (hord : ctx.Ordered junk (.deInit id)) :
    ∃ ctx', ctx.call (.deInit id) = some ctx' ∧ Refines junk ctx' (s.call (.deInit id)) := by
  have hnot : id ∉ s.running := mt (runs_iff h).mpr hord
  have hnone : portTypes.find? (fun t => (ctx.port t).trackId = id ∧
      ((ctx.port t).portState ≠ .created ∨ ctx.waits id t ∧ !true)) = none := by
    rw [List.find?_eq_none]
    intro t _
    have hport := h.port t
    cases hslot : s.running[t.index]? with
    | none =>
      rw [hslot] at hport
      simp [hport.state]
    | some a =>
      rw [hslot] at hport
      obtain ⟨-, rfl⟩ := hport.id_eq h
      have hne : (ctx.port t).trackId ≠ id := fun heq => hnot (heq ▸ List.mem_of_getElem? hslot)
      simp [hne]
  simp only [call, deleteStream, hnone, expect, if_true]
  refine ⟨_, rfl, ?_, h.consumers, h.applied, fun a p hp => ?_, h.nodup, h.two, h.consumed,
    fun t => ?_⟩
  · simp [Streams.call, h.params]
  · rw [Streams.call, Std.ExtTreeMap.getElem?_erase] at hp
    split at hp
    · cases hp
    · exact h.named a p hp
  · have hport := h.port t
    revert hport
    dsimp only [Streams.call]
    cases hslot : s.running[t.index]? with
    | none => exact fun hidle => hidle.congr rfl rfl
    | some a =>
      rintro ⟨q, c, hq, hc, h0, hserves⟩
      have hne : id ≠ a := fun heq => hnot (heq ▸ List.mem_of_getElem? hslot)
      refine ⟨q, c, ?_, hc, h0, hserves.congr rfl rfl hserves.wanted hserves.paced⟩
      simpa [Std.ExtTreeMap.getElem?_erase, hne] using hq

theorem removeConsumer_free (h : ∀ t, (ctx.port t).trackId ≠ id) :
    ctx.removeConsumer id = (.noError, { ctx with consumers := ctx.consumers.erase id }) := by
  simp [removeConsumer, portTypes, h]

theorem stopStream_eq : ctx.stopStream id =
    if (ctx.port .video).trackId = id then (ctx.release .video id).map fun ctx => (.noError, ctx)
    else if (ctx.port .preview).trackId = id then
      if (ctx.port .preview).portState = .started ∧ (ctx.port .video).portState = .started then
        ctx.handOver id
      else (ctx.release .preview id).map fun ctx => (.noError, ctx)
    else none := by
  by_cases hv : (ctx.port .video).trackId = id
  · simp [stopStream, portTypes, hv]
  · by_cases hp : (ctx.port .preview).trackId = id <;> simp [stopStream, portTypes, hv, hp]

theorem Idle.trackId_ne (h : ctx.Idle junk t) (hs : ¬ Stray junk id) :
    (ctx.port t).trackId ≠ id := by
  rintro rfl
  exact hs h.id

theorem stray_running (h : Refines junk ctx s) (hs : ctx.ServesStream s t id) :
    ¬ Stray junk id := by
  obtain ⟨p, -, hp, -⟩ := hs
  exact (h.named id p hp).2.1

/-- The stream that goes on is one that exists and is not `id`. -/
theorem otherStream_spec (id : UInt32) (h : Refines junk ctx s) {b : UInt32} (hb : b ∈ s.params) (hne : b ≠ id) :
    s.params[(ctx.otherStream id).id]? = some (ctx.otherStream id) ∧
      (ctx.otherStream id).id ≠ id := by
  rw [Std.ExtTreeMap.mem_iff_isSome_getElem?] at hb
  obtain ⟨p, hp⟩ := Option.isSome_iff_exists.mp hb
  have hmem : (b, p) ∈ ctx.streamsParams.toList :=
    Std.ExtTreeMap.mem_toList_iff_getElem?_eq_some.mpr (by rw [h.params, hp])
  cases hfind : ctx.streamsParams.toList.find? fun iter => iter.2.id ≠ id with
  | none =>
    have hall := List.find?_eq_none.mp hfind (b, p) hmem
    simp [(h.named b p hp).1, hne] at hall
  | some iter =>
    have hget := Std.ExtTreeMap.mem_toList_iff_getElem?_eq_some.mp (List.mem_of_find?_eq_some hfind)
    rw [h.params] at hget
    have hother : ctx.otherStream id = iter.2 := by simp only [otherStream, hfind]; rfl
    rw [hother, (h.named _ _ hget).1]
    refine ⟨hget, ?_⟩
    have := List.find?_some hfind
    simpa [(h.named _ _ hget).1] using this

/-- The rest of `StopTrack` when no port has the stream any more. -/
theorem stopTrack_of_stopStream (hstop : ctx.stopStream id = some (.noError, ctx'))
    (hgone : ∀ t, (ctx'.port t).trackId ≠ id) :
    ctx.call (.stopTrack id) = some { ctx' with consumers := ctx'.consumers.erase id } := by
  simp [call, hstop, expect, removeConsumer_free hgone]

/-- A stream with its consumer, whatever another one loses. -/
theorem ServesStream.of_erase {mid : CameraContext} {a : UInt32} (hs : ctx.ServesStream s t a)
    (hne : a ≠ id) (hport : mid.port t = ctx.port t)
    (hon : mid.device.streaming t = ctx.device.streaming t)
    (hparams : mid.device.parameters = ctx.device.parameters) :
    ServesStream { mid with consumers := mid.consumers.erase id } (s.call (.stopTrack id)) t a := by
  obtain ⟨p, c, hp, hc, h0, hserves⟩ := hs
  refine ⟨p, c, hp, ?_, h0, hserves.congr hport hon ?_ ?_⟩
  · simpa [Streams.call, Std.ExtTreeMap.getElem?_erase, hne.symm] using hc
  · exact hparams ▸ hserves.wanted
  · exact hparams ▸ hserves.paced

/-- The list after a stop, from what its two ports do. -/
theorem refines_stopped {mid : CameraContext} (h : Refines junk ctx s)
    (hparams : mid.streamsParams = ctx.streamsParams) (hcons : mid.consumers = ctx.consumers)
    (happlied : mid.device.parameters = mid.mParameters)
    (hport : ∀ t, match (s.running.erase id)[t.index]? with
      | none => mid.Idle junk t
      | some a => ServesStream { mid with consumers := mid.consumers.erase id }
          (s.call (.stopTrack id)) t a) :
    Refines junk { mid with consumers := mid.consumers.erase id } (s.call (.stopTrack id)) := by
  refine ⟨hparams.trans h.params, by simp [Streams.call, hcons, h.consumers], happlied, h.named,
    h.nodup.erase id, (List.length_erase_le).trans h.two, fun a => ?_, fun t => ?_⟩
  · simp only [Streams.call, Std.ExtTreeMap.mem_erase, h.consumed, h.nodup.mem_erase_iff, ne_eq,
      Std.compare_eq_iff_eq]
    rw [eq_comm]
  · have hslot := hport t
    revert hslot
    dsimp only [Streams.call]
    cases (s.running.erase id)[t.index]? with
    | none => exact fun hidle => hidle.congr rfl rfl
    | some a => exact fun hserves => hserves

theorem handOver_eq {a b : UInt32} (hpre : ctx.ServesStream s .preview a)
    (hvid : ctx.ServesStream s .video b) (h : Refines junk ctx s) :
    ∃ mid : CameraContext, mid.Idle junk .preview ∧ mid.Idle junk .video ∧
      mid.streamsParams = ctx.streamsParams ∧ mid.consumers = ctx.consumers ∧
      mid.device.parameters = mid.mParameters ∧
      ctx.handOver a = (mid.runOn .preview (ctx.otherStream a)
        (ctx.consumers[(ctx.otherStream a).id]?.getD 0)).map fun ctx => (.noError, ctx) := by
  obtain ⟨-, hida⟩ := hpre.id_eq h
  obtain ⟨-, hidb⟩ := hvid.id_eq h
  obtain ⟨p, c, hp, hc, h0, hserves⟩ := hpre
  obtain ⟨q, d, hq, hd, hd0, hserves'⟩ := hvid
  obtain ⟨first, hfirst, hsame, hidle, hparams, hmine⟩ :=
    release_serves junk hserves' (by rw [h.consumers, hd]) hd0
  have hpport : first.port .preview = ctx.port .preview := hsame.port _ nofun
  have hstill : first.Serves .preview p c :=
    hserves.congr hpport (hsame.streaming _ nofun) (hparams ▸ hserves.wanted)
      (hparams ▸ hserves.paced)
  obtain ⟨mid, hmid, hsame', hidle', hparams', hmine'⟩ :=
    release_serves junk hstill (by rw [hsame.consumers, h.consumers, hc]) h0
  have hstreams : mid.streamsParams = ctx.streamsParams :=
    hsame'.streamsParams.trans hsame.streamsParams
  have hmaps : mid.consumers = ctx.consumers := hsame'.consumers.trans hsame.consumers
  have hother : mid.otherStream a = ctx.otherStream a := by simp only [otherStream, hstreams]
  refine ⟨mid, hidle', hidle.frame hsame' nofun, hstreams, hmaps, ?_, ?_⟩
  · rw [hparams', hparams, h.applied, hmine', hmine]
  · simp only [handOver, hidb, hfirst, hpport, hida, hmid, Option.bind_eq_bind, Option.bind_some,
      hother, hmaps, getFreePort_eq, hidle'.state, if_true]

theorem refines_stopTrack (h : Refines junk ctx s) (hord : ctx.Ordered junk (.stopTrack id))
    (hserved : ctx.Served (.stopTrack id)) :
    ∃ ctx', ctx.call (.stopTrack id) = some ctx' ∧
      Refines junk ctx' (s.call (.stopTrack id)) := by
  have hmem : id ∈ s.running := (runs_iff h).mp hord
  obtain ⟨hrun, -⟩ | ⟨a, hrun, hpre, hvid⟩ | ⟨a, b, hab, hrun, hpre, hvid⟩ := h.shape
  · simp [hrun] at hmem
  · -- the only stream
    obtain rfl : id = a := by simpa [hrun] using hmem
    have hstray := stray_running h hpre
    obtain ⟨hstate, hid⟩ := hpre.id_eq h
    obtain ⟨p, c, hp, hc, h0, hserves⟩ := hpre
    obtain ⟨mid, hmid, hsame, hidle, hparams, hmine⟩ :=
      release_serves junk hserves (by rw [h.consumers, hc]) h0
    have hvid' : mid.Idle junk .video := hvid.frame hsame nofun
    have hstop : ctx.stopStream id = some (.noError, mid) := by
      rw [stopStream_eq, if_neg (hvid.trackId_ne hstray), if_pos hid,
        if_neg fun hboth => hvid.not_started hboth.2, hmid]
      rfl
    refine ⟨_, stopTrack_of_stopStream hstop fun t => ?_, refines_stopped h hsame.streamsParams
      hsame.consumers (by rw [hparams, h.applied, hmine]) fun t => ?_⟩
    · cases t
      · exact hidle.trackId_ne hstray
      · exact hvid'.trackId_ne hstray
    · cases t
      · simpa [hrun, CameraPortType.index] using hidle
      · simpa [hrun, CameraPortType.index] using hvid'
  obtain ⟨hstate, hida⟩ := hpre.id_eq h
  obtain ⟨hstate', hidb⟩ := hvid.id_eq h
  obtain rfl | rfl : id = a ∨ id = b := by simpa [hrun] using hmem
  · -- the recorded stream moves to the preview port
    have hstray := stray_running h hpre
    obtain ⟨mid, hfree, hfree', hstreams, hmaps, happlied, heq⟩ := handOver_eq hpre hvid h
    have hother : (ctx.otherStream id).id = b :=
      (hserved (by simp [portTypes, hstate, hstate']) hida).trans hidb
    obtain ⟨q, d, hq, hd, hd0, -⟩ := hvid
    obtain ⟨hget, -⟩ := otherStream_spec id h
      (Std.ExtTreeMap.mem_iff_isSome_getElem?.mpr (by rw [hq]; rfl)) hab.symm
    obtain rfl : ctx.otherStream id = q := Option.some.inj ((hother ▸ hget).symm.trans hq)
    obtain ⟨ctx', hctx, hsame, hserves, happlied', -, -⟩ :=
      runOn_idle hfree (h.named b _ hq).2.2 hd0 happlied
    have hcons : ctx.consumers[(ctx.otherStream id).id]?.getD 0 = d := by
      rw [hother, h.consumers, hd]
      rfl
    have hstop : ctx.stopStream id = some (.noError, ctx') := by
      rw [stopStream_eq, if_neg (by rw [hidb]; exact hab.symm), if_pos hida,
        if_pos ⟨hstate, hstate'⟩, heq, hcons, hctx]
      rfl
    have hidle : ctx'.Idle junk .video := hfree'.frame hsame nofun
    refine ⟨_, stopTrack_of_stopStream hstop fun t => ?_, refines_stopped h
      (hsame.streamsParams.trans hstreams) (hsame.consumers.trans hmaps) happlied' fun t => ?_⟩
    · cases t
      · rw [hserves.id, hother]
        exact hab.symm
      · exact hidle.trackId_ne hstray
    · cases t
      · have hlost : (s.call (.stopTrack id)).consumers[b]? = some d := by
          simpa [Streams.call, Std.ExtTreeMap.getElem?_erase, hab] using hd
        simpa [hrun, hab, CameraPortType.index] using ⟨_, d, hq, hlost, hd0,
          hserves.congr rfl rfl hserves.wanted hserves.paced⟩
      · simpa [hrun, hab, CameraPortType.index] using hidle
  · -- only the recorded stream stops
    have hstray := stray_running h hvid
    obtain ⟨p, c, hp, hc, h0, hserves⟩ := hvid
    obtain ⟨mid, hmid, hsame, hidle, hparams, hmine⟩ :=
      release_serves junk hserves (by rw [h.consumers, hc]) h0
    have hstop : ctx.stopStream id = some (.noError, mid) := by
      rw [stopStream_eq, if_pos hidb, hmid]
      rfl
    refine ⟨_, stopTrack_of_stopStream hstop fun t => ?_, refines_stopped h hsame.streamsParams
      hsame.consumers (by rw [hparams, h.applied, hmine]) fun t => ?_⟩
    · cases t
      · rw [hsame.port .preview nofun, hida]
        exact hab
      · exact hidle.trackId_ne hstray
    · cases t
      · simpa [hrun, hab, CameraPortType.index] using
          hpre.of_erase hab (hsame.port _ nofun) (hsame.streaming _ nofun) hparams
      · simpa [hrun, hab, CameraPortType.index] using hidle

/-- A stream that is not the recorded one has no consumer to go on with. -/
theorem stopTrack_unserved (h : Refines junk ctx s) (hunserved : ¬ ctx.Served (.stopTrack id)) :
    ctx.call (.stopTrack id) = none := by
  simp only [Served, not_forall] at hunserved
  obtain ⟨hboth, hid, hother⟩ := hunserved
  have hstate := hboth .preview (by simp [portTypes])
  have hstate' := hboth .video (by simp [portTypes])
  obtain ⟨hrun, hpre, -⟩ | ⟨a, hrun, -, hvid⟩ | ⟨a, b, hab, hrun, hpre, hvid⟩ := h.shape
  · exact absurd hstate hpre.not_started
  · exact absurd hstate' hvid.not_started
  obtain ⟨-, hida⟩ := hpre.id_eq h
  obtain ⟨-, hidb⟩ := hvid.id_eq h
  obtain rfl : id = a := hid.symm.trans hida
  obtain ⟨mid, -, -, -, -, -, heq⟩ := handOver_eq hpre hvid h
  have hb : b ∈ s.params := by
    obtain ⟨q, -, hq, -⟩ := hvid
    exact Std.ExtTreeMap.mem_iff_isSome_getElem?.mpr (by rw [hq]; rfl)
  obtain ⟨-, hne⟩ := otherStream_spec id h hb hab.symm
  rw [hidb] at hother
  have hlost : ctx.consumers[(ctx.otherStream id).id]? = none := by
    refine Std.ExtTreeMap.getElem?_eq_none ?_
    rw [h.consumers, h.consumed, hrun]
    simp [hne, hother]
  have hnull : ∀ (x : CameraContext) (p : StreamParam), x.runOn .preview p 0 = none := by
    intro x p
    unfold runOn
    cases x.initPort .preview p <;> simp [CameraPort.addConsumer]
  have hstop : ctx.stopStream id = none := by
    rw [stopStream_eq, if_neg (by rw [hidb]; exact hab.symm), if_pos hida,
      if_pos ⟨hstate, hstate'⟩, heq, hlost]
    simp [hnull]
  simp [call, hstop]

/-- Every call of an orderly `TrackSource` that the ports can serve does what the list does. -/
theorem refines_call (h : Refines junk ctx s) (hord : ctx.Ordered junk a) (hserved : ctx.Served a) :
    ∃ ctx', ctx.call a = some ctx' ∧ Refines junk ctx' (s.call a) := by
  cases a with
  | init p => exact ⟨_, rfl, refines_init h hord⟩
  | startTrack id c => exact refines_startTrack h hord hserved
  | stopTrack id => exact refines_stopTrack h hord hserved
  | deInit id => exact refines_deInit h hord

theorem call_unserved (h : Refines junk ctx s) (hord : ctx.Ordered junk a)
    (hunserved : ¬ ctx.Served a) : ctx.call a = none := by
  cases a with
  | init p => exact absurd trivial hunserved
  | startTrack id c => exact startTrack_full h hord hunserved
  | stopTrack id => exact stopTrack_unserved h hunserved
  | deInit id => exact absurd trivial hunserved

/-- The caller keeps to the two streams that the camera has ports for. -/
def WithinTwo (ctx : CameraContext) : Call → Prop
  | .init _ => ctx.streamsParams.size < 2
  | _ => True

theorem ServesStream.mem (hs : ctx.ServesStream s t id) : id ∈ s.params := by
  obtain ⟨p, -, hp, -⟩ := hs
  exact Std.ExtTreeMap.mem_iff_isSome_getElem?.mpr (by rw [hp]; rfl)

instance (ctx : CameraContext) : (a : Call) → Decidable (ctx.WithinTwo a)
  | .init _ => inferInstanceAs (Decidable (ctx.streamsParams.size < 2))
  | .startTrack _ _ | .stopTrack _ | .deInit _ => .isTrue trivial

/-- With two streams there is no third one to start or to go on with. -/
theorem served_of_two (h : Refines junk ctx s) (hsize : s.params.size ≤ 2)
    (hord : ctx.Ordered junk a) : ctx.Served a := by
  have hthree : ∀ x y z, x ≠ y → x ≠ z → y ≠ z → x ∈ s.params → y ∈ s.params → z ∉ s.params := by
    intro x y z hxy hxz hyz hx hy hz
    have hle : [x, y, z].length ≤ s.params.size :=
      OrdMap.length_le_size (by simp [hxy, hxz, hyz]) (by simp [hx, hy, hz])
    exact absurd (hle.trans hsize) (by simp)
  cases a with
  | init p => exact trivial
  | deInit id => exact trivial
  | startTrack id c =>
    obtain ⟨hmem, -, hidle⟩ := hord
    rw [h.params] at hmem
    obtain ⟨-, hpre, -⟩ | ⟨a, -, -, hvid⟩ | ⟨a, b, hab, hrun, hpre, hvid⟩ := h.shape
    · exact ⟨.preview, by simp [portTypes], hpre.state⟩
    · exact ⟨.video, by simp [portTypes], hvid.state⟩
    · rw [runs_iff h, hrun] at hidle
      simp only [List.mem_cons, List.not_mem_nil, or_false, not_or] at hidle
      exact absurd hmem (hthree a b id hab (Ne.symm hidle.1) (Ne.symm hidle.2) hpre.mem hvid.mem)
  | stopTrack id =>
    intro hboth hid
    have hstate' := hboth .video (by simp [portTypes])
    obtain ⟨-, -, hvid⟩ | ⟨a, -, -, hvid⟩ | ⟨a, b, hab, -, hpre, hvid⟩ := h.shape
    · exact absurd hstate' hvid.not_started
    · exact absurd hstate' hvid.not_started
    obtain rfl : id = a := hid.symm.trans (hpre.id_eq h).2
    rw [(hvid.id_eq h).2]
    obtain ⟨hget, hne⟩ := otherStream_spec id h hvid.mem hab.symm
    by_contra hother
    exact hthree id b _ hab (Ne.symm hne) (Ne.symm hother) hpre.mem hvid.mem
      (Std.ExtTreeMap.mem_iff_isSome_getElem?.mpr (by rw [hget]; rfl))

/-- As long as a camera has at most two streams, its ports and its device follow the list of
running streams, and none of the assertions is reached. -/
theorem run_refines_streams
    (h : LTS.Meets call (fun ctx a => ctx.Ordered junk a ∧ ctx.WithinTwo a) (opened junk) as) :
    ∃ ctx, LTS.run call (opened junk) as = some ctx ∧
      Refines junk ctx (as.foldl Streams.call {}) := by
  have hstep : ∀ (ctx : CameraContext) (s : Streams) a,
      (Refines junk ctx s ∧ s.params.size ≤ 2) → (ctx.Ordered junk a ∧ ctx.WithinTwo a) →
      ∃ ctx', ctx.call a = some ctx' ∧ Refines junk ctx' (s.call a) ∧
        (s.call a).params.size ≤ 2 := by
    intro ctx s a hR hG
    obtain ⟨ctx', hctx, hR'⟩ := refines_call hR.1 hG.1 (served_of_two hR.1 hR.2 hG.1)
    refine ⟨ctx', hctx, hR', ?_⟩
    have htwo := hG.2
    cases a with
    | init p =>
      have hlt : s.params.size < 2 := by simpa [WithinTwo, hR.1.params] using htwo
      rw [Streams.call, if_neg (by omega)]
      exact Std.ExtTreeMap.size_insertIfNew_le.trans hlt
    | startTrack id c => exact hR.2
    | stopTrack id => exact hR.2
    | deInit id => exact Std.ExtTreeMap.size_erase_le.trans hR.2
  obtain ⟨ctx, hrun, hR, -⟩ := LTS.run_refines hstep h ⟨refines_opened, by simp⟩
  exact ⟨ctx, hrun, hR⟩

/-- A preview and a recording at once; the recording goes on alone. -/
def twoStreams : List Call :=
  [.init ⟨1, 640, 480, .nv12, 30⟩, .init ⟨2, 1920, 1080, .nv12, 60⟩, .startTrack 1 11,
    .startTrack 2 12, .stopTrack 1, .deInit 1, .stopTrack 2, .deInit 2]

theorem run_refines_streams_twoStreams :
    LTS.Meets call (fun ctx a => ctx.Ordered (fun _ => 7) a ∧ ctx.WithinTwo a)
      (opened fun _ => 7) twoStreams ∧
    ∃ ctx, LTS.run call (opened fun _ => 7) twoStreams = some ctx ∧
      Refines (fun _ => 7) ctx (twoStreams.foldl Streams.call {}) :=
  have hmeets : LTS.Meets call (fun ctx a => ctx.Ordered (fun _ => 7) a ∧ ctx.WithinTwo a)
      (opened fun _ => 7) twoStreams := by decide
  ⟨hmeets, run_refines_streams hmeets⟩

/-- A third stream is let in, and the calls for it return if and only if each finds a port, or the
stream that runs on the other one. -/
theorem run_isSome_iff_served (h : LTS.Meets call (Ordered junk) (opened junk) as) :
    (LTS.run call (opened junk) as).isSome ↔ LTS.Meets call Served (opened junk) as := by
  suffices hall : ∀ (ctx : CameraContext) (s : Streams), Refines junk ctx s →
      LTS.Meets call (Ordered junk) ctx as →
      ((LTS.run call ctx as).isSome ↔ LTS.Meets call Served ctx as) from
    hall _ _ refines_opened h
  clear h
  induction as with
  | nil => exact fun ctx s _ _ => iff_of_true rfl trivial
  | cons a as ih =>
    rintro ctx s hR ⟨hord, hrest⟩
    by_cases hserved : ctx.Served a
    · obtain ⟨ctx', hctx, hR'⟩ := refines_call hR hord hserved
      simp only [LTS.run, LTS.Meets, hctx, Option.bind_some, hserved, true_and]
      rw [ih ctx' _ hR' (hrest ctx' hctx)]
      exact ⟨fun hm t ht => Option.some.inj ht ▸ hm, fun hm => hm ctx' rfl⟩
    · simp [LTS.run, LTS.Meets, call_unserved hR hord hserved, hserved]

/-- The stream that goes on would be the idle first one. -/
def threeStreams : List Call :=
  [.init ⟨1, 640, 480, .nv12, 30⟩, .init ⟨2, 640, 480, .nv12, 30⟩, .init ⟨3, 640, 480, .nv12, 30⟩,
    .startTrack 2 12, .startTrack 3 13, .stopTrack 2]

theorem run_isSome_iff_served_threeStreams :
    LTS.Meets call (Ordered fun _ => 7) (opened fun _ => 7) threeStreams ∧
    ((LTS.run call (opened fun _ => 7) threeStreams).isSome ↔
      LTS.Meets call Served (opened fun _ => 7) threeStreams) ∧
    LTS.run call (opened fun _ => 7) threeStreams = none :=
  have hmeets : LTS.Meets call (Ordered fun _ => 7) (opened fun _ => 7) threeStreams := by decide
  have hiff := run_isSome_iff_served hmeets
  ⟨hmeets, hiff, by
    rw [← Option.not_isSome_iff_eq_none, hiff]
    decide⟩

end CameraContext

end QmmfSdk.Hal1
