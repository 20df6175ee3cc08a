import QmmfSdk.Library.Transition
import QmmfSdk.Pipeline.TrackSource

/-! The input port of a video encoder in `AVCodec`: buffer headers go between two lists, and carry the
handles of the input source to the component and back. -/
namespace QmmfSdk.Codec

open Library
open Pipeline (BufferDescriptor)

/-- What a header of the input port holds; `metaHandle` is in the `encoder_media_buffer_type` that its
`pBuffer` points to. -/
structure BufferHeader where
  metaHandle : UInt64 := 0
  eos : Bool := false
  nFilledLen : UInt32 := 0
  nTimeStamp : UInt64 := 0
  deriving DecidableEq, Repr

/-- `in_buff_hdr_`: the component allocates a header of its own for each place. -/
structure InBuffHdrs (H : Type) where
  hdrs : List H
  nodup : hdrs.Nodup

/-- Where `DeliverInput` is: before `GetBuffer`, with a buffer and no header, with both, or at its end.
`failed` tells that `GetBuffer` returned an error with the buffer. -/
inductive DeliverInput (H : Type) where
  | top
  | got (b : BufferDescriptor) (failed : Bool)
  | filled (h : H) (b : BufferDescriptor) (failed : Bool)
  | stopped

/-- A call of `OnEmptyBufferDone` that has read the handle in its header. -/
structure EmptyBufferDone (H : Type) where
  header : H
  data : UInt64
  deriving DecidableEq, Repr

/-- `component` are the headers that the component holds, each with the handle it was given with.
`callbacks` have not put their header back yet, and `returning` have, but not returned their buffer.
`obtained` and `returned` is the traffic with the input source. -/
structure InputPort (H : Type) where
  inBuffHdr : InBuffHdrs H
  headers : H → BufferHeader
  freeInputBuffhdrList : List H
  usedInputBuffhdrList : List H := []
  inputStop : Bool := false
  deliver : DeliverInput H := .top
  component : List (H × UInt64) := []
  callbacks : List (EmptyBufferDone H) := []
  returning : List UInt64 := []
  obtained : List UInt64 := []
  returned : List UInt64 := []

inductive InputAction (H : Type) where
  | getBuffer (b : BufferDescriptor) (failed : Bool)
  | getInputBufferHdr
  | emptyThisBuffer
  | stopInput
  | onEmptyBufferDone (h : H)
  | updateBufferHeaderList (c : EmptyBufferDone H)
  | returnBuffer (d : UInt64)

namespace InputPort

variable {H : Type}

/-- What `StartCodec` leaves of the input port when it starts the thread. -/
def startCodec (hdrs : InBuffHdrs H) : InputPort H where
  inBuffHdr := hdrs
  headers := fun _ => {}
  freeInputBuffhdrList := hdrs.hdrs

variable {s t u : InputPort H} {hdrs : InBuffHdrs H} {h : H} {b : BufferDescriptor} {failed : Bool}
  {d : UInt64}

/-- The header and the buffer that `DeliverInput` has in hand. -/
def handHeader (s : InputPort H) : List H :=
  match s.deliver with
  | .filled h _ _ => [h]
  | .top | .got _ _ | .stopped => []

def handBuffer (s : InputPort H) : List UInt64 :=
  match s.deliver with
  | .got b _ | .filled _ b _ => [b.data]
  | .top | .stopped => []

/-- The buffers between the input source and itself. -/
def outstanding (s : InputPort H) : List UInt64 :=
  s.handBuffer ++ s.component.map (·.2) ++ s.callbacks.map (·.data) ++ s.returning

/-- The two lists share the headers; what the component holds is used and unchanged; and each buffer
was returned once or is on its way. -/
structure Conserved (s : InputPort H) : Prop where
  headers : (s.freeInputBuffhdrList ++ s.usedInputBuffhdrList).Perm s.inBuffHdr.hdrs
  nodup : (s.freeInputBuffhdrList ++ s.usedInputBuffhdrList).Nodup
  used : ∀ e ∈ s.component, e.1 ∈ s.usedInputBuffhdrList
  kept : ∀ e ∈ s.component, (s.headers e.1).metaHandle = e.2
  buffers : ∀ d, s.obtained.count d = s.returned.count d + s.outstanding.count d

/-- Every used header is in one place, with the handle of its buffer in it. -/
structure Sound (s : InputPort H) : Prop where
  headers : (s.freeInputBuffhdrList ++ s.usedInputBuffhdrList).Perm s.inBuffHdr.hdrs
  used : s.usedInputBuffhdrList.Perm
    (s.handHeader ++ s.component.map (·.1) ++ s.callbacks.map (·.header))
  kept : ∀ e ∈ s.component, (s.headers e.1).metaHandle = e.2
  filled : ∀ h b failed, s.deliver = .filled h b failed → (s.headers h).metaHandle = b.data
  real : ∀ d ∈ s.outstanding, d ≠ 0
  buffers : ∀ d, s.obtained.count d = s.returned.count d + s.outstanding.count d

theorem sound_startCodec : Sound (startCodec hdrs) := by
  refine ⟨?_, .refl _, nofun, nofun, nofun, fun _ => rfl⟩
  simp [startCodec]

theorem Sound.nodup (hs : s.Sound) : (s.freeInputBuffhdrList ++ s.usedInputBuffhdrList).Nodup :=
  hs.headers.symm.nodup s.inBuffHdr.nodup

theorem Sound.conserved (hs : s.Sound) : s.Conserved := by
  refine ⟨hs.headers, hs.nodup, fun e he => ?_, hs.kept, hs.buffers⟩
  rw [hs.used.mem_iff]
  simp only [List.mem_append, List.mem_map]
  exact .inl (.inr ⟨e, he, rfl⟩)

/-- A used header is in use once only. -/
theorem Sound.disjoint (hs : s.Sound) (hh : h ∈ s.usedInputBuffhdrList) :
    h ∉ s.freeInputBuffhdrList := fun hfree =>
  (List.nodup_append.mp hs.nodup).2.2 h hfree h hh rfl

theorem Sound.mem_used (hs : s.Sound) : h ∈ s.usedInputBuffhdrList ↔
    h ∈ s.handHeader ∨ h ∈ s.component.map (·.1) ∨ h ∈ s.callbacks.map (·.header) := by
  rw [hs.used.mem_iff]
  simp

/-- A buffer comes, and the thread has no header for it yet. -/
theorem sound_getBuffer (hs : s.Sound) (hd : s.deliver = .top) (hb : b.data ≠ 0) :
    Sound { s with deliver := .got b failed, obtained := s.obtained ++ [b.data] } := by
  refine ⟨hs.headers, ?_, hs.kept, nofun, fun d hd' => ?_, fun d => ?_⟩
  · have hused := hs.used
    simp only [handHeader, hd] at hused ⊢
    exact hused
  · have hreal := hs.real d
    simp only [outstanding, handBuffer, hd, List.nil_append, List.mem_append, List.mem_singleton] at hd' hreal
    obtain ((rfl | hd') | hd') | hd' := hd'
    · exact hb
    · exact hreal (.inl (.inl hd'))
    · exact hreal (.inl (.inr hd'))
    · exact hreal (.inr hd')
  · have hcount := hs.buffers d
    simp only [outstanding, handBuffer, hd, List.count_append, List.count_nil] at hcount ⊢
    omega

theorem sound_returnBuffer (hs : s.Sound) (hd : d ∈ s.returning) :
    Sound { s with returning := s.returning.erase d, returned := s.returned ++ [d] } := by
  have hperm := List.perm_cons_erase hd
  refine ⟨hs.headers, hs.used, hs.kept, hs.filled, fun x hx => ?_, fun x => ?_⟩
  · refine hs.real x ?_
    simp only [outstanding, handBuffer, List.mem_append] at hx ⊢
    exact hx.imp_right List.mem_of_mem_erase
  · have hcount := hs.buffers x
    have hsplit := hperm.count_eq x
    simp only [outstanding, handBuffer, List.count_append, List.count_cons, List.count_nil]
      at hcount hsplit ⊢
    omega

section Steps

variable [DecidableEq H]

/-- The first free header takes the handle; `none` while there is no free one. -/
def getInputBufferHdr (s : InputPort H) (b : BufferDescriptor) : Option (H × InputPort H) :=
  match s.freeInputBuffhdrList with
  | [] => none
  | h :: rest =>
    some (h, { s with
      headers := Function.update s.headers h { s.headers h with metaHandle := b.data }
      usedInputBuffhdrList := s.usedInputBuffhdrList ++ [h]
      freeInputBuffhdrList := rest })

/-- The end of a turn of `DeliverInput`. Once set, the flag of the header stays. -/
def emptyThisBuffer (s : InputPort H) (h : H) (b : BufferDescriptor) (failed : Bool) : InputPort H :=
  let threadStop := failed || s.inputStop
  { s with
    headers := Function.update s.headers h { s.headers h with
      eos := (s.headers h).eos || threadStop
      nFilledLen := b.size
      nTimeStamp := b.timestamp / 1000 }
    component := s.component ++ [(h, (s.headers h).metaHandle)]
    deliver := if threadStop then .stopped else .top }

/-- `none` where the header is not in the list: the code asserts that it is. -/
def updateBufferHeaderList (s : InputPort H) (h : H) : Option (InputPort H) :=
  if h ∈ s.usedInputBuffhdrList then
    some { s with
      freeInputBuffhdrList := s.freeInputBuffhdrList ++ [h]
      usedInputBuffhdrList := s.usedInputBuffhdrList.erase h }
  else none

/-- The source yields handles that are not null, and `EmptyThisBuffer` succeeds. -/
def step (s : InputPort H) : InputAction H → Option (InputPort H)
  | .getBuffer b failed =>
    match s.deliver with
    | .top =>
      if b.data ≠ 0 then
        some { s with deliver := .got b failed, obtained := s.obtained ++ [b.data] }
      else none
    | .got _ _ | .filled _ _ _ | .stopped => none
  | .getInputBufferHdr =>
    match s.deliver with
    | .got b failed => (s.getInputBufferHdr b).map fun r => { r.2 with deliver := .filled r.1 b failed }
    | .top | .filled _ _ _ | .stopped => none
  | .emptyThisBuffer =>
    match s.deliver with
    | .filled h b failed => some (s.emptyThisBuffer h b failed)
    | .top | .got _ _ | .stopped => none
  | .stopInput => some { s with inputStop := true }
  | .onEmptyBufferDone h =>
    match s.component.find? (·.1 = h) with
    | some e =>
      if (s.headers h).metaHandle ≠ 0 then
        some { s with
          component := s.component.erase e
          callbacks := s.callbacks ++ [⟨h, (s.headers h).metaHandle⟩] }
      else none
    | none => none
  | .updateBufferHeaderList c =>
    if c ∈ s.callbacks then
      (s.updateBufferHeaderList c.header).map fun s =>
        { s with callbacks := s.callbacks.erase c, returning := s.returning ++ [c.data] }
    else none
  | .returnBuffer d =>
    if d ∈ s.returning then
      some { s with returning := s.returning.erase d, returned := s.returned ++ [d] }
    else none

variable {a : InputAction H} {as : List (InputAction H)} {c : EmptyBufferDone H}

/-- A free header gets the buffer; those in use are others. -/
theorem sound_getInputBufferHdr (hs : s.Sound) (hd : s.deliver = .got b failed)
    (hu : s.getInputBufferHdr b = some (h, u)) : Sound { u with deliver := .filled h b failed } := by
  unfold getInputBufferHdr at hu
  split at hu
  · cases hu
  next h' rest hfree =>
    obtain ⟨rfl, rfl⟩ := Prod.mk.inj (Option.some.inj hu)
    have hnot : ∀ e ∈ s.component, e.1 ≠ h' := by
      intro e he heq
      refine hs.disjoint (hs.mem_used.mpr (.inr (.inl (List.mem_map_of_mem he)))) ?_
      rw [heq, hfree]
      exact List.mem_cons_self
    refine ⟨?_, ?_, fun e he => ?_, fun h b' f heq => ?_, ?_, ?_⟩
    · have hperm := hs.headers
      rw [hfree] at hperm
      refine .trans ?_ hperm
      rw [← List.append_assoc]
      exact List.perm_append_comm
    · have hused := hs.used
      simp only [handHeader, hd, List.nil_append] at hused ⊢
      exact (hused.append_right [h']).trans List.perm_append_comm
    · simp only [Function.update_of_ne (hnot e he)]
      exact hs.kept e he
    · obtain ⟨rfl, rfl, rfl⟩ := DeliverInput.filled.inj heq
      simp only [Function.update_self]
    · have hreal := hs.real
      simp only [outstanding, handBuffer, hd] at hreal ⊢
      exact hreal
    · have hcount := hs.buffers
      simp only [outstanding, handBuffer, hd] at hcount ⊢
      exact hcount

/-- The component gets the header with the buffer that was stored in it. -/
theorem sound_emptyThisBuffer (hs : s.Sound) (hd : s.deliver = .filled h b failed) :
    (s.emptyThisBuffer h b failed).Sound := by
  have hmeta : ∀ h', (Function.update s.headers h { s.headers h with
      eos := (s.headers h).eos || (failed || s.inputStop)
      nFilledLen := b.size
      nTimeStamp := b.timestamp / 1000 } h').metaHandle = (s.headers h').metaHandle := by
    intro h'
    by_cases heq : h' = h
    · rw [heq, Function.update_self]
    · rw [Function.update_of_ne heq]
  have hdata : (s.headers h).metaHandle = b.data := hs.filled h b failed hd
  have hhand : (s.emptyThisBuffer h b failed).handHeader = [] ∧
      (s.emptyThisBuffer h b failed).handBuffer = [] := by
    unfold handHeader handBuffer emptyThisBuffer
    cases failed || s.inputStop with
    | true => exact ⟨rfl, rfl⟩
    | false => exact ⟨rfl, rfl⟩
  refine ⟨hs.headers, ?_, fun e he => ?_, fun h' b' f heq => ?_, fun d hd' => ?_, fun d => ?_⟩
  · have hused := hs.used
    rw [hhand.1]
    simp only [handHeader, hd, emptyThisBuffer, List.map_append, List.map_cons, List.map_nil,
      List.nil_append] at hused ⊢
    refine hused.trans (.append_right _ ?_)
    exact List.perm_append_comm
  · refine (hmeta e.1).trans ?_
    obtain he | he := List.mem_append.mp he
    · exact hs.kept e he
    · rw [List.mem_singleton.mp he]
  · unfold emptyThisBuffer at heq
    cases hstop : (failed || s.inputStop) with
    | true => simp [hstop] at heq
    | false => simp [hstop] at heq
  · have hreal := hs.real d
    rw [outstanding, hhand.2] at hd'
    simp only [outstanding, handBuffer, hd, emptyThisBuffer, hdata, List.map_append, List.map_cons,
      List.map_nil, List.mem_append, List.mem_singleton, List.not_mem_nil, false_or] at hd' hreal
    refine hreal ?_
    tauto
  · have hcount := hs.buffers d
    rw [outstanding, hhand.2]
    simp only [outstanding, handBuffer, hd, emptyThisBuffer, hdata, List.map_append, List.map_cons,
      List.map_nil, List.count_append, List.count_nil] at hcount ⊢
    omega

/-- The callback reads from the header what the component was given with it. -/
theorem sound_onEmptyBufferDone {e : H × UInt64} (hs : s.Sound) (he : e ∈ s.component) :
    Sound { s with
      component := s.component.erase e
      callbacks := s.callbacks ++ [⟨e.1, (s.headers e.1).metaHandle⟩] } := by
  have hperm := List.perm_cons_erase he
  rw [hs.kept e he]
  refine ⟨hs.headers, ?_, fun x hx => ?_, hs.filled, fun d hd => ?_, fun d => ?_⟩
  · refine hs.used.trans ?_
    simp only [handHeader, List.append_assoc, List.map_append, List.map_cons, List.map_nil]
    refine .append_left _ ?_
    have hmap := hperm.map (·.1)
    refine (hmap.append_right _).trans ?_
    rw [List.map_cons, List.cons_append]
    refine List.perm_middle.symm.trans (.append_left _ ?_)
    exact @List.perm_append_comm _ [e.1] _
  · exact hs.kept x (List.mem_of_mem_erase hx)
  · refine hs.real d ?_
    simp only [outstanding, handBuffer, List.map_append, List.map_cons, List.map_nil, List.mem_append,
      (hperm.map (·.2)).mem_iff, List.mem_cons] at hd ⊢
    tauto
  · have hcount := hs.buffers d
    have hsplit := (hperm.map (·.2)).count_eq d
    simp only [outstanding, handBuffer, List.map_append, List.map_cons, List.map_nil, List.count_append,
      List.count_cons, List.count_nil] at hcount hsplit ⊢
    omega

/-- The header is free again; the callback goes on with its copy of the handle. -/
theorem sound_updateBufferHeaderList (hs : s.Sound) (hc : c ∈ s.callbacks)
    (hu : s.updateBufferHeaderList c.header = some u) :
    Sound { u with callbacks := u.callbacks.erase c, returning := u.returning ++ [c.data] } := by
  unfold updateBufferHeaderList at hu
  split at hu
  next hused =>
    obtain rfl := Option.some.inj hu
    have hperm := List.perm_cons_erase hc
    refine ⟨?_, ?_, hs.kept, hs.filled, fun d hd => ?_, fun d => ?_⟩
    · refine .trans ?_ hs.headers
      rw [List.append_assoc]
      exact .append_left _ (List.perm_cons_erase hused).symm
    · refine .cons_inv (a := c.header) ?_
      refine (List.perm_cons_erase hused).symm.trans (hs.used.trans ?_)
      refine ((hperm.map (·.header)).append_left _).trans ?_
      exact List.perm_middle
    · refine hs.real d ?_
      simp only [outstanding, handBuffer, List.mem_append,
        (hperm.map (·.data)).mem_iff, List.map_cons, List.mem_cons] at hd ⊢
      tauto
    · have hcount := hs.buffers d
      have hsplit := (hperm.map (·.data)).count_eq d
      simp only [outstanding, handBuffer, List.count_append, List.map_cons, List.count_cons,
        List.count_nil] at hcount hsplit ⊢
      omega
  next => cases hu

theorem sound_step (hs : s.Sound) (h : s.step a = some t) : t.Sound := by
  cases a with
  | getBuffer b failed =>
    simp only [step] at h
    split at h
    next hd =>
      split at h
      next hb => exact Option.some.inj h ▸ sound_getBuffer hs hd hb
      next => cases h
    all_goals cases h
  | getInputBufferHdr =>
    simp only [step] at h
    split at h
    next b failed hd =>
      obtain ⟨r, hr, rfl⟩ := Option.map_eq_some_iff.mp h
      exact sound_getInputBufferHdr hs hd hr
    all_goals cases h
  | emptyThisBuffer =>
    simp only [step] at h
    split at h
    next hdr b failed hd => exact Option.some.inj h ▸ sound_emptyThisBuffer hs hd
    all_goals cases h
  | stopInput =>
    obtain rfl := Option.some.inj h
    exact ⟨hs.headers, hs.used, hs.kept, hs.filled, hs.real, hs.buffers⟩
  | onEmptyBufferDone hdr =>
    simp only [step] at h
    split at h
    next e he =>
      split at h
      next =>
        obtain rfl : e.1 = hdr := by simpa using List.find?_some he
        exact Option.some.inj h ▸ sound_onEmptyBufferDone hs (List.mem_of_find?_eq_some he)
      next => cases h
    next => cases h
  | updateBufferHeaderList c =>
    simp only [step] at h
    split at h
    next hc =>
      obtain ⟨u, hu, rfl⟩ := Option.map_eq_some_iff.mp h
      exact sound_updateBufferHeaderList hs hc hu
    next => cases h
  | returnBuffer d =>
    simp only [step] at h
    split at h
    next hd => exact Option.some.inj h ▸ sound_returnBuffer hs hd
    next => cases h

theorem sound_run (hs : s.Sound) (h : LTS.run step s as = some t) : t.Sound :=
  LTS.inv_of_mTr (L := LTS.ofStep step) (fun _ _ _ hstep hs => sound_step hs hstep)
    (LTS.mTr_ofStep_iff.mpr h) hs

/-- The assertions of the callback hold: the header that the component returns has a handle, and is
found in the list. -/
structure Asserted (s : InputPort H) : Prop where
  handle : ∀ e ∈ s.component, ∃ t, s.step (.onEmptyBufferDone e.1) = some t
  found : ∀ c ∈ s.callbacks, ∃ t, s.step (.updateBufferHeaderList c) = some t

theorem Sound.asserted (hs : s.Sound) : s.Asserted := by
  constructor
  · intro e he
    have hsome : (s.component.find? (·.1 = e.1)).isSome := by
      rw [List.find?_isSome]
      exact ⟨e, he, by simp⟩
    obtain ⟨e', he'⟩ := Option.isSome_iff_exists.mp hsome
    have hmem := List.mem_of_find?_eq_some he'
    have heq : e'.1 = e.1 := by simpa using List.find?_some he'
    have hreal : (s.headers e.1).metaHandle ≠ 0 := by
      rw [← heq, hs.kept e' hmem]
      refine hs.real e'.2 ?_
      simp only [outstanding, List.mem_append]
      exact .inl (.inl (.inr (List.mem_map_of_mem hmem)))
    simp [step, he', hreal]
  · intro c hc
    have hused : c.header ∈ s.usedInputBuffhdrList :=
      hs.mem_used.mpr (.inr (.inr (List.mem_map_of_mem hc)))
    simp [step, hc, updateBufferHeaderList, hused]

/-- Whatever the order of the callbacks, the headers and the buffers are conserved, and the callbacks
find what they assert. -/
theorem headers_conserved_run (hdrs : InBuffHdrs H) (as : List (InputAction H)) (t : InputPort H)
    (h : LTS.run step (startCodec hdrs) as = some t) : t.Conserved ∧ t.Asserted :=
  have hs := sound_run sound_startCodec h
  ⟨hs.conserved, hs.asserted⟩

end Steps

section Runs

def twoHdrs : InBuffHdrs Nat := ⟨[0, 1], by decide⟩

def buffer (data : UInt64) : BufferDescriptor :=
  { data, fd := 0, size := 0, capacity := 0, timestamp := 0, flag := 0 }

/-- Two buffers come back in the other order, and the header of the second takes another meanwhile. -/
def reordered : List (InputAction Nat) := [.getBuffer (buffer 7) false, .getInputBufferHdr,
  .emptyThisBuffer, .getBuffer (buffer 8) false, .getInputBufferHdr, .emptyThisBuffer,
  .onEmptyBufferDone 1, .updateBufferHeaderList ⟨1, 8⟩, .getBuffer (buffer 9) false,
  .getInputBufferHdr, .returnBuffer 8, .onEmptyBufferDone 0, .emptyThisBuffer]

theorem conserved_reordered : ∃ t, LTS.run step (startCodec twoHdrs) reordered = some t ∧
    t.Conserved ∧ t.Asserted := by
  have hruns : (LTS.run step (startCodec twoHdrs) reordered).isSome := by decide
  obtain ⟨t, ht⟩ := Option.isSome_iff_exists.mp hruns
  exact ⟨t, ht, headers_conserved_run twoHdrs reordered t ht⟩

end Runs

end InputPort

end QmmfSdk.Codec
