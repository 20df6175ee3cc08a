import QmmfSdk.Library.Keyed
import QmmfSdk.Pipeline.TrackBooks

/-! The deliveries of a track over whole runs: each goes back to the producer once, after its last
holder. -/
namespace QmmfSdk.Pipeline

open Library Binder Recorder

namespace TrackFlow

variable {cfg : TrackConfig} {s t : TrackFlow} {a : Action} {as : List Action} {b : StreamBuffer}
  {d : BufferDescriptor} {h k : IBufferHandle}

/-- The first queued frame goes to the encoder, and leaves the queue when it is marked. -/
theorem getBuffer_cases {u v : TrackSource} (hg : u.getBuffer cfg = some (d, v)) :
    ∃ b rest e, u.framesReceived = b :: rest ∧ e.handle = b.handle ∧
      d.data = cfg.getAllocBufferHandle b.handle ∧
      v.framesBeingEncoded = u.framesBeingEncoded ++ [e] ∧
      v.buffersMap = u.buffersMap.insert (cfg.getAllocBufferHandle b.handle) b.handle ∧
      ((e.needsReturn = true ∧ v.framesReceived = rest) ∨
        (cfg.timeLapseInterval = none ∧ e.needsReturn = b.needsReturn ∧
          v.framesReceived = e :: rest)) ∧
      v.bufferMap = u.bufferMap ∧ v.bufferList = u.bufferList ∧ v.numConsumers = u.numConsumers := by
  unfold TrackSource.getBuffer at hg
  split at hg
  · cases hg
  next b rest hq =>
    dsimp only at hg
    split at hg
    · obtain ⟨rfl, rfl⟩ := Prod.mk.inj (Option.some.inj hg)
      exact ⟨b, rest, { b with needsReturn := true }, hq, rfl, rfl, rfl, rfl, .inl ⟨rfl, rfl⟩, rfl, rfl,
        rfl⟩
    next htl =>
      split at hg
      · cases hg
      split at hg
      · obtain ⟨rfl, rfl⟩ := Prod.mk.inj (Option.some.inj hg)
        exact ⟨b, rest, { b with
            pendingEncodesPerFrame := b.pendingEncodesPerFrame - 1, needsReturn := true },
          hq, rfl, rfl, rfl, rfl, .inl ⟨rfl, rfl⟩, rfl, rfl, rfl⟩
      · obtain ⟨rfl, rfl⟩ := Prod.mk.inj (Option.some.inj hg)
        exact ⟨b, rest, { b with pendingEncodesPerFrame := b.pendingEncodesPerFrame - 1 }, hq, rfl,
          rfl, rfl, rfl, .inr ⟨htl, rfl, rfl⟩, rfl, rfl, rfl⟩

section Encoding

variable {encoder : List BufferDescriptor} {queue queue' encoded : List StreamBuffer}
  {m : OrdMap UInt64 IBufferHandle} {e : StreamBuffer}

/-- The encoder gets a frame that it does not have. -/
theorem Encoding.add (henc : Encoding cfg encoder queue encoded m)
    (hd : d.data = cfg.getAllocBufferHandle e.handle)
    (hnew : ∀ x ∈ encoded, x.handle ≠ e.handle)
    (hqueue : ∀ q ∈ queue, q.handle ≠ e.handle → q ∈ queue')
    (hqueued : e.needsReturn = false → ∃ q ∈ queue', q.handle = e.handle) :
    Encoding cfg (encoder ++ [d]) queue' (encoded ++ [e])
      (m.insert (cfg.getAllocBufferHandle e.handle) e.handle) := by
  constructor
  · rw [List.map_append, List.map_append, List.map_singleton, List.map_singleton, hd]
    exact henc.perm.append_right _
  · rw [List.map_append, List.nodup_append]
    refine ⟨henc.nodup, by simp, ?_⟩
    intro x hx y hy
    obtain ⟨z, hz, rfl⟩ := List.mem_map.mp hx
    obtain rfl : y = e.handle := by simpa using hy
    exact hnew z hz
  · intro x hx
    rw [Std.ExtTreeMap.getElem?_insert]
    rcases List.mem_append.mp hx with hx | hx
    · have hne : cfg.getAllocBufferHandle e.handle ≠ cfg.getAllocBufferHandle x.handle := by
        intro heq
        exact hnew x hx (cfg.getAllocBufferHandle_injective heq).symm
      simp [hne, henc.mapped x hx]
    · obtain rfl : x = e := by simpa using hx
      simp
  · intro x hx hset
    rcases List.mem_append.mp hx with hx | hx
    · obtain ⟨q, hq, hqx⟩ := henc.queued x hx hset
      exact ⟨q, hqueue q hq (hqx ▸ hnew x hx), hqx⟩
    · obtain rfl : x = e := by simpa using hx
      exact hqueued hset

/-- The encoder lets go of a frame, and the address of it is forgotten. -/
theorem Encoding.drop (henc : Encoding cfg encoder queue encoded m) (hd : d ∈ encoder)
    (hdata : d.data = cfg.getAllocBufferHandle e.handle)
    (hfind : encoded.find? (·.handle = e.handle) = some e) :
    Encoding cfg (encoder.erase d) queue (encoded.eraseP (·.handle = e.handle))
      (m.erase d.data) := by
  obtain ⟨l₁, l₂, hl, herase⟩ := Keyed.eraseP_of_find? hfind
  have hsub : ∀ x ∈ l₁ ++ l₂, x ∈ encoded := by
    intro x hx
    rw [hl]
    exact List.perm_middle.mem_iff.mpr (List.mem_cons_of_mem _ hx)
  rw [herase]
  constructor
  · apply List.Perm.cons_inv (a := d.data)
    have hleft : (d.data :: (encoder.erase d).map (·.data)).Perm (encoder.map (·.data)) :=
      ((List.perm_cons_erase hd).map BufferDescriptor.data).symm
    have hright : (encoded.map fun b => cfg.getAllocBufferHandle b.handle).Perm
        (d.data :: (l₁ ++ l₂).map fun b => cfg.getAllocBufferHandle b.handle) := by
      rw [hl, hdata]
      exact List.perm_middle.map _
    exact hleft.trans (henc.perm.trans hright)
  · rw [← herase]
    exact henc.nodup.sublist (List.eraseP_sublist.map _)
  · intro x hx
    have hdx : d.data ≠ cfg.getAllocBufferHandle x.handle := by
      intro heq
      rw [hdata] at heq
      exact Keyed.ne_of_nodup_middle (hl ▸ henc.nodup) hx
        (cfg.getAllocBufferHandle_injective heq).symm
    rw [Std.ExtTreeMap.getElem?_erase, if_neg (by simpa using hdx)]
    exact henc.mapped x (hsub x hx)
  · intro x hx
    exact henc.queued x (hsub x hx)

end Encoding

theorem sound_getBuffer (hs : Sound cfg none s)
    (hnew : ∀ b ∈ s.track.framesReceived.head?, ∀ e ∈ s.track.framesBeingEncoded,
      e.handle ≠ b.handle)
    (ht : s.getBuffer cfg = some t) : Sound cfg none t := by
  obtain ⟨⟨d, v⟩, hg, rfl⟩ := Option.map_eq_some_iff.mp ht
  obtain ⟨b, rest, e, hq, heb, hd, hencoded, hmap, hcases, hbm, hbl, hnum⟩ := getBuffer_cases hg
  replace hnew : ∀ x ∈ s.track.framesBeingEncoded, x.handle ≠ b.handle := hnew b (by simp [hq])
  have hencoding : Encoding cfg (s.encoder ++ [d]) v.framesReceived v.framesBeingEncoded
      v.buffersMap := by
    rw [hencoded, hmap, ← heb]
    refine hs.encoding.add (heb ▸ hd) (heb ▸ hnew) (fun q hqm hne => ?_) (fun hset => ?_)
    · have hrest : q ∈ rest := by
        rw [hq] at hqm
        rcases List.mem_cons.mp hqm with rfl | hmem
        · exact absurd heb.symm hne
        · exact hmem
      rcases hcases with ⟨-, hqueue⟩ | ⟨-, -, hqueue⟩
      · exact hqueue ▸ hrest
      · exact hqueue ▸ List.mem_cons_of_mem _ hrest
    · rcases hcases with ⟨hmarked, -⟩ | ⟨-, -, hqueue⟩
      · simp [hset] at hmarked
      · exact ⟨e, by simp [hqueue], rfl⟩
  have hown : ∀ k, own { s with track := v, encoder := s.encoder ++ [d] } k = s.own k := by
    intro k
    simp only [own, arrivingOf, hencoded, hq, List.countP_append, List.countP_cons]
    rcases hcases with ⟨hset, hqueue⟩ | ⟨htl, heq, hqueue⟩
    · simp [hset, hqueue, heb]
      omega
    · have hset : b.needsReturn = false := (hs.unmarked htl).queue b (by simp [hq])
      simp [heq, hset, hqueue, heb, List.countP_cons]
  refine ⟨hs.tidy, ?_, fun k => ?_, hs.fresh, hnum ▸ hs.consumers, hencoding, fun htl => ?_,
    hbl ▸ hs.listed⟩
  · change Books _ v.bufferMap _ _
    rw [hbm]
    exact hs.books.congr fun k => by rw [hown]
  · rw [hown]
    exact hs.own_le k
  · have hun := hs.unmarked htl
    have hrest : ∀ q ∈ rest, q.needsReturn = false := by
      intro q hqm
      exact hun.queue q (by simp [hq, hqm])
    refine ⟨?_, hun.arriving⟩
    change ∀ q ∈ v.framesReceived, _
    rcases hcases with ⟨-, hqueue⟩ | ⟨-, heq, hqueue⟩
    · rw [hqueue]
      exact hrest
    · rw [hqueue, List.forall_mem_cons]
      exact ⟨heq.trans (hun.queue b (by simp [hq])), hrest⟩

/-- What the encoder was given is found when it comes back. -/
theorem Sound.encodedFrame {o : Option IBufferHandle} (hs : Sound cfg o s) (hd : d ∈ s.encoder) :
    ∃ b, s.track.encodedFrame d = some b ∧ d.data = cfg.getAllocBufferHandle b.handle ∧
      s.track.framesBeingEncoded.find? (·.handle = b.handle) = some b := by
  have hmem := hs.encoding.perm.mem_iff.mp (List.mem_map_of_mem hd)
  obtain ⟨b, hb, hdata⟩ := List.mem_map.mp hmem
  have hmap := hs.encoding.mapped b hb
  have hsome : (s.track.framesBeingEncoded.find? (·.handle = b.handle)).isSome := by
    rw [List.find?_isSome]
    exact ⟨b, hb, by simp⟩
  obtain ⟨b', hb'⟩ := Option.isSome_iff_exists.mp hsome
  have heq : b'.handle = b.handle := by simpa using List.find?_some hb'
  refine ⟨b', ?_, by rw [heq, hdata], by rw [heq, hb']⟩
  simp [TrackSource.encodedFrame, ← hdata, hmap, hb']

/-- The encoder lets go of a frame; the last time the frame is released with it. -/
theorem Sound.dropEncoded (hs : Sound cfg none s) (hd : d ∈ s.encoder)
    (hb : s.track.encodedFrame d = some b) :
    Sound cfg (if b.needsReturn then some b.handle else none)
      { s with track := s.track.dropEncoded d b, encoder := s.encoder.erase d } := by
  obtain ⟨b', hb', hdata, hfind⟩ := hs.encodedFrame hd
  obtain rfl := Option.some.inj (hb'.symm.trans hb)
  obtain ⟨l₁, l₂, hl, herase⟩ := Keyed.eraseP_of_find? hfind
  have hown : ∀ k, s.own k = own { s with
      track := s.track.dropEncoded d b', encoder := s.encoder.erase d } k +
        if (if b'.needsReturn then some b'.handle else none) = some k then 1 else 0 := by
    intro k
    simp only [own, arrivingOf, TrackSource.dropEncoded, herase]
    rw [hl, List.countP_append, List.countP_append, List.countP_cons]
    cases b'.needsReturn with
    | true =>
      simp
      omega
    | false => simp
  refine ⟨hs.tidy, hs.books.congr fun k => ?_, fun k => ?_, hs.fresh, hs.consumers,
    hs.encoding.drop hd hdata hfind, hs.unmarked, hs.listed⟩
  · rw [hown]
    simp
    omega
  · have hle := hs.own_le k
    rw [hown] at hle
    omega

theorem sound_returnBuffer (hs : Sound cfg none s) (hd : d ∈ s.encoder)
    (hcut : ∀ b ∈ s.track.encodedFrame d, b.needsReturn = true →
      s.track.cutsShort cfg b.handle = false)
    (ht : s.returnBuffer cfg d = some t) : Sound cfg none t := by
  obtain ⟨b, hb, rfl⟩ := Option.map_eq_some_iff.mp ht
  have hdrop := hs.dropEncoded hd hb
  cases hset : b.needsReturn with
  | true =>
    rw [hset] at hdrop
    -- the release does not see what was erased after it
    exact hdrop.release (hcut b hb hset)
  | false =>
    rw [hset] at hdrop
    exact hdrop

/-- What the client was given is found when it comes back, and the rest stays listed. -/
theorem Listed.drop {l : OrdMap UInt32 StreamBuffer} {client : List (BnBuffer × IBufferHandle)}
    {x : BnBuffer} (hl : Listed l client) (hx : x ∈ client.map (·.1)) :
    ∃ b e l₁ l₂, l[x.ionFd.toUInt32]? = some b ∧ b.handle = e.2 ∧ e.1 = x ∧
      client = l₁ ++ e :: l₂ ∧ client.eraseP (·.1 = x) = l₁ ++ l₂ ∧
      Listed (l.erase x.ionFd.toUInt32) (l₁ ++ l₂) := by
  have hsome : (client.find? (·.1 = x)).isSome := by
    rw [List.find?_isSome]
    obtain ⟨e, he, rfl⟩ := List.mem_map.mp hx
    exact ⟨e, he, by simp⟩
  obtain ⟨e, hfind⟩ := Option.isSome_iff_exists.mp hsome
  have hex : e.1 = x := by simpa using List.find?_some hfind
  obtain ⟨l₁, l₂, rfl, herase⟩ := Keyed.eraseP_of_find? hfind
  obtain ⟨b, hb, hhandle⟩ := hl.mem e (by simp)
  refine ⟨b, e, l₁, l₂, hex ▸ hb, hhandle, hex, rfl, herase, ⟨fun y hy => ?_, ?_⟩⟩
  · have hfd : x.ionFd.toUInt32 ≠ y.1.ionFd.toUInt32 := by
      intro heq
      apply Keyed.ne_of_nodup_middle (f := fun y => y.1.ionFd) hl.nodup hy
      rw [hex]
      exact (congrArg UInt32.toInt32 heq).symm
    rw [Std.ExtTreeMap.getElem?_erase, if_neg (by simpa using hfd)]
    apply hl.mem y
    simp only [List.mem_append, List.mem_cons] at hy ⊢
    tauto
  · rw [← herase]
    exact hl.nodup.sublist (List.eraseP_sublist.map _)

/-- The assertion of `ReturnTrackBuffer` holds for what the client has. -/
theorem isSome_returnOnes {bs : List BnBuffer} (hl : Listed s.track.bufferList s.client)
    (hsub : bs.Subperm (s.client.map (·.1))) : (bs.foldlM (returnOne cfg) s).isSome = true := by
  induction bs generalizing s with
  | nil => rfl
  | cons x bs ih =>
    obtain ⟨b, e, l₁, l₂, hb, -, rfl, hc, herase, hrest⟩ := hl.drop (x := x) (hsub.subset (by simp))
    simp only [List.foldlM_cons, returnOne, hb, Option.map_some]
    apply ih
    · change Listed (s.track.bufferList.erase _) (s.client.eraseP _)
      rw [herase]
      exact hrest
    · change bs.Subperm ((s.client.eraseP _).map _)
      rw [herase]
      exact Keyed.subperm_of_cons (f := Prod.fst) hc hsub

theorem cutsShort_release (hk : h ≠ k) :
    (s.release cfg h).track.cutsShort cfg k = s.track.cutsShort cfg k := by
  have hm : (s.release cfg h).track.bufferMap[k]? = s.track.bufferMap[k]? := by
    change (s.track.returnBufferToProducer cfg h).1[k]? = _
    unfold TrackSource.returnBufferToProducer
    split
    · rfl
    · split
      · simp [Std.ExtTreeMap.getElem?_erase, hk]
      · split
        · simp [Std.ExtTreeMap.getElem?_erase, hk]
        · simp [Std.ExtTreeMap.getElem?_insert, hk]
  simp only [TrackSource.cutsShort, hm]
  rfl

theorem sound_returnOnes {bs : List BnBuffer} (hs : Sound cfg none s)
    (hsub : bs.Subperm (s.client.map (·.1)))
    (hcut : ∀ x ∈ bs, ∀ b ∈ s.track.bufferList[x.ionFd.toUInt32]?,
      s.track.cutsShort cfg b.handle = false)
    (ht : bs.foldlM (returnOne cfg) s = some t) : Sound cfg none t := by
  induction bs generalizing s with
  | nil =>
    obtain rfl := Option.some.inj ht
    exact hs
  | cons x bs ih =>
    obtain ⟨b, e, l₁, l₂, hb, hhandle, rfl, hc, herase, hrest⟩ :=
      hs.listed.drop (x := x) (hsub.subset (by simp))
    simp only [List.foldlM_cons, returnOne, hb, Option.map_some] at ht
    set u : TrackFlow := { s with
      track := { s.track with bufferList := s.track.bufferList.erase e.1.ionFd.toUInt32 }
      client := s.client.eraseP (·.1 = e.1) } with hu
    have hclient : u.client = l₁ ++ l₂ := herase
    have hown : ∀ k, s.own k = u.own k + if some b.handle = some k then 1 else 0 := by
      intro k
      have hk : s.client.countP (·.2 = k) =
          u.client.countP (·.2 = k) + if some b.handle = some k then 1 else 0 := by
        rw [hclient, hc, List.countP_append, List.countP_append, List.countP_cons, hhandle]
        simp
        omega
      change _ + s.client.countP (·.2 = k) = _ + u.client.countP (·.2 = k) + _
      rw [hk, ← Nat.add_assoc]
      rfl
    have hdrop : Sound cfg (some b.handle) u := by
      refine ⟨hs.tidy, hs.books.congr fun k => ?_, fun k => ?_, hs.fresh, hs.consumers, hs.encoding,
        hs.unmarked, hclient ▸ hrest⟩
      · change u.own k + s.flow.out k + _ = _
        rw [hown]
        simp
        omega
      · have hle := hs.own_le k
        rw [hown] at hle
        omega
    have hgone : ∀ y ∈ u.client, y.2 ≠ b.handle := by
      have hle := hs.own_le b.handle
      rw [hown, if_pos rfl] at hle
      intro y hy heq
      have hpos : 0 < u.client.countP (·.2 = b.handle) :=
        List.countP_pos_iff.mpr ⟨y, hy, by simpa using heq⟩
      simp only [own] at hle
      omega
    have hsub' : bs.Subperm (u.client.map (·.1)) := by
      rw [hclient]
      exact Keyed.subperm_of_cons (f := Prod.fst) hc hsub
    refine ih (s := u.release cfg b.handle)
      (hdrop.release (hcut e.1 (by simp) b hb)) hsub' (fun x hx b' hb' => ?_) ht
    -- the handle that went has no other entry in the list
    obtain ⟨y, hy, rfl⟩ := List.mem_map.mp (hsub'.subset hx)
    obtain ⟨b'', hb'', hhandle'⟩ := hdrop.listed.mem y hy
    obtain rfl : b'' = b' := Option.some.inj (hb''.symm.trans hb')
    have hne : b.handle ≠ b''.handle := by
      rw [hhandle']
      exact (hgone y hy).symm
    rw [cutsShort_release hne]
    refine hcut y.1 (by simp [hx]) b'' ?_
    have hold : (s.track.bufferList.erase e.1.ionFd.toUInt32)[y.1.ionFd.toUInt32]? = some b'' := hb''
    rw [Std.ExtTreeMap.getElem?_erase] at hold
    split at hold
    · cases hold
    · exact hold

theorem sound_notifyBufferReturned (hs : Sound cfg none s)
    (hcut : s.track.cutsShort cfg h = false) (ht : s.notifyBufferReturned cfg h = some t) :
    Sound cfg none t := by
  obtain ⟨flow, hflow, rfl⟩ := Option.map_eq_some_iff.mp ht
  obtain ⟨htidy, howed⟩ := Flow.tidy_callSource hs.tidy hflow
  obtain ⟨-, rfl⟩ := Flow.callSource_cases hflow
  have hout : ∀ k, s.flow.out k = Flow.out { s.flow with
      releasing := s.flow.releasing.erase h, returned := s.flow.returned ++ [h] } k +
        if some h = some k then 1 else 0 := by
    intro k
    have hk := howed k
    rw [← Flow.out_add_returned, ← Flow.out_add_returned, List.count_append,
      List.count_singleton] at hk
    simp at hk ⊢
    omega
  refine Sound.release ⟨htidy, hs.books.congr fun k => ?_, hs.own_le, fun b hb => ?_, hs.consumers,
    hs.encoding, hs.unmarked, hs.listed⟩ hcut
  · rw [hout]
    simp
    exact Nat.add_assoc _ _ _
  · have hfresh := hs.fresh b hb
    rw [hout] at hfresh
    exact (Nat.add_eq_zero_iff.mp hfresh).1

/-- Encoder, client and linked consumers return only what they were given. -/
def InContract (s : TrackFlow) : Action → Prop
  | .returnBuffer d => d ∈ s.encoder
  | .returnTrackBuffer bs => bs ≠ [] ∧ bs.Subperm (s.client.map (·.1))
  | .linkedReturn c h => (c, h) ∈ s.flow.held
  | _ => True

/-- A frame arrives only while the track does not count its handle, goes to the client only under
a file descriptor that is not listed, and to the encoder only while the encoder does not have it;
a linked frame goes to fewer than 2^32 consumers; and no release takes the shortcut. -/
def KeepsApart (cfg : TrackConfig) (s : TrackFlow) : Action → Prop
  | .onFrameAvailable b => b.handle ∉ s.track.bufferMap
  | .link => s.flow.producer.bufferConsumers.size < 2 ^ 32
  | .pass => ∀ x ∈ s.arriving,
      (s.track.destination cfg = .producer → s.track.cutsShort cfg x.buffer.handle = false) ∧
      (s.track.destination cfg = .client → x.buffer.fd.toUInt32 ∉ s.track.bufferList)
  | .getBuffer => ∀ b ∈ s.track.framesReceived.head?, ∀ e ∈ s.track.framesBeingEncoded,
      e.handle ≠ b.handle
  | .returnBuffer d => ∀ b ∈ s.track.encodedFrame d, b.needsReturn = true →
      s.track.cutsShort cfg b.handle = false
  | .returnTrackBuffer bs => ∀ x ∈ bs, ∀ b ∈ s.track.bufferList[x.ionFd.toUInt32]?,
      s.track.cutsShort cfg b.handle = false
  | .notifyBufferReturned h => s.track.cutsShort cfg h = false
  | _ => True

theorem sound_step :
    ((lts cfg).guarded fun s a => s.InContract a ∧ s.KeepsApart cfg a).TrInv (Sound cfg none) := by
  rintro s a t ⟨hstep, hcon, hapart⟩ hs
  have hstep : s.step cfg a = some t := hstep
  cases a with
  | onFrameAvailable b => exact sound_onFrameAvailable hs hapart hstep
  | prepare encodes => exact sound_prepare hs hstep
  | link => exact sound_link hs hapart hstep
  | linkedFrame => exact sound_onFlow hs (x := .onFrameAvailable) (.inl rfl) hstep
  | endNotify => exact sound_onFlow hs (x := .endNotify) (.inr (.inl rfl)) hstep
  | pass =>
    exact sound_pass hs (fun b ha hdest => (hapart _ ha).1 hdest)
      (fun b ha hdest => (hapart _ ha).2 hdest) hstep
  | getBuffer => exact sound_getBuffer hs hapart hstep
  | returnBuffer d => exact sound_returnBuffer hs hcon hapart hstep
  | returnTrackBuffer bs =>
    obtain ⟨hne, hsub⟩ := hcon
    simp only [step, returnTrackBuffer, if_neg hne] at hstep
    exact sound_returnOnes hs hsub hapart hstep
  | linkedReturn c h =>
    exact sound_onFlow hs (x := .notifyBufferReturned c h) (.inr (.inr ⟨c, h, rfl, hcon⟩)) hstep
  | notifyBufferReturned h => exact sound_notifyBufferReturned hs hapart hstep
  | addConsumer c =>
    simp only [step, addConsumer] at hstep
    split at hstep
    · obtain rfl := Option.some.inj hstep
      exact hs
    · exact sound_consumers hs (fun p => Flow.buffers_addConsumer) hstep
  | removeConsumer c =>
    simp only [step, removeConsumer] at hstep
    split at hstep
    · obtain rfl := Option.some.inj hstep
      exact hs
    · exact sound_consumers hs (fun p => Flow.buffers_removeConsumer) hstep
  | setState isStop isPaused eosAcked =>
    obtain rfl := Option.some.inj hstep
    exact ⟨hs.tidy, hs.books, hs.own_le, hs.fresh, hs.consumers, hs.encoding, hs.unmarked, hs.listed⟩

/-- Everyone who still has a handle: the thread it arrives in, the queue, the encoder, the client,
the linked consumers, and their return while it is under way. -/
def holders (cfg : TrackConfig) (s : TrackFlow) (h : IBufferHandle) : Nat :=
  s.arrivingOf h + s.track.framesReceived.countP (·.handle = h) +
    s.encoder.countP (·.data = cfg.getAllocBufferHandle h) + s.client.countP (·.2 = h) +
    s.flow.unreturned h + s.flow.releasing.count h

/-- Each delivery goes back once, when all of its holders have released it, and a holder that
releases what it was given meets no assertion. -/
structure Returns (cfg : TrackConfig) (s : TrackFlow) : Prop where
  atMostOnce : ∀ h, s.givenBack.count h ≤ s.received.count h
  given : ∀ h, s.received.count h ≤ s.givenBack.count h + s.holders cfg h
  held : ∀ h, s.holders cfg h ≠ 0 → s.givenBack.count h < s.received.count h
  returnBuffer : ∀ d ∈ s.encoder, (s.step cfg (.returnBuffer d)).isSome = true
  returnTrackBuffer : ∀ bs ≠ [], bs.Subperm (s.client.map (·.1)) →
    (s.step cfg (.returnTrackBuffer bs)).isSome = true

/-- The frames marked for their return are with the encoder, and so are the unmarked ones that are
still queued. -/
theorem Encoding.count {encoder : List BufferDescriptor} {queue encoded : List StreamBuffer}
    {buffersMap : OrdMap UInt64 IBufferHandle} (he : Encoding cfg encoder queue encoded buffersMap) :
    encoder.countP (·.data = cfg.getAllocBufferHandle h) = encoded.countP (·.handle = h) := by
  have hl : encoder.countP (·.data = cfg.getAllocBufferHandle h) =
      (encoder.map (·.data)).countP (· = cfg.getAllocBufferHandle h) := by
    rw [List.countP_map]
    rfl
  rw [hl, he.perm.countP_eq, List.countP_map]
  congr 1
  funext b
  simp [cfg.getAllocBufferHandle_injective.eq_iff]

/-- Someone has a handle exactly when the track counts it. -/
theorem Sound.holders_eq_zero_iff (hs : Sound cfg none s) :
    s.holders cfg h = 0 ↔ s.own h + s.flow.out h = 0 := by
  have hout : s.flow.out h = 0 ↔ s.flow.unreturned h = 0 ∧ s.flow.releasing.count h = 0 := by
    by_cases hu : s.flow.unreturned h = 0 <;> simp [Flow.out, hu]
  have henc : s.track.framesBeingEncoded.countP (·.handle = h) = 0 ∨
      0 < s.track.framesReceived.countP (·.handle = h) ∨
      0 < s.track.framesBeingEncoded.countP (fun b => b.needsReturn ∧ b.handle = h) := by
    by_cases h0 : s.track.framesBeingEncoded.countP (·.handle = h) = 0
    · exact .inl h0
    · obtain ⟨b, hb, hbh⟩ := List.countP_pos_iff.mp (Nat.pos_of_ne_zero h0)
      have hbh : b.handle = h := by simpa using hbh
      cases hset : b.needsReturn with
      | true => exact .inr (.inr (List.countP_pos_iff.mpr ⟨b, hb, by simp [hset, hbh]⟩))
      | false =>
        obtain ⟨q, hq, hqb⟩ := hs.encoding.queued b hb hset
        exact .inr (.inl (List.countP_pos_iff.mpr ⟨q, hq, by simp [hqb, hbh]⟩))
  have hle : s.track.framesBeingEncoded.countP (fun b => b.needsReturn ∧ b.handle = h) ≤
      s.track.framesBeingEncoded.countP (·.handle = h) :=
    List.countP_mono_left fun b _ hb => by simp_all
  simp only [holders, own, hs.encoding.count]
  omega

theorem Sound.returns (hs : Sound cfg none s) :
    s.Returns cfg ∧ ∀ h, s.received.count h ≤ s.givenBack.count h + 1 := by
  have hcount : ∀ h, s.received.count h =
      s.givenBack.count h + if s.holders cfg h = 0 then 0 else 1 := by
    intro h
    have hb := (hs.books h).2
    simpa [hs.holders_eq_zero_iff] using hb
  refine ⟨⟨fun h => ?_, fun h => ?_, fun h hne => ?_, fun d hd => ?_, fun bs hne hsub => ?_⟩,
    fun h => ?_⟩
  · rw [hcount]
    omega
  · rw [hcount]
    split <;> omega
  · rw [hcount, if_neg hne]
    omega
  · obtain ⟨b, hb, -⟩ := hs.encodedFrame hd
    simp [step, TrackFlow.returnBuffer, hb]
  · simp only [step, TrackFlow.returnTrackBuffer, if_neg hne]
    exact isSome_returnOnes hs.listed hsub
  · rw [hcount]
    split <;> omega

/-- In every run that keeps deliveries apart each of them goes back once, after its last holder,
and no handle is owed to the producer twice. -/
theorem returns_of_keepsApart
    (h : ((lts cfg).guarded fun s a => s.InContract a ∧ s.KeepsApart cfg a).MTr {} as s) :
    s.Returns cfg ∧ ∀ h, s.received.count h ≤ s.givenBack.count h + 1 :=
  (LTS.inv_of_mTr sound_step h sound_initial).returns

instance : Decidable (s.InContract a) :=
  match a with
  | .returnBuffer _ => inferInstanceAs (Decidable (_ ∈ _))
  | .returnTrackBuffer _ => inferInstanceAs (Decidable (_ ∧ _))
  | .linkedReturn _ _ => inferInstanceAs (Decidable (_ ∈ _))
  | .onFrameAvailable _ | .prepare _ | .link | .linkedFrame | .endNotify | .pass | .getBuffer
  | .notifyBufferReturned _ | .addConsumer _ | .removeConsumer _ | .setState _ _ _ => .isTrue trivial

instance : Decidable (s.KeepsApart cfg a) :=
  match a with
  | .onFrameAvailable b => inferInstanceAs (Decidable (b.handle ∉ s.track.bufferMap))
  | .link => inferInstanceAs (Decidable (_ < _))
  | .pass => inferInstanceAs (Decidable (∀ x ∈ s.arriving,
      (s.track.destination cfg = .producer → s.track.cutsShort cfg x.buffer.handle = false) ∧
      (s.track.destination cfg = .client → x.buffer.fd.toUInt32 ∉ s.track.bufferList)))
  | .getBuffer => inferInstanceAs (Decidable (∀ b ∈ s.track.framesReceived.head?,
      ∀ e ∈ s.track.framesBeingEncoded, e.handle ≠ b.handle))
  | .returnBuffer d => inferInstanceAs (Decidable (∀ b ∈ s.track.encodedFrame d,
      b.needsReturn = true → s.track.cutsShort cfg b.handle = false))
  | .returnTrackBuffer bs => inferInstanceAs (Decidable (∀ x ∈ bs,
      ∀ b ∈ s.track.bufferList[x.ionFd.toUInt32]?, s.track.cutsShort cfg b.handle = false))
  | .notifyBufferReturned h => inferInstanceAs (Decidable (s.track.cutsShort cfg h = false))
  | .prepare _ | .linkedFrame | .endNotify | .linkedReturn _ _ | .addConsumer _ | .removeConsumer _
  | .setState _ _ _ => .isTrue trivial

def sampleConfig : TrackConfig where
  format := .avc

def sampleFrame : StreamBuffer where
  handle := 7
  fd := 3
  timestamp := 40000000

def sampleDescriptor (timestamp : UInt64) : BufferDescriptor where
  data := 7
  fd := 3
  size := 0
  capacity := 0
  timestamp
  flag := 0

/-- A linked consumer and the encoder get a frame, which is encoded twice. -/
def encodedTwiceRun : List Action :=
  [.addConsumer 1, .onFrameAvailable sampleFrame, .prepare 2, .link, .linkedFrame, .endNotify, .pass,
    .getBuffer, .returnBuffer (sampleDescriptor 40000000), .getBuffer, .linkedReturn 1 7,
    .notifyBufferReturned 7, .returnBuffer (sampleDescriptor 50000000)]

theorem returns_encoded_twice :
    (LTS.run (step sampleConfig) {} encodedTwiceRun).map (fun s => (s.received, s.givenBack)) =
        some ([7], [7]) ∧
      ∃ s, ((lts sampleConfig).guarded fun s a => s.InContract a ∧ s.KeepsApart sampleConfig a).MTr
          {} encodedTwiceRun s ∧
        s.Returns sampleConfig ∧ ∀ h, s.received.count h ≤ s.givenBack.count h + 1 := by
  have hrun : (LTS.run (step sampleConfig) {} encodedTwiceRun).map
      (fun s => (s.received, s.givenBack)) = some ([7], [7]) := by decide
  obtain ⟨s, hs, -⟩ := Option.map_eq_some_iff.mp hrun
  have hguard := LTS.mTr_guarded_iff.mpr ⟨hs, (by decide : LTS.Meets (step sampleConfig)
    (fun s a => s.InContract a ∧ s.KeepsApart sampleConfig a) {} encodedTwiceRun)⟩
  exact ⟨hrun, s, hguard, returns_of_keepsApart hguard⟩

/-- A frame arrives again before its first delivery was returned. -/
def repeatedFrameRun : List Action :=
  [.onFrameAvailable sampleFrame, .prepare 1, .link, .pass, .onFrameAvailable sampleFrame, .prepare 1,
    .link, .pass, .getBuffer, .getBuffer, .returnBuffer (sampleDescriptor 40000000)]

/-- The second delivery is not counted, and the encoder cannot return it. -/
theorem repeated_frame_not_returned :
    ¬ ∀ (cfg : TrackConfig) (as : List Action) (s : TrackFlow),
      ((lts cfg).guarded InContract).MTr {} as s → s.Returns cfg := by
  intro hall
  have hrun : (LTS.run (step sampleConfig) {} repeatedFrameRun).map (fun s =>
      (s.encoder, (s.step sampleConfig (.returnBuffer (sampleDescriptor 40000000))).isSome)) =
        some ([sampleDescriptor 40000000], false) := by decide
  obtain ⟨s, hs, hend⟩ := Option.map_eq_some_iff.mp hrun
  obtain ⟨henc, hnone⟩ := Prod.mk.inj hend
  have hguard := LTS.mTr_guarded_iff.mpr ⟨hs, (by decide : LTS.Meets (step sampleConfig) InContract
    {} repeatedFrameRun)⟩
  have hsome := (hall sampleConfig _ s hguard).returnBuffer (sampleDescriptor 40000000)
    (by simp [henc])
  rw [hnone] at hsome
  cases hsome

end TrackFlow

end QmmfSdk.Pipeline
