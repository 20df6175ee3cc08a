import QmmfSdk.Client.Link
import QmmfSdk.Library.Handoff

/-! The two records of shared buffers: when the client knows every buffer that comes without a
descriptor. -/
namespace QmmfSdk.Client

open Library Recorder

namespace Link

variable {s t : Link} {a : Action} {as : List Action} {session track id : UInt32}

/-- The buffers of one notification, by track and buffer id. -/
def itemsOf (track : UInt32) (bs : List BnBuffer) : List ((UInt32 × UInt32) × Option Descriptor) :=
  bs.map fun b => ((track, b.bufferId), b.ionFd)

/-- All buffers of some notifications, oldest first. -/
def items (ms : List Notification) : List ((UInt32 × UInt32) × Option Descriptor) :=
  ms.flatMap fun m => itemsOf m.trackId m.buffers

/-- The client's map has the buffer. -/
def Cached (m : BufferMap) (k : UInt32 × UInt32) : Prop := (cachedInfo m k.1 k.2).isSome = true

/-- The client has dropped its buffers of a track and the service has not answered yet. -/
def dropping (s : Link) (track : UInt32) : Bool :=
  match s.client.deleting with
  | some (.asked _ t) => t == track
  | _ => false

/-- A track is deleted only while no buffer of it is in flight or to be looked up without its
descriptor; until the service answers, no buffer of it that the proxy has marked is sent; and the
service refuses only when the proxy has marked none. -/
def keepsCaches (s : Link) : Action → Bool
  | .deleteVideoTrack session track =>
    !hasTrack s.client.sessions session track ||
      (items s.pending).all fun x => x.1.1 != track || x.2.isSome
  | .notifyVideoTrackData _ track buffers =>
    !s.dropping track || buffers.all fun id => !s.service.marked track id
  | .serviceDeletes ok =>
    match s.client.deleting with
    | some (.asked session track) =>
      (ok && hasTrack s.service.sessions session track) ||
        ((s.service.trackBuffersMap[track]?).all fun ids => ids.isEmpty)
    | _ => true
  | _ => true

/-- What is pending can be received, and what the proxy has marked is or will be known, but for
a track that is being deleted. -/
structure Synced (s : Link) : Prop where
  serves : Serves (Cached s.client.trackBuffersMap) (items s.pending)
  marked : ∀ track id, s.service.marked track id = true → s.dropping track = true ∨
    Cached s.client.trackBuffersMap (track, id) ∨ (track, id) ∈ (items s.pending).map Prod.fst
  missed : s.missed = []

section Emplace

variable {m : BufferMap} {b : BnBuffer} {track' : UInt32}

theorem cachedInfo_emplaceInfo : cachedInfo (emplaceInfo m track b) track' id =
    if track = track' ∧ b.bufferId = id then
      some ((cachedInfo m track b.bufferId).getD (Client.mapBuffer b.ionFd))
    else cachedInfo m track' id := by
  unfold emplaceInfo cachedInfo
  rw [OrdMap.getElem?_update]
  by_cases ht : track = track'
  · subst ht
    rw [if_pos rfl, Option.getD_some, OrdMap.getElem?_emplace]
    by_cases hid : b.bufferId = id
    · subst hid
      cases (m[track]?.getD ∅)[b.bufferId]? <;> simp
    · simp [hid]
  · simp [ht]

theorem cached_emplaceInfo {k : UInt32 × UInt32} :
    Cached (emplaceInfo m track b) k ↔ Cached m k ∨ k = (track, b.bufferId) := by
  unfold Cached
  rw [cachedInfo_emplaceInfo]
  split
  next h => simp [h.1, h.2]
  next h =>
    have hne : k ≠ (track, b.bufferId) := by
      rintro rfl
      exact h ⟨rfl, rfl⟩
    simp [hne]

end Emplace

section Pack

variable {p : Peer} {connection : Nat} {ids : List UInt32} {known : UInt32 × UInt32 → Prop}
  {track' i : UInt32}

theorem marked_mark : (p.mark track id).marked track' i = true ↔
    p.marked track' i = true ∨ (track' = track ∧ i = id) := by
  unfold Peer.marked Peer.mark
  dsimp only
  rw [OrdMap.getElem?_update]
  by_cases ht : track = track'
  · subst ht
    simp only [if_true, Option.getD_some, Std.ExtTreeSet.contains_insert, Bool.or_eq_true,
      beq_iff_eq, Std.LawfulEqOrd.compare_eq_iff_eq, true_and]
    rw [or_comm, eq_comm (a := id)]
  · simp [ht, Ne.symm ht]

theorem marked_packBuffers : (p.packBuffers connection session track ids).2.marked track' i = true ↔
    p.marked track' i = true ∨ (track' = track ∧ i ∈ ids) := by
  induction ids generalizing p with
  | nil => simp [Peer.packBuffers]
  | cons id ids ih =>
    unfold Peer.packBuffers
    split
    next hid =>
      dsimp only
      rw [ih, List.mem_cons]
      constructor
      · rintro (h | ⟨rfl, h⟩)
        · exact .inl h
        · exact .inr ⟨rfl, .inr h⟩
      · rintro (h | ⟨rfl, rfl | h⟩)
        · exact .inl h
        · exact .inl hid
        · exact .inr ⟨rfl, h⟩
    · dsimp only
      rw [ih, marked_mark, List.mem_cons, or_assoc, ← and_or_left]

theorem keys_packBuffers :
    (itemsOf track (p.packBuffers connection session track ids).1).map Prod.fst =
      ids.map fun id => (track, id) := by
  induction ids generalizing p with
  | nil => rfl
  | cons id ids ih =>
    unfold Peer.packBuffers
    split <;> exact congrArg (List.cons _) ih

/-- Packed buffers can be received by whoever knows the marked ones among them. -/
theorem serves_packBuffers (h : ∀ id ∈ ids, p.marked track id = true → known (track, id)) :
    Serves known (itemsOf track (p.packBuffers connection session track ids).1) := by
  induction ids generalizing p known with
  | nil => trivial
  | cons id ids ih =>
    unfold Peer.packBuffers
    split
    next hid =>
      refine ⟨fun _ => h id (by simp) hid, ih fun j hj hmark => .inl (h j (by simp [hj]) hmark)⟩
    next hid =>
      refine ⟨fun hnone => by simp at hnone, ih fun j hj hmark => ?_⟩
      rcases marked_mark.mp hmark with hmark | ⟨-, rfl⟩
      · exact .inl (h j (by simp [hj]) hmark)
      · exact .inr rfl

end Pack

/-- Nothing that concerns the caches differs. -/
structure SameCaches (s t : Link) : Prop where
  connected : t.client.connected = s.client.connected
  connection : t.client.connection = s.client.connection
  buffers : t.client.trackBuffersMap = s.client.trackBuffersMap
  inFlight : t.inFlight = s.inFlight
  receiving : t.receiving = s.receiving
  exposed : t.exposed = s.exposed
  missed : t.missed = s.missed
  marks : t.service.trackBuffersMap = s.service.trackBuffersMap
  dropping : ∀ track, t.dropping track = s.dropping track

theorem SameCaches.pending (h : SameCaches s t) : t.pending = s.pending := by
  simp only [Link.pending, h.inFlight, h.receiving]

theorem SameCaches.refl : SameCaches s s := ⟨rfl, rfl, rfl, rfl, rfl, rfl, rfl, rfl, fun _ => rfl⟩

/-- The calls that leave the caches alone. -/
def Action.isQuiet : Action → Bool
  | .createSession _ _ | .deleteSession _ _ | .startSession _ _ | .stopSession _ _
  | .createVideoTrack _ _ _ | .deletionReturns => true
  | _ => false

theorem eq_of_locked {o : Option Link} (h : s.locked o = some t) :
    s.client.deleting = none ∧ o = some t := by
  unfold locked at h
  split at h
  · simp at h
  next hnone => exact ⟨by simpa using hnone, h⟩

theorem sameCaches_step (ha : a.isQuiet = true) (h : s.step a = some t) : SameCaches s t := by
  cases a with
  | createSession session ok =>
    obtain ⟨-, h⟩ := eq_of_locked h
    unfold createSession at h
    repeat' split at h
    · exact Option.some.inj h ▸ .refl
    · simp at h
    · exact Option.some.inj h ▸ ⟨rfl, rfl, rfl, rfl, rfl, rfl, rfl, rfl, fun _ => rfl⟩
  | deleteSession session ok =>
    obtain ⟨-, h⟩ := eq_of_locked h
    obtain rfl := Option.some.inj h
    unfold deleteSession
    repeat' split
    all_goals exact ⟨rfl, rfl, rfl, rfl, rfl, rfl, rfl, rfl, fun _ => rfl⟩
  | startSession session ok =>
    obtain ⟨-, h⟩ := eq_of_locked h
    obtain rfl := Option.some.inj h
    unfold setStarted
    split <;> exact ⟨rfl, rfl, rfl, rfl, rfl, rfl, rfl, rfl, fun _ => rfl⟩
  | stopSession session ok =>
    obtain ⟨-, h⟩ := eq_of_locked h
    obtain rfl := Option.some.inj h
    unfold setStarted
    split <;> exact ⟨rfl, rfl, rfl, rfl, rfl, rfl, rfl, rfl, fun _ => rfl⟩
  | createVideoTrack session track ok =>
    obtain ⟨-, h⟩ := eq_of_locked h
    unfold createVideoTrack at h
    repeat' split at h
    · simp at h
    · exact Option.some.inj h ▸ ⟨rfl, rfl, rfl, rfl, rfl, rfl, rfl, rfl, fun _ => rfl⟩
    · exact Option.some.inj h ▸ .refl
  | deletionReturns =>
    simp only [step, deletionReturns] at h
    split at h
    next session track done hdel =>
      obtain rfl := Option.some.inj h
      have hno : ∀ track, false = s.dropping track := fun track => by simp [dropping, hdel]
      cases done <;> exact ⟨rfl, rfl, rfl, rfl, rfl, rfl, rfl, rfl, hno⟩
    · simp at h
  | connect | disconnect | deleteVideoTrack | serviceDeletes | notifyVideoTrackData | receive
  | lookUp | mapBuffer | findCallback | dataCb =>
    exact absurd ha Bool.false_ne_true

theorem Synced.congr (h : Synced s) (hst : SameCaches s t) : Synced t := by
  refine ⟨?_, fun track id hmark => ?_, hst.missed.trans h.missed⟩
  · rw [hst.buffers, hst.pending]
    exact h.serves
  · rw [hst.buffers, hst.pending, hst.dropping]
    exact h.marked track id (by rwa [Peer.marked, hst.marks] at hmark)

/-- The client forgets all buffers of the track, unless it stops at a mapping that had failed. -/
theorem dropTrackBuffers_cases (c : RecorderClient) (track : UInt32) :
    (∃ m, c.dropTrackBuffers track = (true, { c with trackBuffersMap := m }) ∧
      ∀ track' id, cachedInfo m track' id =
        if track = track' then none else cachedInfo c.trackBuffersMap track' id) ∨
    (∃ m, c.dropTrackBuffers track = (false, { c with trackBuffersMap := m }) ∧
      (∀ k, Cached m k ↔ Cached c.trackBuffersMap k) ∧
      ∃ id, cachedInfo c.trackBuffersMap track id = some .failed) := by
  unfold RecorderClient.dropTrackBuffers
  cases hm : c.trackBuffersMap[track]? with
  | none =>
    refine .inl ⟨c.trackBuffersMap, rfl, fun track' id => ?_⟩
    split
    next heq => simp [cachedInfo, ← heq, hm]
    · rfl
  | some infos =>
    cases hu : infos.toList.find? fun x => x.2 == .failed with
    | none =>
      refine .inl ⟨c.trackBuffersMap.erase track, by simp [unmapBuffers, hu], fun track' id => ?_⟩
      simp only [cachedInfo, Std.ExtTreeMap.getElem?_erase, Std.LawfulEqOrd.compare_eq_iff_eq]
      split
      · simp
      · rfl
    | some x =>
      have hfailed : infos[x.1]? = some .failed := by
        have hmem := List.mem_of_find?_eq_some hu
        have hval := List.find?_some hu
        rw [Std.ExtTreeMap.mem_toList_iff_getElem?_eq_some] at hmem
        simpa [beq_iff_eq.mp hval] using hmem
      refine .inr ⟨c.trackBuffersMap.insert track
        (infos.map fun i info => if i < x.1 then .unmapped else info),
        by simp only [unmapBuffers, hu], fun k => ?_, x.1, by simp [cachedInfo, hm, hfailed]⟩
      unfold Cached cachedInfo
      rw [Std.ExtTreeMap.getElem?_insert]
      split
      next heq =>
        rw [Std.LawfulEqOrd.compare_eq_iff_eq] at heq
        simp [← heq, hm]
      · rfl

/-- A deletion takes copies from the call in progress, but no buffer that it has to prepare. -/
theorem pending_lose {c : RecorderClient} {m m' : BufferMap} :
    pending { s with client := c, receiving := s.receiving.map fun r => r.lose m m' } =
      s.pending := by
  unfold pending
  rw [Option.map_map]
  rfl

theorem deleteVideoTrack_cases (s : Link) (session track : UInt32) :
    s.deleteVideoTrack session track = s ∨
    s.client.connected = true ∧ hasTrack s.client.sessions session track = true ∧
      ∃ m c, s.deleteVideoTrack session track = { s with
          client := { s.client with trackBuffersMap := m, deleting := c }
          receiving := s.receiving.map fun r => r.lose s.client.trackBuffersMap m } ∧
        ((c = some (.asked session track) ∧ ∀ track' id, cachedInfo m track' id =
            if track = track' then none else cachedInfo s.client.trackBuffersMap track' id) ∨
          (c = s.client.deleting ∧ (∀ k, Cached m k ↔ Cached s.client.trackBuffersMap k) ∧
            ∃ id, cachedInfo s.client.trackBuffersMap track id = some .failed)) := by
  unfold deleteVideoTrack
  split
  next hchecks =>
    simp only [Bool.and_eq_true] at hchecks
    refine .inr ⟨hchecks.1, hchecks.2, ?_⟩
    rcases dropTrackBuffers_cases s.client track with ⟨m, hdrop, hm⟩ | ⟨m, hdrop, hm, hfailed⟩
    · exact ⟨m, some (.asked session track), by simp [hdrop], .inl ⟨rfl, hm⟩⟩
    · exact ⟨m, s.client.deleting, by simp [hdrop], .inr ⟨rfl, hm, hfailed⟩⟩
  · exact .inl rfl

theorem synced_deleteVideoTrack (h : Synced s)
    (hguard : s.keepsCaches (.deleteVideoTrack session track) = true)
    (hidle : s.client.deleting = none) : Synced (s.deleteVideoTrack session track) := by
  have hmarked : ∀ j id, s.service.marked j id = true →
      Cached s.client.trackBuffersMap (j, id) ∨ (j, id) ∈ (items s.pending).map Prod.fst :=
    fun j id hmark => (h.marked j id hmark).resolve_left (by simp [dropping, hidle])
  rcases deleteVideoTrack_cases s session track with
    hsame | ⟨-, htrack, m, c, heq, ⟨rfl, hm⟩ | ⟨rfl, hm, -⟩⟩
  · rwa [hsame]
  · have hall : ∀ x ∈ items s.pending, x.2 = none → x.1.1 ≠ track := by
      intro x hx hnone
      simp only [keepsCaches, htrack, Bool.not_true, Bool.false_or, List.all_eq_true] at hguard
      simpa [hnone] using hguard x hx
    have hcached : ∀ k, Cached m k ↔ Cached s.client.trackBuffersMap k ∧ k.1 ≠ track := by
      intro k
      unfold Cached
      rw [hm]
      split
      next heq => simp [heq]
      next hne => simp [Ne.symm hne]
    rw [heq]
    refine ⟨?_, fun j id hmark => ?_, h.missed⟩
    · rw [pending_lose]
      exact (h.serves.restrict hall).mono fun k hk => (hcached k).mpr hk
    · by_cases hj : j = track
      · exact .inl (by simp [dropping, hj])
      · rw [pending_lose]
        exact .inr ((hmarked j id hmark).imp_left fun hk => (hcached _).mpr ⟨hk, hj⟩)
  · rw [heq]
    refine ⟨?_, fun j id hmark => .inr ?_, h.missed⟩
    · rw [pending_lose]
      exact h.serves.mono fun k hk => (hm k).mpr hk
    · rw [pending_lose]
      exact (hmarked j id hmark).imp_left (hm _).mpr

theorem synced_serviceDeletes {ok : Bool} (h : Synced s)
    (hguard : s.keepsCaches (.serviceDeletes ok) = true) (hstep : s.serviceDeletes ok = some t) :
    Synced t := by
  unfold serviceDeletes at hstep
  split at hstep
  next session track hdel =>
    obtain rfl := Option.some.inj hstep
    have hdrop : ∀ j, s.dropping j = true → j = track := by
      intro j hj
      simp only [dropping, hdel, beq_iff_eq] at hj
      exact hj.symm
    -- the proxy has marked nothing of the deleted track after the answer
    have hmarked : ∀ j id, (s.service.deleteVideoTrack session track ok).2.marked j id = true →
        j ≠ track ∧ s.service.marked j id = true := by
      intro j id hmark
      unfold Peer.deleteVideoTrack at hmark
      split at hmark
      · simp only [Peer.marked, Peer.notifyDeleteVideoTrack, Std.ExtTreeMap.getElem?_erase,
          Std.LawfulEqOrd.compare_eq_iff_eq] at hmark
        split at hmark
        · simp at hmark
        next hne => exact ⟨Ne.symm hne, hmark⟩
      next hrefused =>
        refine ⟨?_, hmark⟩
        rintro rfl
        simp only [keepsCaches, hdel, hrefused, Bool.false_or] at hguard
        unfold Peer.marked at hmark
        cases hm : s.service.trackBuffersMap[j]? with
        | none => simp [hm] at hmark
        | some ids =>
          have hempty : ids = ∅ := by simpa [hm] using hguard
          simp [hm, hempty] at hmark
    refine ⟨h.serves, fun j id hmark => .inr ?_, h.missed⟩
    obtain ⟨hne, hmark⟩ := hmarked j id hmark
    exact (h.marked j id hmark).resolve_left fun hj => hne (hdrop j hj)
  · simp at hstep

theorem synced_notifyVideoTrackData {ids : List UInt32} (h : Synced s)
    (hguard : s.keepsCaches (.notifyVideoTrackData session track ids) = true)
    (hstep : s.notifyVideoTrackData session track ids = some t) : Synced t := by
  unfold notifyVideoTrackData at hstep
  split at hstep
  · obtain rfl := Option.some.inj hstep
    have hitems : ∀ p bs, items (pending { s with
        service := p, inFlight := s.inFlight ++ [⟨s.client.connection, session, track, bs⟩] }) =
        items s.pending ++ itemsOf track bs := fun p bs => by simp [items, pending]
    refine ⟨?_, fun j id hmark => ?_, h.missed⟩
    · rw [hitems, serves_append]
      refine ⟨h.serves, serves_packBuffers fun id hid hmark => ?_⟩
      rcases h.marked track id hmark with hdrop | hknown
      · have := hguard
        simp only [keepsCaches, hdrop, Bool.not_true, Bool.false_or, List.all_eq_true] at this
        simpa [hmark] using this id hid
      · exact hknown
    · rw [hitems, List.map_append, keys_packBuffers]
      rcases marked_packBuffers.mp hmark with hmark | ⟨rfl, hid⟩
      · rcases h.marked j id hmark with hdrop | hcached | hflight
        · exact .inl hdrop
        · exact .inr (.inl hcached)
        · exact .inr (.inr (by simp [hflight]))
      · exact .inr (.inr (by simp [hid]))
  · simp at hstep

/-- A step of the call in progress that leaves less to prepare: what it no longer has is known. -/
theorem Synced.advance (h : Synced s) (ks : List (UInt32 × UInt32))
    (hserves : Serves (Cached t.client.trackBuffersMap) (items t.pending))
    (hcached : ∀ k, Cached s.client.trackBuffersMap k ∨ k ∈ ks → Cached t.client.trackBuffersMap k)
    (hpending : (items s.pending).map Prod.fst = ks ++ (items t.pending).map Prod.fst)
    (hmarks : t.service = s.service) (hdeleting : t.client.deleting = s.client.deleting)
    (hmissed : t.missed = s.missed) : Synced t := by
  refine ⟨hserves, fun j id hmark => ?_, hmissed.trans h.missed⟩
  have hdrop : t.dropping j = s.dropping j := by simp only [dropping, hdeleting]
  rw [hdrop]
  refine (h.marked j id (hmarks ▸ hmark)).imp_right fun hknown => ?_
  rw [hpending, List.mem_append] at hknown
  rcases hknown with hknown | hmem | hmem
  · exact .inl (hcached _ (.inl hknown))
  · exact .inl (hcached _ (.inr hmem))
  · exact .inr hmem

theorem synced_receive (h : Synced s) (hstep : s.receive = some t) : Synced t := by
  unfold receive at hstep
  split at hstep
  next n rest hnone hq =>
    obtain rfl := Option.some.inj hstep
    have hpend : pending { s with receiving := some ⟨n, none, [], false⟩, inFlight := rest } =
        s.pending := by simp [pending, hnone, hq, Receiving.rest]
    exact h.advance [] (hpend ▸ h.serves) (fun k hk => by simpa using hk)
      (by rw [hpend]; rfl) rfl rfl rfl
  · simp at hstep

theorem synced_lookUp (h : Synced s) (hstep : s.lookUp = some t) : Synced t := by
  unfold lookUp at hstep
  split at hstep
  next connection session track b bs bufs found hrec =>
    have hserves := h.serves
    have hpend : s.pending = ⟨connection, session, track, b :: bs⟩ :: s.inFlight := by
      simp [pending, hrec, Receiving.rest]
    rw [hpend] at hserves
    dsimp only at hstep
    split at hstep
    next info hinfo =>
      obtain rfl := Option.some.inj hstep
      have hb : Cached s.client.trackBuffersMap (track, b.bufferId) := by simp [Cached, hinfo]
      refine h.advance [(track, b.bufferId)] (hserves.2.mono fun k hk => ?_)
        (fun k hk => ?_) (by rw [hpend]; simp [pending, items, itemsOf, Receiving.rest]) rfl rfl rfl
      · exact hk.elim id fun heq => heq ▸ hb
      · exact hk.elim id fun hmem => List.mem_singleton.mp hmem ▸ hb
    next hnone =>
      obtain rfl := Option.some.inj hstep
      -- a buffer that is not known has come with its descriptor
      have hfd : b.ionFd.isNone = false := by
        cases hb : b.ionFd with
        | none => simpa [Cached, hnone] using hserves.1 hb
        | some d => rfl
      exact h.advance [] hserves (fun k hk => by simpa using hk) (by rw [hpend]; rfl)
        rfl rfl (by simp [hfd])
  · simp at hstep

theorem synced_mapBuffer (h : Synced s) (hstep : s.mapBuffer = some t) : Synced t := by
  unfold mapBuffer at hstep
  split at hstep
  next n b bufs found hrec =>
    have hserves := h.serves
    have hpend : s.pending = { n with buffers := b :: n.buffers } :: s.inFlight := by
      simp [pending, hrec, Receiving.rest]
    rw [hpend] at hserves
    split at hstep
    · obtain rfl := Option.some.inj hstep
      refine h.advance [(n.trackId, b.bufferId)]
        (hserves.2.mono fun k hk => cached_emplaceInfo.mpr hk) (fun k hk => ?_)
        (by rw [hpend]; simp [pending, items, itemsOf, Receiving.rest]) rfl rfl rfl
      exact cached_emplaceInfo.mpr (hk.imp_right List.mem_singleton.mp)
    · simp at hstep
  · simp at hstep

/-- The end of a call that has prepared all its buffers. -/
theorem Synced.callback {r : Option Receiving} {e : List BufferDescriptor}
    {connection : Nat} {bufs : List (UInt32 × BufferInfo)} {found : Bool} (h : Synced s)
    (hrec : s.receiving = some ⟨⟨connection, session, track, []⟩, none, bufs, found⟩)
    (hr : ∀ n ∈ r.map Receiving.rest, n.buffers = []) :
    Synced { s with receiving := r, exposed := e } := by
  have hitems : items (pending { s with receiving := r, exposed := e }) = items s.pending := by
    cases r with
    | none => simp [pending, items, itemsOf, hrec, Receiving.rest]
    | some r =>
      have hnil : r.mapping = none ∧ r.notification.buffers = [] := by
        simpa [Receiving.rest] using hr r.rest (by simp)
      simp [pending, items, itemsOf, hrec, Receiving.rest, hnil]
  exact h.advance [] (hitems ▸ h.serves) (fun k hk => by simpa using hk)
    (by rw [hitems]; rfl) rfl rfl rfl

theorem synced_findCallback (h : Synced s) (hstep : s.findCallback = some t) : Synced t := by
  unfold findCallback at hstep
  split at hstep
  next connection session track bufs hrec =>
    split at hstep
    · exact Option.some.inj hstep ▸ h.callback hrec (by simp [Receiving.rest])
    · exact Option.some.inj hstep ▸ h.callback hrec (by simp)
  · simp at hstep

theorem synced_dataCb (h : Synced s) (hstep : s.dataCb = some t) : Synced t := by
  unfold dataCb at hstep
  split at hstep
  next connection session track bufs hrec =>
    exact Option.some.inj hstep ▸ h.callback hrec (by simp)
  · simp at hstep

theorem synced_step (h : Synced s) (hguard : s.keepsCaches a = true) (hstep : s.step a = some t) :
    Synced t := by
  have hfresh : ∀ track id, ({} : Peer).marked track id = false := by
    intro track id
    simp [Peer.marked]
  cases a with
  | createSession | deleteSession | startSession | stopSession | createVideoTrack
  | deletionReturns => exact h.congr (sameCaches_step rfl hstep)
  | connect =>
    obtain ⟨-, hstep⟩ := eq_of_locked hstep
    obtain rfl := Option.some.inj hstep
    unfold connect
    split
    · exact h
    · exact ⟨h.serves, fun track id hmark => by simp [hfresh] at hmark, h.missed⟩
  | disconnect =>
    obtain ⟨-, hstep⟩ := eq_of_locked hstep
    obtain rfl := Option.some.inj hstep
    unfold disconnect
    split
    · exact ⟨h.serves, fun track id hmark => by simp [hfresh] at hmark, h.missed⟩
    · exact h
  | deleteVideoTrack session track =>
    obtain ⟨hidle, hstep⟩ := eq_of_locked hstep
    obtain rfl := Option.some.inj hstep
    exact synced_deleteVideoTrack h hguard hidle
  | serviceDeletes ok => exact synced_serviceDeletes h hguard hstep
  | notifyVideoTrackData session track ids => exact synced_notifyVideoTrackData h hguard hstep
  | receive => exact synced_receive h hstep
  | lookUp => exact synced_lookUp h hstep
  | mapBuffer => exact synced_mapBuffer h hstep
  | findCallback => exact synced_findCallback h hstep
  | dataCb => exact synced_dataCb h hstep

theorem synced_initial : Synced {} where
  serves := trivial
  marked track id hmark := by simp [Peer.marked] at hmark
  missed := rfl

/-- In every run that meets the condition, whatever the sessions and connections, the client
knows every buffer that it receives without a descriptor. -/
theorem neverMisses_of_keepsCaches (as : List Action) (t : Link)
    (h : (lts.guarded fun s a => s.keepsCaches a = true).MTr {} as t) : t.missed = [] := by
  have hinv : (lts.guarded fun s a => s.keepsCaches a = true).TrInv Synced :=
    fun s a t hstep hs => synced_step hs hstep.2 hstep.1
  exact (LTS.inv_of_mTr hinv h synced_initial).missed

/-- One track, created and started in session 1. -/
def startTrack : List Action :=
  [.connect, .createSession 1 true, .createVideoTrack 1 1 true, .startSession 1 true]

/-- A notification of one buffer that comes with its descriptor. -/
def receiveNew : List Action := [.receive, .lookUp, .mapBuffer, .findCallback, .dataCb]

/-- A notification of one buffer that the client has. -/
def receiveKnown : List Action := [.receive, .lookUp, .findCallback, .dataCb]

/-- The track is deleted between two frames, and created again. -/
def recreatedTrackRun : List Action :=
  startTrack ++ [.notifyVideoTrackData 1 1 [0, 1], .notifyVideoTrackData 1 1 [0], .receive,
    .lookUp, .mapBuffer, .lookUp, .mapBuffer, .findCallback, .dataCb] ++ receiveKnown ++
    [.deleteVideoTrack 1 1, .serviceDeletes true, .deletionReturns, .createVideoTrack 1 1 true,
      .notifyVideoTrackData 1 1 [0]] ++ receiveNew

theorem neverMisses_recreated_track :
    (LTS.run step {} recreatedTrackRun).map (fun t => t.exposed.map BufferDescriptor.bufId) =
        some [0, 1, 0, 0] ∧
      ∃ t, (lts.guarded fun s a => s.keepsCaches a = true).MTr {} recreatedTrackRun t ∧
        t.missed = [] := by
  have hexposed : (LTS.run step {} recreatedTrackRun).map
      (fun t => t.exposed.map BufferDescriptor.bufId) = some [0, 1, 0, 0] := by decide
  obtain ⟨t, hrun, -⟩ := Option.map_eq_some_iff.mp hexposed
  have hguard : (lts.guarded fun s a => s.keepsCaches a = true).MTr {} recreatedTrackRun t :=
    LTS.mTr_guarded_iff.mpr ⟨hrun, by decide⟩
  exact ⟨hexposed, t, hguard, neverMisses_of_keepsCaches recreatedTrackRun t hguard⟩

/-- The action belongs to a run with one connection and one session. -/
def Action.inSession (session : UInt32) : Action → Bool
  | .connect | .serviceDeletes _ | .deletionReturns | .receive | .lookUp | .mapBuffer
  | .findCallback | .dataCb => true
  | .disconnect => false
  | .createSession i _ | .deleteSession i _ | .startSession i _ | .stopSession i _
  | .createVideoTrack i _ _ | .deleteVideoTrack i _ | .notifyVideoTrackData i _ _ => i == session

/-- A frame without its descriptor is in flight when the client drops its buffers. -/
def lateFrameRun : List Action :=
  startTrack ++ [.notifyVideoTrackData 1 1 [0]] ++ receiveNew ++
    [.notifyVideoTrackData 1 1 [0], .deleteVideoTrack 1 1] ++ receiveNew

/-- The client drops its buffers of a track before the service stops sending: the late frame maps
descriptor -1. -/
theorem late_frame_maps_no_descriptor :
    ¬ ∀ (session : UInt32) (as : List Action) (t : Link),
      (∀ a ∈ as, a.inSession session = true) → lts.MTr {} as t → t.missed = [] := by
  intro hall
  have hmissed : (LTS.run step {} lateFrameRun).map Link.missed = some [(1, 0)] := by decide
  obtain ⟨t, hrun, ht⟩ := Option.map_eq_some_iff.mp hmissed
  have hnone := hall 1 lateFrameRun t (by decide) (LTS.mTr_ofStep_iff.mpr hrun)
  simp [ht] at hnone

end Link

end QmmfSdk.Client
