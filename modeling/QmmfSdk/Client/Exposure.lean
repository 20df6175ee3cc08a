import QmmfSdk.Client.BufferCache

/-! The memory that data callbacks see: when it is what the service attached for their own session
and track in the current connection. -/
namespace QmmfSdk.Client

open Library Recorder

/-- The client's mapping of a buffer, if there is one, is the one for a session. -/
def RightAt (connection : Nat) (session track id : UInt32) (m : BufferMap) : Prop :=
  ∀ info, cachedInfo m track id = some info → info = .mapped ⟨connection, session, track, id⟩

/-- A call in progress has the memory of its own session, track and connection, and maps only what
came with a descriptor. -/
structure Receiving.Holds (connection : Nat) (r : Receiving) : Prop where
  trackBuffers : ∀ x ∈ r.trackBuffers,
    x.2 = .mapped ⟨connection, r.notification.sessionId, r.notification.trackId, x.1⟩
  mapping : ∀ b, r.mapping = some b → b.ionFd ≠ none

theorem Receiving.Holds.append {connection : Nat} {r r' : Receiving} {x : UInt32 × BufferInfo}
    (h : r.Holds connection) (hsession : r'.notification.sessionId = r.notification.sessionId)
    (htrack : r'.notification.trackId = r.notification.trackId)
    (hbufs : r'.trackBuffers = r.trackBuffers ++ [x]) (hmapping : r'.mapping = none)
    (hx : x.2 = .mapped ⟨connection, r.notification.sessionId, r.notification.trackId, x.1⟩) :
    r'.Holds connection := by
  refine ⟨fun y hy => ?_, by simp [hmapping]⟩
  rw [hbufs, List.mem_append, List.mem_singleton] at hy
  rw [hsession, htrack]
  rcases hy with hy | rfl
  · exact h.trackBuffers y hy
  · exact hx

/-- A deletion takes no copy from a call that has no buffer of the track. -/
theorem Receiving.Holds.lose {connection : Nat} {r : Receiving} {m m' : BufferMap}
    (h : r.Holds connection) (hother : r.trackBuffers = [] ∨ ∀ id,
      cachedInfo m' r.notification.trackId id = cachedInfo m r.notification.trackId id) :
    (r.lose m m').Holds connection := by
  refine ⟨fun x hx => ?_, h.mapping⟩
  obtain ⟨y, hy, rfl⟩ := List.mem_map.mp hx
  rcases hother with hnil | hsame
  · simp [hnil] at hy
  · have hkept : (cachedInfo m r.notification.trackId y.1 == some y.2 &&
        cachedInfo m' r.notification.trackId y.1 != some y.2) = false := by
      rw [hsame, bne, Bool.and_not_self]
    simp only [hkept]
    exact h.trackBuffers y hy

/-- The same notification with some of the buffers. -/
def Notification.Within (n n' : Notification) : Prop :=
  n = { n' with buffers := n.buffers } ∧ ∀ b ∈ n.buffers, b ∈ n'.buffers

theorem Notification.Within.refl (n : Notification) : n.Within n := ⟨rfl, fun _ hb => hb⟩

namespace Link

variable {s t : Link} {a : Action} {as : List Action} {session track id : UInt32}

/-- A buffer is sent only while the client's mapping under its track and buffer id, if there is
one, was attached for the same session in this connection, and what is pending under the same ids
is of the same session; a track is deleted only while the call in progress has no buffer of it for
the callback; and the client disconnects only when nothing is pending. -/
def exposesOwn (s : Link) : Action → Bool
  | .notifyVideoTrackData session track buffers => buffers.all fun id =>
    ((cachedInfo s.client.trackBuffersMap track id).all fun info =>
      info == .mapped ⟨s.client.connection, session, track, id⟩) &&
    s.pending.all fun m => m.trackId != track || m.sessionId == session ||
      m.buffers.all fun b => b.bufferId != id
  | .deleteVideoTrack session track =>
    !hasTrack s.client.sessions session track ||
      s.receiving.all fun r => r.notification.trackId != track || r.trackBuffers.isEmpty
  | .disconnect => s.pending.isEmpty
  | _ => true

/-- What is cached, pending and exposed belongs to the sessions it is used for. -/
structure Owned (s : Link) : Prop where
  mapped : ∀ track id, cachedInfo s.client.trackBuffersMap track id ≠ some .failed
  current : ∀ m ∈ s.pending, m.connection = s.client.connection
  attached : ∀ m ∈ s.pending, ∀ b ∈ m.buffers, ∀ d, b.ionFd = some d →
    d = ⟨m.connection, m.sessionId, m.trackId, b.bufferId⟩
  cached : ∀ m ∈ s.pending, ∀ b ∈ m.buffers,
    RightAt s.client.connection m.sessionId m.trackId b.bufferId s.client.trackBuffersMap
  alone : ∀ m ∈ s.pending, ∀ m' ∈ s.pending, m.trackId = m'.trackId →
    ∀ b ∈ m.buffers, ∀ b' ∈ m'.buffers, b.bufferId = b'.bufferId → m.sessionId = m'.sessionId
  prepared : ∀ r, s.receiving = some r → r.Holds s.client.connection
  offline : s.client.connected = false →
    s.pending = [] ∧ s.service.sessions = ∅ ∧ s.client.deleting = none
  exposed : ∀ x ∈ s.exposed, x.info = .mapped ⟨x.connection, x.sessionId, x.trackId, x.bufId⟩

theorem attached_packBuffers {p : Peer} {connection : Nat} {ids : List UInt32} {b : BnBuffer}
    {d : Descriptor} (hb : b ∈ (p.packBuffers connection session track ids).1)
    (hd : b.ionFd = some d) : d = ⟨connection, session, track, b.bufferId⟩ := by
  induction ids generalizing p with
  | nil => simp [Peer.packBuffers] at hb
  | cons id ids ih =>
    unfold Peer.packBuffers at hb
    split at hb
    · rcases List.mem_cons.mp hb with rfl | hb
      · simp at hd
      · exact ih hb
    · rcases List.mem_cons.mp hb with rfl | hb
      · exact (Option.some.inj hd).symm
      · exact ih hb

theorem mem_packBuffers {p : Peer} {connection : Nat} {ids : List UInt32} {b : BnBuffer}
    (hb : b ∈ (p.packBuffers connection session track ids).1) : b.bufferId ∈ ids := by
  have hkey : (track, b.bufferId) ∈ (itemsOf track
      (p.packBuffers connection session track ids).1).map Prod.fst := by
    simpa [itemsOf] using ⟨b, hb, rfl⟩
  rw [keys_packBuffers] at hkey
  simpa using hkey

section Receive

variable {connection : Nat} {n : Notification} {b : BnBuffer} {bufs : List (UInt32 × BufferInfo)}

/-- The pending notifications while a call is in progress. -/
theorem pending_receiving {r : Receiving} (hrec : s.receiving = some r) :
    s.pending = r.rest :: s.inFlight := by
  simp [pending, hrec]

/-- A step of the call in progress that leaves less to prepare. -/
theorem Owned.advance (h : Owned s)
    (hwithin : ∀ n ∈ t.pending, ∃ n' ∈ s.pending, n.Within n')
    (hne : s.pending ≠ [])
    (hclient : t.client = { s.client with trackBuffersMap := t.client.trackBuffersMap })
    (hmapped : ∀ track id, cachedInfo t.client.trackBuffersMap track id ≠ some .failed)
    (hright : ∀ n ∈ s.pending, ∀ b ∈ n.buffers,
      RightAt s.client.connection n.sessionId n.trackId b.bufferId t.client.trackBuffersMap)
    (hprepared : ∀ r, t.receiving = some r → r.Holds s.client.connection)
    (hexposed : ∀ x ∈ t.exposed,
      x.info = .mapped ⟨x.connection, x.sessionId, x.trackId, x.bufId⟩) : Owned t := by
  have hconnection : t.client.connection = s.client.connection := by rw [hclient]
  have hconnected : t.client.connected = s.client.connected := by rw [hclient]
  refine ⟨hmapped, fun n hn => ?_, fun n hn b hb d hd => ?_, fun n hn b hb => ?_,
    fun n₁ h₁ n₂ h₂ ht b₁ hb₁ b₂ hb₂ hid => ?_, hconnection ▸ hprepared,
    fun hoff => absurd (h.offline (hconnected ▸ hoff)).1 hne, hexposed⟩
  · obtain ⟨n', hn', heq, -⟩ := hwithin n hn
    rw [heq, hconnection]
    exact h.current n' hn'
  · obtain ⟨n', hn', heq, hsub⟩ := hwithin n hn
    rw [heq]
    exact h.attached n' hn' b (hsub b hb) d hd
  · obtain ⟨n', hn', heq, hsub⟩ := hwithin n hn
    rw [heq, hconnection]
    exact hright n' hn' b (hsub b hb)
  · obtain ⟨n₁', h₁', heq₁, hsub₁⟩ := hwithin n₁ h₁
    obtain ⟨n₂', h₂', heq₂, hsub₂⟩ := hwithin n₂ h₂
    rw [heq₁, heq₂] at ht ⊢
    exact h.alone n₁' h₁' n₂' h₂' ht b₁ (hsub₁ b₁ hb₁) b₂ (hsub₂ b₂ hb₂) hid

theorem owned_receive (h : Owned s) (hstep : s.receive = some t) : Owned t := by
  unfold receive at hstep
  split at hstep
  next n rest hnone hq =>
    obtain rfl := Option.some.inj hstep
    have hpend : pending { s with receiving := some ⟨n, none, [], false⟩, inFlight := rest } =
        s.pending := by simp [pending, hnone, hq, Receiving.rest]
    refine h.advance (fun n' hn' => ⟨n', hpend ▸ hn', .refl n'⟩) (by simp [pending, hq]) rfl
      h.mapped h.cached (fun r hr => ?_) h.exposed
    obtain rfl := Option.some.inj hr
    exact ⟨by simp, by simp⟩
  · simp at hstep

theorem owned_lookUp (h : Owned s) (hs : Synced s) (hstep : s.lookUp = some t) : Owned t := by
  unfold lookUp at hstep
  split at hstep
  next connection session track b bs bufs found hrec =>
    have hpend : s.pending = ⟨connection, session, track, b :: bs⟩ :: s.inFlight :=
      pending_receiving hrec
    have hhead : ⟨connection, session, track, b :: bs⟩ ∈ s.pending := hpend ▸ List.mem_cons_self
    have hne : s.pending ≠ [] := by simp [hpend]
    have hholds := h.prepared _ hrec
    dsimp only at hstep
    split at hstep
    next info hinfo =>
      obtain rfl := Option.some.inj hstep
      refine h.advance (fun n hn => ?_) hne rfl h.mapped h.cached (fun r hr => ?_) h.exposed
      · rcases List.mem_cons.mp hn with rfl | hn
        · exact ⟨_, hhead, rfl, fun b' hb' => List.mem_cons_of_mem b hb'⟩
        · exact ⟨n, hpend ▸ List.mem_cons_of_mem _ hn, .refl n⟩
      · obtain rfl := Option.some.inj hr
        have hown := h.cached _ hhead b List.mem_cons_self info hinfo
        exact hholds.append rfl rfl rfl rfl hown
    next hnone =>
      obtain rfl := Option.some.inj hstep
      refine h.advance (fun n hn => ⟨n, hpend ▸ hn, .refl n⟩) hne rfl h.mapped h.cached
        (fun r hr => ?_) h.exposed
      obtain rfl := Option.some.inj hr
      refine ⟨hholds.trackBuffers, fun b' hb' hfd => ?_⟩
      obtain rfl := Option.some.inj hb'
      have hserves := hs.serves
      rw [hpend] at hserves
      simpa [Cached, hnone] using hserves.1 hfd
  · simp at hstep

/-- A buffer that was not found is mapped as what came with it. -/
theorem owned_mapBuffer (h : Owned s) (hstep : s.mapBuffer = some t) : Owned t := by
  unfold mapBuffer at hstep
  split at hstep
  next n b bufs found hrec =>
    have hpend := pending_receiving hrec
    have hhead : { n with buffers := b :: n.buffers } ∈ s.pending := hpend ▸ List.mem_cons_self
    have hb : b ∈ ({ n with buffers := b :: n.buffers } : Notification).buffers :=
      List.mem_cons_self
    split at hstep
    · obtain rfl := Option.some.inj hstep
      have hown : Client.mapBuffer b.ionFd =
          .mapped ⟨s.client.connection, n.sessionId, n.trackId, b.bufferId⟩ := by
        cases hfd : b.ionFd with
        | none => exact absurd hfd ((h.prepared _ hrec).mapping b rfl)
        | some d =>
          rw [h.attached _ hhead b hb d hfd, h.current _ hhead]
          rfl
      have hinfo : (cachedInfo s.client.trackBuffersMap n.trackId b.bufferId).getD
          (Client.mapBuffer b.ionFd) =
          .mapped ⟨s.client.connection, n.sessionId, n.trackId, b.bufferId⟩ := by
        cases hc : cachedInfo s.client.trackBuffersMap n.trackId b.bufferId with
        | none => exact hown
        | some info => exact h.cached _ hhead b hb info hc
      refine h.advance (fun n' hn' => ?_) (by simp [hpend]) rfl (fun track id => ?_)
        (fun n' hn' b' hb' info hc => ?_) (fun r hr => ?_) h.exposed
      · rcases List.mem_cons.mp hn' with rfl | hn'
        · exact ⟨_, hhead, rfl, fun b' hb' => List.mem_cons_of_mem b hb'⟩
        · exact ⟨n', hpend ▸ List.mem_cons_of_mem _ hn', .refl n'⟩
      · dsimp only
        rw [cachedInfo_emplaceInfo]
        split
        · simp [hinfo]
        · exact h.mapped track id
      · dsimp only at hc
        rw [cachedInfo_emplaceInfo] at hc
        split at hc
        next heq =>
          rw [← Option.some.inj hc, hinfo,
            h.alone _ hhead n' hn' heq.1 b hb b' hb' heq.2, heq.1, heq.2]
        · exact h.cached n' hn' b' hb' info hc
      · obtain rfl := Option.some.inj hr
        exact (h.prepared _ hrec).append rfl rfl rfl rfl hown
    · simp at hstep
  · simp at hstep

/-- The end of a call that has prepared all its buffers. -/
theorem Owned.callback {e : List BufferDescriptor} {r : Receiving} (h : Owned s)
    (hrec : s.receiving = some r)
    (he : ∀ x ∈ e, x.info = .mapped ⟨x.connection, x.sessionId, x.trackId, x.bufId⟩) :
    Owned { s with receiving := none, exposed := e } := by
  have hpend := pending_receiving hrec
  refine h.advance (fun n hn => ⟨n, ?_, .refl n⟩) (by simp [hpend]) rfl h.mapped h.cached
    (by simp) he
  exact hpend ▸ List.mem_cons_of_mem _ hn

theorem owned_findCallback (h : Owned s) (hstep : s.findCallback = some t) : Owned t := by
  unfold findCallback at hstep
  split at hstep
  next connection session track bufs hrec =>
    split at hstep
    · obtain rfl := Option.some.inj hstep
      have hpend := pending_receiving hrec
      refine h.advance (fun n hn => ⟨n, hpend ▸ hn, .refl n⟩) (by simp [hpend]) rfl h.mapped
        h.cached (fun r hr => ?_) h.exposed
      obtain rfl := Option.some.inj hr
      exact ⟨(h.prepared _ hrec).trackBuffers, by simp⟩
    · exact Option.some.inj hstep ▸ h.callback hrec h.exposed
  · simp at hstep

theorem owned_dataCb (h : Owned s) (hstep : s.dataCb = some t) : Owned t := by
  unfold dataCb at hstep
  split at hstep
  next connection session track bufs hrec =>
    obtain rfl := Option.some.inj hstep
    refine h.callback hrec fun x hx => ?_
    rcases List.mem_append.mp hx with hx | hx
    · exact h.exposed x hx
    · obtain ⟨y, hy, rfl⟩ := List.mem_map.mp hx
      exact (h.prepared _ hrec).trackBuffers y hy
  · simp at hstep

end Receive

theorem owned_notifyVideoTrackData {ids : List UInt32} (h : Owned s)
    (hguard : s.exposesOwn (.notifyVideoTrackData session track ids) = true)
    (hstep : s.notifyVideoTrackData session track ids = some t) : Owned t := by
  unfold notifyVideoTrackData at hstep
  split at hstep
  next htrack =>
    obtain rfl := Option.some.inj hstep
    have hids : ∀ id ∈ ids,
        RightAt s.client.connection session track id s.client.trackBuffersMap ∧
        ∀ m ∈ s.pending, m.trackId = track → (∃ b ∈ m.buffers, b.bufferId = id) →
          m.sessionId = session := by
      intro id hid
      have hboth := List.all_eq_true.mp hguard id hid
      simp only [Bool.and_eq_true, List.all_eq_true, Bool.or_eq_true, bne_iff_ne, beq_iff_eq]
        at hboth
      refine ⟨fun info hinfo => by simpa [hinfo] using hboth.1, fun m hm ht ⟨b, hb, hbid⟩ => ?_⟩
      rcases hboth.2 m hm with (hne | hsame) | hno
      · exact absurd ht hne
      · exact hsame
      · exact absurd hbid (hno b hb)
    have hpend : pending { s with
        service := (s.service.packBuffers s.client.connection session track ids).2
        inFlight := s.inFlight ++ [⟨s.client.connection, session, track,
          (s.service.packBuffers s.client.connection session track ids).1⟩] } =
        s.pending ++ [⟨s.client.connection, session, track,
          (s.service.packBuffers s.client.connection session track ids).1⟩] := by
      simp [pending]
    have hnew : ∀ {m b}, m ∈ s.pending ++ [⟨s.client.connection, session, track,
        (s.service.packBuffers s.client.connection session track ids).1⟩] → b ∈ m.buffers →
        m ∈ s.pending ∨ (m.sessionId = session ∧ m.trackId = track ∧ b.bufferId ∈ ids) := by
      intro m b hm hb
      rcases List.mem_append.mp hm with hm | hm
      · exact .inl hm
      · obtain rfl := List.mem_singleton.mp hm
        exact .inr ⟨rfl, rfl, mem_packBuffers hb⟩
    refine ⟨h.mapped, fun m hm => ?_, fun m hm => ?_, fun m hm b hb => ?_,
      fun m₁ h₁ m₂ h₂ ht b₁ hb₁ b₂ hb₂ hid => ?_, h.prepared, fun hoff => ?_, h.exposed⟩
    · rw [hpend] at hm
      rcases List.mem_append.mp hm with hm | hm
      · exact h.current m hm
      · obtain rfl := List.mem_singleton.mp hm
        rfl
    · rw [hpend] at hm
      rcases List.mem_append.mp hm with hm | hm
      · exact h.attached m hm
      · obtain rfl := List.mem_singleton.mp hm
        exact fun b hb d hd => attached_packBuffers hb hd
    · rw [hpend] at hm
      rcases hnew hm hb with hm | ⟨hsess, htr, hid⟩
      · exact h.cached m hm b hb
      · rw [hsess, htr]
        exact (hids _ hid).1
    · rw [hpend] at h₁ h₂
      rcases hnew h₁ hb₁ with h₁ | ⟨hsess₁, htr₁, hid₁⟩ <;>
        rcases hnew h₂ hb₂ with h₂ | ⟨hsess₂, htr₂, hid₂⟩
      · exact h.alone m₁ h₁ m₂ h₂ ht b₁ hb₁ b₂ hb₂ hid
      · rw [hsess₂]
        exact (hids _ hid₂).2 m₁ h₁ (ht.trans htr₂) ⟨b₁, hb₁, hid⟩
      · rw [hsess₁]
        exact ((hids _ hid₁).2 m₂ h₂ (ht.symm.trans htr₁) ⟨b₂, hb₂, hid.symm⟩).symm
      · rw [hsess₁, hsess₂]
    · simp [(h.offline hoff).2.1, hasTrack] at htrack
  · simp at hstep

theorem owned_deleteVideoTrack (h : Owned s)
    (hguard : s.exposesOwn (.deleteVideoTrack session track) = true) :
    Owned (s.deleteVideoTrack session track) := by
  rcases deleteVideoTrack_cases s session track with
    hsame | ⟨hon, htrack, m, c, heq, ⟨rfl, hm⟩ | ⟨-, -, id, hfailed⟩⟩
  · rwa [hsame]
  · have hsub : ∀ track' id info, cachedInfo m track' id = some info →
        cachedInfo s.client.trackBuffersMap track' id = some info := by
      intro track' id info hinfo
      rw [hm] at hinfo
      split at hinfo
      · simp at hinfo
      · exact hinfo
    rw [heq]
    refine ⟨fun track' id hfail => h.mapped track' id (hsub _ _ _ hfail), ?_, ?_, ?_, ?_,
      fun r' hr' => ?_, fun hoff => absurd hoff (by simp [hon]), h.exposed⟩
    · rw [pending_lose]
      exact h.current
    · rw [pending_lose]
      exact h.attached
    · rw [pending_lose]
      exact fun n hn b hb info hinfo => h.cached n hn b hb info (hsub _ _ _ hinfo)
    · rw [pending_lose]
      exact h.alone
    · obtain ⟨r, hr, rfl⟩ := Option.map_eq_some_iff.mp hr'
      refine (h.prepared r hr).lose ?_
      have hguard : (!hasTrack s.client.sessions session track || s.receiving.all fun r =>
        r.notification.trackId != track || r.trackBuffers.isEmpty) = true := hguard
      simp only [htrack, Bool.not_true, Bool.false_or, hr, Option.all_some,
        Bool.or_eq_true, bne_iff_ne, List.isEmpty_iff] at hguard
      refine hguard.symm.imp_right fun hne id => ?_
      rw [hm, if_neg (Ne.symm hne)]
  · exact absurd hfailed (h.mapped track id)

theorem owned_serviceDeletes {ok : Bool} (h : Owned s) (hstep : s.serviceDeletes ok = some t) :
    Owned t := by
  unfold serviceDeletes at hstep
  split at hstep
  next session track hdel =>
    obtain rfl := Option.some.inj hstep
    exact ⟨h.mapped, h.current, h.attached, h.cached, h.alone, h.prepared,
      fun hoff => by simp [(h.offline hoff).2.2] at hdel, h.exposed⟩
  · simp at hstep

/-- Without a connection the client's calls do nothing. -/
theorem eq_of_isQuiet (ha : a.isQuiet = true) (hoff : s.client.connected = false)
    (hidle : s.client.deleting = none) (hstep : s.step a = some t) : t = s := by
  cases a with
  | createSession session ok =>
    obtain ⟨-, hstep⟩ := eq_of_locked hstep
    simpa [createSession, hoff, eq_comm] using hstep
  | deleteSession session ok =>
    obtain ⟨-, hstep⟩ := eq_of_locked hstep
    obtain rfl := Option.some.inj hstep
    unfold deleteSession
    split
    · rfl
    · simp [hoff]
  | startSession session ok =>
    obtain ⟨-, hstep⟩ := eq_of_locked hstep
    simpa [setStarted, hoff, eq_comm] using hstep
  | stopSession session ok =>
    obtain ⟨-, hstep⟩ := eq_of_locked hstep
    simpa [setStarted, hoff, eq_comm] using hstep
  | createVideoTrack session track ok =>
    obtain ⟨-, hstep⟩ := eq_of_locked hstep
    simpa [createVideoTrack, hoff, eq_comm] using hstep
  | deletionReturns => simp [step, deletionReturns, hidle] at hstep
  | connect | disconnect | deleteVideoTrack | serviceDeletes | notifyVideoTrackData | receive
  | lookUp | mapBuffer | findCallback | dataCb =>
    exact absurd ha Bool.false_ne_true

theorem owned_quiet (h : Owned s) (ha : a.isQuiet = true) (hstep : s.step a = some t) :
    Owned t := by
  have hst := sameCaches_step ha hstep
  refine ⟨hst.buffers ▸ h.mapped, ?_, ?_, ?_, ?_, ?_, fun hoff => ?_, hst.exposed ▸ h.exposed⟩
  · rw [hst.pending, hst.connection]
    exact h.current
  · rw [hst.pending]
    exact h.attached
  · rw [hst.pending, hst.connection, hst.buffers]
    exact h.cached
  · rw [hst.pending]
    exact h.alone
  · rw [hst.receiving, hst.connection]
    exact h.prepared
  · rw [hst.connected] at hoff
    obtain rfl := eq_of_isQuiet ha hoff (h.offline hoff).2.2 hstep
    exact h.offline hoff

/-- With nothing pending there is little to keep. -/
theorem owned_of_pending_nil (hnil : t.pending = [])
    (hmapped : ∀ track id, cachedInfo t.client.trackBuffersMap track id ≠ some .failed)
    (hoff : t.client.connected = false → t.service.sessions = ∅ ∧ t.client.deleting = none)
    (hexposed : ∀ x ∈ t.exposed,
      x.info = .mapped ⟨x.connection, x.sessionId, x.trackId, x.bufId⟩) : Owned t :=
  ⟨hmapped, by simp [hnil], by simp [hnil], by simp [hnil], by simp [hnil],
    fun r hr => by simp [pending_receiving hr] at hnil, fun h => ⟨hnil, hoff h⟩, hexposed⟩

theorem owned_step (h : Owned s) (hs : Synced s) (hguard : s.exposesOwn a = true)
    (hstep : s.step a = some t) : Owned t := by
  cases a with
  | createSession | deleteSession | startSession | stopSession | createVideoTrack
  | deletionReturns => exact owned_quiet h rfl hstep
  | connect =>
    obtain ⟨-, hstep⟩ := eq_of_locked hstep
    obtain rfl := Option.some.inj hstep
    unfold connect
    split
    · exact h
    next hoff =>
      exact owned_of_pending_nil (h.offline (by simpa using hoff)).1 h.mapped
        (fun hno => by simp at hno) h.exposed
  | disconnect =>
    obtain ⟨hidle, hstep⟩ := eq_of_locked hstep
    obtain rfl := Option.some.inj hstep
    unfold disconnect
    split
    · have hnil : s.pending = [] := List.isEmpty_iff.mp hguard
      exact owned_of_pending_nil hnil h.mapped (fun _ => ⟨rfl, hidle⟩) h.exposed
    · exact h
  | deleteVideoTrack session track =>
    obtain ⟨-, hstep⟩ := eq_of_locked hstep
    obtain rfl := Option.some.inj hstep
    exact owned_deleteVideoTrack h hguard
  | serviceDeletes ok => exact owned_serviceDeletes h hstep
  | notifyVideoTrackData session track ids => exact owned_notifyVideoTrackData h hguard hstep
  | receive => exact owned_receive h hstep
  | lookUp => exact owned_lookUp h hs hstep
  | mapBuffer => exact owned_mapBuffer h hstep
  | findCallback => exact owned_findCallback h hstep
  | dataCb => exact owned_dataCb h hstep

theorem owned_initial : Owned {} :=
  owned_of_pending_nil rfl (by simp [cachedInfo]) (fun _ => ⟨rfl, rfl⟩) (by simp)

/-- Two sessions with track 1, whose buffers have different ids; one of the tracks is deleted
while a buffer of a third track is received, and comes again in a new connection. -/
def disjointBuffersRun : List Action :=
  startTrack ++ [.createSession 2 true, .createVideoTrack 2 1 true, .createVideoTrack 2 3 true,
    .notifyVideoTrackData 1 1 [0], .notifyVideoTrackData 2 1 [7], .notifyVideoTrackData 2 3 [4]] ++
    receiveNew ++ receiveNew ++ [.receive, .lookUp, .mapBuffer, .deleteVideoTrack 1 1,
      .serviceDeletes true, .findCallback, .deletionReturns, .dataCb, .disconnect] ++
    startTrack ++ [.notifyVideoTrackData 1 1 [0]] ++ receiveNew

/-- Two sessions that both have track 1 and buffer 0. -/
def sharedTrackIdRun : List Action :=
  startTrack ++ [.createSession 2 true, .createVideoTrack 2 1 true,
    .notifyVideoTrackData 1 1 [0]] ++ receiveNew ++ [.notifyVideoTrackData 2 1 [0]] ++ receiveKnown

end Link

end QmmfSdk.Client
