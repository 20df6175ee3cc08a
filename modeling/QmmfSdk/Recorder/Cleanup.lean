import Mathlib.Data.List.Nodup
import QmmfSdk.Recorder.Outcomes

/-! The cleanup of a dead client, session by session: when every track lets itself be deleted,
no session of the client is left. -/
namespace QmmfSdk.Recorder

namespace RecorderImpl

variable {r r' r'' : RecorderImpl} {remoteCb : UInt32 → Bool} {m : Media} {st : Status}
  {client session track c i t : UInt32}

/-- Only the entry of one session changes among the sessions of all clients. -/
def Confined (client session : UInt32) (r r' : RecorderImpl) : Prop :=
  ∀ c i, ¬ (client = c ∧ session = i) → (r'.sessions c)[i]? = (r.sessions c)[i]?

theorem Confined.refl : Confined client session r r := fun _ _ _ => rfl

theorem Confined.trans (h : Confined client session r r') (h' : Confined client session r' r'') :
    Confined client session r r'' :=
  fun c i hne => (h' c i hne).trans (h c i hne)

theorem sessions_congr (h : r'.clientSessionMap = r.clientSessionMap) :
    r'.sessions c = r.sessions c := by
  rw [sessions, h, sessions]

theorem confined_updateTracks {f : TrackInfoMap → TrackInfoMap} :
    Confined client session r (r.updateTracks client session f) := by
  intro c i hne
  rw [updateTracks, sessions_updateSessions]
  split
  · next hc =>
    rw [Library.OrdMap.getElem?_update, if_neg fun hs => hne ⟨hc, hs⟩]
  · rfl

theorem tracks_updateTracks {f : TrackInfoMap → TrackInfoMap} :
    (r.updateTracks client session f).tracks client session = f (r.tracks client session) := by
  rw [tracks, updateTracks, sessions_updateSessions, if_pos rfl, Library.OrdMap.getElem?_update,
    if_pos rfl]
  rfl

/-- A session that is there is not changed by a lookup. -/
theorem updateTracks_id (hs : session ∈ r.sessions client) :
    (r.updateTracks client session id).sessions c = r.sessions c := by
  rw [updateTracks, sessions_updateSessions]
  split
  · next hc =>
    subst hc
    exact Library.OrdMap.update_id hs
  · rfl

theorem sessions_stopSession (hs : session ∈ r.sessions client)
    (h : r.stopSession m client session = .ok (st, r')) : r'.sessions c = r.sessions c := by
  obtain ⟨-, ss, rfl, -⟩ := stopSession_cases h
  exact (sessions_congr rfl).trans (updateTracks_id hs)

theorem clientSessionMap_withoutVideoTrack :
    (r.withoutVideoTrack client session track i).clientSessionMap =
      (r.updateTracks client session fun ts => ts.erase track).clientSessionMap := by
  simp [withoutVideoTrack, updateTracks, updateSessions]

/-- A track is left as it is, with one of its back ends refusing, or erased from its session. -/
theorem deleteTrack_cases {q : UInt32 × TrackInfo}
    (h : deleteTrack remoteCb m client session r q = .ok r') :
    (r' = r ∧ (r.track client session q.1 = some q.2 → m.deletes q.2 = false)) ∨
    (∃ i f, r.track client session q.1 = some ⟨i, .audio f⟩ ∧
      r' = r.updateTracks client session fun ts => ts.erase q.1) ∨
    ∃ i f, r.track client session q.1 = some ⟨i, .video f⟩ ∧
      r' = r.withoutVideoTrack client session q.1 i := by
  unfold deleteTrack at h
  split at h
  · obtain ⟨⟨st, r₁⟩, h₁, h⟩ := Library.bind_eq_ok_iff.mp h
    obtain rfl := by simpa using h
    rcases deleteVideoTrack_cases h₁ with ⟨-, rfl, hrefuse⟩ | ⟨-, i, f, ht, -, rfl⟩
    · exact .inl ⟨rfl, hrefuse q.2⟩
    · exact .inr (.inr ⟨i, f, ht, rfl⟩)
  · obtain ⟨⟨st, r₁⟩, h₁, h⟩ := Library.bind_eq_ok_iff.mp h
    obtain rfl := by simpa using h
    rcases deleteAudioTrack_cases h₁ with ⟨-, rfl, hrefuse⟩ | ⟨-, i, f, ht, -, rfl⟩
    · exact .inl ⟨rfl, hrefuse q.2⟩
    · exact .inr (.inl ⟨i, f, ht, rfl⟩)

theorem sessions_deleteTrack {q : UInt32 × TrackInfo}
    (h : deleteTrack remoteCb m client session r q = .ok r') :
    (r' = r ∧ (r.track client session q.1 = some q.2 → m.deletes q.2 = false)) ∨
    (r.isSessionValid client session = true ∧
      ∀ c, r'.sessions c = (r.updateTracks client session fun ts => ts.erase q.1).sessions c) := by
  rcases deleteTrack_cases h with hsame | ⟨i, f, ht, rfl⟩ | ⟨i, f, ht, rfl⟩
  · exact .inl hsame
  · exact .inr ⟨isSessionValid_of_track ht, fun c => rfl⟩
  · exact .inr ⟨isSessionValid_of_track ht,
      fun c => sessions_congr clientSessionMap_withoutVideoTrack⟩

theorem confined_deleteTrack {q : UInt32 × TrackInfo}
    (h : deleteTrack remoteCb m client session r q = .ok r') : Confined client session r r' := by
  rcases sessions_deleteTrack h with ⟨rfl, -⟩ | ⟨-, heq⟩
  · exact .refl
  · intro c i hne
    rw [heq]
    exact confined_updateTracks c i hne

/-- A track that is still there after its turn was refused by its back ends. -/
theorem track_deleteTrack {q : UInt32 × TrackInfo} {info : TrackInfo}
    (ht : r.track client session q.1 = some q.2)
    (h : deleteTrack remoteCb m client session r q = .ok r')
    (hi : r'.track client session t = some info) :
    r.track client session t = some info ∧ (t = q.1 → m.deletes info = false) := by
  rcases sessions_deleteTrack h with ⟨rfl, hrefuse⟩ | ⟨-, heq⟩
  · refine ⟨hi, ?_⟩
    rintro rfl
    obtain rfl := Option.some.inj (ht.symm.trans hi)
    exact hrefuse ht
  · rw [RecorderImpl.track, tracks, heq, ← tracks, tracks_updateTracks,
      Std.ExtTreeMap.getElem?_erase] at hi
    split at hi
    · simp at hi
    · next hne =>
      refine ⟨hi, ?_⟩
      rintro rfl
      simp at hne

theorem track_deleteTrack_of_ne {q : UInt32 × TrackInfo} (hne : q.1 ≠ t)
    (h : deleteTrack remoteCb m client session r q = .ok r') :
    r'.track client session t = r.track client session t := by
  rcases sessions_deleteTrack h with ⟨rfl, -⟩ | ⟨-, heq⟩
  · rfl
  · rw [RecorderImpl.track, tracks, heq, ← tracks, tracks_updateTracks,
      Std.ExtTreeMap.getElem?_erase, if_neg (by simpa using hne)]
    rfl

theorem track_deleteTracks {qs : List (UInt32 × TrackInfo)} {info : TrackInfo}
    (hnd : (qs.map Prod.fst).Nodup)
    (hqs : ∀ q ∈ qs, r.track client session q.1 = some q.2)
    (h : qs.foldlM (deleteTrack remoteCb m client session) r = .ok r')
    (hi : r'.track client session t = some info) :
    r.track client session t = some info ∧ (t ∈ qs.map Prod.fst → m.deletes info = false) := by
  induction qs generalizing r with
  | nil =>
    obtain rfl : r = r' := by simpa [pure, Except.pure] using h
    exact ⟨hi, by simp⟩
  | cons q qs ih =>
    rw [List.foldlM_cons, Library.bind_eq_ok_iff] at h
    obtain ⟨r₁, h₁, h⟩ := h
    obtain ⟨hq, hnd⟩ := List.nodup_cons.mp hnd
    have hrest : ∀ p ∈ qs, r₁.track client session p.1 = some p.2 := by
      intro p hp
      have hne : q.1 ≠ p.1 := fun heq => hq (heq ▸ List.mem_map_of_mem hp)
      rw [track_deleteTrack_of_ne hne h₁]
      exact hqs p (List.mem_cons_of_mem _ hp)
    obtain ⟨hmid, hrefuse⟩ := ih hnd hrest h
    obtain ⟨hold, hhead⟩ := track_deleteTrack (hqs q (by simp)) h₁ hmid
    refine ⟨hold, fun hmem => ?_⟩
    rcases List.mem_cons.mp hmem with rfl | htail
    · exact hhead rfl
    · exact hrefuse htail

theorem confined_deleteSession (h : r.deleteSession client session = .ok (st, r')) :
    Confined client session r r' := by
  rcases deleteSession_cases h with ⟨-, rfl, -⟩ | ⟨-, -, -, n, rfl, -⟩
  · exact .refl
  · intro c i hne
    change ((r.updateSessions client fun m => m.erase session).sessions c)[i]? = _
    rw [sessions_updateSessions]
    split
    · next hc =>
      rw [Std.ExtTreeMap.getElem?_erase, if_neg (by simpa using fun hs => hne ⟨hc, hs⟩)]
    · rfl

/-- A session that cannot be deleted has a track, and keeps it. -/
theorem exists_track_of_deleteSession (h : r.deleteSession client session = .ok (st, r'))
    (hs : session ∈ r'.sessions client) :
    ∃ t info, r'.track client session t = some info := by
  rcases deleteSession_cases h with ⟨-, rfl, hne⟩ | ⟨-, -, -, n, rfl, -⟩
  · by_contra hnone
    apply hne (isSessionValid_iff.mpr hs)
    rw [Std.ExtTreeMap.eq_empty_iff_forall_not_mem]
    intro t ht
    rw [Std.ExtTreeMap.mem_iff_isSome_getElem?] at ht
    obtain ⟨info, hi⟩ := Option.isSome_iff_exists.mp ht
    exact hnone ⟨t, info, hi⟩
  · change session ∈ (r.updateSessions client fun m => m.erase session).sessions client at hs
    rw [sessions_updateSessions, if_pos rfl] at hs
    simp at hs

theorem track_deleteSession {info : TrackInfo}
    (h : r.deleteSession client session = .ok (st, r')) (hi : r'.track c i t = some info) :
    r.track c i t = some info := by
  have he : Edits NoTrack client r r' := edits_deleteSession h
  exact (he.tracks c i t info hi).resolve_right id

/-- The cleanup of one session leaves every other one alone. -/
theorem confined_cleanupSession {p : UInt32 × TrackInfoMap} (hp : p.1 ∈ r.sessions client)
    (h : cleanupSession remoteCb m client r p = .ok r') : Confined client p.1 r r' := by
  obtain ⟨⟨st₁, r₁⟩, h₁, h⟩ := Library.bind_eq_ok_iff.mp h
  obtain ⟨r₂, h₂, h⟩ := Library.bind_eq_ok_iff.mp h
  obtain ⟨⟨st₃, r₃⟩, h₃, h⟩ := Library.bind_eq_ok_iff.mp h
  obtain rfl := by simpa using h
  have hstop : Confined client p.1 r r₁ := fun c i _ => by rw [sessions_stopSession hp h₁]
  have hdel : Confined client p.1 r₁ r₂ := Library.foldlM_rel (R := Confined client p.1)
    (fun _ => .refl) (fun _ _ _ => .trans) (fun _ _ _ => confined_deleteTrack) h₂
  exact (hstop.trans hdel).trans (confined_deleteSession h₃)

/-- What the cleanup of a session leaves of it was refused by the back ends. -/
theorem track_cleanupSession {p : UInt32 × TrackInfoMap} {info : TrackInfo}
    (hp : (r.sessions client)[p.1]? = some p.2)
    (h : cleanupSession remoteCb m client r p = .ok r')
    (hi : r'.track client p.1 t = some info) :
    r.track client p.1 t = some info ∧ m.deletes info = false := by
  have hmem : p.1 ∈ r.sessions client := by
    rw [Std.ExtTreeMap.mem_iff_isSome_getElem?, hp]
    rfl
  obtain ⟨⟨st₁, r₁⟩, h₁, h⟩ := Library.bind_eq_ok_iff.mp h
  obtain ⟨r₂, h₂, h⟩ := Library.bind_eq_ok_iff.mp h
  obtain ⟨⟨st₃, r₃⟩, h₃, h⟩ := Library.bind_eq_ok_iff.mp h
  obtain rfl := by simpa using h
  have htracks : ∀ k, r₁.track client p.1 k = p.2[k]? := by
    intro k
    rw [RecorderImpl.track, tracks, sessions_stopSession hmem h₁, hp]
    rfl
  have hkeys : (p.2.toList.reverse.map Prod.fst).Nodup := by
    rw [List.map_reverse, List.nodup_reverse, Std.ExtTreeMap.map_fst_toList_eq_keys]
    exact Std.ExtTreeMap.nodup_keys
  have hlist : ∀ q ∈ p.2.toList.reverse, r₁.track client p.1 q.1 = some q.2 := by
    intro q hq
    rw [htracks]
    exact Std.ExtTreeMap.mem_toList_iff_getElem?_eq_some.mp (List.mem_reverse.mp hq)
  obtain ⟨hold, hrefuse⟩ := track_deleteTracks hkeys hlist h₂ (track_deleteSession h₃ hi)
  rw [htracks] at hold
  refine ⟨?_, hrefuse ?_⟩
  · rw [RecorderImpl.track, tracks, hp]
    exact hold
  · rw [List.map_reverse, List.mem_reverse, Std.ExtTreeMap.map_fst_toList_eq_keys,
      Std.ExtTreeMap.mem_keys, Std.ExtTreeMap.mem_iff_isSome_getElem?, hold]
    rfl

theorem exists_track_of_cleanupSession {p : UInt32 × TrackInfoMap}
    (h : cleanupSession remoteCb m client r p = .ok r') (hs : p.1 ∈ r'.sessions client) :
    ∃ t info, r'.track client p.1 t = some info := by
  obtain ⟨⟨st₁, r₁⟩, h₁, h⟩ := Library.bind_eq_ok_iff.mp h
  obtain ⟨r₂, h₂, h⟩ := Library.bind_eq_ok_iff.mp h
  obtain ⟨⟨st₃, r₃⟩, h₃, h⟩ := Library.bind_eq_ok_iff.mp h
  obtain rfl := by simpa using h
  exact exists_track_of_deleteSession h₃ hs

/-- After the loop each session that it came by has only tracks that were refused, and has some
if it is still there. -/
theorem cleanupSessions_ok {ps : List (UInt32 × TrackInfoMap)} (hnd : (ps.map Prod.fst).Nodup)
    (hps : ∀ p ∈ ps, (r.sessions client)[p.1]? = some p.2)
    (h : ps.foldlM (cleanupSession remoteCb m client) r = .ok r') :
    (∀ i, i ∉ ps.map Prod.fst → (r'.sessions client)[i]? = (r.sessions client)[i]?) ∧
    (∀ i ∈ ps.map Prod.fst, ∀ t info, r'.track client i t = some info →
      r.track client i t = some info ∧ m.deletes info = false) ∧
    ∀ i ∈ ps.map Prod.fst, i ∈ r'.sessions client → ∃ t info, r'.track client i t = some info := by
  induction ps generalizing r with
  | nil =>
    obtain rfl : r = r' := by simpa [pure, Except.pure] using h
    exact ⟨fun _ _ => rfl, by simp, by simp⟩
  | cons p ps ih =>
    rw [List.foldlM_cons, Library.bind_eq_ok_iff] at h
    obtain ⟨r₁, h₁, h⟩ := h
    obtain ⟨hp, hnd⟩ := List.nodup_cons.mp hnd
    have hmap := hps p (by simp)
    have hmem : p.1 ∈ r.sessions client := by
      rw [Std.ExtTreeMap.mem_iff_isSome_getElem?, hmap]
      rfl
    have hconf := confined_cleanupSession hmem h₁
    have hother : ∀ i, p.1 ≠ i → (r₁.sessions client)[i]? = (r.sessions client)[i]? :=
      fun i hne => hconf client i fun hs => hne hs.2
    have hrest : ∀ q ∈ ps, (r₁.sessions client)[q.1]? = some q.2 := by
      intro q hq
      have hne : p.1 ≠ q.1 := fun heq => hp (heq ▸ List.mem_map_of_mem hq)
      rw [hother q.1 hne]
      exact hps q (List.mem_cons_of_mem _ hq)
    obtain ⟨hkeep, hleft, hsome⟩ := ih hnd hrest h
    -- the session of this turn is not touched by the later ones
    have hhead : ∀ t, r'.track client p.1 t = r₁.track client p.1 t := by
      intro t
      rw [RecorderImpl.track, tracks, hkeep p.1 hp, ← tracks, ← RecorderImpl.track]
    refine ⟨fun i hi => ?_, fun i hi t info ht => ?_, fun i hi hs => ?_⟩
    · rw [List.map_cons, List.mem_cons, not_or] at hi
      rw [hkeep i hi.2, hother i (Ne.symm hi.1)]
    · rcases List.mem_cons.mp hi with rfl | hi
      · exact track_cleanupSession hmap h₁ ((hhead t).symm.trans ht)
      · have hne : p.1 ≠ i := fun heq => hp (heq ▸ hi)
        obtain ⟨hmid, hrefuse⟩ := hleft i hi t info ht
        rw [RecorderImpl.track, tracks, hother i hne] at hmid
        exact ⟨hmid, hrefuse⟩
    · rcases List.mem_cons.mp hi with rfl | hi
      · have hs₁ : p.1 ∈ r₁.sessions client := by
          rw [Std.ExtTreeMap.mem_iff_isSome_getElem?] at hs ⊢
          rwa [← hkeep p.1 hp]
        obtain ⟨t, info, ht⟩ := exists_track_of_cleanupSession h₁ hs₁
        exact ⟨t, info, (hhead t).trans ht⟩
      · exact hsome i hi hs

/-- The list that the loop goes through has every session of the client once. -/
theorem cleanup_list : ((r.sessions client).toList.map Prod.fst).Nodup ∧
    ∀ p ∈ (r.sessions client).toList, (r.sessions client)[p.1]? = some p.2 := by
  refine ⟨?_, fun p hp => Std.ExtTreeMap.mem_toList_iff_getElem?_eq_some.mp hp⟩
  rw [Std.ExtTreeMap.map_fst_toList_eq_keys]
  exact Std.ExtTreeMap.nodup_keys

/-- What is left of the client after the loop was refused by the back ends. -/
theorem refused_of_cleanupSessions {info : TrackInfo}
    (h : (r.sessions client).toList.foldlM (cleanupSession remoteCb m client) r = .ok r')
    (hi : r'.track client i t = some info) :
    r.track client i t = some info ∧ m.deletes info = false := by
  obtain ⟨hkeep, hleft, -⟩ := cleanupSessions_ok cleanup_list.1 cleanup_list.2 h
  rw [Std.ExtTreeMap.map_fst_toList_eq_keys] at hkeep hleft
  by_cases hmem : i ∈ (r.sessions client).keys
  · exact hleft i hmem t info hi
  · have hnone : (r.sessions client)[i]? = none :=
      Std.ExtTreeMap.getElem?_eq_none fun hs => hmem (Std.ExtTreeMap.mem_keys.mpr hs)
    simp [RecorderImpl.track, tracks, hkeep i hmem, hnone] at hi

/-- When every track of the client lets itself be deleted, no session survives the loop. -/
theorem sessions_eq_empty_of_deletes
    (hd : ∀ i t info, r.track client i t = some info → m.deletes info = true)
    (h : (r.sessions client).toList.foldlM (cleanupSession remoteCb m client) r = .ok r') :
    r'.sessions client = ∅ := by
  obtain ⟨hkeep, -, hsome⟩ := cleanupSessions_ok cleanup_list.1 cleanup_list.2 h
  rw [Std.ExtTreeMap.map_fst_toList_eq_keys] at hkeep hsome
  rw [Std.ExtTreeMap.eq_empty_iff_forall_not_mem]
  intro i hi
  by_cases hmem : i ∈ (r.sessions client).keys
  · obtain ⟨t, info, ht⟩ := hsome i hmem hi
    obtain ⟨hold, hrefuse⟩ := refused_of_cleanupSessions h ht
    simp [hd i t info hold] at hrefuse
  · have hold : i ∈ r.sessions client := by
      rw [Std.ExtTreeMap.mem_iff_isSome_getElem?] at hi ⊢
      rwa [← hkeep i hmem]
    exact hmem (Std.ExtTreeMap.mem_keys.mpr hold)

end RecorderImpl

end QmmfSdk.Recorder
