import QmmfSdk.Library.Scan
import QmmfSdk.Recorder.Backends

/-! `FindSuitableIdForLinkedTrack`: which track of the camera's owner is chosen, and when it is the
best one. -/
namespace QmmfSdk.Recorder

open Library

/-- A track with the size of its source. -/
structure Candidate where
  id : UInt32
  width : UInt32
  height : UInt32
  deriving DecidableEq, Repr

namespace Candidate

def Exact (p : VideoTrackCreateParam) (c : Candidate) : Prop :=
  p.width = c.width ∧ p.height = c.height

def Covers (p : VideoTrackCreateParam) (c : Candidate) : Prop :=
  p.width ≤ c.width ∧ p.height ≤ c.height

/-- `c` is selected in the place of `selected`. -/
def Replaces (c selected : Candidate) : Prop :=
  (selected.width = 0 ∨ c.width < selected.width) ∨
    (selected.height = 0 ∨ c.height < selected.height)

/-- Smaller or equal in both dimensions and strictly smaller in one. -/
def Better (c d : Candidate) : Prop :=
  (c.width ≤ d.width ∧ c.height ≤ d.height) ∧ (c.width < d.width ∨ c.height < d.height)

instance (p : VideoTrackCreateParam) : DecidablePred (Exact p) := fun c => by
  unfold Exact
  infer_instance

instance (p : VideoTrackCreateParam) : DecidablePred (Covers p) := fun c => by
  unfold Covers
  infer_instance

instance : DecidableRel Replaces := fun c d => by
  unfold Replaces
  infer_instance

instance : DecidableRel Better := fun c d => by
  unfold Better
  infer_instance

end Candidate

/-- The `-1` that stands for no track. -/
def noTrack : UInt32 := 0xffffffff

/-- What the search promises of the id that it returns. -/
structure BestTrack (p : VideoTrackCreateParam) (cs : List Candidate) (id : UInt32) : Prop where
  exact : (∃ c ∈ cs, c.Exact p) → ∃ c ∈ cs, c.id = id ∧ c.Exact p
  covering : (∀ c ∈ cs, ¬ c.Exact p) → (∃ c ∈ cs, c.Covers p) →
    ∃ c ∈ cs, c.id = id ∧ c.Covers p ∧ ∀ d ∈ cs, d.Covers p → ¬ d.Better c
  none : id = noTrack ↔ ∀ c ∈ cs, ¬ c.Covers p

/-- Nothing covers the request, or what the search ends on is right: the first track of the requested
size in the last session with one, or else, in the first session with a covering track, the first such
track that no later one there replaces, and this is the best of all sessions. -/
inductive Aims (p : VideoTrackCreateParam) (sessions : List (List Candidate)) : Prop where
  | uncovered (hnone : ∀ c ∈ sessions.flatten, ¬ c.Covers p)
  | exact (before : List (List Candidate)) (session : List Candidate)
      (after : List (List Candidate)) (c : Candidate)
      (hsessions : sessions = before ++ session :: after)
      (hfirst : session.find? (Candidate.Exact p) = some c)
      (hlast : ∀ d ∈ after.flatten, ¬ d.Exact p) (hid : c.id ≠ noTrack)
  | covering (before : List (List Candidate)) (session : List Candidate)
      (after : List (List Candidate)) (c : Candidate)
      (hsessions : sessions = before ++ session :: after)
      (hexact : ∀ d ∈ sessions.flatten, ¬ d.Exact p) (hbefore : ∀ d ∈ before.flatten, ¬ d.Covers p)
      (hlasting : Scan.FirstLasting Candidate.Replaces (session.filter (Candidate.Covers p)) c)
      (hbest : ∀ d ∈ sessions.flatten, d.Covers p → ¬ d.Better c) (hid : c.id ≠ noTrack)

/-- What the second loop over a session selects. -/
def heldCovering (p : VideoTrackCreateParam) (session : List Candidate) : Option Candidate :=
  match session.filter (Candidate.Covers p) with
  | [] => none
  | c :: cs => some (Scan.hold Candidate.Replaces c cs)

/-- The first of the requested size in the last session with one. -/
def lastExact (p : VideoTrackCreateParam) : List (List Candidate) → Option Candidate
  | [] => none
  | session :: rest => (lastExact p rest).or (session.find? (Candidate.Exact p))

section Choice

variable {p : VideoTrackCreateParam} {c d : Candidate} {session : List Candidate}
  {sessions : List (List Candidate)}

theorem Candidate.Exact.covers (h : c.Exact p) : c.Covers p :=
  ⟨h.1 ▸ UInt32.le_refl _, h.2 ▸ UInt32.le_refl _⟩

/-- What replaces a track replaces each one that did not. -/
theorem Candidate.replaces_cotrans (a b c : Candidate) (h : c.Replaces a) :
    c.Replaces b ∨ b.Replaces a := by
  simp only [Replaces, UInt32.lt_iff_toNat_lt, ← UInt32.toNat_inj] at h ⊢
  omega

theorem heldCovering_eq_some : heldCovering p session = some c ↔
    Scan.FirstLasting Candidate.Replaces (session.filter (Candidate.Covers p)) c := by
  unfold heldCovering
  split
  next hfilter => simp [hfilter, Scan.FirstLasting]
  next d ds hfilter =>
    rw [hfilter, Scan.firstLasting_iff Candidate.replaces_cotrans, Option.some.injEq, eq_comm]

theorem heldCovering_eq_none : heldCovering p session = none ↔ ∀ d ∈ session, ¬ d.Covers p := by
  unfold heldCovering
  split
  next hfilter => simpa using hfilter
  next d ds hfilter =>
    have hmem : d ∈ session.filter (Candidate.Covers p) := by simp [hfilter]
    have hcovers := List.mem_filter.mp hmem
    simp only [reduceCtorEq, false_iff]
    exact fun h => h d hcovers.1 (of_decide_eq_true hcovers.2)

theorem lastExact_eq_none : lastExact p sessions = none ↔ ∀ d ∈ sessions.flatten, ¬ d.Exact p := by
  induction sessions with
  | nil => simp [lastExact]
  | cons session rest ih =>
    rw [lastExact, Option.or_eq_none_iff, ih]
    simp only [List.find?_eq_none, decide_eq_true_eq, List.flatten_cons, List.forall_mem_append]
    exact and_comm

theorem lastExact_eq_some : lastExact p sessions = some c ↔
    ∃ before session after, sessions = before ++ session :: after ∧
      session.find? (Candidate.Exact p) = some c ∧ ∀ d ∈ after.flatten, ¬ d.Exact p := by
  induction sessions with
  | nil => simp [lastExact]
  | cons session rest ih =>
    rw [lastExact, Option.or_eq_some_iff, ih, lastExact_eq_none]
    constructor
    · rintro (⟨before, last, after, rfl, hfind, hafter⟩ | ⟨hrest, hfind⟩)
      · exact ⟨session :: before, last, after, rfl, hfind, hafter⟩
      · exact ⟨[], session, rest, rfl, hfind, hrest⟩
    · rintro ⟨before, last, after, heq, hfind, hafter⟩
      cases before with
      | nil =>
        obtain ⟨rfl, rfl⟩ := List.cons.inj heq
        exact .inr ⟨hafter, hfind⟩
      | cons first before =>
        obtain ⟨rfl, rfl⟩ := List.cons.inj heq
        exact .inl ⟨before, last, after, rfl, hfind, hafter⟩

theorem firstHeld_eq_some : sessions.findSome? (heldCovering p) = some c ↔
    ∃ before session after, sessions = before ++ session :: after ∧
      (∀ d ∈ before.flatten, ¬ d.Covers p) ∧
      Scan.FirstLasting Candidate.Replaces (session.filter (Candidate.Covers p)) c := by
  rw [List.findSome?_eq_some_iff]
  simp only [heldCovering_eq_some, heldCovering_eq_none]
  constructor
  · rintro ⟨before, session, after, rfl, hlasting, hbefore⟩
    refine ⟨before, session, after, rfl, ?_, hlasting⟩
    intro d hd
    obtain ⟨ds, hds, hd⟩ := List.mem_flatten.mp hd
    exact hbefore ds hds d hd
  · rintro ⟨before, session, after, rfl, hbefore, hlasting⟩
    exact ⟨before, session, after, rfl, hlasting,
      fun ds hds d hd => hbefore d (List.mem_flatten.mpr ⟨ds, hds, hd⟩)⟩

theorem firstHeld_eq_none : sessions.findSome? (heldCovering p) = none ↔
    ∀ d ∈ sessions.flatten, ¬ d.Covers p := by
  simp only [List.findSome?_eq_none_iff, heldCovering_eq_none, List.mem_flatten]
  constructor
  · rintro h d ⟨ds, hds, hd⟩
    exact h ds hds d hd
  · exact fun h ds hds d hd => h d ⟨ds, hds, hd⟩

/-- What the search ends on. -/
def chosen (p : VideoTrackCreateParam) (sessions : List (List Candidate)) : Option Candidate :=
  (lastExact p sessions).or (sessions.findSome? (heldCovering p))

theorem mem_of_lastExact (h : lastExact p sessions = some c) : c ∈ sessions.flatten ∧ c.Exact p := by
  obtain ⟨before, session, after, rfl, hfind, -⟩ := lastExact_eq_some.mp h
  have hexact := List.find?_some hfind
  refine ⟨?_, of_decide_eq_true hexact⟩
  simp [List.mem_of_find?_eq_some hfind]

theorem mem_of_firstHeld (h : sessions.findSome? (heldCovering p) = some c) :
    c ∈ sessions.flatten ∧ c.Covers p := by
  obtain ⟨before, session, after, rfl, -, hlasting⟩ := firstHeld_eq_some.mp h
  have hmem := List.mem_filter.mp hlasting.mem
  refine ⟨?_, of_decide_eq_true hmem.2⟩
  simp [hmem.1]

theorem bestTrack_iff (hids : ∀ c ∈ sessions.flatten, ∀ d ∈ sessions.flatten, c.id = d.id → c = d) :
    BestTrack p sessions.flatten (((chosen p sessions).map (·.id)).getD noTrack) ↔
      Aims p sessions := by
  constructor
  · intro h
    cases hexact : lastExact p sessions with
    | some c =>
      obtain ⟨hmem, hc⟩ := mem_of_lastExact hexact
      simp only [chosen, hexact, Option.some_or, Option.map_some, Option.getD_some] at h
      obtain ⟨before, session, after, hsessions, hfind, hafter⟩ := lastExact_eq_some.mp hexact
      exact .exact before session after c hsessions hfind hafter
        fun hid => h.none.mp hid c hmem hc.covers
    | none =>
      have hnone := lastExact_eq_none.mp hexact
      cases hheld : sessions.findSome? (heldCovering p) with
      | none => exact .uncovered (firstHeld_eq_none.mp hheld)
      | some c =>
        obtain ⟨hmem, hc⟩ := mem_of_firstHeld hheld
        simp only [chosen, hexact, hheld, Option.none_or, Option.map_some, Option.getD_some] at h
        obtain ⟨before, session, after, hsessions, hbefore, hlasting⟩ := firstHeld_eq_some.mp hheld
        obtain ⟨d, hd, hid, -, hbest⟩ := h.covering hnone ⟨c, hmem, hc⟩
        obtain rfl := hids d hd c hmem hid
        exact .covering before session after d hsessions hnone hbefore hlasting hbest
          fun hid => h.none.mp hid d hmem hc
  · intro h
    cases h with
    | uncovered hnone =>
      have hexact : lastExact p sessions = none :=
        lastExact_eq_none.mpr fun d hd hc => hnone d hd hc.covers
      rw [chosen, hexact, firstHeld_eq_none.mpr hnone]
      exact ⟨fun ⟨c, hc, hexact⟩ => absurd hexact.covers (hnone c hc),
        fun _ ⟨c, hc, hcovers⟩ => absurd hcovers (hnone c hc), iff_of_true rfl hnone⟩
    | exact before session after c hsessions hfirst hlast hid =>
      have hexact := lastExact_eq_some.mpr ⟨before, session, after, hsessions, hfirst, hlast⟩
      obtain ⟨hmem, hc⟩ := mem_of_lastExact hexact
      rw [chosen, hexact]
      exact ⟨fun _ => ⟨c, hmem, rfl, hc⟩, fun hnone => absurd hc (hnone c hmem),
        iff_of_false hid fun hnone => hnone c hmem hc.covers⟩
    | covering before session after c hsessions hexact hbefore hlasting hbest hid =>
      have hheld := firstHeld_eq_some.mpr ⟨before, session, after, hsessions, hbefore, hlasting⟩
      obtain ⟨hmem, hc⟩ := mem_of_firstHeld hheld
      rw [chosen, lastExact_eq_none.mpr hexact, hheld]
      exact ⟨fun ⟨d, hd, hc⟩ => absurd hc (hexact d hd), fun _ _ => ⟨c, hmem, rfl, hc, hbest⟩,
        iff_of_false hid fun hnone => hnone c hmem hc⟩

end Choice

namespace RecorderImpl

def trackCandidate (m : Media) (info : TrackInfo) : Option Candidate :=
  (m.trackSize info.trackId).map fun size => ⟨info.trackId, size.1, size.2⟩

/-- The tracks of a session with their sizes. -/
def sessionCandidates (m : Media) (ts : TrackInfoMap) : List Candidate :=
  (trackInfos ts).filterMap (trackCandidate m)

/-- The sessions of the client that owns the camera. -/
def ownerSessions (r : RecorderImpl) (camera : UInt32) : List TrackInfoMap :=
  match (r.getCameraClients camera).find? fun id => r.isCameraValid id camera with
  | some id => (r.sessions id).toList.map Prod.snd
  | none => []

def linkCandidates (m : Media) (r : RecorderImpl) (camera : UInt32) : List (List Candidate) :=
  (r.ownerSessions camera).map (sessionCandidates m)

variable {m : Media} {r : RecorderImpl} {p : VideoTrackCreateParam} {info : TrackInfo}
  {infos : List TrackInfo} {c d : Candidate} {sessions : List TrackInfoMap} {camera : UInt32}

theorem exists_trackCandidate (h : (m.trackSize info.trackId).isSome) :
    ∃ c, trackCandidate m info = some c := by
  obtain ⟨size, hsize⟩ := Option.isSome_iff_exists.mp h
  exact ⟨_, congrArg (Option.map _) hsize⟩

theorem trackCandidate_eq_some (h : trackCandidate m info = some c) :
    m.trackSize info.trackId = some (c.width, c.height) ∧ c.id = info.trackId := by
  obtain ⟨size, hsize, rfl⟩ := Option.map_eq_some_iff.mp h
  exact ⟨hsize, rfl⟩

theorem findSameSize_cons (h : trackCandidate m info = some c) :
    findSameSize m p (info :: infos) =
      if c.Exact p then .ok (some c.id) else findSameSize m p infos := by
  obtain ⟨hsize, hid⟩ := trackCandidate_eq_some h
  rw [findSameSize, hsize, hid]
  rfl

/-- `d` is what the loop has selected, or has no size while nothing is selected. -/
theorem findBiggerSize_cons (h : trackCandidate m info = some c) (d : Candidate)
    (id : Option UInt32) :
    findBiggerSize m p id d.width d.height (info :: infos) =
      if c.Covers p ∧ c.Replaces d then findBiggerSize m p (some c.id) c.width c.height infos
      else findBiggerSize m p id d.width d.height infos := by
  obtain ⟨hsize, hid⟩ := trackCandidate_eq_some h
  rw [findBiggerSize, hsize, hid]
  rfl

theorem findSameSize_eq (h : ∀ info ∈ infos, (m.trackSize info.trackId).isSome) :
    findSameSize m p infos =
      .ok (((infos.filterMap (trackCandidate m)).find? (Candidate.Exact p)).map (·.id)) := by
  induction infos with
  | nil => rfl
  | cons info rest ih =>
    rw [List.forall_mem_cons] at h
    obtain ⟨c, hc⟩ := exists_trackCandidate h.1
    rw [findSameSize_cons hc, List.filterMap_cons_some hc]
    by_cases hexact : c.Exact p
    · simp only [hexact, if_true, List.find?_cons, decide_true, Option.map_some]
    · simp only [hexact, if_false, List.find?_cons, decide_false]
      exact ih h.2

/-- The second loop with a track selected. -/
theorem findBiggerSize_held (h : ∀ info ∈ infos, (m.trackSize info.trackId).isSome) :
    findBiggerSize m p (some d.id) d.width d.height infos =
      .ok (some (Scan.hold Candidate.Replaces d
        ((infos.filterMap (trackCandidate m)).filter (Candidate.Covers p))).id) := by
  induction infos generalizing d with
  | nil => rfl
  | cons info rest ih =>
    rw [List.forall_mem_cons] at h
    obtain ⟨c, hc⟩ := exists_trackCandidate h.1
    rw [findBiggerSize_cons hc, List.filterMap_cons_some hc]
    by_cases hcovers : c.Covers p
    · rw [List.filter_cons, if_pos (decide_eq_true hcovers), Scan.hold, List.foldl_cons]
      by_cases hreplaces : c.Replaces d
      · rw [if_pos ⟨hcovers, hreplaces⟩, if_pos hreplaces]
        exact ih h.2
      · rw [if_neg fun hboth => hreplaces hboth.2, if_neg hreplaces]
        exact ih h.2
    · rw [if_neg fun hboth => hcovers hboth.1, List.filter_cons, if_neg (by simpa using hcovers)]
      exact ih h.2

theorem findBiggerSize_eq (h : ∀ info ∈ infos, (m.trackSize info.trackId).isSome) :
    findBiggerSize m p none 0 0 infos =
      .ok ((heldCovering p (infos.filterMap (trackCandidate m))).map (·.id)) := by
  induction infos with
  | nil => rfl
  | cons info rest ih =>
    rw [List.forall_mem_cons] at h
    obtain ⟨c, hc⟩ := exists_trackCandidate h.1
    have hcons : findBiggerSize m p none 0 0 (info :: rest) = _ :=
      findBiggerSize_cons hc ⟨0, 0, 0⟩ none
    rw [hcons, List.filterMap_cons_some hc, heldCovering]
    by_cases hcovers : c.Covers p
    · rw [if_pos ⟨hcovers, .inl (.inl rfl)⟩, List.filter_cons, if_pos (decide_eq_true hcovers)]
      exact findBiggerSize_held h.2
    · rw [if_neg fun hboth => hcovers hboth.1, List.filter_cons, if_neg (by simpa using hcovers)]
      exact ih h.2

/-- A size match replaces what was selected before; the bigger sizes count only when nothing was. -/
theorem findInSessions_eq (selected : Option Candidate) (h : ∀ ts ∈ sessions, ∀ info ∈ trackInfos ts,
    (m.trackSize info.trackId).isSome) :
    findInSessions m p (selected.map (·.id)) sessions =
      .ok ((((lastExact p (sessions.map (sessionCandidates m))).or selected).or
        ((sessions.map (sessionCandidates m)).findSome? (heldCovering p))).map (·.id)) := by
  induction sessions generalizing selected with
  | nil => cases selected <;> rfl
  | cons ts rest ih =>
    rw [List.forall_mem_cons] at h
    have hsame : findSameSize m p (trackInfos ts) =
        .ok (((sessionCandidates m ts).find? (Candidate.Exact p)).map (·.id)) :=
      findSameSize_eq h.1
    have hbigger : findBiggerSize m p none 0 0 (trackInfos ts) =
        .ok ((heldCovering p (sessionCandidates m ts)).map (·.id)) := findBiggerSize_eq h.1
    rw [findInSessions, hsame, List.map_cons, lastExact, List.findSome?_cons]
    cases hfind : (sessionCandidates m ts).find? (Candidate.Exact p) with
    | some c =>
      have hrest := ih (some c) h.2
      change findInSessions m p (some c.id) rest = _
      refine hrest.trans ?_
      simp
    | none =>
      cases selected with
      | some d =>
        have hrest := ih (some d) h.2
        change findInSessions m p (some d.id) rest = _
        refine hrest.trans ?_
        simp
      | none =>
        have hrest := ih (heldCovering p (sessionCandidates m ts)) h.2
        change (findBiggerSize m p none 0 0 (trackInfos ts)).bind
          (fun selected => findInSessions m p selected rest) = _
        rw [hbigger]
        refine hrest.trans ?_
        cases heldCovering p (sessionCandidates m ts) <;> simp

theorem findSuitableIdForLinkedTrack_eq (h : ∀ ts ∈ r.ownerSessions p.cameraId,
    ∀ info ∈ trackInfos ts, (m.trackSize info.trackId).isSome) :
    r.findSuitableIdForLinkedTrack m p =
      .ok ((chosen p (r.linkCandidates m p.cameraId)).map (·.id)) := by
  unfold findSuitableIdForLinkedTrack linkCandidates
  unfold ownerSessions at h ⊢
  cases hfind : (r.getCameraClients p.cameraId).find? fun id => r.isCameraValid id p.cameraId with
  | some id =>
    simp only [hfind] at h ⊢
    have heq := findInSessions_eq (p := p) none h
    simpa only [chosen, Option.or_none, Option.map_none] using heq
  | none => rfl

/-- A track is looked up by its id, so one id has one size. -/
theorem candidate_of_id (hc : c ∈ (r.linkCandidates m camera).flatten)
    (hd : d ∈ (r.linkCandidates m camera).flatten) (hid : c.id = d.id) : c = d := by
  have hsize : ∀ c ∈ (r.linkCandidates m camera).flatten,
      m.trackSize c.id = some (c.width, c.height) := by
    intro c hc
    simp only [linkCandidates, List.mem_flatten, List.mem_map, sessionCandidates] at hc
    obtain ⟨_, ⟨ts, -, rfl⟩, hc⟩ := hc
    obtain ⟨info, -, hinfo⟩ := List.mem_filterMap.mp hc
    obtain ⟨hsize, hid⟩ := trackCandidate_eq_some hinfo
    rw [hid, hsize]
  have hboth := (hsize c hc).symm.trans ((congrArg m.trackSize hid).trans (hsize d hd))
  obtain ⟨cid, w, h⟩ := c
  simp_all

/-- The search keeps its promise exactly when it ends on the right track, whatever the sessions of
the camera's owner and their video tracks are. -/
theorem linkedTrack_best_iff (h : ∀ ts ∈ r.ownerSessions p.cameraId,
    ∀ info ∈ trackInfos ts, (m.trackSize info.trackId).isSome) :
    (∃ selected, r.findSuitableIdForLinkedTrack m p = .ok selected ∧
      BestTrack p (r.linkCandidates m p.cameraId).flatten (selected.getD noTrack)) ↔
      Aims p (r.linkCandidates m p.cameraId) := by
  rw [findSuitableIdForLinkedTrack_eq h, ← bestTrack_iff fun c hc d hd => candidate_of_id hc hd]
  constructor
  · rintro ⟨selected, heq, hbest⟩
    rwa [Except.ok.inj heq]
  · exact fun hbest => ⟨_, rfl, hbest⟩

/-- A client with a camera and an encoded track of each of these sizes, in a session of its own. -/
def oneTrackSessions (first second : UInt32 × UInt32) : List MediaRequest :=
  [⟨.connect .noError, {}⟩, ⟨.startCamera 1 0 false {}, {}⟩, ⟨.createSession 1, {}⟩,
    ⟨.createSession 1, {}⟩, ⟨.createVideoTrack 1 1 5 ⟨0, first.1, first.2, .avc⟩ {} {}, {}⟩,
    ⟨.createVideoTrack 1 2 6 ⟨0, second.1, second.2, .avc⟩ {} {}, {}⟩]

/-- The smaller covering track is in the first session. -/
theorem linkedTrack_best_smallFirst :
    ∃ s r, MediaService.lts.MTr {} (oneTrackSessions (1920, 1080) (3840, 2160)) s ∧
      s.recorder = some r ∧ ∃ selected,
        r.findSuitableIdForLinkedTrack (s.camera.media {}) ⟨0, 1280, 720, .avc⟩ = .ok selected ∧
        BestTrack ⟨0, 1280, 720, .avc⟩ (r.linkCandidates (s.camera.media {}) 0).flatten
          (selected.getD noTrack) := by
  have hrun : (LTS.run MediaService.next {} (oneTrackSessions (1920, 1080) (3840, 2160))).bind
      (fun s => s.recorder.map fun r =>
        (decide (∀ ts ∈ r.ownerSessions 0, ∀ info ∈ trackInfos ts,
          ((s.camera.media {}).trackSize info.trackId).isSome),
        r.linkCandidates (s.camera.media {}) 0)) =
        some (true, [[⟨0x01010005, 1920, 1080⟩], [⟨0x01020006, 3840, 2160⟩]]) := by decide
  obtain ⟨s, hs, hr⟩ := Option.bind_eq_some_iff.mp hrun
  obtain ⟨r, hr, heq⟩ := Option.map_eq_some_iff.mp hr
  obtain ⟨hsources, hcandidates⟩ := Prod.mk.inj heq
  refine ⟨s, r, LTS.mTr_ofStep_iff.mpr hs, hr,
    (linkedTrack_best_iff (p := ⟨0, 1280, 720, .avc⟩) (of_decide_eq_true hsources)).mpr ?_⟩
  refine .covering [] _ _ ⟨0x01010005, 1920, 1080⟩ hcandidates ?_ nofun (.inr ⟨nofun, rfl⟩) ?_
    (by decide)
  · rw [hcandidates]
    decide
  · rw [hcandidates]
    decide

/-- The track of the first session covers the request, but that of the second is smaller. -/
theorem linkedTrack_not_smallest :
    ¬ ∀ (as : List MediaRequest) (s : MediaService) (r : RecorderImpl) (p : VideoTrackCreateParam),
      MediaService.lts.MTr {} as s → s.recorder = some r →
      ∃ selected, r.findSuitableIdForLinkedTrack (s.camera.media {}) p = .ok selected ∧
        BestTrack p (r.linkCandidates (s.camera.media {}) p.cameraId).flatten
          (selected.getD noTrack) := by
  intro hall
  have hrun : (LTS.run MediaService.next {} (oneTrackSessions (3840, 2160) (1920, 1080))).bind
      (fun s => s.recorder.map fun r =>
        (r.findSuitableIdForLinkedTrack (s.camera.media {}) ⟨0, 1280, 720, .avc⟩,
        r.linkCandidates (s.camera.media {}) 0)) =
        some (.ok (some 0x01010005),
          [[⟨0x01010005, 3840, 2160⟩], [⟨0x01020006, 1920, 1080⟩]]) := by decide
  obtain ⟨s, hs, hr⟩ := Option.bind_eq_some_iff.mp hrun
  obtain ⟨r, hr, heq⟩ := Option.map_eq_some_iff.mp hr
  obtain ⟨hselected, hcandidates⟩ := Prod.mk.inj heq
  obtain ⟨selected, hfound, hbest⟩ := hall _ s r ⟨0, 1280, 720, .avc⟩
    (LTS.mTr_ofStep_iff.mpr hs) hr
  obtain rfl := Except.ok.inj (hselected.symm.trans hfound)
  rw [hcandidates] at hbest
  exact absurd (hbest.covering (by decide) (by decide)) (by decide)

end RecorderImpl

end QmmfSdk.Recorder
