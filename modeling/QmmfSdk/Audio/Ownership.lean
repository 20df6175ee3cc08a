import Mathlib.Data.List.Nodup
import QmmfSdk.Audio.RawTrackSource

/-! Who owns a PCM buffer: each is in one queue or with the client while every start finds all of them
back. -/
namespace QmmfSdk.Audio.AudioRawTrackSource

open Library
open Binder (BnBuffer)

variable {s t : AudioRawTrackSource} {usec : UInt32 → UInt64} {a : Action} {as : List Action}
  {c : Call} {bn : BnBuffer} {fd : Int32}

def bnFd (bn : BnBuffer) : Int32 := bn.bufferId.toInt32

/-- The queues towards the client. -/
def filled (s : AudioRawTrackSource) : List BufferDescriptor :=
  s.buffers ++ s.messages.flatMap SourceMessage.filled

/-- The queue of returned buffers, and the messages to it. -/
def returned (s : AudioRawTrackSource) : List BnBuffer :=
  s.bnBuffers ++ s.messages.flatMap SourceMessage.returned

/-- What the pulse client, the queues towards the client, the client and the queue of returned buffers
have. -/
def places (s : AudioRawTrackSource) : List (List Int32) :=
  [s.pulse.held.map BufferDescriptor.fd, s.filled.map BufferDescriptor.fd, s.hands.map bnFd,
    s.returned.map bnFd]

/-- No buffer is in two places. -/
def OneOwner (s : AudioRawTrackSource) : Prop := s.places.Pairwise List.Disjoint

def owned (s : AudioRawTrackSource) : List Int32 := s.places.flatten

theorem count_owned (s : AudioRawTrackSource) (fd : Int32) : s.owned.count fd =
    (s.pulse.held.map BufferDescriptor.fd).count fd + (s.filled.map BufferDescriptor.fd).count fd +
      (s.hands.map bnFd).count fd + (s.returned.map bnFd).count fd := by
  simp only [owned, places, List.flatten_cons, List.flatten_nil, List.append_nil, List.count_append]
  omega

theorem OneOwner.of_nodup (h : s.owned.Nodup) : s.OneOwner := (List.nodup_flatten.mp h).2

/-- The client has given everything back, and nothing that came back is waiting. -/
def AllReturned (s : AudioRawTrackSource) : Prop := s.hands = [] ∧ s.returned = []

/-- The thread sends the initial list only when nothing is outside. -/
def Recovered (s : AudioRawTrackSource) (a : Action) : Prop :=
  a = .thread → s.phase = .initial → s.AllReturned

instance : Decidable (Recovered s a) := by
  unfold Recovered AllReturned
  infer_instance

/-- Nothing new is anywhere. -/
structure Keeps (s t : AudioRawTrackSource) : Prop where
  ion : t.ion = s.ion
  owned : ∀ fd, t.owned.count fd ≤ s.owned.count fd

theorem held_send (p : PulseClient) (m : AudioMessage) : (p.send m).held = p.held ++ m.sent := by
  simp [PulseClient.held, PulseClient.send]

@[simp]
theorem phase_send (p : PulseClient) (m : AudioMessage) : (p.send m).phase = p.phase := rfl

theorem keeps_begin (ht : s.begin c = some t) : Keeps s t := by
  cases c with
  | startTrack adjust =>
    simp only [begin] at ht
    split_ifs at ht
    obtain rfl := Option.some.inj ht
    refine ⟨rfl, fun fd => ?_⟩
    simp [count_owned, filled, returned, PulseClient.start, PulseClient.held]
  | stopTrack =>
    simp only [begin] at ht
    split_ifs at ht
    obtain rfl := Option.some.inj ht
    refine ⟨rfl, fun fd => ?_⟩
    simp [count_owned, filled, returned, push, SourceMessage.filled, SourceMessage.returned]
  | pauseTrack =>
    simp only [begin] at ht
    split at ht
    · obtain rfl := Option.some.inj ht
      refine ⟨rfl, fun fd => ?_⟩
      simp [count_owned, filled, returned, push, SourceMessage.filled, SourceMessage.returned]
    · cases ht
  | resumeTrack =>
    simp only [begin] at ht
    split at ht
    · obtain rfl := Option.some.inj ht
      refine ⟨rfl, fun fd => ?_⟩
      simp [count_owned, filled, returned, held_send, AudioMessage.sent]
    · cases ht

/-- A flush and the end of a thread let go of what was there. -/
theorem keeps_goOn (ht : s.goOn = some t) : Keeps s t := by
  unfold goOn at ht
  split at ht
  · cases ht
  · obtain rfl := Option.some.inj ht
    refine ⟨rfl, fun fd => ?_⟩
    simp [count_owned, filled, returned]
    omega
  · obtain rfl := Option.some.inj ht
    refine ⟨rfl, fun fd => ?_⟩
    simp [count_owned, filled, returned, held_send, AudioMessage.sent]
  · obtain rfl := Option.some.inj ht
    refine ⟨rfl, fun fd => ?_⟩
    simp [count_owned, filled, returned, push, SourceMessage.filled, SourceMessage.returned]
  · obtain rfl := Option.some.inj ht
    refine ⟨rfl, fun fd => ?_⟩
    simp [count_owned, filled, returned, held_send, AudioMessage.sent]
  · split_ifs at ht
    obtain rfl := Option.some.inj ht
    refine ⟨rfl, fun fd => ?_⟩
    simp [count_owned, filled, returned, PulseClient.held]
  · split_ifs at ht
    obtain rfl := Option.some.inj ht
    refine ⟨rfl, fun fd => ?_⟩
    simp [count_owned, filled, returned]
    omega

theorem keeps_takeMessage (ht : s.takeMessage = some t) : Keeps s t := by
  unfold takeMessage at ht
  cases hm : s.messages with
  | nil =>
    simp only [hm] at ht
    split_ifs at ht
    obtain rfl := Option.some.inj ht
    exact ⟨rfl, fun fd => by simp [count_owned, filled, returned, hm]⟩
  | cons m ms =>
    simp only [hm] at ht
    obtain rfl := Option.some.inj ht
    cases m with
    | stop | pause | resume =>
      refine ⟨rfl, fun fd => ?_⟩
      simp [count_owned, filled, returned, hm, handle, SourceMessage.filled, SourceMessage.returned]
    | buffer b =>
      refine ⟨rfl, fun fd => ?_⟩
      simp [count_owned, filled, returned, hm, handle, SourceMessage.filled, SourceMessage.returned]
    | bnBuffer bn =>
      refine ⟨rfl, fun fd => ?_⟩
      simp [count_owned, filled, returned, hm, handle, SourceMessage.filled, SourceMessage.returned]

theorem bnFd_export {ion : RecorderIon} {b : BufferDescriptor} (h : ion.export b = some bn) :
    bnFd bn = b.fd := by
  unfold RecorderIon.export at h
  split_ifs at h
  obtain rfl := Option.some.inj h
  simp [bnFd]

theorem fd_import {ion : RecorderIon} {b : BufferDescriptor} (h : ion.import bn = some b) :
    b.fd = bnFd bn := by
  unfold RecorderIon.import at h
  split_ifs at h
  obtain rfl := Option.some.inj h
  rfl

theorem keeps_processBuffers (ht : s.processBuffers = some t) : Keeps s t := by
  unfold processBuffers at ht
  cases hb : s.buffers with
  | nil =>
    simp only [hb] at ht
    obtain rfl := Option.some.inj ht
    exact ⟨rfl, fun fd => by simp [count_owned, filled, returned, hb]⟩
  | cons b rest =>
    simp only [hb] at ht
    split_ifs at ht
    · obtain rfl := Option.some.inj ht
      exact ⟨rfl, fun fd => by simp [count_owned, filled, returned, hb]⟩
    · obtain ⟨bn, hbn, rfl⟩ := Option.map_eq_some_iff.mp ht
      refine ⟨rfl, fun fd => ?_⟩
      simp [count_owned, filled, returned, hb, List.count_cons, bnFd_export hbn]
      omega

theorem keeps_processBnBuffers (ht : s.processBnBuffers = some t) : Keeps s t := by
  unfold processBnBuffers at ht
  cases hb : s.bnBuffers with
  | nil =>
    simp only [hb] at ht
    obtain rfl := Option.some.inj ht
    exact ⟨rfl, fun fd => by simp [count_owned, filled, returned, hb]⟩
  | cons bn rest =>
    simp only [hb] at ht
    split_ifs at ht
    · obtain rfl := Option.some.inj ht
      exact ⟨rfl, fun fd => by simp [count_owned, filled, returned, hb]⟩
    · obtain rfl := Option.some.inj ht
      refine ⟨rfl, fun fd => ?_⟩
      simp [count_owned, filled, returned]
      omega
    · obtain ⟨b, hbn, rfl⟩ := Option.map_eq_some_iff.mp ht
      refine ⟨rfl, fun fd => ?_⟩
      simp [count_owned, filled, returned, hb, held_send, AudioMessage.sent, List.count_cons, fd_import hbn]
      omega

theorem keeps_threadStep (hp : s.phase ≠ .initial) (ht : s.threadStep = some t) : Keeps s t := by
  unfold threadStep at ht
  cases hphase : s.phase with
  | initial => exact absurd hphase hp
  | message =>
    rw [hphase] at ht
    exact keeps_takeMessage ht
  | buffers =>
    rw [hphase] at ht
    exact keeps_processBuffers ht
  | bnBuffers =>
    rw [hphase] at ht
    exact keeps_processBnBuffers ht
  | ended =>
    rw [hphase] at ht
    cases ht

theorem keeps_returnTrackBuffer (ht : s.returnTrackBuffer bn = some t) : Keeps s t := by
  unfold returnTrackBuffer at ht
  split_ifs at ht with hbn
  obtain rfl := Option.some.inj ht
  refine ⟨rfl, fun fd => ?_⟩
  have hperm := ((List.perm_cons_erase hbn).map bnFd).count_eq fd
  simp [count_owned, filled, returned, push, SourceMessage.filled, SourceMessage.returned,
    List.count_cons] at hperm ⊢
  omega

/-- What the pulse client gives back is passed on as a message. -/
theorem pulseStep_cases {a : PulseClient.Action} (ht : s.pulseStep usec a = some t) :
    ∃ p, s.pulse.step usec a = some p ∧ a.posted = [] ∧
      t = { s with
        pulse := p
        messages := s.messages ++ (p.notified.drop s.pulse.notified.length).map .buffer } := by
  unfold pulseStep at ht
  split at ht
  · cases ht
  next hpost =>
    obtain ⟨p, hp, ht⟩ := Option.bind_eq_some_iff.mp ht
    split_ifs at ht
    refine ⟨p, hp, ?_, (Option.some.inj ht).symm⟩
    cases a with
    | post m => exact absurd rfl (hpost m)
    | arrive | next | streamDied | peek | copy | deliver => rfl

theorem keeps_pulseStep {a : PulseClient.Action} (ht : s.pulseStep usec a = some t) : Keeps s t := by
  obtain ⟨p, hp, hposted, rfl⟩ := pulseStep_cases ht
  refine ⟨rfl, fun fd => ?_⟩
  obtain ⟨hk, hheld⟩ | ⟨boottime, b, rest, -, -, -, hb, rfl⟩ := (PulseClient.step_cases hp).2
  · have hfds : p.held.map BufferDescriptor.fd = s.pulse.held.map BufferDescriptor.fd := by
      rw [hposted, List.append_nil] at hheld
      have hfst := congrArg (List.map Prod.fst) hheld
      rw [List.map_map, List.map_map] at hfst
      exact hfst
    simp [count_owned, filled, returned, hk.notified, hfds]
  · obtain ⟨hnotified, hrest⟩ := PulseClient.deliver_frame s.pulse usec boottime b rest
    have hheld : s.pulse.held = b :: (rest ++ s.pulse.messages.flatMap AudioMessage.sent) := by
      simp [PulseClient.held, hb]
    simp [count_owned, filled, returned, hnotified, hrest, hheld, List.count_cons,
      PulseClient.stamped, SourceMessage.filled, SourceMessage.returned]
    omega

/-- Where the initial list is sent, the pulse client has nothing and has nothing given back. -/
structure Control (s : AudioRawTrackSource) : Prop where
  thread : ¬ s.caller.HasThread → s.phase = .ended
  fresh : s.caller = .starting ∨ s.phase = .initial → s.pulse.held = [] ∧ s.pulse.phase = .top
  unfilled : s.phase = .initial → s.filled = []

theorem control_init (ion : RecorderIon) : ({ ion } : AudioRawTrackSource).Control where
  thread _ := rfl
  fresh h := by simp at h
  unfilled h := by cases h

theorem control_begin (h : s.Control) (ht : s.begin c = some t) : t.Control := by
  cases c with
  | startTrack adjust =>
    simp only [begin] at ht
    split_ifs at ht with hcaller
    obtain rfl := Option.some.inj ht
    have hended : s.phase = .ended := h.thread (by simp [hcaller, Caller.HasThread])
    exact ⟨fun _ => hended, fun _ => ⟨rfl, rfl⟩, h.unfilled⟩
  | stopTrack =>
    simp only [begin] at ht
    split_ifs at ht
    obtain rfl := Option.some.inj ht
    refine ⟨fun hnone => absurd trivial hnone, fun hor => h.fresh (.inr ?_), fun hp => ?_⟩
    · exact hor.resolve_left nofun
    · simpa [filled, push, SourceMessage.filled] using h.unfilled hp
  | pauseTrack =>
    simp only [begin] at ht
    split at ht
    next started hcaller =>
      obtain rfl := Option.some.inj ht
      refine ⟨fun hnone => h.thread ?_, fun hor => h.fresh (.inr ?_), fun hp => ?_⟩
      · rw [hcaller]
        exact hnone
      · exact hor.resolve_left nofun
      · simpa [filled, push, SourceMessage.filled] using h.unfilled hp
    next => cases ht
  | resumeTrack =>
    simp only [begin] at ht
    split at ht
    next started hcaller =>
      obtain rfl := Option.some.inj ht
      refine ⟨fun hnone => h.thread ?_, fun hor => ?_, h.unfilled⟩
      · rw [hcaller]
        exact hnone
      · have hfresh := h.fresh (.inr (hor.resolve_left nofun))
        simpa [held_send, AudioMessage.sent] using hfresh
    next => cases ht

theorem control_goOn (h : s.Control) (ht : s.goOn = some t) : t.Control := by
  unfold goOn at ht
  split at ht
  next => cases ht
  next hcaller =>
    obtain rfl := Option.some.inj ht
    exact ⟨fun hnone => absurd rfl hnone, fun _ => h.fresh (.inl hcaller), fun _ => rfl⟩
  next started hcaller =>
    obtain rfl := Option.some.inj ht
    refine ⟨fun hnone => h.thread ?_, fun hor => ?_, h.unfilled⟩
    · rw [hcaller]
      exact hnone
    · have hfresh := h.fresh (.inr (hor.resolve_left (by simp)))
      simpa [held_send, AudioMessage.sent] using hfresh
  next started hcaller =>
    obtain rfl := Option.some.inj ht
    refine ⟨fun hnone => h.thread ?_, fun hor => h.fresh (.inr ?_), fun hp => ?_⟩
    · rw [hcaller]
      exact hnone
    · exact hor.resolve_left (by simp)
    · simpa [filled, push, SourceMessage.filled] using h.unfilled hp
  next hcaller =>
    obtain rfl := Option.some.inj ht
    refine ⟨fun hnone => absurd trivial hnone, fun hor => ?_, h.unfilled⟩
    have hfresh := h.fresh (.inr (hor.resolve_left (by simp)))
    simpa [held_send, AudioMessage.sent] using hfresh
  next hcaller =>
    split_ifs at ht with hended
    obtain rfl := Option.some.inj ht
    refine ⟨fun hnone => absurd trivial hnone, fun hor => ?_, h.unfilled⟩
    -- The pulse client ends its thread with a buffer, and it has none before the initial list.
    have hfresh := h.fresh (.inr (hor.resolve_left (by simp)))
    rw [hended] at hfresh
    cases hfresh.2
  next hcaller =>
    split_ifs at ht with hended
    obtain rfl := Option.some.inj ht
    refine ⟨fun _ => hended, fun hor => ?_, fun hp => ?_⟩
    · rw [hended] at hor
      simp at hor
    · rw [hended] at hp
      cases hp

/-- The thread leaves its first phase for good. -/
theorem threadStep_phase (ht : s.threadStep = some t) :
    s.phase ≠ .ended ∧ t.phase ≠ .initial ∧ t.caller = s.caller := by
  unfold threadStep at ht
  cases hphase : s.phase with
  | initial =>
    rw [hphase] at ht
    obtain rfl := Option.some.inj ht
    exact ⟨nofun, nofun, rfl⟩
  | message =>
    simp only [hphase, takeMessage] at ht
    split at ht
    · split_ifs at ht
      obtain rfl := Option.some.inj ht
      exact ⟨nofun, nofun, rfl⟩
    next m ms _ =>
      obtain rfl := Option.some.inj ht
      refine ⟨nofun, nofun, ?_⟩
      cases m <;> rfl
  | buffers =>
    simp only [hphase, processBuffers] at ht
    split at ht
    · obtain rfl := Option.some.inj ht
      exact ⟨nofun, nofun, rfl⟩
    · split_ifs at ht
      · obtain rfl := Option.some.inj ht
        exact ⟨nofun, nofun, rfl⟩
      · obtain ⟨bn, -, rfl⟩ := Option.map_eq_some_iff.mp ht
        exact ⟨nofun, nofun, rfl⟩
  | bnBuffers =>
    simp only [hphase, processBnBuffers] at ht
    split at ht
    · obtain rfl := Option.some.inj ht
      exact ⟨nofun, nofun, rfl⟩
    · split_ifs at ht
      · obtain rfl := Option.some.inj ht
        exact ⟨nofun, nofun, rfl⟩
      · obtain rfl := Option.some.inj ht
        exact ⟨nofun, nofun, rfl⟩
      · obtain ⟨b, -, rfl⟩ := Option.map_eq_some_iff.mp ht
        exact ⟨nofun, nofun, rfl⟩
  | ended =>
    rw [hphase] at ht
    cases ht

theorem control_threadStep (h : s.Control) (ht : s.threadStep = some t) : t.Control := by
  obtain ⟨hrunning, hlater, hcaller⟩ := threadStep_phase ht
  refine ⟨fun hnone => ?_, fun hor => ?_, fun hp => absurd hp hlater⟩
  · rw [hcaller] at hnone
    exact absurd (h.thread hnone) hrunning
  · have hstarting := hor.resolve_right hlater
    rw [hcaller] at hstarting
    exact absurd (h.thread (by simp [hstarting, Caller.HasThread])) hrunning

/-- Without a buffer the thread of the pulse client stays at the head of its loop. -/
theorem fresh_step {p q : PulseClient} {a : PulseClient.Action} (hheld : p.held = [])
    (hphase : p.phase = .top) (hposted : a.posted = []) (hq : p.step usec a = some q) :
    q.held = [] ∧ q.phase = .top ∧ q.notified = p.notified := by
  have hbuffers : p.buffers = [] := (List.append_eq_nil_iff.mp hheld).1
  obtain ⟨hk, hq'⟩ | ⟨boottime, b, rest, -, -, -, hb, -⟩ := (PulseClient.step_cases hq).2
  · rw [hheld, hposted] at hq'
    refine ⟨List.map_eq_nil_iff.mp hq', ?_, hk.notified⟩
    cases a with
    | post m =>
      obtain rfl := Option.some.inj hq
      exact hphase
    | arrive f =>
      obtain rfl := Option.some.inj hq
      exact hphase
    | next =>
      simp only [PulseClient.step, hphase, if_true, PulseClient.next] at hq
      cases hm : p.messages with
      | nil => simp [hm, hbuffers] at hq
      | cons m ms =>
        simp only [hm] at hq
        obtain rfl := Option.some.inj hq
        have hsent : m.sent = [] := by
          simp only [PulseClient.held, hbuffers, hm, List.nil_append, List.flatMap_cons] at hheld
          exact (List.append_eq_nil_iff.mp hheld).1
        cases m with
        | stop | pause | resume => simp [PulseClient.handle, PulseClient.look, hbuffers]
        | buffer bs =>
          obtain rfl : bs = [] := hsent
          simp [PulseClient.handle, PulseClient.look, hbuffers]
    | streamDied | peek => simp [PulseClient.step, hphase] at hq
    | copy dropped =>
      simp only [PulseClient.step, hphase] at hq
      split at hq <;> simp at hq
    | deliver boottime => simp [PulseClient.step, hbuffers] at hq
  · rw [hbuffers] at hb
    cases hb

theorem control_pulseStep {a : PulseClient.Action} (h : s.Control) (ht : s.pulseStep usec a = some t) :
    t.Control := by
  obtain ⟨p, hp, hposted, rfl⟩ := pulseStep_cases ht
  refine ⟨h.thread, fun hor => ?_, fun hinitial => ?_⟩
  · obtain ⟨hheld, hphase⟩ := h.fresh hor
    obtain ⟨hheld', hphase', -⟩ := fresh_step hheld hphase hposted hp
    exact ⟨hheld', hphase'⟩
  · obtain ⟨hheld, hphase⟩ := h.fresh (.inr hinitial)
    obtain ⟨-, -, hnotified⟩ := fresh_step hheld hphase hposted hp
    have hunfilled := h.unfilled hinitial
    simpa [filled, hnotified] using hunfilled

theorem control_returnTrackBuffer (h : s.Control) (ht : s.returnTrackBuffer bn = some t) :
    t.Control := by
  unfold returnTrackBuffer at ht
  split_ifs at ht
  obtain rfl := Option.some.inj ht
  refine ⟨h.thread, h.fresh, fun hinitial => ?_⟩
  simpa [filled, push, SourceMessage.filled] using h.unfilled hinitial

theorem control_step (h : s.Control) (ht : s.step usec a = some t) : t.Control := by
  cases a with
  | call c => exact control_begin h ht
  | goOn => exact control_goOn h ht
  | thread => exact control_threadStep h ht
  | pulse a => exact control_pulseStep h ht
  | returnTrackBuffer bn => exact control_returnTrackBuffer h ht

/-- Every step but the first of the thread moves buffers on or lets go of them. -/
theorem keeps_step (ha : ¬ (a = .thread ∧ s.phase = .initial)) (ht : s.step usec a = some t) :
    Keeps s t := by
  cases a with
  | call c => exact keeps_begin ht
  | goOn => exact keeps_goOn ht
  | thread => exact keeps_threadStep (fun hinitial => ha ⟨rfl, hinitial⟩) ht
  | pulse a => exact keeps_pulseStep ht
  | returnTrackBuffer bn => exact keeps_returnTrackBuffer ht

theorem RecorderIon.map_fd_getList (ion : RecorderIon) :
    ion.getList.map BufferDescriptor.fd = ion.fds := by
  simp [RecorderIon.getList, Function.comp_def]

/-- The first step of the thread gives the pulse client every buffer that is allocated. -/
theorem threadStep_initial (h : s.Control) (hp : s.phase = .initial) (ht : s.threadStep = some t) :
    t.ion = s.ion ∧ t.places = [s.ion.fds, [], s.hands.map bnFd, s.returned.map bnFd] := by
  unfold threadStep at ht
  rw [hp] at ht
  obtain rfl := Option.some.inj ht
  have hheld := (h.fresh (.inr hp)).1
  have hfilled : s.filled = [] := h.unfilled hp
  refine ⟨rfl, ?_⟩
  simp only [places, held_send, hheld, AudioMessage.sent, List.nil_append,
    RecorderIon.map_fd_getList]
  exact congrArg (fun l => [s.ion.fds, l.map BufferDescriptor.fd, _, _]) hfilled

/-- Each buffer is somewhere once, and all are among those that are allocated. -/
structure Sound (s : AudioRawTrackSource) : Prop extends Control s where
  nodup : s.owned.Nodup
  allocated : ∀ fd ∈ s.owned, fd ∈ s.ion.fds

theorem sound_init (ion : RecorderIon) : ({ ion } : AudioRawTrackSource).Sound where
  toControl := control_init ion
  nodup := List.nodup_nil
  allocated _ h := by cases h

theorem sound_keeps (h : s.Sound) (hc : t.Control) (hk : Keeps s t) : t.Sound where
  toControl := hc
  nodup := List.nodup_iff_count_le_one.mpr fun fd =>
    Nat.le_trans (hk.owned fd) (List.nodup_iff_count_le_one.mp h.nodup fd)
  allocated fd hfd := by
    rw [hk.ion]
    refine h.allocated fd (List.count_pos_iff.mp ?_)
    exact Nat.lt_of_lt_of_le (List.count_pos_iff.mpr hfd) (hk.owned fd)

theorem sound_step (h : s.Sound) (ht : s.step usec a = some t) (ha : Recovered s a) : t.Sound := by
  have hc := control_step h.toControl ht
  by_cases hinitial : a = .thread ∧ s.phase = .initial
  · obtain ⟨rfl, hp⟩ := hinitial
    obtain ⟨hhands, hreturned⟩ := ha rfl hp
    obtain ⟨hion, hplaces⟩ := threadStep_initial h.toControl hp ht
    have howned : t.owned = t.ion.fds := by
      simp [owned, hplaces, hhands, hreturned, hion]
    refine ⟨hc, ?_, fun fd hfd => howned ▸ hfd⟩
    rw [howned]
    exact t.ion.ascending.imp fun hlt heq => by simp [heq] at hlt
  · exact sound_keeps h hc (keeps_step hinitial ht)

/-- What is outside when the list is sent is there a second time. -/
theorem recovered_of_oneOwner (h : s.Sound) (ht : s.step usec a = some t) (hone : t.OneOwner) :
    Recovered s a := by
  rintro rfl hp
  obtain ⟨-, hplaces⟩ := threadStep_initial h.toControl hp ht
  unfold OneOwner at hone
  rw [hplaces] at hone
  have hdisj := (List.pairwise_cons.mp hone).1
  have hnil {bns : List BnBuffer} (howned : ∀ fd ∈ bns.map bnFd, fd ∈ s.owned)
      (hbns : List.Disjoint s.ion.fds (bns.map bnFd)) : bns = [] :=
    List.eq_nil_iff_forall_not_mem.mpr fun bn hbn =>
      have hfd : bnFd bn ∈ bns.map bnFd := List.mem_map_of_mem hbn
      hbns (h.allocated _ (howned _ hfd)) hfd
  refine ⟨hnil (fun fd hfd => ?_) (hdisj _ (by simp)), hnil (fun fd hfd => ?_) (hdisj _ (by simp))⟩
  · exact List.mem_flatten.mpr ⟨_, by simp [places], hfd⟩
  · exact List.mem_flatten.mpr ⟨_, by simp [places], hfd⟩

/-- In every run of calls, threads and returns each buffer has one owner throughout if and only if every
start of the thread finds all buffers returned. -/
theorem oneOwner_iff (ion : RecorderIon) (hrun : LTS.run (step usec) { ion } as = some t) :
    (∀ bs cs u, as = bs ++ cs → LTS.run (step usec) { ion } bs = some u → u.OneOwner) ↔
      LTS.Meets (step usec) Recovered { ion } as :=
  LTS.forall_prefix_iff_meets_of (fun _ h => .of_nodup h.nodup)
    (fun _ _ _ h ht hG => sound_step h ht hG) (fun _ _ _ h ht hone => recovered_of_oneOwner h ht hone)
    (sound_init ion) hrun

/-- Two buffers of one byte. -/
def twoIonBuffers : RecorderIon := ⟨[1, 2], 1, by decide⟩

/-- One of the two buffers as it comes to the client. -/
def bnOf (fd : Int32) (flag : UInt32) : BnBuffer where
  ionFd := fd
  ionMetaFd := -1
  size := 1
  timestamp := 0 - 25000
  width := -1
  height := -1
  bufferId := fd.toUInt32
  flag := flag
  capacity := 1

/-- A track is started and filled its first buffer, is stopped and fills the second; both come to the
client. -/
def firstTrack : List Action :=
  [.call (.startTrack 0), .goOn, .thread, .pulse (.arrive (.data [7, 8])), .pulse .next,
    .pulse (.peek true true), .pulse (.copy true), .pulse (.deliver 0), .call .stopTrack, .goOn,
    .pulse .next, .pulse (.copy true), .pulse (.deliver 0), .thread, .thread, .thread, .thread, .thread,
    .thread, .thread, .thread, .thread]

/-- The client returns these buffers, the stop comes to its end, and the track is started again. -/
def returnAndRestart (bns : List BnBuffer) : List Action :=
  bns.map .returnTrackBuffer ++ [.goOn] ++ bns.flatMap (fun _ => [.thread, .thread, .thread]) ++
    [.goOn, .call (.startTrack 0), .goOn, .thread]


/-- A client that returns the buffer with the EOS flag and keeps the other one still has it when the next
start gives it to the pulse client. -/
theorem restart_sends_kept_buffer : ∃ t, LTS.run (step fun _ => 0) { ion := twoIonBuffers }
    (firstTrack ++ returnAndRestart [bnOf 2 kFlagEOS]) = some t ∧ ¬ t.OneOwner := by
  have hplaces : (LTS.run (step fun _ => 0) { ion := twoIonBuffers }
      (firstTrack ++ returnAndRestart [bnOf 2 kFlagEOS])).map places = some [[1, 2], [], [1], []] := by
    decide
  obtain ⟨t, ht, hmap⟩ := Option.map_eq_some_iff.mp hplaces
  refine ⟨t, ht, fun hone => ?_⟩
  unfold OneOwner at hone
  rw [hmap] at hone
  have hdisj : List.Disjoint [(1 : Int32), 2] [1] := (List.pairwise_cons.mp hone).1 _ (by simp)
  exact hdisj (List.mem_cons_self ..) (List.mem_cons_self ..)

theorem oneOwner_all_returned : ∃ t, LTS.run (step fun _ => 0) { ion := twoIonBuffers }
    (firstTrack ++ returnAndRestart [bnOf 1 0, bnOf 2 kFlagEOS]) = some t ∧
      ∀ bs cs u, firstTrack ++ returnAndRestart [bnOf 1 0, bnOf 2 kFlagEOS] = bs ++ cs →
        LTS.run (step fun _ => 0) { ion := twoIonBuffers } bs = some u → u.OneOwner := by
  have hsome : (LTS.run (step fun _ => 0) { ion := twoIonBuffers }
      (firstTrack ++ returnAndRestart [bnOf 1 0, bnOf 2 kFlagEOS])).isSome := by decide
  obtain ⟨t, ht⟩ := Option.isSome_iff_exists.mp hsome
  exact ⟨t, ht, (oneOwner_iff twoIonBuffers ht).mpr (by decide)⟩

end QmmfSdk.Audio.AudioRawTrackSource
