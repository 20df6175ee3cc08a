import QmmfSdk.Jpeg.ParseThumb

/-! When `ParseThumb` stays inside the picture, and reports planes that lie in it in order. -/
namespace QmmfSdk.Jpeg.Blob

open Library

variable {b : Blob} {s t : Parse} {w e : UInt32} {r : Result} {next : Parse ⊕ Result}
  {p : PlaneInfo} {planes thumbs : List PlaneInfo}

def Inside (b : Blob) (p : PlaneInfo) : Prop := p.offset.toNat + p.size.toNat ≤ b.size.toNat

def Before (p q : PlaneInfo) : Prop := p.offset.toNat + p.size.toNat ≤ q.offset.toNat

/-- All planes lie in the picture, each thumbnail behind the one before, the main image last. -/
def WellPlaced (b : Blob) : List PlaneInfo → Prop
  | [] => False
  | main :: thumbs => (∀ p ∈ main :: thumbs, b.Inside p) ∧ (thumbs ++ [main]).Pairwise Before

def Safe (b : Blob) : Prop :=
  ∃ r, Ends b.parseTurn b.init r ∧ ∀ planes, r = .noError planes → b.WellPlaced planes

/-- The scan finds the piece of `w` bytes at `s.i`. -/
def PieceAt (b : Blob) (s : Parse) (w : UInt32) : Prop :=
  Visits b.parseTurn b.init s ∧ s.phase = .pieces w

def ReadsGuarded (b : Blob) : Prop := b.Scannable ∧
  ∀ s w, b.PieceAt s w → s.planes.length ≠ MAX_PLANE → b.PieceGuard (s.i + w)

/-- No piece ends before it begins. -/
def Forward (b : Blob) : Prop := ∀ s w, b.PieceAt s w → s.i.toNat + w.toNat < 2 ^ 32

/-- There is a piece too many, or one that neither ends a thumbnail nor is followed by another. -/
def Refused (b : Blob) : Prop := ∃ s w, b.PieceAt s w ∧ (s.planes.length = MAX_PLANE ∨
  ¬ b.EndsBefore (s.i + w) ∧ ¬ b.ContinuesAt (s.i + w))

/-! ### Reads -/

/-- What a turn does that stays inside. -/
def TurnStep (b : Blob) (s : Parse) (next : Parse ⊕ Result) : Prop :=
  match s.phase with
  | .markers => MarkerStep b s next
  | .pieces w => PieceStep b s w next

theorem ReadsGuarded.step (h : b.ReadsGuarded) (hs : Visits b.parseTurn b.init s) :
    ∃ next, b.parseTurn s = some next ∧ TurnStep b s next := by
  cases hphase : s.phase with
  | markers =>
    obtain ⟨next, hturn, hstep⟩ := markerTurn_step (s := s) h.1
    refine ⟨next, (parseTurn_markers hphase).trans hturn, ?_⟩
    rw [TurnStep, hphase]
    exact hstep
  | pieces w =>
    obtain ⟨next, hturn, hstep⟩ := pieceTurn_step (h.2 s w ⟨hs, hphase⟩)
    refine ⟨next, (parseTurn_pieces hphase).trans hturn, ?_⟩
    rw [TurnStep, hphase]
    exact hstep

theorem ReadsGuarded.of_turn (h : b.ReadsGuarded) (hs : Visits b.parseTurn b.init s)
    (hnext : b.parseTurn s = some next) : TurnStep b s next := by
  obtain ⟨next', hnext', hstep⟩ := h.step hs
  obtain rfl := Option.some.inj (hnext.symm.trans hnext')
  exact hstep

theorem readsGuarded_of_not_fault
    (h : ∀ s, Visits b.parseTurn b.init s → b.parseTurn s ≠ none) : b.ReadsGuarded := by
  refine ⟨scannable_of_not_fault h, fun s w hs hfull => ?_⟩
  refine pieceGuard_of_not_fault ?_ hfull
  rw [← parseTurn_pieces hs.2]
  exact h s hs.1

/-! ### Termination -/

/-- Each piece is stored, and between two pieces the scan moves on. -/
def left (s : Parse) : Nat :=
  match s.phase with
  | .markers => (MAX_PLANE + 1 - s.planes.length) * 2 ^ 33 - s.i.toNat
  | .pieces _ => (MAX_PLANE + 1 - s.planes.length) * 2 ^ 33 - 2 ^ 32

theorem length_stored : (stored s w).length = s.planes.length + 1 := by
  simp [stored]

/-- The planes are those of the table, the main image among them. -/
def Stocked (s : Parse) : Prop := 1 ≤ s.planes.length ∧ s.planes.length ≤ MAX_PLANE

theorem stocked_stored (hs : Stocked s) (hroom : s.planes.length ≠ MAX_PLANE) :
    1 ≤ (stored s w).length ∧ (stored s w).length ≤ MAX_PLANE := by
  obtain ⟨hmain, hmax⟩ := hs
  rw [length_stored]
  omega

theorem stocked_step (h : TurnStep b s (.inl t)) (hs : Stocked s) : Stocked t := by
  cases hphase : s.phase with
  | markers =>
    simp only [TurnStep, hphase] at h
    cases h with
    | pass hi => exact hs
    | app hi blockSize => exact hs
    | soi hblock hend => exact hs
  | pieces w =>
    simp only [TurnStep, hphase] at h
    cases h with
    | thumb hroom hends => exact stocked_stored hs hroom
    | segment hroom hcont hwrap blockSize => exact stocked_stored hs hroom

theorem left_step (h : TurnStep b s (.inl t)) (hs : Stocked s) : left t < left s := by
  have hi := s.i.toNat_lt
  have ht := t.i.toNat_lt
  obtain ⟨hmain, hs⟩ := hs
  rw [MAX_PLANE] at hs
  cases hphase : s.phase with
  | markers =>
    simp only [TurnStep, hphase] at h
    cases h with
    | pass hi =>
      simp only [left, hphase, MAX_PLANE, UInt32.toNat_add, UInt32.toNat_ofNat]
      have := b.size.toNat_lt
      omega
    | app hi blockSize =>
      simp only [left, hphase, MAX_PLANE, UInt32.toNat_add, UInt32.toNat_ofNat, MARKER_LENGTH_SIZE]
      have := b.size.toNat_lt
      omega
    | soi hblock hend =>
      simp only [left, hphase, MAX_PLANE]
      omega
  | pieces w =>
    simp only [TurnStep, hphase] at h
    cases h with
    | thumb hroom hends =>
      simp only [left, hphase, length_stored]
      rw [MAX_PLANE] at *
      omega
    | segment hroom hcont hwrap blockSize =>
      simp only [left, hphase, length_stored]
      rw [MAX_PLANE] at *
      omega

theorem ReadsGuarded.stocked (h : b.ReadsGuarded) (hs : Visits b.parseTurn b.init s) :
    Stocked s :=
  visits_inv hs (by simp [Stocked, init, MAX_PLANE]) fun _ _ ht hu => stocked_step (h.of_turn ht hu)

theorem ReadsGuarded.ends (h : b.ReadsGuarded) : ∃ r, Ends b.parseTurn b.init r := by
  refine exists_ends_of_measure left (fun t u ht hu => left_step (h.of_turn ht hu) ?_) ?_
  · exact h.stocked ht
  · intro t ht
    obtain ⟨next, hnext, -⟩ := h.step ht
    rw [hnext]
    nofun

/-! ### Planes -/

/-- The thumbnails so far, behind the plane for the main image. -/
def Laid (b : Blob) (s : Parse) : Prop := ∃ thumbs,
  s.planes = { offset := 0, size := b.size } :: thumbs ∧ thumbs.Pairwise Before ∧ ∀ p ∈ thumbs, b.Inside p ∧ p.offset.toNat + p.size.toNat ≤ s.i.toNat

theorem PieceGuard.le_of_endsBefore (h : b.PieceGuard e) (hends : b.EndsBefore e) : e ≤ b.size := by
  obtain ⟨-, h⟩ | ⟨h, -, hlast⟩ := h.1
  · exact h
  · have hsub : e - 2 = b.size - 1 := by
      rw [h, ← UInt32.toNat_inj]
      simp only [UInt32.toNat_add, UInt32.toNat_sub, UInt32.toNat_ofNat]
      have := b.size.toNat_lt
      omega
    rw [EndsBefore, hsub] at hends
    exact absurd hends.1 hlast

theorem le_of_continuesAt (hcont : b.ContinuesAt e)
    (hwrap : e.toNat + 4 < 2 ^ 32) : e ≤ b.size := by
  have hroom := hcont.1
  simp only [UInt32.lt_iff_toNat_lt, UInt32.le_iff_toNat_le, UInt32.toNat_add, UInt32.toNat_ofNat]
    at hroom ⊢
  omega

/-- A piece that ends in the picture is stored behind the ones before. -/
theorem laid_stored (h : Laid b s) (hforward : s.i.toNat + w.toNat < 2 ^ 32)
    (hle : s.i + w ≤ b.size) : ∃ thumbs, stored s w = { offset := 0, size := b.size } :: thumbs ∧
      thumbs.Pairwise Before ∧
      ∀ p ∈ thumbs, b.Inside p ∧ p.offset.toNat + p.size.toNat ≤ (s.i + w).toNat := by
  obtain ⟨thumbs, hplanes, hpair, hin⟩ := h
  have hend : (s.i + w).toNat = s.i.toNat + w.toNat := by
    rw [UInt32.toNat_add, Nat.mod_eq_of_lt hforward]
  rw [UInt32.le_iff_toNat_le, hend] at hle
  rw [hend]
  refine ⟨thumbs ++ [{ offset := s.i, size := w }], by rw [stored, hplanes]; rfl, ?_, ?_⟩
  · rw [List.pairwise_append]
    refine ⟨hpair, List.pairwise_singleton _ _, fun p hp q hq => ?_⟩
    obtain rfl := List.mem_singleton.mp hq
    exact (hin p hp).2
  · intro p hp
    obtain hp | hp := List.mem_append.mp hp
    · obtain ⟨hinside, hbefore⟩ := hin p hp
      exact ⟨hinside, by omega⟩
    · obtain rfl := List.mem_singleton.mp hp
      exact ⟨hle, Nat.le_refl _⟩

theorem wellPlaced_mainImage (hpair : thumbs.Pairwise Before) (hin : ∀ p ∈ thumbs, b.Inside p) :
    b.WellPlaced (b.mainImage ({ offset := 0, size := b.size } :: thumbs)) := by
  cases hlast : thumbs.getLast? with
  | none =>
    obtain rfl := List.getLast?_eq_none_iff.mp hlast
    refine ⟨fun p hp => ?_, List.pairwise_singleton _ _⟩
    obtain rfl := List.mem_singleton.mp hp
    simp [Inside]
  | some last =>
    obtain ⟨firsts, rfl⟩ := List.getLast?_eq_some_iff.mp hlast
    have hinside : last.offset.toNat + last.size.toNat ≤ b.size.toNat := hin last (by simp)
    have hsize := b.size.toNat_lt
    have hoffset : (last.offset + last.size).toNat = last.offset.toNat + last.size.toNat := by
      rw [UInt32.toNat_add, Nat.mod_eq_of_lt (by omega)]
    have hmain : b.mainImage ({ offset := 0, size := b.size } :: (firsts ++ [last])) =
        { offset := last.offset + last.size, size := b.size - (last.offset + last.size) } ::
          (firsts ++ [last]) := by
      simp [mainImage]
    rw [hmain]
    refine ⟨fun p hp => ?_, ?_⟩
    · obtain rfl | hp := List.mem_cons.mp hp
      · simp only [Inside, UInt32.toNat_sub, hoffset]
        omega
      · exact hin p hp
    · rw [List.pairwise_append]
      refine ⟨hpair, List.pairwise_singleton _ _, fun p hp q hq => ?_⟩
      obtain rfl := List.mem_singleton.mp hq
      change _ ≤ (last.offset + last.size).toNat
      rw [hoffset]
      obtain hp | hp := List.mem_append.mp hp
      · have hbefore : p.offset.toNat + p.size.toNat ≤ last.offset.toNat :=
          (List.pairwise_append.mp hpair).2.2 p hp last (by simp)
        omega
      · obtain rfl := List.mem_singleton.mp hp
        exact Nat.le_refl _

/-- The end of a piece that is followed by anything but a refusal. -/
theorem end_le (hguard : b.PieceGuard e)
    (h : b.EndsBefore e ∨ b.ContinuesAt e ∧ e.toNat + 4 < 2 ^ 32) : e ≤ b.size := by
  obtain hends | ⟨hcont, hwrap⟩ := h
  · exact hguard.le_of_endsBefore hends
  · exact le_of_continuesAt hcont hwrap

theorem laid_step (hr : b.ReadsGuarded) (hf : b.Forward) (hv : Visits b.parseTurn b.init s)
    (h : TurnStep b s (.inl t)) (hs : Laid b s) : Laid b t := by
  cases hphase : s.phase with
  | markers =>
    simp only [TurnStep, hphase] at h
    obtain ⟨thumbs, hplanes, hpair, hin⟩ := hs
    cases h with
    | pass hi =>
      refine ⟨thumbs, hplanes, hpair, fun p hp => ⟨(hin p hp).1, Nat.le_trans (hin p hp).2 ?_⟩⟩
      simp only [UInt32.toNat_add, UInt32.toNat_ofNat]
      have := b.size.toNat_lt
      omega
    | app hi blockSize =>
      refine ⟨thumbs, hplanes, hpair, fun p hp => ⟨(hin p hp).1, Nat.le_trans (hin p hp).2 ?_⟩⟩
      simp only [UInt32.toNat_add, UInt32.toNat_ofNat, MARKER_LENGTH_SIZE]
      have := b.size.toNat_lt
      omega
    | soi hblock hend => exact ⟨thumbs, hplanes, hpair, hin⟩
  | pieces w =>
    simp only [TurnStep, hphase] at h
    cases h with
    | thumb hroom hends =>
      exact laid_stored hs (hf s w ⟨hv, hphase⟩) (end_le (hr.2 s w ⟨hv, hphase⟩ hroom) (.inl hends))
    | segment hroom hcont hwrap blockSize =>
      have hle := end_le (hr.2 s w ⟨hv, hphase⟩ hroom) (.inr ⟨hcont, hwrap⟩)
      obtain ⟨thumbs, hplanes, hpair, hin⟩ := laid_stored hs (hf s w ⟨hv, hphase⟩) hle
      refine ⟨thumbs, hplanes, hpair, fun p hp => ⟨(hin p hp).1, Nat.le_trans (hin p hp).2 ?_⟩⟩
      simp only [UInt32.toNat_add (s.i + w + _), UInt32.toNat_add (s.i + w), UInt32.toNat_ofNat,
        MARKER_TAG_SIZE, MARKER_LENGTH_SIZE]
      omega

theorem laid_visited (hr : b.ReadsGuarded) (hf : b.Forward) (hv : Visits b.parseTurn b.init s) :
    Laid b s :=
  visits_inv hv ⟨[], rfl, .nil, nofun⟩ fun _ _ ht hu => laid_step hr hf ht (hr.of_turn ht hu)

theorem wellPlaced_of_ends (hr : b.ReadsGuarded) (hf : b.Forward)
    (h : Ends b.parseTurn b.init (.noError planes)) : b.WellPlaced planes := by
  obtain ⟨s, hv, hs⟩ := h
  have hstep := hr.of_turn hv hs
  have hlaid := laid_visited hr hf hv
  cases hphase : s.phase with
  | markers =>
    simp only [TurnStep, hphase] at hstep
    obtain ⟨thumbs, hplanes, hpair, hin⟩ := hlaid
    cases hstep with
    | leave =>
      rw [hplanes]
      exact wellPlaced_mainImage hpair fun p hp => (hin p hp).1
  | pieces w =>
    simp only [TurnStep, hphase] at hstep
    cases hstep with
    | last hroom hends =>
      obtain ⟨thumbs, hplanes, hpair, hin⟩ := laid_stored hlaid (hf s w ⟨hv, hphase⟩)
        (end_le (hr.2 s w ⟨hv, hphase⟩ hroom) (.inl hends))
      rw [hplanes]
      exact wellPlaced_mainImage hpair fun p hp => (hin p hp).1

/-! ### Refusals -/

theorem ends_badValue_of_refused (hr : b.ReadsGuarded) (h : b.Refused) :
    Ends b.parseTurn b.init .badValue := by
  obtain ⟨s, w, ⟨hv, hphase⟩, hrefused⟩ := h
  obtain ⟨next, hnext, hstep⟩ := hr.step hv
  refine ⟨s, hv, hnext.trans ?_⟩
  simp only [TurnStep, hphase] at hstep
  cases hstep with
  | full hfull => rfl
  | last hroom hends =>
    obtain hfull | ⟨hends', -⟩ := hrefused
    · exact absurd hfull hroom
    · exact absurd hends hends'
  | thumb hroom hends =>
    obtain hfull | ⟨hends', -⟩ := hrefused
    · exact absurd hfull hroom
    · exact absurd hends hends'
  | segment hroom hcont hwrap blockSize =>
    obtain hfull | ⟨-, hcont'⟩ := hrefused
    · exact absurd hfull hroom
    · exact absurd hcont hcont'
  | refuse hends hcont => rfl

theorem refused_of_ends (hr : b.ReadsGuarded) (h : Ends b.parseTurn b.init .badValue) :
    b.Refused := by
  obtain ⟨s, hv, hs⟩ := h
  have hstep := hr.of_turn hv hs
  cases hphase : s.phase with
  | markers =>
    simp only [TurnStep, hphase] at hstep
    cases hstep
  | pieces w =>
    simp only [TurnStep, hphase] at hstep
    cases hstep with
    | full hfull => exact ⟨s, w, ⟨hv, hphase⟩, .inl hfull⟩
    | refuse hends hcont => exact ⟨s, w, ⟨hv, hphase⟩, .inr ⟨hends, hcont⟩⟩

theorem mem_tail_stored (hp : p ∈ s.planes.tail) : p ∈ (stored s w).tail := by
  unfold stored
  cases hplanes : s.planes with
  | nil =>
    rw [hplanes] at hp
    cases hp
  | cons main thumbs =>
    rw [hplanes] at hp
    exact List.mem_append_left _ hp

theorem piece_mem_stored (hs : Stocked s) : { offset := s.i, size := w } ∈ (stored s w).tail := by
  unfold stored
  cases hplanes : s.planes with
  | nil =>
    rw [Stocked, hplanes] at hs
    exact absurd hs.1 (by decide)
  | cons main thumbs => exact List.mem_append_right _ (List.mem_singleton_self _)

theorem tail_mainImage : (b.mainImage planes).tail = planes.tail := by
  unfold mainImage
  cases planes with
  | nil => rfl
  | cons main thumbs =>
    cases hlast : thumbs.getLast? with
    | none =>
      obtain rfl := List.getLast?_eq_none_iff.mp hlast
      rfl
    | some last => simp only [List.tail_cons, hlast]

/-- A stored piece stays among the thumbnails. -/
theorem mem_tail_step (h : TurnStep b s (.inl t)) (hp : p ∈ s.planes.tail) : p ∈ t.planes.tail := by
  cases hphase : s.phase with
  | markers =>
    simp only [TurnStep, hphase] at h
    cases h with
    | pass hi => exact hp
    | app hi blockSize => exact hp
    | soi hblock hend => exact hp
  | pieces w =>
    simp only [TurnStep, hphase] at h
    cases h with
    | thumb hroom hends => exact mem_tail_stored hp
    | segment hroom hcont hwrap blockSize => exact mem_tail_stored hp

theorem mem_tail_of_ends (hr : b.ReadsGuarded) (hs : Visits b.parseTurn b.init s)
    (hp : p ∈ s.planes.tail) (h : Ends b.parseTurn s (.noError planes)) : p ∈ planes.tail := by
  obtain ⟨t, ht, hturn⟩ := h
  have hvisited := hs.trans ht
  have hmem : p ∈ t.planes.tail := by
    refine visits_inv (P := fun t => p ∈ t.planes.tail) ht hp ?_
    intro u v hu hturn hp
    exact mem_tail_step (hr.of_turn (hs.trans hu) hturn) hp
  have hstep := hr.of_turn hvisited hturn
  cases hphase : t.phase with
  | markers =>
    simp only [TurnStep, hphase] at hstep
    cases hstep with
    | leave =>
      rw [tail_mainImage]
      exact hmem
  | pieces w =>
    simp only [TurnStep, hphase] at hstep
    cases hstep with
    | last hroom hends =>
      rw [tail_mainImage]
      exact mem_tail_stored hmem

/-- Every piece the scan comes to is reported, unless it is refused. -/
theorem piece_reported (hr : b.ReadsGuarded) (hs : b.PieceAt s w)
    (h : Ends b.parseTurn b.init (.noError planes)) :
    { offset := s.i, size := w } ∈ planes.tail := by
  have hends := h.of_visits hs.1
  have hmem := piece_mem_stored (w := w) (hr.stocked hs.1)
  obtain ⟨next, hnext, hstep⟩ := hr.step hs.1
  rw [TurnStep, hs.2] at hstep
  cases hstep with
  | full hfull => cases hends.unique ⟨s, .refl, hnext⟩
  | refuse hends' hcont => cases hends.unique ⟨s, .refl, hnext⟩
  | last hroom hends' =>
    cases hends.unique ⟨s, .refl, hnext⟩
    rw [tail_mainImage]
    exact hmem
  | thumb hroom hends' =>
    exact mem_tail_of_ends hr (hs.1.tail hnext) hmem (hends.of_visits (.single hnext))
  | segment hroom hcont hwrap blockSize =>
    exact mem_tail_of_ends hr (hs.1.tail hnext) hmem (hends.of_visits (.single hnext))

theorem forward_of_wellPlaced (hr : b.ReadsGuarded)
    (h : Ends b.parseTurn b.init (.noError planes)) (hplaced : b.WellPlaced planes) :
    b.Forward := by
  intro s w hs
  have hmem := piece_reported hr hs h
  cases planes with
  | nil => cases hmem
  | cons main thumbs =>
    have hinside : s.i.toNat + w.toNat ≤ b.size.toNat :=
      hplaced.1 _ (List.mem_cons_of_mem _ hmem)
    exact Nat.lt_of_le_of_lt hinside b.size.toNat_lt

/-! ### The whole scan -/

/-- On any bytes and any size. -/
theorem parseThumb_safe_iff (b : Blob) : b.Safe ↔ b.ReadsGuarded ∧ (b.Forward ∨ b.Refused) := by
  constructor
  · rintro ⟨r, hends, hplaced⟩
    have hr : b.ReadsGuarded := readsGuarded_of_not_fault fun s hs => hends.not_fault hs
    refine ⟨hr, ?_⟩
    cases r with
    | badValue => exact .inr (refused_of_ends hr hends)
    | noError planes => exact .inl (forward_of_wellPlaced hr hends (hplaced planes rfl))
  · rintro ⟨hr, hforward | hrefused⟩
    · obtain ⟨r, hends⟩ := hr.ends
      refine ⟨r, hends, ?_⟩
      rintro planes rfl
      exact wellPlaced_of_ends hr hforward hends
    · exact ⟨.badValue, ends_badValue_of_refused hr hrefused, nofun⟩

/-- A picture of fifteen bytes, with a thumbnail from byte 6 to byte 10 that goes on in a segment of
65535 bytes. -/
def cutSegment : Blob where
  vaddr i := [0xFF, 0xD8, 0xFF, 0xE1, 0, 6, 0xFF, 0xD8, 0, 0, 0xFF, 0xE2, 0xFF, 0xFF, 0].getD i.toNat 0
  size := 15

/-- The end of the segment is looked up behind the picture. -/
theorem cutSegment_not_safe : ¬ cutSegment.Safe := by
  rintro ⟨r, hends, -⟩
  let s : Parse :=
    { phase := .pieces 65533, i := 14, blockSize := 65535, blockEnd := 65547
      planes := [{ offset := 0, size := 15 }, { offset := 6, size := 4 }] }
  have hvisits : Visits cutSegment.parseTurn cutSegment.init s := by
    refine visits_of_turns (n := 5) ?_
    decide
  exact hends.not_fault hvisits (by decide)

end QmmfSdk.Jpeg.Blob
