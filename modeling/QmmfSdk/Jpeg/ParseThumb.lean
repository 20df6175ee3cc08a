import QmmfSdk.Library.Loop
import Mathlib.Algebra.Order.Ring.Nat
import Mathlib.Tactic.Common

/-! `CameraSource::ParseThumb`: the scan of a JPEG blob for thumbnails, one turn of a loop a step. -/
namespace QmmfSdk.Jpeg

open Library

def TAG : UInt8 := 0xFF
def SOI : UInt8 := 0xD8
def EOI : UInt8 := 0xD9
def APP1 : UInt8 := 0xE1
def APP2 : UInt8 := 0xE2

def MARKER_TAG_SIZE : UInt32 := 2
def MARKER_LENGTH_SIZE : UInt32 := 2
def MAX_PLANE : Nat := 8

/-- What is mapped at `vaddr`, of which `size` bytes are the picture. -/
structure Blob where
  vaddr : UInt32 → UInt8
  size : UInt32

structure PlaneInfo where
  offset : UInt32
  size : UInt32
  deriving DecidableEq, Repr

/-- `pieces` is the inner loop, which stores one piece of a thumbnail a turn. -/
inductive Phase where
  | markers
  | pieces (wSize : UInt32)
  deriving DecidableEq, Repr

/-- `planes` are the planes of `info`, the main image first. -/
structure Parse where
  phase : Phase := .markers
  i : UInt32 := 0
  blockSize : UInt32 := 0
  blockEnd : UInt32 := 0
  thumbNum : UInt8 := 0
  planes : List PlaneInfo
  deriving DecidableEq, Repr

inductive Result where
  | badValue
  | noError (planes : List PlaneInfo)
  deriving DecidableEq, Repr

namespace Blob

variable {b : Blob} {s t : Parse} {w e i : UInt32} {r : Result}

/-- `none` is a read behind the picture. -/
def read (b : Blob) (i : UInt32) : Option UInt8 := if i < b.size then some (b.vaddr i) else none

/-- The main image begins where the last thumbnail ends. -/
def mainImage (b : Blob) : List PlaneInfo → List PlaneInfo
  | [] => []
  | main :: thumbs =>
    match thumbs.getLast? with
    | none => [main]
    | some last =>
      let offset := last.offset + last.size
      { offset, size := b.size - offset } :: thumbs

def leave (b : Blob) (s : Parse) : Option (Parse ⊕ Result) :=
  some (.inr (.noError (b.mainImage s.planes)))

def blockSizeAt (b : Blob) (i : UInt32) : Option UInt32 := do
  let high ← b.read i
  let low ← b.read (i + 1)
  return 256 * high.toUInt32 + low.toUInt32

def markerTurn (b : Blob) (s : Parse) : Option (Parse ⊕ Result) :=
  if s.i < b.size - 1 then do
    if (← b.read s.i) = TAG then
      let marker ← b.read (s.i + 1)
      if marker = APP1 ∨ marker = APP2 then
        if s.i ≥ b.size - 4 then b.leave s
        else
          let blockSize ← b.blockSizeAt (s.i + MARKER_TAG_SIZE)
          let blockStart := s.i + MARKER_TAG_SIZE
          return .inl { s with
            blockSize, blockEnd := blockStart + blockSize, i := s.i + (1 + MARKER_LENGTH_SIZE) + 1 }
      else if marker = SOI ∧ s.blockSize ≠ 0 then
        let wSize := s.blockEnd - s.i
        if s.i + wSize > b.size then b.leave s
        else return .inl { s with phase := .pieces wSize }
      else return .inl { s with i := s.i + 1 }
    else return .inl { s with i := s.i + 1 }
  else b.leave s

/-- The test for the end of the thumbnail before `i`. -/
def endsBefore (b : Blob) (i : UInt32) : Option Bool := do
  if (← b.read (i - 2)) = TAG then return (← b.read (i - 1)) = EOI
  else return false

/-- The test for another segment at `i`. -/
def continuesAt (b : Blob) (i : UInt32) : Option Bool := do
  if i + 4 < b.size then
    if (← b.read i) = TAG then return (← b.read (i + 1)) = APP2
    else return false
  else return false

def pieceTurn (b : Blob) (s : Parse) (wSize : UInt32) : Option (Parse ⊕ Result) :=
  if s.planes.length = MAX_PLANE then some (.inr .badValue)
  else do
    let s : Parse := { s with planes := s.planes ++ [{ offset := s.i, size := wSize }], i := s.i + wSize }
    if (← b.endsBefore s.i) then
      let s : Parse := { s with
        phase := .markers, i := s.i - 1, blockSize := 0, blockEnd := 0, thumbNum := s.thumbNum + 1 }
      if s.thumbNum > 1 then b.leave s
      else return .inl { s with i := s.i + 1 }
    else if (← b.continuesAt s.i) then
      let blockSize ← b.blockSizeAt (s.i + MARKER_TAG_SIZE)
      let blockStart := s.i + MARKER_TAG_SIZE
      let blockEnd := blockStart + blockSize
      let i := blockStart + MARKER_LENGTH_SIZE
      return .inl { s with phase := .pieces (blockEnd - i), blockSize, blockEnd, i }
    else some (.inr .badValue)

def parseTurn (b : Blob) (s : Parse) : Option (Parse ⊕ Result) :=
  match s.phase with
  | .markers => b.markerTurn s
  | .pieces wSize => b.pieceTurn s wSize

def init (b : Blob) : Parse := { planes := [{ offset := 0, size := b.size }] }

/-! ### The tests as conditions on the bytes -/

def EndsBefore (b : Blob) (e : UInt32) : Prop := b.vaddr (e - 2) = TAG ∧ b.vaddr (e - 1) = EOI

def ContinuesAt (b : Blob) (e : UInt32) : Prop :=
  e + 4 < b.size ∧ b.vaddr e = TAG ∧ b.vaddr (e + 1) = APP2

/-- An `APP1` or an `APP2` marker. -/
def AppAt (b : Blob) (i : UInt32) : Prop :=
  b.vaddr i = TAG ∧ (b.vaddr (i + 1) = APP1 ∨ b.vaddr (i + 1) = APP2)

instance : Decidable (b.EndsBefore e) := by
  unfold EndsBefore
  infer_instance

instance : Decidable (b.ContinuesAt e) := by
  unfold ContinuesAt
  infer_instance

instance : Decidable (b.AppAt i) := by
  unfold AppAt
  infer_instance

theorem read_of_lt (h : i < b.size) : b.read i = some (b.vaddr i) := if_pos h

theorem read_of_not_lt (h : ¬ i < b.size) : b.read i = none := if_neg h

theorem endsBefore_eq : b.endsBefore e =
    if e - 2 < b.size ∧ (b.vaddr (e - 2) = TAG → e - 1 < b.size) then
      some (decide (b.EndsBefore e)) else none := by
  unfold endsBefore EndsBefore
  by_cases htag : e - 2 < b.size
  · by_cases hff : b.vaddr (e - 2) = TAG
    · by_cases heoi : e - 1 < b.size
      · simp [read_of_lt, htag, hff, heoi]
      · simp [read_of_lt, read_of_not_lt, htag, hff, heoi]
    · simp [read_of_lt, htag, hff]
  · simp [read_of_not_lt, htag]

theorem continuesAt_eq : b.continuesAt e =
    if e + 4 < b.size → e < b.size ∧ (b.vaddr e = TAG → e + 1 < b.size) then
      some (decide (b.ContinuesAt e)) else none := by
  unfold continuesAt ContinuesAt
  by_cases hroom : e + 4 < b.size
  · by_cases htag : e < b.size
    · by_cases hff : b.vaddr e = TAG
      · by_cases happ : e + 1 < b.size
        · simp [read_of_lt, hroom, htag, hff, happ]
        · simp [read_of_lt, read_of_not_lt, hroom, htag, hff, happ]
      · simp [read_of_lt, hroom, htag, hff]
    · simp [read_of_not_lt, hroom, htag]
  · simp [hroom]

theorem blockSizeAt_eq : b.blockSizeAt i =
    if i < b.size ∧ i + 1 < b.size then
      some (256 * (b.vaddr i).toUInt32 + (b.vaddr (i + 1)).toUInt32) else none := by
  unfold blockSizeAt
  by_cases hhigh : i < b.size
  · by_cases hlow : i + 1 < b.size
    · simp [read_of_lt, hhigh, hlow]
    · simp [read_of_lt, read_of_not_lt, hhigh, hlow]
  · simp [read_of_not_lt, hhigh]

/-! ### When a turn stays inside the picture -/

/-- There is something to scan, and in a picture of under four bytes, where `size - 4` wraps, no
marker to look closer at. -/
def Scannable (b : Blob) : Prop :=
  b.size ≠ 0 ∧ (b.size < 4 → ∀ i, i < b.size - 1 → ¬ b.AppAt i)

/-- A piece ends two bytes from the start of the picture at least, and not behind it, or one byte
behind a last byte that begins no marker. Within four bytes of `2 ^ 32`, where `i + 4` wraps, no
marker of a segment follows it. -/
def PieceGuard (b : Blob) (e : UInt32) : Prop :=
  (2 ≤ e ∧ e ≤ b.size ∨ e = b.size + 1 ∧ b.size ≠ 0 ∧ b.vaddr (b.size - 1) ≠ TAG) ∧
    (b.EndsBefore e ∨ e.toNat + 4 < 2 ^ 32 ∨
      e < b.size ∧ (b.vaddr e = TAG → e + 1 < b.size ∧ b.vaddr (e + 1) ≠ APP2))

theorem reads_endsBefore_iff : (e - 2 < b.size ∧ (b.vaddr (e - 2) = TAG → e - 1 < b.size)) ↔
    2 ≤ e ∧ e ≤ b.size ∨ e = b.size + 1 ∧ b.size ≠ 0 ∧ b.vaddr (b.size - 1) ≠ TAG := by
  have he := e.toNat_lt
  have hsize := b.size.toNat_lt
  by_cases hlast : e = b.size + 1
  · subst hlast
    have hsub : b.size + 1 - 2 = b.size - 1 := by
      rw [← UInt32.toNat_inj, UInt32.toNat_sub, UInt32.toNat_add, UInt32.toNat_sub]
      change (2 ^ 32 - 2 + (b.size.toNat + 1) % 2 ^ 32) % 2 ^ 32 = (2 ^ 32 - 1 + b.size.toNat) % 2 ^ 32
      omega
    rw [hsub]
    simp only [UInt32.lt_iff_toNat_lt, UInt32.le_iff_toNat_le, UInt32.toNat_sub, UInt32.toNat_add,
      UInt32.toNat_ofNat, ne_eq, ← UInt32.toNat_inj]
    constructor
    · rintro ⟨h, htag⟩
      refine .inr ⟨trivial, by omega, fun hff => ?_⟩
      have := htag hff
      omega
    · rintro (h | ⟨-, h, hff⟩)
      · omega
      · exact ⟨by omega, fun htag => absurd htag hff⟩
  · have hne : e.toNat ≠ (b.size.toNat + 1) % 2 ^ 32 := by
      rw [← UInt32.toNat_inj, UInt32.toNat_add] at hlast
      exact hlast
    rw [or_iff_left (fun h => hlast h.1)]
    simp only [UInt32.lt_iff_toNat_lt, UInt32.le_iff_toNat_le, UInt32.toNat_sub, UInt32.toNat_ofNat]
    constructor
    · rintro ⟨h, -⟩
      omega
    · rintro h
      exact ⟨by omega, fun _ => by omega⟩

theorem parseTurn_markers (h : s.phase = .markers) : b.parseTurn s = b.markerTurn s := by
  rw [parseTurn, h]

theorem parseTurn_pieces (h : s.phase = .pieces w) : b.parseTurn s = b.pieceTurn s w := by
  rw [parseTurn, h]

/-- The bytes of a segment behind a piece are there too, as far as they are looked at. -/
theorem reads_continuesAt_iff
    (hend : 2 ≤ e ∧ e ≤ b.size ∨ e = b.size + 1 ∧ b.size ≠ 0 ∧ b.vaddr (b.size - 1) ≠ TAG) :
    ((e + 4 < b.size → e < b.size ∧ (b.vaddr e = TAG → e + 1 < b.size)) ∧
      (b.ContinuesAt e → e + MARKER_TAG_SIZE < b.size ∧ e + MARKER_TAG_SIZE + 1 < b.size)) ↔
    e.toNat + 4 < 2 ^ 32 ∨
      e < b.size ∧ (b.vaddr e = TAG → e + 1 < b.size ∧ b.vaddr (e + 1) ≠ APP2) := by
  have he := e.toNat_lt
  have hsize := b.size.toNat_lt
  by_cases hwrap : e.toNat + 4 < 2 ^ 32
  · refine iff_of_true ⟨fun hroom => ?_, fun hcont => ?_⟩ (.inl hwrap)
    · simp only [UInt32.lt_iff_toNat_lt, UInt32.toNat_add, UInt32.toNat_ofNat] at hroom ⊢
      exact ⟨by omega, fun _ => by omega⟩
    · have hroom := hcont.1
      simp only [UInt32.lt_iff_toNat_lt, UInt32.toNat_add, UInt32.toNat_ofNat, MARKER_TAG_SIZE]
        at hroom ⊢
      omega
  · have hle : e.toNat ≤ b.size.toNat + 1 := by
      obtain ⟨-, h⟩ | ⟨h, -, -⟩ := hend
      · rw [UInt32.le_iff_toNat_le] at h
        omega
      · rw [h, UInt32.toNat_add]
        exact Nat.mod_le _ _
    have hroom : e + 4 < b.size := by
      simp only [UInt32.lt_iff_toNat_lt, UInt32.toNat_add, UInt32.toNat_ofNat]
      omega
    -- The length of a segment would reach up to `2 ^ 32`.
    have hlength : ¬ (e < b.size ∧ e + 1 < b.size ∧ e + MARKER_TAG_SIZE < b.size ∧
        e + MARKER_TAG_SIZE + 1 < b.size) := by
      simp only [UInt32.lt_iff_toNat_lt, UInt32.toNat_add, UInt32.toNat_ofNat, MARKER_TAG_SIZE]
      omega
    rw [or_iff_right hwrap]
    constructor
    · rintro ⟨hread, hcont⟩
      obtain ⟨hlt, hnext⟩ := hread hroom
      exact ⟨hlt, fun htag => ⟨hnext htag, fun happ =>
        hlength ⟨hlt, hnext htag, hcont ⟨hroom, htag, happ⟩⟩⟩⟩
    · rintro ⟨hlt, hnext⟩
      exact ⟨fun _ => ⟨hlt, fun htag => (hnext htag).1⟩,
        fun hcont => absurd hcont.2.2 (hnext hcont.2.1).2⟩

/-- A turn of the outer loop that begins is not at the last byte. -/
theorem room_of_lt (hsize : b.size ≠ 0) (h : i < b.size - 1) : i.toNat + 1 < b.size.toNat := by
  rw [UInt32.lt_iff_toNat_lt, UInt32.toNat_sub] at h
  rw [ne_eq, ← UInt32.toNat_inj] at hsize
  have := b.size.toNat_lt
  simp only [UInt32.toNat_ofNat] at h hsize
  omega

/-- What a turn of the outer loop does that stays inside. -/
inductive MarkerStep (b : Blob) (s : Parse) : Parse ⊕ Result → Prop where
  | leave : MarkerStep b s (.inr (.noError (b.mainImage s.planes)))
  | pass (hi : s.i.toNat + 1 < b.size.toNat) : MarkerStep b s (.inl { s with i := s.i + 1 })
  | app (hi : s.i.toNat + 4 < b.size.toNat) (blockSize : UInt32) : MarkerStep b s (.inl { s with
      blockSize, blockEnd := s.i + MARKER_TAG_SIZE + blockSize,
      i := s.i + (1 + MARKER_LENGTH_SIZE) + 1 })
  | soi (hblock : s.blockSize ≠ 0) (hend : s.blockEnd ≤ b.size) :
      MarkerStep b s (.inl { s with phase := .pieces (s.blockEnd - s.i) })

theorem markerTurn_step (hscan : b.Scannable) : ∃ next, b.markerTurn s = some next ∧
    MarkerStep b s next := by
  unfold markerTurn
  split
  next hlt =>
    have hroom := room_of_lt hscan.1 hlt
    have hread : b.read s.i = some (b.vaddr s.i) :=
      read_of_lt (by rw [UInt32.lt_iff_toNat_lt]; omega)
    have hnext : b.read (s.i + 1) = some (b.vaddr (s.i + 1)) := by
      refine read_of_lt ?_
      rw [UInt32.lt_iff_toNat_lt, UInt32.toNat_add]
      change (s.i.toNat + 1) % 2 ^ 32 < _
      omega
    rw [hread]
    simp only [Option.bind_eq_bind, Option.bind_some]
    split
    next htag =>
      rw [hnext]
      simp only [Option.bind_some]
      split
      next happ =>
        split
        next => exact ⟨_, rfl, .leave⟩
        next hnear =>
          have hfour : ¬ b.size < 4 := fun hlt4 => hscan.2 hlt4 s.i hlt ⟨htag, happ⟩
          have hi : s.i.toNat + 4 < b.size.toNat := by
            simp only [ge_iff_le, UInt32.le_iff_toNat_le, UInt32.lt_iff_toNat_lt, UInt32.toNat_sub,
              UInt32.toNat_ofNat] at hnear hfour
            omega
          have hbytes : s.i + MARKER_TAG_SIZE < b.size ∧ s.i + MARKER_TAG_SIZE + 1 < b.size := by
            simp only [UInt32.lt_iff_toNat_lt, UInt32.toNat_add, MARKER_TAG_SIZE, UInt32.toNat_ofNat]
            omega
          rw [blockSizeAt_eq, if_pos hbytes]
          exact ⟨_, rfl, .app hi _⟩
      next =>
        split
        next hsoi =>
          split
          next => exact ⟨_, rfl, .leave⟩
          next hend =>
            have hadd : s.i + (s.blockEnd - s.i) = s.blockEnd := by
              rw [UInt32.add_comm, UInt32.sub_add_cancel]
            rw [hadd] at hend
            exact ⟨_, rfl, .soi hsoi.2 (UInt32.not_lt.mp hend)⟩
        next => exact ⟨_, rfl, .pass hroom⟩
    next => exact ⟨_, rfl, .pass hroom⟩
  next => exact ⟨_, rfl, .leave⟩

/-- The comparison with `size - 4` does not stop the turn, and the block's length is not there. -/
theorem markerTurn_fault (hsize : b.size ≠ 0) (hfour : b.size < 4) (hlt : s.i < b.size - 1)
    (happ : b.AppAt s.i) : b.markerTurn s = none := by
  have hroom := room_of_lt hsize hlt
  have hread : b.read s.i = some TAG := by
    rw [read_of_lt (by rw [UInt32.lt_iff_toNat_lt]; omega), happ.1]
  have hnext : b.read (s.i + 1) = some (b.vaddr (s.i + 1)) := by
    refine read_of_lt ?_
    rw [UInt32.lt_iff_toNat_lt, UInt32.toNat_add]
    change (s.i.toNat + 1) % 2 ^ 32 < _
    omega
  have hnear : ¬ s.i ≥ b.size - 4 := by
    simp only [ge_iff_le, UInt32.le_iff_toNat_le, UInt32.lt_iff_toNat_lt, UInt32.toNat_sub,
      UInt32.toNat_ofNat] at hfour ⊢
    omega
  have hbytes : ¬ (s.i + MARKER_TAG_SIZE < b.size ∧ s.i + MARKER_TAG_SIZE + 1 < b.size) := by
    simp only [UInt32.lt_iff_toNat_lt, UInt32.toNat_add, MARKER_TAG_SIZE, UInt32.toNat_ofNat]
      at hfour ⊢
    omega
  simp [markerTurn, hlt, hread, hnext, happ.2, hnear, blockSizeAt_eq, hbytes]

theorem markerTurn_pass (hsize : b.size ≠ 0) (hlt : s.i < b.size - 1)
    (htag : b.vaddr (s.i + 1) = TAG) : b.markerTurn s = some (.inl { s with i := s.i + 1 }) := by
  have hroom := room_of_lt hsize hlt
  have hread : b.read s.i = some (b.vaddr s.i) :=
    read_of_lt (by rw [UInt32.lt_iff_toNat_lt]; omega)
  have hnext : b.read (s.i + 1) = some TAG := by
    rw [read_of_lt, htag]
    rw [UInt32.lt_iff_toNat_lt, UInt32.toNat_add]
    change (s.i.toNat + 1) % 2 ^ 32 < _
    omega
  have happ : ¬ (TAG = APP1 ∨ TAG = APP2) := by decide
  have hsoi : ¬ TAG = SOI := by decide
  simp [markerTurn, hlt, hread, hnext, happ, hsoi]

theorem scannable_of_not_fault (h : ∀ s, Visits b.parseTurn b.init s → b.parseTurn s ≠ none) :
    b.Scannable := by
  have hsize : b.size ≠ 0 := by
    intro hzero
    have hlt : (0 : UInt32) < b.size - 1 := by
      rw [hzero]
      decide
    have hread : b.read 0 = none := read_of_not_lt (by
      rw [hzero]
      decide)
    refine h b.init .refl ?_
    simp [parseTurn, init, markerTurn, hlt, hread]
  refine ⟨hsize, fun hfour i hlt happ => ?_⟩
  have hroom := room_of_lt hsize hlt
  rw [UInt32.lt_iff_toNat_lt] at hfour
  have hsmall : i.toNat = 0 ∨ i.toNat = 1 := by
    change _ < 4 at hfour
    omega
  obtain hzero | hone := hsmall
  · obtain rfl : i = 0 := UInt32.toNat_inj.mp hzero
    exact h b.init .refl (markerTurn_fault hsize hfour hlt happ)
  · obtain rfl : i = 1 := UInt32.toNat_inj.mp hone
    have hfirst : (0 : UInt32) < b.size - 1 := UInt32.lt_trans (by decide) hlt
    have hpass : b.parseTurn b.init = some (.inl { b.init with i := 1 }) :=
      markerTurn_pass (s := b.init) hsize hfirst happ.1
    exact h _ (.single hpass) (markerTurn_fault hsize hfour hlt happ)

/-! ### A turn of the inner loop -/

/-- The piece is stored before anything behind it is looked at. -/
def stored (s : Parse) (w : UInt32) : List PlaneInfo := s.planes ++ [{ offset := s.i, size := w }]

inductive PieceStep (b : Blob) (s : Parse) (w : UInt32) : Parse ⊕ Result → Prop where
  | full (hfull : s.planes.length = MAX_PLANE) : PieceStep b s w (.inr .badValue)
  | last (hroom : s.planes.length ≠ MAX_PLANE) (hends : b.EndsBefore (s.i + w)) :
      PieceStep b s w (.inr (.noError (b.mainImage (stored s w))))
  | thumb (hroom : s.planes.length ≠ MAX_PLANE) (hends : b.EndsBefore (s.i + w)) :
      PieceStep b s w (.inl { s with
        phase := .markers, i := s.i + w, blockSize := 0, blockEnd := 0, thumbNum := s.thumbNum + 1
        planes := stored s w })
  | segment (hroom : s.planes.length ≠ MAX_PLANE) (hcont : b.ContinuesAt (s.i + w))
      (hwrap : (s.i + w).toNat + 4 < 2 ^ 32) (blockSize : UInt32) :
      PieceStep b s w (.inl { s with
        phase := .pieces (s.i + w + MARKER_TAG_SIZE + blockSize -
          (s.i + w + MARKER_TAG_SIZE + MARKER_LENGTH_SIZE)), blockSize
        blockEnd := s.i + w + MARKER_TAG_SIZE + blockSize
        i := s.i + w + MARKER_TAG_SIZE + MARKER_LENGTH_SIZE, planes := stored s w })
  | refuse (hends : ¬ b.EndsBefore (s.i + w)) (hcont : ¬ b.ContinuesAt (s.i + w)) :
      PieceStep b s w (.inr .badValue)

theorem pieceTurn_step (hguard : s.planes.length ≠ MAX_PLANE → b.PieceGuard (s.i + w)) :
    ∃ next, b.pieceTurn s w = some next ∧ PieceStep b s w next := by
  unfold pieceTurn
  split
  next hfull => exact ⟨_, rfl, .full hfull⟩
  next hfull =>
    obtain ⟨hend, hbehind⟩ := hguard hfull
    simp only [endsBefore_eq, if_pos (reads_endsBefore_iff.mpr hend), Option.bind_eq_bind,
      Option.bind_some]
    split
    next hends =>
      have hends := of_decide_eq_true hends
      split
      next => exact ⟨_, rfl, .last hfull hends⟩
      next =>
        refine ⟨_, ?_, .thumb hfull hends⟩
        rw [UInt32.sub_add_cancel]
        rfl
    next hends =>
      have hends : ¬ b.EndsBefore (s.i + w) := fun h => hends (decide_eq_true h)
      have hbehind := hbehind.resolve_left hends
      have hreads := (reads_continuesAt_iff hend).mpr hbehind
      simp only [continuesAt_eq, if_pos hreads.1, Option.bind_some]
      split
      next hcont =>
        have hcont := of_decide_eq_true hcont
        simp only [blockSizeAt_eq, if_pos (hreads.2 hcont), Option.bind_some]
        have hwrap := hbehind.resolve_right fun h => (h.2 hcont.2.1).2 hcont.2.2
        exact ⟨_, rfl, .segment hfull hcont hwrap _⟩
      next hcont => exact ⟨_, rfl, .refuse hends fun h => hcont (decide_eq_true h)⟩

theorem pieceGuard_of_not_fault (h : b.pieceTurn s w ≠ none) (hfull : s.planes.length ≠ MAX_PLANE) :
    b.PieceGuard (s.i + w) := by
  by_contra hguard
  refine h ?_
  simp only [pieceTurn, if_neg hfull, endsBefore_eq, Option.bind_eq_bind]
  by_cases hend : s.i + w - 2 < b.size ∧ (b.vaddr (s.i + w - 2) = TAG → s.i + w - 1 < b.size)
  · have hend' := reads_endsBefore_iff.mp hend
    obtain ⟨hends, hbehind⟩ := not_or.mp fun hbehind => hguard ⟨hend', hbehind⟩
    rw [← reads_continuesAt_iff hend'] at hbehind
    simp only [if_pos hend, Option.bind_some, decide_eq_true_eq, if_neg hends, continuesAt_eq]
    split
    next hreads =>
      obtain ⟨hcont, hbytes⟩ := Classical.not_imp.mp fun h => hbehind ⟨hreads, h⟩
      simp only [Option.bind_some, decide_eq_true_eq, if_pos hcont, blockSizeAt_eq, if_neg hbytes]
      rfl
    next => rfl
  · simp [hend]

end Blob

end QmmfSdk.Jpeg
