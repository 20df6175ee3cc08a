import Mathlib.Data.List.Basic

/-! What an application asks to be drawn over its frames. -/
namespace QmmfSdk.Overlays

inductive Status where
  | ok
  | badValue
  | noInit
  | failed
  deriving DecidableEq, Repr

/-- A C string in an array of `capacity` characters. -/
structure CString (capacity : Nat) where
  bytes : List UInt8
  terminated : bytes.length < capacity
  noNul : 0 ∉ bytes
  deriving DecidableEq, Repr

namespace CString

variable {capacity : Nat}

def empty : CString 128 := ⟨[], by decide, by decide⟩

/-- The characters that `setTo` copies under a limit. -/
def take (n : Nat) (s : CString capacity) : CString capacity :=
  ⟨s.bytes.take n, Nat.lt_of_le_of_lt (List.length_take_le' n _) s.terminated,
    fun h => s.noNul (List.mem_of_mem_take h)⟩

theorem take_of_length_le {n : Nat} {s : CString capacity} (h : s.bytes.length ≤ n) :
    s.take n = s := by
  cases s
  simp only [take, mk.injEq]
  exact List.take_of_length_le h

end CString

inductive OverlayLocationType where
  | topLeft
  | topRight
  | center
  | bottomLeft
  | bottomRight
  | random
  | none
  deriving DecidableEq, Repr

inductive OverlayTimeFormatType where
  | hhmmss24Hr
  | hhmmssAmPm
  | hhmm24Hr
  | hhmmAmPm
  deriving DecidableEq, Repr

inductive OverlayDateFormatType where
  | yyyymmdd
  | mmddyyyy
  deriving DecidableEq, Repr

structure OverlayDateTimeType where
  timeFormat : OverlayTimeFormatType
  dateFormat : OverlayDateFormatType
  deriving DecidableEq, Repr

inductive OverlayImageType where
  | filePath
  | blobType
  deriving DecidableEq, Repr

structure OverlayRect where
  startX : Int32 := 0
  startY : Int32 := 0
  width : Int32 := 0
  height : Int32 := 0
  deriving DecidableEq, Repr

structure OverlayCircle where
  centerX : Int32
  centerY : Int32
  radius : Int32
  deriving DecidableEq, Repr

/-- The image buffer is known by its address. -/
structure OverlayImageInfo where
  imageType : OverlayImageType := .filePath
  imageLocation : CString 128 := .empty
  imageBuffer : UInt64 := 0
  imageSize : UInt32 := 0
  sourceRect : OverlayRect := {}
  bufferUpdated : Bool := false
  deriving DecidableEq, Repr

structure OverlayKeyPoint where
  x : Int32 := 0
  y : Int32 := 0
  deriving DecidableEq, Repr

/-- The type says which member of the union is meant. -/
inductive OverlayPrivacyMask where
  | rectangle (rectangle : OverlayRect)
  | inverseRectangle (rectangle : OverlayRect)
  | circle (circle : OverlayCircle)
  | inverseCircle (circle : OverlayCircle)
  deriving DecidableEq, Repr

def overlayGraphNodesMaxCount : Nat := 20
def overlayGraphChainMaxCount : Nat := 40

structure OverlayGraph where
  pointsCount : UInt32 := 0
  points : Vector OverlayKeyPoint overlayGraphNodesMaxCount := .replicate _ {}
  chainCount : UInt32 := 0
  chain : Vector (Int32 × Int32) overlayGraphChainMaxCount := .replicate _ (0, 0)
  deriving DecidableEq, Repr

/-- The union of an `OverlayParam`; its type says which member is meant. -/
inductive OverlayData where
  | dateTime (dateTime : OverlayDateTimeType)
  | userText (text : CString 128)
  | imageInfo (info : OverlayImageInfo)
  | boundingBox (boxName : CString 128)
  | privacyMask (mask : OverlayPrivacyMask)
  | graph (graph : OverlayGraph)
  deriving DecidableEq, Repr

structure OverlayParam where
  location : OverlayLocationType := .topLeft
  color : UInt32 := 0
  dstRect : OverlayRect := {}
  data : OverlayData
  deriving DecidableEq, Repr

namespace OverlayRect

variable (r : OverlayRect)

/-- What every overlay asks of the size of its rectangle. -/
def hasArea : Bool := 0 < r.width && 0 < r.height

/-- What all overlays but the images ask of the rectangle. -/
def isValid : Bool := r.hasArea && 0 ≤ r.startX && 0 ≤ r.startY

end OverlayRect

namespace OverlayGraph

def countsFit (g : OverlayGraph) : Bool :=
  g.pointsCount.toNat ≤ overlayGraphNodesMaxCount && g.chainCount.toNat ≤ overlayGraphChainMaxCount

/-- Every link that is drawn joins two points of the array. -/
def linksFit (g : OverlayGraph) : Bool :=
  (g.chain.toList.take g.chainCount.toNat).all fun (i, j) =>
    0 ≤ i && i < 20 && 0 ≤ j && j < 20

end OverlayGraph

end QmmfSdk.Overlays
