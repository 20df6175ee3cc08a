import QmmfSdk.Library.OrdMap
import QmmfSdk.Library.Transition
import QmmfSdk.Overlays.DrawInfo

/-! The overlay itself: its items by id, and every call that an application can make. -/
namespace QmmfSdk.Overlays

open Library

structure Overlay where
  overlayItems : OrdMap UInt32 OverlayItem := ∅
  id : UInt32 := 0
  /-- Items that no id leads to. -/
  lost : List OverlayItem := []

/-- `C2dObjects` holds two objects for each of `MAX_OVERLAYS`. -/
def maxObjects : Nat := 20

/-- `ProcessOverlayItems` creates items in chunks. -/
def chunk : Nat := 10

def OverlayParam.isImage (p : OverlayParam) : Bool :=
  match p.data with
  | .imageInfo _ => true
  | _ => false

namespace Overlay

variable (s : Overlay) (p : OverlayParam) (id : UInt32) (a : Answers)

/-- The id of a new item is the one that the overlay is at then; `insert` keeps an old item under it. -/
def createOverlayItem : Option (Status × Overlay) :=
  (OverlayItem.init p a).bind fun (ret, item) =>
    if ret ≠ .ok then item.delete.map fun _ => (ret, s)
    else
      let id := s.id + 1
      let item := { item with dirty := !p.isImage }
      if id ∈ s.overlayItems then some (.ok, { s with id, lost := item :: s.lost })
      else some (.ok, { s with id, overlayItems := s.overlayItems.insert id item })

def deleteOverlayItem : Option (Status × Overlay) :=
  match s.overlayItems[id]? with
  | none => some (.badValue, s)
  | some item => item.delete.map fun _ => (.ok, { s with overlayItems := s.overlayItems.erase id })

def getOverlayParams : Option OverlayParam := s.overlayItems[id]?.map OverlayItem.getParameters

def updateOverlayParams : Option (Status × Overlay) :=
  match s.overlayItems[id]? with
  | none => some (.badValue, s)
  | some item => (item.updateParameters p a).map fun (ret, item) =>
      (ret, { s with overlayItems := s.overlayItems.insert id item })

/-- `EnableOverlayItem` and `DisableOverlayItem`. -/
def activate (value : Bool) : Status × Overlay :=
  match s.overlayItems[id]? with
  | none => (.badValue, s)
  | some item => (.ok, { s with overlayItems := s.overlayItems.insert id { item with isActive := value } })

/-- The objects that are given to `c2dDraw`, in the order of the items. -/
def c2dObjects (targetWidth targetHeight : UInt32) : List DrawInfo :=
  s.overlayItems.toList.flatMap fun (_, item) =>
    if item.isActive then item.getDrawInfo targetWidth targetHeight else []

/-- An item that is drawn if it is active. -/
def drawn (now : UInt32 → Nat) (id : UInt32) (item : OverlayItem) : Option OverlayItem :=
  if item.isActive then item.updateAndDraw (now id) else some item

/-- `ready` is what C2D says to the target buffer; each item reads the time on its own. -/
def applyOverlay (ready : Bool) (targetWidth targetHeight : UInt32) (now : UInt32 → Nat) :
    Option Overlay :=
  if !(s.overlayItems.toList.any fun (_, item) => item.isActive) || !ready then some s
  else if s.overlayItems.toList.all fun (id, item) => (drawn now id item).isSome then
    let s := { s with overlayItems := s.overlayItems.map fun id item => (drawn now id item).getD item }
    -- the array of objects is not checked
    if (s.c2dObjects targetWidth targetHeight).length ≤ maxObjects then some s else none
  else none

/-- The items that `ProcessOverlayItems` creates, up to the first error. -/
def createChunk : List Answers → Overlay → Option (Status × Overlay)
  | [], s => some (.ok, s)
  | a :: as, s => (s.createOverlayItem p a).bind fun (ret, s) =>
      if ret ≠ .ok then some (ret, s) else createChunk as s

/-- Each entry of the list goes to the next item, the items after that are put out. The iterator is not
compared with the end of the map. -/
def updateItems : List UInt32 → List (OverlayParam × Answers) → Overlay → Option (Status × Overlay)
  | ids, [], s => some (.ok, ids.foldl (fun s id => (s.activate id false).2) s)
  | [], _ :: _, _ => none
  | id :: ids, (p, a) :: ps, s => (s.updateOverlayParams p id a).bind fun (ret, s) =>
      if ret ≠ .ok then some (ret, s) else updateItems ids ps (s.activate id true).2

def processOverlayItems (list : List (OverlayParam × Answers)) (created : Nat → Answers) :
    Option (Status × Overlay) :=
  let grown : Option (Status × Overlay) := match list with
    | [] => some (.ok, s)
    | (p, _) :: _ =>
      if s.overlayItems.size < list.length then createChunk p ((List.range chunk).map created) s
      else some (.ok, s)
  grown.bind fun (ret, s) =>
    if ret ≠ .ok then some (ret, s) else updateItems s.overlayItems.keys list s

/-- A call of the application. -/
inductive Call where
  | create (p : OverlayParam) (a : Answers)
  | delete (id : UInt32)
  | update (id : UInt32) (p : OverlayParam) (a : Answers)
  | activate (id : UInt32) (value : Bool)
  | apply (ready : Bool) (targetWidth targetHeight : UInt32) (now : UInt32 → Nat)
  | process (list : List (OverlayParam × Answers)) (created : Nat → Answers)

def step (s : Overlay) : Call → Option Overlay
  | .create p a => (s.createOverlayItem p a).map Prod.snd
  | .delete id => (s.deleteOverlayItem id).map Prod.snd
  | .update id p a => (s.updateOverlayParams p id a).map Prod.snd
  | .activate id value => some (s.activate id value).2
  | .apply ready width height now => s.applyOverlay ready width height now
  | .process list created => (s.processOverlayItems list created).map Prod.snd

end Overlay

end QmmfSdk.Overlays
