import QmmfSdk.Library.Bytes
import QmmfSdk.Library.OrdMap
import QmmfSdk.Library.Transition
import Mathlib.Data.List.Sort

/-! `ExtraParam`: tagged payloads packed into one byte buffer, with an index of offsets. -/
namespace QmmfSdk

open Library

/-- The payload type of each tag, as far as the container sees it: its `sizeof`. The in-band
size and the size of a whole entry are 32-bit numbers. -/
structure TagTypes where
  size : UInt32 → Nat
  size_lt : ∀ tag, size tag + 12 < 2 ^ 32

/-- A value of the payload type of a tag: the private tag id of `DataTagBase`, which only the
constructor sets, and the bytes of the other members. -/
structure Payload (ty : TagTypes) where
  tagId : UInt32
  members : List UInt8
  length_members : 4 + members.length = ty.size tagId

/-- The value as `memcpy` sees it. -/
def Payload.image {ty : TagTypes} (p : Payload ty) : List UInt8 := encodeU32 p.tagId ++ p.members

/-- The descriptor in front of every payload in the buffer. -/
structure DataDecriptor where
  tagId : UInt32
  entryId : UInt32
  dataSize : UInt32
  deriving DecidableEq, Repr

def kDataDescSize : Nat := 12

def DataDecriptor.encode (d : DataDecriptor) : List UInt8 :=
  encodeU32 d.tagId ++ (encodeU32 d.entryId ++ encodeU32 d.dataSize)

/-- What stops a call: `vector::at` throws, or a pointer leaves the buffer. -/
inductive Fault where
  | outOfRange
  | undefined
  deriving DecidableEq, Repr

/-- `uintptr_t` offsets into the buffer are plain numbers. -/
structure ExtraParam where
  locked : Bool := false
  dataMap : OrdMap UInt32 (List Nat) := ∅
  dataBuffer : List UInt8 := []

namespace ExtraParam

def EPERM : Int := -1
def ENOENT : Int := -2
def EFAULT : Int := -14
def EINVAL : Int := -22

/-- A call returns an error number and leaves a container. -/
abbrev Result := Except Fault (Int × ExtraParam)

def orUndefined {α : Type} : Option α → Except Fault α
  | some a => .ok a
  | none => .error .undefined

/-- The descriptor at an offset of the buffer. -/
def descAt (buffer : List UInt8) (offset : Nat) : Option DataDecriptor := do
  let bytes := buffer.drop offset
  return {
    tagId := ← decodeU32 bytes
    entryId := ← decodeU32 (bytes.drop 4)
    dataSize := ← decodeU32 (bytes.drop 8) }

/-! ### Queries -/

def existsTag (c : ExtraParam) (tag : UInt32) : Bool := c.dataMap.contains tag

def tagCount (c : ExtraParam) : Nat := c.dataMap.size

def entryCount (c : ExtraParam) (tag : UInt32) : Nat := (c.dataMap[tag]?.getD []).length

/-- `dest` is the tag id of the value that is fetched into, and so of its type. On success the
bytes copied into that value are returned too. -/
def fetch (ty : TagTypes) (c : ExtraParam) (tag dest entry : UInt32) :
    Except Fault (Int × Option (List UInt8)) :=
  if dest ≠ tag then .ok (EINVAL, none)
  else
    match c.dataMap[tag]? with
    | none => .ok (ENOENT, none)
    | some offsets =>
      match offsets[entry.toNat]? with
      | none => .error .outOfRange
      | some offset =>
        let bytes := (c.dataBuffer.drop (offset + kDataDescSize)).take (ty.size dest)
        if bytes.length = ty.size dest then .ok (0, some bytes) else .error .undefined

/-! ### Changes -/

def clear (c : ExtraParam) : Int × ExtraParam :=
  if c.locked then (EPERM, c) else (0, { c with dataMap := ∅, dataBuffer := [] })

/-- The `memcpy` at the end of `FillDataEntry`. -/
def copyData (c : ExtraParam) (offset : Nat) (image : List UInt8) : Result := do
  let buffer ← orUndefined (overwrite c.dataBuffer (offset + kDataDescSize) image)
  .ok (0, { c with dataBuffer := buffer })

/-- Room for a new entry at the end of the buffer, with its descriptor filled in. -/
def addEntry (c : ExtraParam) (desc : DataDecriptor) : Except Fault ExtraParam := do
  let entrySize := UInt32.ofNat (kDataDescSize + desc.dataSize.toNat)
  let buffer := c.dataBuffer ++ List.replicate entrySize.toNat 0
  let buffer ← orUndefined (overwrite buffer c.dataBuffer.length desc.encode)
  .ok { c with dataBuffer := buffer }

/-- `it->second.size() - entry` in 64 bits. -/
def entryGap (size : Nat) (entry : UInt32) : Int := ((size : Int) - entry.toNat) % 2 ^ 64

def fillDataEntry (c : ExtraParam) (tag entry : UInt32) (image : List UInt8) : Result :=
  if c.locked then .ok (EPERM, c)
  else
    let offset := c.dataBuffer.length
    let desc : DataDecriptor := ⟨tag, entry, UInt32.ofNat image.length⟩
    match c.dataMap[tag]? with
    | none =>
      if entry ≠ 0 then .ok (EINVAL, c)
      else do
        let c := { c with dataMap := c.dataMap.insertIfNew tag [offset] }
        (← c.addEntry desc).copyData offset image
    | some offsets =>
      match offsets[entry.toNat]? with
      | some offset => c.copyData offset image
      | none =>
        if entryGap offsets.length entry > 1 then .ok (EINVAL, c)
        else do
          let c := { c with dataMap := c.dataMap.insert tag (offsets ++ [offset]) }
          (← c.addEntry desc).copyData offset image

def update {ty : TagTypes} (c : ExtraParam) (tag : UInt32) (data : Payload ty) (entry : UInt32) :
    Result :=
  if data.tagId ≠ tag then .ok (EINVAL, c) else c.fillDataEntry tag entry data.image

/-- The walk of `ReorganizeDataMap`. Every turn moves the offset by at least one descriptor, so
as many turns as the buffer has bytes are enough. -/
def reorganizeLoop (buffer : List UInt8) : Nat → Nat → OrdMap UInt32 (List Nat) →
    Except Fault (Int × OrdMap UInt32 (List Nat))
  | 0, _, m => .ok (0, m)
  | turns + 1, offset, m =>
    if buffer.length ≤ offset then .ok (0, m)
    else do
      let desc ← orUndefined (descAt buffer offset)
      match m[desc.tagId]? with
      | none => .ok (EFAULT, m)
      | some offsets =>
        if offsets.length ≤ desc.entryId.toNat then .ok (EFAULT, m)
        else
          reorganizeLoop buffer turns (offset + (desc.dataSize.toNat + kDataDescSize))
            (m.insert desc.tagId (offsets.set desc.entryId.toNat offset))

def reorganizeDataMap (c : ExtraParam) (offset : Nat) : Result := do
  let (ret, m) ← reorganizeLoop c.dataBuffer c.dataBuffer.length offset c.dataMap
  .ok (ret, { c with dataMap := m })

/-- Cuts one entry out of the buffer. The end of the range is the size of the entry, not its
offset plus its size. -/
def eraseEntry (buffer : List UInt8) (offset : Nat) : Except Fault (List UInt8) := do
  let desc ← orUndefined (descAt buffer offset)
  let entrySize := UInt32.ofNat (desc.dataSize.toNat + kDataDescSize)
  orUndefined (eraseRange buffer offset entrySize.toNat)

/-- `RemoveDataEntry`, which `Remove` returns as it is. -/
def remove (c : ExtraParam) (tag entry : UInt32) : Result :=
  if c.locked then .ok (EPERM, c)
  else
    match c.dataMap[tag]? with
    | none => .ok (EINVAL, c)
    | some offsets =>
      match offsets[entry.toNat]? with
      | none => .ok (EINVAL, c)
      | some offset => do
        let buffer ← eraseEntry c.dataBuffer offset
        let (ret, c) ← reorganizeDataMap { c with dataBuffer := buffer } offset
        if ret ≠ 0 then .ok (ret, c)
        else
          let entries := c.dataMap[tag]?.getD []
          .ok (0, { c with dataMap := c.dataMap.insert tag (entries.eraseIdx entry.toNat) })

/-- `EraseDataTag`, which `Erase` returns as it is. The offsets are sorted in the index itself,
and `back` of an empty vector is undefined. -/
def erase (c : ExtraParam) (tag : UInt32) : Result :=
  if c.locked then .ok (EPERM, c)
  else
    match c.dataMap[tag]? with
    | none => .ok (EINVAL, c)
    | some offsets => do
      let sorted := offsets.insertionSort (· ≥ ·)
      let buffer ← sorted.foldlM eraseEntry c.dataBuffer
      let lowest ← orUndefined sorted.getLast?
      let c := { c with dataMap := c.dataMap.insert tag sorted, dataBuffer := buffer }
      let (ret, c) ← c.reorganizeDataMap lowest
      if ret ≠ 0 then .ok (ret, c)
      else .ok (0, { c with dataMap := c.dataMap.erase tag })

/-- The walk of `Acquire`, bounded as in `reorganizeLoop`, where every sum of sizes fits in a word. -/
def acquireLoop (buffer : List UInt8) : Nat → Nat → OrdMap UInt32 (List Nat) →
    Except Fault (OrdMap UInt32 (List Nat))
  | 0, _, m => .ok m
  | turns + 1, offset, m =>
    if buffer.length ≤ offset then .ok m
    else do
      let desc ← orUndefined (descAt buffer offset)
      let m := match m[desc.tagId]? with
        | none => m.insertIfNew desc.tagId [offset]
        | some offsets =>
          if offsets.length ≤ desc.entryId.toNat then m.insert desc.tagId (offsets ++ [offset])
          else m
      acquireLoop buffer turns (offset + (desc.dataSize.toNat + kDataDescSize)) m

def acquire (c : ExtraParam) (data : List UInt8) : Result :=
  if c.locked then .ok (EPERM, c)
  else do
    let m ← acquireLoop data data.length 0 ∅
    .ok (0, { c with dataMap := m, dataBuffer := data })

/-! ### Runs -/

inductive Op (ty : TagTypes) where
  | update (tag : UInt32) (data : Payload ty) (entry : UInt32)
  | remove (tag entry : UInt32)
  | erase (tag : UInt32)
  | clear

def call {ty : TagTypes} (c : ExtraParam) : Op ty → Result
  | .update tag data entry => c.update tag data entry
  | .remove tag entry => c.remove tag entry
  | .erase tag => c.erase tag
  | .clear => .ok c.clear

/-- The container after a call that returns, whatever it returns. -/
def next {ty : TagTypes} (c : ExtraParam) (op : Op ty) : Option ExtraParam :=
  match c.call op with
  | .ok (_, d) => some d
  | .error _ => none

end ExtraParam

end QmmfSdk
