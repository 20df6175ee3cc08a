import QmmfSdk.Binder.Types
import QmmfSdk.Library.Wire

/-! A `Parcel` as the queue of what was written to it. -/
namespace QmmfSdk.Binder

open Library Library.Reader

/-- What one write puts into a parcel; `B` is what a blob is copied from, `M` a metadata buffer. -/
inductive Item (B M : Type) where
  /-- The interface token. -/
  | token
  /-- `writeInt32` and `writeUint32`. -/
  | word (v : UInt32)
  /-- `writeInt64`. -/
  | dword (v : Int64)
  /-- The bytes up to the NUL. -/
  | cString (s : List UInt8)
  | blob (size : UInt32) (object : B)
  /-- `CameraMetadata::writeToParcel`; a `CameraMetadata` may be without a buffer. -/
  | metadata (m : Option M)
  deriving DecidableEq

namespace Parcel

variable {B M : Type}

def int32 (v : Int32) : Item B M := .word v.toUInt32

def readToken : Reader (Item B M) Unit := fun
  | .token :: rest => some ((), rest)
  | _ => none

def readUint32 : Reader (Item B M) UInt32 := fun
  | .word v :: rest => some (v, rest)
  | _ => none

def readInt32 : Reader (Item B M) Int32 := UInt32.toInt32 <$> readUint32

def readInt64 : Reader (Item B M) Int64 := fun
  | .dword v :: rest => some (v, rest)
  | _ => none

def readCString : Reader (Item B M) (List UInt8) := fun
  | .cString s :: rest => some (s, rest)
  | _ => none

def readBlob (size : UInt32) : Reader (Item B M) B := fun
  | .blob n object :: rest => if n = size then some (object, rest) else none
  | _ => none

/-- `CameraMetadata::readFromParcel`. -/
def readMetadata : Reader (Item B M) (Option M) := fun
  | .metadata m :: rest => some (m, rest)
  | _ => none

theorem reads_token : Reads (readToken (B := B) (M := M)) [.token] () := fun _ => rfl

theorem reads_uint32 {v : UInt32} : Reads (readUint32 (B := B) (M := M)) [.word v] v := fun _ => rfl

theorem reads_int32 {v : Int32} : Reads (readInt32 (B := B) (M := M)) [int32 v] v := by
  have h : Reads (readInt32 (B := B) (M := M)) [int32 v] v.toUInt32.toInt32 := reads_uint32.map
  rwa [Int32.toInt32_toUInt32] at h

theorem reads_int64 {v : Int64} : Reads (readInt64 (B := B) (M := M)) [.dword v] v := fun _ => rfl

theorem reads_cString {s : List UInt8} :
    Reads (readCString (B := B) (M := M)) [.cString s] s := fun _ => rfl

theorem reads_blob {size : UInt32} {object : B} :
    Reads (readBlob (B := B) (M := M) size) [.blob size object] object := fun _ => if_pos rfl

theorem reads_metadata {m : Option M} :
    Reads (readMetadata (B := B) (M := M)) [.metadata m] m := fun _ => rfl

end Parcel

namespace BnBuffer

variable {B M : Type}

open Parcel

/-- `ToParcel` without file descriptors. -/
def toParcel (b : BnBuffer) : List (Item B M) :=
  [.word b.ionFd.toUInt32, .word b.ionMetaFd.toUInt32, .word b.size,
   .dword b.timestamp.toInt64, .word b.width, .word b.height, .word b.bufferId, .word b.flag,
   .word b.capacity]

/-- `FromParcel` without file descriptors. -/
def fromParcel : Reader (Item B M) BnBuffer := do
  let ionFd ← readUint32
  let ionMetaFd ← readUint32
  let size ← readUint32
  let timestamp ← readInt64
  let width ← readUint32
  let height ← readUint32
  let bufferId ← readUint32
  let flag ← readUint32
  let capacity ← readUint32
  return ⟨ionFd.toInt32, ionMetaFd.toInt32, size, timestamp.toUInt64, width, height, bufferId, flag,
    capacity⟩

theorem reads_toParcel (b : BnBuffer) : Reads fromParcel (toParcel b : List (Item B M)) b := by
  obtain ⟨ionFd, ionMetaFd, size, timestamp, width, height, bufferId, flag, capacity⟩ := b
  have h : Reads fromParcel (toParcel ⟨ionFd, ionMetaFd, size, timestamp, width, height, bufferId,
      flag, capacity⟩ : List (Item B M))
      ⟨ionFd.toUInt32.toInt32, ionMetaFd.toUInt32.toInt32, size, timestamp.toInt64.toUInt64, width,
        height, bufferId, flag, capacity⟩ :=
    reads_uint32.bind (reads_uint32.bind (reads_uint32.bind (reads_int64.bind (reads_uint32.bind
      (reads_uint32.bind (reads_uint32.bind (reads_uint32.bind (reads_uint32.bind (.pure _)))))))))
  rwa [Int32.toInt32_toUInt32, Int32.toInt32_toUInt32, UInt64.toUInt64_toInt64] at h

end BnBuffer

end QmmfSdk.Binder
