import Mathlib.Data.List.Basic

/-! The buffer descriptions that the recorder service and its clients exchange. -/
namespace QmmfSdk.Binder

structure BnBuffer where
  ionFd : Int32
  ionMetaFd : Int32
  size : UInt32
  timestamp : UInt64
  width : UInt32
  height : UInt32
  bufferId : UInt32
  flag : UInt32
  capacity : UInt32
  deriving DecidableEq, Repr

end QmmfSdk.Binder
