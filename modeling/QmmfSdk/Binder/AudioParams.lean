import QmmfSdk.Binder.Parcel
import Mathlib.Data.List.OfFn
import Mathlib.Data.List.TakeWhile

/-! `AudioTrackCreateParamInternal`: the parameters of an audio track in a parcel. -/
namespace QmmfSdk.Binder

open Library Library.Reader Parcel

variable {B M : Type}

inductive AACFormat where
  | adts | adif | raw | mp4ff
  deriving DecidableEq, Repr

inductive AACMode where
  | aalc | hevcV1 | hevcV2
  deriving DecidableEq, Repr

inductive G711Mode where
  | aLaw | muLaw
  deriving DecidableEq, Repr

inductive AudioFormat where
  | pcm | aac | amr | g711 | mp3 | mpegh
  deriving DecidableEq, Repr

/-- The place of `x` in its enumeration, as `int32_t`. -/
def codeIn {E : Type} [DecidableEq E] (es : List E) (x : E) : Int32 := .ofNat (es.idxOf x)

/-- `static_cast` of an `int32_t` that names an enumerator. -/
def readEnum {E : Type} (es : List E) : Reader (Item B M) E := do
  let code ← readInt32
  match es[code.toInt.toNat]? with
  | some e => return e
  | none => failure

def aacFormats : List AACFormat := [.adts, .adif, .raw, .mp4ff]

def aacModes : List AACMode := [.aalc, .hevcV1, .hevcV2]

def g711Modes : List G711Mode := [.aLaw, .muLaw]

def audioFormats : List AudioFormat := [.pcm, .aac, .amr, .g711, .mp3, .mpegh]

structure AACParams where
  format : AACFormat
  mode : AACMode
  frameLength : Int32
  bitRate : Int32
  deriving DecidableEq, Repr

structure AMRParams where
  isWAMR : Bool
  bitRate : Int32
  deriving DecidableEq, Repr

structure G711Params where
  mode : G711Mode
  bitRate : Int32
  deriving DecidableEq, Repr

structure MPEGHParams where
  bitRate : Int32
  deriving DecidableEq, Repr

/-- `format` with the member of `codec_params` that it selects. -/
inductive AudioCodec where
  | pcm
  | aac (params : AACParams)
  | amr (params : AMRParams)
  | g711 (params : G711Params)
  | mp3
  | mpegh (params : MPEGHParams)
  deriving DecidableEq, Repr

def AudioCodec.format : AudioCodec → AudioFormat
  | pcm => .pcm
  | aac _ => .aac
  | amr _ => .amr
  | g711 _ => .g711
  | mp3 => .mp3
  | mpegh _ => .mpegh

section Codecs

def AACParams.toParcel (p : AACParams) : List (Item B M) :=
  [int32 (codeIn aacFormats p.format), int32 (codeIn aacModes p.mode), int32 p.frameLength,
   int32 p.bitRate]

def AACParams.fromParcel : Reader (Item B M) AACParams := do
  let format ← readEnum aacFormats
  let mode ← readEnum aacModes
  let frameLength ← readInt32
  let bitRate ← readInt32
  return ⟨format, mode, frameLength, bitRate⟩

def AMRParams.toParcel (p : AMRParams) : List (Item B M) :=
  [int32 (if p.isWAMR then 1 else 0), int32 p.bitRate]

def AMRParams.fromParcel : Reader (Item B M) AMRParams := do
  let isWAMR ← readInt32
  let bitRate ← readInt32
  return ⟨isWAMR != 0, bitRate⟩

def G711Params.toParcel (p : G711Params) : List (Item B M) :=
  [int32 (codeIn g711Modes p.mode), int32 p.bitRate]

def G711Params.fromParcel : Reader (Item B M) G711Params := do
  let mode ← readEnum g711Modes
  let bitRate ← readInt32
  return ⟨mode, bitRate⟩

def MPEGHParams.toParcel (p : MPEGHParams) : List (Item B M) := [int32 p.bitRate]

def MPEGHParams.fromParcel : Reader (Item B M) MPEGHParams := MPEGHParams.mk <$> readInt32

/-- The `switch` of `ToParcel`. -/
def AudioCodec.toParcel : AudioCodec → List (Item B M)
  | pcm => []
  | aac params => params.toParcel
  | amr params => params.toParcel
  | g711 params => params.toParcel
  | mp3 => []
  | mpegh params => params.toParcel

/-- The `switch` of `FromParcel`. -/
def AudioCodec.fromParcel : AudioFormat → Reader (Item B M) AudioCodec
  | .pcm => pure .pcm
  | .aac => .aac <$> AACParams.fromParcel
  | .amr => .amr <$> AMRParams.fromParcel
  | .g711 => .g711 <$> G711Params.fromParcel
  | .mp3 => pure .mp3
  | .mpegh => .mpegh <$> MPEGHParams.fromParcel

theorem reads_enum {E : Type} [DecidableEq E] {es : List E} {e : E} (hmem : e ∈ es)
    (hlen : es.length < 2 ^ 31) : Reads (readEnum (B := B) (M := M) es) [int32 (codeIn es e)] e := by
  have hidx := List.idxOf_lt_length_of_mem hmem
  have hcode : (codeIn es e).toInt.toNat = es.idxOf e := by
    rw [codeIn, Int32.toInt_ofNat_of_lt (by omega), Int.toNat_natCast]
  have hget : es[(codeIn es e).toInt.toNat]? = some e := by
    rw [hcode, List.getElem?_eq_getElem hidx, List.getElem_idxOf]
  refine reads_int32.bind ?_
  rw [hget]
  exact .pure e

theorem AACParams.reads_toParcel (p : AACParams) :
    Reads fromParcel (toParcel p : List (Item B M)) p := by
  have hf : p.format ∈ aacFormats := by cases p.format <;> decide
  have hm : p.mode ∈ aacModes := by cases p.mode <;> decide
  exact (reads_enum hf (by decide)).bind ((reads_enum hm (by decide)).bind
    (reads_int32.bind (reads_int32.bind (.pure p))))

theorem AMRParams.reads_toParcel (p : AMRParams) :
    Reads fromParcel (toParcel p : List (Item B M)) p := by
  obtain ⟨isWAMR, bitRate⟩ := p
  cases isWAMR
  · exact reads_int32.bind (reads_int32.bind (.pure _))
  · exact reads_int32.bind (reads_int32.bind (.pure _))

theorem G711Params.reads_toParcel (p : G711Params) :
    Reads fromParcel (toParcel p : List (Item B M)) p := by
  have hm : p.mode ∈ g711Modes := by cases p.mode <;> decide
  exact (reads_enum hm (by decide)).bind (reads_int32.bind (.pure p))

theorem MPEGHParams.reads_toParcel (p : MPEGHParams) :
    Reads fromParcel (toParcel p : List (Item B M)) p :=
  reads_int32.map

/-- The reader that the format selects takes back what the codec wrote. -/
theorem AudioCodec.reads_toParcel (c : AudioCodec) :
    Reads (fromParcel c.format) (toParcel c : List (Item B M)) c := by
  cases c with
  | pcm => exact .pure _
  | aac params => exact params.reads_toParcel.map
  | amr params => exact params.reads_toParcel.map
  | g711 params => exact params.reads_toParcel.map
  | mp3 => exact .pure _
  | mpegh params => exact params.reads_toParcel.map

end Codecs

section Arrays

variable {α : Type} {n : Nat}

/-- An array after its first elements were overwritten. -/
def overwrite (xs : List α) (array : Fin n → α) : Fin n → α := fun i => xs[i.val]?.getD (array i)

theorem ofFn_overwrite {xs : List α} {array : Fin n → α} (h : xs.length ≤ n) :
    List.ofFn (overwrite xs array) = xs ++ (List.ofFn array).drop xs.length := by
  apply List.ext_getElem
  · simp only [List.length_ofFn, List.length_append, List.length_drop]
    omega
  · intro i hi hi'
    rw [List.getElem_ofFn, List.getElem_append]
    unfold overwrite
    split
    · next hlt => rw [List.getElem?_eq_getElem hlt, Option.getD_some]
    · next hge =>
      rw [List.getElem?_eq_none (Nat.le_of_not_lt hge), Option.getD_none, List.getElem_drop,
        List.getElem_ofFn]
      congr 1
      apply Fin.ext
      simp only
      omega

end Arrays

/-- `MAX_AUDIO_INPUT_DEVICES`. -/
def maxAudioInputDevices : Nat := 10

/-- `MAX_AUDIO_PROFILE`. -/
def maxAudioProfile : Nat := 80

structure AudioTrackCreateParam where
  inDevicesNum : UInt32
  inDevices : Fin maxAudioInputDevices → Int32
  sampleRate : UInt32
  channels : UInt32
  bitDepth : UInt32
  profile : Fin maxAudioProfile → UInt8
  codec : AudioCodec
  outDevice : Int32
  flags : UInt32

namespace AudioTrackCreateParam

/-- The devices that are set. -/
def devices (p : AudioTrackCreateParam) : List Int32 :=
  (List.ofFn p.inDevices).take p.inDevicesNum.toNat

/-- `profile` as a C string. -/
def profileText (p : AudioTrackCreateParam) : List UInt8 :=
  (List.ofFn p.profile).takeWhile (· != 0)

def toParcel (p : AudioTrackCreateParam) : List (Item B M) :=
  .word p.inDevicesNum :: (p.devices.map int32 ++
    (.word p.sampleRate :: .word p.channels :: .word p.bitDepth :: .cString p.profileText ::
      int32 (codeIn audioFormats p.codec.format) ::
        (p.codec.toParcel ++ [int32 p.outDevice, .word p.flags])))

/-- `FromParcel` on the object `old`; what it does not set stays. -/
def fromParcel (old : AudioTrackCreateParam) : Reader (Item B M) AudioTrackCreateParam := do
  let num ← readUint32
  let inDevicesNum := if maxAudioInputDevices < num.toNat then .ofNat maxAudioInputDevices else num
  let devices ← readInt32.many inDevicesNum.toNat
  let sampleRate ← readUint32
  let channels ← readUint32
  let bitDepth ← readUint32
  let text ← readCString
  let format ← readEnum audioFormats
  let codec ← AudioCodec.fromParcel format
  let outDevice ← readInt32
  let flags ← readUint32
  return {
    inDevicesNum, sampleRate, channels, bitDepth, codec, outDevice, flags
    inDevices := overwrite devices old.inDevices
    profile := overwrite (text.take maxAudioProfile) old.profile }

/-- The constructor clears the profile and nothing else. -/
def Constructed (old : AudioTrackCreateParam) : Prop := ∀ i, old.profile i = 0

/-- The profile has its NUL. -/
def Terminated (p : AudioTrackCreateParam) : Prop := ∃ i, p.profile i = 0

/-- Equal as parameters: what lies behind the devices that are set and behind the NUL of the profile
is no part of the value. -/
structure Same (p q : AudioTrackCreateParam) : Prop where
  inDevicesNum : p.inDevicesNum = q.inDevicesNum
  devices : p.devices = q.devices
  sampleRate : p.sampleRate = q.sampleRate
  channels : p.channels = q.channels
  bitDepth : p.bitDepth = q.bitDepth
  profile : p.profileText = q.profileText
  codec : p.codec = q.codec
  outDevice : p.outDevice = q.outDevice
  flags : p.flags = q.flags

variable {p old : AudioTrackCreateParam}

theorem length_devices (h : p.inDevicesNum.toNat ≤ maxAudioInputDevices) :
    p.devices.length = p.inDevicesNum.toNat := by
  rw [devices, List.length_take, List.length_ofFn]
  omega

/-- The object that `FromParcel` leaves for the parcel of `p`. -/
def received (p old : AudioTrackCreateParam) : AudioTrackCreateParam :=
  { p with
    inDevices := overwrite p.devices old.inDevices
    profile := overwrite (p.profileText.take maxAudioProfile) old.profile }

theorem reads_received (h : p.inDevicesNum.toNat ≤ maxAudioInputDevices) :
    Reads (fromParcel old) (toParcel p : List (Item B M)) (received p old) := by
  have hnum : (if maxAudioInputDevices < p.inDevicesNum.toNat then .ofNat maxAudioInputDevices
      else p.inDevicesNum) = p.inDevicesNum := if_neg (Nat.not_lt.mpr h)
  have hformat : p.codec.format ∈ audioFormats := by
    generalize p.codec.format = format
    cases format <;> decide
  have hdevices : Reads (readInt32.many p.inDevicesNum.toNat)
      (p.devices.map int32 : List (Item B M)) p.devices := by
    rw [List.map_eq_flatMap, ← length_devices h]
    exact .many fun _ _ => reads_int32
  refine reads_uint32.bind ?_
  dsimp only
  rw [hnum]
  exact hdevices.bind (reads_uint32.bind (reads_uint32.bind (reads_uint32.bind (reads_cString.bind
    ((reads_enum hformat (by decide)).bind (p.codec.reads_toParcel.bind (reads_int32.bind
      (reads_uint32.bind (.pure _)))))))))

theorem devices_received (h : p.inDevicesNum.toNat ≤ maxAudioInputDevices) :
    (received p old).devices = p.devices := by
  have hlen := length_devices h
  have hovr : List.ofFn (received p old).inDevices = _ := ofFn_overwrite (by omega)
  have hnum : (received p old).inDevicesNum.toNat = p.devices.length := hlen.symm
  rw [devices, hovr, hnum, List.take_left]

theorem length_profileText (h : p.Terminated) : p.profileText.length < maxAudioProfile := by
  obtain ⟨i, hi⟩ := h
  by_contra hge
  have hlen : (List.ofFn p.profile).length = maxAudioProfile := List.length_ofFn
  have hsub := List.takeWhile_prefix (fun b : UInt8 => b != 0) (l := List.ofFn p.profile)
  -- a text that fills the array would have no NUL in it
  have hall : (List.ofFn p.profile).takeWhile (· != 0) = List.ofFn p.profile :=
    hsub.eq_of_length_le (by rw [hlen]; exact Nat.le_of_not_lt hge)
  have hmem : p.profile i ∈ (List.ofFn p.profile).takeWhile (· != 0) := by
    rw [hall]
    exact List.mem_ofFn.mpr ⟨i, rfl⟩
  have hne := List.mem_takeWhile_imp hmem
  rw [hi] at hne
  exact absurd hne (by decide)

theorem profile_received (h : p.Terminated) :
    List.ofFn (received p old).profile =
      p.profileText ++ (List.ofFn old.profile).drop p.profileText.length := by
  have hlen := length_profileText h
  have htake : p.profileText.take maxAudioProfile = p.profileText :=
    List.take_of_length_le (Nat.le_of_lt hlen)
  have hovr : List.ofFn (received p old).profile = _ := ofFn_overwrite (by rw [htake]; omega)
  rw [hovr, htake]

theorem profileText_received (h : p.Terminated) (hold : old.Constructed) :
    (received p old).profileText = p.profileText := by
  have hzero : ((List.ofFn old.profile).drop p.profileText.length).takeWhile (· != 0) = [] := by
    rw [List.takeWhile_eq_nil_iff]
    intro hpos hne
    have hmem := List.mem_of_mem_drop (List.getElem_mem hpos)
    obtain ⟨i, hi⟩ := List.mem_ofFn.mp hmem
    rw [List.get_eq_getElem, ← hi, hold i] at hne
    exact absurd hne (by decide)
  rw [profileText, profile_received h, List.takeWhile_append_of_pos, hzero, List.append_nil]
  intro b hb
  exact List.mem_takeWhile_imp (p := (· != 0)) hb

theorem terminated_received (h : p.Terminated) (hold : old.Constructed) :
    (received p old).Terminated := by
  have hlen := length_profileText h
  refine ⟨⟨p.profileText.length, hlen⟩, ?_⟩
  have htake : p.profileText.take maxAudioProfile = p.profileText :=
    List.take_of_length_le (Nat.le_of_lt hlen)
  simp only [received, overwrite, htake]
  rw [List.getElem?_eq_none (Nat.le_refl _), Option.getD_none, hold]

/-- Whatever follows in the parcel, a new object reads back equal parameters and takes exactly what
was written. -/
theorem fromParcel_toParcel (rest : List (Item B M))
    (hnum : p.inDevicesNum.toNat ≤ maxAudioInputDevices) (hnul : p.Terminated)
    (hold : old.Constructed) :
    ∃ q, (fromParcel old).run (p.toParcel ++ rest) = some (q, rest) ∧ Same q p ∧ q.Terminated := by
  refine ⟨received p old, reads_received hnum rest, ?_, terminated_received hnul hold⟩
  exact ⟨rfl, devices_received hnum, rfl, rfl, rfl, profileText_received hnul hold, rfl, rfl, rfl⟩

/-- Two devices and a profile of three characters, encoded as AAC. -/
def stereo : AudioTrackCreateParam where
  inDevicesNum := 2
  inDevices := fun i => if i.val = 0 then 3 else if i.val = 1 then 7 else -1
  sampleRate := 48000
  channels := 2
  bitDepth := 16
  profile := fun i => if i.val < 3 then 65 else 0
  codec := .aac ⟨.mp4ff, .hevcV1, 1024, 96000⟩
  outDevice := 0
  flags := 0

theorem fromParcel_toParcel_stereo : ∃ q,
    (fromParcel { stereo with codec := .pcm, profile := fun _ => 0, inDevices := fun _ => 99 }).run
      (stereo.toParcel ++ [(.word 5 : Item Unit Unit)]) = some (q, [.word 5]) ∧
    Same q stereo ∧ q.Terminated :=
  fromParcel_toParcel [.word 5] (by decide) ⟨⟨3, by decide⟩, rfl⟩ fun _ => rfl

end AudioTrackCreateParam

end QmmfSdk.Binder
