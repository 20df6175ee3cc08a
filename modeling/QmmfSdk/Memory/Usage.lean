import QmmfSdk.Library.FlagTable

/-! `GBMUsage`: usage words in the common, the GBM and the gralloc vocabulary. -/
namespace QmmfSdk.Memory

open Library FlagTable

abbrev Usage := BitVec 32

/-- The GBM flags that have a word; the other common flags are mapped to 0. -/
inductive GbmFlag where
  | ubwcAligned
  | iommuHeap
  | mmHeap
  | uncached
  | protectedUsage
  | cpuRead
  | cpuWrite
  | videoEncoder
  | hwRendering
  | hwComposer
  | cameraRead
  | cameraWrite
  deriving DecidableEq, Repr

/-- The flag constants of the GBM headers: one bit for each flag, no two the same. -/
structure GbmFlags where
  bit : GbmFlag → Fin 32
  bit_injective : Function.Injective bit

/-- The flags in the order of their names, one bit after the other. -/
def GbmFlags.consecutive : GbmFlags where
  bit f := ⟨f.ctorIdx, by cases f <;> decide⟩
  bit_injective a b h := by
    revert h
    cases a <;> cases b <;> decide

namespace IMemAllocUsage

def kHwCameraZsl : Usage := 1 <<< 0
def kPrivateAllocUbwc : Usage := 1 <<< 1
def kPrivateIommUHeap : Usage := 1 <<< 2
def kPrivateMmHeap : Usage := 1 <<< 3
def kPrivateUncached : Usage := 1 <<< 4
def kProtected : Usage := 1 <<< 5
def kSwReadOften : Usage := 1 <<< 6
def kSwWriteOften : Usage := 1 <<< 7
def kVideoEncoder : Usage := 1 <<< 8
def kHwFb : Usage := 1 <<< 9
def kHwTexture : Usage := 1 <<< 10
def kHwRender : Usage := 1 <<< 11
def kHwComposer : Usage := 1 <<< 12
def kHwCameraRead : Usage := 1 <<< 13
def kHwCameraWrite : Usage := 1 <<< 14

end IMemAllocUsage

def grallocUsageProtected : Usage := 0x00004000
def grallocUsageSwReadOften : Usage := 0x00000003
def grallocUsageSwWriteOften : Usage := 0x00000030
def grallocUsageHwFb : Usage := 0x00001000
def grallocUsageHwCameraZsl : Usage := 0x00060000
def grallocUsageHwTexture : Usage := 0x00000100
def grallocUsageHwRender : Usage := 0x00000200
def grallocUsageHwComposer : Usage := 0x00000800
def grallocUsageHwVideoEncoder : Usage := 0x00010000
def grallocUsageHwCameraWrite : Usage := 0x00020000
def grallocUsageHwCameraRead : Usage := 0x00040000
def grallocUsagePrivateAllocUbwc : Usage := 0x10000000
def grallocUsagePrivateUncached : Usage := 0x02000000

open IMemAllocUsage

def grallocUsageFlagMap : List (Usage × Usage) := [
  (kHwCameraZsl, grallocUsageHwCameraZsl),
  (kPrivateAllocUbwc, grallocUsagePrivateAllocUbwc),
  (kPrivateUncached, grallocUsagePrivateUncached),
  (kProtected, grallocUsageProtected),
  (kSwReadOften, grallocUsageSwReadOften),
  (kSwWriteOften, grallocUsageSwWriteOften),
  (kVideoEncoder, grallocUsageHwVideoEncoder),
  (kHwFb, grallocUsageHwFb),
  (kHwTexture, grallocUsageHwTexture),
  (kHwRender, grallocUsageHwRender),
  (kHwComposer, grallocUsageHwComposer),
  (kHwCameraRead, grallocUsageHwCameraRead),
  (kHwCameraWrite, grallocUsageHwCameraWrite)]

def toGralloc (common : Usage) : Usage := translate grallocUsageFlagMap common

def grallocToCommon (gralloc : Usage) : Usage :=
  translate (grallocUsageFlagMap.map Prod.swap) gralloc

namespace GbmFlags

variable {g : GbmFlags} {u c d : Usage} {f f' : GbmFlag}

def word (g : GbmFlags) (f : GbmFlag) : Usage := BitVec.twoPow 32 (g.bit f)

def usageFlagMap (g : GbmFlags) : List (Usage × Usage) := [
  (kHwCameraZsl, 0),
  (kPrivateAllocUbwc, g.word .ubwcAligned),
  (kPrivateIommUHeap, g.word .iommuHeap),
  (kPrivateMmHeap, g.word .mmHeap),
  (kPrivateUncached, g.word .uncached),
  (kProtected, g.word .protectedUsage),
  (kSwReadOften, g.word .cpuRead),
  (kSwWriteOften, g.word .cpuWrite),
  (kVideoEncoder, g.word .videoEncoder),
  (kHwFb, 0),
  (kHwTexture, 0),
  (kHwRender, g.word .hwRendering),
  (kHwComposer, g.word .hwComposer),
  (kHwCameraRead, g.word .cameraRead),
  (kHwCameraWrite, g.word .cameraWrite)]

def toLocal (g : GbmFlags) (common : Usage) : Usage := translate g.usageFlagMap common

def toCommon (g : GbmFlags) (localUsage : Usage) : Usage :=
  translate (g.usageFlagMap.map Prod.swap) localUsage

def localToGralloc (g : GbmFlags) (localUsage : Usage) : Usage := toGralloc (g.toCommon localUsage)

def grallocToLocal (g : GbmFlags) (gralloc : Usage) : Usage := g.toLocal (grallocToCommon gralloc)


/-- The common flag that a GBM flag stands for. -/
def common : GbmFlag → Usage
  | .ubwcAligned => kPrivateAllocUbwc
  | .iommuHeap => kPrivateIommUHeap
  | .mmHeap => kPrivateMmHeap
  | .uncached => kPrivateUncached
  | .protectedUsage => kProtected
  | .cpuRead => kSwReadOften
  | .cpuWrite => kSwWriteOften
  | .videoEncoder => kVideoEncoder
  | .hwRendering => kHwRender
  | .hwComposer => kHwComposer
  | .cameraRead => kHwCameraRead
  | .cameraWrite => kHwCameraWrite

/-- The flags that gralloc has no word for. -/
def IsHeap (f : GbmFlag) : Prop := f = .iommuHeap ∨ f = .mmHeap

instance : DecidablePred IsHeap := fun f => inferInstanceAs (Decidable (f = _ ∨ f = _))

theorem hits_word_word : Hits (g.word f) (g.word f') ↔ f = f' := by
  rw [word, word, hits_twoPow_twoPow (g.bit f).isLt]
  exact ⟨fun h => g.bit_injective (Fin.ext h), fun h => by rw [h]⟩

theorem hits_common_common : Hits (common f) (common f') ↔ f = f' := by
  cases f <;> cases f' <;> decide

/-- An entry of the map gives nothing, or is that of a GBM flag. -/
theorem mem_usageFlagMap {e : Usage × Usage} (he : e ∈ g.usageFlagMap) :
    e.2 = 0 ∨ ∃ f, e = (common f, g.word f) := by
  simp only [usageFlagMap, List.mem_cons, List.not_mem_nil, or_false] at he
  rcases he with rfl | rfl | rfl | rfl | rfl | rfl | rfl | rfl | rfl | rfl | rfl | rfl | rfl | rfl | rfl
  · exact .inl rfl
  · exact .inr ⟨.ubwcAligned, rfl⟩
  · exact .inr ⟨.iommuHeap, rfl⟩
  · exact .inr ⟨.mmHeap, rfl⟩
  · exact .inr ⟨.uncached, rfl⟩
  · exact .inr ⟨.protectedUsage, rfl⟩
  · exact .inr ⟨.cpuRead, rfl⟩
  · exact .inr ⟨.cpuWrite, rfl⟩
  · exact .inr ⟨.videoEncoder, rfl⟩
  · exact .inl rfl
  · exact .inl rfl
  · exact .inr ⟨.hwRendering, rfl⟩
  · exact .inr ⟨.hwComposer, rfl⟩
  · exact .inr ⟨.cameraRead, rfl⟩
  · exact .inr ⟨.cameraWrite, rfl⟩

theorem entry_mem (f : GbmFlag) : (common f, g.word f) ∈ g.usageFlagMap := by
  cases f <;> simp [usageFlagMap, common]

theorem hits_word_toLocal : Hits (g.word f) (g.toLocal c) ↔ Hits (common f) c := by
  rw [toLocal, hits_translate]
  constructor
  · rintro ⟨e, he, hc, hf⟩
    obtain hzero | ⟨f', rfl⟩ := mem_usageFlagMap he
    · rw [hzero] at hf
      exact absurd hf not_hits_zero
    · obtain rfl := hits_word_word.mp hf
      exact hc
  · intro h
    exact ⟨_, entry_mem f, h, hits_word_word.mpr rfl⟩

theorem hits_common_toCommon : Hits (common f) (g.toCommon u) ↔ Hits (g.word f) u := by
  rw [toCommon, hits_translate]
  constructor
  · rintro ⟨e, he, hu, hf⟩
    obtain ⟨e', he', rfl⟩ := List.mem_map.mp he
    obtain hzero | ⟨f', rfl⟩ := mem_usageFlagMap he'
    · rw [Prod.fst_swap, hzero, hits_comm] at hu
      exact absurd hu not_hits_zero
    · obtain rfl := hits_common_common.mp hf
      exact hu
  · intro h
    exact ⟨_, List.mem_map_of_mem (entry_mem f), h, hits_common_common.mpr rfl⟩

theorem toLocal_eq_iff :
    g.toLocal c = g.toLocal d ↔ ∀ f, Hits (common f) c ↔ Hits (common f) d := by
  constructor
  · intro h f
    rw [← hits_word_toLocal (g := g), h, hits_word_toLocal]
  · intro h
    refine translate_congr fun e he => ?_
    obtain hzero | ⟨f, rfl⟩ := mem_usageFlagMap he
    · exact .inl hzero
    · exact .inr (h f)

theorem not_hits_zsl_common : ¬ Hits kHwCameraZsl (common f) := by
  cases f <;> decide

theorem not_hits_zsl_toCommon : ¬ Hits kHwCameraZsl (g.toCommon u) := by
  rw [toCommon, hits_translate]
  rintro ⟨e, he, hu, hzsl⟩
  obtain ⟨e', he', rfl⟩ := List.mem_map.mp he
  obtain hzero | ⟨f, rfl⟩ := mem_usageFlagMap he'
  · rw [Prod.fst_swap, hzero, hits_comm] at hu
    exact not_hits_zero hu
  · exact not_hits_zsl_common hzsl

/-- Of the gralloc words only that of the snapshot streams shares a bit with another. -/
theorem gralloc_overlap : ∀ e ∈ grallocUsageFlagMap, ∀ e' ∈ grallocUsageFlagMap, Hits e.2 e'.2 →
    e.1 = e'.1 ∨ e.1 = kHwCameraZsl ∨ e'.1 = kHwCameraZsl := by
  have hall : (grallocUsageFlagMap.all fun e => grallocUsageFlagMap.all fun e' =>
      decide (Hits e.2 e'.2 → e.1 = e'.1 ∨ e.1 = kHwCameraZsl ∨ e'.1 = kHwCameraZsl)) = true := by
    decide
  intro e he e' he'
  exact of_decide_eq_true (List.all_eq_true.mp (List.all_eq_true.mp hall e he) e' he')

theorem gralloc_entry : ∀ e ∈ grallocUsageFlagMap, Hits (common f) e.1 →
    e.1 = common f ∧ ¬ IsHeap f := by
  have hall : (grallocUsageFlagMap.all fun e =>
      decide (Hits (common f) e.1 → e.1 = common f ∧ ¬ IsHeap f)) = true := by
    cases f <;> decide
  intro e he
  exact of_decide_eq_true (List.all_eq_true.mp hall e he)

theorem exists_gralloc_entry (hf : ¬ IsHeap f) :
    ∃ e ∈ grallocUsageFlagMap, e.1 = common f ∧ Hits e.2 e.2 := by
  have hany : (grallocUsageFlagMap.any fun e =>
      decide (e.1 = common f ∧ Hits e.2 e.2)) = true := by
    revert hf
    cases f <;> decide
  obtain ⟨e, he, hentry⟩ := List.any_eq_true.mp hany
  exact ⟨e, he, of_decide_eq_true hentry⟩

/-- Through gralloc and back a word of common flags loses the two heaps. -/
theorem hits_common_grallocToCommon (hd : ¬ Hits kHwCameraZsl d) :
    Hits (common f) (grallocToCommon (toGralloc d)) ↔ Hits (common f) d ∧ ¬ IsHeap f := by
  rw [grallocToCommon, hits_translate]
  constructor
  · rintro ⟨_, hmem, hgralloc, hf⟩
    obtain ⟨e, he, rfl⟩ := List.mem_map.mp hmem
    obtain ⟨heq, hheap⟩ := gralloc_entry e he hf
    obtain ⟨e', he', hd', hsame⟩ := hits_translate.mp hgralloc
    obtain hkey | hkey | hkey := gralloc_overlap e he e' he' hsame
    · rw [← hkey, heq] at hd'
      exact ⟨hd', hheap⟩
    · have hzsl := not_hits_zsl_common (f := f)
      rw [← hkey, heq] at hzsl
      exact absurd (hits_common_common.mpr rfl) hzsl
    · rw [hkey] at hd'
      exact absurd hd' hd
  · rintro ⟨hf, hheap⟩
    obtain ⟨e, he, heq, hself⟩ := exists_gralloc_entry hheap
    refine ⟨e.swap, List.mem_map_of_mem he, hits_translate.mpr ⟨e, he, by rwa [heq], hself⟩, ?_⟩
    rw [Prod.snd_swap, heq]
    exact hits_common_common.mpr rfl

/-- A usage word survives both conversions exactly when it names no heap. -/
theorem grallocToLocal_localToGralloc_iff :
    g.grallocToLocal (g.localToGralloc (g.toLocal c)) = g.toLocal c ↔
      ∀ f, IsHeap f → ¬ Hits (g.word f) (g.toLocal c) := by
  rw [grallocToLocal, localToGralloc, toLocal_eq_iff]
  refine forall_congr' fun f => ?_
  rw [hits_common_grallocToCommon not_hits_zsl_toCommon, hits_common_toCommon, hits_word_toLocal]
  tauto

end GbmFlags

end QmmfSdk.Memory
