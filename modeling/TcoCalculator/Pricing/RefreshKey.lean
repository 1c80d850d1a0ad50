/-
The key of a price refresh and the bytes that are hashed for it
(RefreshKey in src/rust/src/pricing/coordinator.rs).
-/
import TcoCalculator.Library.Bytes
import TcoCalculator.Pricing.Provider
import Std.Data.String

namespace TcoCalculator

/-- A text in memory, which has at most `isize::MAX` bytes. -/
structure HeldText where
  text : String
  utf8ByteSize_lt : text.utf8ByteSize < 2 ^ 63
  deriving DecidableEq

namespace HeldText

def bytes (held : HeldText) : List UInt8 := held.text.toUTF8.data.toList

@[simp] theorem length_bytes (held : HeldText) : held.bytes.length = held.text.utf8ByteSize := by
  rw [bytes, Array.length_toList]
  rfl

theorem bytes_inj {held held' : HeldText} : held.bytes = held'.bytes ↔ held = held' := by
  constructor
  · intro h
    obtain ⟨text, hsize⟩ := held
    obtain ⟨text', hsize'⟩ := held'
    have htext : text = text' :=
      String.toByteArray_inj.mp (ByteArray.ext (Array.toList_inj.mp h))
    subst htext
    rfl
  · rintro rfl
    rfl

end HeldText

structure RefreshKey where
  provider : Provider
  currency : HeldText
  sourceRegion : Option HeldText
  targetRegion : HeldText
  service : HeldText
  normalizedFilter : HeldText
  parserSchemaVersion : HeldText
  deriving DecidableEq

namespace RefreshKey

def providerName : Provider → HeldText
  | .aws => ⟨"aws", by decide⟩
  | .azure => ⟨"azure", by decide⟩

/-- The components that are hashed, in their order. -/
def components (key : RefreshKey) : List (Option HeldText) := [
  some (providerName key.provider),
  some key.currency,
  key.sourceRegion,
  some key.targetRegion,
  some key.service,
  some key.normalizedFilter,
  some key.parserSchemaVersion]

/-- What `hash_component` gives to the hasher. -/
def hashComponent (value : Option HeldText) : List UInt8 := Bytes.frame (value.map HeldText.bytes)

/-- The bytes that are hashed. -/
def hashed (key : RefreshKey) : List UInt8 := key.components.flatMap hashComponent

/-- The key of the lease, for a digest function. -/
def sha256 (digest : List UInt8 → List UInt8) (key : RefreshKey) : String :=
  Bytes.hexText (digest key.hashed)

theorem fits (value : Option HeldText) : Bytes.Fits (value.map HeldText.bytes) := by
  intro bytes hbytes
  obtain ⟨held, -, rfl⟩ := Option.map_eq_some_iff.mp hbytes
  rw [HeldText.length_bytes]
  exact held.utf8ByteSize_lt.trans (by decide)

theorem hashed_eq (key : RefreshKey) :
    key.hashed = Bytes.frames (key.components.map (Option.map HeldText.bytes)) := by
  rw [hashed, Bytes.frames, List.flatMap_map]
  rfl

theorem components_inj {key key' : RefreshKey} (h : key.components = key'.components) :
    key = key' := by
  obtain ⟨provider, currency, sourceRegion, targetRegion, service, filter, version⟩ := key
  obtain ⟨provider', currency', sourceRegion', targetRegion', service', filter', version'⟩ := key'
  simp only [components, List.cons.injEq, Option.some.injEq, and_true] at h
  obtain ⟨hprovider, rfl, rfl, rfl, rfl, rfl, rfl⟩ := h
  cases provider <;> cases provider' <;> simp_all [providerName]

theorem hashed_inj {key key' : RefreshKey} (h : key.hashed = key'.hashed) : key = key' := by
  have hfits : ∀ key : RefreshKey, ∀ component ∈ key.components.map (Option.map HeldText.bytes),
      Bytes.Fits component := by
    intro key component hcomponent
    obtain ⟨value, -, rfl⟩ := List.mem_map.mp hcomponent
    exact fits value
  rw [hashed_eq, hashed_eq, Bytes.frames_inj (hfits key) (hfits key')] at h
  apply components_inj
  refine List.map_injective_iff.mpr ?_ h
  exact Option.map_injective fun _ _ => HeldText.bytes_inj.mp

/-- The hashed bytes tell any two keys apart. -/
theorem hashed_eq_iff (key key' : RefreshKey) : key.hashed = key'.hashed ↔ key = key' := by
  constructor
  · exact hashed_inj
  · rintro rfl
    rfl

/-- Unless their digests collide, keys share a lease only when they are equal. -/
theorem sha256_eq_iff {digest : List UInt8 → List UInt8} {key key' : RefreshKey}
    (hdigest : digest key.hashed = digest key'.hashed → key.hashed = key'.hashed) :
    sha256 digest key = sha256 digest key' ↔ key = key' := by
  rw [sha256, sha256, Bytes.hexText_inj]
  constructor
  · intro h
    exact hashed_inj (hdigest h)
  · rintro rfl
    rfl

end RefreshKey

end TcoCalculator
