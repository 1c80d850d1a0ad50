/-
Numbers as bytes of a fixed width, and components framed by a tag and their
length: what is written can be told apart again.
-/
import Mathlib.Data.Nat.Digits.Defs
import Mathlib.Data.List.Basic

namespace Bytes

/-! ### Numbers -/

/-- The lowest bytes of a number, the lowest first. -/
def littleEndian : Nat → Nat → List UInt8
  | 0, _ => []
  | width + 1, n => UInt8.ofNat n :: littleEndian width (n / 256)

/-- The lowest bytes of a number, the highest first. -/
def bigEndian (width n : Nat) : List UInt8 := (littleEndian width n).reverse

def ofLittleEndian (bytes : List UInt8) : Nat := Nat.ofDigits 256 (bytes.map UInt8.toNat)

@[simp] theorem length_littleEndian (width n : Nat) : (littleEndian width n).length = width := by
  induction width generalizing n with
  | zero => rfl
  | succ width ih => rw [littleEndian, List.length_cons, ih]

@[simp] theorem length_bigEndian (width n : Nat) : (bigEndian width n).length = width := by
  rw [bigEndian, List.length_reverse, length_littleEndian]

theorem ofLittleEndian_littleEndian (width n : Nat) :
    ofLittleEndian (littleEndian width n) = n % 256 ^ width := by
  induction width generalizing n with
  | zero => simp [littleEndian, ofLittleEndian, Nat.mod_one]
  | succ width ih =>
      have hrest := ih (n / 256)
      rw [ofLittleEndian] at hrest
      have hlow : (UInt8.ofNat n).toNat = n % 256 := UInt8.toNat_ofNat'
      rw [littleEndian, ofLittleEndian, List.map_cons, Nat.ofDigits_cons, hrest, hlow, Nat.pow_succ']
      exact Nat.mod_mul.symm

theorem littleEndian_inj {width m n : Nat} (hm : m < 256 ^ width) (hn : n < 256 ^ width) :
    littleEndian width m = littleEndian width n ↔ m = n := by
  constructor
  · intro h
    have hread := congrArg ofLittleEndian h
    rwa [ofLittleEndian_littleEndian, ofLittleEndian_littleEndian, Nat.mod_eq_of_lt hm,
      Nat.mod_eq_of_lt hn] at hread
  · rintro rfl
    rfl

theorem bigEndian_inj {width m n : Nat} (hm : m < 256 ^ width) (hn : n < 256 ^ width) :
    bigEndian width m = bigEndian width n ↔ m = n := by
  rw [bigEndian, bigEndian, List.reverse_inj, littleEndian_inj hm hn]

/-! ### Frames -/

/-- A component with its length in eight bytes, or a mark that there is none. -/
def frame : Option (List UInt8) → List UInt8
  | some bytes => 1 :: (bigEndian 8 bytes.length ++ bytes)
  | none => [0]

/-- The length of the component has room in its eight bytes. -/
def Fits (component : Option (List UInt8)) : Prop :=
  ∀ bytes ∈ component, bytes.length < 256 ^ 8

/-- A frame ends where its component does, whatever follows. -/
theorem frame_append_inj {component component' : Option (List UInt8)} (h : Fits component)
    (h' : Fits component') {rest rest' : List UInt8} :
    frame component ++ rest = frame component' ++ rest' ↔
      component = component' ∧ rest = rest' := by
  constructor
  · intro heq
    cases component with
    | none =>
        cases component' with
        | none => exact ⟨rfl, (List.cons.inj heq).2⟩
        | some bytes' => exact absurd (List.cons.inj heq).1 (by decide)
    | some bytes =>
        cases component' with
        | none => exact absurd (List.cons.inj heq).1 (by decide)
        | some bytes' =>
            have htail : bigEndian 8 bytes.length ++ bytes ++ rest =
                bigEndian 8 bytes'.length ++ bytes' ++ rest' := (List.cons.inj heq).2
            rw [List.append_assoc, List.append_assoc] at htail
            obtain ⟨hlength, hbody⟩ := List.append_inj htail (by simp)
            rw [bigEndian_inj (h bytes rfl) (h' bytes' rfl)] at hlength
            obtain ⟨rfl, hrest⟩ := List.append_inj hbody hlength
            exact ⟨rfl, hrest⟩
  · rintro ⟨rfl, rfl⟩
    rfl

theorem frame_ne_nil (component : Option (List UInt8)) : frame component ≠ [] := by
  cases component with
  | none => exact nofun
  | some bytes => exact nofun

/-- Components framed one after the other. -/
def frames (components : List (Option (List UInt8))) : List UInt8 := components.flatMap frame

/-- Framed components can be read back. -/
theorem frames_inj {components components' : List (Option (List UInt8))}
    (h : ∀ component ∈ components, Fits component)
    (h' : ∀ component ∈ components', Fits component) :
    frames components = frames components' ↔ components = components' := by
  constructor
  · intro heq
    induction components generalizing components' with
    | nil =>
        cases components' with
        | nil => rfl
        | cons component' rest' =>
            exact absurd (List.append_eq_nil_iff.mp heq.symm).1 (frame_ne_nil component')
    | cons component rest ih =>
        cases components' with
        | nil => exact absurd (List.append_eq_nil_iff.mp heq).1 (frame_ne_nil component)
        | cons component' rest' =>
            obtain ⟨hcomponent, hrest⟩ := List.forall_mem_cons.mp h
            obtain ⟨hcomponent', hrest'⟩ := List.forall_mem_cons.mp h'
            obtain ⟨rfl, htail⟩ := (frame_append_inj hcomponent hcomponent').mp heq
            rw [ih hrest hrest' htail]
  · rintro rfl
    rfl

/-! ### Hexadecimal texts -/

/-- The two digits of a byte. -/
def hexDigits (byte : UInt8) : List Char :=
  [(byte.toNat / 16).digitChar, (byte.toNat % 16).digitChar]

def hexText (bytes : List UInt8) : String := String.ofList (bytes.flatMap hexDigits)

theorem hexDigits_inj {byte byte' : UInt8} (h : hexDigits byte = hexDigits byte') :
    byte = byte' := by
  have hdigit : ∀ m < 16, ∀ n < 16, Nat.digitChar m = Nat.digitChar n → m = n := by decide
  obtain ⟨hhigh, htail⟩ := List.cons.inj h
  have hlow := (List.cons.inj htail).1
  have hbound := byte.toNat_lt
  have hbound' := byte'.toNat_lt
  have hhigh := hdigit _ (by omega) _ (by omega) hhigh
  have hlow := hdigit _ (by omega) _ (by omega) hlow
  apply UInt8.toNat_inj.mp
  omega

theorem hexText_inj {bytes bytes' : List UInt8} : hexText bytes = hexText bytes' ↔ bytes = bytes' := by
  constructor
  · intro h
    have hchars := String.ofList_injective h
    clear h
    induction bytes generalizing bytes' with
    | nil =>
        cases bytes' with
        | nil => rfl
        | cons byte' rest' => cases hchars
    | cons byte rest ih =>
        cases bytes' with
        | nil => cases hchars
        | cons byte' rest' =>
            rw [List.flatMap_cons, List.flatMap_cons] at hchars
            obtain ⟨hbyte, hrest⟩ := List.append_inj hchars rfl
            rw [hexDigits_inj hbyte, ih hrest]
  · rintro rfl
    rfl

end Bytes
