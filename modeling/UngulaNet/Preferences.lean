import Mathlib.Logic.Function.Basic

/-!
# Persistent preferences

`IPreferences` is an interface of a sibling library. Here it is what its callers take
it for: a map from keys to typed values, in the namespace that `begin(prefsNs)` opens.
`getBytes` copies a blob only when it fits the caller's buffer.
-/

namespace UngulaNet
set_option autoImplicit false

inductive PrefValue where
  | uint8 (value : UInt8)
  | bytes (data : List UInt8)
  deriving DecidableEq

@[ext] structure Preferences where
  entry : String → Option PrefValue

namespace Preferences

def empty : Preferences := ⟨fun _ => none⟩

def getUInt8 (p : Preferences) (key : String) (defaultValue : UInt8) : UInt8 :=
  match p.entry key with
  | some (.uint8 v) => v
  | _ => defaultValue

/-- The bytes written to the front of the caller's buffer of size `cap`. -/
def getBytes (p : Preferences) (key : String) (cap : Nat) : List UInt8 :=
  match p.entry key with
  | some (.bytes data) => if data.length ≤ cap then data else []
  | _ => []

def putUInt8 (p : Preferences) (key : String) (value : UInt8) : Preferences :=
  ⟨Function.update p.entry key (some (.uint8 value))⟩

def putBytes (p : Preferences) (key : String) (data : List UInt8) : Preferences :=
  ⟨Function.update p.entry key (some (.bytes data))⟩

def remove (p : Preferences) (key : String) : Preferences :=
  ⟨Function.update p.entry key none⟩

def hasKey (p : Preferences) (key : String) : Bool := (p.entry key).isSome

@[simp] theorem entry_putUInt8 (p : Preferences) (k k' : String) (v : UInt8) :
    (p.putUInt8 k v).entry k' = if k' = k then some (.uint8 v) else p.entry k' :=
  Function.update_apply _ _ _ _

@[simp] theorem entry_putBytes (p : Preferences) (k k' : String) (d : List UInt8) :
    (p.putBytes k d).entry k' = if k' = k then some (.bytes d) else p.entry k' :=
  Function.update_apply _ _ _ _

@[simp] theorem entry_remove (p : Preferences) (k k' : String) :
    (p.remove k).entry k' = if k' = k then none else p.entry k' :=
  Function.update_apply _ _ _ _

/-- A read depends on nothing but the entry under its key. -/
theorem getUInt8_congr {p q : Preferences} {k : String} (h : p.entry k = q.entry k)
    (d : UInt8) : p.getUInt8 k d = q.getUInt8 k d := by
  simp [getUInt8, h]

theorem getBytes_congr {p q : Preferences} {k : String} (h : p.entry k = q.entry k)
    (cap : Nat) : p.getBytes k cap = q.getBytes k cap := by
  simp [getBytes, h]

theorem getUInt8_putUInt8 (p : Preferences) (k k' : String) (v d : UInt8) :
    (p.putUInt8 k v).getUInt8 k' d = if k' = k then v else p.getUInt8 k' d := by
  by_cases h : k' = k
  · simp [getUInt8, h]
  · simp [getUInt8, h]

theorem getUInt8_putBytes {p : Preferences} {k k' : String} (h : k' ≠ k) (data : List UInt8)
    (d : UInt8) : (p.putBytes k data).getUInt8 k' d = p.getUInt8 k' d :=
  getUInt8_congr (by simp [h]) d

theorem getBytes_putUInt8 {p : Preferences} {k k' : String} (h : k' ≠ k) (v : UInt8)
    (cap : Nat) : (p.putUInt8 k v).getBytes k' cap = p.getBytes k' cap :=
  getBytes_congr (by simp [h]) cap

theorem getBytes_putBytes (p : Preferences) (k : String) {data : List UInt8} {cap : Nat}
    (h : data.length ≤ cap) : (p.putBytes k data).getBytes k cap = data := by
  simp [getBytes, h]

/-- Asking `hasKey` before a `remove` saves a write and changes nothing else. -/
theorem remove_if_hasKey (p : Preferences) (k : String) :
    (if p.hasKey k then p.remove k else p) = p.remove k := by
  split
  · rfl
  · rename_i h
    have hk : p.entry k = none := by simpa [hasKey] using h
    ext1
    funext k'
    rw [entry_remove]
    split
    · rename_i heq
      rw [heq, hk]
    · rfl

end Preferences
end UngulaNet
