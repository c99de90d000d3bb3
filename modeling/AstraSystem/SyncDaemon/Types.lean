import Mathlib.Algebra.Ring.Nat

/-!
# Types the sub-systems share (`lib.rs`), and the arithmetic of the build
-/

namespace SyncDaemon

structure KioskId where
  id : String
  deriving DecidableEq, Repr

inductive DataType where
  | inventory
  | cart
  | transaction
  | analytics
  deriving DecidableEq, Repr

def DataType.asStr : DataType → String
  | inventory => "inventory"
  | cart => "cart"
  | transaction => "transaction"
  | analytics => "analytics"

structure SyncRecord (P : Type) where
  dataType : DataType
  id : String
  origin : KioskId
  lamportTs : UInt64
  wallclockTs : UInt64
  payload : P
  hmac : List UInt8
  deriving DecidableEq, Repr

structure DaemonState where
  kioskId : KioskId
  online : Bool
  isLeader : Bool
  raftTerm : UInt64
  deriving DecidableEq, Repr

def DaemonState.new (kioskId : KioskId) : DaemonState := ⟨kioskId, false, false, 0⟩

/-- The Cargo profile: overflow of `+` stops a dev build and wraps around in a release build. -/
inductive Profile where
  | dev
  | release
  deriving DecidableEq, Repr

/-- The errors the modelled functions return. -/
inductive AstraSyncError where
  | p2p (text : String)
  | storage (text : String)
  | crypto (text : String)
  | syncEngine (text : String)
  | differentialPrivacy (text : String)
  | serialization (text : String)
  deriving DecidableEq, Repr

/-- `a + b` on `u64`; `none` is the panic. -/
def Profile.add (profile : Profile) (a b : UInt64) : Option UInt64 :=
  if a.toNat + b.toNat < 2 ^ 64 then some (a + b)
  else match profile with
    | dev => none
    | release => some (a + b)

/-- `iter().sum::<u64>()` -/
def Profile.sum (profile : Profile) (l : List UInt64) : Option UInt64 :=
  l.foldlM profile.add 0

def saturatingAdd (a b : UInt64) : UInt64 :=
  if a.toNat + b.toNat < 2 ^ 64 then a + b else UInt64.ofNat (2 ^ 64 - 1)

def saturatingSub (a b : UInt64) : UInt64 := if b ≤ a then a - b else 0

theorem toNat_saturatingAdd (a b : UInt64) :
    (saturatingAdd a b).toNat = min (2 ^ 64 - 1) (a.toNat + b.toNat) := by
  unfold saturatingAdd
  split
  · rename_i h
    rw [UInt64.toNat_add, Nat.mod_eq_of_lt h]
    omega
  · rw [UInt64.toNat_ofNat']
    omega

theorem toNat_saturatingSub (a b : UInt64) : (saturatingSub a b).toNat = a.toNat - b.toNat := by
  unfold saturatingSub
  split
  · rename_i h
    exact UInt64.toNat_sub_of_le _ _ h
  · rename_i h
    rw [UInt64.le_iff_toNat_le] at h
    simp only [UInt64.toNat_zero]
    omega

theorem toNat_max (a b : UInt64) : (max a b).toNat = max a.toNat b.toNat := by
  show (if a ≤ b then b else a).toNat = _
  split <;> rename_i h <;> rw [UInt64.le_iff_toNat_le] at h <;> omega

theorem Profile.add_eq (profile : Profile) {a b : UInt64} (h : a.toNat + b.toNat < 2 ^ 64) :
    profile.add a b = some (a + b) ∧ (a + b).toNat = a.toNat + b.toNat :=
  ⟨if_pos h, by rw [UInt64.toNat_add, Nat.mod_eq_of_lt h]⟩

/-- A sum that fits is computed in either build. -/
theorem Profile.sum_eq (profile : Profile) {l : List UInt64}
    (h : (l.map UInt64.toNat).sum < 2 ^ 64) :
    ∃ s, profile.sum l = some s ∧ s.toNat = (l.map UInt64.toNat).sum := by
  have go (acc : UInt64) (h : acc.toNat + (l.map UInt64.toNat).sum < 2 ^ 64) :
      ∃ s, l.foldlM profile.add acc = some s ∧ s.toNat = acc.toNat + (l.map UInt64.toNat).sum := by
    induction l generalizing acc with
    | nil => exact ⟨acc, rfl, rfl⟩
    | cons x l ih =>
      simp only [List.map_cons, List.sum_cons] at h ⊢
      obtain ⟨eq, nat⟩ := profile.add_eq (a := acc) (b := x) (by omega)
      obtain ⟨s, hs, total⟩ := ih (by omega) (acc + x) (by omega)
      refine ⟨s, ?_, by omega⟩
      rw [List.foldlM_cons, eq]
      exact hs
  obtain ⟨s, hs, total⟩ := go 0 (by simpa using h)
  exact ⟨s, hs, by simpa using total⟩

/-- A dev build that gets through a sum has not overflowed. -/
theorem Profile.sum_dev_lt {l : List UInt64} {s : UInt64} (h : Profile.dev.sum l = some s) :
    (l.map UInt64.toNat).sum < 2 ^ 64 := by
  have go (l : List UInt64) (acc : UInt64) (h : l.foldlM Profile.dev.add acc = some s) :
      acc.toNat + (l.map UInt64.toNat).sum < 2 ^ 64 := by
    induction l generalizing acc with
    | nil =>
      have := acc.toNat_lt
      simpa using this
    | cons x l ih =>
      rw [List.foldlM_cons] at h
      by_cases fits : acc.toNat + x.toNat < 2 ^ 64
      · obtain ⟨added, nat⟩ := Profile.dev.add_eq fits
        rw [added] at h
        have rest := ih (acc + x) h
        rw [List.map_cons, List.sum_cons]
        omega
      · rw [Profile.add, if_neg fits] at h
        cases h
  simpa using go l 0 h

end SyncDaemon
