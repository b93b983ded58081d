/-
# Records that refer to each other

A store of records by key; a record refers to others by their keys, each reference in a slot that
says what the record it leads to must be.  `Integral` says that no reference dangles or leads to a
record that does not fit.

`integral_insert_iff`: putting a record whose own references are in order keeps the store integral
exactly if the records that refer to its key fit the new record as well.
-/
import Mathlib.Data.List.AList

namespace References

variable {κ ρ Slot : Type} [DecidableEq κ]

/-- The references of a record, and what a slot asks of the record referred to. -/
structure Schema (κ ρ Slot : Type) where
  references : ρ → List (Slot × κ)
  fits : Slot → ρ → ρ → Prop

variable {S : Schema κ ρ Slot} {store : AList fun _ : κ => ρ}

/-- The references of a record lead to records that fit. -/
def Resolved (S : Schema κ ρ Slot) (store : AList fun _ : κ => ρ) (record : ρ) : Prop :=
  ∀ slot key, (slot, key) ∈ S.references record →
    ∃ parent, store.lookup key = some parent ∧ S.fits slot record parent

def Integral (S : Schema κ ρ Slot) (store : AList fun _ : κ => ρ) : Prop :=
  ∀ key record, store.lookup key = some record → Resolved S store record

/-- The other records that refer to the key fit the new one. -/
def Accepted (S : Schema κ ρ Slot) (store : AList fun _ : κ => ρ) (key : κ) (record : ρ) : Prop :=
  ∀ key' child slot, key' ≠ key → store.lookup key' = some child →
    (slot, key) ∈ S.references child → S.fits slot child record

theorem integral_insert_iff (h : Integral S store) {key : κ} {record : ρ}
    (hself : ∀ slot, (slot, key) ∉ S.references record) (hrecord : Resolved S store record) :
    Integral S (store.insert key record) ↔ Accepted S store key record := by
  constructor
  · intro hinsert key' child slot hkey hchild hrefers
    have hlookup : (store.insert key record).lookup key' = some child := by
      rw [AList.lookup_insert_ne hkey, hchild]
    obtain ⟨parent, hparent, hfits⟩ := hinsert key' child hlookup slot key hrefers
    rw [AList.lookup_insert] at hparent
    cases hparent
    exact hfits
  · intro haccepted key' child hchild slot target hrefers
    by_cases hkey : key' = key
    · subst hkey
      rw [AList.lookup_insert] at hchild
      cases hchild
      obtain ⟨parent, hparent, hfits⟩ := hrecord slot target hrefers
      refine ⟨parent, ?_, hfits⟩
      rw [AList.lookup_insert_ne, hparent]
      rintro rfl
      exact hself slot hrefers
    · rw [AList.lookup_insert_ne hkey] at hchild
      by_cases htarget : target = key
      · subst htarget
        exact ⟨record, AList.lookup_insert _, haccepted key' child slot hkey hchild hrefers⟩
      · obtain ⟨parent, hparent, hfits⟩ := h key' child hchild slot target hrefers
        exact ⟨parent, by rw [AList.lookup_insert_ne htarget, hparent], hfits⟩

/-- Records that refer to the key fit the new record as they fitted the one it replaces. -/
theorem accepted_iff (h : Integral S store) {key : κ} {record : ρ} (alike : Slot → ρ → ρ → Prop)
    (halike : ∀ slot child parent, S.fits slot child parent →
      (S.fits slot child record ↔ alike slot parent record)) :
    Accepted S store key record ↔ ∀ key' child slot previous, key' ≠ key →
      store.lookup key' = some child → (slot, key) ∈ S.references child →
        store.lookup key = some previous → alike slot previous record := by
  constructor
  · intro haccepted key' child slot previous hkey hchild hrefers hprevious
    obtain ⟨parent, hparent, hfits⟩ := h key' child hchild slot key hrefers
    obtain rfl := Option.some.inj (hparent.symm.trans hprevious)
    exact (halike slot child parent hfits).mp (haccepted key' child slot hkey hchild hrefers)
  · intro hall key' child slot hkey hchild hrefers
    obtain ⟨parent, hparent, hfits⟩ := h key' child hchild slot key hrefers
    exact (halike slot child parent hfits).mpr
      (hall key' child slot parent hkey hchild hrefers hparent)

end References
