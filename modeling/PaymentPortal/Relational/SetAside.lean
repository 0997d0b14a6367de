import Mathlib.Data.Set.Insert
import Mathlib.Logic.Function.Basic

/-!
# Keys that are set aside

Some keys of a store are set aside: what belongs under a key is found under
another one that is not used otherwise.  Whichever keys are set aside, no value
is lost; they can be set aside and brought back in any order, and when all of
them are back the store is as it was.
-/

namespace PaymentPortal.Relational

variable {κ ν : Type}

/-- The keys that may be set aside have places of their own that are free. -/
structure Spare (aside : κ → κ) (start : κ → Option ν) (keys : Set κ) :
    Prop where
  injective : Set.InjOn aside keys
  apart : ∀ key ∈ keys, ∀ other ∈ keys, aside key ≠ other
  free : ∀ key ∈ keys, start (aside key) = none

/-- The store as it was, but for the keys that are set aside. -/
structure SetAside (aside : κ → κ) (start now : κ → Option ν) (away : Set κ) :
    Prop where
  gone : ∀ key ∈ away, now key = none
  kept : ∀ key ∈ away, now (aside key) = start key
  wasThere : ∀ key ∈ away, start key ≠ none
  others : ∀ key, (∀ other ∈ away, key ≠ other ∧ key ≠ aside other) →
    now key = start key

variable {aside : κ → κ} {start now : κ → Option ν} {away keys : Set κ}

/-- What was there is in its place, or was set aside from it. -/
theorem SetAside.not_lost (setAside : SetAside aside start now away)
    (spare : Spare aside start keys) (among : away ⊆ keys) (key : κ)
    {value : ν} (wasThere : start key = some value) :
    now key = some value ∨ (key ∈ keys ∧ now (aside key) = some value) := by
  by_cases isAway : key ∈ away
  · exact .inr ⟨among isAway, (setAside.kept key isAway).trans wasThere⟩
  · refine .inl ((setAside.others key fun other otherAway => ?_).trans wasThere)
    refine ⟨?_, ?_⟩
    · rintro rfl
      exact isAway otherAway
    · rintro rfl
      rw [spare.free other (among otherAway)] at wasThere
      exact absurd wasThere (by simp)

/-- When nothing is set aside the store is as it was. -/
theorem SetAside.eq_start (setAside : SetAside aside start now ∅) :
    now = start :=
  funext fun key => setAside.others key fun _ isAway => isAway.elim

theorem SetAside.refl : SetAside aside start start ∅ where
  gone _ isAway := isAway.elim
  kept _ isAway := isAway.elim
  wasThere _ isAway := isAway.elim
  others _ _ := rfl

/-- A key that is not set aside is still there. -/
theorem SetAside.at_key (setAside : SetAside aside start now away)
    (spare : Spare aside start keys) (among : away ⊆ keys) {key : κ}
    (isKey : key ∈ keys) (notAway : key ∉ away) : now key = start key := by
  refine setAside.others key fun other otherAway => ⟨?_, ?_⟩
  · rintro rfl
    exact notAway otherAway
  · rintro rfl
    exact spare.apart other (among otherAway) _ isKey rfl

/-- The place of a key that is not set aside is free. -/
theorem SetAside.at_aside (setAside : SetAside aside start now away)
    (spare : Spare aside start keys) (among : away ⊆ keys) {key : κ}
    (isKey : key ∈ keys) (notAway : key ∉ away) : now (aside key) = none := by
  refine (setAside.others _ fun other otherAway => ⟨?_, ?_⟩).trans
    (spare.free key isKey)
  · exact spare.apart key isKey other (among otherAway)
  · intro same
    obtain rfl := spare.injective isKey (among otherAway) same
    exact notAway otherAway

variable [DecidableEq κ]

/-- What stood under `source` stands under `target`. -/
def moved (source target : κ) (value : ν) (store : κ → Option ν) :
    κ → Option ν :=
  Function.update (Function.update store source none) target (some value)

theorem moved_target (source target : κ) (value : ν) (store : κ → Option ν) :
    moved source target value store target = some value :=
  Function.update_self ..

theorem moved_source {source target : κ} (value : ν) (store : κ → Option ν)
    (apart : source ≠ target) : moved source target value store source = none := by
  rw [moved, Function.update_of_ne apart, Function.update_self]

theorem moved_other {source target key : κ} (value : ν) (store : κ → Option ν)
    (notSource : key ≠ source) (notTarget : key ≠ target) :
    moved source target value store key = store key := by
  rw [moved, Function.update_of_ne notTarget, Function.update_of_ne notSource]

/-- One more key is set aside. -/
theorem SetAside.insert (setAside : SetAside aside start now away)
    (spare : Spare aside start keys) (among : away ⊆ keys) {key : κ}
    {value : ν} (isKey : key ∈ keys) (notAway : key ∉ away)
    (found : now key = some value) :
    SetAside aside start (moved key (aside key) value now)
      (insert key away) := by
  have isThere : start key = some value :=
    (setAside.at_key spare among isKey notAway).symm.trans found
  have distinct : ∀ other ∈ away, key ≠ other := by
    rintro other otherAway rfl
    exact notAway otherAway
  refine ⟨?_, ?_, ?_, ?_⟩
  · rintro other (rfl | otherAway)
    · exact moved_source value now (spare.apart other isKey other isKey).symm
    · rw [moved_other value now (distinct other otherAway).symm
        (spare.apart key isKey other (among otherAway)).symm]
      exact setAside.gone other otherAway
  · rintro other (rfl | otherAway)
    · rw [moved_target, isThere]
    · rw [moved_other value now (spare.apart other (among otherAway) key isKey)
        fun same => distinct other otherAway
          (spare.injective (among otherAway) isKey same).symm]
      exact setAside.kept other otherAway
  · rintro other (rfl | otherAway)
    · rw [isThere]
      simp
    · exact setAside.wasThere other otherAway
  · intro other apart
    obtain ⟨notKey, notAside⟩ := apart key (Set.mem_insert key away)
    rw [moved_other value now notKey notAside]
    exact setAside.others other fun third thirdAway =>
      apart third (Set.mem_insert_of_mem key thirdAway)

/-- One key is brought back. -/
theorem SetAside.bringBack (setAside : SetAside aside start now away)
    (spare : Spare aside start keys) (among : away ⊆ keys) {key : κ}
    {value : ν} (isAway : key ∈ away) (found : now (aside key) = some value) :
    SetAside aside start (moved (aside key) key value now) (away \ {key}) := by
  have isKey := among isAway
  have isThere : start key = some value :=
    (setAside.kept key isAway).symm.trans found
  refine ⟨?_, ?_, ?_, ?_⟩
  · rintro other ⟨otherAway, notKey⟩
    rw [moved_other value now
      (spare.apart key isKey other (among otherAway)).symm notKey]
    exact setAside.gone other otherAway
  · rintro other ⟨otherAway, notKey⟩
    rw [moved_other value now
      (fun same => notKey (spare.injective (among otherAway) isKey same))
      (spare.apart other (among otherAway) key isKey)]
    exact setAside.kept other otherAway
  · rintro other ⟨otherAway, -⟩
    exact setAside.wasThere other otherAway
  · intro other apart
    by_cases isBack : other = key
    · rw [isBack, moved_target, isThere]
    · by_cases isAside : other = aside key
      · rw [isAside, moved_source value now (spare.apart key isKey key isKey),
          spare.free key isKey]
      · rw [moved_other value now isAside isBack]
        refine setAside.others other fun third thirdAway => ?_
        by_cases same : third = key
        · rw [same]
          exact ⟨isBack, isAside⟩
        · exact apart third ⟨thirdAway, same⟩

end PaymentPortal.Relational
