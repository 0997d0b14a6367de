import PaymentPortal.Relational.Grouping

/-!
# Merging keys with keyed entries

A list of known keys is merged with entries that have keys of their own: every
known key occurs once, and so does every key of an entry that is not known.
With nothing for the keys without an entry, sums over the merged keys are sums
over the entries.
-/

namespace PaymentPortal.Relational

variable {α κ M : Type} [DecidableEq κ]

/-- The known keys, then those of the others that are not known. -/
def mergedKeys (known others : List κ) : List κ :=
  known ++ others.filter fun key => key ∉ known

variable {known others : List κ}

theorem mem_mergedKeys {key : κ} :
    key ∈ mergedKeys known others ↔ key ∈ known ∨ key ∈ others := by
  simp only [mergedKeys, List.mem_append, List.mem_filter, decide_eq_true_eq]
  constructor
  · rintro (inKnown | ⟨inOthers, -⟩)
    · exact .inl inKnown
    · exact .inr inOthers
  · intro either
    by_cases inKnown : key ∈ known
    · exact .inl inKnown
    · exact .inr ⟨either.resolve_left inKnown, inKnown⟩

/-- No key occurs twice. -/
theorem nodup_mergedKeys (knownDistinct : known.Nodup)
    (othersDistinct : others.Nodup) : (mergedKeys known others).Nodup := by
  refine List.nodup_append.mpr ⟨knownDistinct, othersDistinct.filter _, ?_⟩
  intro key inKnown other filtered same
  have unknown := of_decide_eq_true (List.mem_filter.mp filtered).2
  exact unknown (same ▸ inKnown)

/-! ## Entries by key -/

/-- The entry of a key in a map that is built from the entries in order. -/
def entryOf? (key : α → κ) (entries : List α) (k : κ) : Option α :=
  entries.reverse.find? fun entry => key entry = k

section Entries

variable {key : α → κ} {entries : List α}

theorem entryOf?_eq_none {k : κ} :
    entryOf? key entries k = none ↔ ∀ entry ∈ entries, key entry ≠ k := by
  simp [entryOf?]

theorem mem_of_entryOf? {k : κ} {entry : α}
    (found : entryOf? key entries k = some entry) :
    entry ∈ entries ∧ key entry = k := by
  refine ⟨?_, by simpa using List.find?_some found⟩
  exact List.mem_reverse.mp (List.mem_of_find?_eq_some found)

omit [DecidableEq κ] in
/-- With distinct keys, the entry of a key is the only one. -/
theorem eq_of_key_eq (distinct : (entries.map key).Nodup) {first second : α}
    (firstIn : first ∈ entries) (secondIn : second ∈ entries)
    (same : key first = key second) : first = second :=
  List.inj_on_of_nodup_map distinct firstIn secondIn same

theorem entryOf?_of_mem (distinct : (entries.map key).Nodup) {entry : α}
    (among : entry ∈ entries) :
    entryOf? key entries (key entry) = some entry := by
  cases found : entryOf? key entries (key entry) with
  | none => exact absurd rfl (entryOf?_eq_none.mp found entry among)
  | some other =>
      obtain ⟨otherIn, same⟩ := mem_of_entryOf? found
      rw [eq_of_key_eq distinct otherIn among same]

/-- The value of a key's entry is the sum over the entries with the key. -/
theorem sum_filter_key [AddCommMonoid M] (value : α → M)
    (distinct : (entries.map key).Nodup) (k : κ) :
    ((entries.filter fun entry => key entry = k).map value).sum =
      ((entryOf? key entries k).map value).getD 0 := by
  cases found : entryOf? key entries k with
  | none =>
      have nothing : (entries.filter fun entry => key entry = k) = [] := by
        simpa using entryOf?_eq_none.mp found
      simp [nothing]
  | some entry =>
      obtain ⟨among, isKey⟩ := mem_of_entryOf? found
      have single : (entries.filter fun other => key other = k) = [entry] := by
        apply List.perm_singleton.mp
        apply (List.perm_ext_iff_of_nodup (distinct.of_map.filter _)
          (List.nodup_singleton entry)).mpr
        intro other
        rw [List.mem_filter, decide_eq_true_iff, List.mem_singleton]
        constructor
        · rintro ⟨otherIn, otherKey⟩
          exact eq_of_key_eq distinct otherIn among (otherKey.trans isKey.symm)
        · rintro rfl
          exact ⟨among, isKey⟩
      simp [single]

/-- Over the merged keys, the entries add up as they do by themselves. -/
theorem sum_mergedKeys [AddCommMonoid M] (value : α → M)
    (knownDistinct : known.Nodup) (distinct : (entries.map key).Nodup) :
    ((mergedKeys known (entries.map key)).map fun k =>
      ((entryOf? key entries k).map value).getD 0).sum =
        (entries.map value).sum := by
  rw [← sum_map_filter_key key value (nodup_mergedKeys knownDistinct distinct)]
  · simp only [sum_filter_key value distinct]
  · intro entry among
    exact mem_mergedKeys.mpr (.inr (List.mem_map_of_mem among))

end Entries

end PaymentPortal.Relational
