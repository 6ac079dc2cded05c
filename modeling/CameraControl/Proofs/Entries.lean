import CameraControl.Entries
import Mathlib.Data.List.Nodup

/-
  Finite maps kept as lists of pairs, seen as lists.

  Writing and erasing are described by what they do to membership and to the keys, so that
  properties of all pairs of a map are kept without looking at a single look-up.
-/

namespace CameraControl.Entries

variable {κ : Type} {α : Type}

/-- The keys of a map, in their order. -/
def keys (m : List (κ × α)) : List κ := m.map Prod.fst

@[simp] theorem keys_nil : keys ([] : List (κ × α)) = [] := rfl

@[simp] theorem keys_cons (p : κ × α) (m : List (κ × α)) : keys (p :: m) = p.1 :: keys m := rfl

theorem mem_keys_iff {m : List (κ × α)} {key : κ} : key ∈ keys m ↔ ∃ value, (key, value) ∈ m := by
  simp [keys]

/-- A key that is not that of the first pair is among the others. -/
theorem mem_keys_of_ne {k key : κ} {v : α} {rest : List (κ × α)}
    (h : key ∈ keys ((k, v) :: rest)) (hk : k ≠ key) : key ∈ keys rest := by
  rcases List.mem_cons.mp h with h | h
  · exact absurd h.symm hk
  · exact h

variable [DecidableEq κ]

/-! ## Look-ups -/

theorem mem_of_get? {m : List (κ × α)} {key : κ} {value : α} (h : get? m key = some value) :
    (key, value) ∈ m := by
  induction m with
  | nil => simp [get?] at h
  | cons p rest ih =>
    obtain ⟨k, v⟩ := p
    by_cases hk : k = key
    · subst hk
      simp only [get?, if_true, Option.some.injEq] at h
      simp [h]
    · simp only [get?, if_neg hk] at h
      exact List.mem_cons_of_mem _ (ih h)

theorem mem_keys_of_get? {m : List (κ × α)} {key : κ} {value : α}
    (h : get? m key = some value) : key ∈ keys m :=
  mem_keys_iff.mpr ⟨value, mem_of_get? h⟩

theorem get?_of_mem_keys {m : List (κ × α)} {key : κ} (h : key ∈ keys m) :
    ∃ value, get? m key = some value := by
  induction m with
  | nil => cases h
  | cons p rest ih =>
    obtain ⟨k, v⟩ := p
    by_cases hk : k = key
    · exact ⟨v, by simp [get?, hk]⟩
    · obtain ⟨value, hvalue⟩ := ih (mem_keys_of_ne h hk)
      exact ⟨value, by simp [get?, hk, hvalue]⟩

/-! ## Writing -/

/-- A pair of a map after writing is the new one or was there before. -/
theorem mem_put {m : List (κ × α)} {key : κ} {value : α} {p : κ × α} (h : p ∈ put m key value) :
    p = (key, value) ∨ p ∈ m := by
  induction m with
  | nil => exact .inl (by simpa [put] using h)
  | cons q rest ih =>
    obtain ⟨k, v⟩ := q
    by_cases hk : k = key
    -- the pair with the key is written over, and the search ends there
    · simp only [put, if_pos hk, List.mem_cons] at h
      rcases h with h | h
      · exact .inl h
      · exact .inr (List.mem_cons_of_mem _ h)
    · simp only [put, if_neg hk, List.mem_cons] at h
      rcases h with h | h
      · exact .inr (by simp [h])
      · exact (ih h).imp id (List.mem_cons_of_mem _)

/-- Writing under a key that is there keeps the keys. -/
theorem keys_put_of_mem {m : List (κ × α)} {key : κ} (value : α) (h : key ∈ keys m) :
    keys (put m key value) = keys m := by
  induction m with
  | nil => simp at h
  | cons q rest ih =>
    obtain ⟨k, v⟩ := q
    by_cases hk : k = key
    · simp [put, hk]
    · simp [put, hk, ih (mem_keys_of_ne h hk)]

/-- Writing under a new key adds the pair at the end. -/
theorem put_of_not_mem {m : List (κ × α)} {key : κ} (value : α) (h : key ∉ keys m) :
    put m key value = m ++ [(key, value)] := by
  induction m with
  | nil => rfl
  | cons q rest ih =>
    obtain ⟨k, v⟩ := q
    have hk : k ≠ key := by
      rintro rfl
      simp at h
    have hrest : key ∉ keys rest := fun hr => h (List.mem_cons_of_mem _ hr)
    simp [put, hk, ih hrest]

theorem mem_keys_put {m : List (κ × α)} {key k : κ} (value : α) :
    k ∈ keys (put m key value) ↔ k = key ∨ k ∈ keys m := by
  -- the key was there and its pair is written over, or it is new and comes last
  by_cases h : key ∈ keys m
  · rw [keys_put_of_mem value h]
    constructor
    · exact .inr
    · rintro (rfl | hk)
      · exact h
      · exact hk
  · rw [put_of_not_mem value h]
    simp [keys, or_comm]

theorem nodup_keys_put {m : List (κ × α)} {key : κ} (value : α) (h : (keys m).Nodup) :
    (keys (put m key value)).Nodup := by
  by_cases hk : key ∈ keys m
  · rwa [keys_put_of_mem value hk]
  · rw [put_of_not_mem value hk]
    have : keys (m ++ [(key, value)]) = keys m ++ [key] := by simp [keys]
    rw [this]
    simpa [List.concat_eq_append] using h.concat hk

/-! ## Erasing -/

theorem mem_erase {m : List (κ × α)} {key : κ} {p : κ × α} :
    p ∈ erase m key ↔ p ∈ m ∧ p.1 ≠ key := by
  simp [erase]

theorem erase_sublist (m : List (κ × α)) (key : κ) : (erase m key).Sublist m :=
  List.filter_sublist

theorem mem_keys_erase {m : List (κ × α)} {key k : κ} :
    k ∈ keys (erase m key) ↔ k ∈ keys m ∧ k ≠ key := by
  simp only [mem_keys_iff, mem_erase]
  constructor
  · rintro ⟨v, hv, hk⟩
    exact ⟨⟨v, hv⟩, hk⟩
  · rintro ⟨⟨v, hv⟩, hk⟩
    exact ⟨v, hv, hk⟩

/-- Erasing a key that is not there changes nothing. -/
theorem erase_of_get?_none {m : List (κ × α)} {key : κ} (h : get? m key = none) :
    erase m key = m := by
  rw [erase, List.filter_eq_self]
  intro p hp
  have hne : p.1 ≠ key := by
    rintro rfl
    obtain ⟨v, hv⟩ := get?_of_mem_keys (mem_keys_iff.mpr ⟨p.2, hp⟩)
    rw [h] at hv
    cases hv
  simpa using hne

/-! ## Sizes -/

theorem length_put_of_get?_none {m : List (κ × α)} {key : κ} (value : α) (h : get? m key = none) :
    (put m key value).length = m.length + 1 := by
  have hkey : key ∉ keys m := by
    intro hmem
    obtain ⟨v, hv⟩ := get?_of_mem_keys hmem
    rw [h] at hv
    cases hv
  rw [put_of_not_mem value hkey, List.length_append, List.length_singleton]

theorem length_put_of_get? {m : List (κ × α)} {key : κ} {old : α} (value : α)
    (h : get? m key = some old) : (put m key value).length = m.length := by
  have hkeys := congrArg List.length (keys_put_of_mem value (mem_keys_of_get? h))
  rwa [keys, keys, List.length_map, List.length_map] at hkeys

theorem nodup_keys_erase {m : List (κ × α)} (h : (keys m).Nodup) (key : κ) :
    (keys (erase m key)).Nodup :=
  h.sublist ((erase_sublist m key).map Prod.fst)

/-- Erasing takes away one pair if no two have the key. -/
theorem length_erase_of_get? {m : List (κ × α)} {key : κ} {value : α} (hm : (keys m).Nodup)
    (h : get? m key = some value) : (erase m key).length + 1 = m.length := by
  induction m with
  | nil => cases h
  | cons p rest ih =>
    obtain ⟨k, v⟩ := p
    obtain ⟨hnew, hrest⟩ := List.nodup_cons.mp hm
    by_cases hk : k = key
    · have hsame : erase rest key = rest := by
        rw [erase, List.filter_eq_self]
        rintro ⟨k', v'⟩ hp
        have hne : k' ≠ key := by
          rintro rfl
          exact hnew (hk ▸ mem_keys_iff.mpr ⟨v', hp⟩)
        simpa using hne
      have herase : erase ((k, v) :: rest) key = erase rest key := by simp [erase, hk]
      rw [herase, hsame, List.length_cons]
    · have hget : get? rest key = some value := by simpa [get?, hk] using h
      have herase : erase ((k, v) :: rest) key = (k, v) :: erase rest key := by simp [erase, hk]
      rw [herase, List.length_cons, List.length_cons, ih hrest hget]

/-! ## Changing all values -/

/-- The map with a function applied to all values. -/
def mapValues {β : Type} (g : α → β) (m : List (κ × α)) : List (κ × β) :=
  m.map fun p => (p.1, g p.2)

variable {β : Type} (g : α → β)

theorem get?_mapValues (m : List (κ × α)) (key : κ) :
    get? (mapValues g m) key = (get? m key).map g := by
  induction m with
  | nil => rfl
  | cons p rest ih =>
    obtain ⟨k, v⟩ := p
    by_cases hk : k = key
    · simp [mapValues, get?, hk]
    · simpa [mapValues, get?, hk] using ih

theorem mapValues_put (m : List (κ × α)) (key : κ) (value : α) :
    mapValues g (put m key value) = put (mapValues g m) key (g value) := by
  induction m with
  | nil => rfl
  | cons p rest ih =>
    obtain ⟨k, v⟩ := p
    by_cases hk : k = key
    · simp [mapValues, put, hk]
    · simpa [mapValues, put, hk] using ih

theorem mapValues_erase (m : List (κ × α)) (key : κ) :
    mapValues g (erase m key) = erase (mapValues g m) key := by
  unfold mapValues erase
  rw [List.filter_map]
  rfl

/-- Writing the value that is there changes nothing. -/
theorem put_of_get? {m : List (κ × α)} {key : κ} {value : α} (h : get? m key = some value) :
    put m key value = m := by
  induction m with
  | nil => cases h
  | cons p rest ih =>
    obtain ⟨k, v⟩ := p
    by_cases hk : k = key
    · obtain rfl : v = value := by simpa [get?, hk] using h
      simp [put, hk]
    · have hrest : get? rest key = some value := by simpa [get?, hk] using h
      simp [put, hk, ih hrest]

end CameraControl.Entries
