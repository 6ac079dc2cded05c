/-
  Finite maps kept as lists of pairs.

  The first pair with a key counts, and writing keeps at most one. `get?` is the view through which
  everything else is described: see `get?_put` and `get?_erase`.
-/

namespace CameraControl.Entries

variable {κ : Type} {α : Type} [DecidableEq κ]

/-- The value under a key. -/
def get? : List (κ × α) → κ → Option α
  | [], _ => none
  | (k, v) :: rest, key => if k = key then some v else get? rest key

/-- The map with a value under a key; the place of a key that was there stays. -/
def put : List (κ × α) → κ → α → List (κ × α)
  | [], key, value => [(key, value)]
  | (k, v) :: rest, key, value =>
    if k = key then (key, value) :: rest else (k, v) :: put rest key value

/-- The map without a key. -/
def erase (m : List (κ × α)) (key : κ) : List (κ × α) :=
  m.filter fun p => p.1 ≠ key

/-! ## Laws -/

theorem get?_put (m : List (κ × α)) (key key' : κ) (value : α) :
    get? (put m key value) key' = if key = key' then some value else get? m key' := by
  induction m with
  | nil => rfl
  | cons p rest ih =>
    obtain ⟨k, v⟩ := p
    by_cases h : k = key
    · subst h
      by_cases h' : k = key' <;> simp [put, get?, h']
    · have : put ((k, v) :: rest) key value = (k, v) :: put rest key value := by simp [put, h]
      rw [this]
      by_cases h' : k = key'
      · have : key ≠ key' := fun e => h (h'.trans e.symm)
        simp [get?, h', this]
      · simp [get?, h', ih]

theorem get?_erase (m : List (κ × α)) (key key' : κ) :
    get? (erase m key) key' = if key = key' then none else get? m key' := by
  induction m with
  | nil => simp [erase, get?]
  | cons p rest ih =>
    obtain ⟨k, v⟩ := p
    by_cases h : k = key
    · subst h
      have : erase ((k, v) :: rest) k = erase rest k := by simp [erase]
      rw [this, ih]
      by_cases h' : k = key' <;> simp [get?, h']
    · have : erase ((k, v) :: rest) key = (k, v) :: erase rest key := by simp [erase, h]
      rw [this]
      by_cases h' : k = key'
      · have : key ≠ key' := fun e => h (h'.trans e.symm)
        simp [get?, h', this]
      · simp [get?, h', ih]

end CameraControl.Entries
