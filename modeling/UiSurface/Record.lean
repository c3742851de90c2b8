/-!
# Records — values by name, in the order of their first writing

A record is a list of named entries.  Writing to a name that is present keeps its place; a new name
goes to the end.  Objects of JSON, component tables, the surfaces of a store, design tokens and
connected devices are all records, so their order is decided once, here.

Main lemmas: `get?_put` (what a write leaves to be read), `keys_put_of_mem` and
`keys_put_of_not_mem` (where the name stands afterwards), `nodup_keys_put` (no name occurs twice).
-/

namespace UiSurface

/-- Entries by name.  Every operation below keeps the names free of duplicates. -/
abbrev Record (α : Type) := List (String × α)

namespace Record

variable {α β : Type}

def keys (r : Record α) : List String := r.map Prod.fst

def values (r : Record α) : List α := r.map Prod.snd

def get? : Record α → String → Option α
  | [], _ => none
  | (k, v) :: r, key => if k = key then some v else get? r key

def has (r : Record α) (key : String) : Bool := (get? r key).isSome

/-- Writes a value under a name: in place if the name is present, at the end otherwise. -/
def put : Record α → String → α → Record α
  | [], key, value => [(key, value)]
  | (k, v) :: r, key, value => if k = key then (k, value) :: r else (k, v) :: put r key value

def erase (r : Record α) (key : String) : Record α := r.filter (fun e => e.1 != key)

/-- Writes the entries of `s` into `r`, one after the other. -/
def putAll (r s : Record α) : Record α := s.foldl (fun acc e => put acc e.1 e.2) r

/-- Reads a list of entries: the last value of a name wins, at the place of the first. -/
def ofEntries (entries : List (String × α)) : Record α := putAll [] entries

/-- Changes every value and keeps the names. -/
def mapValues (f : α → β) (r : Record α) : Record β := r.map (fun e => (e.1, f e.2))

/-! ## What a write leaves to be read -/

@[simp] theorem get?_nil (key : String) : get? ([] : Record α) key = none := rfl

/-- What was written is found, and nothing else changes. -/
theorem get?_put (r : Record α) (key other : String) (value : α) :
    get? (put r key value) other = if key = other then some value else get? r other := by
  induction r with
  | nil => simp [put, get?]
  | cons e r ih =>
    obtain ⟨k, v⟩ := e
    by_cases hk : k = key
    -- the write happens at this entry
    · subst hk
      by_cases ho : k = other <;> simp [put, get?, ho]
    · by_cases ho : k = other
      · subst ho
        simp [put, get?, hk, Ne.symm hk]
      · simp [put, get?, hk, ho, ih]

@[simp] theorem get?_put_self (r : Record α) (key : String) (value : α) :
    get? (put r key value) key = some value := by simp [get?_put]

theorem get?_put_of_ne (r : Record α) {key other : String} (value : α) (h : key ≠ other) :
    get? (put r key value) other = get? r other := by simp [get?_put, h]

/-- A name that is not there has no value. -/
theorem get?_eq_none_iff (r : Record α) (key : String) : get? r key = none ↔ key ∉ keys r := by
  induction r with
  | nil => simp [keys]
  | cons e r ih =>
    obtain ⟨k, v⟩ := e
    by_cases hk : k = key
    · simp [get?, keys, hk]
    · have hne : ¬ key = k := fun h => hk h.symm
      simpa [get?, keys, hk, hne] using ih

theorem has_iff_mem_keys (r : Record α) (key : String) : has r key = true ↔ key ∈ keys r := by
  have h := get?_eq_none_iff r key
  cases hg : get? r key with
  | none => simpa [has, hg] using h
  | some v =>
    have : key ∈ keys r := by
      by_cases hm : key ∈ keys r
      · exact hm
      · simp [h.2 hm] at hg
    simpa [has, hg] using this

/-! ## Where a name stands -/

/-- A name that is there keeps its place. -/
theorem keys_put_of_mem (r : Record α) {key : String} (value : α) (h : key ∈ keys r) :
    keys (put r key value) = keys r := by
  induction r with
  | nil => simp [keys] at h
  | cons e r ih =>
    obtain ⟨k, v⟩ := e
    by_cases hk : k = key
    · simp [put, keys, hk]
    · have hr : key ∈ keys r := by
        have hne : ¬ key = k := fun hh => hk hh.symm
        simpa [keys, hne] using h
      have := ih hr
      simp only [keys] at this
      simp [put, keys, hk, this]

/-- A new name comes last. -/
theorem keys_put_of_not_mem (r : Record α) {key : String} (value : α) (h : key ∉ keys r) :
    keys (put r key value) = keys r ++ [key] := by
  induction r with
  | nil => simp [put, keys]
  | cons e r ih =>
    obtain ⟨k, v⟩ := e
    have hk : k ≠ key := fun hh => h (by simp [keys, hh])
    have hr : key ∉ keys r := fun hh => h (by simp only [keys] at hh; simp [keys, hh])
    have := ih hr
    simp only [keys] at this
    simp [put, keys, hk, this]

theorem mem_keys_put (r : Record α) (key other : String) (value : α) :
    other ∈ keys (put r key value) ↔ other = key ∨ other ∈ keys r := by
  by_cases h : key ∈ keys r
  -- a name that is there adds none
  · rw [keys_put_of_mem r value h]
    constructor
    · exact Or.inr
    · rintro (rfl | hm)
      · exact h
      · exact hm
  · rw [keys_put_of_not_mem r value h]
    simp [or_comm]

/-- No name comes twice by writing. -/
theorem nodup_keys_put (r : Record α) (key : String) (value : α) (h : (keys r).Nodup) :
    (keys (put r key value)).Nodup := by
  by_cases hm : key ∈ keys r
  · rw [keys_put_of_mem r value hm]; exact h
  · rw [keys_put_of_not_mem r value hm, List.nodup_append]
    refine ⟨h, by simp, ?_⟩
    intro a ha b hb hab
    -- the new name stands at the end and was nowhere before
    simp only [List.mem_singleton] at hb
    exact hm (hb ▸ hab ▸ ha)

theorem nodup_keys_erase (r : Record α) (key : String) (h : (keys r).Nodup) :
    (keys (erase r key)).Nodup :=
  List.Sublist.nodup (List.Sublist.map _ List.filter_sublist) h

@[simp] theorem get?_erase_self (r : Record α) (key : String) : get? (erase r key) key = none := by
  rw [get?_eq_none_iff]
  simp [keys, erase]

theorem get?_erase_of_ne (r : Record α) {key other : String} (h : other ≠ key) :
    get? (erase r key) other = get? r other := by
  induction r with
  | nil => rfl
  | cons e r ih =>
    obtain ⟨k, v⟩ := e
    simp only [erase] at ih ⊢
    by_cases hk : k = key
    · subst hk
      simp [get?, ih, Ne.symm h]
    · by_cases ho : k = other
      · subst ho
        simp [get?, hk]
      · simp [get?, hk, ho, ih]

end Record

end UiSurface
