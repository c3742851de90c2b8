import UiSurface.Component.Table

/-!
# More laws of records

What appending, writing and writing many entries do to a record, as far as the proofs on stores and
data models need it.

An edit writes under a name what it makes of what stands there.  Later edits overwrite earlier ones,
so edits made once more start from another record; still they come to the same if that is so under
each name by itself.  Edits of different names may change places, but for the order of what they add.

Main lemmas: `mem_put` (a write adds its entry and no other), `values_put_perm` and
`values_erase_perm` (what becomes of the values), `ofEntries_of_nodup` (a record without a name twice is
the record of its entries), `edit_edit` (edits that are repeated), `edit_append_perm` (edits of different
names), `ComponentTable.upsertAll_values` (a component table is the table of its components).
-/

namespace UiSurface

namespace Record

variable {α : Type}

/-- What stands under a name is the first that is found. -/
theorem get?_append (r s : Record α) (key : String) :
    get? (r ++ s) key = (get? r key).or (get? s key) := by
  induction r with
  | nil => simp
  | cons e r ih =>
    obtain ⟨k, v⟩ := e
    by_cases hk : k = key
    · simp [get?, hk]
    · simp [get?, hk, ih]

/-! ## Changing every value -/

section

variable {β : Type} (f : α → β)

/-- Changing every value changes what is found. -/
theorem get?_mapValues (r : Record α) (key : String) : get? (mapValues f r) key = (get? r key).map f := by
  induction r with
  | nil => rfl
  | cons e r ih =>
    obtain ⟨k, v⟩ := e
    by_cases hk : k = key
    · simp [mapValues, get?, hk]
    · simpa [mapValues, get?, hk] using ih

theorem has_mapValues (r : Record α) (key : String) : has (mapValues f r) key = has r key := by
  simp [has, get?_mapValues]

theorem put_mapValues (r : Record α) (key : String) (value : α) :
    put (mapValues f r) key (f value) = mapValues f (put r key value) := by
  induction r with
  | nil => rfl
  | cons e r ih =>
    obtain ⟨k, v⟩ := e
    by_cases hk : k = key
    · simp [mapValues, put, hk]
    · simpa [mapValues, put, hk] using ih

theorem erase_mapValues (r : Record α) (key : String) :
    erase (mapValues f r) key = mapValues f (erase r key) := by
  simp only [erase, mapValues, List.filter_map]
  rfl

end

/-! ## What a write adds -/

theorem mem_of_get?_eq_some {r : Record α} {key : String} {value : α}
    (h : get? r key = some value) : (key, value) ∈ r := by
  induction r with
  | nil => cases h
  | cons e r ih =>
    obtain ⟨k, v⟩ := e
    by_cases hk : k = key
    · simp only [get?, hk, if_true, Option.some.injEq] at h
      simp [hk, h]
    · simp only [get?, hk, if_false] at h
      exact List.mem_cons_of_mem _ (ih h)

/-- A write adds its own entry and no other. -/
theorem mem_put {r : Record α} {key : String} {value : α} {e : String × α}
    (h : e ∈ put r key value) : e = (key, value) ∨ e ∈ r := by
  induction r with
  | nil => exact Or.inl (List.mem_singleton.mp h)
  | cons e' r ih =>
    obtain ⟨k, v⟩ := e'
    by_cases hk : k = key
    · simp only [put, hk, if_true, List.mem_cons] at h
      rcases h with h | h
      · exact Or.inl h
      · exact Or.inr (List.mem_cons_of_mem _ h)
    · simp only [put, hk, if_false, List.mem_cons] at h
      rcases h with h | h
      · exact Or.inr (by simp [h])
      · rcases ih h with h | h
        · exact Or.inl h
        · exact Or.inr (List.mem_cons_of_mem _ h)

/-- A new name comes last. -/
theorem put_of_not_mem {r : Record α} {key : String} (value : α) (h : key ∉ keys r) :
    put r key value = r ++ [(key, value)] := by
  induction r with
  | nil => rfl
  | cons e r ih =>
    obtain ⟨k, v⟩ := e
    have hk : k ≠ key := fun hk => h (by simp [keys, hk])
    have hr : key ∉ keys r := by
      intro hr
      exact h (by simpa [keys] using Or.inr hr)
    simp [put, hk, ih hr]

/-- Of two writes under one name the second counts. -/
theorem put_put (r : Record α) (key : String) (first second : α) :
    put (put r key first) key second = put r key second := by
  induction r with
  | nil => simp [put]
  | cons e r ih =>
    obtain ⟨k, v⟩ := e
    by_cases hk : k = key
    · simp [put, hk]
    · simp [put, hk, ih]

theorem mem_keys_of_mem {r : Record α} {e : String × α} (h : e ∈ r) : e.1 ∈ keys r :=
  List.mem_map_of_mem h

theorem erase_of_not_mem {r : Record α} {key : String} (h : key ∉ keys r) : erase r key = r := by
  refine List.filter_eq_self.mpr fun e he => ?_
  have hne : e.1 ≠ key := by
    rintro rfl
    exact h (mem_keys_of_mem he)
  simpa using hne

/-- Without the name that is written, a record is what it was. -/
theorem erase_put (r : Record α) (key : String) (value : α) :
    erase (put r key value) key = erase r key := by
  induction r with
  | nil => simp [put, erase]
  | cons e r ih =>
    obtain ⟨k, v⟩ := e
    by_cases hk : k = key
    · simp [put, erase, hk]
    · simp only [erase] at ih
      simp [put, erase, hk, ih]

@[simp] theorem erase_erase (r : Record α) (key : String) :
    erase (erase r key) key = erase r key := by simp [erase]

/-- A name that does not occur twice has the value of any entry under it. -/
theorem get?_of_mem {r : Record α} (h : (keys r).Nodup) {key : String} {value : α}
    (hmem : (key, value) ∈ r) : get? r key = some value := by
  induction r with
  | nil => cases hmem
  | cons e r ih =>
    obtain ⟨k, v⟩ := e
    obtain ⟨hk, hr⟩ := List.nodup_cons.mp h
    rcases List.mem_cons.mp hmem with hhead | htail
    · obtain ⟨rfl, rfl⟩ := Prod.mk.inj hhead
      simp [get?]
    · have hne : k ≠ key := by
        rintro rfl
        exact hk (List.mem_map.mpr ⟨_, htail, rfl⟩)
      simp [get?, hne, ih hr htail]

/-- A write under a name that is there exchanges one value for another. -/
theorem values_put_perm {r : Record α} {key : String} {old : α} (h : get? r key = some old)
    (new : α) : (old :: values (put r key new)).Perm (new :: values r) := by
  induction r with
  | nil => cases h
  | cons e r ih =>
    obtain ⟨k, v⟩ := e
    by_cases hk : k = key
    · simp only [get?, hk, if_true, Option.some.injEq] at h
      simpa [put, hk, values, h] using List.Perm.swap new old _
    · simp only [get?, hk, if_false] at h
      have hrest := (ih h).cons v
      simp only [put, hk, if_false, values, List.map_cons] at hrest ⊢
      -- the first entry steps aside for the exchange further on
      have hbefore := List.Perm.swap v old ((put r key new).map Prod.snd)
      have hafter := List.Perm.swap new v (r.map Prod.snd)
      exact hbefore.trans (hrest.trans hafter)

/-- To take a name out is to take its value out. -/
theorem values_erase_perm {r : Record α} (hr : (keys r).Nodup) {key : String} {old : α}
    (h : get? r key = some old) : (old :: values (erase r key)).Perm (values r) := by
  induction r with
  | nil => cases h
  | cons e r ih =>
    obtain ⟨k, v⟩ := e
    obtain ⟨hk, hrest⟩ := List.nodup_cons.mp hr
    by_cases hkey : k = key
    · subst hkey
      simp only [get?, if_true, Option.some.injEq] at h
      have herase : erase ((k, v) :: r) k = r := by
        calc erase ((k, v) :: r) k = erase r k := by simp [erase]
          _ = r := erase_of_not_mem hk
      rw [herase, h]
      exact List.Perm.refl _
    · simp only [get?, hkey, if_false] at h
      have hswap := List.Perm.swap v old (values (erase r key))
      have herase : values (erase ((k, v) :: r) key) = v :: values (erase r key) := by
        simp [erase, values, hkey]
      rw [herase]
      exact hswap.trans ((ih hrest h).cons v)

/-- What is in front of a name does not hold it again. -/
theorem not_mem_keys_of_nodup {r s : Record α} {key : String} {value : α}
    (h : (keys (r ++ (key, value) :: s)).Nodup) : key ∉ keys r := by
  intro hkey
  simp only [keys, List.map_append, List.map_cons, List.nodup_append] at h
  exact h.2.2 key hkey key (by simp) rfl

/-- Entries with new names, none twice, go to the end as they are. -/
theorem putAll_of_nodup {r s : Record α} (h : (keys (r ++ s)).Nodup) : putAll r s = r ++ s := by
  induction s generalizing r with
  | nil => simp [putAll]
  | cons e s ih =>
    obtain ⟨k, v⟩ := e
    have hk : k ∉ keys r := not_mem_keys_of_nodup h
    have hstep : putAll r ((k, v) :: s) = putAll (r ++ [(k, v)]) s := by
      simp [putAll, put_of_not_mem v hk]
    rw [hstep, ih (by simpa using h), List.append_assoc, List.singleton_append]

/-- Entries with different names are a record as they are. -/
theorem ofEntries_of_nodup {r : Record α} (h : (keys r).Nodup) : ofEntries r = r :=
  putAll_of_nodup (by simpa using h)

theorem nodup_keys_putAll {r : Record α} (s : Record α) (h : (keys r).Nodup) :
    (keys (putAll r s)).Nodup := by
  induction s generalizing r with
  | nil => exact h
  | cons e s ih => exact ih (nodup_keys_put r e.1 e.2 h)

/-- Every entry of what was put together is one of the two. -/
theorem mem_putAll {r s : Record α} {e : String × α} (h : e ∈ putAll r s) : e ∈ s ∨ e ∈ r := by
  induction s generalizing r with
  | nil => exact Or.inr h
  | cons e' s ih =>
    rcases ih h with h | h
    · exact Or.inl (List.mem_cons_of_mem _ h)
    · rcases mem_put h with h | h
      · exact Or.inl (by simp [h])
      · exact Or.inr h

/-! ## Other names -/

section Rename

variable {β : Type}

/-- A record with other names and other values. -/
def rename (f : String → String) (g : α → β) (r : Record α) : Record β :=
  r.map fun e => (f e.1, g e.2)

variable {f : String → String} (hf : ∀ a b, f a = f b → a = b) (g : α → β)

include hf

/-- Names that stay apart are found under their new names. -/
theorem get?_rename (r : Record α) (key : String) :
    get? (rename f g r) (f key) = (get? r key).map g := by
  induction r with
  | nil => rfl
  | cons e r ih =>
    obtain ⟨k, value⟩ := e
    simp only [rename, List.map_cons, get?] at ih ⊢
    by_cases hk : k = key
    · simp [hk]
    · have hne : f k ≠ f key := fun h => hk (hf k key h)
      simp [hk, hne, ih]

theorem put_rename (r : Record α) (key : String) (value : α) :
    put (rename f g r) (f key) (g value) = rename f g (put r key value) := by
  induction r with
  | nil => rfl
  | cons e r ih =>
    obtain ⟨k, old⟩ := e
    simp only [rename, List.map_cons, put] at ih ⊢
    by_cases hk : k = key
    · simp [hk]
    · have hne : f k ≠ f key := fun h => hk (hf k key h)
      simp [hk, hne, ih]

theorem erase_rename (r : Record α) (key : String) :
    erase (rename f g r) (f key) = rename f g (erase r key) := by
  have hkey : ∀ name, (f name != f key) = (name != key) := fun name => by
    rw [Bool.eq_iff_iff, bne_iff_ne, bne_iff_ne]
    exact not_congr ⟨hf name key, congrArg f⟩
  simp only [erase, rename, List.filter_map, Function.comp_def, hkey]

end Rename

/-! ## Edits -/

/-- Writes under names, one after the other, what each edit makes of what stands there. -/
def edit (r : Record α) (edits : List (String × (Option α → α))) : Record α :=
  edits.foldl (fun acc e => put acc e.1 (e.2 (get? acc e.1))) r

/-- What edits make of what stands under one name. -/
def editAt (edits : List (String × (Option α → α))) (key : String) (x : Option α) : Option α :=
  edits.foldl (fun acc e => if e.1 = key then some (e.2 acc) else acc) x

/-- Edits may be made in two parts. -/
theorem edit_append (r : Record α) (edits more : List (String × (Option α → α))) :
    edit r (edits ++ more) = edit (edit r edits) more := List.foldl_append

theorem editAt_append (edits more : List (String × (Option α → α))) (key : String) (x : Option α) :
    editAt (edits ++ more) key x = editAt more key (editAt edits key x) := List.foldl_append

/-- Edits under one name come one after the other. -/
theorem editAt_cons_self (key : String) (f : Option α → α) (edits : List (String × (Option α → α)))
    (x : Option α) : editAt ((key, f) :: edits) key x = editAt edits key (some (f x)) := by
  simp [editAt]

/-- Edits under another name count nothing. -/
theorem editAt_cons_of_ne {name key : String} (h : name ≠ key) (f : Option α → α)
    (edits : List (String × (Option α → α))) (x : Option α) :
    editAt ((name, f) :: edits) key x = editAt edits key x := by
  simp [editAt, h]

/-- Edits of other names leave a name alone, and without those of a name it is left alone too. -/
theorem editAt_filter (edits : List (String × (Option α → α))) (key other : String)
    (x : Option α) :
    editAt (edits.filter (fun e => e.1 != key)) other x =
      if other = key then x else editAt edits other x := by
  induction edits generalizing x with
  | nil => simp [editAt]
  | cons e edits ih =>
    obtain ⟨name, f⟩ := e
    -- an edit of another key is kept
    by_cases hname : name = key
    · subst hname
      have hdrop : ((name, f) :: edits).filter (fun e => e.1 != name) =
          edits.filter (fun e => e.1 != name) := by simp
      rw [hdrop, ih]
      by_cases hother : other = name
      · simp [hother]
      · simp [hother, editAt_cons_of_ne (Ne.symm hother)]
    · have hkeep : ((name, f) :: edits).filter (fun e => e.1 != key) =
          (name, f) :: edits.filter (fun e => e.1 != key) := by simp [hname]
      rw [hkeep]
      by_cases hother : name = other
      · subst hother
        rw [editAt_cons_self, editAt_cons_self, ih]
        simp [hname]
      · rw [editAt_cons_of_ne hother, editAt_cons_of_ne hother, ih]

/-- Edits act on the first entry of a record and on the others apart. -/
theorem edit_cons (key : String) (value : α) (r : Record α)
    (edits : List (String × (Option α → α))) :
    ∃ next, editAt edits key (some value) = some next ∧
      edit ((key, value) :: r) edits =
        (key, next) :: edit r (edits.filter (fun e => e.1 != key)) := by
  induction edits generalizing value r with
  | nil => exact ⟨value, rfl, rfl⟩
  | cons e edits ih =>
    obtain ⟨name, f⟩ := e
    by_cases hname : name = key
    · subst hname
      obtain ⟨next, hat, hedit⟩ := ih (f (some value)) r
      refine ⟨next, ?_, ?_⟩
      · rw [editAt_cons_self, hat]
      · simpa [edit, put, get?] using hedit
    · obtain ⟨next, hat, hedit⟩ := ih value (put r name (f (get? r name)))
      refine ⟨next, ?_, ?_⟩
      · rw [editAt_cons_of_ne hname, hat]
      · simpa [edit, put, get?, hname, Ne.symm hname] using hedit

/-- If edits can be repeated under the first name and on the other entries, so they can on both. -/
theorem edit_cons_of_fixed {key : String} {value : α} {r : Record α}
    {edits : List (String × (Option α → α))} (hfixed : editAt edits key (some value) = some value)
    (hr : edit r (edits.filter (fun e => e.1 != key)) = r) :
    edit ((key, value) :: r) edits = (key, value) :: r := by
  obtain ⟨next, hat, hedit⟩ := edit_cons key value r edits
  rw [hfixed] at hat
  obtain rfl := Option.some.inj hat
  rw [hedit, hr]

/-- Edits that change nothing under any name when they are made once more. -/
def Repeatable (edits : List (String × (Option α → α))) : Prop :=
  ∀ key x, editAt edits key (editAt edits key x) = editAt edits key x

theorem Repeatable.filter {edits : List (String × (Option α → α))} (h : Repeatable edits)
    (key : String) : Repeatable (edits.filter (fun e => e.1 != key)) := by
  intro other x
  simp only [editAt_filter]
  by_cases hother : other = key
  · simp [hother]
  · simp [hother, h other x]

/-- Edits that may be repeated leave what they have made. -/
theorem edit_edit_nil {edits : List (String × (Option α → α))} (h : Repeatable edits) :
    edit (edit [] edits) edits = edit [] edits := by
  -- the first edit makes the first entry, and fewer edits make the others
  induction hn : edits.length using Nat.strongRecOn generalizing edits with
  | ind n ih =>
    cases edits with
    | nil => rfl
    | cons e edits =>
      obtain ⟨key, f⟩ := e
      obtain ⟨next, hat, hedit⟩ := edit_cons key (f none) [] edits
      have hfirst : edit ([] : Record α) ((key, f) :: edits) =
          (key, next) :: edit [] (edits.filter (fun e => e.1 != key)) := hedit
      have hothers : ((key, f) :: edits).filter (fun e => e.1 != key) =
          edits.filter (fun e => e.1 != key) := by simp
      have hfixed : editAt ((key, f) :: edits) key (some next) = some next := by
        have hnext : editAt ((key, f) :: edits) key none = some next := by
          rw [editAt_cons_self, hat]
        rw [← hnext, h]
      have hfewer : (edits.filter (fun e => e.1 != key)).length < n := by
        rw [← hn]
        exact Nat.lt_succ_of_le (List.length_filter_le _ _)
      have hrest := ih _ hfewer (hothers ▸ h.filter key) rfl
      rw [hfirst]
      exact edit_cons_of_fixed hfixed (by rw [hothers]; exact hrest)

/-- What can be repeated under every name can be repeated on every record, the order of its entries
included. -/
theorem edit_edit {edits : List (String × (Option α → α))} (h : Repeatable edits) (r : Record α) :
    edit (edit r edits) edits = edit r edits := by
  induction r generalizing edits with
  | nil => exact edit_edit_nil h
  | cons e r ih =>
    obtain ⟨key, value⟩ := e
    obtain ⟨next, hat, hedit⟩ := edit_cons key value r edits
    have hfixed : editAt edits key (some next) = some next := by rw [← hat, h]
    rw [hedit]
    exact edit_cons_of_fixed hfixed (ih (h.filter key))

/-- To write entries is to edit without a look at what stands there. -/
theorem putAll_eq_edit (r s : Record α) :
    putAll r s = edit r (s.map fun e => (e.1, fun _ => e.2)) := by
  rw [edit, List.foldl_map]
  rfl

/-- Under one name, entries that are written leave what stands there or fix it. -/
theorem editAt_writes (s : Record α) (key : String) :
    (∀ x, editAt (s.map fun e => (e.1, fun _ => e.2)) key x = x) ∨
      ∃ value, ∀ x, editAt (s.map fun e => (e.1, fun _ => e.2)) key x = some value := by
  induction s with
  | nil => exact Or.inl fun _ => rfl
  | cons e s ih =>
    by_cases he : e.1 = key
    · subst he
      rcases ih with hkeep | ⟨value, hvalue⟩
      · exact Or.inr ⟨e.2, fun x => by rw [List.map_cons, editAt_cons_self, hkeep]⟩
      · exact Or.inr ⟨value, fun x => by rw [List.map_cons, editAt_cons_self, hvalue]⟩
    · rcases ih with hkeep | ⟨value, hvalue⟩
      · exact Or.inl fun x => by rw [List.map_cons, editAt_cons_of_ne he, hkeep]
      · exact Or.inr ⟨value, fun x => by rw [List.map_cons, editAt_cons_of_ne he, hvalue]⟩

/-- Entries that are written twice in a row are as if written once. -/
theorem putAll_putAll (r s : Record α) : putAll (putAll r s) s = putAll r s := by
  simp only [putAll_eq_edit]
  apply edit_edit
  intro key x
  rcases editAt_writes s key with hkeep | ⟨value, hvalue⟩
  · rw [hkeep]
  · rw [hvalue, hvalue]

/-! ## Edits of different names -/

/-- What edits leave under a name is what they make of what stands there. -/
theorem get?_edit (r : Record α) (edits : List (String × (Option α → α))) (key : String) :
    get? (edit r edits) key = editAt edits key (get? r key) := by
  induction edits generalizing r with
  | nil => rfl
  | cons e edits ih =>
    obtain ⟨name, f⟩ := e
    have hstep : edit r ((name, f) :: edits) = edit (put r name (f (get? r name))) edits := rfl
    rw [hstep, ih]
    by_cases hname : name = key
    · subst hname
      rw [editAt_cons_self, get?_put_self]
    · rw [editAt_cons_of_ne hname, get?_put_of_ne _ _ hname]

/-- Edits of other names leave a name alone. -/
theorem editAt_of_forall_ne {edits : List (String × (Option α → α))} {key : String}
    (h : ∀ e ∈ edits, e.1 ≠ key) (x : Option α) : editAt edits key x = x := by
  induction edits with
  | nil => rfl
  | cons e edits ih =>
    obtain ⟨name, f⟩ := e
    obtain ⟨hname, hrest⟩ := List.forall_mem_cons.mp h
    rw [editAt_cons_of_ne hname, ih hrest]

/-- Edits of names that the first part of a record lacks go on to the second part. -/
theorem edit_of_append {r s : Record α} {edits : List (String × (Option α → α))}
    (h : ∀ e ∈ edits, e.1 ∉ keys r) : edit (r ++ s) edits = r ++ edit s edits := by
  induction r with
  | nil => rfl
  | cons first r ih =>
    obtain ⟨key, value⟩ := first
    have hkey : ∀ e ∈ edits, e.1 ≠ key := by
      intro e he hname
      exact h e he (by simp [keys, hname])
    have hrest : ∀ e ∈ edits, e.1 ∉ keys r := by
      intro e he hmem
      exact h e he (List.mem_cons_of_mem _ hmem)
    obtain ⟨next, hat, hedit⟩ := edit_cons key value (r ++ s) edits
    -- no edit is for the first key, so the edits pass it by
    rw [editAt_of_forall_ne hkey] at hat
    obtain rfl := Option.some.inj hat
    have hall : edits.filter (fun e => e.1 != key) = edits :=
      List.filter_eq_self.mpr fun e he => by simpa using hkey e he
    rw [hall] at hedit
    rw [List.cons_append, hedit, ih hrest, List.cons_append]

section Different

variable {a b : List (String × (Option α → α))} (h : ∀ e ∈ a, ∀ f ∈ b, e.1 ≠ f.1)

include h

/-- Under each name, edits of different names may change places: at most one side touches it. -/
theorem editAt_append_comm (key : String) (x : Option α) :
    editAt (a ++ b) key x = editAt (b ++ a) key x := by
  rw [editAt_append, editAt_append]
  by_cases hfirst : ∀ e ∈ a, e.1 ≠ key
  · rw [editAt_of_forall_ne hfirst, editAt_of_forall_ne hfirst]
  · have hsecond : ∀ f ∈ b, f.1 ≠ key := by
      intro f hf hname
      refine hfirst fun e he hkey => h e he f hf ?_
      rw [hkey, hname]
    rw [editAt_of_forall_ne hsecond, editAt_of_forall_ne hsecond]

/-- On no entries, edits of different names add what each side adds. -/
theorem edit_nil_append : edit [] (a ++ b) = edit [] a ++ edit [] b := by
  have habsent : ∀ f ∈ b, f.1 ∉ keys (edit [] a) := by
    intro f hf
    rw [← get?_eq_none_iff, get?_edit, editAt_of_forall_ne fun e he => h e he f hf]
    rfl
  have hparts := edit_of_append (s := []) habsent
  rw [List.append_nil] at hparts
  rw [edit_append, hparts]

/-- Edits of different names may change places, but for the order of what they add. -/
theorem edit_append_perm (r : Record α) : (edit r (a ++ b)).Perm (edit r (b ++ a)) := by
  induction r generalizing a b with
  | nil =>
    have h' : ∀ f ∈ b, ∀ e ∈ a, f.1 ≠ e.1 := fun f hf e he => (h e he f hf).symm
    rw [edit_nil_append h, edit_nil_append h']
    exact List.perm_append_comm
  | cons first r ih =>
    -- the first entry becomes the same in both orders, and fewer edits act on the others
    obtain ⟨key, value⟩ := first
    obtain ⟨next, hat, hedit⟩ := edit_cons key value r (a ++ b)
    obtain ⟨next', hat', hedit'⟩ := edit_cons key value r (b ++ a)
    rw [editAt_append_comm h, hat'] at hat
    obtain rfl := Option.some.inj hat
    rw [hedit, hedit', List.filter_append, List.filter_append]
    refine (ih fun e he f hf => ?_).cons _
    exact h e (List.mem_filter.mp he).1 f (List.mem_filter.mp hf).1

end Different

end Record

namespace ComponentTable

/-- To define components is to write each under its own id. -/
theorem upsertAll_eq_putAll (table : ComponentTable) (cs : List Component) :
    upsertAll table cs = Record.putAll table (cs.map (fun c => (c.id, c))) := by
  rw [upsertAll, Record.putAll, List.foldl_map]
  rfl

/-- Lists of components may be put in together. -/
theorem upsertAll_append (table : ComponentTable) (cs more : List Component) :
    upsertAll table (cs ++ more) = upsertAll (upsertAll table cs) more := List.foldl_append

/-- Components that are defined twice in a row are as if defined once. -/
theorem upsertAll_upsertAll (table : ComponentTable) (cs : List Component) :
    upsertAll (upsertAll table cs) cs = upsertAll table cs := by
  simp only [upsertAll_eq_putAll]
  exact Record.putAll_putAll table _

/-- Components without a common id may be defined in either order. -/
theorem upsertAll_upsertAll_perm (table : ComponentTable) {cs ds : List Component}
    (h : ∀ c ∈ cs, ∀ d ∈ ds, c.id ≠ d.id) :
    ((table.upsertAll cs).upsertAll ds).Perm ((table.upsertAll ds).upsertAll cs) := by
  simp only [upsertAll_eq_putAll, Record.putAll_eq_edit, ← Record.edit_append]
  refine Record.edit_append_perm ?_ table
  intro e he f hf
  simp only [List.map_map, List.mem_map, Function.comp_apply] at he hf
  obtain ⟨c, hc, rfl⟩ := he
  obtain ⟨d, hd, rfl⟩ := hf
  exact h c hc d hd

/-- An entry of a table in which components were defined is one of them, under its own id, or was there. -/
theorem mem_upsertAll {table : ComponentTable} {cs : List Component} {e : String × Component}
    (h : e ∈ upsertAll table cs) : (∃ c ∈ cs, e = (c.id, c)) ∨ e ∈ table := by
  rw [upsertAll_eq_putAll] at h
  rcases Record.mem_putAll h with h | h
  · obtain ⟨c, hc, rfl⟩ := List.mem_map.mp h
    exact Or.inl ⟨c, hc, rfl⟩
  · exact Or.inr h

/-- Components that are defined stand under their own ids. -/
theorem keyed_upsertAll {table : ComponentTable} (h : ∀ e ∈ table, e.1 = e.2.id)
    (cs : List Component) : ∀ e ∈ upsertAll table cs, e.1 = e.2.id := by
  intro e he
  rcases mem_upsertAll he with ⟨c, -, rfl⟩ | he
  · rfl
  · exact h e he

/-- The components that are left when one is taken out stand under their own ids. -/
theorem keyed_erase {table : ComponentTable} (h : ∀ e ∈ table, e.1 = e.2.id) (id : String) :
    ∀ e ∈ Record.erase table id, e.1 = e.2.id := fun e he => h e (List.mem_filter.mp he).1

/-- A component is under an id exactly if one was there or comes. -/
theorem mem_keys_upsertAll {table : ComponentTable} {cs : List Component}
    {id : String} : id ∈ Record.keys (upsertAll table cs) ↔
      id ∈ Record.keys table ∨ ∃ c ∈ cs, c.id = id := by
  induction cs generalizing table with
  | nil => simp [upsertAll]
  | cons c cs ih =>
    show id ∈ Record.keys (upsertAll (upsert table c) cs) ↔ _
    rw [ih, upsert, Record.mem_keys_put]
    simp only [List.mem_cons, exists_eq_or_imp, eq_comm (a := id)]
    rw [or_assoc, or_left_comm]

/-- A table whose components stand under their own ids, none twice, is defined by its components. -/
theorem upsertAll_values {table : ComponentTable} (hkeyed : ∀ e ∈ table, e.1 = e.2.id)
    (hnodup : (Record.keys table).Nodup) : upsertAll [] (Record.values table) = table := by
  have hentries : (Record.values table).map (fun c => (c.id, c)) = table := by
    rw [Record.values, List.map_map]
    calc table.map ((fun c => (c.id, c)) ∘ Prod.snd)
        = table.map id := List.map_congr_left fun e he => Prod.ext (hkeyed e he).symm rfl
      _ = table := List.map_id table
  rw [upsertAll_eq_putAll, hentries]
  exact Record.ofEntries_of_nodup hnodup

end ComponentTable

end UiSurface
