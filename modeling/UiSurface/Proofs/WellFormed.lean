import UiSurface.Proofs.Reading

/-!
# Well-formed values

No object of a well-formed value holds a name twice.  This is handed down in trees, so the changes of a
data model keep it, and every value that is read from a text is well formed, whatever the text repeats.

Main lemmas: `wellFormed_put`, `hereditary_wellFormed`, `wellFormed_of_ofText`.
-/

namespace UiSurface.Json

/-! ## Objects -/

theorem wellFormed_empty : (obj []).WellFormed := wellFormed_obj_iff.mpr ⟨List.nodup_nil, nofun⟩

theorem wellFormed_of_get? {members : Record Json} (h : (obj members).WellFormed) {key : String}
    {value : Json} (hget : Record.get? members key = some value) : value.WellFormed :=
  (wellFormed_obj_iff.mp h).2 _ (Record.mem_of_get?_eq_some hget)

/-- Writing a well-formed value keeps an object well formed. -/
theorem wellFormed_put {members : Record Json} (hmembers : (obj members).WellFormed) (key : String)
    {value : Json} (hvalue : value.WellFormed) :
    (obj (Record.put members key value)).WellFormed := by
  obtain ⟨hnodup, hall⟩ := wellFormed_obj_iff.mp hmembers
  refine wellFormed_obj_iff.mpr ⟨Record.nodup_keys_put members key value hnodup, ?_⟩
  intro e he
  rcases Record.mem_put he with rfl | he
  · exact hvalue
  · exact hall e he

/-- Being well formed goes up from parts to wholes. -/
theorem hereditary_wellFormed : Hereditary WellFormed where
  empty := wellFormed_empty
  put hmembers hvalue := wellFormed_put hmembers _ hvalue
  member hmembers he := (wellFormed_obj_iff.mp hmembers).2 _ he

/-- The reader writes members into a record, so it makes well-formed values only. -/
theorem readable_wellFormed : Readable WellFormed where
  toHereditary := hereditary_wellFormed
  null := trivial
  bool _ := trivial
  str _ := trivial
  float _ := trivial
  integer _ := trivial
  arr hitems := wellFormed_arr_iff.mpr hitems

/-- A value that is read from a text is well formed. -/
theorem wellFormed_of_ofText {text : String} {value : Json} (h : ofText text = .ok value) :
    value.WellFormed := readable_wellFormed.of_ofText h

end UiSurface.Json

namespace UiSurface.DataModel

open Json (hereditary_wellFormed)

/-! ## Trees -/

theorem wellFormed_set {model : DataModel} (hmodel : (Json.obj model).WellFormed)
    (keys : List String) {value : Json} (hvalue : value.WellFormed) :
    (Json.obj (set model keys value)).WellFormed := hereditary_wellFormed.set hmodel keys hvalue

theorem wellFormed_merge {base : DataModel} (hbase : (Json.obj base).WellFormed)
    (members : List (String × Json)) (hmembers : ∀ e ∈ members, e.2.WellFormed) :
    (Json.obj (merge base members)).WellFormed := hereditary_wellFormed.merge hbase members hmembers

/-- A flat overlay stands for a well-formed tree. -/
theorem wellFormed_expandFlat {entries : Record Json} (h : ∀ e ∈ entries, e.2.WellFormed) :
    (Json.obj (expandFlat entries)).WellFormed := hereditary_wellFormed.expandFlat h

end UiSurface.DataModel
