import UiSurface.Proofs.Reports
import UiSurface.Proofs.Tips

/-!
# Bindings, as they are shown and as they are listed

Values are written at the segments of a path, which leave empty pieces out, and so are the bound
properties of a surface listed.  A binding is shown from the pieces of its path, where an empty piece is
a name like any other.  So writing, listing and showing agree on the paths that have no empty piece, and
only on them: a binding with a slash too many is listed with a value that it does not show.

Main lemmas: `Reference.bindingPath?_bindingTo` (the path of a binding, whatever characters it has),
`Reference.bound?_bindingTo_joined` (a binding to a list of keys), `Store.binding_shows_what_is_written`,
`Surface.boundPlaces_filter` (a binding is listed once), `Store.listed_binding_is_what_is_shown`.
-/

namespace UiSurface

/-! ## Paths without an empty piece -/

namespace Path

/-- The path of some keys, with a slash between each two. -/
def joined (keys : List String) : String := String.ofList (Text.joinWith '/' (keys.map String.toList))

theorem slash_joined (keys : List String) : "/" ++ joined keys = ofKeys keys := by
  refine String.toList_inj.mp ?_
  simp [joined, ofKeys]

/-- The segments of a path are its pieces without the empty ones. -/
theorem segments_eq_filter_pieces (path : String) :
    segments path = (pieces path).filter (· ≠ "") := by
  rw [segments, pieces, List.filter_map]
  congr 1
  refine List.filter_congr fun piece _ => ?_
  cases piece <;> simp

/-- A slash in front adds an empty piece, and no segment. -/
theorem segments_slash (path : String) : segments ("/" ++ path) = segments path := by
  simp [segments, Text.splitAt]

/-- A path without empty pieces has the same pieces and segments. -/
theorem segments_eq_pieces {path : String} (h : "" ∉ pieces path) : segments path = pieces path := by
  rw [segments_eq_filter_pieces, List.filter_eq_self]
  intro piece hpiece
  have hne : piece ≠ "" := by
    rintro rfl
    exact h hpiece
  simpa using hne

/-- A path that is made of keys has these keys for its pieces. -/
theorem pieces_joined {keys : List String} (hne : keys ≠ []) (h : ∀ key ∈ keys, IsKey key) :
    pieces (joined keys) = keys := by
  have hslash : ∀ piece ∈ keys.map String.toList, '/' ∉ piece := by
    intro piece hpiece
    obtain ⟨key, hkey, rfl⟩ := List.mem_map.mp hpiece
    exact (h key hkey).2
  rw [pieces, joined, String.toList_ofList, Text.splitAt_joinWith (by simpa using hne) hslash,
    List.map_map]
  simp [Function.comp_def]

theorem segments_joined {keys : List String} (h : ∀ key ∈ keys, IsKey key) :
    segments (joined keys) = keys := by
  rw [← segments_slash, slash_joined, segments_ofKeys h]

theorem joined_ne_empty {keys : List String} (hne : keys ≠ []) (h : ∀ key ∈ keys, IsKey key) :
    joined keys ≠ "" := by
  intro hempty
  have hsegments := segments_joined h
  rw [hempty] at hsegments
  exact hne hsegments.symm

end Path

/-! ## Texts of bindings -/

/-- Whether a value is a text, a number, a truth value or null. -/
def Json.isScalar : Json → Bool
  | .arr _ | .obj _ => false
  | _ => true

namespace Reference

/-- The binding to a path, which is written without its first slash. -/
def bindingTo (path : String) : String := "$\x7b/" ++ path ++ "\x7d"

/-- What is enclosed may hold braces and line ends itself. -/
theorem enclosed?_eq_some_iff {opening cs inner : List Char} : enclosed? opening cs = some inner ↔
    inner ≠ [] ∧ (cs = opening ++ inner ++ ['\x7d'] ∨ cs = opening ++ inner ++ ['\x7d', '\n']) := by
  constructor
  · intro h
    simp only [enclosed?] at h
    generalize hbody : (if cs.getLast? = some '\n' then cs.dropLast else cs) = body at h
    split at h
    · rename_i hends
      rw [Bool.and_eq_true, List.isPrefixOf_iff_prefix, beq_iff_eq] at hends
      obtain ⟨⟨rest, rfl⟩, hlast⟩ := hends
      rw [List.drop_left] at h
      split at h
      · cases h
      · rename_i hne
        obtain rfl := Option.some.inj h
        -- the last character is the brace, so there is something behind the opening
        obtain rfl | ⟨inner, last, rfl⟩ := rest.eq_nil_or_concat
        · simp at hne
        · obtain rfl : last = '\x7d' := by simpa [← List.append_assoc] using hlast
          simp only [List.concat_eq_append, List.dropLast_concat] at hne hbody ⊢
          refine ⟨by simpa using hne, ?_⟩
          split at hbody
          · rename_i hline
            right
            obtain ⟨before, rfl⟩ := List.getLast?_eq_some_iff.mp hline
            rw [List.dropLast_concat] at hbody
            simp [hbody]
          · left
            rw [hbody, List.append_assoc]
    · cases h
  · rintro ⟨hne, rfl | rfl⟩
    · simp [enclosed?, hne]
    · simp [enclosed?, hne, List.dropLast_append_of_ne_nil]

/-- The texts that are bindings to a path: a line end may follow the brace. -/
theorem bindingPath?_eq_some_iff {text path : String} : bindingPath? text = some path ↔
    path ≠ "" ∧ (text = bindingTo path ∨ text = bindingTo path ++ "\n") := by
  have hchars : (bindingTo path).toList = ['$', '\x7b', '/'] ++ path.toList ++ ['\x7d'] := by
    simp [bindingTo]
  have hpath : bindingPath? text = some path ↔
      enclosed? ['$', '\x7b', '/'] text.toList = some path.toList := by
    rw [bindingPath?, Option.map_eq_some_iff]
    constructor
    · rintro ⟨inner, hinner, rfl⟩
      rw [hinner, String.toList_ofList]
    · intro h
      exact ⟨_, h, String.ofList_toList⟩
  rw [hpath, enclosed?_eq_some_iff, ← String.toList_inj, ← String.toList_inj, String.toList_append,
    hchars]
  simp

/-- A binding leads to the path that it was made for. -/
theorem bindingPath?_bindingTo {path : String} (h : path ≠ "") :
    bindingPath? (bindingTo path) = some path :=
  bindingPath?_eq_some_iff.mpr ⟨h, Or.inl rfl⟩

/-- Scalars and nothing else have a text to be shown as. -/
theorem isSome_scalarText? (v : Json) : (scalarText? v).isSome = v.isScalar := by
  cases v with
  | null | bool | str | arr | obj => rfl
  | num n =>
    cases n with
    | int n => rfl
    | float x =>
      rw [scalarText?]
      split <;> rfl

/-- A binding shows what its pieces lead to. -/
theorem bound?_of_bindingPath? {text path : String} (h : bindingPath? text = some path)
    (model : DataModel) : bound? model text = (model.get? (Path.pieces path)).bind scalarText? := by
  simp [bound?, h]

/-- A binding to keys shows what stands at the end of them. -/
theorem bound?_bindingTo_joined {keys : List String} (hne : keys ≠ [])
    (h : ∀ key ∈ keys, Path.IsKey key) (model : DataModel) :
    bound? model (bindingTo (Path.joined keys)) = (model.get? keys).bind scalarText? := by
  rw [bound?_of_bindingPath? (bindingPath?_bindingTo (Path.joined_ne_empty hne h)),
    Path.pieces_joined hne h]

end Reference

/-! ## What is written is shown -/

namespace Store

open Reference (bindingTo scalarText? bound?_bindingTo_joined isSome_scalarText?)

/-- What is accepted was applied to a store that was not disposed. -/
theorem disposed_of_isAccepted {s : Store} {m : Message} (h : (s.apply m).2.isAccepted = true) :
    s.disposed = false := by
  cases hs : s.disposed with
  | false => rfl
  | true => simp [apply, hs, Outcome.isAccepted] at h

/-- What is written at a path is what its binding shows.  Let some keys be joined by slashes, and let a
value be written at that path of a surface, with a slash in front or without.  A store that is not
disposed accepts this.  Then the binding to the path shows the text of the value if it is a scalar, and
itself if it is an array or an object; templates of the clock are replaced in either case.  The bindings
to paths of keys that part from these show what they showed before. -/
theorem binding_shows_what_is_written {s : Store} {id : String} {x : Surface}
    (hx : s.surface? id = some x) {keys : List String} (hne : keys ≠ [])
    (hkeys : ∀ key ∈ keys, Path.IsKey key) {path : String}
    (hpath : path = Path.joined keys ∨ path = "/" ++ Path.joined keys) (v : Json) :
    let after := s.apply (.updateDataModel id (.write (some path) v))
    let binding := bindingTo (Path.joined keys)
    (s.disposed = false → after.2 = .accepted id []) ∧
    (after.2.isAccepted = true → ∃ y, after.1.surface? id = some y ∧ ∀ now,
      (v.isScalar = true → ∃ text, scalarText? v = some text ∧
        y.resolveText now binding = now.expand text) ∧
      (v.isScalar = false → y.resolveText now binding = now.expand binding) ∧
      ∀ others, others ≠ [] → (∀ key ∈ others, Path.IsKey key) → Path.Apart keys others →
        y.resolveText now (bindingTo (Path.joined others)) =
          x.resolveText now (bindingTo (Path.joined others))) := by
  intro after binding
  have hsegments : Path.segments path = keys := by
    rcases hpath with rfl | rfl
    · exact Path.segments_joined hkeys
    · rw [Path.segments_slash, Path.segments_joined hkeys]
  have hmodel : updatedModel s.acceptsOverlay x.model (.write (some path) v) =
      .ok (x.model.set keys v) := by
    rw [updatedModel_write (by rwa [hsegments]), hsegments]
  refine ⟨fun hs => (apply_of_updatedModel hs hx hmodel).1, fun haccepted => ?_⟩
  refine ⟨_, (apply_of_updatedModel (disposed_of_isAccepted haccepted) hx hmodel).2, fun now => ?_⟩
  have hfound : (x.model.set keys v).get? keys = some v := by
    simpa [DataModel.follow?] using DataModel.get?_set_append x.model hne v []
  -- the binding leads where the value was written, and shows it if it is a scalar
  have hbound : Reference.bound? (x.model.set keys v) binding = scalarText? v := by
    rw [bound?_bindingTo_joined hne hkeys, hfound, Option.bind_some]
  refine ⟨fun hscalar => ?_, fun hscalar => ?_, fun others hothers hothersKeys hapart => ?_⟩
  · rw [← isSome_scalarText?] at hscalar
    obtain ⟨text, htext⟩ := Option.isSome_iff_exists.mp hscalar
    refine ⟨text, htext, ?_⟩
    rw [Surface.resolveText, Reference.resolveText, hbound, htext, Option.getD_some]
  · rw [← isSome_scalarText?, Option.isSome_eq_false_iff, Option.isNone_iff_eq_none] at hscalar
    rw [Surface.resolveText, Reference.resolveText, hbound, hscalar, Option.getD_none]
  · have hbeside := DataModel.get?_set_beside x.model hapart.1 hapart.2 v
    simp only [Surface.resolveText, Reference.resolveText, bound?_bindingTo_joined hothers hothersKeys,
      hbeside]

/-- A template of the clock, written through a number under a name with a brace and a line end. -/
theorem template_shown_under_a_delicate_name :
    let s := ((empty false).applyAll [.createSurface "tile" .null .null [],
      .updateDataModel "tile" (.write none (.obj [("$\x7b", .ofInt 1), ("b", .str "kept")]))]).1
    let x : Surface := { Surface.create "tile" .null .null [] with
      model := [("$\x7b", .ofInt 1), ("b", .str "kept")] }
    let keys := ["$\x7b", "a\x7d\n"]
    let after := s.apply (.updateDataModel "tile"
      (.write (some ("/" ++ Path.joined keys)) (.str "\x7b\x7bcurrent_day\x7d\x7d")))
    s.surface? "tile" = some x ∧ keys ≠ [] ∧ (∀ key ∈ keys, Path.IsKey key) ∧
      after.2 = .accepted "tile" [] ∧ ∃ y, after.1.surface? "tile" = some y ∧ ∀ now,
        y.resolveText now "$\x7b/$\x7b/a\x7d\n\x7d" = now.expand "\x7b\x7bcurrent_day\x7d\x7d" ∧
        y.resolveText now "$\x7b/b\x7d" = x.resolveText now "$\x7b/b\x7d" := by
  intro s x keys after
  have hx : s.surface? "tile" = some x := by decide +kernel
  have hkeys : ∀ key ∈ keys, Path.IsKey key := by decide +kernel
  obtain ⟨haccepted, hshown⟩ := binding_shows_what_is_written hx (by decide +kernel) hkeys
    (Or.inr rfl) (.str "\x7b\x7bcurrent_day\x7d\x7d")
  have haccepted' : after.2 = .accepted "tile" [] := haccepted (by decide +kernel)
  obtain ⟨y, hy, hresolve⟩ := hshown (by rw [haccepted']; rfl)
  refine ⟨hx, by decide +kernel, hkeys, haccepted', y, hy, fun now => ?_⟩
  obtain ⟨hscalar, -, hothers⟩ := hresolve now
  have hb : bindingTo (Path.joined ["b"]) = "$\x7b/b\x7d" := by decide +kernel
  have ha : bindingTo (Path.joined keys) = "$\x7b/$\x7b/a\x7d\n\x7d" := by decide +kernel
  obtain ⟨text, htext, hnow⟩ := hscalar rfl
  obtain rfl := Option.some.inj htext
  refine ⟨ha ▸ hnow, ?_⟩
  rw [← hb]
  exact hothers ["b"] (by decide +kernel) (by decide +kernel) (by unfold Path.Apart; decide +kernel)

end Store

/-! ## What is listed is what is shown -/

/-- A component shows a text, which is its text or its label. -/
inductive Component.Shows (c : Component) : String → String → Prop
  | text {text : String} (h : c.text = some text) : c.Shows "text" text
  | label {text : String} (h : c.label = some text) : c.Shows "label" text

namespace Component

theorem filter_member? (key other : String) (v : Option Json) :
    (member? key v).filter (·.1 = other) = if key = other then member? key v else [] := by
  cases v with
  | none => simp [member?]
  | some v => by_cases h : key = other <;> simp [member?, h]

/-- Among the members of a sound component its text and its label have one place each. -/
theorem Shows.filter_encodeMembers {c : Component} (hc : c.Sound) {key text : String}
    (h : c.Shows key text) : c.encodeMembers.filter (·.1 = key) = [(key, .str text)] := by
  have hextensions : ∀ key ∈ knownKeys, c.extensions.filter (·.1 = key) = [] := by
    rintro key hkey
    refine List.filter_eq_nil_iff.mpr fun e he => ?_
    have hne : e.1 ≠ key := fun heq => hc.extension e he (heq ▸ hkey)
    simpa using hne
  cases h with
  | text h =>
    simp [encodeMembers, filter_member?, hextensions "text" (by decide), h]
    rfl
  | label h =>
    simp [encodeMembers, filter_member?, hextensions "label" (by decide), h]
    rfl

end Component

namespace Surface

/-- The bound properties of a surface, each at the id of its component and the name of the property. -/
def boundPlaces (x : Surface) : List ((String × String) × BoundProperty) :=
  (Record.values x.components).flatMap fun c =>
    c.encodeMembers.filterMap fun m => (x.boundProperty? c m.1 m.2).map (((c.id, m.1), ·))

/-- Without their places, the bound properties are those that the surface lists. -/
theorem map_boundPlaces (x : Surface) : x.boundPlaces.map Prod.snd = x.boundProperties := by
  simp [boundPlaces, boundProperties, List.map_flatMap, List.map_filterMap, Function.comp_def]

/-- What one of several gives, if the others give nothing. -/
theorem flatMap_eq_of_nodup {α β γ : Type} {as : List α} {name : α → γ} (h : (as.map name).Nodup)
    {a : α} (ha : a ∈ as) {f : α → List β} (hf : ∀ b, name b ≠ name a → f b = []) :
    as.flatMap f = f a := by
  obtain ⟨before, behind, rfl⟩ := List.append_of_mem ha
  simp only [List.map_append, List.map_cons, List.nodup_append, List.nodup_cons, List.mem_cons,
    List.mem_map] at h
  have hbefore : before.flatMap f = [] :=
    List.flatMap_eq_nil_iff.mpr fun b hb => hf b (h.2.2 _ ⟨b, hb, rfl⟩ _ (Or.inl rfl))
  have hbehind : behind.flatMap f = [] :=
    List.flatMap_eq_nil_iff.mpr fun b hb => hf b fun heq => h.2.1.1 ⟨b, hb, heq⟩
  rw [List.flatMap_append, List.flatMap_cons, hbefore, hbehind, List.nil_append, List.append_nil]

/-- A text that is a binding is listed once. -/
theorem boundPlaces_filter {x : Surface} (hx : x.Sound) {c : Component}
    (hc : c ∈ Record.values x.components) {key text path : String} (hkey : c.Shows key text)
    (hpath : Reference.bindingPath? text = some path) :
    x.boundPlaces.filter (·.1 = (c.id, key)) = [((c.id, key),
      { path := "/" ++ path
        value := (x.model.get? (Path.segments path)).getD (.str text)
        boundTo := c.type ++ "." ++ key ++ " (" ++ c.id ++ ")" })] := by
  have hsound : c.Sound := by
    obtain ⟨e, he, rfl⟩ := List.mem_map.mp hc
    exact hx.component e he
  have hids : ((Record.values x.components).map Component.id).Nodup := by
    rw [← ComponentTable.keys_eq hx.keyed]
    exact hx.nodup
  -- the places of another component have another id in front
  have hplaces : ∀ d : Component, (d.encodeMembers.filterMap fun m =>
        (x.boundProperty? d m.1 m.2).map (((d.id, m.1), ·))).filter (·.1 = (c.id, key)) =
      if d.id = c.id then (d.encodeMembers.filter (·.1 = key)).filterMap fun m =>
        (x.boundProperty? d m.1 m.2).map (((d.id, m.1), ·)) else [] := by
    intro d
    rw [List.filter_filterMap, List.filterMap_filter]
    by_cases hd : d.id = c.id
    · rw [if_pos hd]
      congr 1
      funext m
      by_cases hm : m.1 = key <;> cases x.boundProperty? d m.1 m.2 <;> simp [hd, hm]
    · rw [if_neg hd]
      refine List.filterMap_eq_nil_iff.mpr fun m _ => ?_
      cases x.boundProperty? d m.1 m.2 <;> simp [hd]
  rw [boundPlaces, List.filter_flatMap, flatMap_eq_of_nodup hids hc, hplaces, if_pos rfl,
    hkey.filter_encodeMembers hsound]
  · simp [boundProperty?, Reference.boundPath?, hpath, Path.segments_slash]
  · intro d hd
    rw [hplaces, if_neg hd]

/-- An entry lists a scalar that stands in the data model, and not the binding itself. -/
def ListsScalar (x : Surface) (entry : BoundProperty) : Prop :=
  ∃ v, x.model.get? (Path.segments entry.path) = some v ∧ v.isScalar = true ∧ entry.value = v

end Surface

namespace Store

open Reference (bindingPath? bound? scalarText?)

/-- The list of bound properties agrees with what is shown.  On every surface of a reachable store, a
text or label of a component that is a binding is listed once, with its path.  If the path has no empty
piece, the entry lists a scalar of the data model exactly if the binding is resolved; it shows the text
of that scalar then, and itself otherwise.  Templates of the clock are replaced in either case. -/
theorem listed_binding_is_what_is_shown {s : Store} (hs : s.Reachable) {x : Surface}
    (hx : x ∈ s.surfaces) {c : Component} (hc : c ∈ Record.values x.components)
    {key text path : String} (hkey : c.Shows key text) (hpath : bindingPath? text = some path) :
    x.boundPlaces.map Prod.snd = x.boundProperties ∧
    ∃ entry, x.boundPlaces.filter (·.1 = (c.id, key)) = [((c.id, key), entry)] ∧
      entry.path = "/" ++ path ∧
      ("" ∉ Path.pieces path →
        (x.ListsScalar entry ↔ (bound? x.model text).isSome = true) ∧
        (x.ListsScalar entry → ∃ shown, scalarText? entry.value = some shown ∧
          ∀ now, x.resolveText now text = now.expand shown) ∧
        (¬ x.ListsScalar entry → ∀ now, x.resolveText now text = now.expand text)) := by
  refine ⟨x.map_boundPlaces, _, Surface.boundPlaces_filter (hs.sound x hx) hc hkey hpath, rfl,
    fun hpieces => ?_⟩
  have hsegments := Path.segments_eq_pieces hpieces
  have hbound := Reference.bound?_of_bindingPath? hpath x.model
  rw [← hsegments] at hbound
  simp only [Surface.ListsScalar, Path.segments_slash, Surface.resolveText, Reference.resolveText,
    hbound]
  -- without empty pieces the path leads to the same place for both
  cases x.model.get? (Path.segments path) with
  | none => simp
  | some v =>
    have hscalar := Reference.isSome_scalarText? v
    cases htext : scalarText? v with
    | none =>
      rw [htext] at hscalar
      simp [htext, ← hscalar]
    | some shown =>
      rw [htext] at hscalar
      simp [htext, ← hscalar]

/-- A label bound to a number without a fraction, below a name with a closing brace. -/
theorem bound_label_is_listed_as_shown :
    let clock : Component :=
      ⟨"root", "Clock", none, some "$\x7b/none\x7d", some "$\x7b/t\x7d/n\x7d", none, none, none, []⟩
    let x : Surface := ⟨"tile", "root", [("root", clock)],
      [("t\x7d", .obj [("n", .ofInt 7)])], [], .null, .null⟩
    let s := (((empty false).perform (.envelope
        [("createSurface", .obj [("surfaceId", .str "tile")])])).perform
      (.envelope [("updateComponents", .obj [("surfaceId", .str "tile"),
        ("components", .arr [clock.encode])])])).perform
      (.envelope [("updateDataModel", .obj [("surfaceId", .str "tile"), ("path", .str "/t\x7d/n"),
        ("value", .ofInt 7)])])
    s.Reachable ∧ x ∈ s.surfaces ∧ clock ∈ Record.values x.components ∧
      clock.Shows "label" "$\x7b/t\x7d/n\x7d" ∧ bindingPath? "$\x7b/t\x7d/n\x7d" = some "t\x7d/n" ∧
      "" ∉ Path.pieces "t\x7d/n" ∧
      x.boundProperties = [⟨"/none", .str "$\x7b/none\x7d", "Clock.text (root)"⟩,
        ⟨"/t\x7d/n", .ofInt 7, "Clock.label (root)"⟩] ∧
      ∀ now, x.resolveText now "$\x7b/t\x7d/n\x7d" = now.expand "7" := by
  intro clock x s
  have hs : s.Reachable := (((Reachable.empty false).perform _).perform _).perform _
  have hx : x ∈ s.surfaces := by decide +kernel
  have hc : clock ∈ Record.values x.components := by decide +kernel
  have hkey : clock.Shows "label" "$\x7b/t\x7d/n\x7d" := .label rfl
  have hpath : bindingPath? "$\x7b/t\x7d/n\x7d" = some "t\x7d/n" := by decide +kernel
  have hpieces : "" ∉ Path.pieces "t\x7d/n" := by decide +kernel
  obtain ⟨-, entry, hentry, -, hshown⟩ := listed_binding_is_what_is_shown hs hx hc hkey hpath
  have hplaces : x.boundPlaces.filter (·.1 = (clock.id, "label")) =
      [(("root", "label"), ⟨"/t\x7d/n", .ofInt 7, "Clock.label (root)"⟩)] := by decide +kernel
  rw [hplaces] at hentry
  obtain rfl := (Prod.mk.inj (List.cons.inj hentry).1).2
  obtain ⟨-, hresolved, -⟩ := hshown hpieces
  obtain ⟨shown, hscalar, hnow⟩ := hresolved ⟨.ofInt 7, by decide +kernel, rfl, rfl⟩
  have h7 : scalarText? (.ofInt 7) = some "7" := by decide +kernel
  obtain rfl := Option.some.inj (h7.symm.trans hscalar)
  exact ⟨hs, hx, hc, hkey, hpath, hpieces, by decide +kernel, hnow⟩

/-- A binding with a slash too many is listed with the value at its segments, and shows itself. -/
theorem slash_too_many_is_listed_and_not_shown :
    let root : Component := ⟨"root", "Text", none, some "$\x7b/a/\x7d", none, none, none, none, []⟩
    let x : Surface := ⟨"tile", "root", [("root", root)], [("a", .ofInt 1)], [], .null, .null⟩
    let s := (((empty false).perform (.envelope
        [("createSurface", .obj [("surfaceId", .str "tile")])])).perform
      (.envelope [("updateComponents", .obj [("surfaceId", .str "tile"),
        ("components", .arr [root.encode])])])).perform
      (.envelope [("updateDataModel", .obj [("surfaceId", .str "tile"), ("path", .str "/a"),
        ("value", .ofInt 1)])])
    s.Reachable ∧ x ∈ s.surfaces ∧ root ∈ Record.values x.components ∧
      root.Shows "text" "$\x7b/a/\x7d" ∧ bindingPath? "$\x7b/a/\x7d" = some "a/" ∧
      x.boundProperties = [⟨"/a/", .ofInt 1, "Text.text (root)"⟩] ∧
      x.ListsScalar ⟨"/a/", .ofInt 1, "Text.text (root)"⟩ ∧ bound? x.model "$\x7b/a/\x7d" = none ∧
      ∀ now, x.resolveText now "$\x7b/a/\x7d" = now.expand "$\x7b/a/\x7d" := by
  intro root x s
  have hs : s.Reachable := (((Reachable.empty false).perform _).perform _).perform _
  have hbound : bound? x.model "$\x7b/a/\x7d" = none := by decide +kernel
  refine ⟨hs, by decide +kernel, by decide +kernel, .text rfl, by decide +kernel, by decide +kernel,
    ⟨.ofInt 1, by decide +kernel, rfl, rfl⟩, hbound, fun now => ?_⟩
  rw [Surface.resolveText, Reference.resolveText, hbound, Option.getD_none]

end Store

end UiSurface
