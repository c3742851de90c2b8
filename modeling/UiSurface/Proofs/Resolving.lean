import UiSurface.Proofs.Bindings
import UiSurface.Proofs.Writable
import UiSurface.Surface.Render

/-!
# What can go wrong when references are resolved

To show a surface, integers are read and written.  A token whose text is an integer is read as one, and a
binding writes the integer that it leads to.  Both are refused for too many digits.

The integers of data models that come from texts can be written, so texts and outlines are always shown.
This is told by functions that count the digits of each integer that they write: on such models they are
the functions that do not.  Tokens are texts that nobody has read before, so their integers may be too
long, and then neither a style that names them is resolved nor a tree that visits such a style.

Main lemmas: `TokenTable.exists_resolveStyle_iff` (when a style is resolved), `Surface.exists_nodeFrom_iff`
(when a tree is made), `Surface.resolveTextCounted_eq`, `Surface.renderTreeCounted_eq`,
`Store.only_overlong_tokens_are_refused`.
-/

namespace UiSurface

/-! ## Tokens -/

/-- The text of a token is an integer that has too many digits. -/
def DesignToken.Overlong (token : DesignToken) : Prop :=
  ∃ negative digits, Numeral.integerParts? (Text.trim token.value.toList) = some (negative, digits) ∧
    TooManyDigits.limit < digits.length

/-- An integer is read just if it has no more digits than it may. -/
theorem Numeral.exists_integer_iff {negative : Bool} {digits : List Char} :
    (∃ n, integer negative digits = .ok n) ↔ ¬ TooManyDigits.limit < digits.length := by
  unfold integer
  split
  · rename_i h
    simp [h]
  · rename_i h
    simp [h]

/-- Doubles of any length are read, and so is every text that is no integer. -/
theorem DesignToken.exists_resolve_iff {token : DesignToken} :
    (∃ v, token.resolve = .ok v) ↔ ¬ token.Overlong := by
  unfold resolve Overlong
  cases hparts : Numeral.integerParts? (Text.trim token.value.toList) with
  | none =>
    cases hnumeral : Numeral.ofChars? (Text.trim token.value.toList) <;> simp [hparts, hnumeral]
  | some parts =>
    -- a whole number is read just if it has no more digits than are read
    obtain ⟨negative, digits⟩ := parts
    have hread : (∃ n, Numeral.integer negative digits = .ok n) ↔ _ := Numeral.exists_integer_iff
    simp only [hparts, Fallible.map_eq_ok, Option.some.injEq, Prod.mk.injEq]
    constructor
    · rintro ⟨v, n, hn, -⟩ ⟨_, _, ⟨rfl, rfl⟩, hlength⟩
      exact hread.mp ⟨n, hn⟩ hlength
    · intro h
      obtain ⟨n, hn⟩ := hread.mpr fun hlength => h ⟨negative, digits, ⟨rfl, rfl⟩, hlength⟩
      exact ⟨_, n, hn, rfl⟩

theorem DesignToken.overlong_ones {n : Nat} (h : TooManyDigits.limit < n) (collection : Json) :
    Overlong ⟨String.ofList (List.replicate n '1'), collection⟩ := by
  have hone : Text.isDecimalDigit '1' = true := by decide
  refine ⟨false, List.replicate n '1', ?_, by simpa using h⟩
  rw [String.toList_ofList, Text.trim_replicate (by decide)]
  cases n with
  | zero => cases h
  | succ n => simp [Numeral.integerParts?, Numeral.takeSign, List.replicate_succ, hone]

namespace TokenTable

/-- A style value refers to a token whose integer has too many digits. -/
def RefersToOverlong (tokens : TokenTable) (v : Json) : Prop :=
  ∃ text name token, v = .str text ∧ Reference.tokenName? text = some name ∧
    Record.get? tokens name = some token ∧ token.Overlong

/-- A style value is resolved just if it refers to no integer of too many digits. -/
theorem exists_resolve_iff {tokens : TokenTable} {v : Json} :
    (∃ w, tokens.resolve v = .ok w) ↔ ¬ tokens.RefersToOverlong v := by
  cases v with
  | null | bool | num | arr | obj => simp [resolve, RefersToOverlong]
  | str text =>
    rw [resolve]
    -- a text that names a token of the table resolves as the token does, any other is itself
    cases htoken : (Reference.tokenName? text).bind (Record.get? tokens) with
    | none =>
      simp only [Except.ok.injEq, exists_eq', true_iff]
      rintro ⟨_, name, token, ⟨⟩, hname, hget, -⟩
      rw [hname, Option.bind_some, hget] at htoken
      cases htoken
    | some token =>
      obtain ⟨name, hname, hget⟩ := Option.bind_eq_some_iff.mp htoken
      simp only [DesignToken.exists_resolve_iff, not_iff_not]
      constructor
      · exact fun h => ⟨text, name, token, rfl, hname, hget, h⟩
      · rintro ⟨_, name', token', ⟨⟩, hname', hget', h⟩
        obtain rfl := Option.some.inj (hname.symm.trans hname')
        obtain rfl := Option.some.inj (hget.symm.trans hget')
        exact h

/-- A style is resolved unless one of its values refers to an overlong token. -/
theorem exists_resolveStyle_iff {tokens : TokenTable} {style : Record Json} :
    (∃ r, tokens.resolveStyle style = .ok r) ↔
      ∀ v ∈ Record.values style, ¬ tokens.RefersToOverlong v := by
  induction style with
  | nil => simp [resolveStyle, Record.values]
  | cons e rest ih =>
    obtain ⟨key, value⟩ := e
    have hvalues : Record.values ((key, value) :: rest) = value :: Record.values rest := rfl
    rw [hvalues, List.forall_mem_cons, ← exists_resolve_iff, ← ih]
    simp only [resolveStyle, Fallible.bind_eq_ok]
    constructor
    · rintro ⟨r, v, hv, s, hs, -⟩
      exact ⟨⟨v, hv⟩, ⟨s, hs⟩⟩
    · rintro ⟨⟨v, hv⟩, ⟨s, hs⟩⟩
      exact ⟨_, v, hv, s, hs, rfl⟩

theorem exists_resolveKey_iff {tokens : TokenTable} {style : Record Json} {key : String} :
    (∃ w, tokens.resolveKey style key = .ok w) ↔
      ∀ v, Record.get? style key = some v → ¬ tokens.RefersToOverlong v := by
  unfold resolveKey
  cases Record.get? style key with
  | none => simp
  | some v => simp [exists_resolve_iff]

end TokenTable

/-! ## Trees -/

/-- The values of the styles of a component. -/
def Component.styleValues (c : Component) : List Json :=
  Record.values (c.style.getD []) ++ Record.values (c.labelStyle.getD [])

namespace Surface

/-- The tree below a component is made unless the walk from there visits a style value that refers to an
overlong token. -/
theorem exists_nodeFrom_iff (x : Surface) (now : Stamp) (fuel : Nat) (branch : List String)
    (c : Component) (depth : Nat) :
    (∃ node, x.nodeFrom now fuel branch c = .ok node) ↔
      ∀ v ∈ x.components.walkFrom fuel branch c depth, ∀ value ∈ v.1.styleValues,
        ¬ x.tokens.RefersToOverlong value := by
  -- by the fuel; the node and the walk take the same children
  induction fuel generalizing branch c depth with
  | zero => simp [nodeFrom, ComponentTable.walkFrom]
  | succ fuel ih =>
    -- a component resolves its two styles before it looks at its children
    have hstyles : (∀ value ∈ c.styleValues, ¬ x.tokens.RefersToOverlong value) ↔
        (∃ style, x.resolvedStyle c.style = .ok style) ∧
          ∃ style, x.resolvedStyle c.labelStyle = .ok style := by
      simp only [Component.styleValues, List.forall_mem_append, resolvedStyle,
        TokenTable.exists_resolveStyle_iff]
    have hbelow : (∀ v ∈ (x.components.children c).flatMap (fun child =>
          if branch.contains child.id then []
          else x.components.walkFrom fuel (child.id :: branch) child (depth + 1)),
          ∀ value ∈ v.1.styleValues, ¬ x.tokens.RefersToOverlong value) ↔
        ∃ children, ((x.components.children c).filter (fun child => !branch.contains child.id)).mapM
          (fun child => x.nodeFrom now fuel (child.id :: branch) child) = .ok children := by
      rw [Fallible.exists_mapM_iff]
      constructor
      · intro h child hchild
        obtain ⟨hchild, hbranch⟩ := List.mem_filter.mp hchild
        refine (ih _ _ (depth + 1)).mpr fun v hv => h v (List.mem_flatMap.mpr ⟨child, hchild, ?_⟩)
        rwa [if_neg (by simpa using hbranch)]
      · intro h v hv
        obtain ⟨child, hchild, hv⟩ := List.mem_flatMap.mp hv
        split at hv
        · cases hv
        · rename_i hbranch
          exact (ih _ _ _).mp (h child (List.mem_filter.mpr ⟨hchild, by simpa using hbranch⟩)) v hv
    rw [ComponentTable.walkFrom, List.forall_mem_cons, hstyles, hbelow, nodeFrom]
    simp only [Fallible.bind_eq_ok]
    constructor
    · rintro ⟨node, style, hstyle, labelStyle, hlabelStyle, children, hchildren, -⟩
      exact ⟨⟨⟨style, hstyle⟩, ⟨labelStyle, hlabelStyle⟩⟩, ⟨children, hchildren⟩⟩
    · rintro ⟨⟨⟨style, hstyle⟩, ⟨labelStyle, hlabelStyle⟩⟩, ⟨children, hchildren⟩⟩
      exact ⟨_, style, hstyle, labelStyle, hlabelStyle, children, hchildren, rfl⟩

/-- The tree of a surface is made unless the walk from its root visits a style value that refers to an
overlong token. -/
theorem exists_renderTree_iff (x : Surface) (now : Stamp) :
    (∃ tree, x.renderTree now = .ok tree) ↔
      ∀ v ∈ x.components.walk x.rootId, ∀ value ∈ v.1.styleValues,
        ¬ x.tokens.RefersToOverlong value := by
  unfold renderTree ComponentTable.walk root?
  cases Record.get? x.components x.rootId with
  | none => simp
  | some root =>
    rw [← exists_nodeFrom_iff x now]
    simp [Fallible.map_eq_ok]

end Surface

/-! ## Digits that are counted -/

/-- The text of an integer, refused for too many digits. -/
def Number.intTextCounted (n : Int) : Except TooManyDigits String :=
  if Writable n then .ok (intText n) else .error ⟨(natDigits n.natAbs).length⟩

theorem Number.intTextCounted_eq {n : Int} (h : Writable n) : intTextCounted n = .ok (intText n) :=
  if_pos h

namespace Reference

/-- The text that a scalar is shown as, where the digits are counted of an integer that is written. -/
def scalarTextCounted? : Json → Except TooManyDigits (Option String)
  | .num (.int n) => (Number.intTextCounted n).map some
  | .num (.float x) => match x.toInt? with
    | some n => (Number.intTextCounted n).map some
    | none => .ok (some (Number.floatText .plain x))
  | v => .ok (scalarText? v)

/-- A text with its binding resolved and its clock templates replaced, where digits are counted. -/
def resolveTextCounted (model : DataModel) (now : Stamp) (text : String) :
    Except TooManyDigits String :=
  match (bindingPath? text).bind (fun path => model.get? (Path.pieces path)) with
  | some v => (scalarTextCounted? v).map (fun shown => now.expand (shown.getD text))
  | none => .ok (now.expand text)

theorem scalarTextCounted?_eq {v : Json} (h : v.Writable) :
    scalarTextCounted? v = .ok (scalarText? v) := by
  cases v with
  | null | bool | str | arr | obj => rfl
  | num n =>
    cases n with
    | int n => rw [scalarTextCounted?, Number.intTextCounted_eq (h n .self)]; rfl
    | float x =>
      rw [scalarTextCounted?, scalarText?]
      cases hx : x.toInt? with
      | none => rfl
      | some n => simp [Number.intTextCounted_eq (Binary64.writable_of_toInt? hx), Except.map]

/-- Where all integers can be written, it does not matter that digits are counted. -/
theorem resolveTextCounted_eq {model : DataModel} (h : (Json.obj model).Writable) (now : Stamp)
    (text : String) : resolveTextCounted model now text = .ok (resolveText model now text) := by
  have hbound : bound? model text =
      ((bindingPath? text).bind fun path => model.get? (Path.pieces path)).bind scalarText? := by
    cases hpath : bindingPath? text with
    | none => simp [bound?, hpath]
    | some path => rw [bound?_of_bindingPath? hpath, Option.bind_some]
  rw [resolveTextCounted, resolveText, hbound]
  cases hfound : (bindingPath? text).bind fun path => model.get? (Path.pieces path) with
  | none => rfl
  | some v =>
    obtain ⟨path, -, hv⟩ := Option.bind_eq_some_iff.mp hfound
    have hwritable : v.Writable := Json.readable_writable.follow? h hv
    simp [scalarTextCounted?_eq hwritable, Except.map]

end Reference

namespace Surface

/-- A text as the surface shows it, where digits are counted. -/
def resolveTextCounted (x : Surface) (now : Stamp) (text : String) : Except TooManyDigits String :=
  Reference.resolveTextCounted x.model now text

/-- The quoted text of a line, where digits are counted. -/
def outlineTextCounted (x : Surface) (now : Stamp) (c : Component) : Except TooManyDigits String :=
  match c.text, c.label with
  | some text, _ | none, some text =>
    (x.resolveTextCounted now text).map (fun shown => " \"" ++ shown ++ "\"")
  | none, none => .ok ""

/-- The line of a component at a depth, where digits are counted. -/
def outlineLineCounted (x : Surface) (now : Stamp) (c : Component) (depth : Nat) :
    Except TooManyDigits String :=
  (x.outlineTextCounted now c).map fun quoted =>
    String.ofList (List.replicate (2 * depth) ' ') ++ c.type ++ "#" ++ c.id ++ quoted ++
      (match c.action with
        | some action => " -> " ++ action.event
        | none => "")

/-- The outline of a surface, where digits are counted. -/
def renderTextCounted (x : Surface) (now : Stamp) : Except TooManyDigits String :=
  if x.isRenderable then
    ((x.components.walk x.rootId).mapM (fun v => x.outlineLineCounted now v.1 v.2)).map
      (String.intercalate "\n")
  else .ok ("(surface '" ++ x.id ++ "' has no root component)")

/-- The tree below a component, where digits are counted.  The texts of a node come before its styles,
and those before its children. -/
def nodeFromCounted (x : Surface) (now : Stamp) :
    Nat → List String → Component → Except TooManyDigits Node
  | 0, _, c => .ok (.mk c.id c.type none none [] [] none [] [])
  | fuel + 1, branch, c => do
    let text ← c.text.mapM (x.resolveTextCounted now)
    let label ← c.label.mapM (x.resolveTextCounted now)
    let style ← x.resolvedStyle c.style
    let labelStyle ← x.resolvedStyle c.labelStyle
    let below := (x.components.children c).filter (fun child => !branch.contains child.id)
    let children ← below.mapM (fun child => nodeFromCounted x now fuel (child.id :: branch) child)
    return .mk c.id c.type text label style labelStyle c.action c.extensions children

/-- The tree of a surface, where digits are counted. -/
def renderTreeCounted (x : Surface) (now : Stamp) : Except TooManyDigits (Option Node) :=
  match x.root? with
  | some root => (x.nodeFromCounted now x.components.length [root.id] root).map some
  | none => .ok none

section

variable {x : Surface} (h : (Json.obj x.model).Writable) (now : Stamp)

include h

/-- No digits are counted where all integers can be written. -/
theorem resolveTextCounted_eq (text : String) :
    x.resolveTextCounted now text = .ok (x.resolveText now text) :=
  Reference.resolveTextCounted_eq h now text

theorem outlineLineCounted_eq (c : Component) (depth : Nat) :
    x.outlineLineCounted now c depth = .ok (x.outlineLine now c depth) := by
  have hquoted : x.outlineTextCounted now c = .ok (x.outlineText now c) := by
    unfold outlineTextCounted outlineText
    cases c.text with
    | some text => simp [resolveTextCounted_eq h, Except.map]
    | none =>
      cases c.label with
      | some text => simp [resolveTextCounted_eq h, Except.map]
      | none => rfl
  rw [outlineLineCounted, hquoted]
  rfl

/-- Nor are they in the outline. -/
theorem renderTextCounted_eq : x.renderTextCounted now = .ok (x.renderText now) := by
  have hlines : (x.components.walk x.rootId).mapM (fun v => x.outlineLineCounted now v.1 v.2) =
      .ok ((x.components.walk x.rootId).map fun v => x.outlineLine now v.1 v.2) := by
    refine Fallible.mapM_eq_ok ?_
    simp [outlineLineCounted_eq h]
  unfold renderTextCounted renderText
  split
  · rw [hlines]
    rfl
  · rfl

theorem nodeFromCounted_eq (fuel : Nat) (branch : List String) (c : Component) :
    x.nodeFromCounted now fuel branch c = x.nodeFrom now fuel branch c := by
  have htext : ∀ o : Option String,
      o.mapM (x.resolveTextCounted now) = .ok (o.map (x.resolveText now)) := by
    intro o
    cases o with
    | none => rfl
    | some text => simp [resolveTextCounted_eq h]
  induction fuel generalizing branch c with
  | zero => rfl
  | succ fuel ih =>
    rw [nodeFromCounted, nodeFrom, htext, htext]
    simp only [ih]
    rfl

/-- Nor in the tree. -/
theorem renderTreeCounted_eq : x.renderTreeCounted now = x.renderTree now := by
  unfold renderTreeCounted renderTree
  cases x.root? with
  | none => rfl
  | some root => simp only [nodeFromCounted_eq h]

end

end Surface

namespace Json.Reader

/-- A token of any plain characters can come from a text. -/
theorem fromText_token {cs : List Char}
    (h : ∀ c ∈ cs, c ≠ '"' ∧ c ≠ '\\' ∧ 0x1F < c.toNat) :
    (Json.obj [("createSurface", .obj [("surfaceId", .str "tile"),
      ("designTokens", .obj [("Big", .obj [("value", .str (String.ofList cs))])])])]).FromText := by
  obtain ⟨before, hbefore⟩ : ∃ before : List Char, before = ("\x7b\"createSurface\":\x7b" ++
      "\"surfaceId\":\"tile\",\"designTokens\":\x7b\"Big\":\x7b\"value\":\"").toList := ⟨_, rfl⟩
  -- up to the opening quote the text is fixed; within the string each character stays as it is
  have hrun : run initial before = .reading 69 [.member [] "value", .member [] "Big",
      .member [("surfaceId", .str "tile")] "designTokens", .member [] "createSurface"] .value
      (.string 68 [] none none) := by
    rw [hbefore, String.toList_append, String.toList_ofList, String.toList_ofList]
    rfl
  have hread : finish (run initial (before ++ cs ++ "\"\x7d\x7d\x7d\x7d".toList)) =
      .ok (.obj [("createSurface", .obj [("surfaceId", .str "tile"), ("designTokens",
        .obj [("Big", .obj [("value", .str (String.ofList cs.reverse.reverse))])])])]) := by
    rw [run_append, run_append, hrun, run_string_plain h, List.append_nil]
    rfl
  rw [List.reverse_reverse] at hread
  refine ⟨String.ofList (before ++ cs ++ "\"\x7d\x7d\x7d\x7d".toList), _, ?_, .self⟩
  rw [Json.ofText, String.toList_ofList, Json.parse, if_neg, Json.readValue, hread]
  simp [hbefore]

end Json.Reader

namespace Store

/-- Nothing but a token that is too long an integer keeps a surface from being shown.  Let the envelopes
come from texts.  Then every text and every outline is shown, and each integer that is written for it
has few enough digits.  A value of a style, a whole style and a tree are made exactly if no style value
that is looked at refers to an overlong token: the value itself, the values of the style, and the
values of both styles of all components that the walk from the root visits. -/
theorem only_overlong_tokens_are_refused {s : Store} (hs : s.ReachableFromText) {x : Surface}
    (hx : x ∈ s.surfaces) (now : Stamp) :
    (∀ text, x.resolveTextCounted now text = .ok (x.resolveText now text)) ∧
    x.renderTextCounted now = .ok (x.renderText now) ∧
    (∀ style key, (∃ v, x.tokens.resolveKey style key = .ok v) ↔
      ∀ v, Record.get? style key = some v → ¬ x.tokens.RefersToOverlong v) ∧
    (∀ style, (∃ resolved, x.tokens.resolveStyle style = .ok resolved) ↔
      ∀ v ∈ Record.values style, ¬ x.tokens.RefersToOverlong v) ∧
    x.renderTreeCounted now = x.renderTree now ∧
    ((∃ tree, x.renderTree now = .ok tree) ↔
      ∀ v ∈ x.components.walk x.rootId, ∀ value ∈ v.1.styleValues,
        ¬ x.tokens.RefersToOverlong value) := by
  have hwritable := hs.writable hx
  refine ⟨Surface.resolveTextCounted_eq hwritable now, Surface.renderTextCounted_eq hwritable now,
    fun style key => TokenTable.exists_resolveKey_iff, fun style => TokenTable.exists_resolveStyle_iff,
    Surface.renderTreeCounted_eq hwritable now, x.exists_renderTree_iff now⟩

/-- A text bound to an integer, and a style that names a token with an integer. -/
theorem tile_from_texts_is_shown :
    let root : Component :=
      ⟨"root", "Text", none, some "$\x7b/n\x7d", none, none,
        some [("gap", .str "\x7bGap\x7d")], none, []⟩
    let x : Surface := ⟨"tile", "root", [("root", root)], [("n", .ofInt 7)],
      [("Gap", ⟨"12", .str ""⟩)], .null, .null⟩
    let create : Record Json := [("createSurface", .obj [("surfaceId", .str "tile"),
      ("designTokens", .obj [("Gap", .obj [("value", .str "12")])])])]
    let define : Record Json := [("updateComponents", .obj [("surfaceId", .str "tile"),
      ("components", .arr [root.encode])])]
    let write : Record Json := [("updateDataModel", .obj [("surfaceId", .str "tile"),
      ("path", .str "/n"), ("value", .ofInt 7)])]
    let s := (((empty false).perform (.envelope create)).perform (.envelope define)).perform
      (.envelope write)
    s.ReachableFromText ∧ x ∈ s.surfaces ∧ ∀ now,
      x.resolveTextCounted now "$\x7b/n\x7d" = .ok (now.expand "7") ∧
      ∃ tree, x.renderTreeCounted now = .ok tree := by
  intro root x create define write s
  have hread : Json.ofText ("[\x7b\"createSurface\": \x7b\"surfaceId\": \"tile\"," ++
      "\"designTokens\": \x7b\"Gap\": \x7b\"value\": \"12\"\x7d\x7d\x7d\x7d," ++
      "\x7b\"updateComponents\": \x7b\"surfaceId\": \"tile\", \"components\": [\x7b\"id\": \"root\"," ++
      "\"component\": \"Text\", \"text\": \"$\x7b/n\x7d\"," ++
      "\"style\": \x7b\"gap\": \"\x7bGap\x7d\"\x7d\x7d]\x7d\x7d," ++
      "\x7b\"updateDataModel\": \x7b\"surfaceId\": \"tile\", \"path\": \"/n\", \"value\": 7\x7d\x7d]") =
      .ok (.arr [.obj create, .obj define, .obj write]) := by
    rw [← Fallible.toOption_eq_some_iff, Json.ofText]
    -- the text is taken apart before it is read, for joining it is slow
    simp only [String.toList_append]
    repeat rw [String.toList_ofList]
    decide +kernel
  have hfrom : ∀ v ∈ [Json.obj create, .obj define, .obj write], v.FromText :=
    fun v hv => ⟨_, _, hread, .item hv .self⟩
  have hs : s.ReachableFromText :=
    (((ReachableFromText.empty false).perform (.envelope create) (hfrom _ (by simp))).perform
      (.envelope define) (hfrom _ (by simp))).perform (.envelope write) (hfrom _ (by simp))
  have hx : x ∈ s.surfaces := by decide +kernel
  refine ⟨hs, hx, fun now => ?_⟩
  obtain ⟨htext, -, -, -, htree, hmade⟩ := only_overlong_tokens_are_refused hs hx now
  have hbound : Reference.bound? x.model "$\x7b/n\x7d" = some "7" := by decide +kernel
  have hgap : ∃ v, x.tokens.resolve (.str "\x7bGap\x7d") = .ok v :=
    ⟨.num (.int 12), by rw [← Fallible.toOption_eq_some_iff]; decide +kernel⟩
  have hwalk : x.components.walk x.rootId = [(root, 0)] := by decide +kernel
  refine ⟨?_, ?_⟩
  · rw [htext, Surface.resolveText, Reference.resolveText, hbound, Option.getD_some]
  · rw [htree, hmade]
    intro v hv value hvalue
    obtain rfl : v = (root, 0) := List.mem_singleton.mp (hwalk ▸ hv)
    obtain rfl : value = .str "\x7bGap\x7d" := List.mem_singleton.mp hvalue
    exact TokenTable.exists_resolve_iff.mp hgap

/-- A root whose style names the token can come from a text. -/
theorem fromText_root : (Json.obj [("updateComponents", .obj [("surfaceId", .str "tile"),
    ("components", .arr [.obj [("id", .str "root"), ("component", .str "Text"),
      ("style", .obj [("color", .str "\x7bBig\x7d")])]])])]).FromText := by
  refine ⟨"\x7b\"updateComponents\": \x7b\"surfaceId\": \"tile\", \"components\": [" ++
    "\x7b\"id\": \"root\", \"component\": \"Text\"," ++
    "\"style\": \x7b\"color\": \"\x7bBig\x7d\"\x7d\x7d]\x7d\x7d", _, ?_, .self⟩
  rw [← Fallible.toOption_eq_some_iff, Json.ofText, String.toList_append, String.toList_append,
    String.toList_ofList, String.toList_ofList, String.toList_ofList]
  decide +kernel

/-- A token with more digits than an integer may have keeps a style from being resolved that names it, and
a tree from being made. -/
theorem overlong_token_is_refused :
    let digits := List.replicate (TooManyDigits.limit + 1) '1'
    let root : Component :=
      ⟨"root", "Text", none, none, none, none, some [("color", .str "\x7bBig\x7d")], none, []⟩
    let x : Surface := ⟨"tile", "root", [("root", root)], [],
      [("Big", ⟨String.ofList digits, .str ""⟩)], .null, .null⟩
    let create : Record Json := [("createSurface", .obj [("surfaceId", .str "tile"),
      ("designTokens", .obj [("Big", .obj [("value", .str (String.ofList digits))])])])]
    let define : Record Json := [("updateComponents", .obj [("surfaceId", .str "tile"),
      ("components", .arr [root.encode])])]
    let s := ((empty false).perform (.envelope create)).perform (.envelope define)
    s.ReachableFromText ∧ x ∈ s.surfaces ∧ root ∈ Record.values x.components ∧
      (¬ ∃ v, x.tokens.resolveKey [("color", .str "\x7bBig\x7d")] "color" = .ok v) ∧
      (¬ ∃ resolved, x.resolvedStyle root.style = .ok resolved) ∧
      ∀ now, ¬ ∃ tree, x.renderTree now = .ok tree := by
  intro digits root x create define s
  have hplain : ∀ c ∈ digits, c ≠ '"' ∧ c ≠ '\\' ∧ 0x1F < c.toNat := by
    intro c hc
    obtain rfl := List.eq_of_mem_replicate hc
    decide
  have hs : s.ReachableFromText :=
    ((ReachableFromText.empty false).perform (.envelope create) (Json.Reader.fromText_token hplain)).perform
      (.envelope define) fromText_root
  have hcreate : Message.decodeMembers create = .ok (.createSurface "tile" .null .null x.tokens) := rfl
  have hdefine : Message.decodeMembers define = .ok (.updateComponents "tile" [root]) := rfl
  have hx : x ∈ s.surfaces := by
    have hsurfaces : s.surfaces = [x] := by
      simp only [s, perform, applyMembers_of_decode _ hcreate, applyMembers_of_decode _ hdefine]
      rfl
    rw [hsurfaces]
    exact List.mem_singleton_self x
  have hrefers : x.tokens.RefersToOverlong (.str "\x7bBig\x7d") :=
    ⟨_, "Big", ⟨String.ofList digits, .str ""⟩, rfl, by decide +kernel, rfl,
      DesignToken.overlong_ones (Nat.lt_succ_self _) _⟩
  refine ⟨hs, hx, List.mem_singleton_self root, ?_, ?_, fun now => ?_⟩
  · rw [TokenTable.exists_resolveKey_iff]
    exact fun h => h _ rfl hrefers
  · rw [Surface.resolvedStyle, TokenTable.exists_resolveStyle_iff]
    exact fun h => h _ (List.mem_singleton_self _) hrefers
  · rw [Surface.exists_renderTree_iff]
    have hwalk : x.components.walk x.rootId = [(root, 0)] := by rfl
    rw [hwalk]
    exact fun h => h _ (List.mem_singleton_self _) _ (List.mem_singleton_self _) hrefers

end Store

end UiSurface
