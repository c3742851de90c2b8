import Mathlib.Data.Nat.Digits.Defs
import UiSurface.Proofs.Delays
import UiSurface.Proofs.Reachable
import UiSurface.Proofs.Redelivery

/-!
# Integers that can be written

An integer with too many digits is refused when it is read, and it would be refused as well when it is
written.  What is read from a text has only integers that can be written again: the digits of an integer
were counted when it was read, and a double that is an integer is not past the largest double.  Data
models are made of what is read and of its parts, so this holds of all of them.

Main lemmas: `Numeral.writable_of_integer`, `Binary64.writable_of_toInt?`, `Json.FromText.writable`,
`Store.ReachableFromText.forall_models` (what all data models have that come from texts).
-/

namespace UiSurface

/-! ## Integers -/

/-- An integer that can be written: it has no more digits than one may have that is read. -/
def Number.Writable (n : Int) : Prop := (natDigits n.natAbs).length ≤ TooManyDigits.limit

instance (n : Int) : Decidable (Number.Writable n) :=
  inferInstanceAs (Decidable ((Number.natDigits n.natAbs).length ≤ TooManyDigits.limit))

/-- A number below the bound has few enough digits. -/
theorem Number.writable_of_lt {n : Int} (h : n.natAbs < 10 ^ TooManyDigits.limit) : Writable n :=
  Nat.toDigits_length 10 _ _ (by decide) h

theorem Text.digitValue?_le {c : Char} {d : Nat} (h : digitValue? c = some d) : d ≤ 9 := by
  obtain ⟨z, hz, rfl⟩ := Option.map_eq_some_iff.mp h
  have hrange := List.find?_some hz
  rw [Bool.and_eq_true, decide_eq_true_eq, decide_eq_true_eq] at hrange
  omega

/-- A run of digits stands for a number that has no more digits. -/
theorem Text.digitsValue_lt (cs : List Char) : digitsValue cs < 10 ^ cs.length := by
  -- for any number that has been read so far
  have hrun : ∀ n, cs.foldl (fun n c => 10 * n + (digitValue? c).getD 0) n <
      (n + 1) * 10 ^ cs.length := by
    induction cs with
    | nil => simp
    | cons c cs ih =>
      intro n
      have hdigit : (digitValue? c).getD 0 ≤ 9 := by
        cases h : digitValue? c with
        | none => simp
        | some d => exact digitValue?_le h
      calc (c :: cs).foldl (fun n c => 10 * n + (digitValue? c).getD 0) n
          < (10 * n + (digitValue? c).getD 0 + 1) * 10 ^ cs.length := ih _
        _ ≤ (10 * (n + 1)) * 10 ^ cs.length := Nat.mul_le_mul_right _ (by omega)
        _ = (n + 1) * 10 ^ (c :: cs).length := by rw [List.length_cons, Nat.pow_succ]; ring
  simpa [digitsValue] using hrun 0

/-- An integer that is read can be written. -/
theorem Numeral.writable_of_integer {negative : Bool} {digits : List Char} {n : Int}
    (h : integer negative digits = .ok n) : Number.Writable n := by
  unfold integer at h
  split at h
  · cases h
  · rename_i hlength
    have hn : n.natAbs = Text.digitsValue digits := by
      obtain rfl := Except.ok.inj h
      split
      · rw [Int.natAbs_neg, Int.natAbs_natCast]
      · rw [Int.natAbs_natCast]
    refine Number.writable_of_lt (hn ▸ (Text.digitsValue_lt digits).trans_le ?_)
    exact Nat.pow_le_pow_right (by decide) (Nat.le_of_not_lt hlength)

theorem Binary64.pow2_le_ten_pow {j k : Nat} (h : j ≤ k) : pow2 j ≤ 10 ^ k :=
  (pow2_le h).trans (Nat.pow_le_pow_left (by decide) k)

/-- A double that is an integer can be written as one. -/
theorem Binary64.writable_of_toInt? {x : Binary64} {n : Int} (h : x.toInt? = some n) :
    Number.Writable n := by
  unfold toInt? at h
  split at h
  · rename_i num den hratio
    split at h
    · obtain rfl := Option.some.inj h
      obtain ⟨hnum, -⟩ := bounds_of_ratio? hratio
      -- the largest finite number is far below the digits that may be written
      have hlargest : largest < pow2 (53 + 971) := by
        rw [pow2_add]
        exact (Nat.mul_lt_mul_right (pow2_pos 971)).mpr (by decide)
      refine Number.writable_of_lt ?_
      calc (num / den).natAbs ≤ num.natAbs := Int.natAbs_ediv_le_natAbs num den
        _ ≤ largest := hnum
        _ < pow2 (53 + 971) := hlargest
        _ ≤ 10 ^ TooManyDigits.limit := pow2_le_ten_pow (by decide)
    · cases h
  · cases h

/-! ## Values -/

namespace Json

/-- A value is within another if it is that value, or within an item or a member of it. -/
inductive Within (part : Json) : Json → Prop
  | self : Within part part
  | item {items : List Json} {v : Json} (hv : v ∈ items) (h : Within part v) : Within part (.arr items)
  | member {members : Record Json} {e : String × Json} (he : e ∈ members) (h : Within part e.2) :
      Within part (.obj members)

theorem Within.trans {u v w : Json} (huv : Within u v) (hvw : Within v w) : Within u w := by
  induction hvw with
  | self => exact huv
  | item hv _ ih => exact .item hv ih
  | member he _ ih => exact .member he ih

/-- All integers in a value can be written. -/
def Writable (v : Json) : Prop := ∀ n : Int, Within (.num (.int n)) v → Number.Writable n

/-- What stands in a value that can be written can be written. -/
theorem Writable.of_within {v w : Json} (h : w.Writable) (hv : Within v w) : v.Writable :=
  fun n hn => h n (hn.trans hv)

/-- An object can be written if its values can. -/
theorem writable_obj_iff {members : Record Json} :
    (obj members).Writable ↔ ∀ e ∈ members, e.2.Writable := by
  constructor
  · intro h e he
    exact h.of_within (.member he .self)
  · intro h n hn
    cases hn with
    | member he hn => exact h _ he n hn

/-- The reader makes only integers that can be written. -/
theorem readable_writable : Readable Writable where
  empty := writable_obj_iff.mpr nofun
  put hmembers hvalue := by
    refine writable_obj_iff.mpr fun e he => ?_
    rcases Record.mem_put he with rfl | he
    · exact hvalue
    · exact writable_obj_iff.mp hmembers e he
  member hmembers he := writable_obj_iff.mp hmembers _ he
  null := nofun
  bool _ := nofun
  str _ := nofun
  float _ := nofun
  integer h n hn := by
    cases hn with
    | self => exact Numeral.writable_of_integer h
  arr hitems n hn := by
    cases hn with
    | item hv hn => exact hitems _ hv n hn

/-- A value that was read from a text, or stands within one that was. -/
def FromText (v : Json) : Prop := ∃ text whole, ofText text = .ok whole ∧ Within v whole

/-- What was read from a text can be written. -/
theorem FromText.writable {v : Json} (h : v.FromText) : v.Writable := by
  obtain ⟨text, whole, hread, hv⟩ := h
  exact (readable_writable.of_ofText hread).of_within hv

end Json

/-! ## Messages -/

/-- What a data model and an update have, the updated model has. -/
theorem Store.of_updatedModel {P : Json → Prop} (hP : Json.Hereditary P) {acceptsOverlay : Bool}
    {model next : DataModel} (hmodel : P (.obj model)) {update : ModelUpdate}
    (hentries : ∀ entries, update = .overlay entries → P (.obj entries))
    (hvalue : ∀ path value, update = .write path value → P value)
    (h : updatedModel acceptsOverlay model update = .ok next) : P (.obj next) := by
  cases update with
  | overlay entries =>
    rw [updatedModel] at h
    split at h
    · obtain rfl := Except.ok.inj h
      exact hP.overlay hmodel (hentries entries rfl)
    · cases h
  | write path value =>
    simp only [updatedModel] at h
    split at h
    · split at h
      · obtain rfl := Except.ok.inj h
        exact hvalue path _ rfl
      · cases h
    · split at h
      · cases h
      · obtain rfl := Except.ok.inj h
        exact hP.set hmodel _ (hvalue path value rfl)

namespace Message

/-- A value that is not there counts as null. -/
theorem value_of_decodeUpdate {body : Record Json} {path : Option String} {value : Json}
    (h : decodeUpdate body = .ok (.write path value)) :
    value = .null ∨ Record.get? body "value" = some value := by
  have hgetD : ∀ x : Option Json, x.getD .null = .null ∨ x = some (x.getD .null) := by
    intro x
    cases x with
    | none => exact Or.inl rfl
    | some v => exact Or.inr rfl
  unfold decodeUpdate at h
  split at h
  · split at h
    · cases h
    · cases h
    · obtain ⟨-, rfl⟩ := ModelUpdate.write.inj (Except.ok.inj h)
      exact hgetD _
  · obtain ⟨-, rfl⟩ := ModelUpdate.write.inj (Except.ok.inj h)
    exact hgetD _
  · cases h

/-- What the reader gives to all values, a message keeps for the data model of its surface. -/
theorem keeps_model {P : Json → Prop} (hP : Json.Readable P) {members : Record Json}
    (hmembers : P (.obj members)) {m : Message} (h : decodeMembers members = .ok m) :
    m.Keeps fun x => P (.obj x.model) := by
  intro acceptsOverlay x hx t ht
  cases m with
  | createSurface id catalogId sendDataModel tokens =>
    obtain rfl := Option.some.inj ht
    exact hP.empty
  | updateComponents id cs =>
    obtain ⟨y, hy, rfl⟩ := Option.map_eq_some_iff.mp ht
    exact hx y hy
  | deleteSurface id => cases ht
  | updateDataModel id update =>
    obtain ⟨y, hy, rfl⟩ := Option.map_eq_some_iff.mp ht
    obtain ⟨-, body, hget, -, hread⟩ := decodeMembers_eq_ok_iff.mp h
    have hbody : P (.obj body) := hP.get? hmembers hget
    split
    · rename_i model hupdated
      refine Store.of_updatedModel hP.toHereditary (hx y hy) ?_ ?_ hupdated
      · rintro entries rfl
        exact hP.get? hbody (get?_of_decodeUpdate hread)
      · rintro path value rfl
        rcases value_of_decodeUpdate hread with rfl | hvalue
        · exact hP.null
        · exact hP.get? hbody hvalue
    · exact hx y hy

end Message

/-! ## Stores -/

namespace Store

/-- An envelope of the operation, if it has one, comes from a text. -/
def Operation.FromText : Operation → Prop
  | .envelope members => (Json.obj members).FromText
  | .subscribe _ | .cancel _ | .dispose | .setRoot _ _ => True

/-- The stores that are reached with envelopes from texts. -/
inductive ReachableFromText : Store → Prop
  | empty (acceptsOverlay : Bool) : ReachableFromText (empty acceptsOverlay)
  | perform {s : Store} (op : Operation) (hop : op.FromText) (h : ReachableFromText s) :
      ReachableFromText (s.perform op)

/-- What the reader gives to all values, all data models have that come from texts. -/
theorem ReachableFromText.forall_models {P : Json → Prop} (hP : Json.Readable P)
    (hwithin : ∀ {v w}, Json.Within v w → P w → P v) {s : Store} (hs : s.ReachableFromText) :
    ∀ x ∈ s.surfaces, P (.obj x.model) := by
  induction hs with
  | empty acceptsOverlay =>
    intro x hx
    cases hx
  | perform op hop h ih =>
    refine forall_surfaces_perform ih (fun members m hmembers hm => ?_) fun x root hx => hx
    subst hmembers
    obtain ⟨text, whole, hread, hpart⟩ := hop
    exact Message.keeps_model hP (hwithin hpart (hP.of_ofText hread)) hm

/-- All integers in these data models can be written. -/
theorem ReachableFromText.writable {s : Store} (hs : s.ReachableFromText) {x : Surface}
    (hx : x ∈ s.surfaces) : (Json.obj x.model).Writable :=
  hs.forall_models Json.readable_writable (fun hpart h => h.of_within hpart) x hx

end Store

end UiSurface
