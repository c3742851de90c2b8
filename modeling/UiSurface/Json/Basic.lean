import UiSurface.Number.Basic
import UiSurface.Record

/-!
# JSON values

A JSON value keeps the order of the members of an object and tells integers from doubles.  An object
holds no name twice (`WellFormed`); the reader and all operations of this library keep that.
-/

namespace UiSurface

/-- A JSON value. -/
inductive Json where
  | null
  | bool (b : Bool)
  | num (n : Number)
  | str (s : String)
  | arr (items : List Json)
  | obj (members : List (String × Json))
deriving Inhabited

namespace Json

/-! ## Equality -/

mutual

def decEq : (a b : Json) → Decidable (a = b)
  | .null, .null => isTrue rfl
  | .bool a, .bool b => if h : a = b then isTrue (by rw [h]) else isFalse (by simp [h])
  | .num a, .num b => if h : a = b then isTrue (by rw [h]) else isFalse (by simp [h])
  | .str a, .str b => if h : a = b then isTrue (by rw [h]) else isFalse (by simp [h])
  | .arr a, .arr b => match decEqItems a b with
    | isTrue h => isTrue (by rw [h])
    | isFalse h => isFalse (by simp [h])
  | .obj a, .obj b => match decEqMembers a b with
    | isTrue h => isTrue (by rw [h])
    | isFalse h => isFalse (by simp [h])
  | .null, .bool _ | .null, .num _ | .null, .str _ | .null, .arr _ | .null, .obj _
  | .bool _, .null | .bool _, .num _ | .bool _, .str _ | .bool _, .arr _ | .bool _, .obj _
  | .num _, .null | .num _, .bool _ | .num _, .str _ | .num _, .arr _ | .num _, .obj _
  | .str _, .null | .str _, .bool _ | .str _, .num _ | .str _, .arr _ | .str _, .obj _
  | .arr _, .null | .arr _, .bool _ | .arr _, .num _ | .arr _, .str _ | .arr _, .obj _
  | .obj _, .null | .obj _, .bool _ | .obj _, .num _ | .obj _, .str _ | .obj _, .arr _ =>
    isFalse (by simp)

def decEqItems : (a b : List Json) → Decidable (a = b)
  | [], [] => isTrue rfl
  | [], _ :: _ => isFalse (by simp)
  | _ :: _, [] => isFalse (by simp)
  | a :: as, b :: bs => match decEq a b, decEqItems as bs with
    | isTrue h, isTrue h' => isTrue (by rw [h, h'])
    | isFalse h, _ => isFalse (by simp [h])
    | _, isFalse h => isFalse (by simp [h])

def decEqMembers : (a b : List (String × Json)) → Decidable (a = b)
  | [], [] => isTrue rfl
  | [], _ :: _ => isFalse (by simp)
  | _ :: _, [] => isFalse (by simp)
  | (k, a) :: as, (l, b) :: bs =>
    if hk : k = l then
      match decEq a b, decEqMembers as bs with
      | isTrue h, isTrue h' => isTrue (by rw [h, h', hk])
      | isFalse h, _ => isFalse (by simp [h])
      | _, isFalse h => isFalse (by simp [h])
    else isFalse (by simp [hk])

end

instance : DecidableEq Json := decEq

/-! ## Objects without a name twice -/

mutual

/-- No object in the value holds a name twice. -/
def WellFormed : Json → Prop
  | .arr items => WellFormedItems items
  | .obj members => (Record.keys members).Nodup ∧ WellFormedMembers members
  | .null | .bool _ | .num _ | .str _ => True

def WellFormedItems : List Json → Prop
  | [] => True
  | v :: vs => WellFormed v ∧ WellFormedItems vs

def WellFormedMembers : List (String × Json) → Prop
  | [] => True
  | (_, v) :: ms => WellFormed v ∧ WellFormedMembers ms

end

theorem wellFormedItems_iff (items : List Json) :
    WellFormedItems items ↔ ∀ v ∈ items, WellFormed v := by
  induction items with
  | nil => simp [WellFormedItems]
  | cons v vs ih => simp [WellFormedItems, ih]

theorem wellFormedMembers_iff (members : List (String × Json)) :
    WellFormedMembers members ↔ ∀ m ∈ members, WellFormed m.2 := by
  induction members with
  | nil => simp [WellFormedMembers]
  | cons m ms ih => obtain ⟨k, v⟩ := m; simp [WellFormedMembers, ih]

/-- An object is well formed if no name stands in it twice and its values are well formed. -/
theorem wellFormed_obj_iff {members : Record Json} :
    (obj members).WellFormed ↔ (Record.keys members).Nodup ∧ ∀ e ∈ members, e.2.WellFormed := by
  rw [WellFormed, wellFormedMembers_iff]

theorem wellFormed_arr_iff {items : List Json} :
    (arr items).WellFormed ↔ ∀ v ∈ items, v.WellFormed := by
  rw [WellFormed, wellFormedItems_iff]

/-! ## Views -/

/-- The members of an object; any other value has none. -/
def members? : Json → Option (Record Json)
  | .obj members => some members
  | _ => none

def items? : Json → Option (List Json)
  | .arr items => some items
  | _ => none

def text? : Json → Option String
  | .str s => some s
  | _ => none

/-- The text of a string that is not empty. -/
def name? : Json → Option String
  | .str s => if s.isEmpty then none else some s
  | _ => none

def isObject (v : Json) : Bool := v.members?.isSome

def isString (v : Json) : Bool := v.text?.isSome

def isName (v : Json) : Bool := v.name?.isSome

def isNull : Json → Bool
  | .null => true
  | _ => false

def kindName : Json → String
  | .null => "NoneType"
  | .bool _ => "bool"
  | .num (.int _) => "int"
  | .num (.float _) => "float"
  | .str _ => "str"
  | .arr _ => "list"
  | .obj _ => "dict"

/-- A member of an object, where an absent member reads as null. -/
def field (members : Record Json) (key : String) : Json := (Record.get? members key).getD .null

def ofInt (n : Int) : Json := .num (.int n)

end Json

end UiSurface
