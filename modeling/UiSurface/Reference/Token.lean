import UiSurface.Json.Basic
import UiSurface.Number.Numeral

/-!
# Design tokens — style values by name

A style value `{Name}` refers to a token.  A token whose text is a numeral gives a number, any other
its text.  What refers to no token stays as it is.
-/

namespace UiSurface

/-- A named style value.  The collection is a label that plays no part in resolving. -/
structure DesignToken where
  value : String
  collection : Json
deriving DecidableEq

abbrev TokenTable := Record DesignToken

namespace Reference

/-- The characters between an opening text and a closing brace at the end, if there are any.  One
line feed behind the brace is allowed. -/
def enclosed? (opening cs : List Char) : Option (List Char) :=
  let body := if cs.getLast? = some '\n' then cs.dropLast else cs
  if opening.isPrefixOf body && body.getLast? == some '\x7d' then
    let inner := (body.drop opening.length).dropLast
    if inner.isEmpty then none else some inner
  else none

/-- The token name that a text refers to. -/
def tokenName? (text : String) : Option String :=
  (enclosed? ['\x7b'] text.toList).map String.ofList

end Reference

namespace DesignToken

/-- The style value of a token (`_coerce_token_value`): a number if its text, white space at the ends
aside, is a numeral; its text otherwise. -/
def resolve (token : DesignToken) : Except TooManyDigits Json :=
  let text := Text.trim token.value.toList
  -- an integer comes first: any integer numeral is a decimal numeral too
  match Numeral.integerParts? text with
  | some (negative, digits) => (Numeral.integer negative digits).map (fun n => .num (.int n))
  | none => match Numeral.ofChars? text with
    | some numeral => .ok (.num (.float numeral.toBinary64))
    -- not trimmed: a text is given as it was written
    | none => .ok (.str token.value)

end DesignToken

namespace TokenTable

/-- A style value with its reference resolved (`resolve_style_value`, `resolve_token`). -/
def resolve (tokens : TokenTable) : Json → Except TooManyDigits Json
  | .str text => match (Reference.tokenName? text).bind (Record.get? tokens) with
    | some token => token.resolve
    | none => .ok (.str text)
  | value => .ok value

/-- A style with the references of its values resolved, one level deep (`resolve_style`). -/
def resolveStyle (tokens : TokenTable) : Record Json → Except TooManyDigits (Record Json)
  | [] => .ok []
  | (key, value) :: rest => do
    let value ← tokens.resolve value
    let rest ← tokens.resolveStyle rest
    return (key, value) :: rest

/-- One value of a style, resolved; null if the style has no such key. -/
def resolveKey (tokens : TokenTable) (style : Record Json) (key : String) :
    Except TooManyDigits Json :=
  match Record.get? style key with
  | some value => tokens.resolve value
  | none => .ok .null

end TokenTable

end UiSurface
