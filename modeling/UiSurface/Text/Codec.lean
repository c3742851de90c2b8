import UiSurface.Text.Quoted

/-!
# Codecs — which characters can be written as bytes

What leaves the program is written in an encoding, and a text that the encoding does not have is not written at
all: the fault tells the first characters that stand in the way, by their code points and their position.
Whatever the encoding, it has the characters of ASCII.

Main lemma: `takesText_of_ascii`.
-/

namespace UiSurface.Text

/-- An encoding, by the characters that it has. -/
structure Codec where
  name : String
  takes : Char → Bool
  /-- what is said of a character that it does not have -/
  reason : String
  takes_ascii : ∀ c : Char, c.toNat < 0x80 → takes c = true

namespace Codec

def ascii : Codec where
  name := "ascii"
  takes c := c.toNat < 0x80
  reason := "ordinal not in range(128)"
  takes_ascii _ h := decide_eq_true h

/-- UTF-8 has every character, and no surrogate. -/
def utf8 : Codec where
  name := "utf-8"
  takes c := !isLone c
  reason := "surrogates not allowed"
  takes_ascii _ h := by rw [isLone_of_lt (Nat.lt_trans h (by decide)), Bool.not_false]

/-- Whether a text can be written. -/
def takesText (e : Codec) (s : String) : Bool := s.toList.all e.takes

/-- Which characters stand in the way: the first of them, and the last one after it without a gap. -/
def inTheWay (e : Codec) (s : String) : String :=
  let start := (s.toList.takeWhile e.takes).length
  let run := (s.toList.dropWhile e.takes).takeWhile fun c => !e.takes c
  match run with
  | [c] =>
    "character '" ++ String.ofList (Quoted.codePoint (point c)) ++ "' in position " ++ toString start
  | _ =>
    "characters in position " ++ toString start ++ "-" ++ toString (start + run.length - 1)

/-- The text of the fault of a text that can not be written. -/
def refusal (e : Codec) (s : String) : String :=
  "'" ++ e.name ++ "' codec can't encode " ++ e.inTheWay s ++ ": " ++ e.reason

/-- The same where JSON is written text by text (`model_dump_json`). -/
def serializingRefusal (e : Codec) (s : String) : String :=
  "Error serializing to JSON: UnicodeEncodeError: " ++ e.refusal s

variable {e : Codec}

/-- Every encoding has the characters of ASCII. -/
theorem takesText_of_ascii {s : String} (h : ∀ c ∈ s.toList, c.toNat < 0x80) : e.takesText s = true :=
  List.all_eq_true.mpr fun c hc => e.takes_ascii c (h c hc)

end Codec

end UiSurface.Text
