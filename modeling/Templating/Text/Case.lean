import Templating.Text.Case.Table

/-!
# Upper and lower case

The full case mappings of a text. One character may become several (`ß` becomes `SS`), and one rule
looks at the neighbours: a capital sigma at the end of a word becomes the final small sigma.
-/

namespace Templating.Text

/-! ## Characters -/

/-- Where the run that covers a code point moves it; a code point in no run stays. -/
def shiftBy (runs : List CaseRun) (n : Nat) : Nat :=
  match runs.find? fun r => r.first ≤ n && n ≤ r.last && (n - r.first) % r.step == 0 with
  | some r => ((n : Int) + r.delta).toNat
  | none => n

/-- The full upper case of a character. -/
def upperOfChar (c : Char) : Text :=
  match upperExpansions.lookup c.toNat with
  | some codes => codes.map Char.ofNat
  | none => [Char.ofNat (shiftBy upperRuns c.toNat)]

/-- The full lower case of a character on its own. -/
def lowerOfChar (c : Char) : Text :=
  match lowerExpansions.lookup c.toNat with
  | some codes => codes.map Char.ofNat
  | none => [Char.ofNat (shiftBy lowerRuns c.toNat)]

/-- Whether a code point lies in one of the ranges. -/
def inRanges (ranges : List (Nat × Nat)) (n : Nat) : Bool :=
  ranges.any fun (first, last) => first ≤ n && n ≤ last

/-- Whether the first character that is not case-ignorable is a cased one. -/
def startsCased (t : Text) : Bool :=
  match t.dropWhile fun c => inRanges caseIgnorableRanges c.toNat with
  | c :: _ => inRanges casedRanges c.toNat
  | [] => false

/-! ## Texts -/

/-- The upper case of a text. -/
def upper (t : Text) : Text := t.flatMap upperOfChar

/-- The lower case of what follows the characters `before`, nearest first. A capital sigma that
has a cased letter before it and none after it is final. -/
def lowerAfter (before : Text) : Text → Text
  | [] => []
  | c :: rest =>
    let mapped :=
      if c = 'Σ' then
        if startsCased before && !startsCased rest then ['ς'] else ['σ']
      else
        lowerOfChar c
    mapped ++ lowerAfter (c :: before) rest

/-- The lower case of a text. -/
def lower (t : Text) : Text := lowerAfter [] t

/-- The text with its first character in upper case. -/
def capitalize : Text → Text
  | [] => []
  | c :: rest => upperOfChar c ++ rest

end Templating.Text
