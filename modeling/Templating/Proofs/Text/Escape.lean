import Templating.Proofs.Text.Lines
import Templating.Rendering

/-!
# Escaped texts

An escaped text is read from left to right: a safe character stands for its own unit, and a
reference for the unit whose number it writes. No safe character is an ampersand, so there is one
way to read a text, and it gives back the units of the text that was escaped. These are those of one
text only.

* `Text.Reads` — an escaped text and the units that it stands for;
* `Text.reads_escape`, `Text.Reads.unique` — what is read is the units, and nothing else;
* `Text.units_injective` — a text is known by its units, pairs of surrogates included;
* `Text.isPlain_iff_escape_eq` — a text passes through exactly if escaping leaves it as it is;
* `Run.evaluateTag_escaped` — an escaped tag becomes the same text behind every indent;
* `Text.escape_lossless` — all of this, for every text.
-/

namespace Templating

namespace Text

-- ---------------------------------------------------------------------------
-- The safe set
-- ---------------------------------------------------------------------------

/-- The units of a space, of an exclamation mark, and of the characters from `#` to `~` except for
`<`, `>` and `&`. -/
def SafeUnit (unit : Nat) : Prop :=
  unit = ' '.toNat ∨ unit = '!'.toNat ∨
    ('#'.toNat ≤ unit ∧ unit ≤ '~'.toNat ∧
      unit ≠ '<'.toNat ∧ unit ≠ '>'.toNat ∧ unit ≠ '&'.toNat)

theorem isSafeUnit_iff {unit : Nat} : isSafeUnit unit = true ↔ SafeUnit unit := by
  show _ ↔ unit = 32 ∨ unit = 33 ∨ (35 ≤ unit ∧ unit ≤ 126 ∧ unit ≠ 60 ∧ unit ≠ 62 ∧ unit ≠ 38)
  simp only [isSafeUnit, Bool.and_eq_true, Bool.or_eq_true, bne_iff_ne, beq_iff_eq,
    decide_eq_true_eq]
  omega

instance (unit : Nat) : Decidable (SafeUnit unit) := decidable_of_iff _ isSafeUnit_iff

/-- All of them are below the first unit of a surrogate. -/
theorem SafeUnit.lt {unit : Nat} (h : SafeUnit unit) : unit < 0x7F := by
  have hcases : unit = 32 ∨ unit = 33 ∨ (35 ≤ unit ∧ unit ≤ 126 ∧ _) := h
  omega

theorem not_safeUnit_ampersand : ¬ SafeUnit '&'.toNat := by decide

/-- A safe unit is that of one character. -/
theorem toNat_ofNat_of_safeUnit {unit : Nat} (h : SafeUnit unit) :
    (Char.ofNat unit).toNat = unit := by
  have hvalid : unit.isValidChar := .inl (Nat.lt_trans h.lt (by decide))
  rw [Char.ofNat, dif_pos hvalid]
  rfl

-- ---------------------------------------------------------------------------
-- Reading
-- ---------------------------------------------------------------------------

/-- The text consists of safe characters, each of which stands for its own unit, and of decimal
references. -/
inductive Reads : Text → List Nat → Prop
  | nil : Reads [] []
  | safe {c : Char} {rest : Text} {units : List Nat} : SafeUnit c.toNat → Reads rest units →
      Reads (c :: rest) (c.toNat :: units)
  | reference {digits rest : Text} {units : List Nat} : Decimal digits → Reads rest units →
      Reads ('&' :: '#' :: (digits ++ ';' :: rest)) (natOfDigits digits :: units)

theorem reads_escapeUnits : ∀ units : List Nat, Reads (units.flatMap escapeUnit) units
  | [] => .nil
  | unit :: units => by
    rw [List.flatMap_cons, escapeUnit]
    by_cases hsafe : SafeUnit unit
    · have hunit := toNat_ofNat_of_safeUnit hsafe
      have hread := Reads.safe (hunit.symm ▸ hsafe) (reads_escapeUnits units)
      rw [hunit] at hread
      rw [if_pos (isSafeUnit_iff.mpr hsafe)]
      exact hread
    · have hread := Reads.reference (decimal_ofNat unit) (reads_escapeUnits units)
      rw [natOfDigits_ofNat] at hread
      rw [if_neg (mt isSafeUnit_iff.mp hsafe), List.cons_append, List.cons_append,
        List.append_assoc]
      exact hread

/-- An escaped text stands for the units of the text. -/
theorem reads_escape (t : Text) : Reads (escape t) (units t) := reads_escapeUnits (units t)

/-- A numeral ends at the semicolon behind it. -/
theorem Decimal.append_inj {digits digits' rest rest' : Text} (h : Decimal digits)
    (h' : Decimal digits') (heq : digits ++ ';' :: rest = digits' ++ ';' :: rest') :
    digits = digits' ∧ rest = rest' :=
  append_cons_inj (h.not_mem (by decide)) (h'.not_mem (by decide)) heq

/-- There is one way to read a text. -/
theorem Reads.unique {t : Text} {units units' : List Nat} (h : Reads t units)
    (h' : Reads t units') : units = units' := by
  induction h generalizing units' with
  | nil =>
    cases h'
    rfl
  | safe hsafe _ ih =>
    cases h' with
    | safe _ hrest => rw [ih hrest]
    | reference _ _ => exact absurd hsafe not_safeUnit_ampersand
  | @reference digits rest units hdigits _ ih =>
    generalize ht : '&' :: '#' :: (digits ++ ';' :: rest) = t at h'
    cases h' with
    | nil => cases ht
    | safe hsafe _ =>
      obtain ⟨rfl, -⟩ := List.cons.inj ht
      exact absurd hsafe not_safeUnit_ampersand
    | @reference digits' rest' units' hdigits' hrest' =>
      obtain ⟨-, ht⟩ := List.cons.inj ht
      obtain ⟨rfl, rfl⟩ := hdigits.append_inj hdigits' (List.cons.inj ht).2
      rw [ih hrest']

/-- Every ampersand begins a reference. -/
theorem Reads.ampersand {t : Text} {units : List Nat} (h : Reads t units) {before after : Text}
    (ht : t = before ++ '&' :: after) :
    ∃ digits rest, Decimal digits ∧ after = '#' :: (digits ++ ';' :: rest) := by
  induction h generalizing before with
  | nil => simp at ht
  | safe hsafe _ ih =>
    cases before with
    | nil =>
      obtain ⟨rfl, -⟩ := List.cons.inj ht
      exact absurd hsafe not_safeUnit_ampersand
    | cons d before => exact ih (List.cons.inj ht).2
  | @reference digits rest units hdigits _ ih =>
    cases before with
    | nil => exact ⟨digits, rest, hdigits, (List.cons.inj ht).2.symm⟩
    | cons d before =>
      -- the reference has no other ampersand, so this one stands behind it
      have hplain : '&' ∉ '#' :: (digits ++ [';']) := by
        simp [hdigits.not_mem (show isDigit '&' = false by decide)]
      have htail : '#' :: (digits ++ [';']) ++ rest = before ++ '&' :: after := by
        have hafter := (List.cons.inj ht).2
        simpa using hafter
      rcases List.append_eq_append_iff.mp htail with ⟨more, -, hrest⟩ | ⟨more, hbefore, hmore⟩
      · exact ih hrest
      · cases more with
        | nil =>
          have hstart : rest = [] ++ '&' :: after := hmore.symm
          exact ih hstart
        | cons c more =>
          obtain ⟨rfl, -⟩ := List.cons.inj hmore
          exact absurd (by rw [hbefore]; simp) hplain

/-- An escaped text has one line. -/
theorem Reads.newline_not_mem {t : Text} {units : List Nat} (h : Reads t units) : '\n' ∉ t := by
  induction h with
  | nil => exact List.not_mem_nil
  | safe hsafe _ ih =>
    rw [List.mem_cons, not_or]
    refine ⟨?_, ih⟩
    rintro rfl
    exact absurd hsafe (by decide)
  | reference hdigits _ ih =>
    have hnumeral := hdigits.not_mem (show isDigit '\n' = false by decide)
    simp [hnumeral, ih]

-- ---------------------------------------------------------------------------
-- Units
-- ---------------------------------------------------------------------------

/-- No character has the number of a surrogate. -/
theorem toNat_cases (c : Char) :
    c.toNat < 0xD800 ∨ (0xDFFF < c.toNat ∧ c.toNat < 0x110000) := c.valid

/-- A text begins with one character only of those that its first units could be of. -/
theorem unitsOfChar_append_inj {c d : Char} {a b : List Nat}
    (h : unitsOfChar c ++ a = unitsOfChar d ++ b) : c = d ∧ a = b := by
  have hc := toNat_cases c
  have hd := toNat_cases d
  simp only [unitsOfChar] at h
  split at h
  · split at h
    · obtain ⟨hunit, hrest⟩ := List.cons.inj h
      exact ⟨Char.toNat_inj.mp hunit, hrest⟩
    · have hunit := (List.cons.inj h).1
      omega
  · split at h
    · have hunit := (List.cons.inj h).1
      omega
    · obtain ⟨hhigh, htail⟩ := List.cons.inj h
      obtain ⟨hlow, hrest⟩ := List.cons.inj htail
      exact ⟨Char.toNat_inj.mp (by omega), hrest⟩

theorem unitsOfChar_ne_nil (c : Char) : unitsOfChar c ≠ [] := by
  rw [unitsOfChar]
  split <;> exact List.cons_ne_nil _ _

/-- A text is known by its units. -/
theorem units_injective : ∀ {t t' : Text}, units t = units t' → t = t'
  | [], [], _ => rfl
  | [], d :: t', h => absurd (List.append_eq_nil_iff.mp h.symm).1 (unitsOfChar_ne_nil d)
  | c :: t, [], h => absurd (List.append_eq_nil_iff.mp h).1 (unitsOfChar_ne_nil c)
  | c :: t, d :: t', h => by
    obtain ⟨rfl, hrest⟩ := unitsOfChar_append_inj h
    rw [units_injective hrest]

theorem escape_append (t t' : Text) : escape (t ++ t') = escape t ++ escape t' := by
  rw [escape, units, List.flatMap_append, List.flatMap_append]
  rfl

theorem escape_injective {t t' : Text} (h : escape t = escape t') : t = t' := by
  have hread := reads_escape t
  rw [h] at hread
  exact units_injective (hread.unique (reads_escape t'))

-- ---------------------------------------------------------------------------
-- Texts that pass through
-- ---------------------------------------------------------------------------

theorem isPlain_iff {t : Text} : isPlain t = true ↔ ∀ unit ∈ units t, SafeUnit unit := by
  simp only [isPlain, List.all_eq_true, isSafeUnit_iff]

theorem isPlain_cons {c : Char} {t : Text} :
    isPlain (c :: t) = true ↔ isPlain [c] = true ∧ isPlain t = true := by
  simp only [isPlain, units, List.flatMap_cons, List.flatMap_nil, List.append_nil,
    List.all_append, Bool.and_eq_true]

/-- A character whose units are safe has one, and stands for itself. -/
theorem escape_singleton {c : Char} (h : isPlain [c] = true) : escape [c] = [c] := by
  have hsafe := isPlain_iff.mp h
  rw [units, List.flatMap_singleton, unitsOfChar] at hsafe
  rw [escape, units, List.flatMap_singleton, unitsOfChar]
  split
  · next hsmall =>
    rw [if_pos hsmall] at hsafe
    have hunit := isSafeUnit_iff.mpr (hsafe c.toNat (List.mem_singleton_self _))
    rw [List.flatMap_singleton, escapeUnit, if_pos hunit, Char.ofNat_toNat]
  · next hlarge =>
    rw [if_neg hlarge] at hsafe
    have hsurrogate := (hsafe _ (List.mem_cons_self ..)).lt
    omega

theorem length_escape_singleton {c : Char} (h : ¬ isPlain [c] = true) :
    1 < (escape [c]).length := by
  obtain ⟨unit, hmem, hunsafe⟩ : ∃ unit ∈ units [c], ¬ SafeUnit unit := by
    by_contra hall
    push Not at hall
    exact h (isPlain_iff.mpr hall)
  have hunit : 1 < (escapeUnit unit).length := by
    rw [escapeUnit, if_neg (mt isSafeUnit_iff.mp hunsafe)]
    simp
  have hsub : (escapeUnit unit).length ≤ (escape [c]).length :=
    (List.sublist_flatten_of_mem (List.mem_map_of_mem hmem)).length_le
  exact Nat.lt_of_lt_of_le hunit hsub

/-- Escaping never makes a text shorter, and leaves the length only of a text that passes
through. -/
theorem isPlain_of_length_le : ∀ {t : Text},
    t.length ≤ (escape t).length ∧ ((escape t).length ≤ t.length → isPlain t = true)
  | [] => ⟨Nat.le_refl _, fun _ => rfl⟩
  | c :: t => by
    obtain ⟨hle, hplain⟩ := isPlain_of_length_le (t := t)
    have hlength : (escape (c :: t)).length = (escape [c]).length + (escape t).length := by
      rw [← List.length_append, ← escape_append, List.singleton_append]
    rw [hlength, List.length_cons, isPlain_cons]
    by_cases hc : isPlain [c] = true
    · have hsame := congrArg List.length (escape_singleton hc)
      rw [List.length_singleton] at hsame
      exact ⟨by omega, fun h => ⟨hc, hplain (by omega)⟩⟩
    · have hlonger := length_escape_singleton hc
      exact ⟨by omega, fun h => by omega⟩

theorem escape_of_isPlain : ∀ {t : Text}, isPlain t = true → escape t = t
  | [], _ => rfl
  | c :: t, h => by
    obtain ⟨hc, ht⟩ := isPlain_cons.mp h
    rw [← List.singleton_append, escape_append, escape_singleton hc, escape_of_isPlain ht]

/-- A text passes through exactly if escaping leaves it as it is. -/
theorem isPlain_iff_escape_eq {t : Text} : isPlain t = true ↔ escape t = t :=
  ⟨escape_of_isPlain, fun h => isPlain_of_length_le.2 (Nat.le_of_eq (congrArg List.length h))⟩

theorem escapeShared_eq_passed_iff {t : Text} : escapeShared t = .passed t ↔ isPlain t = true := by
  rw [escapeShared]
  split <;> simp [*]

/-- Passing a text through gives what escaping it would. -/
theorem text_escapeShared (t : Text) : (escapeShared t).text = escape t := by
  rw [escapeShared]
  split
  · next hplain => exact (escape_of_isPlain hplain).symm
  · rfl

end Text

-- ---------------------------------------------------------------------------
-- Escaped tags
-- ---------------------------------------------------------------------------

/-- A string becomes its escaped text, whatever the indent. -/
theorem Config.textOf_escaped (config : Config) (indent t : Text) :
    config.textOf true indent (some (.string t)) = Text.escape t :=
  Text.indentContinuation_of_not_mem indent (Text.reads_escape t).newline_not_mem

/-- Nothing else follows an indent in the first place. -/
theorem Config.textOf_escaped_indent (config : Config) (indent indent' : Text) :
    ∀ value : Option Value, config.textOf true indent value = config.textOf true indent' value
  | some (.string t) => by rw [textOf_escaped, textOf_escaped]
  | none => rfl
  | some .null => rfl
  | some (.bool _) => rfl
  | some (.number _) => rfl
  | some (.array _) => rfl
  | some (.object _) => rfl

namespace Run

variable {σ : Type}

/-- An escaped tag becomes the same text behind every indent. -/
theorem evaluateTag_escaped (lookup : Text → Run σ (Option Value)) (config : Config) {tag : Tag}
    (h : tag.escaped = true) (indent indent' : Text) :
    evaluateTag lookup config tag indent = evaluateTag lookup config tag indent' := by
  unfold evaluateTag
  rw [h]
  simp only [config.textOf_escaped_indent indent indent']

/-- So a rendering does not look at the indent of an escaped tag, wherever it stands. -/
theorem renderTags_escaped (below : Node σ → Value → Run σ Text) (r : RegistryId) (config : Config)
    (content : Text) (params : Value) :
    renderTags below r config content params =
      settle config.maxPasses
        (fun tag indent => evaluateTag (lookup below r params) config tag
          (if tag.escaped then [] else indent))
        config.maxPasses (Draft.ofText content) := by
  rw [renderTags]
  congr 1
  funext tag indent
  split
  · next hescaped => exact evaluateTag_escaped _ config hescaped indent []
  · rfl

end Run

-- ---------------------------------------------------------------------------
-- Nothing is lost, and nothing moves
-- ---------------------------------------------------------------------------

/-- **Escaping is lossless, safe and the same everywhere.** An escaped text consists of safe
characters and of references, is read in one way, and what is read is the units of the text; every
ampersand in it begins a reference. Escaping two texts gives different results, and escaping a text
gives the results of its parts. A text passes through exactly if all of its units are safe, which is
exactly if escaping leaves it as it is. A string in place of an escaped tag is the escaped text
whatever the indent, so that a rendering needs no indent for such a tag. -/
theorem Text.escape_lossless (t : Text) :
    (∀ read, Reads (escape t) read ↔ read = units t) ∧
    (∀ before after, escape t = before ++ '&' :: after →
      ∃ digits rest, Decimal digits ∧ after = '#' :: (digits ++ ';' :: rest)) ∧
    (∀ other, escape other = escape t ↔ other = t) ∧
    (∀ other, escape (t ++ other) = escape t ++ escape other) ∧
    (escapeShared t).text = escape t ∧
    (escapeShared t = .passed t ↔ ∀ unit ∈ units t, SafeUnit unit) ∧
    (escapeShared t = .passed t ↔ escape t = t) ∧
    (∀ (config : Config) (indent : Text),
      config.textOf true indent (some (.string t)) = escape t) ∧
    (∀ (σ : Type) (below : Node σ → Value → Run σ Text) (r : RegistryId) (config : Config)
        (content : Text) (params : Value),
      Run.renderTags below r config content params =
        Run.settle config.maxPasses
          (fun tag indent => Run.evaluateTag (Run.lookup below r params) config tag
            (if tag.escaped then [] else indent))
          config.maxPasses (Draft.ofText content)) := by
  refine ⟨fun read => ⟨?_, ?_⟩, ?_, fun other => ⟨escape_injective, congrArg escape⟩,
    escape_append t, text_escapeShared t, ?_, ?_, fun config indent =>
    config.textOf_escaped indent t, fun _ => Run.renderTags_escaped⟩
  · intro hread
    exact hread.unique (reads_escape t)
  · rintro rfl
    exact reads_escape t
  · intro before after hsplit
    exact (reads_escape t).ampersand hsplit
  · rw [escapeShared_eq_passed_iff, isPlain_iff]
  · rw [escapeShared_eq_passed_iff, isPlain_iff_escape_eq]

/-- A rocket becomes two references, one for each surrogate. -/
theorem Text.escape_rocket :
    escape "<🚀".toList = "&#60;&#55357;&#56960;".toList ∧
      Reads (escape "<🚀".toList) [0x3C, 0xD83D, 0xDE80] ∧
      ∃ digits rest, Decimal digits ∧
        "#55357;&#56960;".toList = '#' :: (digits ++ ';' :: rest) :=
  have hescaped : escape "<🚀".toList = "&#60;&#55357;&#56960;".toList := by decide
  ⟨hescaped, ((escape_lossless "<🚀".toList).1 _).mpr (by decide),
    (escape_lossless "<🚀".toList).2.1 "&#60;".toList _ (hescaped.trans (by decide))⟩

end Templating
