import Mathlib.Data.List.TakeWhile
import Mathlib.Tactic.Common
import Templating.Double.Decimal
import Templating.Proofs.Text.Search

/-!
# Numerals

What a decimal numeral is, said by a grammar, and what the readers make of one. At the beginning of
a text there may be several numerals, each a prefix of the next; the longest is the one that counts.

* `Sign`, `Mantissa`, `Exponent`, `Numeral` — the grammar;
* `numeralAt?_eq_some_iff`, `numeralAt?_eq_none_iff` — the search finds the longest numeral at the
  beginning of a text, and nothing only where there is none;
* `ofText?_of_numeral` — every numeral is read as a number.
-/

namespace Templating

/-- What is left behind the characters of a kind does not begin with one of the kind. -/
theorem Text.head?_dropWhile (kind : Char → Bool) (t : Text) :
    ∀ c ∈ (t.dropWhile kind).head?, kind c = false := by
  intro c hc
  have hhead := List.head?_dropWhile_not kind t
  rw [Option.mem_def.mp hc] at hhead
  simpa using hhead

namespace Double

open Text (isDigit Decimal)

-- ---------------------------------------------------------------------------
-- The grammar
-- ---------------------------------------------------------------------------

/-- A sign, or nothing. -/
def Sign (t : Text) : Prop := t = [] ∨ t = ['+'] ∨ t = ['-']

/-- Digits, with or without a point and digits behind it; or a point and digits. -/
inductive Mantissa : Text → Prop
  | whole {digits : Text} : Decimal digits → Mantissa digits
  | pointed {digits fraction : Text} : Decimal digits → (∀ c ∈ fraction, isDigit c = true) →
      Mantissa (digits ++ '.' :: fraction)
  | fraction {digits : Text} : Decimal digits → Mantissa ('.' :: digits)

/-- Nothing; or `e` or `E`, a sign or nothing, and digits. -/
inductive Exponent : Text → Prop
  | absent : Exponent []
  | present {mark : Char} {sign digits : Text} : mark = 'e' ∨ mark = 'E' → Sign sign →
      Decimal digits → Exponent (mark :: (sign ++ digits))

/-- A decimal numeral. -/
inductive Numeral : Text → Prop
  | of {sign mantissa exponent : Text} : Sign sign → Mantissa mantissa → Exponent exponent →
      Numeral (sign ++ (mantissa ++ exponent))

/-- Of the numerals that a text begins with, the longest. -/
structure LongestNumeral (t n : Text) : Prop where
  numeral : Numeral n
  isPrefix : n <+: t
  longest : ∀ m, Numeral m → m <+: t → m.length ≤ n.length

-- ---------------------------------------------------------------------------
-- What comes next in a text
-- ---------------------------------------------------------------------------

/-- The text does not go on with a digit. -/
def NoDigit (t : Text) : Prop := ∀ c ∈ t.head?, isDigit c = false

/-- The text does not go on with a sign. -/
def NoSign (t : Text) : Prop := t.head? ≠ some '+' ∧ t.head? ≠ some '-'

theorem noDigit_cons {c : Char} (h : isDigit c = false) (t : Text) : NoDigit (c :: t) := by
  rintro d hd
  cases hd
  exact h

theorem noDigit_dropWhile (t : Text) : NoDigit (t.dropWhile isDigit) :=
  Text.head?_dropWhile isDigit t

theorem noSign_of_isDigit {c : Char} (h : isDigit c = true) (t : Text) : NoSign (c :: t) := by
  constructor
  · intro heq
    cases Option.some.inj heq
    exact absurd h (by decide)
  · intro heq
    cases Option.some.inj heq
    exact absurd h (by decide)

section Digits

variable {digits rest : Text} (hdigits : ∀ c ∈ digits, isDigit c = true) (hrest : NoDigit rest)

include hdigits hrest

theorem takeWhile_digits : (digits ++ rest).takeWhile isDigit = digits := by
  have hstop : rest.takeWhile isDigit = [] := by
    cases rest with
    | nil => rfl
    | cons c rest => simp [hrest c rfl]
  rw [List.takeWhile_append_of_pos hdigits, hstop, List.append_nil]

theorem dropWhile_digits : (digits ++ rest).dropWhile isDigit = rest := by
  rw [List.dropWhile_append_of_pos hdigits]
  cases rest with
  | nil => rfl
  | cons c rest => simp [hrest c rfl]

end Digits

-- ---------------------------------------------------------------------------
-- Signs
-- ---------------------------------------------------------------------------

theorem sign_signAt (t : Text) : Sign (signAt t) := by
  unfold signAt
  split
  · exact .inr (.inr rfl)
  · exact .inr (.inl rfl)
  · exact .inl rfl

/-- Reading the sign of a text is taking it off. -/
theorem splitSign_eq (t : Text) :
    splitSign t = (decide (signAt t = ['-']), t.drop (signAt t).length) := by
  unfold splitSign signAt
  split <;> rfl

theorem signAt_append {sign rest : Text} (h : Sign sign) (hrest : NoSign rest) :
    signAt (sign ++ rest) = sign := by
  rcases h with rfl | rfl | rfl
  · rw [List.nil_append]
    unfold signAt
    split
    · exact absurd rfl hrest.2
    · exact absurd rfl hrest.1
    · rfl
  · rfl
  · rfl

theorem signAt_begins (t : Text) : signAt t <+: t := by
  unfold signAt
  split
  · exact List.prefix_append ['-'] _
  · exact List.prefix_append ['+'] _
  · exact List.nil_prefix

/-- What stands behind the sign of a text. -/
theorem drop_signAt {sign rest : Text} (h : Sign sign) (hrest : NoSign rest) :
    (sign ++ rest).drop (signAt (sign ++ rest)).length = rest := by
  rw [signAt_append h hrest, List.drop_left]

theorem splitSign_append {sign rest : Text} (h : Sign sign) (hrest : NoSign rest) :
    splitSign (sign ++ rest) = (decide (sign = ['-']), rest) := by
  rw [splitSign_eq, drop_signAt h hrest, signAt_append h hrest]

-- ---------------------------------------------------------------------------
-- Mantissas
-- ---------------------------------------------------------------------------

theorem not_isDigit_point : isDigit '.' = false := by decide

theorem mantissaAt_pointed {digits : Text} (h : ∀ c ∈ digits, isDigit c = true) (rest : Text) :
    mantissaAt (digits ++ '.' :: rest) = digits ++ '.' :: rest.takeWhile isDigit := by
  have hpoint := noDigit_cons not_isDigit_point rest
  rw [mantissaAt, takeWhile_digits h hpoint, dropWhile_digits h hpoint]
  rfl

theorem mantissaAt_whole {digits rest : Text} (h : ∀ c ∈ digits, isDigit c = true)
    (hrest : NoDigit rest) (hpoint : rest.head? ≠ some '.') :
    mantissaAt (digits ++ rest) = digits := by
  rw [mantissaAt, takeWhile_digits h hrest, dropWhile_digits h hrest]
  split
  · exact absurd rfl hpoint
  · rfl

/-- A text goes on with digits, and then with a point and digits or with neither. -/
theorem mantissaAt_cases (t : Text) : ∃ digits, (∀ c ∈ digits, isDigit c = true) ∧
    ((∃ rest, t = digits ++ '.' :: rest) ∨
      ∃ rest, t = digits ++ rest ∧ NoDigit rest ∧ rest.head? ≠ some '.') := by
  refine ⟨t.takeWhile isDigit, fun c hc => List.mem_takeWhile_imp hc, ?_⟩
  by_cases hpoint : (t.dropWhile isDigit).head? = some '.'
  · obtain ⟨rest, hrest⟩ := List.head?_eq_some_iff.mp hpoint
    refine .inl ⟨rest, ?_⟩
    rw [← hrest, List.takeWhile_append_dropWhile]
  · exact .inr ⟨_, List.takeWhile_append_dropWhile.symm, noDigit_dropWhile t, hpoint⟩

theorem mantissaAt_begins (t : Text) : mantissaAt t <+: t := by
  obtain ⟨digits, hdigits, ⟨rest, rfl⟩ | ⟨rest, rfl, hrest, hpoint⟩⟩ := mantissaAt_cases t
  · rw [mantissaAt_pointed hdigits]
    exact (List.prefix_append_right_inj digits).mpr
      (List.cons_prefix_cons.mpr ⟨rfl, List.takeWhile_prefix _⟩)
  · rw [mantissaAt_whole hdigits hrest hpoint]
    exact List.prefix_append ..

theorem mem_mantissaAt {t : Text} {c : Char} (h : c ∈ mantissaAt t) :
    isDigit c = true ∨ c = '.' := by
  obtain ⟨digits, hdigits, ⟨rest, rfl⟩ | ⟨rest, rfl, hrest, hpoint⟩⟩ := mantissaAt_cases t
  · rw [mantissaAt_pointed hdigits, List.mem_append, List.mem_cons] at h
    rcases h with h | h | h
    · exact .inl (hdigits c h)
    · exact .inr h
    · exact .inl (List.mem_takeWhile_imp h)
  · rw [mantissaAt_whole hdigits hrest hpoint] at h
    exact .inl (hdigits c h)

/-- What is found is a mantissa, unless it has no digit. -/
theorem mantissa_mantissaAt {t : Text} (hne : mantissaAt t ≠ []) (hpoint : mantissaAt t ≠ ['.']) :
    Mantissa (mantissaAt t) := by
  obtain ⟨digits, hdigits, ⟨rest, rfl⟩ | ⟨rest, rfl, hrest, hpoint'⟩⟩ := mantissaAt_cases t
  · have hfraction : ∀ c ∈ rest.takeWhile isDigit, isDigit c = true :=
      fun c hc => List.mem_takeWhile_imp hc
    rw [mantissaAt_pointed hdigits] at hpoint ⊢
    by_cases hwhole : digits = []
    · subst hwhole
      refine .fraction ⟨fun hnil => hpoint ?_, hfraction⟩
      rw [hnil]
      rfl
    · exact .pointed ⟨hwhole, hdigits⟩ hfraction
  · rw [mantissaAt_whole hdigits hrest hpoint'] at hne ⊢
    exact .whole ⟨hne, hdigits⟩

namespace Mantissa

variable {mantissa : Text}

theorem exists_cons (h : Mantissa mantissa) :
    ∃ c rest, mantissa = c :: rest ∧ (isDigit c = true ∨ c = '.') := by
  cases h with
  | whole h =>
    obtain ⟨c, rest, rfl⟩ := List.exists_cons_of_ne_nil h.1
    exact ⟨c, rest, rfl, .inl (h.2 c (List.mem_cons_self ..))⟩
  | pointed h _ =>
    obtain ⟨c, rest, rfl⟩ := List.exists_cons_of_ne_nil h.1
    exact ⟨c, _, rfl, .inl (h.2 c (List.mem_cons_self ..))⟩
  | fraction h => exact ⟨'.', _, rfl, .inr rfl⟩

theorem noSign (h : Mantissa mantissa) (rest : Text) : NoSign (mantissa ++ rest) := by
  obtain ⟨c, more, rfl, hdigit | rfl⟩ := h.exists_cons
  · exact noSign_of_isDigit hdigit _
  · exact ⟨by simp, by simp⟩

theorem ne_nil (h : Mantissa mantissa) : mantissa ≠ [] := by
  obtain ⟨c, rest, rfl, -⟩ := h.exists_cons
  exact List.cons_ne_nil c rest

theorem ne_point (h : Mantissa mantissa) : mantissa ≠ ['.'] := by
  rintro rfl
  generalize hpoint : ['.'] = t at h
  cases h with
  | whole h =>
    subst hpoint
    exact absurd (h.2 '.' (List.mem_singleton.mpr rfl)) (by decide)
  | pointed h _ =>
    obtain ⟨c, rest, rfl⟩ := List.exists_cons_of_ne_nil h.1
    have hlength := congrArg List.length hpoint
    simp at hlength
  | fraction h => exact h.1 (List.cons.inj hpoint).2.symm

/-- No more than a mantissa is nothing, or a point alone. -/
theorem not_of_prefix (h : Mantissa mantissa) {found : Text} (hstart : mantissa <+: found) :
    ¬ (found = [] ∨ found = ['.']) := by
  rintro (rfl | rfl)
  · exact h.ne_nil (List.prefix_nil.mp hstart)
  · rcases List.prefix_cons_iff.mp hstart with hnil | ⟨rest, hpoint, hrest⟩
    · exact h.ne_nil hnil
    · obtain rfl := List.prefix_nil.mp hrest
      exact h.ne_point hpoint

/-- A mantissa that a text begins with is not longer than what is found. -/
theorem prefix_mantissaAt (h : Mantissa mantissa) (rest : Text) :
    mantissa <+: mantissaAt (mantissa ++ rest) := by
  have hrun : ∀ digits : Text, (∀ c ∈ digits, isDigit c = true) → ∀ rest : Text,
      digits <+: (digits ++ rest).takeWhile isDigit := by
    intro digits hdigits rest
    rw [List.takeWhile_append_of_pos hdigits]
    exact List.prefix_append ..
  cases h with
  | whole h =>
    refine (hrun mantissa h.2 rest).trans ?_
    rw [mantissaAt]
    split
    · exact List.prefix_append ..
    · exact List.prefix_refl _
  | @pointed digits fraction h hfraction =>
    rw [List.append_assoc, List.cons_append, mantissaAt_pointed h.2]
    exact (List.prefix_append_right_inj digits).mpr
      (List.cons_prefix_cons.mpr ⟨rfl, hrun fraction hfraction rest⟩)
  | @fraction digits h =>
    have hfound : mantissaAt ('.' :: (digits ++ rest)) =
        '.' :: (digits ++ rest).takeWhile isDigit := mantissaAt_pointed (nofun : ∀ c ∈ [], _) _
    rw [List.cons_append, hfound]
    exact List.cons_prefix_cons.mpr ⟨rfl, hrun digits h.2 rest⟩

end Mantissa

-- ---------------------------------------------------------------------------
-- Exponents
-- ---------------------------------------------------------------------------

/-- What stands behind the mark of an exponent. -/
theorem exponentAt_cons {mark : Char} (hmark : mark = 'e' ∨ mark = 'E') (rest : Text) :
    exponentAt (mark :: rest) =
      if (rest.drop (signAt rest).length).takeWhile isDigit = [] then []
      else mark :: (signAt rest ++ (rest.drop (signAt rest).length).takeWhile isDigit) := by
  rw [exponentAt, if_pos hmark]

theorem exponentAt_of_ne {c : Char} (h : ¬ (c = 'e' ∨ c = 'E')) (rest : Text) :
    exponentAt (c :: rest) = [] := by
  rw [exponentAt, if_neg h]

theorem exponentAt_begins (t : Text) : exponentAt t <+: t := by
  cases t with
  | nil => exact List.prefix_refl _
  | cons c rest =>
    by_cases hmark : c = 'e' ∨ c = 'E'
    · rw [exponentAt_cons hmark]
      split
      · exact List.nil_prefix
      · have hrest := List.prefix_iff_eq_append.mp (signAt_begins rest)
        refine List.cons_prefix_cons.mpr ⟨rfl, ?_⟩
        conv_rhs => rw [← hrest]
        exact (List.prefix_append_right_inj _).mpr (List.takeWhile_prefix _)
    · rw [exponentAt_of_ne hmark]
      exact List.nil_prefix

theorem exponent_exponentAt (t : Text) : Exponent (exponentAt t) := by
  cases t with
  | nil => exact .absent
  | cons c rest =>
    by_cases hmark : c = 'e' ∨ c = 'E'
    · rw [exponentAt_cons hmark]
      split
      · exact .absent
      · next hdigits =>
        exact .present hmark (sign_signAt rest) ⟨hdigits, fun d hd => List.mem_takeWhile_imp hd⟩
    · rw [exponentAt_of_ne hmark]
      exact .absent

namespace Exponent

variable {exponent : Text}

/-- An exponent that a text begins with is not longer than what is found. -/
theorem prefix_exponentAt (h : Exponent exponent) (rest : Text) :
    exponent <+: exponentAt (exponent ++ rest) := by
  cases h with
  | absent => exact List.nil_prefix
  | @present mark sign digits hmark hsign hdigits =>
    obtain ⟨d, more, rfl⟩ := List.exists_cons_of_ne_nil hdigits.1
    have hnosign : NoSign (d :: more ++ rest) :=
      noSign_of_isDigit (hdigits.2 d (List.mem_cons_self ..)) _
    rw [List.cons_append, exponentAt_cons hmark, List.append_assoc, signAt_append hsign hnosign,
      List.drop_left, List.takeWhile_append_of_pos hdigits.2, if_neg (by simp)]
    exact List.cons_prefix_cons.mpr ⟨rfl, (List.prefix_append_right_inj sign).mpr
      (List.prefix_append ..)⟩

/-- A text that goes on with something else than an exponent begins with none. -/
theorem eq_nil (h : Exponent exponent) {c : Char} (hc : isDigit c = true ∨ c = '.')
    {rest rest' : Text} (heq : exponent ++ rest = c :: rest') : exponent = [] := by
  cases h with
  | absent => rfl
  | present hmark _ _ =>
    obtain ⟨rfl, -⟩ := List.cons.inj heq
    rcases hmark with rfl | rfl
    · exact absurd hc (by decide)
    · exact absurd hc (by decide)

end Exponent

-- ---------------------------------------------------------------------------
-- The longest numeral
-- ---------------------------------------------------------------------------

/-- What is found in a text, where `rest` stands behind its sign. -/
theorem numeralAt?_eq {t rest : Text} (hrest : t.drop (signAt t).length = rest) :
    numeralAt? t =
      if mantissaAt rest = [] ∨ mantissaAt rest = ['.'] then none
      else some (signAt t ++
        (mantissaAt rest ++ exponentAt (rest.drop (mantissaAt rest).length))) := by
  rw [numeralAt?]
  simp only [← List.drop_drop, hrest, List.append_assoc]

/-- What is found is a numeral at the beginning of the text. -/
theorem numeral_of_numeralAt? {t n : Text} (h : numeralAt? t = some n) :
    Numeral n ∧ n <+: t := by
  have hsplit := List.prefix_iff_eq_append.mp (signAt_begins t)
  rw [numeralAt?_eq rfl] at h
  generalize t.drop (signAt t).length = rest at h hsplit
  split at h
  · cases h
  · next hfound =>
    obtain ⟨hne, hpoint⟩ := not_or.mp hfound
    cases h
    refine ⟨.of (sign_signAt t) (mantissa_mantissaAt hne hpoint) (exponent_exponentAt _), ?_⟩
    conv_rhs => rw [← hsplit, ← List.prefix_iff_eq_append.mp (mantissaAt_begins rest)]
    exact (List.prefix_append_right_inj _).mpr
      ((List.prefix_append_right_inj _).mpr (exponentAt_begins _))

/-- A numeral that a text begins with is not longer than what is found. Where the mantissa that is
found is longer, the numeral has no exponent. -/
theorem Numeral.prefix_numeralAt? {m t : Text} (h : Numeral m) (hstart : m <+: t) :
    ∃ n, numeralAt? t = some n ∧ m <+: n := by
  obtain ⟨after, rfl⟩ := hstart
  obtain @⟨sign, mantissa, exponent, hsign, hmantissa, hexponent⟩ := h
  have hnosign := hmantissa.noSign (exponent ++ after)
  have htext : sign ++ (mantissa ++ exponent) ++ after =
      sign ++ (mantissa ++ (exponent ++ after)) := by simp
  have hmore := hmantissa.prefix_mantissaAt (exponent ++ after)
  rw [htext, numeralAt?_eq (drop_signAt hsign hnosign), signAt_append hsign hnosign,
    if_neg (hmantissa.not_of_prefix hmore)]
  refine ⟨_, rfl, (List.prefix_append_right_inj sign).mpr ?_⟩
  obtain ⟨more, hfound⟩ := hmore
  rw [← hfound]
  cases more with
  | nil =>
    rw [List.append_nil, List.drop_left]
    exact (List.prefix_append_right_inj _).mpr (hexponent.prefix_exponentAt after)
  | cons c more =>
    obtain ⟨rest, hrest⟩ := mantissaAt_begins (mantissa ++ (exponent ++ after))
    rw [← hfound, List.append_assoc] at hrest
    have hc : isDigit c = true ∨ c = '.' := by
      refine mem_mantissaAt (t := mantissa ++ (exponent ++ after)) ?_
      rw [← hfound]
      exact List.mem_append_right _ (List.mem_cons_self ..)
    obtain rfl := hexponent.eq_nil hc (List.append_cancel_left hrest).symm
    rw [List.append_nil, List.append_assoc]
    exact List.prefix_append ..

/-- **The search finds the longest numeral** at the beginning of a text. -/
theorem numeralAt?_eq_some_iff {t n : Text} : numeralAt? t = some n ↔ LongestNumeral t n := by
  constructor
  · intro h
    obtain ⟨hnumeral, hstart⟩ := numeral_of_numeralAt? h
    refine ⟨hnumeral, hstart, fun m hm hbegins => ?_⟩
    obtain ⟨n', hfound, hle⟩ := hm.prefix_numeralAt? hbegins
    cases h.symm.trans hfound
    exact hle.length_le
  · rintro ⟨hnumeral, hstart, hlongest⟩
    obtain ⟨n', hfound, hle⟩ := hnumeral.prefix_numeralAt? hstart
    obtain ⟨hnumeral', hstart'⟩ := numeral_of_numeralAt? hfound
    have hsame : n = n' :=
      hle.eq_of_length (Nat.le_antisymm hle.length_le (hlongest n' hnumeral' hstart'))
    rw [hfound, hsame]

/-- A point alone is no numeral, and a mark without digits is no exponent. -/
example : numeralAt? "-.5e+".toList = some "-.5".toList ∧
    numeralAt? "5.E1x".toList = some "5.E1".toList ∧ numeralAt? "+.e1".toList = none := by
  decide

/-- It finds nothing only where there is none. -/
theorem numeralAt?_eq_none_iff {t : Text} :
    numeralAt? t = none ↔ ∀ n, Numeral n → ¬ n <+: t := by
  constructor
  · intro h n hn hstart
    obtain ⟨n', hfound, -⟩ := hn.prefix_numeralAt? hstart
    cases h.symm.trans hfound
  · intro h
    cases hfound : numeralAt? t with
    | none => rfl
    | some n =>
      obtain ⟨hnumeral, hstart⟩ := numeral_of_numeralAt? hfound
      exact absurd hstart (h n hnumeral)

-- ---------------------------------------------------------------------------
-- Reading numerals
-- ---------------------------------------------------------------------------

theorem ofRatio_ne_nan (negative : Bool) (n d : Nat) : ofRatio negative n d ≠ nan := by
  rw [ofRatio]
  split
  · exact nofun
  · exact nofun

theorem ofDecimal_ne_nan (negative : Bool) (digits : Nat) (exponent : Int) :
    ofDecimal negative digits exponent ≠ nan := by
  unfold ofDecimal
  split
  · exact ofRatio_ne_nan _ _ _
  · split
    · exact nofun
    · split
      · exact ofRatio_ne_nan _ _ _
      · split
        · exact ofRatio_ne_nan _ _ _
        · exact ofRatio_ne_nan _ _ _

theorem splitDigits_eq {digits rest : Text} (hdigits : ∀ c ∈ digits, isDigit c = true)
    (hrest : NoDigit rest) : splitDigits (digits ++ rest) = (digits, rest) := by
  rw [splitDigits, takeWhile_digits hdigits hrest, dropWhile_digits hdigits hrest]

namespace Exponent

variable {exponent : Text}

theorem noDigit (h : Exponent exponent) : NoDigit exponent := by
  cases h with
  | absent => exact nofun
  | present hmark _ _ =>
    refine noDigit_cons ?_ _
    rcases hmark with rfl | rfl <;> decide

theorem head?_ne_point (h : Exponent exponent) : exponent.head? ≠ some '.' := by
  cases h with
  | absent => exact nofun
  | present hmark _ _ =>
    rcases hmark with rfl | rfl <;> simp

theorem exists_exponent? (h : Exponent exponent) : ∃ e, exponent? exponent = some e := by
  cases h with
  | absent => exact ⟨0, rfl⟩
  | @present mark sign digits hmark hsign hdigits =>
    obtain ⟨d, more, hcons⟩ := List.exists_cons_of_ne_nil hdigits.1
    have hnosign : NoSign digits := by
      rw [hcons]
      exact noSign_of_isDigit (hdigits.2 d (hcons ▸ List.mem_cons_self ..)) more
    have hsplit : splitDigits (digits ++ []) = (digits, []) := splitDigits_eq hdigits.2 nofun
    rw [List.append_nil] at hsplit
    rw [exponent?, if_pos hmark, splitSign_append hsign hnosign]
    simp only [hsplit]
    rw [if_neg (not_or.mpr ⟨hdigits.1, fun hne => hne rfl⟩)]
    exact ⟨_, rfl⟩

end Exponent

theorem splitFraction_of_ne {t : Text} (h : t.head? ≠ some '.') : splitFraction t = ([], t) := by
  unfold splitFraction
  split
  · exact absurd rfl h
  · rfl

/-- A text that is taken apart with a digit on one side of the point at least is read. -/
theorem ofUnsigned?_eq (negative : Bool) {t whole fraction rest exponent : Text} {e : Int}
    (hwhole : splitDigits t = (whole, rest)) (hfraction : splitFraction rest = (fraction, exponent))
    (hdigits : ¬ (whole = [] ∧ fraction = [])) (he : exponent? exponent = some e) :
    ofUnsigned? negative t =
      some (ofDecimal negative (Text.natOfDigits (whole ++ fraction)) (e - fraction.length)) := by
  rw [ofUnsigned?]
  simp only [hwhole, hfraction]
  rw [if_neg hdigits, he]
  rfl

theorem exists_ofUnsigned? {mantissa exponent : Text} (negative : Bool) (h : Mantissa mantissa)
    (hexponent : Exponent exponent) :
    ∃ x, ofUnsigned? negative (mantissa ++ exponent) = some x ∧ x ≠ nan := by
  obtain ⟨e, he⟩ := hexponent.exists_exponent?
  cases h with
  | whole h =>
    have hread := ofUnsigned?_eq negative (splitDigits_eq h.2 hexponent.noDigit)
      (splitFraction_of_ne hexponent.head?_ne_point) (fun hnil => h.1 hnil.1) he
    exact ⟨_, hread, ofDecimal_ne_nan _ _ _⟩
  | @pointed digits fraction h hfraction =>
    have hpoint := noDigit_cons not_isDigit_point (fraction ++ exponent)
    have hread := ofUnsigned?_eq negative (splitDigits_eq h.2 hpoint)
      (splitDigits_eq hfraction hexponent.noDigit) (fun hnil => h.1 hnil.1) he
    rw [List.append_assoc]
    exact ⟨_, hread, ofDecimal_ne_nan _ _ _⟩
  | @fraction digits h =>
    have hpoint := noDigit_cons not_isDigit_point (digits ++ exponent)
    have hwhole : splitDigits ('.' :: (digits ++ exponent)) = ([], '.' :: (digits ++ exponent)) :=
      splitDigits_eq (nofun : ∀ c ∈ [], _) hpoint
    have hread := ofUnsigned?_eq negative hwhole (splitDigits_eq h.2 hexponent.noDigit)
      (fun hnil => h.1 hnil.2) he
    exact ⟨_, hread, ofDecimal_ne_nan _ _ _⟩

theorem toLower_of_isDigit {c : Char} (h : isDigit c = true) : c.toLower = c := by
  rw [isDigit, Bool.and_eq_true, decide_eq_true_eq, decide_eq_true_eq] at h
  refine dif_neg ?_
  rintro ⟨hge, -⟩
  exact absurd (UInt32.le_trans hge (Char.le_def.mp h.2)) (by decide)

/-- No word begins like a mantissa. -/
theorem Mantissa.map_toLower_ne {mantissa : Text} (h : Mantissa mantissa) (rest : Text)
    {word : Text} (hword : ∀ c ∈ word.head?, ¬ (isDigit c = true ∨ c = '.')) :
    (mantissa ++ rest).map Char.toLower ≠ word := by
  obtain ⟨c, more, rfl, hc⟩ := h.exists_cons
  have hlower : c.toLower = c := by
    rcases hc with hdigit | rfl
    · exact toLower_of_isDigit hdigit
    · rfl
  rintro rfl
  exact hword c (congrArg some hlower) hc

/-- **Every numeral is read as a number.** -/
theorem ofText?_of_numeral {n : Text} (h : Numeral n) : ∃ x, ofText? n = some x ∧ x ≠ nan := by
  obtain @⟨sign, mantissa, exponent, hsign, hmantissa, hexponent⟩ := h
  have hinf : (mantissa ++ exponent).map Char.toLower ≠ "inf".toList :=
    hmantissa.map_toLower_ne exponent (by rintro c ⟨⟩; decide)
  have hinfinity : (mantissa ++ exponent).map Char.toLower ≠ "infinity".toList :=
    hmantissa.map_toLower_ne exponent (by rintro c ⟨⟩; decide)
  have hnan : (mantissa ++ exponent).map Char.toLower ≠ "nan".toList :=
    hmantissa.map_toLower_ne exponent (by rintro c ⟨⟩; decide)
  rw [ofText?, splitSign_append hsign (hmantissa.noSign exponent)]
  simp only
  rw [if_neg (not_or.mpr ⟨hinf, hinfinity⟩), if_neg hnan]
  exact exists_ofUnsigned? _ hmantissa hexponent

end Double

end Templating
