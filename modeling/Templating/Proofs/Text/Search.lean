import Mathlib.Data.List.Basic
import Mathlib.Tactic.Common
import Templating.Text

/-!
# Searching in texts

What the search functions of `Templating.Text` find, said with the prefixes and infixes of lists:

* `cut?_eq_some_iff`, `cutAt?_eq_some_iff` — a cut is made at the first occurrence, and the pieces
  make up the text again;
* `splitOn_append` — so is the first of the cuts that `splitOn` makes;
* `startsWith_iff`, `containsPattern_iff` — the tests agree with `<+:` and `<:+:`;
* `replaceAll_prefix`, `replaceAll_append_of_nowhere` — replacement goes from occurrence to
  occurrence and leaves what is between them;
* `decimal_ofNat`, `natOfDigits_ofNat` — a number is written with digits, at least one, and read
  back from them.

`Nowhere` says that at no place of a text, followed by another, a text of some kind begins. Every
"first" and "leftmost" of the library is such a statement about what stands before the thing found.
-/

namespace Templating.Text

-- ---------------------------------------------------------------------------
-- The first occurrence of a character
-- ---------------------------------------------------------------------------

/-- A cut at a character is a cut at its first occurrence. -/
theorem cut?_eq_some_iff {c : Char} :
    ∀ {t before after : Text}, cut? c t = some (before, after) ↔
      t = before ++ c :: after ∧ c ∉ before
  | [], before, after => by simp [cut?]
  | d :: rest, before, after => by
    rw [cut?]
    by_cases hd : d = c
    · subst hd
      rw [if_pos rfl]
      cases before with
      | nil => simp
      | cons x xs =>
        simp only [Option.some.injEq, Prod.mk.injEq, List.cons_append, List.cons.injEq]
        constructor
        · rintro ⟨h, -⟩
          cases h
        · rintro ⟨⟨rfl, -⟩, hx⟩
          exact absurd (List.mem_cons_self ..) hx
    · rw [if_neg hd, Option.map_eq_some_iff]
      constructor
      · rintro ⟨⟨xs, ys⟩, hcut, heq⟩
        obtain ⟨rfl, rfl⟩ := Prod.mk.injEq .. ▸ heq
        obtain ⟨rfl, hxs⟩ := cut?_eq_some_iff.mp hcut
        exact ⟨rfl, by simp [Ne.symm hd, hxs]⟩
      · rintro ⟨ht, hbefore⟩
        cases before with
        | nil => exact absurd (List.cons.inj ht).1 hd
        | cons x xs =>
          obtain ⟨rfl, rfl⟩ := List.cons.inj ht
          exact ⟨(xs, after), cut?_eq_some_iff.mpr ⟨rfl, fun h => hbefore (by simp [h])⟩, rfl⟩

theorem cut?_eq_none_iff {c : Char} : ∀ {t : Text}, cut? c t = none ↔ c ∉ t
  | [] => by simp [cut?]
  | d :: rest => by
    rw [cut?]
    by_cases hd : d = c
    · simp [hd]
    · rw [if_neg hd, Option.map_eq_none_iff, cut?_eq_none_iff]
      simp [Ne.symm hd]

/-- What stands behind the first occurrence does not matter to where it is. -/
theorem cut?_append {c : Char} {before : Text} (h : c ∉ before) (after : Text) :
    cut? c (before ++ c :: after) = some (before, after) :=
  cut?_eq_some_iff.mpr ⟨rfl, h⟩

/-- A text has one first occurrence of a character. -/
theorem append_cons_inj {c : Char} {a b x y : Text} (ha : c ∉ a) (hb : c ∉ b)
    (h : a ++ c :: x = b ++ c :: y) : a = b ∧ x = y := by
  have hcut := cut?_append ha x
  rw [h, cut?_append hb y] at hcut
  cases hcut
  exact ⟨rfl, rfl⟩

-- ---------------------------------------------------------------------------
-- Pieces
-- ---------------------------------------------------------------------------

theorem splitOn_ne_nil (c : Char) : ∀ t : Text, splitOn c t ≠ []
  | [] => List.cons_ne_nil _ _
  | d :: rest => by
    rw [splitOn]
    split
    · exact List.cons_ne_nil _ _
    · split <;> exact List.cons_ne_nil _ _

theorem splitOn_of_not_mem {c : Char} : ∀ {t : Text}, c ∉ t → splitOn c t = [t]
  | [], _ => rfl
  | d :: rest, h => by
    rw [List.mem_cons, not_or] at h
    rw [splitOn, splitOn_of_not_mem h.2]
    exact if_neg (Ne.symm h.1)

/-- The first piece is what stands before the first occurrence. -/
theorem splitOn_append {c : Char} : ∀ {before : Text}, c ∉ before → ∀ after : Text,
    splitOn c (before ++ c :: after) = before :: splitOn c after
  | [], _, after => by
    obtain ⟨piece, pieces, hpieces⟩ := List.exists_cons_of_ne_nil (splitOn_ne_nil c after)
    rw [List.nil_append, splitOn, hpieces]
    exact if_pos rfl
  | d :: before, h, after => by
    rw [List.mem_cons, not_or] at h
    rw [List.cons_append, splitOn, splitOn_append h.2]
    exact if_neg (Ne.symm h.1)

-- ---------------------------------------------------------------------------
-- Patterns
-- ---------------------------------------------------------------------------

theorem startsWith_iff : ∀ {pattern text : Text}, startsWith pattern text = true ↔ pattern <+: text
  | [], text => by simp [startsWith]
  | _ :: _, [] => by simp [startsWith]
  | p :: pattern, c :: text => by
    rw [startsWith, Bool.and_eq_true, beq_iff_eq, startsWith_iff, List.cons_prefix_cons]

theorem containsFrom_iff {p : Char} {pattern : Text} :
    ∀ {text : Text}, containsFrom p pattern text = true ↔ p :: pattern <:+: text
  | [] => by simp [containsFrom]
  | c :: rest => by
    rw [containsFrom, Bool.or_eq_true, Bool.and_eq_true, beq_iff_eq, startsWith_iff,
      containsFrom_iff, List.infix_cons_iff, List.cons_prefix_cons]

theorem containsPattern_iff :
    ∀ {pattern text : Text}, containsPattern pattern text = true ↔ pattern <:+: text
  | [], text => by simp [containsPattern]
  | p :: pattern, text => by rw [containsPattern, containsFrom_iff]

theorem containsPattern_eq_false_iff {pattern text : Text} :
    containsPattern pattern text = false ↔ ¬ pattern <:+: text := by
  rw [← containsPattern_iff, Bool.not_eq_true]

-- ---------------------------------------------------------------------------
-- Nowhere in a text
-- ---------------------------------------------------------------------------

/-- At no place of `before`, followed by `rest`, does a text begin that has the property. -/
def Nowhere (begins : Text → Prop) : (before rest : Text) → Prop
  | [], _ => True
  | c :: before, rest => ¬ begins (c :: (before ++ rest)) ∧ Nowhere begins before rest

section Nowhere

variable {begins : Text → Prop}

@[simp] theorem nowhere_nil {rest : Text} : Nowhere begins [] rest := trivial

theorem nowhere_cons {c : Char} {before rest : Text} :
    Nowhere begins (c :: before) rest ↔
      ¬ begins (c :: (before ++ rest)) ∧ Nowhere begins before rest := Iff.rfl

theorem nowhere_append {rest : Text} : ∀ {a b : Text},
    Nowhere begins (a ++ b) rest ↔ Nowhere begins a (b ++ rest) ∧ Nowhere begins b rest
  | [], b => by simp
  | c :: a, b => by
    rw [List.cons_append, nowhere_cons, nowhere_cons, nowhere_append, List.append_assoc, and_assoc]

/-- The same, with the places as the ways to split the text. -/
theorem nowhere_iff {rest : Text} : ∀ {before : Text},
    Nowhere begins before rest ↔
      ∀ u c v, before = u ++ c :: v → ¬ begins (c :: (v ++ rest))
  | [] => by simp
  | d :: before => by
    rw [nowhere_cons, nowhere_iff]
    constructor
    · rintro ⟨hd, h⟩ u c v heq
      cases u with
      | nil =>
        obtain ⟨rfl, rfl⟩ := List.cons.inj heq
        exact hd
      | cons x xs => exact h xs c v (List.cons.inj heq).2
    · intro h
      exact ⟨h [] d before rfl, fun u c v heq => h (d :: u) c v (by rw [heq]; rfl)⟩

theorem Nowhere.mono {begins' : Text → Prop} (h : ∀ t, begins' t → begins t) {rest : Text} :
    ∀ {before : Text}, Nowhere begins before rest → Nowhere begins' before rest
  | [], _ => trivial
  | _ :: _, ⟨hc, hrest⟩ => ⟨fun hb => hc (h _ hb), hrest.mono h⟩

/-- Cutting off what follows makes nothing begin, if more text never keeps a thing from
beginning. -/
theorem Nowhere.of_append (hgrow : ∀ t more, begins t → begins (t ++ more)) {rest more : Text} :
    ∀ {before : Text}, Nowhere begins before (rest ++ more) → Nowhere begins before rest
  | [], _ => trivial
  | c :: before, ⟨hc, hbefore⟩ => by
    refine ⟨fun hb => hc ?_, hbefore.of_append hgrow⟩
    have hmore := hgrow _ more hb
    rw [List.cons_append, List.append_assoc] at hmore
    exact hmore

/-- What follows a pattern does not matter to where it occurs first. -/
theorem nowhere_self_append_iff {pattern after : Text} : ∀ {before : Text},
    Nowhere (pattern <+: ·) before (pattern ++ after) ↔ Nowhere (pattern <+: ·) before pattern
  | [] => by simp
  | c :: before => by
    have hfits : pattern.length ≤ (c :: (before ++ pattern)).length := by
      simp only [List.length_cons, List.length_append]
      omega
    have hwhole : c :: (before ++ (pattern ++ after)) = c :: (before ++ pattern) ++ after := by simp
    rw [nowhere_cons, nowhere_cons, nowhere_self_append_iff, hwhole]
    have hiff : pattern <+: c :: (before ++ pattern) ++ after ↔
        pattern <+: c :: (before ++ pattern) :=
      ⟨fun h => List.prefix_of_prefix_length_le h (List.prefix_append ..) hfits,
        fun h => h.trans (List.prefix_append ..)⟩
    rw [hiff]

/-- A pattern that is nowhere in a text followed by nothing does not occur in it. -/
theorem nowhere_prefix_nil_iff {pattern : Text} (hp : pattern ≠ []) :
    ∀ {text : Text}, Nowhere (pattern <+: ·) text [] ↔ ¬ pattern <:+: text
  | [] => by simpa using hp
  | c :: text => by
    rw [nowhere_cons, nowhere_prefix_nil_iff hp, List.append_nil, List.infix_cons_iff, not_or]

/-- A pattern that begins nowhere in the first part occurs in the second. -/
theorem infix_of_nowhere {pattern b : Text} : ∀ {a : Text}, Nowhere (pattern <+: ·) a b →
    pattern <:+: a ++ b → pattern <:+: b
  | [], _, h => h
  | _ :: _, ⟨hc, hrest⟩, h => infix_of_nowhere hrest ((List.infix_cons_iff.mp h).resolve_left hc)

/-- A pattern that has its first character only once cannot begin in a text that it does not
occur in and go on behind it, if that character stands there. -/
theorem nowhere_of_head {p : Char} {pattern rest : Text} (hp : p ∉ pattern) :
    ∀ {text : Text}, ¬ p :: pattern <:+: text → Nowhere (p :: pattern <+: ·) text (p :: rest)
  | [], _ => trivial
  | c :: text, h => by
    rw [List.infix_cons_iff, not_or, List.cons_prefix_cons] at h
    refine ⟨fun hprefix => ?_, nowhere_of_head hp h.2⟩
    obtain ⟨rfl, tail, htail⟩ := List.cons_prefix_cons.mp hprefix
    rcases List.append_eq_append_iff.mp htail with ⟨more, hmore, -⟩ | ⟨more, hmore, hrest⟩
    · exact h.1 ⟨rfl, more, hmore.symm⟩
    · cases more with
      | nil => exact h.1 ⟨rfl, [], by rw [hmore, List.append_nil, List.append_nil]⟩
      | cons d more =>
        obtain ⟨rfl, -⟩ := List.cons.inj hrest
        exact hp (by rw [hmore]; simp)

/-- A pattern that has its last character only once cannot begin in a text that it does not occur in
and go on in the pattern itself. -/
theorem nowhere_of_last {c : Char} {pattern text : Text} (hc : c ∉ pattern)
    (h : ¬ pattern ++ [c] <:+: text) :
    Nowhere (pattern ++ [c] <+: ·) text (pattern ++ [c]) := by
  rw [nowhere_iff]
  rintro u d v rfl ⟨tail, htail⟩
  have hshort : ∀ more : Text, d :: v ≠ pattern ++ [c] ++ more := fun more hmore =>
    h ⟨u, more, by rw [hmore, List.append_assoc u]⟩
  have hwhole : pattern ++ [c] ++ tail = (d :: v) ++ (pattern ++ [c]) := htail
  rcases List.append_eq_append_iff.mp hwhole with ⟨more, hmore, -⟩ | ⟨more, hmore, hrest⟩
  · exact hshort more hmore
  · rcases more.eq_nil_or_concat with rfl | ⟨init, last, rfl⟩
    · exact hshort [] (by rw [List.append_nil, hmore, List.append_nil])
    · -- what goes on ends with the last character, so it is the whole pattern
      rw [List.concat_eq_append, ← List.append_assoc] at hmore
      rw [List.concat_eq_append, List.append_assoc] at hrest
      obtain ⟨hpattern, hlast⟩ := List.append_inj' hmore rfl
      obtain rfl : c = last := (List.cons.inj hlast).1
      have hinit : c ∉ init := fun hmem => hc (hpattern ▸ List.mem_append_right _ hmem)
      obtain ⟨rfl, -⟩ := append_cons_inj hc hinit hrest
      have hlength := congrArg List.length hpattern
      rw [List.length_append, List.length_cons] at hlength
      omega

end Nowhere

-- ---------------------------------------------------------------------------
-- What begins with a brace behind its mark
-- ---------------------------------------------------------------------------

/-- The text begins with a character and a brace, as everything does that a search looks for. -/
def Bracing (t : Text) : Prop := ∃ c rest, t = c :: '{' :: rest

theorem not_bracing_cons {c : Char} {t : Text} (h : t.head? ≠ some '{') : ¬ Bracing (c :: t) := by
  rintro ⟨d, rest, heq⟩
  rw [(List.cons.inj heq).2] at h
  exact h rfl

theorem head_append {c : Char} {t : Text} (hne : t ≠ []) (h : c ∉ t) (rest : Text) :
    (t ++ rest).head? ≠ some c := by
  cases t with
  | nil => exact absurd rfl hne
  | cons d t =>
    intro heq
    cases heq
    exact h (List.mem_cons_self ..)

/-- Nothing begins in a text without braces before one that does not begin with a brace. -/
theorem nowhere_bracing {rest : Text} (hrest : rest.head? ≠ some '{') :
    ∀ {t : Text}, '{' ∉ t → Nowhere Bracing t rest
  | [], _ => trivial
  | [c], _ => ⟨not_bracing_cons hrest, trivial⟩
  | c :: d :: t, h => by
    rw [List.mem_cons, not_or] at h
    exact ⟨not_bracing_cons (head_append (List.cons_ne_nil d t) h.2 rest),
      nowhere_bracing hrest h.2⟩

-- ---------------------------------------------------------------------------
-- The first occurrence of a pattern
-- ---------------------------------------------------------------------------

theorem around_eq_iff {pattern : Text} (hp : pattern ≠ []) :
    ∀ {text before after : Text}, pattern <:+: text →
      (around pattern text = (before, after) ↔
        text = before ++ pattern ++ after ∧ Nowhere (pattern <+: ·) before (pattern ++ after))
  | [], _, _, h => absurd (List.infix_nil.mp h) hp
  | c :: rest, before, after, h => by
    rw [around]
    by_cases hs : startsWith pattern (c :: rest) = true
    · rw [if_pos hs]
      have hprefix := startsWith_iff.mp hs
      obtain ⟨tail, htail⟩ := hprefix
      rw [← htail, List.drop_left, Prod.mk.injEq]
      constructor
      · rintro ⟨rfl, rfl⟩
        exact ⟨rfl, trivial⟩
      · rintro ⟨heq, hno⟩
        cases before with
        | nil => exact ⟨rfl, List.append_cancel_left heq⟩
        | cons x xs =>
          refine absurd ?_ hno.1
          rw [List.cons_append, List.cons_append, List.append_assoc] at heq
          show pattern <+: x :: (xs ++ (pattern ++ after))
          rw [← heq]
          exact List.prefix_append ..
    · rw [if_neg hs]
      have hnot : ¬ pattern <+: c :: rest := fun hpre => hs (startsWith_iff.mpr hpre)
      have hrest : pattern <:+: rest := (List.infix_cons_iff.mp h).resolve_left hnot
      have ih := @around_eq_iff pattern hp rest
      constructor
      · intro heq
        obtain ⟨rfl, rfl⟩ := Prod.mk.injEq .. ▸ heq
        obtain ⟨hsplit, hno⟩ := (ih hrest).mp rfl
        have hwhole : rest = (around pattern rest).1 ++ (pattern ++ (around pattern rest).2) := by
          rw [← List.append_assoc]
          exact hsplit
        refine ⟨?_, ?_, hno⟩
        · show c :: rest = c :: ((around pattern rest).1 ++ pattern ++ (around pattern rest).2)
          rw [← hsplit]
        · rw [← hwhole]
          exact hnot
      · rintro ⟨heq, hno⟩
        cases before with
        | nil => exact absurd ⟨after, heq.symm⟩ hnot
        | cons x xs =>
          obtain ⟨rfl, hxs⟩ := List.cons.inj heq
          have hfound := (ih hrest).mpr ⟨hxs, hno.2⟩
          rw [hfound]

/-- A cut at a pattern is a cut at its first occurrence. -/
theorem cutAt?_eq_some_iff {pattern : Text} (hp : pattern ≠ []) {text before after : Text} :
    cutAt? pattern text = some (before, after) ↔
      text = before ++ pattern ++ after ∧ Nowhere (pattern <+: ·) before (pattern ++ after) := by
  rw [cutAt?]
  by_cases h : containsPattern pattern text = true
  · rw [if_pos h, Option.some.injEq, around_eq_iff hp (containsPattern_iff.mp h)]
  · rw [if_neg h]
    constructor
    · intro hnone
      cases hnone
    · rintro ⟨rfl, -⟩
      exact absurd (containsPattern_iff.mpr ⟨before, after, rfl⟩) h

theorem cutAt?_eq_none_iff {pattern text : Text} :
    cutAt? pattern text = none ↔ ¬ pattern <:+: text := by
  rw [cutAt?, ← containsPattern_iff]
  by_cases h : containsPattern pattern text = true <;> simp [h]

-- ---------------------------------------------------------------------------
-- Replacement
-- ---------------------------------------------------------------------------

theorem replaceFrom_length (pattern value : Text) :
    ∀ (skipped rest : Text),
      replaceFrom pattern value skipped.length (skipped ++ rest) =
        replaceFrom pattern value 0 rest
  | [], _ => rfl
  | c :: skipped, rest => by
    rw [List.length_cons, List.cons_append, replaceFrom]
    exact replaceFrom_length pattern value skipped rest

theorem replaceAll_prefix {pattern : Text} (hp : pattern ≠ []) (value rest : Text) :
    replaceAll pattern value (pattern ++ rest) = value ++ replaceAll pattern value rest := by
  obtain ⟨c, tail, rfl⟩ := List.exists_cons_of_ne_nil hp
  have hstart : startsWith (c :: tail) (c :: (tail ++ rest)) = true :=
    startsWith_iff.mpr (List.prefix_append (c :: tail) rest)
  rw [replaceAll, List.cons_append, replaceFrom, if_pos hstart, List.length_cons,
    Nat.add_sub_cancel, replaceFrom_length, replaceAll]

/-- What stands before all occurrences stays. -/
theorem replaceAll_append_of_nowhere {pattern rest : Text} (value : Text) :
    ∀ {before : Text}, Nowhere (pattern <+: ·) before rest →
      replaceAll pattern value (before ++ rest) = before ++ replaceAll pattern value rest
  | [], _ => rfl
  | c :: before, ⟨hc, hbefore⟩ => by
    have hstart : ¬ startsWith pattern (c :: (before ++ rest)) = true :=
      fun h => hc (startsWith_iff.mp h)
    rw [List.cons_append, replaceAll, replaceFrom, if_neg hstart, ← replaceAll,
      replaceAll_append_of_nowhere value hbefore, List.cons_append]

/-- A text in which the pattern does not occur stays as it is. -/
theorem replaceAll_of_not_infix {pattern text : Text} (hp : pattern ≠ []) (value : Text)
    (h : ¬ pattern <:+: text) : replaceAll pattern value text = text := by
  have hno : Nowhere (pattern <+: ·) text [] := (nowhere_prefix_nil_iff hp).mpr h
  have happend := replaceAll_append_of_nowhere value hno
  rw [List.append_nil] at happend
  rw [happend, replaceAll, replaceFrom, List.append_nil]

-- ---------------------------------------------------------------------------
-- Occurrences near the beginning
-- ---------------------------------------------------------------------------

/-- If a pattern does not occur behind the first `n` characters, it is enough to look for
occurrences that begin among them. -/
theorem containsWithin_iff {pattern : Text} :
    ∀ {n : Nat} {text : Text}, ¬ pattern <:+: text.drop n →
      (containsWithin pattern n text = true ↔ pattern <:+: text)
  | 0, text, h => by
    rw [List.drop_zero] at h
    simp [containsWithin, h]
  | n + 1, [], h => by
    rw [List.drop_nil] at h
    simp [containsWithin, h]
  | n + 1, c :: rest, h => by
    rw [List.drop_succ_cons] at h
    rw [containsWithin, Bool.or_eq_true, startsWith_iff, containsWithin_iff h,
      List.infix_cons_iff]

-- ---------------------------------------------------------------------------
-- The leftmost thing that can be read
-- ---------------------------------------------------------------------------

section Leftmost

variable {α : Type} {read : Text → Option (α × Text)}

/-- The leftmost thing that `read` reads, with what stands before and after it. -/
def leftmost (read : Text → Option (α × Text)) : Text → Option (Text × α × Text)
  | [] => none
  | c :: rest =>
    match read (c :: rest) with
    | some (a, after) => some ([], a, after)
    | none => (leftmost read rest).map fun (before, a, after) => (c :: before, a, after)

theorem leftmost_append_of_nowhere {rest : Text} : ∀ {before : Text},
    Nowhere (read · ≠ none) before rest →
      leftmost read (before ++ rest) =
        (leftmost read rest).map fun (mid, a, after) => (before ++ mid, a, after)
  | [], _ => by simp
  | c :: before, ⟨hc, hbefore⟩ => by
    rw [List.cons_append, leftmost, not_not.mp hc]
    simp only [leftmost_append_of_nowhere hbefore, Option.map_map]
    rfl

theorem leftmost_eq_none_iff : ∀ {t : Text},
    leftmost read t = none ↔ Nowhere (read · ≠ none) t []
  | [] => by simp [leftmost]
  | c :: rest => by
    rw [leftmost, nowhere_cons, List.append_nil, not_not]
    cases hread : read (c :: rest) with
    | none => simp [leftmost_eq_none_iff]
    | some found => simp

/-- The leftmost thing is read at a place before which nothing is. -/
theorem leftmost_eq_some_iff {before after : Text} {a : α} : ∀ {t : Text},
    leftmost read t = some (before, a, after) ↔
      ∃ rest, rest ≠ [] ∧ t = before ++ rest ∧ read rest = some (a, after) ∧
        Nowhere (read · ≠ none) before rest := by
  intro t
  constructor
  · induction t generalizing before with
    | nil =>
      intro h
      cases h
    | cons c rest ih =>
      intro h
      rw [leftmost] at h
      cases hread : read (c :: rest) with
      | some found =>
        rw [hread] at h
        cases h
        exact ⟨c :: rest, List.cons_ne_nil _ _, rfl, hread, trivial⟩
      | none =>
        rw [hread] at h
        obtain ⟨⟨mid, b, more⟩, hfound, heq⟩ := Option.map_eq_some_iff.mp h
        cases heq
        obtain ⟨tail, hne, rfl, htail, hno⟩ := ih hfound
        exact ⟨tail, hne, rfl, htail, not_not.mpr hread, hno⟩
  · rintro ⟨rest, hne, rfl, hread, hno⟩
    obtain ⟨c, tail, rfl⟩ := List.exists_cons_of_ne_nil hne
    rw [leftmost_append_of_nowhere hno, leftmost, hread]
    simp

end Leftmost

-- ---------------------------------------------------------------------------
-- Decimal numerals
-- ---------------------------------------------------------------------------

-- Numbers are written with `ofNat`, in names of blocks and in character references, and read with
-- `natOfDigits`, which takes leading zeros too.

/-- A text that writes a number: digits, and at least one. -/
def Decimal (digits : Text) : Prop := digits ≠ [] ∧ ∀ c ∈ digits, isDigit c = true

theorem isDigit_eq (c : Char) : isDigit c = c.isDigit := by
  rw [isDigit, Char.isDigit, Bool.eq_iff_iff]
  simp [Char.le_def]

theorem isDigit_of_mem_ofNat {n : Nat} {c : Char} (h : c ∈ ofNat n) : c.isDigit = true :=
  Nat.isDigit_of_mem_toDigits (by decide) (by decide) h

theorem decimal_ofNat (n : Nat) : Decimal (ofNat n) :=
  ⟨Nat.toDigits_ne_nil, fun c hc => (isDigit_eq c).trans (isDigit_of_mem_ofNat hc)⟩

theorem natOfDigits_ofNat (n : Nat) : natOfDigits (ofNat n) = n := Nat.ofDigitChars_ten_toDigits

theorem ofNat_injective {m n : Nat} (h : ofNat m = ofNat n) : m = n := by
  have hread := congrArg natOfDigits h
  rwa [natOfDigits_ofNat, natOfDigits_ofNat] at hread

/-- No other character is part of a numeral. -/
theorem Decimal.not_mem {digits : Text} (h : Decimal digits) {c : Char}
    (hc : isDigit c = false) : c ∉ digits := by
  intro hmem
  rw [h.2 c hmem] at hc
  cases hc

end Templating.Text
