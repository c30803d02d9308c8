import Templating.Proofs.Tag

/-!
# Texts as pieces

A text in which every brace opens a tag is a list of pieces, each a character or a tag. On such
texts the searches of the library are list operations: the leftmost tag is the first piece that is a
tag, and replacing every occurrence of a tag replaces the pieces that are that tag.

* `Piece`, `Piece.textOf` — pieces and the text they make up;
* `Piece.Plain` — no brace but the one that opens the tag;
* `Piece.find?_textOf`, `Piece.replaceAll_textOf` — search and replacement;
* `Piece.ofText`, `Piece.textOf_ofText` — the pieces of a text in which every brace opens a plain
  tag.
-/

namespace Templating

/-- A tag without an opening brace between its own braces. -/
structure Tag.Plain (tag : Tag) : Prop where
  wellFormed : tag.WellFormed
  brace : '{' ∉ tag.body

instance (tag : Tag) : Decidable tag.Plain :=
  decidable_of_iff (tag.WellFormed ∧ '{' ∉ tag.body)
    ⟨fun ⟨hwf, hbrace⟩ => ⟨hwf, hbrace⟩, fun ⟨hwf, hbrace⟩ => ⟨hwf, hbrace⟩⟩

/-- A part of a text: a character, or a tag as a whole. -/
inductive Piece where
  | char (c : Char)
  | tag (tag : Tag)
  deriving DecidableEq

namespace Piece

/-- The piece as it stands in a text. -/
def text : Piece → Text
  | char c => [c]
  | tag t => t.text

/-- The text that pieces make up. -/
def textOf (pieces : List Piece) : Text := pieces.flatMap text

/-- A piece with no brace but the one that opens the tag. -/
def Plain : Piece → Prop
  | char c => c ≠ '{'
  | tag t => t.Plain

instance : DecidablePred Plain
  | char _ => inferInstanceAs (Decidable (_ ≠ _))
  | tag t => inferInstanceAs (Decidable t.Plain)

/-- A text as pieces of one character each. -/
def chars (t : Text) : List Piece := t.map char

/-- The tags among the pieces. -/
def tags (pieces : List Piece) : List Tag :=
  pieces.filterMap fun | char _ => none | tag t => some t

@[simp] theorem textOf_nil : textOf [] = [] := rfl

@[simp] theorem textOf_cons (p : Piece) (ps : List Piece) :
    textOf (p :: ps) = p.text ++ textOf ps := rfl

@[simp] theorem textOf_append (ps qs : List Piece) : textOf (ps ++ qs) = textOf ps ++ textOf qs :=
  List.flatMap_append

@[simp] theorem textOf_chars : ∀ t : Text, textOf (chars t) = t
  | [] => rfl
  | c :: rest => congrArg (c :: ·) (textOf_chars rest)

@[simp] theorem chars_nil : chars [] = [] := rfl

theorem plain_chars {t : Text} (h : '{' ∉ t) : ∀ p ∈ chars t, p.Plain := by
  intro p hp
  obtain ⟨c, hc, rfl⟩ := List.mem_map.mp hp
  rintro rfl
  exact h hc

-- ---------------------------------------------------------------------------
-- Where tags begin
-- ---------------------------------------------------------------------------

/-- Plain pieces do not begin with a brace: a tag begins with its mark. -/
theorem head_textOf {ps : List Piece} (hps : ∀ p ∈ ps, p.Plain) :
    (textOf ps).head? ≠ some '{' := by
  cases ps with
  | nil => exact fun heq => by cases heq
  | cons p ps =>
    have hp := hps p (List.mem_cons_self ..)
    intro heq
    cases p with
    | char c => exact hp (Option.some.inj heq)
    | tag t =>
      have hmark : t.mark = '{' := Option.some.inj heq
      have := Tag.ofMark?_mark t
      rw [hmark] at this
      cases this

/-- No tag begins with a character before plain pieces. -/
theorem not_begins_cons {ps : List Piece} (hps : ∀ p ∈ ps, p.Plain) (c : Char) :
    ¬ Tag.Begins (c :: textOf ps) :=
  fun h => Text.not_bracing_cons (head_textOf hps) h.bracing

/-- No tag begins in a text without braces before plain pieces. -/
theorem nowhere_textOf {ps : List Piece} (hps : ∀ p ∈ ps, p.Plain) {t : Text} (ht : '{' ∉ t) :
    Text.Nowhere Tag.Begins t (textOf ps) :=
  (Text.nowhere_bracing (head_textOf hps) ht).mono fun _ => Tag.Begins.bracing

/-- A text without braces has no tag. -/
theorem find?_eq_none_of_brace {t : Text} (h : '{' ∉ t) : Tag.find? t = none :=
  have hno : Text.Nowhere Tag.Begins t (textOf []) := nowhere_textOf (by simp) h
  Tag.find?_eq_none_iff.mpr hno

/-- The leftmost tag is the first piece that is one. -/
theorem find?_textOf {t : Text} {tag : Tag} {ps : List Piece} (ht : '{' ∉ t) (htag : tag.Plain)
    (hps : ∀ p ∈ ps, p.Plain) :
    Tag.find? (t ++ (tag.text ++ textOf ps)) = some ⟨t, tag, textOf ps⟩ := by
  have hall : ∀ p ∈ Piece.tag tag :: ps, p.Plain := fun p hp => by
    rcases List.mem_cons.mp hp with rfl | hp
    · exact htag
    · exact hps p hp
  have hno : Text.Nowhere Tag.Begins t (textOf (.tag tag :: ps)) := nowhere_textOf hall ht
  exact Tag.find?_eq_some_iff.mpr ⟨(List.append_assoc ..).symm, htag.wellFormed, hno⟩

/-- Within a plain tag, no tag begins but the tag itself. -/
theorem nowhere_tag {tag : Tag} (htag : tag.Plain) {ps : List Piece} (hps : ∀ p ∈ ps, p.Plain) :
    Text.Nowhere Tag.Begins ('{' :: (tag.body ++ ['}'])) (textOf ps) := by
  have hbrace : '{' ∉ tag.body ++ ['}'] := by simp [htag.brace]
  -- behind the brace of the tag stands a character that is no brace
  have hhead := Text.head_append (show tag.body ++ ['}'] ≠ [] by simp) hbrace (textOf ps)
  exact ⟨fun h => Text.not_bracing_cons hhead h.bracing, nowhere_textOf hps hbrace⟩

-- ---------------------------------------------------------------------------
-- Replacement
-- ---------------------------------------------------------------------------

/-- A tag begins nowhere in a piece that is not this tag. -/
theorem nowhere_text {t : Tag} (ht : t.Plain) {p : Piece} (hp : p.Plain) (hne : p ≠ tag t)
    {ps : List Piece} (hps : ∀ q ∈ ps, q.Plain) :
    Text.Nowhere (t.text <+: ·) p.text (textOf ps) := by
  have hbegins : ∀ u, t.text <+: u → Tag.Begins u := fun _ hu => ⟨t, ht.wellFormed, hu⟩
  cases p with
  | char c => exact ⟨fun hprefix => not_begins_cons hps c (hbegins _ hprefix), trivial⟩
  | tag t' =>
    -- at the mark stands the other tag, behind it none
    refine ⟨fun hprefix => hne ?_, (nowhere_tag hp hps).mono hbegins⟩
    rw [Tag.text_prefix_unique hp.wellFormed ht.wellFormed
      (List.prefix_append t'.text (textOf ps)) hprefix]

/-- A tag whose text occurs in plain pieces is one of them. -/
theorem mem_of_infix_textOf {t : Tag} (ht : t.Plain) : ∀ {ps : List Piece},
    (∀ p ∈ ps, p.Plain) → t.text <:+: textOf ps → tag t ∈ ps
  | [], _, h => absurd (List.infix_nil.mp h) t.text_ne_nil
  | p :: ps, hps, h => by
    obtain ⟨hp, hrest⟩ := List.forall_mem_cons.mp hps
    by_cases heq : p = tag t
    · rw [heq]
      exact List.mem_cons_self ..
    · have hlater := Text.infix_of_nowhere (nowhere_text ht hp heq hrest) h
      exact List.mem_cons_of_mem _ (mem_of_infix_textOf ht hrest hlater)

/-- The pieces that come in place of a piece when a tag is replaced. -/
def fill (t : Tag) (value : Text) : Piece → List Piece
  | char c => [char c]
  | tag t' => if t' = t then chars value else [tag t']

theorem flatMap_fill_chars (t : Tag) (value : Text) :
    ∀ u : Text, (chars u).flatMap (fill t value) = chars u
  | [] => rfl
  | c :: u => congrArg (char c :: ·) (flatMap_fill_chars t value u)

/-- Replacing every occurrence of a tag replaces the pieces that are that tag. -/
theorem replaceAll_textOf {t : Tag} (ht : t.Plain) (value : Text) :
    ∀ {ps : List Piece}, (∀ p ∈ ps, p.Plain) →
      Text.replaceAll t.text value (textOf ps) = textOf (ps.flatMap (fill t value))
  | [], _ => rfl
  | p :: ps, h => by
    obtain ⟨hp, hps⟩ := List.forall_mem_cons.mp h
    have ih := replaceAll_textOf ht value hps
    rw [textOf_cons, List.flatMap_cons, textOf_append, ← ih]
    by_cases heq : p = tag t
    · rw [heq, fill, if_pos rfl, text, Text.replaceAll_prefix t.text_ne_nil, textOf_chars]
    · have hother : textOf (fill t value p) = p.text := by
        cases p with
        | char c => rfl
        | tag t' =>
          have hne : t' ≠ t := fun htag => heq (htag ▸ rfl)
          rw [fill, if_neg hne]
          simp
      rw [hother]
      exact Text.replaceAll_append_of_nowhere value (nowhere_text ht hp heq hps)

-- ---------------------------------------------------------------------------
-- The pieces of a text
-- ---------------------------------------------------------------------------

/-- The pieces of a text, tags read from left to right; `skip` counts the characters of the tag
just read that are still to be passed over. -/
def scan : (skip : Nat) → Text → List Piece
  | _, [] => []
  | skip + 1, _ :: rest => scan skip rest
  | 0, t@(c :: rest) =>
    match Tag.at? t with
    | some (found, _) => tag found :: scan (found.text.length - 1) rest
    | none => char c :: scan 0 rest

/-- The pieces of a text. -/
def ofText (t : Text) : List Piece := scan 0 t

/-- Every opening brace is the second character of a plain tag. -/
def Tagged (t : Text) : Prop :=
  ∀ before after, t = before ++ '{' :: after →
    ∃ (front : Text) (tag : Tag) (rest : Text),
      tag.Plain ∧ before = front ++ [tag.mark] ∧ t = front ++ (tag.text ++ rest)

theorem scan_skip (rest : Text) : ∀ skipped : Text,
    scan skipped.length (skipped ++ rest) = scan 0 rest
  | [] => rfl
  | c :: skipped => by
    rw [List.length_cons, List.cons_append, scan]
    exact scan_skip rest skipped

/-- Reading the pieces of a text inverts writing them. -/
theorem ofText_textOf : ∀ {ps : List Piece}, (∀ p ∈ ps, p.Plain) → ofText (textOf ps) = ps
  | [], _ => rfl
  | p :: ps, h => by
    have hp := h p (List.mem_cons_self ..)
    have hps := fun q hq => h q (List.mem_cons_of_mem _ hq)
    have ih := ofText_textOf hps
    cases p with
    | char c =>
      have hat := Tag.at?_eq_none_iff.mpr (not_begins_cons hps c)
      show scan 0 (c :: textOf ps) = _
      rw [scan, hat]
      simp only
      rw [← ofText, ih]
    | tag t =>
      have hat := Tag.at?_text hp.wellFormed (textOf ps)
      obtain ⟨c, tail, htext⟩ := List.exists_cons_of_ne_nil t.text_ne_nil
      rw [htext, List.cons_append] at hat
      show scan 0 (t.text ++ textOf ps) = _
      rw [htext, List.cons_append, scan, hat]
      simp only
      rw [htext, List.length_cons, Nat.add_sub_cancel, scan_skip, ← ofText, ih]

/-- The text behind a tag is as the whole. -/
theorem Tagged.of_tag {t : Tag} {rest : Text} (h : Tagged (t.text ++ rest)) : Tagged rest := by
  intro before after heq
  obtain ⟨front, t', rest', hplain, hbefore, htext⟩ :=
    h (t.text ++ before) after (by rw [heq, List.append_assoc])
  rcases List.eq_nil_or_concat before with rfl | ⟨init, d, rfl⟩
  · -- the mark would be the closing brace of the tag before it
    rw [List.append_nil, Tag.text, ← List.cons_append, ← List.cons_append,
      List.append_singleton_inj] at hbefore
    exact absurd hbefore.2.symm (t'.mark_ne_brace)
  · rw [List.concat_eq_append, ← List.append_assoc, List.append_singleton_inj] at hbefore
    obtain ⟨rfl, rfl⟩ := hbefore
    rw [List.append_assoc] at htext
    exact ⟨init, t', rest', hplain, List.concat_eq_append .., List.append_cancel_left htext⟩

/-- A character that no tag begins with is no brace, and the text behind it is as the whole. -/
theorem Tagged.of_char {c : Char} {rest : Text} (h : Tagged (c :: rest))
    (hno : ¬ Tag.Begins (c :: rest)) : c ≠ '{' ∧ Tagged rest := by
  refine ⟨?_, fun before after heq => ?_⟩
  · rintro rfl
    obtain ⟨front, t, rest', -, hbefore, -⟩ := h [] rest rfl
    simp at hbefore
  · obtain ⟨front, t, rest', hplain, hbefore, htext⟩ := h (c :: before) after (by rw [heq]; rfl)
    cases front with
    | nil =>
      refine absurd ⟨t, hplain.wellFormed, ?_⟩ hno
      rw [htext]
      exact List.prefix_append ..
    | cons d front =>
      rw [List.cons_append, List.cons.injEq] at hbefore htext
      exact ⟨front, t, rest', hplain, hbefore.2, htext.2⟩

/-- A text in which every brace opens a plain tag is made up of plain pieces. -/
theorem exists_pieces (t : Text) (h : Tagged t) : ∃ ps, (∀ p ∈ ps, p.Plain) ∧ t = textOf ps := by
  cases t with
  | nil => exact ⟨[], by simp, rfl⟩
  | cons c rest =>
    cases hat : Tag.at? (c :: rest) with
    | none =>
      obtain ⟨hc, hrest⟩ := h.of_char (Tag.at?_eq_none_iff.mp hat)
      obtain ⟨ps, hps, rfl⟩ := exists_pieces rest hrest
      exact ⟨char c :: ps, by simpa using ⟨hc, hps⟩, rfl⟩
    | some found =>
      obtain ⟨t, after⟩ := found
      obtain ⟨htext, hwf⟩ := Tag.at?_eq_some_iff.mp hat
      have hplain : t.Plain := by
        -- the tag at the second character is the only one that begins the text
        obtain ⟨front, t', rest', hplain, hbefore, htext'⟩ :=
          h [t.mark] (t.body ++ ['}'] ++ after) (by rw [htext, Tag.text]; simp)
        rw [show [t.mark] = [] ++ [t.mark] from rfl, List.append_singleton_inj] at hbefore
        obtain ⟨rfl, -⟩ := hbefore
        have hsame := Tag.text_prefix_unique hwf hplain.wellFormed (t := c :: rest)
          (by rw [htext]; exact List.prefix_append ..) (by rw [htext']; exact List.prefix_append ..)
        rw [hsame]
        exact hplain
      have hshorter : after.length < (c :: rest).length := by
        rw [htext, List.length_append]
        have := List.length_pos_iff.mpr t.text_ne_nil
        omega
      obtain ⟨ps, hps, hafter⟩ := exists_pieces after (htext ▸ h).of_tag
      refine ⟨tag t :: ps, by simpa using ⟨hplain, hps⟩, ?_⟩
      rw [htext, hafter]
      rfl
termination_by t.length

/-- Writing the pieces of such a text gives it back, and they are plain. -/
theorem textOf_ofText {t : Text} (h : Tagged t) :
    textOf (ofText t) = t ∧ ∀ p ∈ ofText t, p.Plain := by
  obtain ⟨ps, hps, rfl⟩ := exists_pieces t h
  rw [ofText_textOf hps]
  exact ⟨rfl, hps⟩

/-- A brace in a plain piece is the second character of a tag. -/
theorem brace_mem_text {p : Piece} (hp : p.Plain) {before more : Text}
    (h : p.text = before ++ '{' :: more) : ∃ t, p = tag t ∧ before = [] ++ [t.mark] := by
  cases p with
  | char c =>
    have hmem : '{' ∈ [c] := by
      rw [show [c] = before ++ '{' :: more from h]
      simp
    exact absurd (List.mem_singleton.mp hmem).symm hp
  | tag t =>
    refine ⟨t, rfl, ?_⟩
    rw [text, Tag.text] at h
    cases before with
    | nil =>
      have hmark := Tag.ofMark?_mark t
      rw [(List.cons.inj h).1] at hmark
      cases hmark
    | cons c before =>
      cases before with
      | nil => rw [(List.cons.inj h).1, List.nil_append]
      | cons d before =>
        simp only [List.cons_append, List.cons.injEq] at h
        have hmem : '{' ∈ t.body ++ ['}'] := by
          rw [h.2.2]
          simp
        have hbody : '{' ∈ t.body := by simpa using hmem
        exact absurd hbody hp.brace

/-- In plain pieces every brace opens a tag. -/
theorem tagged_textOf : ∀ {ps : List Piece}, (∀ p ∈ ps, p.Plain) → Tagged (textOf ps)
  | [], _ => fun before after heq => by simp at heq
  | p :: ps, h => by
    have hp := h p (List.mem_cons_self ..)
    have ih := tagged_textOf fun q hq => h q (List.mem_cons_of_mem _ hq)
    intro before after heq
    rw [textOf_cons] at heq
    rcases List.append_eq_append_iff.mp heq with ⟨more, hbefore, hps⟩ | ⟨more, hp', hafter⟩
    · -- the brace stands behind the first piece
      obtain ⟨front, t, rest, hplain, rfl, htext⟩ := ih more after hps
      refine ⟨p.text ++ front, t, rest, hplain, by rw [hbefore, List.append_assoc], ?_⟩
      rw [textOf_cons, htext, List.append_assoc]
    · cases more with
      | nil =>
        rw [List.nil_append] at hafter
        exact absurd (by rw [← hafter]; rfl)
          (head_textOf fun q hq => h q (List.mem_cons_of_mem _ hq))
      | cons d more =>
        -- the brace stands in the first piece, which can only be a tag
        rw [List.cons_append, List.cons.injEq] at hafter
        obtain ⟨rfl, hafter⟩ := hafter
        obtain ⟨t, rfl, hbefore⟩ := brace_mem_text hp hp'
        exact ⟨[], t, textOf ps, hp, hbefore, rfl⟩

end Piece

end Templating
