import Templating.Proofs.Block
import Templating.Proofs.Text.Position

/-!
# Where the first block stands

The search for a block, said with the grammar of openings and with positions, and without the reader
of blocks: it takes the first opening of the text that has its closing somewhere behind it, whatever
openings without a closing stand before, and ends the block at the first such closing.

* `Opening.Spelled`, `Opening.StandsAt` — the grammar of openings, and an opening in a text;
* `Block.ParamOf` — the parameter of a placeholder;
* `Block.closed_iff` — a block begins where an opening stands that is closed later;
* `Block.FirstAt`, `Block.find?_firstAt` — the block that is found.
-/

namespace Templating

-- ---------------------------------------------------------------------------
-- Openings
-- ---------------------------------------------------------------------------

namespace Opening

/-- What the text between the braces of an opening says. A mark of negation in front is taken off;
what is left is a name without colon, alone or with a colon and something more behind it. -/
structure Spelled (o : Opening) (body : Text) : Prop where
  negated : o.negated = true ↔ body.head? = some '!'
  placeholder : o.placeholder = if o.negated then body.tail else body
  name : ':' ∉ o.name
  param : o.placeholder = o.name ∨ ∃ rest, rest ≠ [] ∧ o.placeholder = o.name ++ ':' :: rest

/-- An opening stands at the byte `start` of a text: its mark and a brace, and up to the first
closing brace what it says. Behind that brace is the byte `stop`. -/
def StandsAt (o : Opening) (t : Text) (start stop : Nat) : Prop :=
  ∃ body rest, Text.At t start (o.kind.mark :: '{' :: (body ++ '}' :: rest)) ∧ '}' ∉ body ∧
    o.Spelled body ∧ Text.At t stop rest

theorem Spelled.body_eq {o : Opening} {body : Text} (h : o.Spelled body) : o.body = body := by
  have hplaceholder := h.placeholder
  rw [Opening.body]
  cases hnegated : o.negated with
  | true =>
    obtain ⟨rest, rfl⟩ := List.head?_eq_some_iff.mp (h.negated.mp hnegated)
    rw [hnegated] at hplaceholder
    rw [if_pos rfl, hplaceholder, if_pos rfl]
    rfl
  | false =>
    rw [hnegated] at hplaceholder
    simpa using hplaceholder

/-- The grammar says the same as the form of what is read. -/
theorem spelled_iff {o : Opening} {body : Text} (hbrace : '}' ∉ body) :
    o.Spelled body ↔ o.WellFormed ∧ o.body = body := by
  constructor
  · intro h
    refine ⟨⟨?_, h.name, h.param, ?_⟩, h.body_eq⟩
    · intro hmem
      rw [← h.body_eq, Opening.body] at hbrace
      exact hbrace (List.mem_append_right _ hmem)
    · intro hnegated hhead
      have hplaceholder := h.placeholder
      rw [hnegated] at hplaceholder
      rw [show o.placeholder = body by simpa using hplaceholder] at hhead
      rw [h.negated.mpr hhead] at hnegated
      cases hnegated
  · rintro ⟨hwf, rfl⟩
    rw [Opening.body]
    cases hnegated : o.negated with
    | true => exact ⟨by simp [hnegated], by simp [hnegated], hwf.colon, hwf.placeholder⟩
    | false =>
      have hhead := hwf.negated hnegated
      exact ⟨by simp [hnegated, hhead], by simp [hnegated], hwf.colon, hwf.placeholder⟩

theorem standsAt_iff {o : Opening} {t : Text} {start stop : Nat} :
    o.StandsAt t start stop ↔
      o.WellFormed ∧ ∃ rest, Text.At t start (o.text ++ rest) ∧ Text.At t stop rest := by
  have htext : ∀ rest, o.text ++ rest = o.kind.mark :: '{' :: (o.body ++ '}' :: rest) := by
    intro rest
    rw [text_eq]
    simp
  constructor
  · rintro ⟨body, rest, hat, hbrace, hspelled, hstop⟩
    obtain ⟨hwf, rfl⟩ := (spelled_iff hbrace).mp hspelled
    exact ⟨hwf, rest, htext rest ▸ hat, hstop⟩
  · rintro ⟨hwf, rest, hat, hstop⟩
    have hbrace := hwf.body_brace
    exact ⟨o.body, rest, htext rest ▸ hat, hbrace, (spelled_iff hbrace).mpr ⟨hwf, rfl⟩, hstop⟩

end Opening

namespace Block

-- ---------------------------------------------------------------------------
-- Parameters
-- ---------------------------------------------------------------------------

/-- The parameter of a placeholder is what stands between its first colon and the next one or, if
there is no other, its end. -/
inductive ParamOf : Text → Option Text → Prop
  | absent {placeholder : Text} : ':' ∉ placeholder → ParamOf placeholder none
  | last {name param : Text} : ':' ∉ name → ':' ∉ param →
      ParamOf (name ++ ':' :: param) (some param)
  | between {name param rest : Text} : ':' ∉ name → ':' ∉ param →
      ParamOf (name ++ ':' :: (param ++ ':' :: rest)) (some param)

theorem paramOf_iff {o : Opening} {param : Option Text} :
    ParamOf o.placeholder param ↔ param = o.param := by
  rw [Opening.param]
  constructor
  · generalize o.placeholder = placeholder
    intro h
    cases h with
    | absent hcolon => rw [Text.cut?_eq_none_iff.mpr hcolon]; rfl
    | last hname hparam =>
      have hrest := Text.cut?_eq_none_iff.mpr hparam
      simp only [Text.cut?_append hname, Option.map_some, hrest]
    | between hname hparam =>
      simp only [Text.cut?_append hname, Option.map_some, Text.cut?_append hparam]
  · rintro rfl
    cases hcut : Text.cut? ':' o.placeholder with
    | none => exact .absent (Text.cut?_eq_none_iff.mp hcut)
    | some parts =>
      obtain ⟨name, rest⟩ := parts
      obtain ⟨hplaceholder, hname⟩ := Text.cut?_eq_some_iff.mp hcut
      rw [hplaceholder, Option.map_some]
      cases hcut' : Text.cut? ':' rest with
      | none =>
        simp only [hcut']
        exact .last hname (Text.cut?_eq_none_iff.mp hcut')
      | some parts =>
        obtain ⟨param, more⟩ := parts
        simp only [hcut']
        obtain ⟨rfl, hparam⟩ := Text.cut?_eq_some_iff.mp hcut'
        exact .between hname hparam

-- ---------------------------------------------------------------------------
-- Blocks
-- ---------------------------------------------------------------------------

/-- A block begins where an opening stands that has its closing behind it. -/
theorem closed_iff {t rest : Text} {start : Nat} (hat : Text.At t start rest) :
    Begins rest ↔ ∃ (o : Opening) (stop : Nat), o.StandsAt t start stop ∧
      ∃ i, stop ≤ i ∧ Text.OccursAt o.closing t i := by
  constructor
  · rintro ⟨o, after, hwf, rfl, hclosing⟩
    have hafter := hat.append
    exact ⟨o, _, Opening.standsAt_iff.mpr ⟨hwf, after, hat, hafter⟩, hafter.infix_iff.mp hclosing⟩
  · rintro ⟨o, stop, hstands, hclosing⟩
    obtain ⟨hwf, after, hstart, hstop⟩ := Opening.standsAt_iff.mp hstands
    exact ⟨o, after, hwf, hat.unique hstart, hstop.infix_iff.mpr hclosing⟩

/-- The first block of a text, with the bytes at which it begins and ends, and between them those at
which its opening ends and its closing begins. -/
structure FirstAt (b : Block) (t : Text) (start tagEnd close stop : Nat) : Prop where
  opening : b.opening.StandsAt t start tagEnd
  /-- No opening before it has its closing behind it. -/
  leftmost : ∀ (o : Opening) (i j : Nat), o.StandsAt t i j →
    (∃ k, j ≤ k ∧ Text.OccursAt o.closing t k) → start ≤ i
  closing : ∃ rest, Text.At t close (b.opening.closing ++ rest) ∧ Text.At t stop rest
  /-- No closing between its opening and this one. -/
  shortest : ∀ i, tagEnd ≤ i → Text.OccursAt b.opening.closing t i → close ≤ i
  content : ∃ rest, Text.At t tagEnd (b.content ++ rest) ∧ Text.At t close rest
  param : ParamOf b.placeholder b.param

/-- A block that the search finds is the first one. -/
theorem firstAt_of_find? {t before after : Text} {b : Block}
    (h : find? t = some ⟨before, b, after⟩) :
    b.FirstAt t (Text.byteSize before) (Text.byteSize before + Text.byteSize b.opening.text)
      (Text.byteSize before + Text.byteSize b.opening.text + Text.byteSize b.content)
      (Text.byteSize t - Text.byteSize after) := by
  obtain ⟨ht, hwf, hno⟩ := find?_eq_some_iff.mp h
  rw [List.append_assoc] at ht
  have hwhole : Text.At t 0 (before ++ (b.text ++ after)) := ⟨[], ht, rfl⟩
  have hstart : Text.At t (Text.byteSize before)
      (b.opening.text ++ (b.content ++ (b.opening.closing ++ after))) := by
    have hblock := hwhole.append
    rw [Nat.zero_add, text, List.append_assoc, List.append_assoc] at hblock
    exact hblock
  have hcontent := hstart.append
  have hclose := hcontent.append
  have hstop := hclose.append
  have hend : Text.byteSize before + Text.byteSize b.opening.text + Text.byteSize b.content +
      Text.byteSize b.opening.closing = Text.byteSize t - Text.byteSize after := by
    have hsize := hstop.byteSize
    omega
  refine
    { opening := Opening.standsAt_iff.mpr ⟨hwf.opening, _, hstart, hcontent⟩
      leftmost := ?_
      closing := ⟨after, hclose, hend ▸ hstop⟩
      shortest := ?_
      content := ⟨_, hcontent, hclose⟩
      param := paramOf_iff.mpr hwf.param }
  · intro o i j hstands hclosing
    obtain ⟨-, rest, hat, -⟩ := Opening.standsAt_iff.mp hstands
    have hbegins := (closed_iff hat).mpr ⟨o, j, hstands, hclosing⟩
    by_contra hlt
    exact (Text.nowhere_iff_at hwhole).mp hno i _ hat (Nat.zero_le i) (by omega) hbegins
  · rintro i hle ⟨rest, hat⟩
    by_contra hlt
    have hnowhere : Text.Nowhere (b.opening.closing <+: ·) b.content
        (b.opening.closing ++ after) := Text.nowhere_self_append_iff.mpr hwf.content
    exact (Text.nowhere_iff_at hcontent).mp hnowhere i _ hat hle (by omega)
      (List.prefix_append ..)

/-- The first block is found. -/
theorem find?_of_firstAt {t : Text} {b : Block} {start tagEnd close stop : Nat}
    (h : b.FirstAt t start tagEnd close stop) :
    ∃ found, find? t = some found ∧ found.span t = (start, stop) ∧ found.block = b := by
  obtain ⟨hwf, rest, hstart, htag⟩ := Opening.standsAt_iff.mp h.opening
  obtain ⟨more, hcontent, hclose⟩ := h.content
  obtain ⟨after, hclose', hstop⟩ := h.closing
  obtain rfl := htag.unique hcontent
  obtain rfl := hclose.unique hclose'
  have hsize := hstop.byteSize
  have hclosed : close = tagEnd + Text.byteSize b.content := by
    have hsize' := hcontent.append.byteSize
    have hsize'' := hclose.byteSize
    omega
  obtain ⟨before, ht, rfl⟩ := hstart
  have hwhole : Text.At t 0 (before ++ (b.text ++ after)) :=
    ⟨[], by rw [ht, text]; simp, rfl⟩
  have hnowhere : Text.Nowhere Begins before (b.text ++ after) := by
    rw [Text.nowhere_iff_at hwhole]
    intro i r hat _ hlt hbegins
    obtain ⟨o, j, hstands, hclosing⟩ := (closed_iff hat).mp hbegins
    have hle := h.leftmost o i j hstands hclosing
    omega
  have hcontent' : Text.Nowhere (b.opening.closing <+: ·) b.content b.opening.closing := by
    refine Text.nowhere_self_append_iff.mp ((Text.nowhere_iff_at hcontent).mpr ?_)
    rintro i r hat hle hlt ⟨tail, rfl⟩
    have hle' := h.shortest i hle ⟨tail, hat⟩
    omega
  refine ⟨⟨before, b, after⟩, find?_eq_some_iff.mpr ⟨?_, ⟨hwf, ?_, hcontent'⟩, hnowhere⟩, ?_, rfl⟩
  · rw [ht, text]
    simp
  · exact paramOf_iff.mp h.param
  · have hspan : Text.byteSize t - Text.byteSize after = stop := by omega
    exact Prod.ext rfl hspan

/-- **The search finds the leftmost block that is closed, with the shortest content.** It finds none
exactly if no opening has its closing behind it; and otherwise the block between two bytes exactly
if it is the first one there. -/
theorem find?_firstAt (t : Text) :
    (find? t = none ↔ ∀ (o : Opening) (start tagEnd : Nat), o.StandsAt t start tagEnd →
      ∀ i, tagEnd ≤ i → ¬ Text.OccursAt o.closing t i) ∧
    ∀ (b : Block) (start stop : Nat),
      (∃ found, find? t = some found ∧ found.span t = (start, stop) ∧ found.block = b) ↔
        ∃ tagEnd close, b.FirstAt t start tagEnd close stop := by
  constructor
  · have hnil : ¬ Begins [] := fun h => by
      obtain ⟨kind, rest, heq⟩ := h.marked
      cases heq
    rw [find?_eq_none_iff, Text.nowhere_nil_iff_at hnil]
    constructor
    · intro hno o start tagEnd hstands i hle hoccurs
      obtain ⟨-, rest, hat, -⟩ := Opening.standsAt_iff.mp hstands
      exact hno start _ hat ((closed_iff hat).mpr ⟨o, tagEnd, hstands, i, hle, hoccurs⟩)
    · intro hno start rest hat hbegins
      obtain ⟨o, tagEnd, hstands, i, hle, hoccurs⟩ := (closed_iff hat).mp hbegins
      exact hno o start tagEnd hstands i hle hoccurs
  · intro b start stop
    constructor
    · rintro ⟨⟨before, b', after⟩, hfound, hspan, rfl⟩
      obtain ⟨rfl, rfl⟩ := Prod.mk.injEq .. ▸ hspan
      exact ⟨_, _, firstAt_of_find? hfound⟩
    · rintro ⟨tagEnd, close, hfirst⟩
      exact find?_of_firstAt hfirst

/-- The loop is never closed, so the conditional behind it is the first block. Its content has
another opening of the same form: `é#{a}?{!b:c:d}x?{b}?{/b}`. -/
theorem find?_firstAt_unclosed :
    ∃ tagEnd close, (⟨.conditional, true, "b:c:d".toList, "b".toList, some "c".toList,
        "x?{b}".toList⟩ : Block).FirstAt
      "é#{a}?{!b:c:d}x?{b}?{/b}".toList 6 tagEnd close 25 :=
  ((find?_firstAt _).2 _ 6 25).mp ⟨_, rfl, by decide, by decide⟩

end Block

end Templating
