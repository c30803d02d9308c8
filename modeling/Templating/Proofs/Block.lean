import Templating.Block
import Templating.Proofs.Text.Search

/-!
# Reading blocks

The reader of blocks is the inverse of the printer `Block.text`: an opening is read where its text
stands, and a block is a well-formed opening up to the first closing of its form.

* `Opening.WellFormed` — what the grammar allows in an opening;
* `Opening.at?_eq_some_iff` — an opening is read exactly where its text stands;
* `Block.Begins` — an opening with a closing somewhere behind it, which is all a block needs;
* `Block.find?_eq_some_iff`, `Block.find?_eq_none_iff` — the search, by what begins nowhere.
-/

namespace Templating

namespace BlockKind

theorem ofMark?_eq_some_iff {c : Char} {kind : BlockKind} :
    ofMark? c = some kind ↔ c = kind.mark := by
  constructor
  · intro h
    have hfound := List.find?_some h
    rw [decide_eq_true_eq] at hfound
    exact hfound.symm
  · rintro rfl
    cases kind <;> rfl

theorem mark_injective {a b : BlockKind} (h : a.mark = b.mark) : a = b := by
  have hmark := ofMark?_eq_some_iff.mpr h
  rw [ofMark?_eq_some_iff.mpr rfl] at hmark
  exact Option.some.inj hmark

/-- No mark is a character that the grammar of tags uses. -/
theorem mark_plain (kind : BlockKind) :
    kind.mark ≠ '}' ∧ kind.mark ≠ '{' ∧ kind.mark ≠ '%' ∧ kind.mark ≠ '$' := by
  cases kind <;> decide

end BlockKind

namespace Opening

-- ---------------------------------------------------------------------------
-- Openings
-- ---------------------------------------------------------------------------

/-- The grammar of openings: a name, or a name and a parameter that is not empty. -/
structure WellFormed (o : Opening) : Prop where
  brace : '}' ∉ o.placeholder
  colon : ':' ∉ o.name
  placeholder : o.placeholder = o.name ∨
    ∃ param, param ≠ [] ∧ o.placeholder = o.name ++ ':' :: param
  /-- A mark of negation is not part of a name. -/
  negated : o.negated = false → o.placeholder.head? ≠ some '!'

/-- What stands between the braces of an opening. -/
def body (o : Opening) : Text := (if o.negated then ['!'] else []) ++ o.placeholder

theorem text_eq (o : Opening) : o.text = o.kind.mark :: '{' :: (o.body ++ ['}']) := by
  rw [text, body]

theorem text_ne_nil (o : Opening) : o.text ≠ [] := by simp [text]

theorem closing_ne_nil (o : Opening) : o.closing ≠ [] := by simp [closing]

theorem WellFormed.name_prefix {o : Opening} (h : o.WellFormed) : o.name <+: o.placeholder := by
  rcases h.placeholder with heq | ⟨param, -, heq⟩
  · exact heq ▸ List.prefix_refl _
  · exact heq ▸ List.prefix_append ..

theorem WellFormed.name_brace {o : Opening} (h : o.WellFormed) : '}' ∉ o.name :=
  fun hmem => h.brace (h.name_prefix.subset hmem)

theorem WellFormed.body_brace {o : Opening} (h : o.WellFormed) : '}' ∉ o.body := by
  have hbrace := h.brace
  rw [body]
  split <;> simp [hbrace]

/-- The opening with another parameter. -/
def withParam (o : Opening) (param : Text) : Opening :=
  { o with placeholder := o.name ++ ':' :: param }

theorem WellFormed.withParam {o : Opening} (h : o.WellFormed) {param : Text} (hne : param ≠ [])
    (hbrace : '}' ∉ param) : (o.withParam param).WellFormed where
  brace := by
    show '}' ∉ o.name ++ ':' :: param
    simp [h.name_brace, hbrace]
  colon := h.colon
  placeholder := .inr ⟨param, hne, rfl⟩
  negated := by
    intro hnegated
    have hold := h.negated hnegated
    show (o.name ++ ':' :: param).head? ≠ some '!'
    -- the placeholder begins as it did, with the name or with a colon
    cases hname : o.name with
    | nil => simp
    | cons c name =>
      obtain ⟨rest, hrest⟩ := h.name_prefix
      rw [← hrest, hname] at hold
      exact hold

/-- The opening with a placeholder, divided at the first colon. -/
def ofPlaceholder? (kind : BlockKind) (negated : Bool) (placeholder : Text) : Option Opening :=
  match Text.cut? ':' placeholder with
  | none => some ⟨kind, negated, placeholder, placeholder⟩
  | some (name, param) => if param = [] then none else some ⟨kind, negated, placeholder, name⟩

theorem ofBody?_bang (kind : BlockKind) (placeholder : Text) :
    ofBody? kind ('!' :: placeholder) = ofPlaceholder? kind true placeholder := rfl

theorem ofBody?_plain (kind : BlockKind) {placeholder : Text} (h : placeholder.head? ≠ some '!') :
    ofBody? kind placeholder = ofPlaceholder? kind false placeholder := by
  unfold ofBody?
  split
  rename_i heq
  split at heq
  · exact absurd rfl h
  · cases heq
    rfl

theorem ofPlaceholder?_placeholder {o : Opening} (h : o.WellFormed) :
    ofPlaceholder? o.kind o.negated o.placeholder = some o := by
  rw [ofPlaceholder?]
  rcases h.placeholder with heq | ⟨param, hne, heq⟩
  · rw [Text.cut?_eq_none_iff.mpr (heq ▸ h.colon)]
    show some ⟨o.kind, o.negated, o.placeholder, o.placeholder⟩ = some o
    rw [Option.some.injEq, Opening.mk.injEq]
    exact ⟨rfl, rfl, rfl, heq⟩
  · have hcut : Text.cut? ':' o.placeholder = some (o.name, param) :=
      heq ▸ Text.cut?_append h.colon param
    rw [hcut]
    exact if_neg hne

theorem ofPlaceholder?_eq_some {kind : BlockKind} {negated : Bool} {placeholder : Text}
    {o : Opening} (hbrace : '}' ∉ placeholder)
    (hhead : negated = false → placeholder.head? ≠ some '!')
    (h : ofPlaceholder? kind negated placeholder = some o) :
    o.kind = kind ∧ o.negated = negated ∧ o.placeholder = placeholder ∧ o.WellFormed := by
  rw [ofPlaceholder?] at h
  cases hcut : Text.cut? ':' placeholder with
  | none =>
    rw [hcut] at h
    cases h
    exact ⟨rfl, rfl, rfl, hbrace, Text.cut?_eq_none_iff.mp hcut, .inl rfl, hhead⟩
  | some parts =>
    obtain ⟨name, param⟩ := parts
    obtain ⟨rfl, hname⟩ := Text.cut?_eq_some_iff.mp hcut
    rw [hcut] at h
    simp only at h
    split at h
    · cases h
    · rename_i hne
      cases h
      exact ⟨rfl, rfl, rfl, hbrace, hname, .inr ⟨param, hne, rfl⟩, hhead⟩

theorem ofBody?_body {o : Opening} (h : o.WellFormed) : ofBody? o.kind o.body = some o := by
  have hread := ofPlaceholder?_placeholder h
  rw [body]
  cases hnegated : o.negated with
  | true =>
    rw [hnegated] at hread
    exact hread
  | false =>
    rw [hnegated] at hread
    exact (ofBody?_plain o.kind (h.negated hnegated)).trans hread

/-- What is read off a text without a closing brace is well-formed and has that text as its
body. -/
theorem ofBody?_eq_some {kind : BlockKind} {t : Text} {o : Opening} (hbrace : '}' ∉ t)
    (h : ofBody? kind t = some o) : o.kind = kind ∧ o.body = t ∧ o.WellFormed := by
  by_cases hhead : t.head? = some '!'
  · obtain ⟨rest, rfl⟩ := List.head?_eq_some_iff.mp hhead
    rw [List.mem_cons, not_or] at hbrace
    obtain ⟨hkind, hnegated, hplaceholder, hwf⟩ :=
      ofPlaceholder?_eq_some hbrace.2 (fun hfalse => by cases hfalse) (ofBody?_bang kind rest ▸ h)
    exact ⟨hkind, by rw [body, hnegated, hplaceholder]; rfl, hwf⟩
  · obtain ⟨hkind, hnegated, hplaceholder, hwf⟩ :=
      ofPlaceholder?_eq_some hbrace (fun _ => hhead) (ofBody?_plain kind hhead ▸ h)
    exact ⟨hkind, by rw [body, hnegated, hplaceholder]; rfl, hwf⟩

/-- An opening is read exactly where the text of a well-formed one stands. -/
theorem at?_eq_some_iff {t rest : Text} {o : Opening} :
    at? t = some (o, rest) ↔ t = o.text ++ rest ∧ o.WellFormed := by
  constructor
  · intro h
    unfold at? at h
    split at h
    · rename_i mark tail
      simp only [Option.bind_eq_bind, Option.bind_eq_some_iff, Option.pure_def,
        Option.some.injEq, Prod.mk.injEq, Prod.exists] at h
      obtain ⟨kind, hmark, body, after, hcut, o', hbody, rfl, rfl⟩ := h
      obtain ⟨rfl, hbrace⟩ := Text.cut?_eq_some_iff.mp hcut
      obtain ⟨rfl, rfl, hwf⟩ := ofBody?_eq_some hbrace hbody
      refine ⟨?_, hwf⟩
      rw [BlockKind.ofMark?_eq_some_iff.mp hmark, text_eq]
      simp
    · cases h
  · rintro ⟨rfl, hwf⟩
    have hcut : Text.cut? '}' (o.body ++ '}' :: rest) = some (o.body, rest) :=
      Text.cut?_append hwf.body_brace rest
    rw [text_eq, List.cons_append, List.cons_append, List.append_assoc, List.singleton_append,
      at?, BlockKind.ofMark?_eq_some_iff.mpr rfl, hcut]
    simp [ofBody?_body hwf]

theorem at?_text {o : Opening} (h : o.WellFormed) (rest : Text) :
    at? (o.text ++ rest) = some (o, rest) :=
  at?_eq_some_iff.mpr ⟨rfl, h⟩

end Opening

namespace Block

-- ---------------------------------------------------------------------------
-- Blocks
-- ---------------------------------------------------------------------------

/-- A block that can stand in a text: its opening is well-formed, its parameter is that of the
opening, and it ends at the first closing of its form. -/
structure WellFormed (b : Block) : Prop where
  opening : b.opening.WellFormed
  param : b.param = b.opening.param
  content : Text.Nowhere (b.opening.closing <+: ·) b.content b.opening.closing

/-- The text begins with an opening that has a closing behind it. -/
def Begins (t : Text) : Prop :=
  ∃ (o : Opening) (rest : Text), o.WellFormed ∧ t = o.text ++ rest ∧ o.closing <:+: rest

theorem opening_block (o : Opening) (content : Text) : (o.block content).opening = o := rfl

theorem block_opening {b : Block} (h : b.param = b.opening.param) :
    b.opening.block b.content = b := by
  obtain ⟨kind, negated, placeholder, name, param, content⟩ := b
  rw [Opening.block, ← h]
  rfl

/-- A block is read exactly where the text of a well-formed one stands. -/
theorem at?_eq_some_iff {t after : Text} {b : Block} :
    at? t = some (b, after) ↔ t = b.text ++ after ∧ b.WellFormed := by
  rw [at?]
  simp only [Option.bind_eq_bind, Option.bind_eq_some_iff, Option.pure_def, Option.some.injEq,
    Prod.mk.injEq, Prod.exists]
  constructor
  · rintro ⟨o, rest, hopen, content, after', hcut, rfl, rfl⟩
    obtain ⟨rfl, hwf⟩ := Opening.at?_eq_some_iff.mp hopen
    obtain ⟨rfl, hno⟩ := (Text.cutAt?_eq_some_iff o.closing_ne_nil).mp hcut
    refine ⟨?_, hwf, rfl, Text.nowhere_self_append_iff.mp hno⟩
    rw [text, opening_block]
    simp [Opening.block]
  · rintro ⟨rfl, hwf⟩
    refine ⟨b.opening, b.content ++ b.opening.closing ++ after, ?_, b.content, after, ?_,
      block_opening hwf.param, rfl⟩
    · rw [text, List.append_assoc, List.append_assoc, List.append_assoc]
      exact Opening.at?_text hwf.opening _
    · exact (Text.cutAt?_eq_some_iff (Opening.closing_ne_nil _)).mpr
        ⟨rfl, Text.nowhere_self_append_iff.mpr hwf.content⟩

theorem at?_text {b : Block} (h : b.WellFormed) (after : Text) :
    at? (b.text ++ after) = some (b, after) :=
  at?_eq_some_iff.mpr ⟨rfl, h⟩

/-- A block is read wherever an opening has a closing behind it. -/
theorem at?_eq_none_iff {t : Text} : at? t = none ↔ ¬ Begins t := by
  constructor
  · rintro h ⟨o, rest, hwf, rfl, hclosing⟩
    cases hcut : Text.cutAt? o.closing rest with
    | none => exact Text.cutAt?_eq_none_iff.mp hcut hclosing
    | some parts =>
      rw [at?, Opening.at?_text hwf] at h
      simp [hcut] at h
  · intro h
    rw [Option.eq_none_iff_forall_ne_some]
    rintro ⟨b, after⟩ hat
    obtain ⟨rfl, hwf⟩ := at?_eq_some_iff.mp hat
    refine h ⟨b.opening, b.content ++ b.opening.closing ++ after, hwf.opening, ?_, ?_⟩
    · rw [text, List.append_assoc, List.append_assoc, List.append_assoc]
    · exact ⟨b.content, after, rfl⟩

theorem begins_iff {t : Text} : at? t ≠ none ↔ Begins t := by
  rw [Ne, at?_eq_none_iff, not_not]

/-- The text begins as every opening and every closing does. -/
def Marked (t : Text) : Prop := ∃ (kind : BlockKind) (rest : Text), t = kind.mark :: '{' :: rest

theorem Marked.bracing {t : Text} : Marked t → Text.Bracing t
  | ⟨kind, rest, heq⟩ => ⟨kind.mark, rest, heq⟩

theorem Begins.marked {t : Text} : Begins t → Marked t
  | ⟨o, rest, _, heq, _⟩ => ⟨o.kind, o.body ++ ['}'] ++ rest, by rw [heq, Opening.text_eq]; rfl⟩

-- ---------------------------------------------------------------------------
-- The leftmost block
-- ---------------------------------------------------------------------------

theorem find?_eq_leftmost : ∀ t : Text,
    find? t = (Text.leftmost at? t).map fun (before, block, after) => ⟨before, block, after⟩
  | [] => rfl
  | c :: rest => by
    rw [find?, Text.leftmost]
    cases at? (c :: rest) with
    | some read => rfl
    | none =>
      simp only [find?_eq_leftmost rest, Option.map_map]
      rfl

theorem nowhere_begins_iff {before rest : Text} :
    Text.Nowhere (at? · ≠ none) before rest ↔ Text.Nowhere Begins before rest :=
  ⟨fun h => h.mono fun _ => begins_iff.mpr, fun h => h.mono fun _ => begins_iff.mp⟩

theorem find?_append_of_nowhere {before rest : Text} (h : Text.Nowhere Begins before rest) :
    find? (before ++ rest) =
      (find? rest).map fun found => { found with before := before ++ found.before } := by
  rw [find?_eq_leftmost, find?_eq_leftmost,
    Text.leftmost_append_of_nowhere (nowhere_begins_iff.mpr h), Option.map_map, Option.map_map]
  rfl

/-- There is no leftmost block exactly if none begins anywhere. -/
theorem find?_eq_none_iff {t : Text} : find? t = none ↔ Text.Nowhere Begins t [] := by
  rw [find?_eq_leftmost, Option.map_eq_none_iff, Text.leftmost_eq_none_iff, nowhere_begins_iff]

/-- The leftmost block is a well-formed block such that none begins before it. -/
theorem find?_eq_some_iff {t before after : Text} {b : Block} :
    find? t = some ⟨before, b, after⟩ ↔
      t = before ++ b.text ++ after ∧ b.WellFormed ∧
        Text.Nowhere Begins before (b.text ++ after) := by
  rw [find?_eq_leftmost, Option.map_eq_some_iff]
  constructor
  · rintro ⟨⟨before', b', after'⟩, hleft, heq⟩
    cases heq
    obtain ⟨rest, -, rfl, hat, hno⟩ := Text.leftmost_eq_some_iff.mp hleft
    obtain ⟨rfl, hwf⟩ := at?_eq_some_iff.mp hat
    exact ⟨(List.append_assoc ..).symm, hwf, nowhere_begins_iff.mp hno⟩
  · rintro ⟨rfl, hwf, hno⟩
    have hne : b.text ++ after ≠ [] := by simp [text, Opening.text]
    exact ⟨(before, b, after), Text.leftmost_eq_some_iff.mpr
      ⟨b.text ++ after, hne, List.append_assoc .., at?_text hwf after,
        nowhere_begins_iff.mpr hno⟩, rfl⟩

end Block

end Templating
