import Templating.Proofs.Text.Search
import Templating.Tag

/-!
# Reading tags

The reader of inline tags is the inverse of the printer `Tag.text`, and the search for a tag finds
the leftmost place where one begins.

* `Tag.WellFormed` — what the grammar allows between the braces;
* `Tag.at?_eq_some_iff` — a tag is read exactly where its text stands;
* `Tag.find?_eq_some_iff`, `Tag.find?_eq_none_iff` — the search, by what begins nowhere;
* `Tag.Inert` — a text that no tag begins in, whatever follows; `Tag.inert_splitOpen` says that the
  part before the first open end is one.
-/

namespace Templating.Tag

-- ---------------------------------------------------------------------------
-- Reading and writing
-- ---------------------------------------------------------------------------

/-- The grammar of tags: a path, and a filter that is not empty. -/
structure WellFormed (tag : Tag) : Prop where
  path_brace : '}' ∉ tag.path
  path_bar : '|' ∉ tag.path
  filter : ∀ filter ∈ tag.filter, filter ≠ [] ∧ '}' ∉ filter ∧ '|' ∉ filter

instance (tag : Tag) : Decidable tag.WellFormed :=
  decidable_of_iff ('}' ∉ tag.path ∧ '|' ∉ tag.path ∧
      ∀ filter ∈ tag.filter, filter ≠ [] ∧ '}' ∉ filter ∧ '|' ∉ filter)
    ⟨fun ⟨hbrace, hbar, hfilter⟩ => ⟨hbrace, hbar, hfilter⟩,
      fun ⟨hbrace, hbar, hfilter⟩ => ⟨hbrace, hbar, hfilter⟩⟩

/-- The text begins with a tag. -/
def Begins (t : Text) : Prop := ∃ tag : Tag, tag.WellFormed ∧ tag.text <+: t

theorem ofMark?_eq_some_iff {c : Char} {escaped : Bool} :
    ofMark? c = some escaped ↔ c = if escaped then '$' else '%' := by
  rw [ofMark?]
  by_cases hd : c = '$'
  · subst hd
    cases escaped <;> decide
  · rw [if_neg hd]
    by_cases hp : c = '%'
    · subst hp
      cases escaped <;> decide
    · rw [if_neg hp]
      cases escaped <;> simp [hd, hp]

@[simp] theorem ofMark?_mark (tag : Tag) : ofMark? tag.mark = some tag.escaped :=
  ofMark?_eq_some_iff.mpr rfl

theorem WellFormed.body_brace {tag : Tag} (h : tag.WellFormed) : '}' ∉ tag.body := by
  obtain ⟨hpath, -, hfilter⟩ := h
  rw [body]
  cases hf : tag.filter with
  | none => exact hpath
  | some filter =>
    have hbrace := (hfilter filter hf).2.1
    simp [hpath, hbrace]

theorem ofBody?_path {escaped : Bool} {path : Text} (h : '|' ∉ path) :
    ofBody? escaped path = some ⟨escaped, path, none⟩ := by
  rw [ofBody?, Text.cut?_eq_none_iff.mpr h]

theorem ofBody?_body {tag : Tag} (h : tag.WellFormed) :
    ofBody? tag.escaped tag.body = some tag := by
  obtain ⟨escaped, path, filter⟩ := tag
  cases filter with
  | none => exact ofBody?_path h.path_bar
  | some filter =>
    obtain ⟨hne, -, hbar⟩ := h.filter filter rfl
    show ofBody? escaped (path ++ '|' :: filter) = _
    rw [ofBody?, Text.cut?_append h.path_bar]
    simp [hne, hbar]

/-- What is read off a text without a closing brace is well-formed and has that text as its
body. -/
theorem ofBody?_eq_some {escaped : Bool} {t : Text} {tag : Tag} (hbrace : '}' ∉ t)
    (h : ofBody? escaped t = some tag) :
    tag.escaped = escaped ∧ tag.body = t ∧ tag.WellFormed := by
  rw [ofBody?] at h
  cases hcut : Text.cut? '|' t with
  | none =>
    rw [hcut] at h
    cases h
    exact ⟨rfl, rfl, hbrace, Text.cut?_eq_none_iff.mp hcut, fun _ hf => by cases hf⟩
  | some parts =>
    obtain ⟨path, filter⟩ := parts
    obtain ⟨rfl, hpath⟩ := Text.cut?_eq_some_iff.mp hcut
    rw [hcut] at h
    simp only at h
    split at h
    · cases h
    · rename_i hfilter
      push Not at hfilter
      cases h
      simp only [List.mem_append, List.mem_cons, not_or] at hbrace
      refine ⟨rfl, rfl, hbrace.1, hpath, fun f hf => ?_⟩
      cases hf
      exact ⟨hfilter.1, hbrace.2.2, hfilter.2⟩

/-- A tag is read exactly where the text of a well-formed one stands. -/
theorem at?_eq_some_iff {t rest : Text} {tag : Tag} :
    at? t = some (tag, rest) ↔ t = tag.text ++ rest ∧ tag.WellFormed := by
  constructor
  · intro h
    unfold at? at h
    split at h
    · rename_i mark tail
      simp only [Option.bind_eq_bind, Option.bind_eq_some_iff, Option.pure_def,
        Option.some.injEq, Prod.mk.injEq, Prod.exists] at h
      obtain ⟨escaped, hmark, body, after, hcut, tag', hbody, rfl, rfl⟩ := h
      obtain ⟨rfl, hbrace⟩ := Text.cut?_eq_some_iff.mp hcut
      obtain ⟨rfl, rfl, hwf⟩ := ofBody?_eq_some hbrace hbody
      refine ⟨?_, hwf⟩
      rw [ofMark?_eq_some_iff.mp hmark, text, Tag.mark]
      simp
    · cases h
  · rintro ⟨rfl, hwf⟩
    have hcut : Text.cut? '}' (tag.body ++ '}' :: rest) = some (tag.body, rest) :=
      Text.cut?_append hwf.body_brace rest
    rw [text, List.cons_append, List.cons_append, List.append_assoc, List.singleton_append, at?,
      ofMark?_mark, hcut]
    simp [ofBody?_body hwf]

theorem at?_text {tag : Tag} (h : tag.WellFormed) (rest : Text) :
    at? (tag.text ++ rest) = some (tag, rest) :=
  at?_eq_some_iff.mpr ⟨rfl, h⟩

theorem at?_eq_none_iff {t : Text} : at? t = none ↔ ¬ Begins t := by
  rw [Option.eq_none_iff_forall_ne_some]
  constructor
  · rintro h ⟨tag, hwf, rest, rfl⟩
    exact h (tag, rest) (at?_text hwf rest)
  · rintro h ⟨tag, rest⟩ hat
    obtain ⟨rfl, hwf⟩ := at?_eq_some_iff.mp hat
    exact h ⟨tag, hwf, List.prefix_append ..⟩

/-- No text begins with two tags. -/
theorem text_prefix_unique {a b : Tag} (ha : a.WellFormed) (hb : b.WellFormed) {t : Text}
    (hat : a.text <+: t) (hbt : b.text <+: t) : a = b := by
  obtain ⟨x, rfl⟩ := hat
  obtain ⟨y, hy⟩ := hbt
  have h : at? (a.text ++ x) = some (b, y) := at?_eq_some_iff.mpr ⟨hy.symm, hb⟩
  rw [at?_text ha] at h
  cases h
  rfl

theorem mark_ne_brace (tag : Tag) : tag.mark ≠ '}' := by
  rw [mark]
  split <;> decide

theorem text_ne_nil (tag : Tag) : tag.text ≠ [] := by simp [text]

theorem Begins.mark {c : Char} {t : Text} : Begins (c :: t) → (ofMark? c).isSome
  | ⟨tag, _, rest, hrest⟩ => by
    obtain ⟨rfl, -⟩ := List.cons.inj hrest
    rw [ofMark?_mark]
    rfl

theorem Begins.bracing {t : Text} : Begins t → Text.Bracing t
  | ⟨tag, _, rest, hrest⟩ => ⟨tag.mark, tag.body ++ ['}'] ++ rest, hrest.symm⟩

theorem Begins.append {t : Text} : Begins t → ∀ more, Begins (t ++ more)
  | ⟨tag, hwf, hprefix⟩, _ => ⟨tag, hwf, hprefix.trans (List.prefix_append ..)⟩

-- ---------------------------------------------------------------------------
-- The leftmost tag
-- ---------------------------------------------------------------------------

theorem find?_eq_leftmost : ∀ t : Text,
    find? t = (Text.leftmost at? t).map fun (before, tag, after) => ⟨before, tag, after⟩
  | [] => rfl
  | c :: rest => by
    rw [find?, Text.leftmost]
    cases at? (c :: rest) with
    | some read => rfl
    | none =>
      simp only [find?_eq_leftmost rest, Option.map_map]
      rfl

theorem begins_iff {t : Text} : at? t ≠ none ↔ Begins t := by
  rw [Ne, at?_eq_none_iff, not_not]

theorem nowhere_begins_iff {before rest : Text} :
    Text.Nowhere (at? · ≠ none) before rest ↔ Text.Nowhere Begins before rest :=
  ⟨fun h => h.mono fun _ => begins_iff.mpr, fun h => h.mono fun _ => begins_iff.mp⟩

theorem find?_append_of_nowhere {before rest : Text} (h : Text.Nowhere Begins before rest) :
    find? (before ++ rest) =
      (find? rest).map fun found => { found with before := before ++ found.before } := by
  rw [find?_eq_leftmost, find?_eq_leftmost,
    Text.leftmost_append_of_nowhere (nowhere_begins_iff.mpr h), Option.map_map, Option.map_map]
  rfl

/-- There is no leftmost tag exactly if none begins anywhere. -/
theorem find?_eq_none_iff {t : Text} : find? t = none ↔ Text.Nowhere Begins t [] := by
  rw [find?_eq_leftmost, Option.map_eq_none_iff, Text.leftmost_eq_none_iff, nowhere_begins_iff]

/-- The leftmost tag is a well-formed tag such that none begins before it. -/
theorem find?_eq_some_iff {t before after : Text} {tag : Tag} :
    find? t = some ⟨before, tag, after⟩ ↔
      t = before ++ tag.text ++ after ∧ tag.WellFormed ∧
        Text.Nowhere Begins before (tag.text ++ after) := by
  rw [find?_eq_leftmost, Option.map_eq_some_iff]
  constructor
  · rintro ⟨⟨before', tag', after'⟩, hleft, heq⟩
    cases heq
    obtain ⟨rest, -, rfl, hat, hno⟩ := Text.leftmost_eq_some_iff.mp hleft
    obtain ⟨rfl, hwf⟩ := at?_eq_some_iff.mp hat
    exact ⟨(List.append_assoc ..).symm, hwf, nowhere_begins_iff.mp hno⟩
  · rintro ⟨rfl, hwf, hno⟩
    have hne : tag.text ++ after ≠ [] := by simp [text]
    exact ⟨(before, tag, after), Text.leftmost_eq_some_iff.mpr
      ⟨tag.text ++ after, hne, List.append_assoc .., at?_text hwf after,
        nowhere_begins_iff.mpr hno⟩, rfl⟩

-- ---------------------------------------------------------------------------
-- Texts that no tag begins in
-- ---------------------------------------------------------------------------

/-- No tag begins in the text, whatever follows it. -/
def Inert (t : Text) : Prop := ∀ rest, Text.Nowhere Begins t rest

@[simp] theorem inert_nil : Inert [] := fun _ => trivial

theorem Inert.append {a b : Text} (ha : Inert a) (hb : Inert b) : Inert (a ++ b) :=
  fun rest => Text.nowhere_append.mpr ⟨ha _, hb rest⟩

theorem isOpen_of_ne_brace {mark d : Char} {rest : Text} (hd : d ≠ '{') :
    isOpen (mark :: d :: rest) = ((ofMark? mark).isSome && isOpen (d :: rest)) :=
  isOpen.eq_4 _ _ (by simp) fun _ heq => hd (List.cons.inj heq).1

/-- Nothing closes an open end. -/
theorem brace_of_isOpen : ∀ {t : Text}, isOpen t = true → '}' ∉ t
  | [], h => by simp [isOpen] at h
  | [mark], h => by
    intro hmem
    rw [List.mem_singleton] at hmem
    subst hmem
    revert h
    decide
  | mark :: d :: rest, h => by
    by_cases hd : d = '{'
    · subst hd
      simp only [isOpen, Bool.and_eq_true, Bool.not_eq_true', List.contains_eq_mem,
        decide_eq_false_iff_not] at h
      obtain ⟨escaped, hmark⟩ := Option.isSome_iff_exists.mp h.1
      have hne : '}' ≠ mark := by
        rintro rfl
        cases hmark
      simp [hne, h.2]
    · rw [isOpen_of_ne_brace hd, Bool.and_eq_true] at h
      obtain ⟨escaped, hmark⟩ := Option.isSome_iff_exists.mp h.1
      have hne : '}' ≠ mark := by
        rintro rfl
        cases hmark
      rw [List.mem_cons, not_or]
      exact ⟨hne, brace_of_isOpen h.2⟩

/-- Whether a tag begins is decided by what stands before the first closing brace. -/
theorem at?_brace {mark : Char} {body : Text} (hbody : '}' ∉ body) (rest : Text) :
    at? (mark :: '{' :: (body ++ '}' :: rest)) =
      (ofMark? mark).bind fun escaped => (ofBody? escaped body).map fun tag => (tag, rest) := by
  rw [at?, Text.cut?_append hbody]
  cases ofMark? mark with
  | none => rfl
  | some escaped => cases h : ofBody? escaped body <;> simp [h]

theorem begins_brace {mark : Char} {body rest rest' : Text} (hbody : '}' ∉ body)
    (h : ¬ Begins (mark :: '{' :: (body ++ '}' :: rest))) :
    ¬ Begins (mark :: '{' :: (body ++ '}' :: rest')) := by
  rw [← at?_eq_none_iff, at?_brace hbody, Option.bind_eq_none_iff] at h ⊢
  intro escaped hmark
  have hnone := h escaped hmark
  rw [Option.map_eq_none_iff] at hnone ⊢
  exact hnone

theorem splitOpen_append : ∀ t : Text, (splitOpen t).1 ++ (splitOpen t).2 = t
  | [] => rfl
  | c :: rest => by
    rw [splitOpen]
    split
    · rfl
    · show c :: ((splitOpen rest).1 ++ (splitOpen rest).2) = c :: rest
      rw [splitOpen_append rest]

/-- No open end begins before a closing brace. -/
theorem splitOpen_brace (rest : Text) : ∀ before : Text,
    ∃ more, (splitOpen (before ++ '}' :: rest)).1 = before ++ '}' :: more
  | [] => ⟨(splitOpen rest).1, by
      have hopen : ¬ isOpen ('}' :: rest) = true := fun h =>
        brace_of_isOpen h (List.mem_cons_self ..)
      rw [List.nil_append, splitOpen, if_neg hopen]
      rfl⟩
  | c :: before => by
    obtain ⟨more, hmore⟩ := splitOpen_brace rest before
    have hopen : ¬ isOpen (c :: (before ++ '}' :: rest)) = true := fun h =>
      brace_of_isOpen h (by simp)
    refine ⟨more, ?_⟩
    rw [List.cons_append, splitOpen, if_neg hopen]
    show c :: (splitOpen (before ++ '}' :: rest)).1 = _
    rw [hmore]
    rfl

/-- A brace is no mark, so nothing is open at it. -/
theorem isOpen_brace : ∀ rest : Text, isOpen ('{' :: rest) = false
  | [] => by decide
  | d :: rest => by
    by_cases hd : d = '{'
    · subst hd
      simp [isOpen, ofMark?]
    · rw [isOpen_of_ne_brace hd]
      simp [ofMark?]

/-- Where neither a tag nor an open end begins, none begins whatever takes the place of the open
part. -/
theorem not_begins_splitOpen {c : Char} {rest : Text} (hopen : isOpen (c :: rest) = false)
    (htag : ¬ Begins (c :: rest)) (x : Text) : ¬ Begins (c :: ((splitOpen rest).1 ++ x)) := by
  intro hbegins
  have hmark := hbegins.mark
  cases rest with
  | nil =>
    -- the text is the one character, which is no mark
    rw [show (ofMark? c).isSome = false from hopen] at hmark
    cases hmark
  | cons d rest =>
    by_cases hd : d = '{'
    · subst hd
      have hsplit : (splitOpen ('{' :: rest)).1 = '{' :: (splitOpen rest).1 := by
        rw [splitOpen, isOpen_brace, if_neg Bool.false_ne_true]
      rw [hsplit, List.cons_append] at hbegins
      have hbrace : '}' ∈ rest := by
        simpa [isOpen, hmark] using hopen
      obtain ⟨body, after, hcut⟩ : ∃ body after, Text.cut? '}' rest = some (body, after) := by
        cases h : Text.cut? '}' rest with
        | none => exact absurd hbrace (Text.cut?_eq_none_iff.mp h)
        | some parts => exact ⟨parts.1, parts.2, rfl⟩
      obtain ⟨rfl, hbody⟩ := Text.cut?_eq_some_iff.mp hcut
      obtain ⟨more, hmore⟩ := splitOpen_brace after body
      rw [hmore, List.append_assoc, List.cons_append] at hbegins
      exact begins_brace hbody htag hbegins
    · by_cases hnext : isOpen (d :: rest) = true
      · -- a mark before an open end would be open itself
        rw [isOpen_of_ne_brace hd, hnext, Bool.and_true, hmark] at hopen
        cases hopen
      · have hsplit : (splitOpen (d :: rest)).1 = d :: (splitOpen rest).1 := by
          rw [splitOpen, if_neg hnext]
        rw [hsplit, List.cons_append] at hbegins
        refine Text.not_bracing_cons ?_ hbegins.bracing
        exact fun heq => hd (Option.some.inj heq)

/-- The part of a text without tags that stands before its first open end is inert. -/
theorem inert_splitOpen : ∀ {t : Text}, Text.Nowhere Begins t [] → Inert (splitOpen t).1
  | [], _ => inert_nil
  | c :: rest, ⟨hc, hrest⟩ => by
    rw [List.append_nil] at hc
    rw [splitOpen]
    split
    · exact inert_nil
    · rename_i hopen
      rw [Bool.not_eq_true] at hopen
      intro x
      exact ⟨not_begins_splitOpen hopen hc x, inert_splitOpen hrest x⟩

end Templating.Tag
