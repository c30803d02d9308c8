import Mathlib.Data.List.Nodup
import Templating.Proofs.Passes
import Templating.Proofs.Piece

/-!
# Rendering in one pass

As long as no value brings a brace, the passes over a text do what one walk over it does: literals
are copied, a tag is evaluated where it first occurs, and its text is used again wherever it
recurs. The evaluations are the same and come in the same order, with the same indents.

* `Run.onePass` — the walk, with the texts of the tags met so far;
* `Run.passes_eq_onePass` — the simulation: what is left of the text, with the known tags filled
  in, is the text of the passes;
* `Course.Orderly` — which tags are evaluated, and which failure is the outcome.
-/

namespace Templating

variable {σ : Type}

namespace Run

/-- Walks over pieces once. `memo` holds the texts of the tags met so far and `written` the output
up to here; `left` counts the tags that may still be evaluated without reaching the limit. -/
def onePass (maxPasses : Nat) (evaluate : Tag → Text → Run σ Text) :
    (left : Nat) → (memo : List (Tag × Text)) → (written : Text) → List Piece → Store σ → Course σ
  | _, _, written, [], s => ⟨[], .ok written, s⟩
  | left, memo, written, .char c :: rest, s =>
    onePass maxPasses evaluate left memo (written ++ [c]) rest s
  | left, memo, written, .tag tag :: rest, s =>
    match memo.lookup tag with
    | some value => onePass maxPasses evaluate left memo (written ++ value) rest s
    | none =>
      let indent := Text.trailingIndent written
      match (evaluate tag indent).exec s with
      | (.error failure, s) => ⟨[⟨tag, indent, .error failure⟩], .error failure, s⟩
      | (.ok value, s) =>
        let first : Evaluation := ⟨tag, indent, .ok value⟩
        match left with
        | 0 => ⟨[first], .error (.error (.unsettled maxPasses)), s⟩
        | left + 1 =>
          (onePass maxPasses evaluate left ((tag, value) :: memo) (written ++ value) rest s).after
            first

section Steps

variable {maxPasses left : Nat} {evaluate : Tag → Text → Run σ Text} {memo : List (Tag × Text)}
  {written value : Text} {tag : Tag} {rest : List Piece} {s s' : Store σ} {failure : Failure}

theorem onePass_chars (ps : List Piece) : ∀ (t written : Text),
    onePass maxPasses evaluate left memo written (Piece.chars t ++ ps) s =
      onePass maxPasses evaluate left memo (written ++ t) ps s
  | [], written => by rw [Piece.chars_nil, List.nil_append, List.append_nil]
  | c :: t, written => by
    have hrest := onePass_chars ps t (written ++ [c])
    rw [List.append_assoc] at hrest
    exact hrest

theorem onePass_known (h : memo.lookup tag = some value) :
    onePass maxPasses evaluate left memo written (.tag tag :: rest) s =
      onePass maxPasses evaluate left memo (written ++ value) rest s := by
  rw [onePass, h]

theorem onePass_error (h : memo.lookup tag = none)
    (heval : (evaluate tag (Text.trailingIndent written)).exec s = (.error failure, s')) :
    onePass maxPasses evaluate left memo written (.tag tag :: rest) s =
      ⟨[⟨tag, Text.trailingIndent written, .error failure⟩], .error failure, s'⟩ := by
  rw [onePass, h]
  simp only [heval]

theorem onePass_unsettled (h : memo.lookup tag = none)
    (heval : (evaluate tag (Text.trailingIndent written)).exec s = (.ok value, s')) :
    onePass maxPasses evaluate 0 memo written (.tag tag :: rest) s =
      ⟨[⟨tag, Text.trailingIndent written, .ok value⟩],
        .error (.error (.unsettled maxPasses)), s'⟩ := by
  rw [onePass, h]
  simp only [heval]

theorem onePass_new (h : memo.lookup tag = none)
    (heval : (evaluate tag (Text.trailingIndent written)).exec s = (.ok value, s')) :
    onePass maxPasses evaluate (left + 1) memo written (.tag tag :: rest) s =
      (onePass maxPasses evaluate left ((tag, value) :: memo) (written ++ value) rest s').after
        ⟨tag, Text.trailingIndent written, .ok value⟩ := by
  rw [onePass, h]
  simp only [heval]

end Steps

end Run

-- ---------------------------------------------------------------------------
-- The simulation
-- ---------------------------------------------------------------------------

namespace Piece

/-- A piece with the texts of the known tags filled in. -/
def fillKnown (memo : List (Tag × Text)) : Piece → List Piece
  | char c => [char c]
  | tag t =>
    match memo.lookup t with
    | some value => chars value
    | none => [tag t]

theorem plain_fillKnown {memo : List (Tag × Text)} (hmemo : ∀ known ∈ memo, '{' ∉ known.2)
    {ps : List Piece} (hps : ∀ p ∈ ps, p.Plain) : ∀ q ∈ ps.flatMap (fillKnown memo), q.Plain := by
  intro q hq
  obtain ⟨p, hp, hq⟩ := List.mem_flatMap.mp hq
  have hplain := hps p hp
  cases p with
  | char c =>
    rw [fillKnown, List.mem_singleton] at hq
    rw [hq]
    exact hplain
  | tag t =>
    rw [fillKnown] at hq
    cases hknown : memo.lookup t with
    | none =>
      rw [hknown, List.mem_singleton] at hq
      rw [hq]
      exact hplain
    | some value =>
      rw [hknown] at hq
      obtain ⟨before, after, hsplit, -⟩ := List.lookup_eq_some_iff.mp hknown
      exact plain_chars (hmemo (t, value) (by rw [hsplit]; simp)) q hq

theorem flatMap_fillKnown_nil (ps : List Piece) : ps.flatMap (fillKnown []) = ps := by
  have hsingle : fillKnown [] = fun p => [p] := by
    funext p
    cases p <;> rfl
  rw [hsingle, List.flatMap_singleton']

/-- Filling in a tag that was not known is knowing it. -/
theorem flatMap_fill_fillKnown {memo : List (Tag × Text)} {t : Tag} {value : Text}
    (h : memo.lookup t = none) : ∀ ps : List Piece,
    (ps.flatMap (fillKnown memo)).flatMap (fill t value) =
      ps.flatMap (fillKnown ((t, value) :: memo))
  | [] => rfl
  | p :: ps => by
    rw [List.flatMap_cons, List.flatMap_append, List.flatMap_cons, flatMap_fill_fillKnown h ps]
    congr 1
    cases p with
    | char c => rfl
    | tag t' =>
      rw [fillKnown, fillKnown, List.lookup_cons]
      by_cases hsame : t' = t
      · subst hsame
        simp [h, fill]
      · have hne : (t' == t) = false := by simpa using hsame
        rw [hne]
        cases hknown : memo.lookup t' with
        | none => simp [fill, hsame]
        | some known => exact flatMap_fill_chars t value known

/-- Behind what is written, replacing a tag that was not known is knowing it. -/
theorem replaceAll_fillKnown {memo : List (Tag × Text)} (hmemo : ∀ known ∈ memo, '{' ∉ known.2)
    {ps : List Piece} (hps : ∀ p ∈ ps, p.Plain) {t : Tag} (ht : t.Plain)
    (hnew : memo.lookup t = none) {written : Text} (hwritten : '{' ∉ written) (value : Text) :
    Text.replaceAll t.text value
        (written ++ textOf ([tag t] ++ ps.flatMap (fillKnown memo))) =
      written ++ value ++ textOf (ps.flatMap (fillKnown ((t, value) :: memo))) := by
  have hall : ∀ q ∈ chars written ++ ([tag t] ++ ps.flatMap (fillKnown memo)), q.Plain := by
    refine List.forall_mem_append.mpr ⟨plain_chars hwritten, ?_⟩
    exact List.forall_mem_cons.mpr ⟨ht, plain_fillKnown hmemo hps⟩
  have hreplaced := replaceAll_textOf ht value hall
  rw [textOf_append, textOf_chars] at hreplaced
  rw [hreplaced, List.flatMap_append, flatMap_fill_chars, List.flatMap_append,
    flatMap_fill_fillKnown hnew]
  simp [fill]

end Piece

namespace Run

variable {maxPasses : Nat} {evaluate : Tag → Text → Run σ Text}

/-- **The passes are one walk.** The text of the passes is what the walk has written, followed by
the pieces that are left with the known tags filled in. Each pass replaces the first tag that is not
known, which is the next one that the walk evaluates. -/
theorem passes_eq_onePass {ps : List Piece} (hps : ∀ p ∈ ps, p.Plain) (left : Nat)
    (memo : List (Tag × Text)) (written : Text) {s : Store σ}
    (hmemo : ∀ known ∈ memo, '{' ∉ known.2) (hwritten : '{' ∉ written)
    (htexts : ∀ e ∈ (onePass maxPasses evaluate left memo written ps s).evaluations,
      ∀ value, e.outcome = .ok value → '{' ∉ value) :
    passes maxPasses evaluate left
        (written ++ Piece.textOf (ps.flatMap (Piece.fillKnown memo))) s =
      onePass maxPasses evaluate left memo written ps s := by
  induction ps generalizing left memo written s with
  | nil =>
    rw [List.flatMap_nil, Piece.textOf_nil, List.append_nil,
      passes_done (Piece.find?_eq_none_of_brace hwritten), onePass]
  | cons p ps ih =>
    have hp := hps p (List.mem_cons_self ..)
    have hrest : ∀ q ∈ ps, q.Plain := fun q hq => hps q (List.mem_cons_of_mem _ hq)
    cases p with
    | char c =>
      have hc : '{' ∉ written ++ [c] := by
        simpa using ⟨hwritten, Ne.symm hp⟩
      have happend := ih hrest left memo (written ++ [c]) hmemo hc htexts
      rw [List.append_assoc] at happend
      exact happend
    | tag t =>
      rw [List.flatMap_cons, Piece.fillKnown]
      cases hknown : memo.lookup t with
      | some value =>
        obtain ⟨before, after, hsplit, -⟩ := List.lookup_eq_some_iff.mp hknown
        have hvalue : '{' ∉ value := hmemo (t, value) (by rw [hsplit]; simp)
        rw [onePass_known hknown] at htexts ⊢
        rw [← ih hrest left memo (written ++ value) hmemo (by simpa using ⟨hwritten, hvalue⟩)
          htexts]
        simp
      | none =>
        have hfound : Tag.find? (written ++ Piece.textOf
            ([Piece.tag t] ++ ps.flatMap (Piece.fillKnown memo))) =
            some ⟨written, t, Piece.textOf (ps.flatMap (Piece.fillKnown memo))⟩ :=
          Piece.find?_textOf hwritten hp (Piece.plain_fillKnown hmemo hrest)
        rcases heval : (evaluate t (Text.trailingIndent written)).exec s with ⟨outcome, s'⟩
        cases outcome with
        | error failure => rw [passes_error hfound heval, onePass_error hknown heval]
        | ok value =>
          cases left with
          | zero => rw [passes_unsettled hfound heval, onePass_unsettled hknown heval]
          | succ left =>
            rw [onePass_new hknown heval] at htexts ⊢
            have hvalue : '{' ∉ value := htexts _ (List.mem_cons_self ..) value rfl
            have hself : ¬ t.text <:+: value := fun hoccurs =>
              hvalue (hoccurs.subset (by simp [Tag.text]))
            rw [passes_replace hfound heval hself,
              Piece.replaceAll_fillKnown hmemo hrest hp hknown hwritten value,
              ih hrest left ((t, value) :: memo) (written ++ value)
                (List.forall_mem_cons.mpr ⟨hvalue, hmemo⟩) (by simpa using ⟨hwritten, hvalue⟩)
                fun e he => htexts e (List.mem_cons_of_mem _ he)]

end Run

-- ---------------------------------------------------------------------------
-- The order of evaluations
-- ---------------------------------------------------------------------------

namespace Piece

/-- The tags that are not known, each where it occurs first. -/
def unknownTags (known : List Tag) (ps : List Piece) : List Tag :=
  ((tags ps).filter (· ∉ known)).eraseDups

theorem unknownTags_chars (known : List Tag) (ps : List Piece) : ∀ t : Text,
    unknownTags known (chars t ++ ps) = unknownTags known ps
  | [] => rfl
  | _ :: t => unknownTags_chars known ps t

theorem unknownTags_known {known : List Tag} {t : Tag} (h : t ∈ known) (ps : List Piece) :
    unknownTags known (.tag t :: ps) = unknownTags known ps := by
  have htags : tags (.tag t :: ps) = t :: tags ps := rfl
  rw [unknownTags, htags, List.filter_cons_of_neg (by simpa using h), unknownTags]

theorem unknownTags_new {known : List Tag} {t : Tag} (h : t ∉ known) (ps : List Piece) :
    unknownTags known (.tag t :: ps) = t :: unknownTags (t :: known) ps := by
  have htags : tags (.tag t :: ps) = t :: tags ps := rfl
  rw [unknownTags, htags, List.filter_cons_of_pos (by simpa using h), List.eraseDups_cons,
    List.filter_filter, unknownTags]
  congr 3
  funext t'
  by_cases ht : t' = t <;> simp [ht]

theorem mem_of_lookup_eq_some {memo : List (Tag × Text)} {t : Tag} {value : Text}
    (h : memo.lookup t = some value) : t ∈ memo.map Prod.fst := by
  obtain ⟨before, after, hsplit, -⟩ := List.lookup_eq_some_iff.mp h
  rw [hsplit]
  simp

theorem not_mem_of_lookup_eq_none {memo : List (Tag × Text)} {t : Tag}
    (h : memo.lookup t = none) : t ∉ memo.map Prod.fst := by
  intro hmem
  obtain ⟨known, hknown, heq⟩ := List.mem_map.mp hmem
  have hne := List.lookup_eq_none_iff.mp h known hknown
  simp [heq] at hne

/-- A tag that is not known takes one of the evaluations that are left. -/
theorem exists_left {memo : List (Tag × Text)} {t : Tag} {ps : List Piece} {left : Nat}
    (hnew : memo.lookup t = none)
    (hleft : (unknownTags (memo.map Prod.fst) (.tag t :: ps)).length ≤ left) :
    ∃ left', left = left' + 1 ∧
      (unknownTags (t :: memo.map Prod.fst) ps).length ≤ left' := by
  rw [unknownTags_new (not_mem_of_lookup_eq_none hnew), List.length_cons] at hleft
  exact ⟨left - 1, by omega, by omega⟩

/-- No tag is listed twice, and none that is known. -/
theorem unknownTags_nodup (ps : List Piece) : ∀ known : List Tag,
    (unknownTags known ps).Nodup ∧ ∀ t ∈ unknownTags known ps, t ∉ known := by
  induction ps with
  | nil =>
    intro known
    exact ⟨List.nodup_nil, fun t ht => by cases ht⟩
  | cons p ps ih =>
    intro known
    cases p with
    | char c => exact ih known
    | tag t =>
      by_cases h : t ∈ known
      · rw [unknownTags_known h]
        exact ih known
      · rw [unknownTags_new h]
        obtain ⟨hnodup, hnew⟩ := ih (t :: known)
        refine ⟨List.nodup_cons.mpr ⟨fun ht => hnew t ht (List.mem_cons_self ..), hnodup⟩, ?_⟩
        intro t' ht'
        rcases List.mem_cons.mp ht' with rfl | ht'
        · exact h
        · exact fun hknown => hnew t' ht' (List.mem_cons_of_mem _ hknown)

theorem mem_of_mem_unknownTags {known : List Tag} {ps : List Piece} {t : Tag}
    (h : t ∈ unknownTags known ps) : .tag t ∈ ps := by
  obtain ⟨ht, -⟩ := List.mem_filter.mp (List.mem_eraseDups.mp h)
  obtain ⟨p, hp, htag⟩ := List.mem_filterMap.mp ht
  cases p with
  | char c => cases htag
  | tag t' =>
    cases htag
    exact hp

end Piece

/-- How a course goes about the tags `firsts` when `left` of them may be evaluated below the limit:
in order, up to the first that fails, and one more than the limit allows. -/
structure Course.Orderly (course : Course σ) (maxPasses left : Nat) (firsts : List Tag) :
    Prop where
  /-- The tags are evaluated in order, each once, at most one beyond the limit. -/
  order : course.evaluations.map (·.tag) <+: firsts.take (left + 1)
  /-- A tag is evaluated only if all before it succeeded. -/
  earlier : ∀ e ∈ course.evaluations.dropLast, ∃ value, e.outcome = .ok value
  /-- The failure of a tag is the outcome. -/
  failed : ∀ e ∈ course.evaluations, ∀ failure, e.outcome = .error failure →
    course.outcome = .error failure
  /-- If none fails, as many as allowed and one more are evaluated, and the limit is exceeded
  exactly if there are more tags than it allows. -/
  complete : (∀ e ∈ course.evaluations, ∃ value, e.outcome = .ok value) →
    course.evaluations.map (·.tag) = firsts.take (left + 1) ∧
      (if left < firsts.length then course.outcome = .error (.error (.unsettled maxPasses))
        else ∃ output, course.outcome = .ok output)

namespace Course.Orderly

variable {maxPasses left : Nat} {firsts : List Tag} {tag : Tag} {indent value : Text}
  {s : Store σ} {failure : Failure}

theorem done {output : Text} : Orderly ⟨[], .ok output, s⟩ maxPasses left [] where
  order := by simp
  earlier := by simp
  failed := by simp
  complete := by simp

theorem error : Orderly ⟨[⟨tag, indent, .error failure⟩], .error failure, s⟩ maxPasses left
    (tag :: firsts) where
  order := by simp
  earlier := by simp
  failed := by simp
  complete := by simp

theorem unsettled : Orderly
    ⟨[⟨tag, indent, .ok value⟩], .error (.error (.unsettled maxPasses)), s⟩ maxPasses 0
    (tag :: firsts) where
  order := by simp
  earlier := by simp
  failed := by simp
  complete := by simp

theorem after {course : Course σ} (h : course.Orderly maxPasses left firsts) :
    (course.after ⟨tag, indent, .ok value⟩).Orderly maxPasses (left + 1) (tag :: firsts) where
  order := by
    rw [Course.after_evaluations, List.map_cons, List.take_succ_cons, List.cons_prefix_cons]
    exact ⟨rfl, h.order⟩
  earlier := by
    intro e he
    rw [Course.after_evaluations] at he
    cases hrest : course.evaluations with
    | nil => simp [hrest] at he
    | cons next more =>
      rw [hrest, List.dropLast_cons_of_ne_nil (List.cons_ne_nil _ _)] at he
      rcases List.mem_cons.mp he with rfl | he
      · exact ⟨value, rfl⟩
      · exact h.earlier e (hrest ▸ he)
  failed := by
    intro e he failure hfailure
    rcases List.mem_cons.mp he with rfl | he
    · cases hfailure
    · exact h.failed e he failure hfailure
  complete := by
    intro hall
    obtain ⟨htags, hlimit⟩ := h.complete fun e he => hall e (List.mem_cons_of_mem _ he)
    refine ⟨?_, ?_⟩
    · rw [Course.after_evaluations, List.map_cons, List.take_succ_cons, htags]
    · rw [List.length_cons, Course.after_outcome]
      simpa using hlimit

end Course.Orderly

/-- The walk goes about the unknown tags in order. -/
theorem Run.orderly_onePass {maxPasses : Nat} {evaluate : Tag → Text → Run σ Text}
    (ps : List Piece) (left : Nat) (memo : List (Tag × Text)) (written : Text) (s : Store σ) :
    (onePass maxPasses evaluate left memo written ps s).Orderly maxPasses left
      (Piece.unknownTags (memo.map Prod.fst) ps) := by
  induction ps generalizing left memo written s with
  | nil => exact Course.Orderly.done
  | cons p ps ih =>
    cases p with
    | char c => exact ih left memo (written ++ [c]) s
    | tag t =>
      cases hknown : memo.lookup t with
      | some value =>
        rw [onePass_known hknown, Piece.unknownTags_known (Piece.mem_of_lookup_eq_some hknown)]
        exact ih left memo (written ++ value) s
      | none =>
        rw [Piece.unknownTags_new (Piece.not_mem_of_lookup_eq_none hknown)]
        rcases heval : (evaluate t (Text.trailingIndent written)).exec s with ⟨outcome, s'⟩
        cases outcome with
        | error failure =>
          rw [onePass_error hknown heval]
          exact Course.Orderly.error
        | ok value =>
          cases left with
          | zero =>
            rw [onePass_unsettled hknown heval]
            exact Course.Orderly.unsettled
          | succ left =>
            rw [onePass_new hknown heval]
            exact (ih left ((t, value) :: memo) (written ++ value) s').after

-- ---------------------------------------------------------------------------
-- Rendering the tags of a text
-- ---------------------------------------------------------------------------

namespace Run

/-- The walk over the pieces of a text, with nothing known and nothing written. -/
def walk (maxPasses : Nat) (evaluate : Tag → Text → Run σ Text) (content : Text) (s : Store σ) :
    Course σ :=
  onePass maxPasses evaluate maxPasses [] [] (Piece.ofText content) s

/-- Started with nothing known, the passes over plain pieces are the walk over them. -/
theorem passes_textOf {maxPasses : Nat} {evaluate : Tag → Text → Run σ Text} {ps : List Piece}
    (hps : ∀ p ∈ ps, p.Plain) {s : Store σ}
    (htexts : ∀ e ∈ (onePass maxPasses evaluate maxPasses [] [] ps s).evaluations,
      ∀ value, e.outcome = .ok value → '{' ∉ value) :
    passes maxPasses evaluate maxPasses (Piece.textOf ps) s =
      onePass maxPasses evaluate maxPasses [] [] ps s := by
  have hsim := passes_eq_onePass hps maxPasses [] [] (by simp) (by simp) htexts
  rw [Piece.flatMap_fillKnown_nil, List.nil_append] at hsim
  exact hsim

theorem passes_eq_walk {maxPasses : Nat} {evaluate : Tag → Text → Run σ Text} {content : Text}
    (hcontent : Piece.Tagged content) {s : Store σ}
    (htexts : ∀ e ∈ (walk maxPasses evaluate content s).evaluations,
      ∀ value, e.outcome = .ok value → '{' ∉ value) :
    passes maxPasses evaluate maxPasses content s = walk maxPasses evaluate content s := by
  obtain ⟨htext, hplain⟩ := Piece.textOf_ofText hcontent
  have hpasses := passes_textOf hplain htexts
  rw [htext] at hpasses
  exact hpasses

/-- **The loop of passes is one walk with a memo.** Where every brace of a text opens a plain tag
and no tag evaluates to a text with a brace, rendering has the outcome and the evaluations of the
walk. The distinct tags are evaluated in the order of their first occurrences, each once; a failure
among the first `maxPasses + 1` is the outcome, and otherwise the limit is exceeded exactly if there
are more than `maxPasses`. -/
theorem renderTags_walk {below : Node σ → Value → Run σ Text} {r : RegistryId} {config : Config}
    {content : Text} {params : Value} {s : Store σ} (hcontent : Piece.Tagged content)
    (htexts : ∀ e ∈ (walk config.maxPasses (evaluateTag (lookup below r params) config)
      content s).evaluations, ∀ value, e.outcome = .ok value → '{' ∉ value) :
    let evaluate := evaluateTag (lookup below r params) config
    let course := walk config.maxPasses evaluate content s
    (renderTags below r config content params).exec s = (course.outcome, course.store) ∧
      passes config.maxPasses evaluate config.maxPasses content s = course ∧
      course.Orderly config.maxPasses config.maxPasses
        (Piece.tags (Piece.ofText content)).eraseDups ∧
      (course.evaluations.map fun e => e.tag.text).Nodup := by
  intro evaluate course
  have hpasses := passes_eq_walk hcontent htexts
  have hplain := (Piece.textOf_ofText hcontent).2
  have horderly : course.Orderly config.maxPasses config.maxPasses
      (Piece.unknownTags [] (Piece.ofText content)) :=
    orderly_onePass (Piece.ofText content) config.maxPasses [] [] s
  refine ⟨?_, hpasses, ?_, ?_⟩
  · rw [renderTags, settle_exec config.maxPasses (Draft.sound_ofText content),
      Draft.text_ofText, hpasses]
  · have hall : (Piece.tags (Piece.ofText content)).eraseDups =
        Piece.unknownTags [] (Piece.ofText content) := by
      rw [Piece.unknownTags, List.filter_eq_self.mpr (by simp)]
    rw [hall]
    exact horderly
  · have hsub := horderly.order.sublist.trans (List.take_sublist ..)
    have hnodup := (Piece.unknownTags_nodup (Piece.ofText content) []).1.sublist hsub
    have hwf : ∀ t ∈ course.evaluations.map (·.tag), t.WellFormed := fun t ht =>
      (hplain _ (Piece.mem_of_mem_unknownTags (hsub.subset ht))).wellFormed
    rw [show course.evaluations.map (fun e => e.tag.text) =
      (course.evaluations.map (·.tag)).map Tag.text by rw [List.map_map]; rfl]
    exact hnodup.map_on fun a ha b hb heq =>
      Tag.text_prefix_unique (hwf a ha) (hwf b hb) (List.prefix_refl a.text)
        (heq ▸ List.prefix_refl a.text)

/-- A value of two lines follows the indent of its first tag at every occurrence of that tag. -/
theorem renderTags_walk_lines :
    ((renderTags (σ := Unit) (fun _ _ => pure []) 0 ⟨false, [], 2⟩ "  %{x} ${x} %{x}".toList
      (.object [(['x'], .string ['a', '\n', 'b'])])).exec (Store.empty ())).1 =
      .ok "  a\n  b a&#10;b a\n  b".toList := by
  have hcontent : Piece.Tagged "  %{x} ${x} %{x}".toList := by
    rw [show "  %{x} ${x} %{x}".toList =
      Piece.textOf (Piece.ofText "  %{x} ${x} %{x}".toList) by decide]
    exact Piece.tagged_textOf (by decide)
  have htexts : ∀ e ∈ (walk (⟨false, [], 2⟩ : Config).maxPasses (evaluateTag
      (lookup (σ := Unit) (fun _ _ => pure []) 0 (.object [(['x'], .string ['a', '\n', 'b'])]))
      ⟨false, [], 2⟩) "  %{x} ${x} %{x}".toList (Store.empty ())).evaluations,
      ∀ value, e.outcome = .ok value → '{' ∉ value := by
    intro e he value hvalue
    have hcases : e = ⟨⟨false, ['x'], none⟩, [' ', ' '], .ok "a\n  b".toList⟩ ∨
        e = ⟨⟨true, ['x'], none⟩, [' '], .ok "a&#10;b".toList⟩ := List.mem_pair.mp he
    rcases hcases with rfl | rfl
    · cases hvalue
      decide
    · cases hvalue
      decide
  rw [(renderTags_walk hcontent htexts).1]
  decide

end Run

end Templating
