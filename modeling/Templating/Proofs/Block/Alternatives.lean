import Templating.Compilation
import Templating.Proofs.Scan

/-!
# Texts with two alternatives

A conditional block with an else part can be written with the placeholder first and its negation as
the tag that divides the content, or the other way round:

    ?{p} first ?{!p} second ?{/name}        ?{!p} second ?{p} first ?{/name}

The tag that divides the content is an opening itself. As long as the parts do not hold the tags
that are around them, and have no blocks of their own, both texts are one block with these two
parts.

* `Extraction.ofText_block`, `Run.compile_block` — a text that is a block becomes a reference to
  it;
* `Alternatives` — a placeholder and two parts of this kind;
* `Alternatives.text_eq_block`, `Alternatives.branches_block` — how the texts are read.
-/

namespace Templating

-- ---------------------------------------------------------------------------
-- Texts that are one block
-- ---------------------------------------------------------------------------

theorem Block.find?_text {b : Block} (h : b.WellFormed) : find? b.text = some ⟨[], b, []⟩ :=
  find?_eq_some_iff.mpr ⟨(List.append_nil _).symm, h, trivial⟩

theorem Block.find?_referenceTag (number : Nat) : find? (referenceTag number) = none :=
  find?_eq_none_iff.mpr ((nowhere_marked_referenceTag number []).mono fun _ => Begins.marked)

/-- A text that is a block becomes a reference to it. -/
theorem Extraction.ofText_block {b : Block} (h : b.WellFormed) (number : Nat) :
    ofText number b.text = ⟨Block.referenceTag number, [b]⟩ := by
  have hcount := b.count_content_add_two_le
  obtain ⟨fuel, hfuel⟩ : ∃ fuel, b.text.count '}' = fuel + 1 := ⟨b.text.count '}' - 1, by omega⟩
  rw [ofText, hfuel, run_of_find?_eq_some (Block.find?_text h), List.nil_append, List.append_nil,
    run_of_find?_eq_none (Block.find?_referenceTag number)]

/-- It compiles to that reference, and the block is issued. -/
theorem Run.compile_block {σ : Type} {b : Block} (h : b.WellFormed) {r : RegistryId} {s : Store σ}
    {registry : Registry σ} (hopen : s.open? r = some registry) (ownsRegistry : Bool)
    (config : Config) :
    (compile r ownsRegistry config b.text).exec s =
      (.ok ⟨Block.referenceTag (s.nextNumber r), r, ownsRegistry, config⟩,
        (s.issue r config b).emit (.extractedAll 1)) := by
  rw [compile, exec_bind_ok (exec_requireOpen hopen), exec_bind_ok (extract_exec ..),
    Extraction.ofText_block h]
  rfl

-- ---------------------------------------------------------------------------
-- Two parts
-- ---------------------------------------------------------------------------

/-- A placeholder of conditional blocks, and a text for each of its two outcomes. -/
structure Alternatives where
  placeholder : Text
  name : Text
  first : Text
  second : Text
  /-- The grammar allows the placeholder, without a mark of negation before it. -/
  wellFormed : Opening.WellFormed ⟨.conditional, false, placeholder, name⟩
  /-- Neither opening with the placeholder stands in a part. -/
  free_first : ∀ negated, ¬ Opening.text ⟨.conditional, negated, placeholder, name⟩ <:+: first
  free_second : ∀ negated, ¬ Opening.text ⟨.conditional, negated, placeholder, name⟩ <:+: second
  /-- The parts have no blocks of their own. -/
  plain_first : Block.find? first = none
  plain_second : Block.find? second = none
  /-- The closing stands nowhere in the parts with an opening between them. -/
  closing_first : ¬ Opening.closing ⟨.conditional, false, placeholder, name⟩ <:+:
    first ++ Opening.text ⟨.conditional, true, placeholder, name⟩ ++ second
  closing_second : ¬ Opening.closing ⟨.conditional, true, placeholder, name⟩ <:+:
    second ++ Opening.text ⟨.conditional, false, placeholder, name⟩ ++ first

namespace Opening

/-- An opening and a closing have one closing brace, at their end. -/
theorem text_eq_append {o : Opening} (h : o.WellFormed) :
    ∃ init, '}' ∉ init ∧ o.text = init ++ ['}'] := by
  refine ⟨o.kind.mark :: '{' :: o.body, ?_, o.text_eq⟩
  simp [h.body_brace, o.kind.mark_plain.1.symm]

theorem closing_eq_append {o : Opening} (h : o.WellFormed) :
    ∃ init, '}' ∉ init ∧ o.closing = init ++ ['}'] := by
  refine ⟨o.kind.mark :: '{' :: '/' :: o.name, ?_, rfl⟩
  simp [h.name_brace, o.kind.mark_plain.1.symm]

end Opening

namespace Alternatives

variable (e : Alternatives)

/-- The opening with the placeholder, negated or not. -/
def opening (negated : Bool) : Opening := ⟨.conditional, negated, e.placeholder, e.name⟩

/-- The part before the tag that divides the content. -/
def onTrue (negated : Bool) : Text := if negated then e.second else e.first

/-- The part behind it. -/
def onFalse (negated : Bool) : Text := if negated then e.first else e.second

/-- The block with the opening, and the other opening between its parts. -/
def block (negated : Bool) : Block :=
  (e.opening negated).block (e.onTrue negated ++ (e.opening !negated).text ++ e.onFalse negated)

/-- The whole text. -/
def text (negated : Bool) : Text :=
  (e.opening negated).text ++ e.onTrue negated ++ (e.opening !negated).text ++
    e.onFalse negated ++ (e.opening negated).closing

theorem text_eq_block (negated : Bool) : e.text negated = (e.block negated).text := by
  have hcontent : (e.block negated).content =
      e.onTrue negated ++ (e.opening !negated).text ++ e.onFalse negated := rfl
  rw [Block.text, hcontent, text]
  simp only [List.append_assoc]
  rfl

theorem wellFormed_opening : ∀ negated, (e.opening negated).WellFormed
  | false => e.wellFormed
  | true => ⟨e.wellFormed.brace, e.wellFormed.colon, e.wellFormed.placeholder,
      fun h => by cases h⟩

theorem find?_onTrue : ∀ negated, Block.find? (e.onTrue negated) = none
  | false => e.plain_first
  | true => e.plain_second

theorem find?_onFalse : ∀ negated, Block.find? (e.onFalse negated) = none
  | false => e.plain_second
  | true => e.plain_first

theorem free_onTrue : ∀ negated sign, ¬ (e.opening sign).text <:+: e.onTrue negated
  | false => e.free_first
  | true => e.free_second

theorem free_onFalse : ∀ negated sign, ¬ (e.opening sign).text <:+: e.onFalse negated
  | false => e.free_second
  | true => e.free_first

theorem closing_content : ∀ negated,
    ¬ (e.opening negated).closing <:+: (e.block negated).content
  | false => e.closing_first
  | true => e.closing_second

/-- The first closing is that at the end. -/
theorem wellFormed_block (negated : Bool) : (e.block negated).WellFormed := by
  refine ⟨e.wellFormed_opening negated, rfl, ?_⟩
  obtain ⟨init, hinit, hclosing⟩ := Opening.closing_eq_append (e.wellFormed_opening negated)
  have hno := e.closing_content negated
  rw [hclosing] at hno
  show Text.Nowhere ((e.opening negated).closing <+: ·) _ (e.opening negated).closing
  rw [hclosing]
  exact Text.nowhere_of_last hinit hno

/-- The tag that divides the content stands between the parts only. -/
theorem branches_block (negated : Bool) :
    (e.block negated).branches = (e.onTrue negated, some (e.onFalse negated)) := by
  obtain ⟨init, hinit, htext⟩ := Opening.text_eq_append (e.wellFormed_opening !negated)
  have hno := e.free_onTrue negated !negated
  rw [htext] at hno
  have hbefore : Text.Nowhere ((e.opening !negated).text <+: ·) (e.onTrue negated)
      (e.opening !negated).text := by
    rw [htext]
    exact Text.nowhere_of_last hinit hno
  exact Block.branches_eq_of_split rfl (Text.nowhere_self_append_iff.mpr hbefore)
    (e.free_onFalse negated !negated)

end Alternatives

end Templating
