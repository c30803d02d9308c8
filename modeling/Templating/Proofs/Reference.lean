import Templating.Proofs.Document
import Templating.Proofs.Effects
import Templating.Proofs.Settling
import Templating.Proofs.Text.Lines

/-!
# References to blocks

The tag that takes the place of a block looks up the block under its number, which builds it, and
becomes what its node renders to. A text that is nothing but such a tag is rendered in one pass, if
no tag stands in that output.

* `Run.lookup_reference` — what a reference leads to;
* `Run.renderTags_reference` — the rendering of a text that is one.
-/

namespace Templating

/-- In a text that is nothing but a reference the reference is the first tag. -/
theorem Tag.firstBehind_reference (number : Nat) :
    (Document.referenceTo number).FirstBehind [] (Block.referenceTag number) := by
  have hwhole : Block.referenceTag number = [] ++ (Document.referenceTo number).text ++ [] := by
    rw [Document.referenceTo_text, List.nil_append, List.append_nil]
  exact find?_iff_firstBehind.mp ⟨[], find?_eq_some_iff.mpr
    ⟨hwhole, (Document.referenceTo_plain number).wellFormed, trivial⟩⟩

namespace Run

variable {σ : Type} {below : Node σ → Value → Run σ Text} {r : RegistryId} {params : Value}
  {name : Text} {entry : Partial σ} {number : Nat} {s s' s'' : Store σ} {b : BlockId}
  {node : Shared (Node σ)}

/-- A path into the parameters leads there. -/
theorem lookup_of_head {path : Text} (h : path.head? ≠ some '@') :
    (lookup below r params path).exec s = (.ok (Value.resolve? path params), s) := by
  unfold lookup
  split
  · exact absurd rfl h
  · rfl

theorem splitReference_of_not_mem (h : Value.pathSeparator ∉ name) :
    splitReference name = (name, none) := by
  rw [splitReference, Text.cut?_eq_none_iff.mpr h]

/-- The path of a name without points leads to what the entry stands for. -/
theorem lookup_eq (hname : Value.pathSeparator ∉ name) (h : (s.entries r).get? name = some entry) :
    (lookup below r params ('@' :: name)).exec s = (resolvePartial below params entry).exec s := by
  rw [lookup, exec_bind_ok (exec_get s)]
  simp only [splitReference_of_not_mem hname, h]
  exact congrArg (exec · s) (bind_pure _)

/-- A reference leads to what the node of its block renders to; the node is made if this is its
first use. -/
theorem lookup_reference (below : Node σ → Value → Run σ Text) (params : Value)
    (hentry : (s.entries r).get? (Block.reference number) = some (.deferred b))
    (hbuild : (build b).exec s = (.ok node, s')) :
    (lookup below r params (Document.referenceTo number).path).exec s =
      (((below node.value params).exec s').1.map fun output => some (.string output),
        ((below node.value params).exec s').2) := by
  have hdot : Value.pathSeparator ∉ Block.reference number :=
    Block.not_mem_reference (by decide) (by decide) number
  show (lookup below r params ('@' :: Block.reference number)).exec s = _
  rw [lookup_eq hdot hentry, resolvePartial, exec_bind_ok hbuild]
  exact exec_map ..

variable (hentry : (s.entries r).get? (Block.reference number) = some (.deferred b))
  (hbuild : (build b).exec s = (.ok node, s'))

include hentry hbuild

/-- The output is the rendering if no tag stands in it; a limit of no passes is exceeded. -/
theorem renderTags_reference {output : Text} (config : Config)
    (hbelow : (below node.value params).exec s' = (.ok output, s''))
    (hfree : ∀ (tag : Tag) i, ¬ tag.StandsAt output i) :
    (renderTags below r config (Block.referenceTag number) params).exec s =
      (if config.maxPasses = 0 then .error (.error (.unsettled 0)) else .ok output, s'') := by
  have hfirst := Tag.firstBehind_reference number
  have hlookup := lookup_reference below params hentry hbuild
  rw [hbelow] at hlookup
  have heval := evaluateTag_exec hlookup config []
  have hvalue : tagText config (Document.referenceTo number) [] (some (.string output)) =
      .ok output := congrArg Except.ok (Text.indentContinuation_nil output)
  rw [hvalue] at heval
  refine renderTags_iff_settles.mpr ?_
  cases hpasses : config.maxPasses with
  | zero =>
    rw [if_pos rfl]
    exact .unsettled hfirst heval
  | succ left =>
    rw [if_neg (Nat.succ_ne_zero left)]
    have hself := Tag.not_infix_of_free hfree (Document.referenceTo_plain number).wellFormed
    -- the whole text is the tag, so the output takes its place
    have hreplaced : Text.replaceAll (Document.referenceTo number).text output
        (Block.referenceTag number) = output := by
      have hall := Text.replaceAll_prefix (Document.referenceTo number).text_ne_nil output []
      rw [List.append_nil] at hall
      exact hall.trans (List.append_nil output)
    refine .pass hfirst heval hself ?_
    rw [hreplaced]
    exact .done hfree

/-- A failure is that of the rendering. -/
theorem renderTags_reference_error {failure : Failure} (config : Config)
    (hbelow : (below node.value params).exec s' = (.error failure, s'')) :
    (renderTags below r config (Block.referenceTag number) params).exec s =
      (.error failure, s'') := by
  have hfirst := Tag.firstBehind_reference number
  have hlookup := lookup_reference below params hentry hbuild
  rw [hbelow] at hlookup
  refine renderTags_iff_settles.mpr (.failed hfirst ?_)
  rw [evaluateTag, exec_bind_error hlookup]

end Run

end Templating
