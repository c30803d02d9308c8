import Mathlib.Algebra.Order.BigOperators.Group.List
import Mathlib.Algebra.Order.Ring.Nat
import Templating.Proofs.References

/-!
# How many blocks there can be

Blocks are issued when a text is compiled, and again when a block is built, in the middle of a
rendering. Still their number depends on the texts that callers compiled and on nothing else. Every
block takes two closing braces out of the text in which it stands, and leaves one with its
reference; the closing braces in its content wait for its build, which happens once.

* `Extraction.sum_count_le`, `Block.sum_count_bodies_le` — the closing braces of a text pay for the
  blocks in it and for those within them;
* `Registry.potential` — the blocks issued, and the closing braces in those not yet built;
* `Registry.Built.potential_le` — a build does not raise it;
* `History.nextNumber_le` — so the blocks issued are at most as many as the closing braces of the
  texts that callers compiled.
-/

namespace Templating

variable {σ : Type} {r : RegistryId}

-- ---------------------------------------------------------------------------
-- Closing braces
-- ---------------------------------------------------------------------------

/-- Each block that is taken out of a text uses up a closing brace of it beside those in its
content. -/
theorem Extraction.sum_count_run_le : ∀ fuel number (t : Text),
    ((run fuel number t).blocks.map fun b => b.content.count '}' + 1).sum ≤ t.count '}'
  | 0, _, t => Nat.zero_le _
  | fuel + 1, number, t => by
    cases h : Block.find? t with
    | none =>
      rw [run_of_find?_eq_none h]
      exact Nat.zero_le _
    | some found =>
      obtain ⟨before, b, after⟩ := found
      obtain ⟨rfl, -, -⟩ := Block.find?_eq_some_iff.mp h
      have ih := sum_count_run_le fuel (number + 1) (before ++ Block.referenceTag number ++ after)
      have hblock := Block.count_content_add_two_le b
      have hrun := congrArg blocks (run_of_find?_eq_some h fuel number)
      simp only [List.count_append, Block.count_referenceTag] at ih hrun ⊢
      rw [hrun, List.map_cons, List.sum_cons]
      omega

theorem Extraction.sum_count_le (number : Nat) (t : Text) :
    ((ofText number t).blocks.map fun b => b.content.count '}' + 1).sum ≤ t.count '}' :=
  sum_count_run_le _ number t

/-- The parts of a conditional block stand in its content one after the other. -/
theorem Block.count_branches_le (b : Block) :
    b.branches.1.count '}' + (b.branches.2.toList.map (·.count '}')).sum ≤
      b.content.count '}' := by
  have hne : b.elseTag ≠ [] := by simp [elseTag, Opening.text]
  rw [branches]
  cases hfirst : Text.cutAt? b.elseTag b.content with
  | none => simp
  | some parts =>
    obtain ⟨onTrue, rest⟩ := parts
    obtain ⟨hcontent, -⟩ := (Text.cutAt?_eq_some_iff hne).mp hfirst
    have hcount : onTrue.count '}' + rest.count '}' ≤ b.content.count '}' := by
      rw [hcontent, List.count_append, List.count_append]
      omega
    cases hsecond : Text.cutAt? b.elseTag rest with
    | none =>
      simp only [hsecond]
      simpa using hcount
    | some parts' =>
      obtain ⟨onFalse, tail⟩ := parts'
      obtain ⟨hrest, -⟩ := (Text.cutAt?_eq_some_iff hne).mp hsecond
      have hcount' : onFalse.count '}' ≤ rest.count '}' := by
        rw [hrest, List.count_append, List.count_append]
        omega
      simp only [hsecond]
      have hboth : onTrue.count '}' + onFalse.count '}' ≤ b.content.count '}' := by omega
      simpa using hboth

/-- The texts that a block holds have no closing braces but those of its content. -/
theorem Block.sum_count_bodies_le (b : Block) :
    (b.bodies.map (·.count '}')).sum ≤ b.content.count '}' := by
  rw [bodies]
  split
  · exact b.count_branches_le
  · simp

-- ---------------------------------------------------------------------------
-- The potential
-- ---------------------------------------------------------------------------

/-- The closing braces that a block has left to pay with; a block that is built has none. -/
def Issued.pending (record : Issued σ) : Nat :=
  match record.node with
  | none => record.block.content.count '}'
  | some _ => 0

namespace Registry

/-- The blocks issued, and what those that are not built can still pay for. -/
def potential (registry : Registry σ) : Nat :=
  registry.issued.length + (registry.issued.map Issued.pending).sum

theorem length_issued_le (registry : Registry σ) :
    registry.issued.length ≤ registry.potential := Nat.le_add_right ..

theorem potential_extract_le (r : RegistryId) (config : Config) (registry : Registry σ)
    (content : Text) :
    (registry.extract r config content).potential ≤ registry.potential + content.count '}' := by
  have hpaid := Extraction.sum_count_le registry.issued.length content
  generalize hblocks : (Extraction.ofText registry.issued.length content).blocks = blocks at hpaid
  have hissued : (registry.extract r config content).issued =
      registry.issued ++ blocks.map fun block => ⟨block, config, none⟩ := by
    rw [extract_issued, hblocks]
  have hpending : ((blocks.map fun block => (⟨block, config, none⟩ : Issued σ)).map
      Issued.pending).sum + blocks.length =
        (blocks.map fun b => b.content.count '}' + 1).sum := by
    rw [List.map_map, List.sum_map_add, List.map_const', List.sum_replicate, Nat.nsmul_eq_mul,
      mul_one]
    rfl
  rw [potential, potential, hissued, List.length_append, List.length_map, List.map_append,
    List.sum_append]
  omega

theorem potential_extractAll_le (r : RegistryId) (config : Config) :
    ∀ (contents : List Text) (registry : Registry σ),
      (registry.extractAll r config contents).potential ≤
        registry.potential + (contents.map (·.count '}')).sum
  | [], _ => Nat.le_refl _
  | content :: contents, registry => by
    have hfirst := potential_extract_le r config registry content
    have hrest := potential_extractAll_le r config contents (registry.extract r config content)
    rw [List.map_cons, List.sum_cons]
    exact hrest.trans (by omega)

@[simp] theorem potential_register (registry : Registry σ) (slot : Option Text)
    (node : Shared (Node σ)) : (registry.register slot node).potential = registry.potential := by
  rw [potential, register_issued, potential]

/-- A block that gets its node pays for no more. -/
theorem potential_keepNode {registry : Registry σ} {number : Nat} {record : Issued σ}
    (hrecord : registry.issued[number]? = some record) (node : Shared (Node σ)) :
    (registry.keepNode number node).potential + record.pending = registry.potential := by
  obtain ⟨hlt, rfl⟩ := List.getElem?_eq_some_iff.mp hrecord
  have hsplit : registry.issued = registry.issued.take number ++
      registry.issued[number] :: registry.issued.drop (number + 1) := by
    rw [List.getElem_cons_drop, List.take_append_drop]
  have hkept : (registry.keepNode number node).issued = registry.issued.take number ++
      { registry.issued[number] with node := some node } ::
        registry.issued.drop (number + 1) :=
    List.modify_eq_take_cons_drop hlt
  have hlength : (registry.keepNode number node).issued.length = registry.issued.length :=
    List.length_modify ..
  have hbefore : (registry.issued.map Issued.pending).sum =
      ((registry.issued.take number).map Issued.pending).sum + (registry.issued[number].pending +
        ((registry.issued.drop (number + 1)).map Issued.pending).sum) := by
    conv_lhs => rw [hsplit]
    rw [List.map_append, List.sum_append, List.map_cons, List.sum_cons]
  have hafter : ((registry.keepNode number node).issued.map Issued.pending).sum =
      ((registry.issued.take number).map Issued.pending).sum +
        ((registry.issued.drop (number + 1)).map Issued.pending).sum := by
    rw [hkept, List.map_append, List.sum_append, List.map_cons, List.sum_cons]
    simp [Issued.pending]
  rw [potential, potential, hlength, hbefore, hafter]
  omega

/-- **A build does not raise the potential.** The blocks that it issues are paid for by the closing
braces of the block that it builds. -/
theorem Built.potential_le {registry registry' : Registry σ} {number : Nat}
    {node : Shared (Node σ)} (h : Built r number node registry registry') :
    registry'.potential ≤ registry.potential := by
  obtain @⟨record, _, hrecord, hfresh, hmade⟩ := h
  obtain ⟨contents, slot, hcontents, -, rfl⟩ := hmade.parts
  obtain ⟨-, hold⟩ := retains_made (r := r) hrecord contents slot node
  have hkeep := potential_keepNode hold node
  have hpending : record.pending = record.block.content.count '}' := by
    rw [Issued.pending, hfresh]
  have hissued := potential_extractAll_le r record.config contents registry
  have hpaid : (contents.map (·.count '}')).sum ≤ record.block.content.count '}' :=
    ((hcontents.map _).sum_le_sum fun _ _ => Nat.zero_le _).trans record.block.sum_count_bodies_le
  rw [potential_register] at hkeep
  omega

theorem Evolves.potential_le {free : Text → Prop} {start registry : Registry σ}
    {sources : List (Text × Config)} (h : start.Evolves r free registry sources) :
    registry.potential ≤ start.potential + (sources.map (·.1.count '}')).sum := by
  induction h with
  | start => exact Nat.le_add_right ..
  | @extract registry sources config content _ ih =>
    have hstep := potential_extract_le r config registry content
    simp only [List.map_cons, List.sum_cons]
    omega
  | build _ hbuilt ih => exact hbuilt.potential_le.trans ih
  | insert _ _ _ ih => exact ih
  | erase _ _ ih => exact ih
  | close _ _ ih => exact ih

end Registry

/-- **Rendering issues boundedly many blocks.** In every history of a registry, its blocks are at
most as many as the closing braces in the texts that callers compiled against it, however often and
with whatever outcome templates were rendered and blocks were built. -/
theorem History.nextNumber_le {free : Text → Prop} {start s : Store σ}
    {partials : Entries (Partial σ)} {isOpen : Bool} {sources : List (Text × Config)}
    (hstart : start.registries[r]? = some ⟨partials, [], isOpen⟩)
    (h : History r free start s sources) :
    s.nextNumber r ≤ (sources.map fun (content, _) => content.count '}').sum := by
  obtain ⟨registry, hregistry, hevolves⟩ := h.evolves hstart
  have hempty : (Registry.mk partials [] isOpen).potential = 0 := rfl
  calc s.nextNumber r = registry.issued.length := Store.nextNumber_eq hregistry
    _ ≤ registry.potential := registry.length_issued_le
    _ ≤ (Registry.mk partials [] isOpen).potential + (sources.map (·.1.count '}')).sum :=
      hevolves.potential_le
    _ = (sources.map fun (content, _) => content.count '}').sum := by rw [hempty, Nat.zero_add]

/-- A block within a block, `#{a}?{b}x?{/b}#{/a}`, has four closing braces, and no two renderings
lead to a fifth block. -/
theorem History.nextNumber_le_nested :
    let content := "#{a}?{b}x?{/b}#{/a}".toList
    let start := ((Store.empty ()).newRegistry []).2
    ∃ t s, (Run.compile 0 true .default content).exec start = (.ok t, s) ∧
      ∀ depth params params',
        ((Node.render depth (.template t) params').exec
          ((Node.render depth (.template t) params).exec s).2).2.nextNumber 0 ≤ 4 := by
  intro content start
  have hstart : start.registries[0]? = some ⟨[], [], true⟩ := rfl
  obtain ⟨t, s, hexec⟩ : ∃ t s, (Run.compile 0 true .default content).exec start = (.ok t, s) :=
    ⟨_, _, rfl⟩
  refine ⟨t, s, hexec, fun depth params params' => ?_⟩
  have hcompiled : History 0 (fun _ => False) start s [(content, .default)] :=
    .compile true .default content .start hexec
  have hrendered := (hcompiled.render depth (.template t) params).render depth (.template t) params'
  exact History.nextNumber_le hstart hrendered

end Templating
