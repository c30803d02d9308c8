import Templating.Proofs.Slots

/-!
# What callers registered

Compiling a text registers its blocks under `block_<n>`, and building a cached block registers its
node under `cached_<name>`. Neither kind of name is reserved, and neither insertion looks for a
caller's entry first, except that a node that is found in a slot is taken as it is. So an entry of
the caller under such a name can get lost; under any other name it cannot.

* `Spared` — what becomes of an entry that callers leave alone;
* `History.spared` — that this is so in every history;
* `History.not_spared` — that entries under both kinds of names get lost.
-/

namespace Templating

variable {σ : Type} {r : RegistryId} {free : Text → Prop} {name : Text}

/-- A cached block of a slot that has the node in the second state, and had none in the first. -/
structure Store.BuiltSince (r : RegistryId) (s s' : Store σ) (slot : Text) (number : Nat)
    (node : Shared (Node σ)) : Prop where
  record : ∃ record, s'.issued? ⟨r, number⟩ = some record ∧ record.block.kind = .cached ∧
    record.block.slot = slot ∧ record.node = some node
  fresh : s.nodeOf? ⟨r, number⟩ = none

theorem Store.builtSince_iff {s s' : Store σ} {first registry : Registry σ} {slot : Text}
    {number : Nat} {node : Shared (Node σ)} (hfirst : s.registries[r]? = some first)
    (hregistry : s'.registries[r]? = some registry) :
    s.BuiltSince r s' slot number node ↔ first.BuiltSince registry slot number node := by
  have hfresh : s.nodeOf? ⟨r, number⟩ = none ↔
      ∀ record, first.issued[number]? = some record → record.node = none := by
    rw [nodeOf?, issued?_eq hfirst, Option.bind_eq_none_iff]
  constructor
  · rintro ⟨hrecord, hnone⟩
    rw [issued?_eq hregistry] at hrecord
    exact ⟨hrecord, hfresh.mp hnone⟩
  · rintro ⟨hrecord, hnone⟩
    rw [← issued?_eq hregistry] at hrecord
    exact ⟨hrecord, hfresh.mpr hnone⟩

/-- A node that was made for a block of the slot is the node of a block of it. -/
theorem Registry.MadeFor.builtSince {first registry : Registry σ} {slot : Text}
    {node : Shared (Node σ)} (h : first.MadeFor r free registry slot node) :
    ∃ number, first.BuiltSince registry slot number node := by
  obtain @⟨before, after, earlier, later, number, record, cell, hbefore, -, hbuilt, hrecord,
    hkind, hslot, -, hafter⟩ := h
  obtain ⟨made, hmade, hnode⟩ := hbuilt.kept
  obtain ⟨record', hrecord', hkeeps⟩ := hafter.retains number made hmade
  have hblock : record'.block = record.block := by
    obtain ⟨made', hmade', hkeeps'⟩ := hbuilt.retains number record hrecord
    obtain rfl : made = made' := Option.some.inj (hmade.symm.trans hmade')
    exact hkeeps.block.trans hkeeps'.block
  refine ⟨number, ⟨record', hrecord', hblock ▸ hkind, hblock ▸ hslot, hkeeps.node node hnode⟩, ?_⟩
  -- had the block had a node at first, it would have had it just before it was built
  intro old hold
  obtain ⟨old', hold', hkept⟩ := hbefore.retains number old hold
  obtain @⟨built, _, hat, hfresh, -⟩ := hbuilt
  obtain rfl : built = old' := Option.some.inj (hat.symm.trans hold')
  by_contra hsome
  obtain ⟨other, hother⟩ := Option.ne_none_iff_exists'.mp hsome
  rw [hkept.node other hother] at hfresh
  cases hfresh

/-- A slot loses its entry only to the node of a block that is built, and no node to another. -/
theorem Registry.Evolves.slot_spared {first registry : Registry σ} {sources : List (Text × Config)}
    {b : Block} {entry : Partial σ} (hname : ¬ free b.slot)
    (h : first.Evolves r free registry sources) (hentry : first.entries.get? b.slot = some entry)
    (hbuilt : (∃ node, entry = .block node) ∨
      ∀ number node, ¬ first.BuiltSince registry b.slot number node) :
    registry.entries.get? b.slot = some entry := by
  rcases hbuilt with ⟨node, rfl⟩ | hnone
  · exact h.slot_kept b.slot_ne_reference hname hentry
  · cases h.slotState b.slot_ne_reference hname with
    | untouched hold _ => exact hold.trans hentry
    | shared hnode _ horigin =>
      rcases horigin with hblock | ⟨-, hmade⟩
      · exact hnode.trans (hblock.symm.trans hentry)
      · obtain ⟨number, hsince⟩ := hmade.builtSince
        exact absurd hsince (hnone number _)

/-- What has become in `s'` of a name that callers had an entry under in `s` and left alone. -/
structure Spared (r : RegistryId) (name : Text) (entry : Partial σ) (s s' : Store σ) : Prop where
  /-- If it is the name of a block that was issued since, it is bound to this block. -/
  issued : ∀ number, s.nextNumber r ≤ number → number < s'.nextNumber r →
    name = Block.reference number → (s'.entries r).get? name = some (.deferred ⟨r, number⟩)
  /-- If it is the slot of a cached block that was built since, it is bound to its node. -/
  built : ∀ number node, s.BuiltSince r s' name number node →
    (s'.entries r).get? name = some (.block node)
  /-- Otherwise it has the entry that callers gave it; a slot with a node has it in any case. -/
  kept : (∀ number, s.nextNumber r ≤ number → number < s'.nextNumber r →
      name ≠ Block.reference number) →
    ((∃ node, entry = .block node) ∨ ∀ number node, ¬ s.BuiltSince r s' name number node) →
    (s'.entries r).get? name = some entry

/-- **Callers lose entries only under generated names.** Let a name be bound to an entry, and let
callers not replace or remove it. Then in every history from there it is bound to this entry, unless
it is the name of a block issued in the meantime, or it is the slot of a cached block built in the
meantime and the entry is not a node. -/
theorem History.spared {s s' : Store σ} {entry : Partial σ} {sources : List (Text × Config)}
    (hentry : (s.entries r).get? name = some entry) (hname : ¬ free name)
    (h : History r free s s' sources) : Spared r name entry s s' := by
  obtain ⟨first, hfirst⟩ : ∃ first, s.registries[r]? = some first := by
    cases hregistry : s.registries[r]? with
    | some first => exact ⟨first, rfl⟩
    | none =>
      rw [Store.entries, hregistry] at hentry
      cases hentry
  obtain ⟨registry, hregistry, hevolves⟩ := h.evolves hfirst
  have hgenerated := hevolves.generated
  rw [Store.entries_eq hfirst] at hentry
  constructor
  · rintro number hold hnew rfl
    rw [Store.nextNumber_eq hfirst] at hold
    rw [Store.nextNumber_eq hregistry] at hnew
    rw [Store.entries_eq hregistry]
    exact hgenerated.issued number hold hnew hname
  · intro number node hsince
    obtain ⟨record, -, -, hslot, -⟩ := hsince.record
    rw [Store.builtSince_iff hfirst hregistry] at hsince
    rw [Store.entries_eq hregistry]
    cases hevolves.slotState (hslot ▸ record.block.slot_ne_reference) hname with
    | untouched _ hnone => exact absurd hsince (hnone number node)
    | shared hnode hsame _ =>
      rw [hsame number node hsince]
      exact hnode
  · intro hissued hbuilt
    simp only [Store.builtSince_iff hfirst hregistry] at hbuilt
    rw [Store.nextNumber_eq hfirst, Store.nextNumber_eq hregistry] at hissued
    rw [Store.entries_eq hregistry]
    by_cases hslot : ∃ b : Block, name = b.slot
    · obtain ⟨b, rfl⟩ := hslot
      exact hevolves.slot_spared hname hentry hbuilt
    · push Not at hslot
      exact (hgenerated.others name hname hslot hissued).trans hentry

/-- A caller's `header`, beside a cached block that is built. -/
theorem History.spared_header :
    let header : Partial Unit := .value (.string "mine".toList)
    let start := ((Store.empty ()).newRegistry [("header".toList, header)]).2
    let s := ((Run.extract 0 .default "={f}a={/f}".toList).exec start).2
    let built := ((Run.build ⟨0, 0⟩).exec s).2
    (start.entries 0).get? "header".toList = some header ∧
      Spared 0 "header".toList header start built := by
  intro header start s built
  have hentry : (start.entries 0).get? "header".toList = some header := rfl
  have hhistory : History 0 (fun _ => False) start built _ :=
    .build ⟨0, 0⟩ (.extract .default _ .start)
  exact ⟨hentry, History.spared hentry id hhistory⟩

/-- Entries under generated names get lost: a value under `block_0` when the first block is taken
out of a text, and a value under `cached_x` when a cached block of this name is rendered. -/
theorem History.not_spared :
    (¬ ∀ (entry : Partial Unit) (s : Store Unit) (sources : List (Text × Config)),
      let name := "block_0".toList
      History 0 (fun _ => False) ((Store.empty ()).newRegistry [(name, entry)]).2 s sources →
        (s.entries 0).get? name = some entry) ∧
    ¬ ∀ (entry : Partial Unit) (s : Store Unit) (sources : List (Text × Config)),
      let name := "cached_x".toList
      History 0 (fun _ => False) ((Store.empty ()).newRegistry [(name, entry)]).2 s sources →
        (s.entries 0).get? name = some entry := by
  let content := "={x}c={/x}".toList
  let mine : Partial Unit := .value (.string "mine".toList)
  constructor
  · intro hspared
    let start := ((Store.empty ()).newRegistry [("block_0".toList, mine)]).2
    have hkept := hspared mine _ _ (.extract .default content .start)
    have hlost : (((((Run.extract 0 .default content).exec start).2.entries 0).get?
        "block_0".toList).map Partial.kind) = some "deferred block".toList := by
      decide +kernel
    rw [hkept] at hlost
    exact absurd hlost (by decide)
  · intro hspared
    let start := ((Store.empty ()).newRegistry [("cached_x".toList, mine)]).2
    have hkept := hspared mine _ _
      (.renderTags 2 0 .default "%{@block_0}".toList (.object [])
        (.extract .default content .start))
    have hlost : (((((Run.renderTags (Node.render 2) 0 .default "%{@block_0}".toList
        (.object [])).exec ((Run.extract 0 .default content).exec start).2).2.entries 0).get?
          "cached_x".toList).map Partial.kind) = some "block".toList := by
      decide +kernel
    rw [hkept] at hlost
    exact absurd hlost (by decide)

end Templating
