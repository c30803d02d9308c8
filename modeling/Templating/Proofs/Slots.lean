import Templating.Proofs.References

/-!
# One node for a name

Cached blocks of one name share their node through the slot of the name. The first of them to be
built makes the node and registers it there, and every later one takes it from there. Which one is
the first depends on the order in which the templates of a registry were rendered, and each block
remembers its node besides; still all of them have the node of the first, as long as callers leave
the slot alone.

* `Registry.BuiltSince` — a cached block of a slot that was built in the meantime;
* `Registry.SlotState` — what becomes of a slot: it is as it was, or it holds a node that all these
  blocks have, and that was there before or made for the first of them;
* `Registry.Evolves.slotState` — nothing else becomes of it, change by change;
* `History.one_node` — so in every history a name has one node.
-/

namespace Templating

variable {σ : Type} {r : RegistryId} {free : Text → Prop} {slot : Text}

/-- Two cached blocks have one slot when they have one name. -/
theorem Block.slot_inj {b b' : Block} : b.slot = b'.slot ↔ b.name = b'.name :=
  List.append_right_inj _

namespace Registry

variable {first registry registry' : Registry σ} {number : Nat} {node : Shared (Node σ)}

-- ---------------------------------------------------------------------------
-- Blocks that were built
-- ---------------------------------------------------------------------------

/-- A cached block of a slot that has the node, and had none when the registry was `first`. -/
structure BuiltSince (first registry : Registry σ) (slot : Text) (number : Nat)
    (node : Shared (Node σ)) : Prop where
  record : ∃ record, registry.issued[number]? = some record ∧ record.block.kind = .cached ∧
    record.block.slot = slot ∧ record.node = some node
  fresh : ∀ record, first.issued[number]? = some record → record.node = none

/-- The second registry has no node but those of the first. -/
def NoNewNode (registry registry' : Registry σ) : Prop :=
  ∀ (number : Nat) (record : Issued σ) (node : Shared (Node σ)),
    registry'.issued[number]? = some record → record.node = some node →
      registry.issued[number]? = some record

theorem BuiltSince.of_noNewNode (hnodes : registry.NoNewNode registry')
    (h : first.BuiltSince registry' slot number node) :
    first.BuiltSince registry slot number node := by
  obtain ⟨⟨record, hrecord, hkind, hslot, hnode⟩, hfresh⟩ := h
  exact ⟨⟨record, hnodes number record node hrecord hnode, hkind, hslot, hnode⟩, hfresh⟩

theorem noNewNode_extract (r : RegistryId) (config : Config) (registry : Registry σ)
    (content : Text) : registry.NoNewNode (registry.extract r config content) := by
  intro number record node hrecord hnode
  rw [extract_issued] at hrecord
  rcases Nat.lt_or_ge number registry.issued.length with hlt | hge
  · rwa [List.getElem?_append_left hlt] at hrecord
  · rw [List.getElem?_append_right hge, List.getElem?_map, Option.map_eq_some_iff] at hrecord
    obtain ⟨block, -, rfl⟩ := hrecord
    cases hnode

theorem noNewNode_extractAll (r : RegistryId) (config : Config) :
    ∀ (contents : List Text) (registry : Registry σ),
      registry.NoNewNode (registry.extractAll r config contents)
  | [], _ => fun _ _ _ hrecord _ => hrecord
  | content :: contents, registry => fun number record node hrecord hnode =>
    noNewNode_extract r config registry content number record node
      (noNewNode_extractAll r config contents _ number record node hrecord hnode) hnode

theorem Built.on_record (h : Built r number node registry registry') :
    ∃ record, registry.issued[number]? = some record := by
  obtain ⟨hrecord, -, -⟩ := h
  exact ⟨_, hrecord⟩

/-- A build gives a node to the block that is built and to no other. -/
theorem Built.node_cases (h : Built r number node registry registry') {record record' : Issued σ}
    (hrecord : registry.issued[number]? = some record) {other : Nat} {node' : Shared (Node σ)}
    (hrecord' : registry'.issued[other]? = some record') (hnode' : record'.node = some node') :
    (node' = node ∧ record'.block = record.block) ∨ registry.issued[other]? = some record' := by
  obtain @⟨built, _, hbuilt, -, hmade⟩ := h
  obtain rfl : built = record := Option.some.inj (hbuilt.symm.trans hrecord)
  obtain ⟨contents, slot, -, -, rfl⟩ := hmade.parts
  by_cases hother : other = number
  · subst hother
    obtain ⟨-, hold⟩ := retains_made (r := r) hrecord contents slot node
    have hkept : some { built with node := some node } = some record' := by
      rw [← hrecord', keepNode]
      simp [hold]
    cases hkept
    exact .inl ⟨(Option.some.inj hnode').symm, rfl⟩
  · have hsame : ((registry.extractAll r built.config contents).register slot node).issued[other]? =
        some record' := (List.getElem?_modify_ne _ _ (Ne.symm hother)).symm.trans hrecord'
    rw [register_issued] at hsame
    have hnone := noNewNode_extractAll r built.config contents registry
    exact .inr (hnone other record' node' hsame hnode')

/-- So the blocks of a slot that were built are those of before, and the one that is built. -/
theorem Built.builtSince_cases (h : Built r number node registry registry') {record : Issued σ}
    (hrecord : registry.issued[number]? = some record) {other : Nat} {node' : Shared (Node σ)}
    (hother : first.BuiltSince registry' slot other node') :
    (node' = node ∧ record.block.kind = .cached ∧ record.block.slot = slot) ∨
      first.BuiltSince registry slot other node' := by
  obtain ⟨⟨record', hrecord', hkind, hslot, hnode'⟩, hfresh⟩ := hother
  rcases h.node_cases hrecord hrecord' hnode' with ⟨hnode, hblock⟩ | hold
  · rw [hblock] at hkind hslot
    exact .inl ⟨hnode, hkind, hslot⟩
  · exact .inr ⟨⟨record', hold, hkind, hslot, hnode'⟩, hfresh⟩

/-- A cached block whose slot holds no node gets a new one, which is registered there; any other
takes the node that is there, and nothing else changes. -/
theorem Built.cached_cases (h : Built r number node registry registry') {record : Issued σ}
    (hrecord : registry.issued[number]? = some record) (hkind : record.block.kind = .cached) :
    ((∀ other, registry.entries.get? record.block.slot ≠ some (.block other)) ∧
      (∃ cell, node.value = .cached cell (record.block.param.map (.path r))
        (.template (registry.bodyTemplate r record.config record.block.content))) ∧
      registry' = ((registry.extract r record.config record.block.content).register
        (some record.block.slot) node).keepNode number node) ∨
    (registry.entries.get? record.block.slot = some (.block node) ∧
      registry' = registry.keepNode number node) := by
  obtain @⟨built, _, hat, -, hmade⟩ := h
  obtain rfl : built = record := Option.some.inj (hat.symm.trans hrecord)
  cases hmade with
  | plain hplain => exact absurd hkind hplain
  | first _ hempty hnode => exact .inl ⟨hempty, ⟨_, hnode⟩, rfl⟩
  | again _ hentry => exact .inr ⟨hentry, rfl⟩

/-- After a cached block is built, its slot holds its node. -/
theorem Built.own_slot (h : Built r number node registry registry') {record : Issued σ}
    (hrecord : registry.issued[number]? = some record) (hkind : record.block.kind = .cached) :
    registry'.entries.get? record.block.slot = some (.block node) := by
  rcases h.cached_cases hrecord hkind with ⟨-, -, rfl⟩ | ⟨hentry, rfl⟩
  · exact (Entries.get?_insert ..).trans (if_pos rfl)
  · exact hentry

/-- Where a slot holds a node, building a block of it takes the node and does nothing else. -/
theorem Built.eq_keepNode (h : Built r number node registry registry') {record : Issued σ}
    {kept : Shared (Node σ)} (hrecord : registry.issued[number]? = some record)
    (hkind : record.block.kind = .cached)
    (hslot : registry.entries.get? record.block.slot = some (.block kept)) :
    kept = node ∧ registry' = registry.keepNode number kept := by
  rcases h.cached_cases hrecord hkind with ⟨hempty, -, -⟩ | ⟨hentry, rfl⟩
  · exact absurd hslot (hempty kept)
  · obtain rfl : kept = node := Partial.block.inj (Option.some.inj (hslot.symm.trans hentry))
    exact ⟨rfl, rfl⟩

-- ---------------------------------------------------------------------------
-- Slots
-- ---------------------------------------------------------------------------

/-- No text brings an entry under a name that is not a reference. -/
theorem extract_get?_of_ne (hname : ∀ number, slot ≠ Block.reference number) (config : Config)
    (content : Text) :
    (registry.extract r config content).entries.get? slot = registry.entries.get? slot :=
  issueAll_get?_of_ne fun _ _ => hname _

theorem extractAll_get?_of_ne (hname : ∀ number, slot ≠ Block.reference number) (config : Config) :
    ∀ (contents : List Text) (registry : Registry σ),
      (registry.extractAll r config contents).entries.get? slot = registry.entries.get? slot
  | [], _ => rfl
  | content :: contents, registry =>
    (extractAll_get?_of_ne hname config contents (registry.extract r config content)).trans
      (extract_get?_of_ne hname config content)

/-- The node was made for the block of the slot that was the first to be built since the registry
was `first`, from the content and the parameter of this block. -/
inductive MadeFor (r : RegistryId) (free : Text → Prop) (first registry : Registry σ) (slot : Text)
    (node : Shared (Node σ)) : Prop
  | intro {before after : Registry σ} {earlier later : List (Text × Config)} {number : Nat}
      {record : Issued σ} {cell : CellId}
      (hbefore : first.Evolves r free before earlier)
      (hnone : ∀ other node', ¬ first.BuiltSince before slot other node')
      (hbuilt : Built r number node before after)
      (hrecord : before.issued[number]? = some record)
      (hkind : record.block.kind = .cached) (hslot : record.block.slot = slot)
      (hnode : node.value = .cached cell (record.block.param.map (.path r))
        (.template (before.bodyTemplate r record.config record.block.content)))
      (hafter : after.Evolves r free registry later)

theorem MadeFor.next (h : first.MadeFor r free registry slot node)
    (hnext : ∀ {after : Registry σ} {later}, after.Evolves r free registry later →
      ∃ later', after.Evolves r free registry' later') :
    first.MadeFor r free registry' slot node := by
  obtain ⟨hbefore, hnone, hbuilt, hrecord, hkind, hslot, hnode, hafter⟩ := h
  obtain ⟨later', hafter'⟩ := hnext hafter
  exact ⟨hbefore, hnone, hbuilt, hrecord, hkind, hslot, hnode, hafter'⟩

/-- What becomes of a slot that callers leave alone. It has the entry that it had, and no block of
it was built; or it holds a node, which every block of it that was built has. -/
inductive SlotState (r : RegistryId) (free : Text → Prop) (first registry : Registry σ)
    (slot : Text) : Prop
  | untouched (hentry : registry.entries.get? slot = first.entries.get? slot)
      (hnone : ∀ number node, ¬ first.BuiltSince registry slot number node)
  | shared {node : Shared (Node σ)} (hentry : registry.entries.get? slot = some (.block node))
      (hsame : ∀ number node', first.BuiltSince registry slot number node' → node' = node)
      (horigin : first.entries.get? slot = some (.block node) ∨
        (∀ other, first.entries.get? slot ≠ some (.block other)) ∧
          first.MadeFor r free registry slot node)

/-- A change that leaves the slot alone and gives no block of it a node. -/
theorem SlotState.next (h : first.SlotState r free registry slot)
    (hentry : registry'.entries.get? slot = registry.entries.get? slot)
    (hbuilt : ∀ number node, first.BuiltSince registry' slot number node →
      first.BuiltSince registry slot number node)
    (hnext : ∀ {after : Registry σ} {later}, after.Evolves r free registry later →
      ∃ later', after.Evolves r free registry' later') :
    first.SlotState r free registry' slot := by
  cases h with
  | untouched hold hnone =>
    exact .untouched (hentry.trans hold) fun number node h => hnone number node (hbuilt _ _ h)
  | shared hold hsame horigin =>
    refine .shared (hentry.trans hold) (fun number node' h => hsame number node' (hbuilt _ _ h)) ?_
    rcases horigin with hblock | ⟨hempty, hmade⟩
    · exact .inl hblock
    · exact .inr ⟨hempty, hmade.next hnext⟩

/-- Building a block of another slot, or one that is no cached block, leaves the slot alone. -/
theorem SlotState.built_other (h : first.SlotState r free registry slot)
    (hname : ∀ number, slot ≠ Block.reference number)
    (hbuilt : Built r number node registry registry') {record : Issued σ}
    (hrecord : registry.issued[number]? = some record)
    (hother : record.block.kind = .cached → record.block.slot ≠ slot) :
    first.SlotState r free registry' slot := by
  have hentry : registry'.entries.get? slot = registry.entries.get? slot := by
    obtain @⟨built, _, hbuilt, -, hmade⟩ := hbuilt
    obtain rfl : built = record := Option.some.inj (hbuilt.symm.trans hrecord)
    show Entries.get? slot _ = _
    cases hmade with
    | plain hkind => exact extractAll_get?_of_ne hname _ _ registry
    | first hkind hempty hnode =>
      refine (Entries.get?_insert ..).trans ?_
      rw [if_neg (hother hkind)]
      exact extract_get?_of_ne hname ..
    | again hkind hslot => rfl
  refine h.next hentry (fun number' node' hsince => ?_) fun hafter => ⟨_, hafter.build hbuilt⟩
  rcases hbuilt.builtSince_cases hrecord hsince with ⟨-, hkind, hslot⟩ | hold
  · exact absurd hslot (hother hkind)
  · exact hold

/-- Building a cached block of the slot puts the node into the slot, or finds it there. -/
theorem SlotState.built_own {earlier : List (Text × Config)}
    (h : first.SlotState r free registry slot) (hevolves : first.Evolves r free registry earlier)
    (hbuilt : Built r number node registry registry') {record : Issued σ}
    (hrecord : registry.issued[number]? = some record) (hkind : record.block.kind = .cached)
    (hslot : record.block.slot = slot) :
    first.SlotState r free registry' slot := by
  subst hslot
  have hentry := hbuilt.own_slot hrecord hkind
  cases h with
  | untouched hold hnone =>
    refine .shared hentry (fun number' node' hsince => ?_) ?_
    · rcases hbuilt.builtSince_cases hrecord hsince with ⟨hnode, -, -⟩ | hsince
      · exact hnode
      · exact absurd hsince (hnone number' node')
    · rw [← hold]
      rcases hbuilt.cached_cases hrecord hkind with ⟨hempty, ⟨cell, hnode⟩, -⟩ | ⟨hfound, -⟩
      · exact .inr ⟨hempty, hevolves, hnone, hbuilt, hrecord, hkind, rfl, hnode, .start⟩
      · exact .inl hfound
  | shared hold hkept horigin =>
    obtain ⟨rfl, -⟩ := hbuilt.eq_keepNode hrecord hkind hold
    refine .shared hentry (fun number' node' hsince => ?_) ?_
    · rcases hbuilt.builtSince_cases hrecord hsince with ⟨hnode, -, -⟩ | hsince
      · exact hnode
      · exact hkept number' node' hsince
    · rcases horigin with hblock | ⟨hempty, hmade⟩
      · exact .inl hblock
      · exact .inr ⟨hempty, hmade.next fun hafter => ⟨_, hafter.build hbuilt⟩⟩

-- ---------------------------------------------------------------------------
-- Every evolution
-- ---------------------------------------------------------------------------

variable {sources : List (Text × Config)}

/-- **Nothing else becomes of a slot** that callers leave alone. -/
theorem Evolves.slotState (hname : ∀ number, slot ≠ Block.reference number) (hfree : ¬ free slot)
    (h : first.Evolves r free registry sources) : first.SlotState r free registry slot := by
  induction h with
  | start =>
    refine .untouched rfl fun number node hsince => ?_
    obtain ⟨⟨record, hrecord, -, -, hnode⟩, hfresh⟩ := hsince
    rw [hfresh record hrecord] at hnode
    cases hnode
  | extract config content _ ih =>
    exact ih.next (extract_get?_of_ne hname config content)
      (fun _ _ hsince => hsince.of_noNewNode (noNewNode_extract r config _ content))
      fun hafter => ⟨_, hafter.extract config content⟩
  | build hevolves hbuilt ih =>
    obtain ⟨record, hrecord⟩ := hbuilt.on_record
    by_cases hown : record.block.kind = .cached ∧ record.block.slot = slot
    · exact ih.built_own hevolves hbuilt hrecord hown.1 hown.2
    · exact ih.built_other hname hbuilt hrecord fun hkind hslot => hown ⟨hkind, hslot⟩
  | @insert registry sources name entry _ hinserted ih =>
    have hne : name ≠ slot := fun heq => hfree (heq ▸ hinserted)
    exact ih.next ((Entries.get?_insert ..).trans (if_neg hne))
      (fun _ _ ⟨hrecord, hfresh⟩ => ⟨hrecord, hfresh⟩)
      fun hafter => ⟨_, hafter.insert entry hinserted⟩
  | @erase registry sources name _ herased ih =>
    have hne : name ≠ slot := fun heq => hfree (heq ▸ herased)
    exact ih.next (Entries.get?_erase_of_ne hne _) (fun _ _ ⟨hrecord, hfresh⟩ => ⟨hrecord, hfresh⟩)
      fun hafter => ⟨_, hafter.erase herased⟩
  | close isOpen _ ih =>
    exact ih.next rfl (fun _ _ ⟨hrecord, hfresh⟩ => ⟨hrecord, hfresh⟩)
      fun hafter => ⟨_, hafter.close isOpen⟩

/-- A node in a slot that callers leave alone stays there. -/
theorem Evolves.slot_kept (hname : ∀ number, slot ≠ Block.reference number) (hfree : ¬ free slot)
    (h : first.Evolves r free registry sources)
    (hslot : first.entries.get? slot = some (.block node)) :
    registry.entries.get? slot = some (.block node) := by
  cases h.slotState hname hfree with
  | untouched hentry _ => exact hentry.trans hslot
  | shared hentry _ horigin =>
    rcases horigin with hblock | ⟨hempty, -⟩
    · exact hentry.trans (hblock.symm.trans hslot)
    · exact absurd hslot (hempty node)

end Registry

-- ---------------------------------------------------------------------------
-- Every history
-- ---------------------------------------------------------------------------

/-- Where the slot of a cached block holds a node, building the block takes it. Nothing is compiled,
and all that changes is that the block remembers the node. -/
theorem Run.build_again {s : Store σ} {registry : Registry σ} {number : Nat} {record : Issued σ}
    {node : Shared (Node σ)} (hregistry : s.registries[r]? = some registry)
    (hopen : registry.isOpen = true) (hrecord : registry.issued[number]? = some record)
    (hfresh : record.node = none) (hkind : record.block.kind = .cached)
    (hslot : registry.entries.get? record.block.slot = some (.block node)) :
    (Run.build ⟨r, number⟩).exec s = (.ok node,
      ((s.emit (.building .cached record.block.placeholder)).emit
        (.slotReused record.block.slot)).memoize ⟨r, number⟩ node) := by
  have hissued : s.issued? ⟨r, number⟩ = some record :=
    (Store.issued?_eq hregistry number).trans hrecord
  have hbuilding : (s.emit (.building .cached record.block.placeholder)).open? r = some registry :=
    Store.open?_eq hregistry hopen
  have hentry : ((s.emit (.building .cached record.block.placeholder)).entries r).get?
      record.block.slot = some (.block node) := by
    rw [← hslot]
    exact congrArg _ (Store.entries_eq hregistry)
  have hmade : (Run.buildNode r record.config record.block).exec
      (s.emit (.building .cached record.block.placeholder)) =
        (.ok node, (s.emit (.building .cached record.block.placeholder)).emit
          (.slotReused record.block.slot)) := by
    rw [Run.buildNode, hkind]
    simp only
    rw [Run.exec_bind_ok (Run.exec_requireOpen hbuilding), Run.exec_bind_ok (Run.exec_get _),
      hentry]
    rfl
  rw [Run.build, Run.exec_bind_ok (Run.exec_get s), hissued]
  simp only [hfresh]
  rw [hkind, Run.exec_bind_ok (Run.exec_emit ..), Run.exec_bind_ok hmade,
    Run.exec_bind_ok (Run.exec_modify ..)]
  rfl

/-- How a registry that began as `start` came to have the node of a name: it evolved to `before`,
the build of a block made it `after`, and it evolved to what it is. -/
structure FirstBuild (r : RegistryId) (free : Text → Prop) (start registry : Registry σ)
    (name : Text) (node : Shared (Node σ)) (before after : Registry σ) (number : Nat)
    (record : Issued σ) : Prop where
  earlier : ∃ sources, start.Evolves r free before sources
  /-- No cached block of the name had a node yet. -/
  unbuilt : ∀ (other : Nat) (record' : Issued σ), before.issued[other]? = some record' →
    record'.block.kind = .cached → record'.block.name = name → record'.node = none
  recorded : before.issued[number]? = some record
  kind : record.block.kind = .cached
  named : record.block.name = name
  /-- The node is made from the content and the parameter of this block. -/
  made : ∃ cell, node.value = .cached cell (record.block.param.map (.path r))
    (.template (before.bodyTemplate r record.config record.block.content))
  build : Registry.Built r number node before after
  later : ∃ sources, after.Evolves r free registry sources
  /-- A cached block of the name that is built at any later time gets this node. Nothing else
  changes: no text is compiled, and the entries stay as they are. -/
  others : ∀ (now now' : Registry σ) (sources : List (Text × Config)) (other : Nat)
    (record' : Issued σ) (node' : Shared (Node σ)), after.Evolves r free now sources →
    Registry.Built r other node' now now' → now.issued[other]? = some record' →
    record'.block.kind = .cached → record'.block.name = name →
    node' = node ∧ now' = now.keepNode other node

/-- The cached blocks of a name, in a registry that began as `start`, have one node. -/
structure OneNode (r : RegistryId) (free : Text → Prop) (start : Registry σ) (name : Text)
    (node : Shared (Node σ)) (s : Store σ) : Prop where
  /-- It is in the slot of the name. -/
  slot : (s.entries r).get? ("cached_".toList ++ name) = some (.block node)
  /-- Every block of the name that has been built has it. -/
  same : ∀ (number : Nat) (record : Issued σ) (node' : Shared (Node σ)),
    s.issued? ⟨r, number⟩ = some record → record.block.kind = .cached →
    record.block.name = name → record.node = some node' → node' = node
  /-- It was made when the first of them was built. -/
  origin : ∃ registry before after number record, s.registries[r]? = some registry ∧
    FirstBuild r free start registry name node before after number record
  /-- One that has not been built takes it, and does not compile anything. -/
  again : ∀ (number : Nat) (record : Issued σ), s.issued? ⟨r, number⟩ = some record →
    record.block.kind = .cached → record.block.name = name → record.node = none →
    s.open? r ≠ none →
    (Run.build ⟨r, number⟩).exec s = (.ok node,
      ((s.emit (.building .cached record.block.placeholder)).emit
        (.slotReused record.block.slot)).memoize ⟨r, number⟩ node)

/-- What is known of the node of a slot, said of the build it comes from. -/
theorem Registry.MadeFor.firstBuild {start registry : Registry σ} {block : Block}
    {node : Shared (Node σ)} (hstart : start.issued = []) (hfree : ¬ free block.slot)
    (h : start.MadeFor r free registry block.slot node) :
    ∃ before after number record,
      FirstBuild r free start registry block.name node before after number record := by
  obtain @⟨before, after, earlier, later, number, record, cell, hbefore, hnone, hbuild, hrecord,
    hkind, hslot, hvalue, hafter⟩ := h
  have hentry : after.entries.get? block.slot = some (.block node) :=
    hslot ▸ hbuild.own_slot hrecord hkind
  refine ⟨before, after, number, record, ⟨earlier, hbefore⟩, ?_, hrecord, hkind,
    Block.slot_inj.mp hslot, ⟨cell, hvalue⟩, hbuild, ⟨later, hafter⟩, ?_⟩
  · intro other record' hrecord' hkind' hname'
    by_contra hnode
    obtain ⟨node', hnode'⟩ := Option.ne_none_iff_exists'.mp hnode
    refine hnone other node' ⟨⟨record', hrecord', hkind', Block.slot_inj.mpr hname', hnode'⟩,
      fun _ hold => ?_⟩
    rw [hstart] at hold
    cases hold
  · intro now now' sources other record' node' hnow hbuilt hrecord' hkind' hname'
    have hkept : now.entries.get? record'.block.slot = some (.block node) := by
      rw [Block.slot_inj.mpr hname']
      exact hnow.slot_kept block.slot_ne_reference hfree hentry
    obtain ⟨rfl, heq⟩ := hbuilt.eq_keepNode hrecord' hkind' hkept
    exact ⟨rfl, heq⟩

/-- **A name has one node.** Let a registry start with partials, none of them under the name of a
slot, and let callers insert and remove no such name. Then in every history of the registry, as soon
as a cached block has been built, all cached blocks of its name have one node. -/
theorem History.one_node {start s : Store σ} {partials : Entries (Partial σ)} {isOpen : Bool}
    {sources : List (Text × Config)} {number : Nat} {record : Issued σ} {node : Shared (Node σ)}
    (hstart : start.registries[r]? = some ⟨partials, [], isOpen⟩)
    (hpartials : ∀ name entry, partials.get? name = some entry → ¬ "cached_".toList <+: name)
    (hfree : ∀ name, free name → ¬ "cached_".toList <+: name)
    (h : History r free start s sources) (hrecord : s.issued? ⟨r, number⟩ = some record)
    (hkind : record.block.kind = .cached) (hnode : record.node = some node) :
    OneNode r free ⟨partials, [], isOpen⟩ record.block.name node s := by
  obtain ⟨registry, hregistry, hevolves⟩ := h.evolves hstart
  have hissued := Store.issued?_eq hregistry
  have hprefix : "cached_".toList <+: record.block.slot := List.prefix_append ..
  have hleft : ¬ free record.block.slot := fun hslot => hfree _ hslot hprefix
  -- at the start there were no blocks, so what has a node was built since
  have hsince : ∀ {number' : Nat} {record' : Issued σ} {node' : Shared (Node σ)},
      s.issued? ⟨r, number'⟩ = some record' → record'.block.kind = .cached →
      record'.block.name = record.block.name → record'.node = some node' →
      Registry.BuiltSince ⟨partials, [], isOpen⟩ registry record.block.slot number' node' := by
    intro number' record' node' hrecord' hkind' hname' hnode'
    rw [hissued] at hrecord'
    exact ⟨⟨record', hrecord', hkind', Block.slot_inj.mpr hname', hnode'⟩,
      fun _ hnone => by cases hnone⟩
  have hbuilt := hsince hrecord hkind rfl hnode
  cases hevolves.slotState record.block.slot_ne_reference hleft with
  | untouched _ hnone => exact absurd hbuilt (hnone number node)
  | @shared kept hentry hsame horigin =>
    obtain rfl : node = kept := hsame number node hbuilt
    constructor
    · rw [Store.entries_eq hregistry]
      exact hentry
    · intro number' record' node' hrecord' hkind' hname' hnode'
      exact hsame number' node' (hsince hrecord' hkind' hname' hnode')
    · rcases horigin with hblock | ⟨-, hmade⟩
      · exact absurd hprefix (hpartials _ _ hblock)
      · obtain ⟨before, after, number₀, record₀, hfirst⟩ := hmade.firstBuild rfl hleft
        exact ⟨registry, before, after, number₀, record₀, hregistry, hfirst⟩
    · intro number' record' hrecord' hkind' hname' hfresh hopen
      have hisOpen : registry.isOpen = true := by
        by_contra hclosed
        exact hopen (Store.open?_eq_none hregistry hclosed)
      rw [hissued] at hrecord'
      refine Run.build_again hregistry hisOpen hrecord' hfresh hkind' ?_
      rw [Block.slot_inj.mpr hname']
      exact hentry

/-- The blocks of two texts, `={f}a={/f}` and `={f}b={/f}`: the second is built first, and the first
has its node. -/
theorem History.one_node_two_texts :
    let start := ((Store.empty ()).newRegistry []).2
    let s := ((Run.extract 0 .default "={f}a={/f}".toList).exec start).2
    let s' := ((Run.extract 0 .default "={f}b={/f}".toList).exec s).2
    let built := ((Run.build ⟨0, 0⟩).exec ((Run.build ⟨0, 1⟩).exec s').2).2
    ∃ node, built.nodeOf? ⟨0, 0⟩ = some node ∧
      OneNode 0 (fun _ => False) ⟨[], [], true⟩ "f".toList node built := by
  intro start s s' built
  have hstart : start.registries[0]? = some ⟨[], [], true⟩ := rfl
  have hhistory : History 0 (fun _ => False) start built _ :=
    .build ⟨0, 0⟩ (.build ⟨0, 1⟩ (.extract .default _ (.extract .default _ .start)))
  have hbuilt : (built.issued? ⟨0, 0⟩).map (fun record =>
      (record.block.kind, record.block.name, record.node.isSome)) =
        some (.cached, "f".toList, true) := by
    decide +kernel
  obtain ⟨record, hrecord, hfacts⟩ := Option.map_eq_some_iff.mp hbuilt
  obtain ⟨hkind, hname, hsome⟩ : record.block.kind = .cached ∧ record.block.name = "f".toList ∧
      record.node.isSome = true := by
    simpa only [Prod.mk.injEq] using hfacts
  obtain ⟨node, hnode⟩ := Option.isSome_iff_exists.mp hsome
  refine ⟨node, ?_, ?_⟩
  · rw [Store.nodeOf?, hrecord]
    exact hnode
  · rw [← hname]
    exact History.one_node hstart (fun _ _ hentry => by cases hentry) (fun _ hfree => hfree.elim)
      hhistory hrecord hkind hnode

end Templating
