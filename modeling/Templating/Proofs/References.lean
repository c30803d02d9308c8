import Templating.Proofs.History

/-!
# References to blocks

A reference in a text is a name, and what it stands for must not change while the text is around.
Numbers are issued in the middle of renderings, in an order that depends on everything that happened
before; but each extraction takes the next ones, and no number is given out again. So in every
history a reference is bound to the block that was put on record under its number, with the options
of the text that the block was taken out of, and the node of a block stays the one that was built
first.

* `Registry.Generated` — what has become of the entries of a registry since it was another one;
* `Registry.Referenced` — references are bound to the blocks on record, and to nothing else;
* `Captured` — records that extractions made, one after the other;
* `Registry.Retains` — later records keep blocks, options and nodes;
* `History.references` — references stay so in every history.
-/

namespace Templating

variable {σ : Type} {r : RegistryId} {config : Config}

-- ---------------------------------------------------------------------------
-- Names
-- ---------------------------------------------------------------------------

theorem Entries.get?_erase_of_ne {α : Type} {name other : Text} (h : name ≠ other) :
    ∀ entries : Entries α, (entries.erase name).get? other = entries.get? other
  | [] => rfl
  | (key, entry) :: rest => by
    by_cases hkey : key = name
    · subst hkey
      simp [erase, get?, h]
    · simp [erase, get?, hkey, get?_erase_of_ne h rest]

/-- No slot has the name of a reference. -/
theorem Block.slot_ne_reference (b : Block) (number : Nat) : b.slot ≠ Block.reference number := by
  intro heq
  have hslot : b.slot.head? = some 'c' := rfl
  have hreference : (reference number).head? = some 'b' := rfl
  rw [heq, hreference] at hslot
  exact absurd hslot (by decide)

-- ---------------------------------------------------------------------------
-- Records
-- ---------------------------------------------------------------------------

/-- Records as extractions make them, from the texts that callers compiled, latest first, each with
its options. An extraction takes the next numbers. The blocks of a text have the options of the
text, and those of a block the options of the block. -/
inductive Captured : List (Text × Config) → List (Block × Config) → Prop
  | nil : Captured [] []
  | source {sources : List (Text × Config)} {records : List (Block × Config)} (content : Text)
      (config : Config) : Captured sources records →
      Captured ((content, config) :: sources)
        (records ++ (Extraction.ofText records.length content).blocks.map fun b => (b, config))
  | body {sources : List (Text × Config)} {records : List (Block × Config)} {block : Block}
      {config : Config} {content : Text} : Captured sources records → (block, config) ∈ records →
      content ∈ block.bodies →
      Captured sources
        (records ++ (Extraction.ofText records.length content).blocks.map fun b => (b, config))

/-- A later record of a block: the block and the options are the same, and a node is kept. -/
structure Issued.Keeps (record record' : Issued σ) : Prop where
  block : record'.block = record.block
  config : record'.config = record.config
  node : ∀ node, record.node = some node → record'.node = some node

theorem Issued.Keeps.refl (record : Issued σ) : Keeps record record := ⟨rfl, rfl, fun _ h => h⟩

theorem Issued.Keeps.trans {record record' record'' : Issued σ} (h : Keeps record record')
    (h' : Keeps record' record'') : Keeps record record'' :=
  ⟨h'.block.trans h.block, h'.config.trans h.config,
    fun node hnode => h'.node node (h.node node hnode)⟩

namespace Registry

/-- The blocks on record, with their options. -/
def records (registry : Registry σ) : List (Block × Config) :=
  registry.issued.map fun record => (record.block, record.config)

theorem extract_issued (registry : Registry σ) (content : Text) :
    (registry.extract r config content).issued = registry.issued ++
      (Extraction.ofText registry.issued.length content).blocks.map
        fun block => ⟨block, config, none⟩ :=
  issueAll_issued _ registry

theorem records_extract (registry : Registry σ) (content : Text) :
    (registry.extract r config content).records = registry.records ++
      (Extraction.ofText registry.records.length content).blocks.map fun b => (b, config) := by
  simp [records, extract_issued]

theorem register_issued (registry : Registry σ) (slot : Option Text) (node : Shared (Node σ)) :
    (registry.register slot node).issued = registry.issued := by
  cases slot <;> rfl

@[simp] theorem records_register (registry : Registry σ) (slot : Option Text)
    (node : Shared (Node σ)) : (registry.register slot node).records = registry.records := by
  rw [records, register_issued, records]

@[simp] theorem records_keepNode (registry : Registry σ) (number : Nat) (node : Shared (Node σ)) :
    (registry.keepNode number node).records = registry.records := by
  refine List.ext_getElem? fun i => ?_
  by_cases hi : number = i
  · subst hi
    simp [records, keepNode, Function.comp_def]
  · simp [records, keepNode, List.getElem?_modify_ne _ _ hi]

/-- The later registry has a later record of every block. -/
def Retains (registry registry' : Registry σ) : Prop :=
  ∀ (number : Nat) (record : Issued σ), registry.issued[number]? = some record →
    ∃ record', registry'.issued[number]? = some record' ∧ record.Keeps record'

namespace Retains

variable {registry registry' registry'' : Registry σ}

theorem refl (registry : Registry σ) : Retains registry registry :=
  fun _ record h => ⟨record, h, .refl record⟩

theorem trans (h : Retains registry registry') (h' : Retains registry' registry'') :
    Retains registry registry'' := by
  intro number record hrecord
  obtain ⟨record', hrecord', hkeeps⟩ := h number record hrecord
  obtain ⟨record'', hrecord'', hkeeps'⟩ := h' number record' hrecord'
  exact ⟨record'', hrecord'', hkeeps.trans hkeeps'⟩

theorem of_extends (h : registry.issued <+: registry'.issued) : Retains registry registry' := by
  obtain ⟨new, hnew⟩ := h
  intro number record hrecord
  refine ⟨record, ?_, .refl record⟩
  rw [← hnew, List.getElem?_append_left (List.getElem?_eq_some_iff.mp hrecord).1, hrecord]

end Retains

theorem issued_prefix_extractAll : ∀ (contents : List Text) (registry : Registry σ),
    registry.issued <+: (registry.extractAll r config contents).issued
  | [], registry => List.prefix_refl _
  | content :: contents, registry =>
    have hfirst : registry.issued <+: (registry.extract r config content).issued := by
      rw [extract_issued]
      exact List.prefix_append ..
    hfirst.trans (issued_prefix_extractAll contents (registry.extract r config content))

/-- Keeping a node replaces none. -/
theorem retains_keepNode {registry : Registry σ} {number : Nat} {record : Issued σ}
    (hrecord : registry.issued[number]? = some record) (hfresh : record.node = none)
    (node : Shared (Node σ)) : registry.Retains (registry.keepNode number node) := by
  intro other old hold
  by_cases hother : number = other
  · subst hother
    rw [hrecord] at hold
    cases hold
    refine ⟨{ record with node := some node }, by simp [keepNode, hrecord], rfl, rfl, ?_⟩
    intro kept hkept
    rw [hfresh] at hkept
    cases hkept
  · exact ⟨old, (List.getElem?_modify_ne _ _ hother).trans hold, .refl old⟩

/-- Before the node of a build is kept, there are new records only. -/
theorem retains_made {registry : Registry σ} {number : Nat} {record : Issued σ}
    (hrecord : registry.issued[number]? = some record) (contents : List Text)
    (slot : Option Text) (node : Shared (Node σ)) :
    registry.Retains ((registry.extractAll r record.config contents).register slot node) ∧
      ((registry.extractAll r record.config contents).register slot node).issued[number]? =
        some record := by
  have hprefix : registry.issued <+:
      ((registry.extractAll r record.config contents).register slot node).issued := by
    rw [register_issued]
    exact issued_prefix_extractAll contents registry
  refine ⟨.of_extends hprefix, ?_⟩
  obtain ⟨new, hnew⟩ := hprefix
  rw [← hnew, List.getElem?_append_left (List.getElem?_eq_some_iff.mp hrecord).1, hrecord]

/-- A build keeps all records, and gives a node to one that has none. -/
theorem Built.retains {registry registry' : Registry σ} {number : Nat} {node : Shared (Node σ)}
    (h : Built r number node registry registry') : registry.Retains registry' := by
  obtain @⟨record, _, hrecord, hfresh, hmade⟩ := h
  obtain ⟨contents, slot, -, -, rfl⟩ := hmade.parts
  obtain ⟨hretains, hold⟩ := retains_made (r := r) hrecord contents slot node
  exact hretains.trans (retains_keepNode hold hfresh node)

/-- The node that a build made is on record. -/
theorem Built.kept {registry registry' : Registry σ} {number : Nat} {node : Shared (Node σ)}
    (h : Built r number node registry registry') :
    ∃ record, registry'.issued[number]? = some record ∧ record.node = some node := by
  obtain @⟨record, _, hrecord, -, hmade⟩ := h
  obtain ⟨contents, slot, -, -, rfl⟩ := hmade.parts
  obtain ⟨-, hold⟩ := retains_made (r := r) hrecord contents slot node
  exact ⟨{ record with node := some node }, by simp [keepNode, hold], rfl⟩

/-- What a build puts on record are the blocks in the texts of a block on record. -/
theorem Built.captured {registry registry' : Registry σ} {number : Nat} {node : Shared (Node σ)}
    {sources : List (Text × Config)} (h : Built r number node registry registry')
    (hcaptured : Captured sources registry.records) : Captured sources registry'.records := by
  obtain @⟨record, _, hrecord, -, hmade⟩ := h
  obtain ⟨contents, slot, hcontents, -, rfl⟩ := hmade.parts
  have hmem : (record.block, record.config) ∈ registry.records :=
    List.mem_map_of_mem (List.mem_of_getElem? hrecord)
  rw [records_keepNode, records_register]
  have hbodies : ∀ content ∈ contents, content ∈ record.block.bodies :=
    fun content hcontent => hcontents.subset hcontent
  clear hcontents hrecord hmade
  induction contents generalizing registry with
  | nil => exact hcaptured
  | cons content contents ih =>
    obtain ⟨hbody, hrest⟩ := List.forall_mem_cons.mp hbodies
    refine ih ?_ ?_ hrest
    · rw [records_extract]
      exact hcaptured.body hmem hbody
    · rw [records_extract]
      exact List.mem_append_left _ hmem

-- ---------------------------------------------------------------------------
-- Entries
-- ---------------------------------------------------------------------------

/-- Each reference that was issued is bound to the block on record under its number. Every other
name that callers may not use and that is no slot has the entry that it had among `partials`. -/
structure Referenced (r : RegistryId) (free : Text → Prop) (partials : Entries (Partial σ))
    (registry : Registry σ) : Prop where
  issued : ∀ number < registry.issued.length,
    registry.entries.get? (Block.reference number) = some (.deferred ⟨r, number⟩)
  others : ∀ name, ¬ free name → (∀ b : Block, name ≠ b.slot) →
    (∀ number < registry.issued.length, name ≠ Block.reference number) →
    registry.entries.get? name = partials.get? name

/-- What has become of the names that callers may not use since a registry was `first`: references
issued since are bound to the blocks on record under their numbers, and every other name that is no
slot has the entry that it had. -/
structure Generated (r : RegistryId) (free : Text → Prop) (first registry : Registry σ) :
    Prop where
  grows : first.issued.length ≤ registry.issued.length
  issued : ∀ number, first.issued.length ≤ number → number < registry.issued.length →
    ¬ free (Block.reference number) →
    registry.entries.get? (Block.reference number) = some (.deferred ⟨r, number⟩)
  others : ∀ name, ¬ free name → (∀ b : Block, name ≠ b.slot) →
    (∀ number, first.issued.length ≤ number → number < registry.issued.length →
      name ≠ Block.reference number) →
    registry.entries.get? name = first.entries.get? name

namespace Generated

variable {free : Text → Prop} {first registry : Registry σ}

theorem refl (first : Registry σ) : first.Generated r free first where
  grows := Nat.le_refl _
  issued := fun _ hold hnew => absurd hnew (Nat.not_lt.mpr hold)
  others := fun _ _ _ _ => rfl

theorem extract (h : first.Generated r free registry) (config : Config) (content : Text) :
    first.Generated r free (registry.extract r config content) := by
  have hlength : (registry.extract r config content).issued.length = registry.issued.length +
      (Extraction.ofText registry.issued.length content).blocks.length := by
    rw [extract_issued, List.length_append, List.length_map]
  have hgrows := h.grows
  constructor
  · omega
  · intro number hold hnew hname
    rw [hlength] at hnew
    rcases Nat.lt_or_ge number registry.issued.length with hlt | hge
    · have hne : ∀ i < (Extraction.ofText registry.issued.length content).blocks.length,
          Block.reference number ≠ Block.reference (registry.issued.length + i) := by
        intro i _ heq
        have := Block.reference_injective heq
        omega
      exact (issueAll_get?_of_ne hne).trans (h.issued number hold hlt hname)
    · obtain ⟨i, rfl⟩ := Nat.exists_eq_add_of_le hge
      exact issueAll_get?_reference _ registry i (by omega)
  · intro name hfree hslot hname
    rw [hlength] at hname
    have hne : ∀ i < (Extraction.ofText registry.issued.length content).blocks.length,
        name ≠ Block.reference (registry.issued.length + i) :=
      fun i hi => hname _ (by omega) (by omega)
    exact (issueAll_get?_of_ne hne).trans
      (h.others name hfree hslot fun number hold hnew => hname number hold (by omega))

theorem extractAll (config : Config) : ∀ (contents : List Text) {registry : Registry σ},
    first.Generated r free registry →
      first.Generated r free (registry.extractAll r config contents)
  | [], _, h => h
  | content :: contents, _, h => extractAll config contents (h.extract config content)

/-- A change of the entries that leaves alone the names that callers may not use, slots apart. -/
theorem of_get? (h : first.Generated r free registry) {registry' : Registry σ}
    (hlength : registry'.issued.length = registry.issued.length)
    (hentries : ∀ name, ¬ free name → (∀ b : Block, name ≠ b.slot) →
      registry'.entries.get? name = registry.entries.get? name) :
    first.Generated r free registry' := by
  constructor
  · rw [hlength]
    exact h.grows
  · intro number hold hnew hname
    rw [hentries _ hname fun b => (b.slot_ne_reference number).symm]
    exact h.issued number hold (hlength ▸ hnew) hname
  · intro name hfree hslot hname
    rw [hentries name hfree hslot]
    exact h.others name hfree hslot (hlength ▸ hname)

theorem register (h : first.Generated r free registry) {slot : Option Text} {b : Block}
    (hslot : ∀ name ∈ slot, name = b.slot) (node : Shared (Node σ)) :
    first.Generated r free (registry.register slot node) := by
  cases slot with
  | none => exact h
  | some name =>
    obtain rfl := hslot name rfl
    refine h.of_get? rfl fun name _ hname => ?_
    exact (Entries.get?_insert ..).trans (if_neg (hname b).symm)

theorem keepNode (h : first.Generated r free registry) (number : Nat) (node : Shared (Node σ)) :
    first.Generated r free (registry.keepNode number node) :=
  h.of_get? (List.length_modify ..) fun _ _ _ => rfl

theorem built (h : first.Generated r free registry) {registry' : Registry σ} {number : Nat}
    {node : Shared (Node σ)} (hbuilt : Built r number node registry registry') :
    first.Generated r free registry' := by
  obtain ⟨-, -, hmade⟩ := hbuilt
  obtain ⟨contents, slot, -, hslot, rfl⟩ := hmade.parts
  exact ((h.extractAll _ _).register hslot node).keepNode _ node

end Generated

-- ---------------------------------------------------------------------------
-- Every history
-- ---------------------------------------------------------------------------

section Evolves

variable {free : Text → Prop} {start registry : Registry σ} {sources : List (Text × Config)}

theorem Evolves.generated (h : start.Evolves r free registry sources) :
    start.Generated r free registry := by
  induction h with
  | start => exact .refl start
  | extract config content _ ih => exact ih.extract config content
  | build _ hbuilt ih => exact ih.built hbuilt
  | insert entry _ hname ih =>
    refine ih.of_get? rfl fun other hother _ => ?_
    refine (Entries.get?_insert ..).trans (if_neg ?_)
    rintro rfl
    exact hother hname
  | erase _ hname ih =>
    refine ih.of_get? rfl fun other hother _ => ?_
    refine Entries.get?_erase_of_ne ?_ _
    rintro rfl
    exact hother hname
  | close _ _ ih => exact ⟨ih.grows, ih.issued, ih.others⟩

theorem Evolves.referenced (hstart : start.issued = [])
    (hfree : ∀ name, free name → ∀ number, name ≠ Block.reference number)
    (h : start.Evolves r free registry sources) :
    registry.Referenced r free start.entries := by
  have hgenerated := h.generated
  have hold : ∀ number, start.issued.length ≤ number := by simp [hstart]
  constructor
  · intro number hnumber
    exact hgenerated.issued number (hold number) hnumber fun hname => hfree _ hname number rfl
  · intro name hname hslot hother
    exact hgenerated.others name hname hslot fun number _ hnumber => hother number hnumber

theorem Evolves.captured (hstart : start.issued = []) (h : start.Evolves r free registry sources) :
    Captured sources registry.records := by
  induction h with
  | start =>
    rw [records, hstart]
    exact .nil
  | extract config content _ ih =>
    rw [records_extract]
    exact ih.source content config
  | build _ hbuilt ih => exact hbuilt.captured ih
  | insert _ _ _ ih => exact ih
  | erase _ _ ih => exact ih
  | close _ _ ih => exact ih

theorem Evolves.retains (h : start.Evolves r free registry sources) : start.Retains registry := by
  induction h with
  | start => exact .refl _
  | extract config content _ ih =>
    refine ih.trans (.of_extends ?_)
    rw [extract_issued]
    exact List.prefix_append ..
  | build _ hbuilt ih => exact ih.trans hbuilt.retains
  | insert _ _ _ ih => exact ih
  | erase _ _ ih => exact ih
  | close _ _ ih => exact ih

end Evolves

end Registry

-- ---------------------------------------------------------------------------
-- Nodes
-- ---------------------------------------------------------------------------

/-- Later records have later nodes. -/
theorem Store.nodeOf?_of_retains {s s' : Store σ} {registry registry' : Registry σ} {number : Nat}
    {node : Shared (Node σ)} (hregistry : s.registries[r]? = some registry)
    (hregistry' : s'.registries[r]? = some registry') (hretains : registry.Retains registry')
    (hnode : s.nodeOf? ⟨r, number⟩ = some node) : s'.nodeOf? ⟨r, number⟩ = some node := by
  obtain ⟨record, hrecord, hkept⟩ := Option.bind_eq_some_iff.mp hnode
  rw [issued?_eq hregistry] at hrecord
  obtain ⟨record', hrecord', hkeeps⟩ := hretains number record hrecord
  rw [nodeOf?, issued?_eq hregistry', hrecord']
  exact hkeeps.node node hkept

namespace Run

variable {s s' : Store σ} {b : BlockId} {node : Shared (Node σ)}

/-- A block that is built is not built again. -/
theorem build_of_nodeOf? (h : s.nodeOf? b = some node) : (build b).exec s = (.ok node, s) := by
  obtain ⟨record, hrecord, hnode⟩ := Option.bind_eq_some_iff.mp h
  rw [build, exec_bind_ok (exec_get s), hrecord]
  simp only [hnode]
  rfl

/-- What a build gives is the node of the block from then on. -/
theorem nodeOf?_of_build (h : (build b).exec s = (.ok node, s')) : s'.nodeOf? b = some node := by
  rcases build_cases b s with
    ⟨hsame, hkept⟩ | ⟨made, registry, registry', hok, -, hbuilt, hreplaced⟩
  · rw [h] at hsame hkept
    rw [Store.nodeOf?, Store.issued?, show s'.registries = s.registries from hsame]
    exact hkept node rfl
  · rw [h] at hok hreplaced
    cases hok
    obtain ⟨record, hrecord, hnode⟩ := hbuilt.kept
    rw [Store.nodeOf?, Store.issued?_eq hreplaced.here, hrecord]
    exact hnode

end Run

-- ---------------------------------------------------------------------------
-- References in every history
-- ---------------------------------------------------------------------------

/-- What a store says of the references of a registry, after the texts in `sources` were compiled
against it. `partials` is what it held at first. -/
structure Intact (r : RegistryId) (free : Text → Prop) (partials : Entries (Partial σ))
    (sources : List (Text × Config)) (s : Store σ) : Prop where
  /-- The names of blocks are those of the numbers issued, and each is bound to the block on record
  under its number. -/
  bound : ∀ number, (s.entries r).get? (Block.reference number) =
    if number < s.nextNumber r then some (.deferred ⟨r, number⟩) else none
  /-- Any other name that callers may not use and that is no slot is bound as it was. -/
  others : ∀ name, ¬ free name → (∀ b : Block, name ≠ b.slot) →
    (∀ number, name ≠ Block.reference number) → (s.entries r).get? name = partials.get? name
  /-- The records are those that extractions made, each of which took the next numbers. -/
  captured : ∃ records, Captured sources records ∧ records.length = s.nextNumber r ∧
    ∀ number, (s.issued? ⟨r, number⟩).map (fun record => (record.block, record.config)) =
      records[number]?
  /-- Whatever happens next, every block stays on record. -/
  kept : ∀ s' later, History r free s s' later → ∀ number record,
    s.issued? ⟨r, number⟩ = some record →
      ∃ record', s'.issued? ⟨r, number⟩ = some record' ∧ record.Keeps record'
  /-- If a block is built now, then whatever happens next its node is the one that is made now. -/
  built : ∀ number node s₁, (Run.build ⟨r, number⟩).exec s = (.ok node, s₁) →
    ∀ s' later, History r free s₁ s' later → (Run.build ⟨r, number⟩).exec s' = (.ok node, s')

/-- **References stay intact.** Let a registry hold partials, none under the name of a block, and
let callers insert and remove no such name. Then in every history of the registry its references are
those that extractions issued, and what they stand for never changes. -/
theorem History.references {free : Text → Prop} {start s : Store σ} {partials : Entries (Partial σ)}
    {isOpen : Bool} {sources : List (Text × Config)}
    (hstart : start.registries[r]? = some ⟨partials, [], isOpen⟩)
    (hpartials : ∀ number, partials.get? (Block.reference number) = none)
    (hfree : ∀ name, free name → ∀ number, name ≠ Block.reference number)
    (h : History r free start s sources) : Intact r free partials sources s := by
  obtain ⟨registry, hregistry, hevolves⟩ := h.evolves hstart
  have hreferenced := hevolves.referenced rfl hfree
  have hentries := Store.entries_eq hregistry
  have hnumber := Store.nextNumber_eq hregistry
  have hissued := Store.issued?_eq hregistry
  constructor
  · intro number
    rw [hentries, hnumber]
    split
    · next hlt => exact hreferenced.issued number hlt
    · next hge =>
      -- the name of a number that was not issued is one of the others
      rw [← hpartials number]
      refine hreferenced.others _ (fun hname => hfree _ hname number rfl)
        (fun b => (b.slot_ne_reference number).symm) fun other hother heq => hge ?_
      rwa [Block.reference_injective heq]
  · intro name hname hslot hother
    rw [hentries]
    exact hreferenced.others name hname hslot fun number _ => hother number
  · refine ⟨registry.records, hevolves.captured rfl, ?_, fun number => ?_⟩
    · rw [hnumber, Registry.records, List.length_map]
    · rw [hissued, Registry.records, List.getElem?_map]
  · intro s' later hlater number record hrecord
    obtain ⟨registry', hregistry', hevolves'⟩ := hlater.evolves hregistry
    rw [hissued] at hrecord
    obtain ⟨record', hrecord', hkeeps⟩ := hevolves'.retains number record hrecord
    exact ⟨record', (Store.issued?_eq hregistry' number).trans hrecord', hkeeps⟩
  · intro number node s₁ hbuild s' later hlater
    have hnode : s₁.nodeOf? ⟨r, number⟩ = some node := Run.nodeOf?_of_build hbuild
    have hbuilt : History r free start s₁ sources := by
      have hstep := h.build ⟨r, number⟩
      rwa [hbuild] at hstep
    obtain ⟨registry₁, hregistry₁, -⟩ := hbuilt.evolves hstart
    obtain ⟨registry', hregistry', hevolves'⟩ := hlater.evolves hregistry₁
    exact Run.build_of_nodeOf?
      (Store.nodeOf?_of_retains hregistry₁ hregistry' hevolves'.retains hnode)

/-- A block within a block, `#{a}?{b}x?{/b}#{/a}`: building the outer one, after the caller has
inserted a value, issues the second number. -/
theorem History.references_nested :
    let content := "#{a}?{b}x?{/b}#{/a}".toList
    let start := ((Store.empty ()).newRegistry []).2
    ∃ t s, (Run.compile 0 true .default content).exec start = (.ok t, s) ∧
      let s' := ((Run.build ⟨0, 0⟩).exec (s.insert 0 "g".toList (.value .null))).2
      s'.nextNumber 0 = 2 ∧ Intact 0 (· = "g".toList) [] [(content, .default)] s' := by
  intro content start
  refine ⟨_, _, rfl, by decide +kernel, ?_⟩
  have hfree : ∀ name, name = "g".toList → ∀ number, name ≠ Block.reference number := by
    rintro name rfl number heq
    have hhead : some 'g' = some 'b' := congrArg List.head? heq
    exact absurd hhead (by decide)
  have hstart : start.registries[0]? = some ⟨[], [], true⟩ := rfl
  refine History.references hstart (fun _ => rfl) hfree ?_
  exact .build _ (.insert _ (.compile true .default content .start rfl) rfl)

end Templating
