import Mathlib.Logic.Relation
import Templating.Proofs.Effects
import Templating.Proofs.Extraction

/-!
# What a build changes

Building a block for the first time compiles the texts that it holds, which issues the blocks in
them, and keeps the node; the node of a cached block may be registered under its slot, or found
there. It all happens in the registry of the block, and either as a whole or, where that registry is
closed, not at all.

* `Block.bodies` — the texts that a block holds;
* `Registry.Made` — a registry before and after the node of a block was made, by the kind of the
  block and what its slot holds; `Registry.Made.parts` is what all these have in common;
* `Registry.Built` — a registry before and after a block of it was built;
* `Run.build_cases` — a build does this or nothing;
* `Node.render_built` — so rendering changes a registry by builds alone.
-/

namespace Templating

variable {σ : Type}

/-- The texts that the node of a block is made from: two for a conditional block with an else part,
one for every other block. -/
def Block.bodies (b : Block) : List Text :=
  match b.kind with
  | .conditional => b.branches.1 :: b.branches.2.toList
  | _ => [b.content]

theorem Block.bodies_of_ne {b : Block} (hkind : b.kind ≠ .conditional) :
    b.bodies = [b.content] := by
  rw [bodies]
  split
  · next hconditional => exact absurd hconditional hkind
  · rfl

-- ---------------------------------------------------------------------------
-- Registries
-- ---------------------------------------------------------------------------

namespace Registry

/-- A registry after the blocks of a text have been taken out and issued in it. -/
def extract (r : RegistryId) (config : Config) (registry : Registry σ) (content : Text) :
    Registry σ :=
  registry.issueAll r config (Extraction.ofText registry.issued.length content).blocks

/-- A registry after the blocks of several texts have been, one text after the other. -/
def extractAll (r : RegistryId) (config : Config) (registry : Registry σ) (contents : List Text) :
    Registry σ :=
  contents.foldl (extract r config) registry

/-- A registry with a node registered under a name, if there is one. -/
def register (registry : Registry σ) (slot : Option Text) (node : Shared (Node σ)) : Registry σ :=
  match slot with
  | none => registry
  | some name => { registry with entries := registry.entries.insert name (.block node) }

/-- A registry with the node of an issued block kept. -/
def keepNode (registry : Registry σ) (number : Nat) (node : Shared (Node σ)) : Registry σ :=
  { registry with
    issued := registry.issued.modify number fun record => { record with node := some node } }

/-- The template that the text of a block becomes. -/
def bodyTemplate (r : RegistryId) (config : Config) (registry : Registry σ) (content : Text) :
    Template :=
  ⟨(Extraction.ofText registry.issued.length content).residual, r, false, config⟩

/-- A registry before and after the node of a block was made. A cached block of a slot that holds a
node has that node, and compiles nothing; every other block compiles what it holds, and the node of
a cached one is registered under its slot, whatever else stood there. -/
inductive Made (r : RegistryId) (config : Config) (block : Block) (node : Shared (Node σ))
    (registry : Registry σ) : Registry σ → Prop
  | plain (hkind : block.kind ≠ .cached) :
      Made r config block node registry (registry.extractAll r config block.bodies)
  | first {cell : CellId} (hkind : block.kind = .cached)
      (hslot : ∀ other, registry.entries.get? block.slot ≠ some (.block other))
      (hnode : node.value = .cached cell (block.param.map (.path r))
        (.template (registry.bodyTemplate r config block.content))) :
      Made r config block node registry
        ((registry.extract r config block.content).register (some block.slot) node)
  | again (hkind : block.kind = .cached)
      (hslot : registry.entries.get? block.slot = some (.block node)) :
      Made r config block node registry registry

/-- A registry before and after one of its blocks, which had no node, was built. -/
inductive Built (r : RegistryId) (number : Nat) (node : Shared (Node σ)) (registry : Registry σ) :
    Registry σ → Prop
  | intro {record : Issued σ} {registry' : Registry σ}
      (hrecord : registry.issued[number]? = some record) (hfresh : record.node = none)
      (hmade : registry.Made r record.config record.block node registry') :
      Built r number node registry (registry'.keepNode number node)

variable {r : RegistryId} {config : Config}

@[simp] theorem extract_isOpen (registry : Registry σ) (content : Text) :
    (registry.extract r config content).isOpen = registry.isOpen :=
  issueAll_isOpen _ registry

/-- Whatever the kind of the block, texts of it were compiled, and then its slot may have got the
node. -/
theorem Made.parts {block : Block} {node : Shared (Node σ)} {registry registry' : Registry σ}
    (h : registry.Made r config block node registry') :
    ∃ contents slot, contents.Sublist block.bodies ∧ (∀ name ∈ slot, name = block.slot) ∧
      registry' = (registry.extractAll r config contents).register slot node := by
  cases h with
  | plain hkind => exact ⟨block.bodies, none, List.Sublist.refl _, by simp, rfl⟩
  | first hkind hslot hnode =>
    have hbodies : block.bodies = [block.content] := Block.bodies_of_ne (by simp [hkind])
    exact ⟨[block.content], some block.slot, by rw [hbodies], by simp, rfl⟩
  | again hkind hslot => exact ⟨[], none, List.nil_sublist _, by simp, rfl⟩

end Registry

/-- The node of a block, once it is built. -/
def Store.nodeOf? (s : Store σ) (b : BlockId) : Option (Shared (Node σ)) :=
  (s.issued? b).bind (·.node)

/-- The second store has another registry under a number, and the same under every other. -/
structure Store.Replaced (r : RegistryId) (registry : Registry σ) (s s' : Store σ) : Prop where
  here : s'.registries[r]? = some registry
  others : ∀ r' ≠ r, s'.registries[r']? = s.registries[r']?

namespace Store.Replaced

variable {r : RegistryId} {registry registry' : Registry σ} {s s' s'' : Store σ}

theorem refl (h : s.registries[r]? = some registry) : Replaced r registry s s :=
  ⟨h, fun _ _ => rfl⟩

theorem trans (h : Replaced r registry s s') (h' : Replaced r registry' s' s'') :
    Replaced r registry' s s'' :=
  ⟨h'.here, fun r' hne => (h'.others r' hne).trans (h.others r' hne)⟩

theorem same (h : Replaced r registry s s') (hsame : s''.registries = s'.registries) :
    Replaced r registry s s'' :=
  h.trans ⟨hsame ▸ h.here, fun r' _ => by rw [hsame]⟩

theorem modify (h : Replaced r registry s s') (f : Registry σ → Registry σ) :
    Replaced r (f registry) s (s'.modifyRegistry r f) := by
  refine h.trans ⟨?_, fun r' hne => ?_⟩
  · show (s'.registries.modify r f)[r]? = _
    rw [List.getElem?_modify_eq, h.here]
    rfl
  · exact List.getElem?_modify_ne _ _ (Ne.symm hne)

theorem insert (h : Replaced r registry s s') (name : Text) (node : Shared (Node σ)) :
    Replaced r (registry.register (some name) node) s (s'.insert r name (.block node)) :=
  h.modify fun registry =>
    { registry with entries := registry.entries.insert name (.block node) }

theorem memoize (h : Replaced r registry s s') (number : Nat) (node : Shared (Node σ)) :
    Replaced r (registry.keepNode number node) s (s'.memoize ⟨r, number⟩ node) :=
  h.modify fun registry => registry.keepNode number node

theorem extract (h : s.registries[r]? = some registry) (config : Config) (content : Text) :
    Replaced r (registry.extract r config content) s
      (s.issueAll r config (Extraction.ofText (s.nextNumber r) content).blocks) := by
  rw [nextNumber_eq h]
  exact ⟨issueAll_registry _ h, fun r' hne => issueAll_other hne _ s⟩

end Store.Replaced

namespace Run

open Store

variable {r : RegistryId} {registry : Registry σ} {s : Store σ}

-- ---------------------------------------------------------------------------
-- Compiling
-- ---------------------------------------------------------------------------

/-- Against an open registry every text compiles, which issues the blocks in it. -/
theorem compile_open (h : s.registries[r]? = some registry) (hopen : registry.isOpen = true)
    (ownsRegistry : Bool) (config : Config) (content : Text) :
    ∃ s', (compile r ownsRegistry config content).exec s =
        (.ok ⟨(Extraction.ofText (s.nextNumber r) content).residual, r, ownsRegistry, config⟩,
          s') ∧
      Replaced r (registry.extract r config content) s s' := by
  obtain ⟨s', hexec, hsame⟩ := compile_exec (open?_eq h hopen) ownsRegistry config content
  exact ⟨s', hexec, (Replaced.extract h config content).same hsame⟩

theorem nested_open (h : s.registries[r]? = some registry) (hopen : registry.isOpen = true)
    (config : Config) (content : Text) :
    ∃ s', (nested r config content).exec s =
        (.ok (.template (registry.bodyTemplate r config content)), s') ∧
      Replaced r (registry.extract r config content) s s' := by
  obtain ⟨s', hexec, hreplaced⟩ := compile_open h hopen false config content
  rw [nextNumber_eq h] at hexec
  exact ⟨s', exec_bind_ok hexec _, hreplaced⟩

theorem nested_plain (hopen : s.open? r = some registry) {content : Text}
    (hplain : Block.find? content = none) (config : Config) :
    (nested r config content).exec s = (.ok (.template ⟨content, r, false, config⟩), s) :=
  exec_bind_ok (compile_plain hopen hplain false config) _

theorem nested_closed (h : s.open? r = none) (config : Config) (content : Text) :
    (nested r config content).exec s = (.error (.error .registryDropped), s) :=
  exec_bind_error (compile_closed h false config content) _

-- ---------------------------------------------------------------------------
-- Building
-- ---------------------------------------------------------------------------

/-- The computation makes the node of a block, in the registry of the block. -/
def Makes (r : RegistryId) (config : Config) (block : Block) (registry : Registry σ)
    (x : Run σ (Shared (Node σ))) (s : Store σ) : Prop :=
  ∃ node registry' s', x.exec s = (.ok node, s') ∧
    registry.Made r config block node registry' ∧ Replaced r registry' s s'

theorem makes_around (h : s.registries[r]? = some registry) (hopen : registry.isOpen = true)
    (config : Config) {block : Block} (hkind : block.kind ≠ .conditional)
    (hkind' : block.kind ≠ .cached) (around : Node σ → Node σ) :
    Makes r config block registry (do
      let body ← nested r config block.content
      modifyGet fun s => s.share (around body)) s := by
  obtain ⟨s₁, hexec, hreplaced⟩ := nested_open h hopen config block.content
  have hmade : ∀ node, registry.Made r config block node
      (registry.extractAll r config block.bodies) := fun node => .plain hkind'
  rw [Block.bodies_of_ne hkind] at hmade
  rw [Makes, exec_bind_ok hexec]
  exact ⟨_, _, _, rfl, hmade _, hreplaced.same rfl⟩

/-- In an open registry the node of a block can be made. -/
theorem buildNode_open (h : s.registries[r]? = some registry) (hopen : registry.isOpen = true)
    (config : Config) (block : Block) :
    Makes r config block registry (buildNode r config block) s := by
  unfold buildNode
  cases hkind : block.kind with
  | conditional =>
    have hbodies : block.bodies = block.branches.1 :: block.branches.2.toList := by
      rw [Block.bodies, hkind]
    have hmade : ∀ node, registry.Made r config block node
        (registry.extractAll r config block.bodies) := fun node => .plain (by simp [hkind])
    obtain ⟨s₁, hexec, hreplaced⟩ := nested_open h hopen config block.branches.1
    cases hbranches : block.branches with
    | mk first second =>
      rw [hbranches] at hbodies hexec hreplaced
      rw [hbodies] at hmade
      simp only
      cases second with
      | none =>
        rw [Makes, exec_bind_ok hexec]
        exact ⟨_, _, _, rfl, hmade _, hreplaced.same rfl⟩
      | some second =>
        -- the registry is as open for the second text as it was for the first
        have hopen' : (registry.extract r config first).isOpen = true :=
          (Registry.extract_isOpen registry first).trans hopen
        obtain ⟨s₂, hexec', hreplaced'⟩ := nested_open hreplaced.here hopen' config second
        rw [Makes, exec_bind_ok hexec, exec_bind_ok hexec']
        exact ⟨_, _, _, rfl, hmade _, (hreplaced.trans hreplaced').same rfl⟩
  | repeating => exact makes_around h hopen config (by simp [hkind]) (by simp [hkind]) _
  | tabIndented => exact makes_around h hopen config (by simp [hkind]) (by simp [hkind]) _
  | spaceIndented => exact makes_around h hopen config (by simp [hkind]) (by simp [hkind]) _
  | cached =>
    simp only
    rw [Makes, exec_bind_ok (exec_requireOpen (open?_eq h hopen)), exec_bind_ok (exec_get s),
      entries_eq h]
    split
    · next node hslot =>
      -- the slot has a node, which is used again
      rw [exec_bind_ok (exec_emit ..)]
      exact ⟨node, registry, _, rfl, .again hkind hslot, (Replaced.refl h).same rfl⟩
    · next hslot =>
      obtain ⟨s₁, hexec, hreplaced⟩ := nested_open h hopen config block.content
      obtain ⟨cell, s₂, hcell, hsame⟩ : ∃ cell s₂,
          (modifyGet Store.newCell : Run σ CellId).exec s₁ = (.ok cell, s₂) ∧
            s₂.registries = s₁.registries := ⟨_, _, rfl, rfl⟩
      rw [exec_bind_ok hexec, exec_bind_ok hcell, exec_bind_ok (exec_modifyGet ..),
        exec_bind_ok (exec_modify ..)]
      have hshared : Replaced r (registry.extract r config block.content) s
          (s₂.share (Node.cached (σ := σ) cell (block.param.map (Validator.path r))
            (.template (registry.bodyTemplate r config block.content)))).2 :=
        hreplaced.same hsame
      exact ⟨_, _, _, rfl, .first hkind hslot rfl, hshared.insert block.slot _⟩

/-- In a closed one it cannot, and nothing changes. -/
theorem buildNode_closed (h : s.open? r = none) (config : Config) (block : Block) :
    (buildNode r config block).exec s = (.error (.error .registryDropped), s) := by
  unfold buildNode
  cases block.kind with
  | conditional => exact exec_bind_error (nested_closed h config _) _
  | repeating => exact exec_bind_error (nested_closed h config _) _
  | tabIndented => exact exec_bind_error (nested_closed h config _) _
  | spaceIndented => exact exec_bind_error (nested_closed h config _) _
  | cached => exact exec_bind_error (exec_requireOpen_closed h) _

/-- **A build makes the node of a block that has none, in the registry of the block, or it changes
no registry** and gives the node that the block has, if it gives one. -/
theorem build_cases (b : BlockId) (s : Store σ) :
    (((build b).exec s).2.registries = s.registries ∧
        ∀ node, ((build b).exec s).1 = .ok node → s.nodeOf? b = some node) ∨
      ∃ node registry registry', ((build b).exec s).1 = .ok node ∧
        s.registries[b.registry]? = some registry ∧
        Registry.Built b.registry b.number node registry registry' ∧
        Replaced b.registry registry' s ((build b).exec s).2 := by
  obtain ⟨r, number⟩ := b
  rw [build, exec_bind_ok (exec_get s)]
  cases hissued : s.issued? ⟨r, number⟩ with
  | none => exact .inl ⟨rfl, fun node hok => by cases hok⟩
  | some record =>
    obtain ⟨registry, hregistry, hrecord⟩ := Option.bind_eq_some_iff.mp hissued
    simp only
    cases hnode : record.node with
    | some kept =>
      refine .inl ⟨rfl, fun node hok => ?_⟩
      cases hok
      rw [nodeOf?, hissued]
      exact hnode
    | none =>
      simp only
      rw [exec_bind_ok (exec_emit ..)]
      have hemitted : Replaced r registry s
          (s.emit (.building record.block.kind record.block.placeholder)) :=
        (Replaced.refl hregistry).same rfl
      by_cases hopen : registry.isOpen = true
      · obtain ⟨node, registry', s', hexec, hmade, hreplaced⟩ :=
          buildNode_open hemitted.here hopen record.config record.block
        rw [exec_bind_ok hexec, exec_bind_ok (exec_modify ..)]
        refine .inr ⟨node, registry, _, rfl, hregistry, .intro hrecord hnode hmade, ?_⟩
        exact hemitted.trans (hreplaced.memoize number node)
      · have hclosed : (s.emit (.building record.block.kind
            record.block.placeholder)).open? r = none := open?_eq_none hemitted.here hopen
        rw [exec_bind_error (buildNode_closed hclosed ..)]
        exact .inl ⟨rfl, fun node hok => by cases hok⟩

end Run

-- ---------------------------------------------------------------------------
-- Rendering
-- ---------------------------------------------------------------------------

/-- In the second store a registry is what builds made of it. -/
def Store.Builds (r : RegistryId) (s s' : Store σ) : Prop :=
  ∀ registry, s.registries[r]? = some registry →
    ∃ registry', s'.registries[r]? = some registry' ∧ Relation.ReflTransGen
      (fun before after => ∃ number node, Registry.Built r number node before after)
      registry registry'

theorem Store.spans_builds (r : RegistryId) : Spans (Store.Builds (σ := σ) r) where
  trans := by
    intro s s' s'' h h' registry hregistry
    obtain ⟨registry', hregistry', hbuilt⟩ := h registry hregistry
    obtain ⟨registry'', hregistry'', hbuilt'⟩ := h' registry' hregistry'
    exact ⟨registry'', hregistry'', hbuilt.trans hbuilt'⟩
  same := fun hsame registry hregistry => ⟨registry, by rw [hsame, hregistry], .refl⟩
  build := by
    intro b s registry hregistry
    rcases Run.build_cases b s with ⟨hsame, -⟩ |
      ⟨node, before, after, -, hbefore, hbuilt, hreplaced⟩
    · exact ⟨registry, by rw [hsame, hregistry], .refl⟩
    · by_cases hr : r = b.registry
      · subst hr
        obtain rfl := Option.some.inj (hbefore.symm.trans hregistry)
        exact ⟨after, hreplaced.here, .single ⟨b.number, node, hbuilt⟩⟩
      · exact ⟨registry, (hreplaced.others r hr).trans hregistry, .refl⟩

/-- **Rendering changes a registry by building blocks of it and in no other way**, whatever is
rendered. -/
theorem Node.render_builds (depth : Nat) (node : Node σ) (params : Value) (r : RegistryId)
    (s : Store σ) : s.Builds r ((node.render depth params).exec s).2 :=
  within_render (Store.spans_builds r) depth node params s

end Templating
