import Templating.Lifetime
import Templating.Proofs.Building

/-!
# Histories of a registry

What can happen to a registry from the outside: callers compile texts against it, render nodes,
build blocks, insert and remove entries, and let go of what they hold; and all of this happens to
other registries too. Inside, it is a handful of changes. A rendering of any size is a number of
builds, and a computation that fails has done some of them or nothing.

* `History` — the states that a store can get into, with the texts compiled on the way;
* `Registry.Evolves` — the same for one registry, change by change;
* `History.evolves` — a registry evolves in every history.
-/

namespace Templating

variable {σ : Type}

/-- The states that a store can get into from `start`, with the texts that callers have compiled
against the registry `r`, latest first, each with its options. Callers insert and remove names of
which `free` holds. Renderings may be of any nodes, have any parameters and any depth, and fail. -/
inductive History (r : RegistryId) (free : Text → Prop) (start : Store σ) :
    Store σ → List (Text × Config) → Prop
  | start : History r free start start []
  | compile {s s' : Store σ} {sources : List (Text × Config)} {t : Template} (ownsRegistry : Bool)
      (config : Config) (content : Text) : History r free start s sources →
      (Run.compile r ownsRegistry config content).exec s = (.ok t, s') →
      History r free start s' ((content, config) :: sources)
  | extract {s : Store σ} {sources : List (Text × Config)} (config : Config) (content : Text) :
      History r free start s sources →
      History r free start ((Run.extract r config content).exec s).2 ((content, config) :: sources)
  | render {s : Store σ} {sources : List (Text × Config)} (depth : Nat) (node : Node σ)
      (params : Value) : History r free start s sources →
      History r free start ((node.render depth params).exec s).2 sources
  | renderTags {s : Store σ} {sources : List (Text × Config)} (depth : Nat) (r' : RegistryId)
      (config : Config) (content : Text) (params : Value) : History r free start s sources →
      History r free start
        ((Run.renderTags (Node.render depth) r' config content params).exec s).2 sources
  | build {s : Store σ} {sources : List (Text × Config)} (b : BlockId) :
      History r free start s sources → History r free start ((Run.build b).exec s).2 sources
  | insert {s : Store σ} {sources : List (Text × Config)} {name : Text} (entry : Partial σ) :
      History r free start s sources → free name →
      History r free start (s.insert r name entry) sources
  | erase {s : Store σ} {sources : List (Text × Config)} {name : Text} :
      History r free start s sources → free name → History r free start (s.erase r name) sources
  | release {s : Store σ} {sources : List (Text × Config)} (roots : Holdings) :
      History r free start s sources → History r free start (s.release roots) sources
  /-- Something that leaves the registry as it is. -/
  | elsewhere {s s' : Store σ} {sources : List (Text × Config)} :
      History r free start s sources → s'.registries[r]? = s.registries[r]? →
      History r free start s' sources

/-- What a registry can become, with the texts compiled against it, latest first. -/
inductive Registry.Evolves (r : RegistryId) (free : Text → Prop) (start : Registry σ) :
    Registry σ → List (Text × Config) → Prop
  | start : Evolves r free start start []
  | extract {registry : Registry σ} {sources : List (Text × Config)} (config : Config)
      (content : Text) : Evolves r free start registry sources →
      Evolves r free start (registry.extract r config content) ((content, config) :: sources)
  | build {registry registry' : Registry σ} {sources : List (Text × Config)} {number : Nat}
      {node : Shared (Node σ)} : Evolves r free start registry sources →
      Built r number node registry registry' →
      Evolves r free start registry' sources
  | insert {registry : Registry σ} {sources : List (Text × Config)} {name : Text}
      (entry : Partial σ) : Evolves r free start registry sources → free name →
      Evolves r free start { registry with entries := registry.entries.insert name entry } sources
  | erase {registry : Registry σ} {sources : List (Text × Config)} {name : Text} :
      Evolves r free start registry sources → free name →
      Evolves r free start { registry with entries := registry.entries.erase name } sources
  | close {registry : Registry σ} {sources : List (Text × Config)} (isOpen : Bool) :
      Evolves r free start registry sources →
      Evolves r free start { registry with isOpen := isOpen } sources

variable {r : RegistryId} {free : Text → Prop} {s : Store σ} {registry : Registry σ}

-- ---------------------------------------------------------------------------
-- Letting go
-- ---------------------------------------------------------------------------

theorem Store.closeRounds_registry (roots : Holdings) : ∀ (rounds : Nat) {s : Store σ}
    {registry : Registry σ}, s.registries[r]? = some registry →
      ∃ isOpen, (closeRounds roots rounds s).registries[r]? =
        some { registry with isOpen := isOpen }
  | 0, _, registry, h => ⟨registry.isOpen, h⟩
  | rounds + 1, s, registry, h => by
    rw [closeRounds]
    split
    · have hclosed : (s.closeUnheld roots).registries[r]? = some { registry with
          isOpen := registry.isOpen && (s.heldRegistries roots).contains r } := by
        show (s.registries.mapIdx _)[r]? = _
        rw [List.getElem?_mapIdx, h]
        rfl
      obtain ⟨isOpen, hrest⟩ := closeRounds_registry roots rounds hclosed
      exact ⟨isOpen, hrest⟩
    · exact ⟨registry.isOpen, h⟩

/-- Closing what nothing holds changes nothing else in a registry. -/
theorem Store.release_registry (h : s.registries[r]? = some registry) (roots : Holdings) :
    ∃ isOpen, (s.release roots).registries[r]? = some { registry with isOpen := isOpen } :=
  closeRounds_registry roots s.registries.length h

-- ---------------------------------------------------------------------------
-- From the store to the registry
-- ---------------------------------------------------------------------------

theorem Registry.Evolves.builds {start registry registry' : Registry σ}
    {sources : List (Text × Config)} (h : Evolves r free start registry sources)
    (hbuilds : Relation.ReflTransGen
      (fun before after => ∃ number node, Built r number node before after) registry registry') :
    Evolves r free start registry' sources := by
  induction hbuilds with
  | refl => exact h
  | tail _ hbuilt ih =>
    obtain ⟨number, node, hbuilt⟩ := hbuilt
    exact ih.build hbuilt

/-- **In every history a registry evolves**, by the texts that were compiled against it. -/
theorem History.evolves {start s : Store σ} {sources : List (Text × Config)}
    (h : History r free start s sources) {first : Registry σ}
    (hstart : start.registries[r]? = some first) :
    ∃ registry, s.registries[r]? = some registry ∧ first.Evolves r free registry sources := by
  -- what renders leads to what builds made of the registry
  have hbuilds : ∀ {s s' : Store σ} {sources : List (Text × Config)},
      (∃ registry, s.registries[r]? = some registry ∧ first.Evolves r free registry sources) →
      s.Builds r s' →
      ∃ registry, s'.registries[r]? = some registry ∧ first.Evolves r free registry sources := by
    rintro s s' sources ⟨registry, hregistry, hevolves⟩ hbuilds
    obtain ⟨registry', hregistry', hbuilt⟩ := hbuilds registry hregistry
    exact ⟨registry', hregistry', hevolves.builds hbuilt⟩
  induction h with
  | start => exact ⟨first, hstart, .start⟩
  | @compile s s' sources t ownsRegistry config content _ hexec ih =>
    obtain ⟨registry, hregistry, hevolves⟩ := ih
    by_cases hopen : registry.isOpen = true
    · obtain ⟨s'', hcompiled, hreplaced⟩ :=
        Run.compile_open hregistry hopen ownsRegistry config content
      rw [hexec] at hcompiled
      cases hcompiled
      exact ⟨_, hreplaced.here, hevolves.extract config content⟩
    · rw [Run.compile_closed (Store.open?_eq_none hregistry hopen)] at hexec
      cases hexec
  | @extract s sources config content _ ih =>
    obtain ⟨registry, hregistry, hevolves⟩ := ih
    rw [Run.extract_exec]
    exact ⟨_, (Store.Replaced.extract hregistry config content).here,
      hevolves.extract config content⟩
  | render depth node params _ ih => exact hbuilds ih (node.render_builds depth params r _)
  | renderTags depth r' config content params _ ih =>
    refine hbuilds ih ?_
    have hspans := Store.spans_builds (σ := σ) r
    exact Run.within_renderTags hspans (Node.within_render hspans depth) r' config content params _
  | build b _ ih => exact hbuilds ih ((Store.spans_builds r).build b _)
  | @insert s sources name entry _ hname ih =>
    obtain ⟨registry, hregistry, hevolves⟩ := ih
    exact ⟨_, ((Store.Replaced.refl hregistry).modify _).here, hevolves.insert entry hname⟩
  | @erase s sources name _ hname ih =>
    obtain ⟨registry, hregistry, hevolves⟩ := ih
    exact ⟨_, ((Store.Replaced.refl hregistry).modify _).here, hevolves.erase hname⟩
  | release roots _ ih =>
    obtain ⟨registry, hregistry, hevolves⟩ := ih
    obtain ⟨isOpen, hclosed⟩ := Store.release_registry hregistry roots
    exact ⟨_, hclosed, hevolves.close isOpen⟩
  | elsewhere _ hsame ih =>
    obtain ⟨registry, hregistry, hevolves⟩ := ih
    exact ⟨registry, hsame.trans hregistry, hevolves⟩

end Templating
