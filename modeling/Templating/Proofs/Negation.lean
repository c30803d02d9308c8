import Templating.Proofs.Caching
import Templating.Proofs.Leniency
import Templating.Proofs.Reference
import Templating.Proofs.Swap

/-!
# Negation swaps the branches

    ?{p} first ?{!p} second ?{/name}        ?{!p} second ?{p} first ?{/name}

Both texts compile to the same reference, and the blocks that they leave behind differ in the sign
of the condition and in the order of the parts. So they render to the same, and what they render is
one of the parts, chosen by the value of the path.

* `Swap.compile_text` — how the two texts compile;
* `Node.afterEach` — the store after renderings;
* `Swap.Chooses` — a rendering that looks up the path and renders one of the parts;
* `Alternatives.render_negated` — the two texts, in every sequence of renderings.
-/

namespace Templating

variable {σ : Type}

/-- The store after rendering a node with parameters in turn. -/
def Node.afterEach (depth : Nat) (node : Node σ) : List Value → Store σ → Store σ
  | [], s => s
  | params :: rest, s => afterEach depth node rest ((node.render depth params).exec s).2

-- ---------------------------------------------------------------------------
-- Twins, rendering after rendering
-- ---------------------------------------------------------------------------

section Twins

variable {R : Store σ → Store σ → Prop}

theorem Node.renderEach_twins (h : Twins R) (depth : Nat) (node : Node σ) :
    ∀ (sequence : List Value) {s s' : Store σ}, R s s' →
      node.renderEach depth sequence s' = node.renderEach depth sequence s
  | [], _, _, _ => rfl
  | params :: rest, s, s', hs => by
    obtain ⟨houtcome, hstore⟩ := blind_render h depth node params s s' hs
    rw [renderEach, renderEach, houtcome, renderEach_twins h depth node rest hstore]

theorem Node.afterEach_twins (h : Twins R) (depth : Nat) (node : Node σ) :
    ∀ (sequence : List Value) {s s' : Store σ}, R s s' →
      R (node.afterEach depth sequence s) (node.afterEach depth sequence s')
  | [], _, _, hs => hs
  | params :: rest, s, s', hs =>
    afterEach_twins h depth node rest (blind_render h depth node params s s' hs).2

end Twins

-- ---------------------------------------------------------------------------
-- What is rendered
-- ---------------------------------------------------------------------------

namespace Run

/-- The computation, and a failure behind it if no tag may be replaced at all. -/
def inOnePass (config : Config) (x : Run σ Text) : Run σ Text := do
  let output ← x
  if config.maxPasses = 0 then
    fail (.unsettled 0)
  return output

theorem inOnePass_exec_ok {config : Config} {x : Run σ Text} {output : Text} {s s' : Store σ}
    (h : x.exec s = (.ok output, s')) :
    (inOnePass config x).exec s =
      (if config.maxPasses = 0 then .error (.error (.unsettled 0)) else .ok output, s') := by
  rw [inOnePass, exec_bind_ok h]
  split <;> rfl

theorem inOnePass_exec_error {config : Config} {x : Run σ Text} {failure : Failure}
    {s s' : Store σ} (h : x.exec s = (.error failure, s')) :
    (inOnePass config x).exec s = (.error failure, s') := exec_bind_error h _

end Run

/-- No tag stands in what a template renders to. -/
theorem Node.free_of_render_template {t : Template} {depth : Nat} {params : Value}
    {output : Text} {s s' : Store σ}
    (h : ((Node.template t).render depth params).exec s = (.ok output, s')) :
    ∀ (tag : Tag) i, ¬ tag.StandsAt output i := by
  rw [render_eq, renderVia, Run.renderTemplate] at h
  rcases hopen : (Run.requireOpen t.registry).exec s with ⟨outcome, s₁⟩
  cases outcome with
  | error failure =>
    rw [Run.exec_bind_error hopen] at h
    cases h
  | ok _ =>
    rw [Run.exec_bind_ok hopen] at h
    exact Run.free_of_renderTags h

/-- Rendering the reference builds the block, unless it is built, and looks up the path. A failure
of that is the outcome. Otherwise the second part is rendered where the value is vacant, and the
first part where it is not, and that is the outcome. -/
structure Swap.Chooses (w : Swap) (node : Node σ) (depth : Nat) (params : Value) (s : Store σ) :
    Prop where
  found : ∀ value s', (Run.lookup (Node.renderReferred depth) w.id.registry params
      w.placeholder).exec ((Run.build w.id).exec s).2 = (.ok value, s') →
    (node.render (depth + 1) params).exec s =
      (Run.inOnePass w.config
        ((Node.template (w.body (w.part value))).render depth params)).exec s'
  failed : ∀ failure s', (Run.lookup (Node.renderReferred depth) w.id.registry params
      w.placeholder).exec ((Run.build w.id).exec s).2 = (.error failure, s') →
    (node.render (depth + 1) params).exec s = (.error failure, s')

namespace Swap

variable {w : Swap} {s : Store σ}

/-- The template of either text: a reference to the block. -/
def template (w : Swap) (ownsRegistry : Bool) : Template :=
  ⟨Block.referenceTag w.id.number, w.id.registry, ownsRegistry, w.config⟩

theorem Holds.chooses {negated : Bool} {identity identity' : Option Nat}
    (h : w.Holds negated identity s)
    (hbuilt : w.Holds negated identity' ((Run.build w.id).exec s).2) (ownsRegistry : Bool)
    (depth : Nat) (params : Value) :
    w.Chooses (.template (w.template ownsRegistry)) depth params s := by
  obtain ⟨i, s', hbuild⟩ := h.build
  rw [hbuild] at hbuilt
  obtain ⟨registry, hopen⟩ := h.isOpen
  obtain ⟨registry', hopen'⟩ := hbuilt.isOpen
  -- the rendering of the whole, by that of the node of the block
  have hwhole : ((Node.template (w.template ownsRegistry)).render (depth + 1) params).exec s =
      (Run.renderTags (Node.render depth) w.id.registry w.config
        (Block.referenceTag w.id.number) params).exec s :=
    Node.render_template hopen (depth + 1) params
  -- the rendering of that node, by the look-up of the path
  have hnode : ((w.node negated : Node σ).render depth params).exec s' =
      (do
        let value ← Run.lookup (Node.renderReferred depth) w.id.registry params w.placeholder
        (Node.template (w.body (w.part value))).render depth params).exec s' := by
    rw [Node.render_eq, renderVia_node, Run.exec_bind_ok (Run.exec_requireOpen hopen')]
  constructor
  · intro value s'' hlookup
    rw [hbuild] at hlookup
    rw [Run.exec_bind_ok hlookup] at hnode
    rw [hwhole]
    rcases hpart : ((Node.template (w.body (w.part value))).render depth params).exec s''
      with ⟨outcome, s₃⟩
    rw [hpart] at hnode
    cases outcome with
    | ok output =>
      rw [Run.inOnePass_exec_ok hpart]
      exact Run.renderTags_reference h.entry hbuild w.config hnode
        (Node.free_of_render_template hpart)
    | error failure =>
      rw [Run.inOnePass_exec_error hpart]
      exact Run.renderTags_reference_error h.entry hbuild w.config hnode
  · intro failure s'' hlookup
    rw [hbuild] at hlookup
    rw [Run.exec_bind_error hlookup] at hnode
    rw [hwhole]
    exact Run.renderTags_reference_error h.entry hbuild w.config hnode

-- ---------------------------------------------------------------------------
-- Compiling
-- ---------------------------------------------------------------------------

/-- Either text compiles to a reference to its block. -/
theorem compile_text {registry : Registry σ} (hopen : s.open? w.id.registry = some registry)
    (hnumber : w.id.number = s.nextNumber w.id.registry) (ownsRegistry negated : Bool) :
    (Run.compile w.id.registry ownsRegistry w.config (w.text negated)).exec s =
      (.ok (w.template ownsRegistry),
        (s.issue w.id.registry w.config (w.block negated)).emit (.extractedAll 1)) := by
  rw [w.text_eq_block, Run.compile_block (w.wellFormed_block negated) hopen, template, hnumber]

end Swap

/-- **Negation swaps the branches.** Compiled against an open registry, from one state and with the
same options, a text with two alternatives and the one with the other opening first give the same
template, and in every sequence of renderings the same outcomes. Each rendering looks up the path of
the placeholder, and fails if that fails; otherwise it renders exactly one part, the second where
the value is vacant and the first where it is not. -/
theorem Alternatives.render_negated (e : Alternatives) {s : Store σ} {r : RegistryId}
    {registry : Registry σ} (hopen : s.open? r = some registry) (ownsRegistry : Bool)
    (config : Config) :
    let w : Swap := { e with config := config, id := ⟨r, s.nextNumber r⟩ }
    ∃ (t : Template) (s₁ s₁' : Store σ),
      (Run.compile r ownsRegistry config (e.text false)).exec s = (.ok t, s₁) ∧
      (Run.compile r ownsRegistry config (e.text true)).exec s = (.ok t, s₁') ∧
      ∀ depth sequence,
        (Node.template t).renderEach depth sequence s₁' =
          (Node.template t).renderEach depth sequence s₁ ∧
        ∀ params,
          w.Chooses (.template t) depth params
            ((Node.template t).afterEach (depth + 1) sequence s₁) ∧
          w.Chooses (.template t) depth params
            ((Node.template t).afterEach (depth + 1) sequence s₁') := by
  intro w
  have hissued : w.OnStore _ _ := Swap.onStore_issue (w := w) hopen rfl
  have hstart := hissued.emit (.extractedAll 1)
  refine ⟨_, _, _, Swap.compile_text (w := w) hopen rfl ownsRegistry false,
    Swap.compile_text (w := w) hopen rfl ownsRegistry true, fun depth sequence => ⟨?_, ?_⟩⟩
  · exact Node.renderEach_twins Swap.twins depth _ sequence hstart
  · intro params
    have hafter := Node.afterEach_twins Swap.twins (depth + 1)
      (.template (w.template ownsRegistry)) sequence hstart
    obtain ⟨identity, hholds, hholds'⟩ := hafter.holds
    obtain ⟨identity', hbuilt, hbuilt'⟩ := (Swap.twins.build hafter w.id).2.holds
    exact ⟨hholds.chooses hbuilt ownsRegistry depth params,
      hholds'.chooses hbuilt' ownsRegistry depth params⟩

/-- A placeholder with a parameter, which the tag between the parts carries too: both texts render
to `none` for zero and to `some` for one. -/
theorem Alternatives.render_negated_param :
    ∃ e : Alternatives,
      e.text false = "?{n:p}some?{!n:p}none?{/n}".toList ∧
      e.text true = "?{!n:p}none?{n:p}some?{/n}".toList ∧
      ∃ (t : Template) (s₁ s₁' : Store Unit),
        let s : Store Unit := ((Store.empty ()).newRegistry []).2
        let value (n : Nat) : Value := .object [("n:p".toList, .ofNat n)]
        (Run.compile 0 true .default (e.text false)).exec s = (.ok t, s₁) ∧
        (Run.compile 0 true .default (e.text true)).exec s = (.ok t, s₁') ∧
        (Node.template t).renderEach 1 [value 0, value 1] s₁ =
          [.ok "none".toList, .ok "some".toList] ∧
        (Node.template t).renderEach 1 [value 0, value 1] s₁' =
          [.ok "none".toList, .ok "some".toList] := by
  let e : Alternatives :=
    { placeholder := "n:p".toList
      name := "n".toList
      first := "some".toList
      second := "none".toList
      wellFormed := ⟨by decide, by decide, .inr ⟨"p".toList, by decide, rfl⟩, by decide⟩
      free_first := by decide
      free_second := by decide
      plain_first := by decide
      plain_second := by decide
      closing_first := by decide
      closing_second := by decide }
  refine ⟨e, rfl, rfl, ?_⟩
  obtain ⟨t, s₁, s₁', hcompile, hcompile', hrender⟩ := e.render_negated
    (show ((Store.empty ()).newRegistry []).2.open? 0 = some ⟨[], [], true⟩ from rfl) true .default
  refine ⟨t, s₁, s₁', hcompile, hcompile', ?_⟩
  have hsame := (hrender 1 [.object [("n:p".toList, .ofNat 0)],
    .object [("n:p".toList, .ofNat 1)]]).1
  rw [hsame, and_self]
  cases hcompile
  decide +kernel

end Templating
