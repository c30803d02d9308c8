import Templating.Proofs.Effects

/-!
# Rendering in two stores

A rendering does not see all of the store. It reads entries, whether registries are open, what cells
keep and the state of the caller, and it gets nodes from builds. Two stores that show the same in
all this, and go on doing so whatever is done to both, lead to the same outcome of any rendering.

* `Agreeing`, `Twins` — a relation between stores of this kind, without builds and with them;
* `Run.Blind` — a computation that has the same outcome in related stores, and leaves related ones;
* `Node.blind_render` — every rendering is one.
-/

namespace Templating

variable {σ α β : Type}

/-- Nodes that do the same, whatever renders the nodes that their tags refer to. -/
def Node.Alike (node node' : Node σ) : Prop :=
  ∀ below : Node σ → Value → Run σ Text, node'.renderVia below = node.renderVia below

/-- A relation between stores that show the same, and that stay related when the same is done to
both. -/
structure Agreeing (R : Store σ → Store σ → Prop) : Prop where
  isOpen : ∀ {s s'}, R s s' → ∀ r, (s'.open? r).isNone = (s.open? r).isNone
  entries : ∀ {s s'}, R s s' → ∀ r, s'.entries r = s.entries r
  cells : ∀ {s s' : Store σ}, R s s' → s'.cells = s.cells
  caller : ∀ {s s' : Store σ}, R s s' → s'.caller = s.caller
  emit : ∀ {s s'}, R s s' → ∀ e, R (s.emit e) (s'.emit e)
  keep : ∀ {s s'}, R s s' → ∀ cell kept, R (s.keep cell kept) (s'.keep cell kept)
  act : ∀ {s s'}, R s s' → ∀ caller, R { s with caller := caller } { s' with caller := caller }

/-- What builds of one block come to in two stores: nodes that do the same, or one failure. -/
inductive Run.BuildsAlike :
    Except Failure (Shared (Node σ)) → Except Failure (Shared (Node σ)) → Prop
  | ok {node node' : Shared (Node σ)} : node.value.Alike node'.value →
      BuildsAlike (.ok node) (.ok node')
  | failed (failure : Failure) : BuildsAlike (.error failure) (.error failure)

/-- A relation between stores in which builds, too, come to the same. -/
structure Twins (R : Store σ → Store σ → Prop) : Prop extends Agreeing R where
  build : ∀ {s s'}, R s s' → ∀ b,
    Run.BuildsAlike ((Run.build b).exec s).1 ((Run.build b).exec s').1 ∧
      R ((Run.build b).exec s).2 ((Run.build b).exec s').2

namespace Run

variable {R : Store σ → Store σ → Prop}

-- ---------------------------------------------------------------------------
-- Computations
-- ---------------------------------------------------------------------------

/-- The computation has the same outcome in related stores, and leaves related stores. -/
def Blind (R : Store σ → Store σ → Prop) (x : Run σ α) : Prop :=
  ∀ s s', R s s' → (x.exec s').1 = (x.exec s).1 ∧ R (x.exec s).2 (x.exec s').2

theorem blind_pure (a : α) : Blind R (pure a : Run σ α) := fun _ _ hs => ⟨rfl, hs⟩

theorem blind_throw (failure : Failure) : Blind R (throw failure : Run σ α) :=
  fun _ _ hs => ⟨rfl, hs⟩

theorem blind_ofExcept : ∀ outcome : Except Error α, Blind R (ofExcept outcome : Run σ α)
  | .ok a => blind_pure a
  | .error _ => blind_throw _

theorem blind_modify {f : Store σ → Store σ} (h : ∀ s s', R s s' → R (f s) (f s')) :
    Blind R (modify f : Run σ Unit) := fun s s' hs => ⟨rfl, h s s' hs⟩

theorem blind_modifyGet {f : Store σ → α × Store σ}
    (h : ∀ s s', R s s' → (f s').1 = (f s).1 ∧ R (f s).2 (f s').2) :
    Blind R (modifyGet f : Run σ α) :=
  fun s s' hs => ⟨congrArg Except.ok (h s s' hs).1, (h s s' hs).2⟩

theorem Blind.bind {x : Run σ α} {f : α → Run σ β} (hx : Blind R x) (hf : ∀ a, Blind R (f a)) :
    Blind R (x >>= f) := by
  intro s s' hs
  obtain ⟨houtcome, hstore⟩ := hx s s' hs
  rcases hexec : x.exec s with ⟨outcome, s₁⟩
  rcases hexec' : x.exec s' with ⟨outcome', s₁'⟩
  rw [hexec, hexec'] at houtcome hstore
  obtain rfl : outcome' = outcome := houtcome
  cases outcome' with
  | error failure =>
    rw [exec_bind_error hexec, exec_bind_error hexec']
    exact ⟨rfl, hstore⟩
  | ok a =>
    rw [exec_bind_ok hexec, exec_bind_ok hexec']
    exact hf a s₁ s₁' hstore

/-- What is read from the store decides what is done; it is the same in related stores. -/
theorem blind_get {f : Store σ → Run σ α} (hsame : ∀ s s', R s s' → f s' = f s)
    (hf : ∀ s, Blind R (f s)) : Blind R (get >>= f) := by
  intro s s' hs
  rw [exec_bind_ok (exec_get s), exec_bind_ok (exec_get s'), hsame s s' hs]
  exact hf s s s' hs

section Agreeing

variable (h : Agreeing R)

include h

theorem blind_emit (e : Event) : Blind R (emit (σ := σ) e) := blind_modify fun _ _ hs => h.emit hs e

theorem blind_act (action : Action σ α) : Blind R (act action) := by
  refine blind_modifyGet fun s s' hs => ?_
  rw [h.caller hs]
  exact ⟨rfl, h.act hs _⟩

theorem blind_requireOpen (r : RegistryId) : Blind R (requireOpen (σ := σ) r) := by
  refine blind_get (fun s s' hs => by rw [h.isOpen hs]) fun s => ?_
  split
  · exact blind_throw _
  · exact blind_pure _

end Agreeing

-- ---------------------------------------------------------------------------
-- Tags
-- ---------------------------------------------------------------------------

/-- What renders the nodes that tags refer to does the same in related stores, and the same for
nodes that are alike. -/
structure BlindBelow (R : Store σ → Store σ → Prop) (below : Node σ → Value → Run σ Text) :
    Prop where
  blind : ∀ node params, Blind R (below node params)
  alike : ∀ node node' : Node σ, node.Alike node' → below node' = below node

variable {below : Node σ → Value → Run σ Text}

/-- The induction is on what functions return; both runs have the same state of the caller. -/
theorem blind_resolvePartial (h : Twins R) (hbelow : BlindBelow R below) (params : Value)
    (entry : Partial σ) : Blind R (resolvePartial below params entry) := by
  induction entry with
  | value value => exact blind_pure _
  | function call after holdings ih =>
    intro s s' hs
    rw [resolvePartial, exec_bind_ok (exec_get s), exec_bind_ok (exec_get s'),
      exec_bind_ok (exec_set ..), exec_bind_ok (exec_set ..), h.caller hs]
    exact ih params s.caller _ _ (h.act hs _)
  | validator accepts => exact blind_throw _
  | block node => exact (hbelow.blind node.value params).bind fun _ => blind_pure _
  | deferred b =>
    intro s s' hs
    obtain ⟨houtcome, hstore⟩ := h.build hs b
    rw [resolvePartial]
    rcases hexec : (build b).exec s with ⟨outcome, s₁⟩
    rcases hexec' : (build b).exec s' with ⟨outcome', s₁'⟩
    rw [hexec, hexec'] at houtcome hstore
    cases houtcome with
    | failed failure =>
      rw [exec_bind_error hexec, exec_bind_error hexec']
      exact ⟨rfl, hstore⟩
    | @ok node node' halike =>
      rw [exec_bind_ok hexec, exec_bind_ok hexec', hbelow.alike _ _ halike]
      exact ((hbelow.blind node.value params).bind fun _ => blind_pure _) s₁ s₁' hstore

theorem blind_lookup (h : Twins R) (hbelow : BlindBelow R below) (r : RegistryId) (params : Value)
    (path : Text) : Blind R (lookup below r params path) := by
  unfold lookup
  split
  · refine blind_get (fun s s' hs => by rw [h.entries hs]) fun s => ?_
    split
    · exact (blind_emit h.toAgreeing _).bind fun _ => blind_pure _
    · refine (blind_resolvePartial h hbelow params _).bind fun value => ?_
      split
      · exact blind_pure _
      · exact blind_pure _
  · exact blind_pure _

theorem blind_validate (h : Twins R) (hbelow : BlindBelow R below) (r : RegistryId) (path : Text)
    (params previous : Value) : Blind R (validate below r path params previous) := by
  unfold validate
  split
  · refine blind_get (fun s s' hs => by rw [h.entries hs]) fun s => ?_
    split
    · exact blind_act h.toAgreeing _
    · exact (blind_resolvePartial h hbelow params _).bind fun _ => blind_pure _
    · exact blind_pure _
  · exact blind_pure _

theorem blind_evaluateTag {lookup : Text → Run σ (Option Value)}
    (hlookup : ∀ path, Blind R (lookup path)) (config : Config) (tag : Tag) (indent : Text) :
    Blind R (evaluateTag lookup config tag indent) := by
  intro s s' hs
  obtain ⟨houtcome, hstore⟩ := hlookup tag.path s s' hs
  rcases hexec : (lookup tag.path).exec s with ⟨outcome, s₁⟩
  rcases hexec' : (lookup tag.path).exec s' with ⟨outcome', s₁'⟩
  rw [hexec, hexec'] at houtcome hstore
  obtain rfl : outcome' = outcome := houtcome
  cases outcome' with
  | ok value =>
    rw [evaluateTag_exec hexec, evaluateTag_exec hexec']
    exact ⟨rfl, hstore⟩
  | error failure =>
    rw [evaluateTag, exec_bind_error hexec, exec_bind_error hexec']
    exact ⟨rfl, hstore⟩

/-- The induction is on the passes that are left. -/
theorem blind_settle {maxPasses : Nat} {evaluate : Tag → Text → Run σ Text}
    (hevaluate : ∀ tag indent, Blind R (evaluate tag indent)) (passesLeft : Nat) (draft : Draft) :
    Blind R (settle maxPasses evaluate passesLeft draft) := by
  induction passesLeft generalizing draft with
  | zero =>
    rw [settle]
    split
    · exact blind_pure _
    · exact (hevaluate _ _).bind fun _ => blind_throw _
  | succ passesLeft ih =>
    rw [settle]
    split
    · exact blind_pure _
    · refine (hevaluate _ _).bind fun value => ?_
      simp only
      split
      · exact blind_throw _
      · exact ih _

theorem blind_renderTags (h : Twins R) (hbelow : BlindBelow R below) (r : RegistryId)
    (config : Config) (content : Text) (params : Value) :
    Blind R (renderTags below r config content params) :=
  blind_settle (blind_evaluateTag (blind_lookup h hbelow r params) config) _ _

-- ---------------------------------------------------------------------------
-- Nodes
-- ---------------------------------------------------------------------------

theorem blind_test (h : Twins R) (hbelow : BlindBelow R below) (params : Value) :
    ∀ condition, Blind R (test below params condition)
  | .closure _ => (blind_act h.toAgreeing _).bind fun _ => blind_ofExcept _
  | .path r path _ => (blind_requireOpen h.toAgreeing r).bind fun _ =>
      (blind_lookup h hbelow r params path).bind fun _ => blind_pure _

theorem blind_accepts (h : Twins R) (hbelow : BlindBelow R below) (params previous : Value) :
    ∀ validator, Blind R (accepts below params previous validator)
  | .closure _ => blind_act h.toAgreeing _
  | .path r path => (blind_requireOpen h.toAgreeing r).bind fun _ =>
      blind_validate h hbelow r path params previous

theorem blind_itemParams (h : Agreeing R) (itemName : Option Text)
    (transform : Option (Value → Value → Action σ Value)) (params item : Value) (index size : Nat) :
    Blind R (itemParams itemName transform params item index size) :=
  (blind_act h _).bind fun _ => blind_pure _

section Bodies

variable {body : Value → Run σ Text} (hbody : ∀ params, Blind R (body params))

include hbody

theorem blind_renderItems {scope : Value → Nat → Run σ Value}
    (hscope : ∀ item index, Blind R (scope item index)) : ∀ (items : List Value) (index : Nat),
    Blind R (renderItems body scope index items)
  | [], _ => blind_pure _
  | item :: rest, index => (hscope item index).bind fun _ => (hbody _).bind fun _ =>
      (blind_renderItems hscope rest (index + 1)).bind fun _ => blind_pure _

theorem blind_renderRepeating (h : Agreeing R) (path : Text) (itemName : Option Text)
    (transform : Option (Value → Value → Action σ Value)) (params : Value) :
    Blind R (renderRepeating body path itemName transform params) := by
  unfold renderRepeating
  split
  · exact blind_renderItems hbody
      (fun item index => blind_itemParams h itemName transform params item index _) _ _
  · exact blind_throw _

theorem blind_renderCached (h : Twins R) (cell : CellId)
    {validator : Option (Value → Value → Run σ Bool)}
    (hvalidator : ∀ v ∈ validator, ∀ params previous, Blind R (v params previous))
    (params : Value) : Blind R (renderCached cell validator body params) := by
  have hkeep : ∀ output : Text, Blind R (do
      modify fun s => s.keep cell (some ⟨output, params⟩)
      return output : Run σ Text) :=
    fun output => (blind_modify fun _ _ hs => h.keep hs cell _).bind fun _ => blind_pure _
  have hsnapshot : ∀ s s', R s s' → s'.snapshot? cell = s.snapshot? cell := by
    intro s s' hs
    rw [Store.snapshot?, Store.snapshot?, h.cells hs]
  rw [renderCached_eq]
  refine blind_get (fun s s' hs => by rw [hsnapshot s s' hs]) fun s => ?_
  refine Blind.bind ?_ fun stored => ?_
  · cases s.snapshot? cell with
    | none => exact blind_pure _
    | some snapshot =>
      cases validator with
      | none => exact blind_pure _
      | some validator =>
        exact (hvalidator validator rfl params snapshot.params).bind fun _ => blind_pure _
  · cases stored with
    | some output => exact (blind_emit h.toAgreeing _).bind fun _ => hkeep output
    | none => exact (blind_emit h.toAgreeing _).bind fun _ => (hbody params).bind hkeep

end Bodies

end Run

namespace Node

open Run

variable {R : Store σ → Store σ → Prop} {below : Node σ → Value → Run σ Text}

/-- Within one unit of depth the induction is on the tree. -/
theorem blind_renderVia (h : Twins R) (hbelow : BlindBelow R below) (node : Node σ)
    (params : Value) : Blind R (node.renderVia below params) := by
  induction node generalizing params with
  | literal text => exact blind_pure _
  | sequence first second ih ih' =>
    exact (ih params).bind fun _ => (ih' params).bind fun _ => blind_pure _
  | onlyIf condition body ih =>
    refine (blind_test h hbelow params condition).bind fun holds => ?_
    split
    · exact ih params
    · exact blind_pure _
  | ifElse condition onTrue onFalse ih ih' =>
    refine (blind_test h hbelow params condition).bind fun holds => ?_
    split
    · exact ih params
    · exact ih' params
  | repeatingWith path itemName transform body ih =>
    exact blind_renderRepeating ih h.toAgreeing path itemName transform params
  | cached cell validator body ih =>
    refine blind_renderCached ih h cell ?_ params
    intro v hv params previous
    obtain ⟨validator, -, rfl⟩ := Option.map_eq_some_iff.mp hv
    exact blind_accepts h hbelow params previous validator
  | indented unit count body ih => exact (ih params).bind fun _ => blind_pure _
  | callback call => exact blind_act h.toAgreeing _
  | template t =>
    exact (blind_requireOpen h.toAgreeing _).bind fun _ =>
      blind_renderTags h hbelow t.registry t.config t.content params

/-- **Renderings do not tell twins apart**, whatever is rendered. -/
theorem blind_render (h : Twins R) : ∀ (depth : Nat) (node : Node σ) (params : Value),
    Blind R (node.render depth params)
  | 0 => blind_renderVia h ⟨fun _ _ => blind_throw _, fun _ _ _ => rfl⟩
  | depth + 1 => blind_renderVia h ⟨blind_render h depth, fun node node' halike => by
      cases depth with
      | zero => exact halike _
      | succ depth => exact halike _⟩

end Node

end Templating
