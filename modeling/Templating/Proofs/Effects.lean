import Templating.Proofs.Run
import Templating.Rendering

/-!
# What rendering changes

Rendering does much to the store: it records events, lets closures of the caller act, keeps the
outputs of cached nodes, and builds blocks. Only the builds touch a registry. So what holds across
builds, and looks at nothing but the registries, holds across the rendering of any node, at any
depth, with any parameters, and whether it succeeds or fails.

* `Spans` — a relation between an earlier and a later store of this kind;
* `Run.Within` — a computation that leads to related stores only;
* `Node.within_render` — rendering is one.
-/

namespace Templating

variable {σ α β : Type}

/-- A relation between an earlier and a later store that holds across whatever rendering does: it
looks at the registries only, and holds across builds. -/
structure Spans (R : Store σ → Store σ → Prop) : Prop where
  trans : ∀ {s s' s''}, R s s' → R s' s'' → R s s''
  same : ∀ {s s' : Store σ}, s'.registries = s.registries → R s s'
  build : ∀ b s, R s ((Run.build b).exec s).2

namespace Run

variable {R : Store σ → Store σ → Prop}

/-- The computation leads from every store to a related one. -/
def Within (R : Store σ → Store σ → Prop) (x : Run σ α) : Prop := ∀ s, R s (x.exec s).2

theorem within_pure (h : Spans R) (a : α) : Within R (pure a : Run σ α) := fun _ => h.same rfl

theorem within_throw (h : Spans R) (failure : Failure) :
    Within R (throw failure : Run σ α) := fun _ => h.same rfl

theorem within_get (h : Spans R) : Within R (get : Run σ (Store σ)) := fun _ => h.same rfl

theorem within_emit (h : Spans R) (e : Event) : Within R (emit (σ := σ) e) := fun _ => h.same rfl

theorem within_act (h : Spans R) (action : Action σ α) : Within R (act action) :=
  fun _ => h.same rfl

theorem within_keep (h : Spans R) (cell : CellId) (snapshot : Option Snapshot) :
    Within R (modify fun s : Store σ => s.keep cell snapshot) := fun _ => h.same rfl

theorem within_ofExcept (h : Spans R) : ∀ outcome : Except Error α,
    Within R (ofExcept outcome : Run σ α)
  | .ok _ => fun _ => h.same rfl
  | .error _ => fun _ => h.same rfl

theorem Within.bind (h : Spans R) {x : Run σ α} {f : α → Run σ β} (hx : Within R x)
    (hf : ∀ a, Within R (f a)) : Within R (x >>= f) := by
  intro s
  have hfirst := hx s
  rw [exec_bind]
  rcases hexec : x.exec s with ⟨outcome, s'⟩
  rw [hexec] at hfirst
  cases outcome with
  | error failure => exact hfirst
  | ok a => exact h.trans hfirst (hf a s')

theorem within_requireOpen (h : Spans R) (r : RegistryId) : Within R (requireOpen (σ := σ) r) := by
  refine (within_get h).bind h fun s => ?_
  split
  · exact within_throw h _
  · exact within_pure h _

/-! ## Tags -/

variable {below : Node σ → Value → Run σ Text}

/-- The induction is on what functions return, whatever state of the caller they see. -/
theorem within_resolvePartial (h : Spans R) (hbelow : ∀ node params, Within R (below node params))
    (params : Value) (entry : Partial σ) : Within R (resolvePartial below params entry) := by
  induction entry with
  | value value => exact within_pure h _
  | function call after holdings ih =>
    intro s
    have hcaller : R s { s with caller := after params s.caller } := h.same rfl
    rw [resolvePartial, exec_bind_ok (exec_get s), exec_bind_ok (exec_set ..)]
    exact h.trans hcaller (ih params s.caller _)
  | validator accepts => exact within_throw h _
  | block node => exact (hbelow node.value params).bind h fun _ => within_pure h _
  | deferred b =>
    have hbuild : Within R (build (σ := σ) b) := h.build b
    exact hbuild.bind h fun node =>
      (hbelow node.value params).bind h fun _ => within_pure h _

theorem within_lookup (h : Spans R) (hbelow : ∀ node params, Within R (below node params))
    (r : RegistryId) (params : Value) (path : Text) : Within R (lookup below r params path) := by
  unfold lookup
  split
  · refine (within_get h).bind h fun s => ?_
    split
    · exact (within_emit h _).bind h fun _ => within_pure h _
    · refine (within_resolvePartial h hbelow params _).bind h fun value => ?_
      split
      · exact within_pure h _
      · exact within_pure h _
  · exact within_pure h _

theorem within_validate (h : Spans R) (hbelow : ∀ node params, Within R (below node params))
    (r : RegistryId) (path : Text) (params previous : Value) :
    Within R (validate below r path params previous) := by
  unfold validate
  split
  · refine (within_get h).bind h fun s => ?_
    split
    · exact within_act h _
    · exact (within_resolvePartial h hbelow params _).bind h fun _ => within_pure h _
    · exact within_pure h _
  · exact within_pure h _

/-- What a tag becomes once its path is looked up. -/
def tagText (config : Config) (tag : Tag) (indent : Text) (value : Option Value) :
    Except Failure Text :=
  if value.isNone && config.strictPaths then .error (.error (.unresolvedPath tag.path))
  else
    match tag.filter with
    | none => .ok (config.textOf tag.escaped indent value)
    | some filter =>
      match Filter.applyNamed filter value with
      | .ok value => .ok (config.textOf tag.escaped indent value)
      | .error e => .error (.error e)

/-- Evaluating a tag looks up its path and changes nothing else. -/
theorem evaluateTag_exec {lookup : Text → Run σ (Option Value)} {tag : Tag} {value : Option Value}
    {s s' : Store σ} (hlookup : (lookup tag.path).exec s = (.ok value, s')) (config : Config)
    (indent : Text) :
    (evaluateTag lookup config tag indent).exec s = (tagText config tag indent value, s') := by
  rw [evaluateTag, exec_bind_ok hlookup, tagText]
  cases hfilter : tag.filter with
  | none =>
    cases hstrict : value.isNone && config.strictPaths with
    | true => rfl
    | false => rfl
  | some filter =>
    cases hstrict : value.isNone && config.strictPaths with
    | true => rfl
    | false =>
      cases happly : Filter.applyNamed filter value with
      | ok value =>
        simp only [happly]
        rfl
      | error e =>
        simp only [happly]
        rfl

theorem within_evaluateTag {lookup : Text → Run σ (Option Value)}
    (hlookup : ∀ path, Within R (lookup path)) (config : Config) (tag : Tag) (indent : Text) :
    Within R (evaluateTag lookup config tag indent) := by
  intro s
  have hpath := hlookup tag.path s
  rcases hexec : (lookup tag.path).exec s with ⟨outcome, s'⟩
  rw [hexec] at hpath
  cases outcome with
  | ok value =>
    rw [evaluateTag_exec hexec]
    exact hpath
  | error failure =>
    rw [evaluateTag, exec_bind_error hexec]
    exact hpath

/-- The induction is on the passes that are left. -/
theorem within_settle (h : Spans R) {maxPasses : Nat} {evaluate : Tag → Text → Run σ Text}
    (hevaluate : ∀ tag indent, Within R (evaluate tag indent)) (passesLeft : Nat) (draft : Draft) :
    Within R (settle maxPasses evaluate passesLeft draft) := by
  induction passesLeft generalizing draft with
  | zero =>
    rw [settle]
    split
    · exact within_pure h _
    · exact (hevaluate _ _).bind h fun _ => within_throw h _
  | succ passesLeft ih =>
    rw [settle]
    split
    · exact within_pure h _
    · refine (hevaluate _ _).bind h fun value => ?_
      simp only
      split
      · exact within_throw h _
      · exact ih _

theorem within_renderTags (h : Spans R) (hbelow : ∀ node params, Within R (below node params))
    (r : RegistryId) (config : Config) (content : Text) (params : Value) :
    Within R (renderTags below r config content params) :=
  within_settle h (within_evaluateTag (within_lookup h hbelow r params) config) _ _

/-! ## Nodes -/

theorem within_test (h : Spans R) (hbelow : ∀ node params, Within R (below node params))
    (params : Value) : ∀ condition, Within R (test below params condition)
  | .closure _ => (within_act h _).bind h fun _ => within_ofExcept h _
  | .path r path _ => (within_requireOpen h r).bind h fun _ =>
      (within_lookup h hbelow r params path).bind h fun _ => within_pure h _

theorem within_accepts (h : Spans R) (hbelow : ∀ node params, Within R (below node params))
    (params previous : Value) : ∀ validator, Within R (accepts below params previous validator)
  | .closure _ => within_act h _
  | .path r path => (within_requireOpen h r).bind h fun _ =>
      within_validate h hbelow r path params previous

theorem within_itemParams (h : Spans R) (itemName : Option Text)
    (transform : Option (Value → Value → Action σ Value)) (params item : Value) (index size : Nat) :
    Within R (itemParams itemName transform params item index size) :=
  (within_act h _).bind h fun _ => within_pure h _

theorem within_renderItems (h : Spans R) {body : Value → Run σ Text}
    (hbody : ∀ params, Within R (body params)) {scope : Value → Nat → Run σ Value}
    (hscope : ∀ item index, Within R (scope item index)) :
    ∀ (items : List Value) (index : Nat), Within R (renderItems body scope index items)
  | [], _ => within_pure h _
  | item :: rest, index => (hscope item index).bind h fun _ => (hbody _).bind h fun _ =>
      (within_renderItems h hbody hscope rest (index + 1)).bind h fun _ => within_pure h _

theorem within_renderRepeating (h : Spans R) {body : Value → Run σ Text}
    (hbody : ∀ params, Within R (body params)) (path : Text) (itemName : Option Text)
    (transform : Option (Value → Value → Action σ Value)) (params : Value) :
    Within R (renderRepeating body path itemName transform params) := by
  unfold renderRepeating
  split
  · exact within_renderItems h hbody
      (fun item index => within_itemParams h itemName transform params item index _) _ _
  · exact within_throw h _

/-- What a cached node does once it is known whether it may give a stored output. -/
def giveOutput (cell : CellId) (body : Value → Run σ Text) (params : Value) :
    (stored : Option Text) → Run σ Text
  | some output => do
    emit .outputReused
    modify fun s => s.keep cell (some ⟨output, params⟩)
    return output
  | none => do
    emit .outputRecomputed
    let output ← body params
    modify fun s => s.keep cell (some ⟨output, params⟩)
    return output

/-- The stored output of a cached node, if the validator accepts the parameters. -/
def storedOutput (validator : Option (Value → Value → Run σ Bool)) (params : Value) :
    Option Snapshot → Run σ (Option Text)
  | none => pure none
  | some snapshot =>
    match validator with
    | none => pure (some snapshot.output)
    | some validator => do
      let valid ← validator params snapshot.params
      pure (if valid then some snapshot.output else none)

theorem renderCached_eq (cell : CellId) (validator : Option (Value → Value → Run σ Bool))
    (body : Value → Run σ Text) (params : Value) :
    renderCached cell validator body params = (do
      let s ← get
      let stored ← storedOutput validator params (s.snapshot? cell)
      giveOutput cell body params stored) := by
  rw [renderCached]
  congr 1
  funext s
  cases s.snapshot? cell with
  | none => rfl
  | some snapshot =>
    cases validator with
    | none => rfl
    | some validator =>
      simp only [storedOutput, bind_assoc]
      rfl

theorem within_renderCached (h : Spans R) (cell : CellId)
    {validator : Option (Value → Value → Run σ Bool)} {body : Value → Run σ Text}
    (hvalidator : ∀ v ∈ validator, ∀ params previous, Within R (v params previous))
    (hbody : ∀ params, Within R (body params)) (params : Value) :
    Within R (renderCached cell validator body params) := by
  have hkeep : ∀ output : Text, Within R (do
      modify fun s => s.keep cell (some ⟨output, params⟩)
      return output : Run σ Text) :=
    fun output => (within_keep h cell _).bind h fun _ => within_pure h _
  rw [renderCached_eq]
  refine (within_get h).bind h fun s => ?_
  refine Within.bind h ?_ fun stored => ?_
  · cases s.snapshot? cell with
    | none => exact within_pure h _
    | some snapshot =>
      cases validator with
      | none => exact within_pure h _
      | some validator =>
        exact (hvalidator validator rfl params snapshot.params).bind h fun _ => within_pure h _
  · cases stored with
    | some output => exact (within_emit h _).bind h fun _ => hkeep output
    | none => exact (within_emit h _).bind h fun _ => (hbody params).bind h hkeep

end Run

namespace Node

open Run

variable {R : Store σ → Store σ → Prop} {below : Node σ → Value → Run σ Text}

/-- Within one unit of depth the induction is on the tree. -/
theorem within_renderVia (h : Spans R) (hbelow : ∀ node params, Within R (below node params))
    (node : Node σ) (params : Value) : Within R (node.renderVia below params) := by
  induction node generalizing params with
  | literal text => exact within_pure h _
  | sequence first second ih ih' =>
    exact (ih params).bind h fun _ => (ih' params).bind h fun _ => within_pure h _
  | onlyIf condition body ih =>
    refine (within_test h hbelow params condition).bind h fun holds => ?_
    split
    · exact ih params
    · exact within_pure h _
  | ifElse condition onTrue onFalse ih ih' =>
    refine (within_test h hbelow params condition).bind h fun holds => ?_
    split
    · exact ih params
    · exact ih' params
  | repeatingWith path itemName transform body ih =>
    exact within_renderRepeating h ih path itemName transform params
  | cached cell validator body ih =>
    refine within_renderCached h cell ?_ ih params
    intro v hv params previous
    obtain ⟨validator, -, rfl⟩ := Option.map_eq_some_iff.mp hv
    exact within_accepts h hbelow params previous validator
  | indented unit count body ih => exact (ih params).bind h fun _ => within_pure h _
  | callback call => exact within_act h _
  | template t =>
    exact (within_requireOpen h _).bind h fun _ =>
      within_renderTags h hbelow t.registry t.config t.content params

/-- **Rendering stays within what holds across builds**, whatever is rendered. -/
theorem within_render (h : Spans R) : ∀ (depth : Nat) (node : Node σ) (params : Value),
    Within R (node.render depth params)
  | 0 => within_renderVia h fun _ _ => within_throw h _
  | depth + 1 => within_renderVia h (within_render h depth)

end Node

end Templating
