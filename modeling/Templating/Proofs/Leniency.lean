import Templating.Proofs.Loosening

/-!
# Strictness and the limit of passes only add errors

A template is compiled and rendered with tight options and with loose ones. As long as the
renderings with the tight options succeed, those with the loose ones give the same, and when one
fails for the first time, then with the error that the loose options give too, or with one that the
tight options alone can raise. This holds for everything that is rendered on the way, since the
blocks of a template have the options of the template.

* `Loosening.onRun_evaluateTag`, `Loosening.onRun_settle` — where options matter: a tag without a
  value, and the number of passes;
* `Loosening.onRun_render` — rendering related nodes comes to the same, or is excused;
* `Node.renderEach` — renderings of a node one after the other;
* `Loosening.render_agrees` — the comparison, for a template and any parameters.
-/

namespace Templating

variable {σ α β : Type}

namespace Loosening

variable {l : Loosening} {below below' : Node σ → Value → Run σ Text} {config config' : Config}

/-- Renderings of related nodes that come to the same. -/
def OnBelow (l : Loosening) (below below' : Node σ → Value → Run σ Text) : Prop :=
  ∀ node node' params, l.OnNode node node' → l.OnRun Eq (below node params) (below' node' params)

-- ---------------------------------------------------------------------------
-- Tags
-- ---------------------------------------------------------------------------

/-- What is kept for a block is rendered. -/
theorem onRun_resolveBlock (hbelow : l.OnBelow below below') (params : Value)
    {node node' : Shared (Node σ)} (hnode : l.OnShared node node') :
    l.OnRun Eq (Run.resolvePartial below params (.block node))
      (Run.resolvePartial below' params (.block node')) := by
  obtain ⟨_, hnode⟩ := hnode
  exact (hbelow _ _ params hnode).bind_eq fun _ => onRun_pure rfl

/-- The induction is on what functions return; both runs have the same state of the caller. -/
theorem onRun_resolvePartial (hbelow : l.OnBelow below below') (params : Value)
    (entry : Partial σ) :
    l.OnRun Eq (Run.resolvePartial below params entry)
      (Run.resolvePartial below' params entry) := by
  induction entry with
  | value value => exact onRun_pure rfl
  | function call after holdings ih =>
    refine onRun_get.bind fun s s' hs => ?_
    rw [hs.caller]
    have hset : l.OnRun (fun _ _ => True)
        (set { s with caller := after params s.caller } : Run σ PUnit)
        (set { s' with caller := after params s.caller }) :=
      fun _ _ _ => .ok trivial (hs.withCaller _)
    exact hset.bind fun _ _ _ => ih params s.caller
  | validator accepts => exact onRun_throw _
  | block node => exact onRun_resolveBlock hbelow params (.refl node)
  | deferred b =>
    exact (onRun_build b).bind fun _ _ hnode => onRun_resolveBlock hbelow params hnode

theorem onRun_resolveEntry (hbelow : l.OnBelow below below') (params : Value) {name : Text}
    {entry entry' : Partial σ} (hentry : l.OnEntry (name, entry) (name, entry')) :
    l.OnRun Eq (Run.resolvePartial below params entry)
      (Run.resolvePartial below' params entry') := by
  cases hentry with
  | same => exact onRun_resolvePartial hbelow params entry
  | block _ hnode => exact onRun_resolveBlock hbelow params hnode

theorem onRun_lookup (hbelow : l.OnBelow below below') (r : RegistryId) (params : Value)
    (path : Text) :
    l.OnRun Eq (Run.lookup below r params path) (Run.lookup below' r params path) := by
  unfold Run.lookup
  split
  · rename_i reference
    obtain ⟨name, rest⟩ := Run.splitReference reference
    refine onRun_get.bind fun s s' hs => ?_
    rcases onEntry_get? (hs.entries r) name with
      ⟨hnone, hnone'⟩ | ⟨entry, entry', hsome, hsome', hentry⟩
    · rw [hnone, hnone']
      exact (onRun_emit _).bind fun _ _ _ => onRun_pure rfl
    · rw [hsome, hsome']
      refine (onRun_resolveEntry hbelow params hentry).bind_eq fun value => ?_
      split
      · exact onRun_pure rfl
      · exact onRun_pure rfl
  · exact onRun_pure rfl

theorem onRun_validate (hbelow : l.OnBelow below below') (r : RegistryId) (path : Text)
    (params previous : Value) :
    l.OnRun Eq (Run.validate below r path params previous)
      (Run.validate below' r path params previous) := by
  unfold Run.validate
  split
  · rename_i name
    have hjudge : ∀ {entry entry' : Partial σ}, l.OnEntry (name, entry) (name, entry') →
        l.OnRun Eq (return Value.isTruthyAndPresent (← Run.resolvePartial below params entry))
          (return Value.isTruthyAndPresent (← Run.resolvePartial below' params entry')) := by
      intro entry entry' hentry
      exact (onRun_resolveEntry hbelow params hentry).bind_eq fun _ => onRun_pure rfl
    refine onRun_get.bind fun s s' hs => ?_
    rcases onEntry_get? (hs.entries r) name with
      ⟨hnone, hnone'⟩ | ⟨entry, entry', hsome, hsome', hentry⟩
    · rw [hnone, hnone']
      exact onRun_pure rfl
    · rw [hsome, hsome']
      cases hentry with
      | block _ hnode => exact hjudge (.block name hnode)
      | same =>
        cases entry with
        | validator accepts => exact onRun_act _
        | value => exact hjudge (.same name _)
        | function => exact hjudge (.same name _)
        | block => exact hjudge (.same name _)
        | deferred => exact hjudge (.same name _)
  · exact onRun_pure rfl

/-- With looser options a value becomes the same text, or the tag fails with the tight ones because
it has no value. -/
theorem tagText_cases (hconfig : l.OnConfig config config') (tag : Tag) (indent : Text)
    (value : Option Value) :
    Run.tagText config' tag indent value = Run.tagText config tag indent value ∨
      ∃ failure, Run.tagText config tag indent value = .error failure ∧ l.Excuses failure := by
  rcases hconfig with rfl | ⟨rfl, rfl⟩
  · exact .inl rfl
  · have htext : ∀ value, l.loose.textOf tag.escaped indent value =
        l.tight.textOf tag.escaped indent value := by
      intro value
      unfold Config.textOf
      rw [l.undefinedText]
    cases hstrict : value.isNone && l.tight.strictPaths with
    | true =>
      have htight : l.tight.strictPaths = true := (Bool.and_eq_true_iff.mp hstrict).2
      refine .inr ⟨.error (.unresolvedPath tag.path), ?_, .inl ⟨htight, tag.path, rfl⟩⟩
      rw [Run.tagText, hstrict, if_pos rfl]
    | false =>
      refine .inl ?_
      have hloose : (value.isNone && l.loose.strictPaths) = false := by
        rw [l.strictPaths, Bool.and_false]
      rw [Run.tagText, Run.tagText, hstrict, hloose]
      simp only [htext]

theorem onRun_evaluateTag (hconfig : l.OnConfig config config')
    {lookup lookup' : Text → Run σ (Option Value)}
    (hlookup : ∀ path, l.OnRun Eq (lookup path) (lookup' path)) (tag : Tag) (indent : Text) :
    l.OnRun Eq (Run.evaluateTag lookup config tag indent)
      (Run.evaluateTag lookup' config' tag indent) := by
  intro s s' hs
  have hvalue := hlookup tag.path s s' hs
  rcases hexec : (lookup tag.path).exec s with ⟨outcome, s₁⟩
  rcases hexec' : (lookup' tag.path).exec s' with ⟨outcome', s₁'⟩
  rw [hexec, hexec'] at hvalue
  cases hvalue with
  | @ok value _ _ _ hsame hstore =>
    subst hsame
    rw [Run.evaluateTag_exec hexec, Run.evaluateTag_exec hexec']
    rcases tagText_cases hconfig tag indent value with heq | ⟨failure, hfailed, hexcused⟩
    · rw [heq]
      cases Run.tagText config tag indent value with
      | ok text => exact .ok rfl hstore
      | error failure => exact .failed
    · rw [hfailed]
      exact .excused hexcused
  | failed =>
    rw [Run.evaluateTag, Run.evaluateTag, Run.exec_bind_error hexec, Run.exec_bind_error hexec']
    exact .failed
  | excused hexcused =>
    rw [Run.evaluateTag, Run.exec_bind_error hexec]
    exact .excused hexcused

/-- The second loop has as many passes more left as its limit is higher. The induction is on the
passes left to the first. -/
theorem onRun_settle {evaluate evaluate' : Tag → Text → Run σ Text}
    (hevaluate : ∀ tag indent, l.OnRun Eq (evaluate tag indent) (evaluate' tag indent))
    (hconfig : l.OnConfig config config') (left : Nat) :
    ∀ (left' : Nat) (draft : Draft), left' + config.maxPasses = left + config'.maxPasses →
      l.OnRun Eq (Run.settle config.maxPasses evaluate left draft)
        (Run.settle config'.maxPasses evaluate' left' draft) := by
  have hmore : config.maxPasses ≤ config'.maxPasses := by
    rcases hconfig with rfl | ⟨rfl, rfl⟩
    · exact Nat.le_refl _
    · exact l.maxPasses
  induction left with
  | zero =>
    intro left' draft hleft
    rw [Run.settle, Run.settle]
    split
    · exact onRun_pure rfl
    · refine (hevaluate _ _).bind_eq fun value => ?_
      by_cases hsame : config'.maxPasses = config.maxPasses
      · obtain rfl : left' = 0 := by omega
        rw [hsame]
        exact onRun_throw _
      · -- only the first loop is out of passes
        rcases hconfig with rfl | ⟨rfl, rfl⟩
        · exact absurd rfl hsame
        · have hless : l.tight.maxPasses < l.loose.maxPasses := by omega
          exact fun s s' _ => .excused (.inr ⟨hless, rfl⟩)
  | succ left ih =>
    intro left' draft hleft
    obtain ⟨left', rfl⟩ : ∃ k, left' = k + 1 := ⟨left' - 1, by omega⟩
    rw [Run.settle, Run.settle]
    split
    · exact onRun_pure rfl
    · refine (hevaluate _ _).bind_eq fun value => ?_
      simp only
      split
      · exact onRun_throw _
      · exact ih left' _ (by omega)

theorem onRun_renderTags (hbelow : l.OnBelow below below') (hconfig : l.OnConfig config config')
    (r : RegistryId) (content : Text) (params : Value) :
    l.OnRun Eq (Run.renderTags below r config content params)
      (Run.renderTags below' r config' content params) :=
  onRun_settle (onRun_evaluateTag hconfig (onRun_lookup hbelow r params)) hconfig _ _ _
    (Nat.add_comm ..)

-- ---------------------------------------------------------------------------
-- Nodes
-- ---------------------------------------------------------------------------

theorem onRun_test (hbelow : l.OnBelow below below') (params : Value) :
    ∀ condition, l.OnRun Eq (Run.test below params condition) (Run.test below' params condition)
  | .closure holds => (onRun_act _).bind fun outcome _ heq => heq ▸ onRun_ofExcept outcome
  | .path r path _ => (onRun_requireOpen r).bind fun _ _ _ =>
      (onRun_lookup hbelow r params path).bind fun _ _ heq => onRun_pure (by rw [heq])

theorem onRun_accepts (hbelow : l.OnBelow below below') (params previous : Value) :
    ∀ validator, l.OnRun Eq (Run.accepts below params previous validator)
      (Run.accepts below' params previous validator)
  | .closure _ => onRun_act _
  | .path r path => (onRun_requireOpen r).bind fun _ _ _ =>
      onRun_validate hbelow r path params previous

theorem onRun_itemParams (itemName : Option Text)
    (transform : Option (Value → Value → Action σ Value)) (params item : Value) (index size : Nat) :
    l.OnRun Eq (Run.itemParams itemName transform params item index size)
      (Run.itemParams itemName transform params item index size) :=
  (onRun_act _).bind_eq fun _ => onRun_pure rfl

section Bodies

variable {body body' : Value → Run σ Text}
  (hbody : ∀ params, l.OnRun Eq (body params) (body' params))

include hbody

theorem onRun_renderItems {scope : Value → Nat → Run σ Value}
    (hscope : ∀ item index, l.OnRun Eq (scope item index) (scope item index)) :
    ∀ (items : List Value) (index : Nat),
    l.OnRun Eq (Run.renderItems body scope index items) (Run.renderItems body' scope index items)
  | [], _ => onRun_pure rfl
  | item :: rest, index => by
    refine (hscope item index).bind_eq fun params => ?_
    refine (hbody params).bind_eq fun output => ?_
    exact (onRun_renderItems hscope rest (index + 1)).bind_eq fun _ => onRun_pure rfl

theorem onRun_renderRepeating (path : Text) (itemName : Option Text)
    (transform : Option (Value → Value → Action σ Value)) (params : Value) :
    l.OnRun Eq (Run.renderRepeating body path itemName transform params)
      (Run.renderRepeating body' path itemName transform params) := by
  unfold Run.renderRepeating
  split
  · exact onRun_renderItems hbody
      (fun item index => onRun_itemParams itemName transform params item index _) _ _
  · exact onRun_throw _

/-- Cells keep the same outputs in both runs, so a stored output is given in both or in neither. -/
theorem onRun_renderCached (cell : CellId) (validator : Option (Validator σ))
    (hbelow : l.OnBelow below below') (params : Value) :
    l.OnRun Eq
      (Run.renderCached cell
        (validator.map fun v => fun params previous => Run.accepts below params previous v)
        body params)
      (Run.renderCached cell
        (validator.map fun v => fun params previous => Run.accepts below' params previous v)
        body' params) := by
  have hkeep : ∀ output : Text, l.OnRun Eq
      (do modify fun s : Store σ => s.keep cell (some ⟨output, params⟩); return output)
      (do modify fun s : Store σ => s.keep cell (some ⟨output, params⟩); return output) :=
    fun output => (onRun_modify fun _ _ hs => hs.keep cell _).bind fun _ _ _ => onRun_pure rfl
  rw [Run.renderCached_eq, Run.renderCached_eq]
  refine onRun_get.bind fun s s' hs => ?_
  have hsnapshot : s'.snapshot? cell = s.snapshot? cell := by
    rw [Store.snapshot?, Store.snapshot?, hs.cells]
  have hstored : l.OnRun Eq
      (Run.storedOutput
        (validator.map fun v => fun params previous => Run.accepts below params previous v) params
        (s.snapshot? cell))
      (Run.storedOutput
        (validator.map fun v => fun params previous => Run.accepts below' params previous v) params
        (s.snapshot? cell)) := by
    cases s.snapshot? cell with
    | none => exact onRun_pure rfl
    | some snapshot =>
      cases validator with
      | none => exact onRun_pure rfl
      | some v =>
        exact (onRun_accepts hbelow params snapshot.params v).bind fun _ _ heq =>
          onRun_pure (by rw [heq])
  rw [hsnapshot]
  refine hstored.bind_eq fun stored => ?_
  cases stored with
  | some output => exact (onRun_emit _).bind fun _ _ _ => hkeep output
  | none =>
    refine (onRun_emit _).bind fun _ _ _ => (hbody params).bind_eq fun output => ?_
    exact hkeep output

end Bodies

/-- Within one unit of depth the induction is on the related trees. -/
theorem onRun_renderVia (hbelow : l.OnBelow below below') {node node' : Node σ}
    (hnode : l.OnNode node node') (params : Value) :
    l.OnRun Eq (node.renderVia below params) (node'.renderVia below' params) := by
  induction hnode generalizing params with
  | literal text => exact onRun_pure rfl
  | sequence _ _ ih ih' =>
    refine (ih params).bind_eq fun output => ?_
    exact (ih' params).bind_eq fun _ => onRun_pure rfl
  | onlyIf condition _ ih =>
    refine (onRun_test hbelow params condition).bind_eq fun holds => ?_
    split
    · exact ih params
    · exact onRun_pure rfl
  | ifElse condition _ _ ih ih' =>
    refine (onRun_test hbelow params condition).bind_eq fun holds => ?_
    split
    · exact ih params
    · exact ih' params
  | repeatingWith path itemName transform _ ih =>
    exact onRun_renderRepeating ih path itemName transform params
  | cached cell validator _ ih => exact onRun_renderCached ih cell validator hbelow params
  | indented unit count _ ih =>
    exact (ih params).bind_eq fun _ => onRun_pure rfl
  | callback call => exact onRun_act _
  | template content r _ hconfig =>
    exact (onRun_requireOpen r).bind fun _ _ _ => onRun_renderTags hbelow hconfig r content params

/-- **Rendering related nodes in related stores comes to the same**, or fails with an error that is
excused. -/
theorem onRun_render : ∀ depth : Nat, l.OnBelow (Node.render (σ := σ) depth) (Node.render depth)
  | 0 => fun _ _ params hnode =>
      onRun_renderVia (fun _ _ _ _ => onRun_throw Failure.tooDeep) hnode params
  | depth + 1 => fun _ _ params hnode => onRun_renderVia (onRun_render depth) hnode params

end Loosening

-- ---------------------------------------------------------------------------
-- One rendering after the other
-- ---------------------------------------------------------------------------

/-- The outcomes of rendering a node with parameters in turn, each in the store that the one before
leaves. -/
def Node.renderEach (depth : Nat) (node : Node σ) :
    List Value → Store σ → List (Except Failure Text)
  | [], _ => []
  | params :: rest, s =>
    ((node.render depth params).exec s).1 ::
      renderEach depth node rest ((node.render depth params).exec s).2

namespace Loosening

variable (l : Loosening)

/-- As long as all outcomes before are texts, the next one is the same text in both, the same
failure in both, or an excused failure in the first. -/
def Agree (outcomes outcomes' : List (Except Failure Text)) : Prop :=
  ∀ i : Nat, (∀ j < i, ∃ text, outcomes[j]? = some (.ok text)) →
    (∀ text, outcomes[i]? = some (.ok text) → outcomes'[i]? = some (.ok text)) ∧
    ∀ failure, outcomes[i]? = some (.error failure) →
      l.Excuses failure ∨ outcomes'[i]? = some (.error failure)

variable {l}

/-- The induction is on the parameters; the stores are related as long as renderings succeed. -/
theorem agree_renderEach (depth : Nat) {node node' : Node σ} (hnode : l.OnNode node node') :
    ∀ (sequence : List Value) {s s' : Store σ}, l.OnStore s s' →
      l.Agree (node.renderEach depth sequence s) (node'.renderEach depth sequence s')
  | [], _, _, _ => fun i _ => ⟨fun text h => by simp [Node.renderEach] at h,
      fun failure h => by simp [Node.renderEach] at h⟩
  | params :: rest, s, s', hs => by
    have hfirst := onRun_render depth node node' params hnode s s' hs
    rw [Node.renderEach, Node.renderEach]
    rcases hexec : (node.render depth params).exec s with ⟨outcome, s₁⟩
    rcases hexec' : (node'.render depth params).exec s' with ⟨outcome', s₁'⟩
    rw [hexec, hexec'] at hfirst
    intro i hbefore
    cases i with
    | zero =>
      cases hfirst with
      | ok heq => exact ⟨fun _ htext => heq ▸ htext, fun _ hfailure => .inr (heq ▸ hfailure)⟩
      | failed => exact ⟨fun _ htext => htext, fun _ hfailure => .inr hfailure⟩
      | excused hexcused =>
        refine ⟨fun _ htext => (by cases htext), fun _ hfailure => ?_⟩
        cases hfailure
        exact .inl hexcused
    | succ i =>
      obtain ⟨text, htext⟩ := hbefore 0 (Nat.succ_pos i)
      cases htext
      cases hfirst with
      | ok _ hstore =>
        exact agree_renderEach depth hnode rest hstore i
          fun j hj => hbefore (j + 1) (Nat.succ_lt_succ hj)

/-- **Strictness and the limit of passes only add errors.** A template is compiled against an open
registry with tight options and, from the same state, with loose ones, and both are rendered with
the same parameters in turn. As long as all renderings with the tight options succeed, those with
the loose ones have the same outputs; and the first failure is one that the tight options alone can
raise, or the rendering with the loose ones fails with the same error. -/
theorem render_agrees (l : Loosening) {s : Store σ} {r : RegistryId} {registry : Registry σ}
    (hopen : s.open? r = some registry) (ownsRegistry : Bool) (content : Text) (depth : Nat)
    (sequence : List Value) :
    ∃ tight loose s₁ s₂,
      (Run.compile r ownsRegistry l.tight content).exec s = (.ok tight, s₁) ∧
      (Run.compile r ownsRegistry l.loose content).exec s = (.ok loose, s₂) ∧
      l.Agree ((Node.template tight).renderEach depth sequence s₁)
        ((Node.template loose).renderEach depth sequence s₂) := by
  obtain ⟨s₁, hexec, -⟩ := Run.compile_exec hopen ownsRegistry l.tight content
  have hcompile := onRun_compile (l := l) (σ := σ) (.inr ⟨rfl, rfl⟩) r ownsRegistry content s s
    (.refl s)
  rcases hexec' : (Run.compile r ownsRegistry l.loose content).exec s with ⟨outcome, s₂⟩
  rw [hexec, hexec'] at hcompile
  cases hcompile with
  | ok hnode hstore =>
    exact ⟨_, _, s₁, s₂, hexec, rfl, agree_renderEach depth hnode sequence hstore⟩

/-- Strict options and the default ones, on a tag within a block, `?{x}%{y}?{/x}`. The first
rendering gives the same; the second has no value for the tag, which fails in the first run only. -/
theorem render_agrees_nested :
    let l : Loosening := ⟨.strict, .default, rfl, rfl, Nat.le_refl _⟩
    let content := "?{x}%{y}?{/x}".toList
    let s : Store Unit := ((Store.empty ()).newRegistry []).2
    let x : Text × Value := ("x".toList, .bool true)
    let sequence : List Value := [.object [x, ("y".toList, .string "a".toList)], .object [x]]
    s.open? 0 = some ⟨[], [], true⟩ ∧ ∃ tight loose s₁ s₂,
      (Run.compile 0 true l.tight content).exec s = (.ok tight, s₁) ∧
      (Run.compile 0 true l.loose content).exec s = (.ok loose, s₂) ∧
      (Node.template tight).renderEach 1 sequence s₁ =
        [.ok "a".toList, .error (.error (.unresolvedPath "y".toList))] ∧
      ((Node.template loose).renderEach 1 sequence s₂)[0]? = some (.ok "a".toList) := by
  intro l content s x sequence
  obtain ⟨tight, loose, s₁, s₂, hexec, hexec', hagree⟩ :=
    render_agrees l (show s.open? 0 = some ⟨[], [], true⟩ from rfl) true content 1 sequence
  refine ⟨rfl, tight, loose, s₁, s₂, hexec, hexec', ?_⟩
  have htight : (Node.template tight).renderEach 1 sequence s₁ =
      [.ok "a".toList, .error (.error (.unresolvedPath "y".toList))] := by
    cases hexec
    decide +kernel
  have hfirst := (hagree 0 fun j hj => absurd hj (Nat.not_lt_zero j)).1 "a".toList
  rw [htight] at hfirst
  exact ⟨htight, hfirst rfl⟩

end Loosening

end Templating
