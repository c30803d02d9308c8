import Templating.Proofs.Effects

/-!
# Cached nodes over many calls

A cached node keeps an output and the parameters of the last rendering that succeeded. When it
gives the output again, the parameters move on and the output stays, so a validator never sees the
parameters that the output was made from. It need not: each of its verdicts says that the outcome
for the parameters is that for the previous ones, and from rendering to rendering these add up.

* `CachedCall.run` — renderings and invalidations one after the other;
* `Right` — a cell keeps what the node below would give for the parameters beside it;
* `Respects` — what the node below and the validator have to be like;
* `Run.respects_renderCached` — one rendering gives what the node below gives, and leaves the cell
  right;
* `Node.cached_transparent` — so the calls have the outcomes that they have without a cache.
-/

namespace Templating

variable {σ α : Type}

-- ---------------------------------------------------------------------------
-- Calls
-- ---------------------------------------------------------------------------

/-- A call on a cached node. -/
inductive CachedCall where
  | render (params : Value)
  | invalidate

namespace CachedCall

/-- The parameters of a rendering. -/
def params? : CachedCall → Option Value
  | render params => some params
  | invalidate => none

/-- Calls one after the other on the node that keeps its output in `cell`, with the outcomes of the
renderings. The calls go on after a failure. -/
def run (node : Value → Run σ Text) (cell : CellId) (s : Store σ) :
    List CachedCall → List (Except Failure Text) × Store σ
  | [] => ([], s)
  | .render params :: calls =>
    let (outcome, s) := (node params).exec s
    let (outcomes, s) := run node cell s calls
    (outcome :: outcomes, s)
  | .invalidate :: calls => run node cell (s.keep cell none) calls

end CachedCall

-- ---------------------------------------------------------------------------
-- Cells that are right
-- ---------------------------------------------------------------------------

/-- What is kept, if anything, is the outcome for the parameters kept with it. -/
def Right (outcome : Value → Except Failure Text) (kept : Option Snapshot) : Prop :=
  ∀ snapshot ∈ kept, outcome snapshot.params = .ok snapshot.output

/-- The store is in `K` and the cell is right. -/
structure Faithful (K : Store σ → Prop) (cell : CellId) (outcome : Value → Except Failure Text)
    (s : Store σ) : Prop where
  known : K s
  right : Right outcome (s.snapshot? cell)

/-- Whether a store is in `K` does not depend on the log, nor on what the cell keeps as long as this
is right. -/
structure Steady (K : Store σ → Prop) (cell : CellId) (outcome : Value → Except Failure Text) :
    Prop where
  emit : ∀ s e, K s → K (s.emit e)
  keep : ∀ s kept, K s → Right outcome kept → K (s.keep cell kept)

/-- In the stores of `K`, as long as the cell is right, the computation has a result that `P` holds
of, and it leaves such a store. It may come upon the cell, where nodes refer to each other. -/
def Respects (K : Store σ → Prop) (cell : CellId) (outcome : Value → Except Failure Text)
    (x : Run σ α) (P : Except Failure α → Prop) : Prop :=
  ∀ s, Faithful K cell outcome s → P (x.exec s).1 ∧ Faithful K cell outcome (x.exec s).2

/-- The validator always gives a verdict, and accepts parameters only where the outcome for them is
that for the previous ones. Without a validator all parameters are accepted. -/
def Sound (K : Store σ → Prop) (cell : CellId) (outcome : Value → Except Failure Text) :
    Option (Value → Value → Run σ Bool) → Prop
  | none => ∀ params previous, outcome params = outcome previous
  | some validator => ∀ params previous, Respects K cell outcome (validator params previous)
      fun verdict => ∃ valid, verdict = .ok valid ∧
        (valid = true → outcome params = outcome previous)

theorem Store.snapshot?_keep (s : Store σ) (cell : CellId) (kept : Option Snapshot) :
    (s.keep cell kept).snapshot? cell = kept ∨ (s.keep cell kept).snapshot? cell = none := by
  rw [snapshot?, keep, List.getElem?_set_self']
  cases s.cells[cell]? with
  | none => exact .inr rfl
  | some _ => exact .inl rfl

section Rendering

variable {K : Store σ → Prop} {cell : CellId} {outcome : Value → Except Failure Text} {s : Store σ}

theorem right_none : Right outcome none := by
  intro snapshot hsnapshot
  cases hsnapshot

theorem right_some {output : Text} {params : Value} (h : outcome params = .ok output) :
    Right outcome (some ⟨output, params⟩) := by
  intro snapshot hsnapshot
  cases hsnapshot
  exact h

theorem Faithful.emit (h : Faithful K cell outcome s) (hK : Steady K cell outcome) (e : Event) :
    Faithful K cell outcome (s.emit e) := ⟨hK.emit s e h.known, h.right⟩

theorem Faithful.keep (h : Faithful K cell outcome s) (hK : Steady K cell outcome)
    {kept : Option Snapshot} (hkept : Right outcome kept) :
    Faithful K cell outcome (s.keep cell kept) := by
  refine ⟨hK.keep s kept h.known hkept, ?_⟩
  rcases s.snapshot?_keep cell kept with heq | heq
  · rw [heq]
    exact hkept
  · rw [heq]
    exact right_none

-- ---------------------------------------------------------------------------
-- One rendering
-- ---------------------------------------------------------------------------

namespace Run

variable {validator : Option (Value → Value → Run σ Bool)} {body : Value → Run σ Text}

/-- An output that may be given again is the outcome for the parameters at hand. -/
theorem respects_storedOutput (hvalidator : Sound K cell outcome validator) (params : Value)
    {kept : Option Snapshot} (hkept : Right outcome kept) :
    Respects K cell outcome (storedOutput validator params kept) fun result =>
      ∃ stored, result = .ok stored ∧ ∀ output ∈ stored, outcome params = .ok output := by
  intro s hs
  cases kept with
  | none => exact ⟨⟨none, rfl, fun _ houtput => by cases houtput⟩, hs⟩
  | some snapshot =>
    have hright : outcome snapshot.params = .ok snapshot.output := hkept snapshot rfl
    cases validator with
    | none =>
      refine ⟨⟨some snapshot.output, rfl, fun output houtput => ?_⟩, hs⟩
      cases houtput
      exact (hvalidator params snapshot.params).trans hright
    | some validator =>
      obtain ⟨⟨valid, hverdict, hvalid⟩, hafter⟩ := hvalidator params snapshot.params s hs
      have hexec : (validator params snapshot.params).exec s =
          (.ok valid, ((validator params snapshot.params).exec s).2) := Prod.ext hverdict rfl
      rw [storedOutput, exec_bind_ok hexec]
      refine ⟨⟨_, rfl, fun output houtput => ?_⟩, hafter⟩
      -- if the validator accepts, the two outcomes are the same
      cases valid with
      | true =>
        cases houtput
        exact (hvalid rfl).trans hright
      | false => cases houtput

/-- Giving a stored output again moves the parameters on; computing one replaces both. -/
theorem respects_giveOutput (hK : Steady K cell outcome)
    (hbody : ∀ params, Respects K cell outcome (body params) (· = outcome params))
    (params : Value) {stored : Option Text}
    (hstored : ∀ output ∈ stored, outcome params = .ok output) :
    Respects K cell outcome (giveOutput cell body params stored) (· = outcome params) := by
  intro s hs
  cases stored with
  | some output =>
    have houtput := hstored output rfl
    exact ⟨houtput.symm, (hs.emit hK .outputReused).keep hK (right_some houtput)⟩
  | none =>
    obtain ⟨hresult, hafter⟩ := hbody params _ (hs.emit hK .outputRecomputed)
    rw [giveOutput, exec_bind_ok (exec_emit ..)]
    cases hexec : (body params).exec (s.emit .outputRecomputed) with
    | mk result s' =>
      rw [hexec] at hresult hafter
      cases result with
      | error failure =>
        rw [exec_bind_error hexec]
        exact ⟨hresult, hafter⟩
      | ok output =>
        rw [exec_bind_ok hexec, exec_bind_ok (exec_modify ..)]
        exact ⟨hresult, hafter.keep hK (right_some hresult.symm)⟩

/-- **One rendering** of a cached node has the outcome of the node below, and leaves the cell
right. -/
theorem respects_renderCached (hK : Steady K cell outcome)
    (hbody : ∀ params, Respects K cell outcome (body params) (· = outcome params))
    (hvalidator : Sound K cell outcome validator) (params : Value) :
    Respects K cell outcome (renderCached cell validator body params) (· = outcome params) := by
  intro s hs
  obtain ⟨⟨stored, hexec, hstored⟩, hafter⟩ := respects_storedOutput hvalidator params hs.right s hs
  have hasked : (storedOutput validator params (s.snapshot? cell)).exec s = (.ok stored, _) :=
    Prod.ext hexec rfl
  rw [renderCached_eq, exec_bind_ok (exec_get s), exec_bind_ok hasked]
  exact respects_giveOutput hK hbody params hstored _ hafter

end Run

end Rendering

-- ---------------------------------------------------------------------------
-- Many calls
-- ---------------------------------------------------------------------------

/-- What renders the nodes that tags refer to, in a rendering of the given depth. -/
def Node.renderReferred : (depth : Nat) → Node σ → Value → Run σ Text
  | 0 => fun _ _ => throw .tooDeep
  | depth + 1 => Node.render depth

theorem Node.render_eq (depth : Nat) :
    (render depth : Node σ → Value → Run σ Text) = renderVia (renderReferred depth) := by
  cases depth with
  | zero => rfl
  | succ depth => rfl

/-- A template whose registry is open is rendered as its text. -/
theorem Node.render_template {t : Template} {s : Store σ} {registry : Registry σ}
    (hopen : s.open? t.registry = some registry) (depth : Nat) (params : Value) :
    ((Node.template t).render depth params).exec s =
      (Run.renderTags (renderReferred depth) t.registry t.config t.content params).exec s := by
  rw [render_eq, renderVia]
  exact Run.exec_bind_ok (Run.exec_requireOpen hopen) _

theorem Node.render_cached (depth : Nat) (cell : CellId) (validator : Option (Validator σ))
    (body : Node σ) (params : Value) :
    (Node.cached cell validator body).render depth params =
      Run.renderCached cell
        (validator.map fun v => fun params previous =>
          Run.accepts (renderReferred depth) params previous v)
        (body.render depth) params := by
  rw [render_eq, renderVia]

/-- **A sound validator makes caching transparent.** In the stores of `K`, let the outcome of a node
be a function of the parameters, and let the validator accept parameters only where the outcome for
them is that for the previous ones. Then in any sequence of renderings and invalidations, from
nothing stored, each rendering of the cached node has the outcome of the node for its own
parameters. -/
theorem Node.cached_transparent {K : Store σ → Prop} {outcome : Value → Except Failure Text}
    {cell : CellId} {validator : Option (Validator σ)} {body : Node σ} {depth : Nat}
    (hK : Steady K cell outcome)
    (hbody : ∀ params, Respects K cell outcome (body.render depth params) (· = outcome params))
    (hvalidator : Sound K cell outcome (validator.map fun v => fun params previous =>
      Run.accepts (renderReferred depth) params previous v))
    {s : Store σ} (hs : K s) (hcell : s.snapshot? cell = none) (calls : List CachedCall) :
    (CachedCall.run ((Node.cached cell validator body).render depth) cell s calls).1 =
      (calls.filterMap CachedCall.params?).map outcome := by
  have hstart : Faithful K cell outcome s := ⟨hs, hcell ▸ right_none⟩
  clear hs hcell
  induction calls generalizing s with
  | nil => rfl
  | cons call calls ih =>
    cases call with
    | render params =>
      obtain ⟨houtcome, hafter⟩ := Run.respects_renderCached hK hbody hvalidator params s hstart
      rw [← render_cached] at houtcome hafter
      exact List.cons_eq_cons.mpr ⟨houtcome, ih hafter⟩
    | invalidate =>
      exact ih (hstart.keep hK right_none)

/-- A closure that counts its calls says whether the parameters are falsy, and the validator
compares this with the previous time: four renderings, three of which call the closure. -/
theorem Node.cached_transparent_counted :
    let answer : Value → Text := fun params => (if params.isFalsy then "no" else "yes").toList
    let body : Node Nat := .callback fun params count => (answer params, count + 1)
    let validator : Validator Nat :=
      .closure fun params previous count => (answer params == answer previous, count)
    let calls : List CachedCall := [.render (.bool true), .render (.string "x".toList), .invalidate,
      .render (.bool true), .render .null]
    let result := CachedCall.run ((Node.cached 0 (some validator) body).render 0) 0
      ((Store.empty 0).newCell).2 calls
    result.1 = (calls.filterMap CachedCall.params?).map (fun params => .ok (answer params)) ∧
      result.2.caller = 3 := by
  intro answer body validator calls result
  refine ⟨?_, by decide +kernel⟩
  have hK : Steady (fun _ : Store Nat => True) 0 fun params => .ok (answer params) :=
    ⟨fun _ _ _ => trivial, fun _ _ _ _ => trivial⟩
  have hbody : ∀ params, Respects (fun _ : Store Nat => True) 0 (fun params => .ok (answer params))
      (body.render 0 params) (· = .ok (answer params)) :=
    fun _ _ hs => ⟨rfl, trivial, hs.right⟩
  refine Node.cached_transparent hK hbody ?_ trivial rfl calls
  intro params previous s hs
  refine ⟨⟨answer params == answer previous, rfl, fun hvalid => ?_⟩, trivial, hs.right⟩
  exact congrArg Except.ok (eq_of_beq hvalid)

end Templating
