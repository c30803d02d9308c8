import Templating.Proofs.Verdict

/-!
# What a cached node keeps

Between renderings a cached node keeps an output and parameters. The two have different histories:
the output is that of the last evaluation of the node below that succeeded, the parameters are those
of the last rendering that succeeded, evaluated or not. A failure, be it of the validator or of the
node below, changes neither, and an invalidation drops both.

The calls on a node are put on record here, the latest first, and what the cell keeps is read off
the record.

* `Run.observe` — one rendering and what happens in it, `Run.exec_renderCached` — that it is one;
* `Reflects` — the cell keeps what the record says;
* `Run.onRecord_observe`, `CachedCall.onRecord_record` — it does after one more rendering, and so
  after all calls;
* `Node.cached_history` — when the node below is evaluated, and what is kept, at every call;
* `Node.cached_history_reentered` — a node that is rendered from below itself keeps an output though
  it fails.
-/

namespace Templating

variable {σ α : Type}

-- ---------------------------------------------------------------------------
-- Records
-- ---------------------------------------------------------------------------

/-- What happens in a rendering of a cached node. -/
structure Rendering where
  params : Value
  /-- What the node below gave, if it was evaluated. -/
  evaluated : Option (Except Failure Text)
  outcome : Except Failure Text

/-- What happened to a cached node. -/
inductive Called where
  | rendered (rendering : Rendering)
  | invalidated

namespace Called

/-- The renderings since the last invalidation, latest first. -/
def since : List Called → List Rendering
  | [] => []
  | .rendered rendering :: earlier => rendering :: since earlier
  | .invalidated :: _ => []

/-- The last rendering since the last invalidation that succeeded. -/
def lastSuccess? (log : List Called) : Option Rendering := (since log).find? (·.outcome.isOk)

/-- The output of an evaluation of the node below that succeeded. -/
def output? : Called → Option Text
  | .rendered rendering => rendering.evaluated.bind Except.toOption
  | .invalidated => none

/-- The output of the last evaluation of the node below that succeeded. -/
def lastOutput? (log : List Called) : Option Text := log.findSome? output?

/-- The outcomes of the renderings, in the order of the calls. -/
def outcomes : List Called → List (Except Failure Text)
  | [] => []
  | .rendered rendering :: earlier => outcomes earlier ++ [rendering.outcome]
  | .invalidated :: earlier => outcomes earlier

end Called

-- ---------------------------------------------------------------------------
-- What is kept
-- ---------------------------------------------------------------------------

/-- What a cell keeps after the calls on record. -/
structure Reflects (log : List Called) (kept : Option Snapshot) : Prop where
  /-- Something exactly if a rendering succeeded since the last invalidation, and then the
  parameters of the last that did. -/
  params : kept.map Snapshot.params = (Called.lastSuccess? log).map Rendering.params
  output : ∀ snapshot ∈ kept, Called.lastOutput? log = some snapshot.output

namespace Reflects

variable {log : List Called} {kept : Option Snapshot} {params : Value} {output : Text}

theorem nil : Reflects [] none := ⟨rfl, fun _ h => by cases h⟩

theorem invalidated : Reflects (.invalidated :: log) none := ⟨rfl, fun _ h => by cases h⟩

/-- An evaluation that succeeds is the last of both kinds. -/
theorem computed :
    Reflects (.rendered ⟨params, some (.ok output), .ok output⟩ :: log)
      (some ⟨output, params⟩) := by
  refine ⟨rfl, fun snapshot hsnapshot => ?_⟩
  cases hsnapshot
  rfl

/-- An output that is given again stays, and the parameters move on. -/
theorem reused {snapshot : Snapshot} (h : Reflects log (some snapshot)) :
    Reflects (.rendered ⟨params, none, .ok snapshot.output⟩ :: log)
      (some ⟨snapshot.output, params⟩) := by
  refine ⟨rfl, fun snapshot' hsnapshot' => ?_⟩
  cases hsnapshot'
  exact h.output snapshot rfl

/-- A failure is neither an evaluation nor a rendering that succeeded. -/
theorem failed (h : Reflects log kept) {evaluated : Option (Except Failure Text)}
    {failure : Failure} (hevaluated : evaluated.bind Except.toOption = none) :
    Reflects (.rendered ⟨params, evaluated, .error failure⟩ :: log) kept := by
  refine ⟨h.params, fun snapshot hsnapshot => ?_⟩
  rw [Called.lastOutput?, List.findSome?_cons, Called.output?, hevaluated]
  exact h.output snapshot hsnapshot

/-- Something is kept exactly if a rendering succeeded since the last invalidation. -/
theorem isSome_iff (h : Reflects log kept) :
    kept.isSome = true ↔ ∃ rendering ∈ Called.since log, rendering.outcome.isOk = true := by
  have hsome := congrArg Option.isSome h.params
  rw [Option.isSome_map, Option.isSome_map] at hsome
  rw [hsome]
  exact List.find?_isSome

/-- What is kept is kept with the parameters of the last rendering that succeeded. -/
theorem exists_last (h : Reflects log kept) {snapshot : Snapshot} (hkept : kept = some snapshot) :
    ∃ last, Called.lastSuccess? log = some last ∧ last.params = snapshot.params := by
  subst hkept
  exact Option.map_eq_some_iff.mp h.params.symm

theorem exists_kept (h : Reflects log kept) {last : Rendering}
    (hlast : Called.lastSuccess? log = some last) :
    ∃ snapshot, kept = some snapshot ∧ snapshot.params = last.params := by
  have hparams := h.params
  rw [hlast] at hparams
  exact Option.map_eq_some_iff.mp hparams

end Reflects

-- ---------------------------------------------------------------------------
-- One rendering
-- ---------------------------------------------------------------------------

namespace Run

variable {cell : CellId} {validator : Option (Value → Value → Run σ Bool)}
  {body : Value → Run σ Text} {params : Value} {s s' : Store σ}

/-- What the validator says of the parameters and the previous ones; without a validator, that the
output may be given again. -/
def verdict (validator : Option (Value → Value → Run σ Bool)) (params previous : Value) :
    Run σ Bool :=
  match validator with
  | none => pure true
  | some validator => validator params previous

/-- A rendering that evaluates the node below. -/
def recompute (cell : CellId) (body : Value → Run σ Text) (params : Value) (s : Store σ) :
    Rendering × Store σ :=
  match (body params).exec (s.emit .outputRecomputed) with
  | (.ok output, s) =>
    (⟨params, some (.ok output), .ok output⟩, s.keep cell (some ⟨output, params⟩))
  | (.error failure, s) => (⟨params, some (.error failure), .error failure⟩, s)

/-- A rendering after the verdict on the parameters. -/
def respond (cell : CellId) (body : Value → Run σ Text) (params : Value) (snapshot : Snapshot) :
    Except Failure Bool → Store σ → Rendering × Store σ
  | .ok true, s =>
    (⟨params, none, .ok snapshot.output⟩,
      (s.emit .outputReused).keep cell (some ⟨snapshot.output, params⟩))
  | .ok false, s => recompute cell body params s
  | .error failure, s => (⟨params, none, .error failure⟩, s)

/-- A rendering, what happens in it, and the store that it leaves. -/
def observe (cell : CellId) (validator : Option (Value → Value → Run σ Bool))
    (body : Value → Run σ Text) (params : Value) (s : Store σ) : Rendering × Store σ :=
  match s.snapshot? cell with
  | none => recompute cell body params s
  | some snapshot =>
    let (result, s) := (verdict validator params snapshot.params).exec s
    respond cell body params snapshot result s

theorem observe_of_none (h : s.snapshot? cell = none) :
    observe cell validator body params s = recompute cell body params s := by
  rw [observe, h]

theorem observe_of_some {snapshot : Snapshot} (h : s.snapshot? cell = some snapshot)
    {result : Except Failure Bool}
    (hverdict : (verdict validator params snapshot.params).exec s = (result, s')) :
    observe cell validator body params s = respond cell body params snapshot result s' := by
  rw [observe, h]
  simp only [hverdict]

theorem exec_giveOutput_none :
    (giveOutput cell body params none).exec s =
      ((recompute cell body params s).1.outcome, (recompute cell body params s).2) := by
  rw [giveOutput, exec_bind_ok (exec_emit ..), recompute]
  rcases hexec : (body params).exec (s.emit .outputRecomputed) with ⟨result, s'⟩
  cases result with
  | ok output => rw [exec_bind_ok hexec, exec_bind_ok (exec_modify ..)]; rfl
  | error failure => rw [exec_bind_error hexec]

theorem storedOutput_some (snapshot : Snapshot) :
    storedOutput validator params (some snapshot) =
      (verdict validator params snapshot.params >>= fun valid =>
        pure (if valid then some snapshot.output else none)) := by
  cases validator with
  | none => rfl
  | some validator => rfl

/-- **The rendering of a cached node is the one that is observed.** -/
theorem exec_renderCached :
    (renderCached cell validator body params).exec s =
      ((observe cell validator body params s).1.outcome,
        (observe cell validator body params s).2) := by
  rw [renderCached_eq, exec_bind_ok (exec_get s)]
  cases hkept : s.snapshot? cell with
  | none =>
    have hstored : (storedOutput validator params none).exec s = (.ok none, s) := rfl
    rw [observe_of_none hkept, exec_bind_ok hstored]
    exact exec_giveOutput_none
  | some snapshot =>
    rcases hverdict : (verdict validator params snapshot.params).exec s with ⟨result, s'⟩
    have hstored := exec_map (verdict validator params snapshot.params)
      (fun valid => if valid then some snapshot.output else none) s
    rw [← storedOutput_some, hverdict] at hstored
    rw [observe_of_some hkept hverdict]
    match result, hstored with
    | .ok true, hstored => rw [exec_bind_ok hstored]; rfl
    | .ok false, hstored =>
      rw [exec_bind_ok hstored]
      exact exec_giveOutput_none
    | .error failure, hstored => rw [exec_bind_error hstored]; rfl

theorem evaluated_recompute :
    (recompute cell body params s).1.evaluated = some (recompute cell body params s).1.outcome := by
  unfold recompute
  split <;> rfl

theorem outcome_recompute :
    (recompute cell body params s).1.outcome =
      ((body params).exec (s.emit .outputRecomputed)).1 := by
  rw [recompute]
  rcases (body params).exec (s.emit .outputRecomputed) with ⟨result, s'⟩
  cases result <;> rfl

/-- The node below is evaluated if nothing is kept or the verdict is a refusal. -/
theorem evaluated_observe :
    (observe cell validator body params s).1.evaluated.isSome = true ↔
      s.snapshot? cell = none ∨ ∃ snapshot, s.snapshot? cell = some snapshot ∧
        ((verdict validator params snapshot.params).exec s).1 = .ok false := by
  cases hkept : s.snapshot? cell with
  | none =>
    rw [observe_of_none hkept, evaluated_recompute]
    simp
  | some snapshot =>
    rcases hverdict : (verdict validator params snapshot.params).exec s with ⟨result, s'⟩
    rw [observe_of_some hkept hverdict]
    match result with
    | .ok true => simp [respond, hverdict]
    | .ok false =>
      rw [respond, evaluated_recompute]
      simp [hverdict]
    | .error failure => simp [respond, hverdict]

/-- Where the validator fails, the node below is not evaluated, and the rendering fails with it. -/
theorem observe_of_failed {snapshot : Snapshot} (h : s.snapshot? cell = some snapshot)
    {failure : Failure}
    (hfailed : ((verdict validator params snapshot.params).exec s).1 = .error failure) :
    (observe cell validator body params s).1 = ⟨params, none, .error failure⟩ := by
  rcases hverdict : (verdict validator params snapshot.params).exec s with ⟨result, s'⟩
  rw [hverdict] at hfailed
  subst hfailed
  rw [observe_of_some h hverdict]
  rfl

/-- What an evaluation gives is the outcome of the rendering. -/
theorem outcome_of_evaluated {result : Except Failure Text}
    (h : (observe cell validator body params s).1.evaluated = some result) :
    (observe cell validator body params s).1.outcome = result ∧
      ∃ started, ((body params).exec started).1 = result := by
  cases hkept : s.snapshot? cell with
  | none =>
    rw [observe_of_none hkept] at h ⊢
    have hresult := Option.some.inj (evaluated_recompute.symm.trans h)
    exact ⟨hresult, _, outcome_recompute.symm.trans hresult⟩
  | some snapshot =>
    rcases hverdict : (verdict validator params snapshot.params).exec s with ⟨answer, s'⟩
    rw [observe_of_some hkept hverdict] at h ⊢
    match answer, h with
    | .ok false, h =>
      have hresult := Option.some.inj (evaluated_recompute.symm.trans h)
      exact ⟨hresult, _, outcome_recompute.symm.trans hresult⟩

/-- Where the node below is not evaluated, it could be any other. -/
theorem observe_of_not_evaluated
    (h : (observe cell validator body params s).1.evaluated = none)
    (other : Value → Run σ Text) :
    observe cell validator other params s = observe cell validator body params s := by
  cases hkept : s.snapshot? cell with
  | none =>
    rw [observe_of_none hkept, evaluated_recompute] at h
    cases h
  | some snapshot =>
    rcases hverdict : (verdict validator params snapshot.params).exec s with ⟨answer, s'⟩
    rw [observe_of_some hkept hverdict] at h
    rw [observe_of_some hkept hverdict, observe_of_some hkept hverdict]
    match answer, h with
    | .ok true, _ => rfl
    | .ok false, h =>
      rw [respond, evaluated_recompute] at h
      cases h
    | .error _, _ => rfl

end Run

-- ---------------------------------------------------------------------------
-- One rendering after the others
-- ---------------------------------------------------------------------------

/-- The stores of `K` have the cell, and neither an event nor something kept in the cell leads out
of `K`. -/
structure Hosts (K : Store σ → Prop) (cell : CellId) : Prop where
  has : ∀ s, K s → cell < s.cells.length
  emit : ∀ s e, K s → K (s.emit e)
  keep : ∀ s kept, K s → K (s.keep cell kept)

/-- In the stores of `K` the computation leaves what the cell keeps, and leaves a store of `K`. It
may do anything else, and may fail. -/
def Leaves (K : Store σ → Prop) (cell : CellId) (x : Run σ α) : Prop :=
  ∀ s, K s → K (x.exec s).2 ∧ (x.exec s).2.snapshot? cell = s.snapshot? cell

theorem Store.snapshot?_keep_self {s : Store σ} {cell : CellId} (h : cell < s.cells.length)
    (kept : Option Snapshot) : (s.keep cell kept).snapshot? cell = kept := by
  rw [snapshot?, keep, List.getElem?_set_self h]
  rfl

/-- The store is in `K`, and the cell keeps what the record says. -/
def OnRecord (K : Store σ → Prop) (cell : CellId) (log : List Called) (s : Store σ) : Prop :=
  K s ∧ Reflects log (s.snapshot? cell)

section Steps

variable {K : Store σ → Prop} {cell : CellId} {validator : Option (Value → Value → Run σ Bool)}
  {body : Value → Run σ Text} {log : List Called} {s : Store σ}

theorem OnRecord.keep (hK : Hosts K cell) (hs : K s) {kept : Option Snapshot}
    (h : Reflects log kept) : OnRecord K cell log (s.keep cell kept) := by
  refine ⟨hK.keep s kept hs, ?_⟩
  rw [Store.snapshot?_keep_self (hK.has s hs)]
  exact h

namespace Run

theorem onRecord_recompute (hK : Hosts K cell) (hbody : ∀ params, Leaves K cell (body params))
    (h : OnRecord K cell log s) (params : Value) :
    OnRecord K cell (.rendered (recompute cell body params s).1 :: log)
      (recompute cell body params s).2 := by
  obtain ⟨hs, hkept⟩ := hbody params _ (hK.emit s .outputRecomputed h.1)
  rw [recompute]
  rcases hexec : (body params).exec (s.emit .outputRecomputed) with ⟨result, s'⟩
  rw [hexec] at hs hkept
  cases result with
  | ok output => exact OnRecord.keep hK hs .computed
  | error failure => exact ⟨hs, hkept ▸ h.2.failed rfl⟩

/-- A failure of the node below leaves what is kept. -/
theorem snapshot?_recompute (hK : Hosts K cell) (hbody : ∀ params, Leaves K cell (body params))
    (hs : K s) {params : Value} {failure : Failure}
    (hfailed : (recompute cell body params s).1.outcome = .error failure) :
    (recompute cell body params s).2.snapshot? cell = s.snapshot? cell := by
  obtain ⟨-, hkept⟩ := hbody params _ (hK.emit s .outputRecomputed hs)
  rw [recompute] at hfailed ⊢
  rcases hexec : (body params).exec (s.emit .outputRecomputed) with ⟨result, s'⟩
  rw [hexec] at hkept
  rw [hexec] at hfailed
  cases result with
  | ok output => cases hfailed
  | error _ => exact hkept

variable (hK : Hosts K cell) (hbody : ∀ params, Leaves K cell (body params))
  (hvalidator : ∀ params previous, Leaves K cell (verdict validator params previous))

include hK hbody hvalidator

/-- **One rendering**, put on record, leaves the cell as the record says. -/
theorem onRecord_observe (h : OnRecord K cell log s) (params : Value) :
    OnRecord K cell (.rendered (observe cell validator body params s).1 :: log)
      (observe cell validator body params s).2 := by
  cases hkept : s.snapshot? cell with
  | none =>
    rw [observe_of_none hkept]
    exact onRecord_recompute hK hbody h params
  | some snapshot =>
    have hafter := hvalidator params snapshot.params s h.1
    rcases hverdict : (verdict validator params snapshot.params).exec s with ⟨result, s'⟩
    rw [hverdict] at hafter
    have hrecord : OnRecord K cell log s' := ⟨hafter.1, hafter.2 ▸ h.2⟩
    rw [observe_of_some hkept hverdict]
    match result with
    | .ok true => exact OnRecord.keep hK (hK.emit s' _ hafter.1) (hkept ▸ h.2).reused
    | .ok false => exact onRecord_recompute hK hbody hrecord params
    | .error failure => exact ⟨hafter.1, hrecord.2.failed rfl⟩

/-- **A failure leaves what is kept**, whether the validator fails or the node below. -/
theorem snapshot?_observe (hs : K s) {params : Value} {failure : Failure}
    (hfailed : (observe cell validator body params s).1.outcome = .error failure) :
    (observe cell validator body params s).2.snapshot? cell = s.snapshot? cell := by
  cases hkept : s.snapshot? cell with
  | none =>
    rw [observe_of_none hkept] at hfailed ⊢
    rw [snapshot?_recompute hK hbody hs hfailed, hkept]
  | some snapshot =>
    obtain ⟨hs', hsame⟩ := hvalidator params snapshot.params s hs
    rcases hverdict : (verdict validator params snapshot.params).exec s with ⟨result, s'⟩
    rw [hverdict] at hs' hsame
    rw [observe_of_some hkept hverdict] at hfailed ⊢
    rw [← hkept, ← hsame]
    match result, hfailed with
    | .ok false, hfailed => exact snapshot?_recompute hK hbody hs' hfailed
    | .error _, _ => rfl

end Run

end Steps

-- ---------------------------------------------------------------------------
-- All calls
-- ---------------------------------------------------------------------------

namespace CachedCall

/-- The calls put on record on top of those before. -/
def record (node : Value → Store σ → Rendering × Store σ) (cell : CellId) :
    List Called → Store σ → List CachedCall → List Called × Store σ
  | log, s, [] => (log, s)
  | log, s, .render params :: calls =>
    let (rendering, s) := node params s
    record node cell (.rendered rendering :: log) s calls
  | log, s, .invalidate :: calls => record node cell (.invalidated :: log) (s.keep cell none) calls

variable {node : Value → Run σ Text} {observed : Value → Store σ → Rendering × Store σ}
  {cell : CellId}

/-- The calls on record are those that are made. -/
theorem record_run
    (h : ∀ params s, (node params).exec s = ((observed params s).1.outcome, (observed params s).2))
    (cell : CellId) (calls : List CachedCall) (log : List Called) (s : Store σ) :
    Called.outcomes (record observed cell log s calls).1 =
        Called.outcomes log ++ (run node cell s calls).1 ∧
      (record observed cell log s calls).2 = (run node cell s calls).2 := by
  induction calls generalizing log s with
  | nil => exact ⟨(List.append_nil _).symm, rfl⟩
  | cons call calls ih =>
    cases call with
    | render params =>
      obtain ⟨houtcomes, hstore⟩ :=
        ih (.rendered (observed params s).1 :: log) (observed params s).2
      simp only [record, run, h]
      refine ⟨?_, hstore⟩
      rw [houtcomes, Called.outcomes, List.append_assoc]
      rfl
    | invalidate => exact ih (.invalidated :: log) (s.keep cell none)

/-- What every rendering and every invalidation keeps, all calls keep. -/
theorem onRecord_record {K : Store σ → Prop} (hK : Hosts K cell)
    (h : ∀ log s params, OnRecord K cell log s →
      OnRecord K cell (.rendered (observed params s).1 :: log) (observed params s).2)
    (calls : List CachedCall) {log : List Called} {s : Store σ} (hs : OnRecord K cell log s) :
    OnRecord K cell (record observed cell log s calls).1 (record observed cell log s calls).2 := by
  induction calls generalizing log s with
  | nil => exact hs
  | cons call calls ih =>
    cases call with
    | render params => exact ih (h log s params hs)
    | invalidate => exact ih (OnRecord.keep hK hs.1 .invalidated)

end CachedCall

/-- **What a cached node keeps, and when it evaluates the node below, at every call.** Let the
validator and the node below leave what the cell keeps; they may fail at any time. Take any
renderings and invalidations, which are then all the calls on the node, from nothing stored. An
output is stored exactly if a rendering has succeeded since the last invalidation; it is that of the
last evaluation that succeeded, and the parameters with it are those of the last rendering since
then that succeeded. The next rendering evaluates the node below exactly if nothing is stored or the
validator refuses its parameters after these, and without an evaluation it is the same with any
other node below; it fails without an evaluation if the validator fails; and if it fails, for
whatever reason, what is stored stays as it is. -/
theorem Node.cached_history {K : Store σ → Prop} {cell : CellId} {validator : Option (Validator σ)}
    {body : Node σ} {depth : Nat} (hK : Hosts K cell)
    (hvalidator : ∀ v ∈ validator, ∀ params previous,
      Leaves K cell (Run.accepts (renderReferred depth) params previous v))
    (hbody : ∀ params, Leaves K cell (body.render depth params)) {s : Store σ} (hs : K s)
    (hstart : s.snapshot? cell = none) (calls : List CachedCall) :
    let asked := validator.map fun v => fun params previous =>
      Run.accepts (renderReferred depth) params previous v
    let node := (Node.cached cell validator body).render depth
    let observed := Run.observe cell asked (body.render depth)
    let log := (CachedCall.record observed cell [] s calls).1
    let result := CachedCall.run node cell s calls
    result.1 = Called.outcomes log ∧
    ((result.2.snapshot? cell).isSome = true ↔
      ∃ rendering ∈ Called.since log, rendering.outcome.isOk = true) ∧
    (∀ snapshot, result.2.snapshot? cell = some snapshot →
      Called.lastOutput? log = some snapshot.output ∧
      ∃ last, Called.lastSuccess? log = some last ∧ last.params = snapshot.params) ∧
    ∀ params,
      let next := observed params result.2
      (node params).exec result.2 = (next.1.outcome, next.2) ∧
      (∀ given, next.1.evaluated = some given →
        next.1.outcome = given ∧ ∃ s, ((body.render depth params).exec s).1 = given) ∧
      (next.1.evaluated = none → ∀ other : Node σ,
        ((Node.cached cell validator other).render depth params).exec result.2 =
          (next.1.outcome, next.2)) ∧
      (next.1.evaluated.isSome = true ↔ result.2.snapshot? cell = none ∨
        ∃ last, Called.lastSuccess? log = some last ∧
          ((Run.verdict asked params last.params).exec result.2).1 = .ok false) ∧
      (∀ last failure, Called.lastSuccess? log = some last →
        ((Run.verdict asked params last.params).exec result.2).1 = .error failure →
        next.1.evaluated = none ∧ next.1.outcome = .error failure) ∧
      (∀ failure, next.1.outcome = .error failure →
        next.2.snapshot? cell = result.2.snapshot? cell) := by
  intro asked node observed log result
  have hasked : ∀ params previous, Leaves K cell (Run.verdict asked params previous) := by
    intro params previous
    cases validator with
    | none => exact fun s hs => ⟨hs, rfl⟩
    | some v => exact hvalidator v rfl params previous
  have hnode : ∀ (below : Node σ) params s,
      ((Node.cached cell validator below).render depth params).exec s =
        ((Run.observe cell asked (below.render depth) params s).1.outcome,
          (Run.observe cell asked (below.render depth) params s).2) := by
    intro below params s
    rw [render_cached]
    exact Run.exec_renderCached
  obtain ⟨houtcomes, hstore⟩ := CachedCall.record_run (hnode body) cell calls [] s
  obtain ⟨hresult, hkept⟩ : OnRecord K cell log result.2 := by
    have hall := CachedCall.onRecord_record hK
      (fun log s params h => Run.onRecord_observe hK hbody hasked h params) calls
      ⟨hs, hstart ▸ Reflects.nil⟩
    rwa [hstore] at hall
  refine ⟨houtcomes.symm, hkept.isSome_iff, fun snapshot hsnapshot => ?_, fun params => ?_⟩
  · exact ⟨hkept.output snapshot hsnapshot, hkept.exists_last hsnapshot⟩
  refine ⟨hnode body params result.2, fun given => Run.outcome_of_evaluated, ?_, ?_, ?_,
    fun failure => Run.snapshot?_observe hK hbody hasked hresult⟩
  · intro hnot other
    rw [hnode other, Run.observe_of_not_evaluated hnot]
  · refine Run.evaluated_observe.trans (or_congr_right ?_)
    constructor
    · rintro ⟨snapshot, hsnapshot, hverdict⟩
      obtain ⟨last, hlast, hparams⟩ := hkept.exists_last hsnapshot
      exact ⟨last, hlast, hparams ▸ hverdict⟩
    · rintro ⟨last, hlast, hverdict⟩
      obtain ⟨snapshot, hsnapshot, hparams⟩ := hkept.exists_kept hlast
      exact ⟨snapshot, hsnapshot, hparams ▸ hverdict⟩
  · intro last failure hlast hfailed
    obtain ⟨snapshot, hsnapshot, hparams⟩ := hkept.exists_kept hlast
    have hnext : (observed params result.2).1 = ⟨params, none, .error failure⟩ :=
      Run.observe_of_failed hsnapshot (hparams ▸ hfailed)
    exact ⟨congrArg Rendering.evaluated hnext, congrArg Rendering.outcome hnext⟩

/-- A cached node that renders itself keeps what the rendering within stores, though the outer one
fails. The content of the block refers to the slot of the block from inside a loop: with one kid,
the node is rendered with the parameters of the kid first, which succeeds, and the outer rendering
fails after that. The next rendering gives the output of the kid. -/
theorem Node.cached_history_reentered :
    let content := "={x}#{kids}%{@cached_x}#{/kids}%{bad|upper}={/x}".toList
    let params (bad : Value) (kids : List Value) : Value :=
      .object [("bad".toList, bad), ("kids".toList, .array kids)]
    let compiled := ((Run.compile 0 true .default content).exec
      ((Store.empty ()).newRegistry []).2).2
    let node : Node Unit :=
      .cached 0 none (.template ⟨"%{@block_1}%{bad|upper}".toList, 0, false, .default⟩)
    let s := ((Run.build ⟨0, 0⟩).exec compiled).2
    let kid := params (.string "ok".toList) []
    let failed := (node.render 9 (params (.ofNat 5) [kid])).exec s
    ((Run.build ⟨0, 0⟩).exec compiled).1.toOption.map Shared.value = some node ∧
      s.snapshot? 0 = none ∧ failed.1.isOk = false ∧
      (failed.2.snapshot? 0).map Snapshot.output = some "OK".toList ∧
      ((node.render 9 (params (.string "no".toList) [])).exec failed.2).1 = .ok "OK".toList := by
  intro content params compiled node s kid failed
  have hnode : ((Run.build ⟨0, 0⟩).exec compiled).1.toOption.map Shared.value = some node := by
    with_unfolding_all rfl
  have hempty : s.snapshot? 0 = none := Option.isNone_iff_eq_none.mp (by decide +kernel)
  exact ⟨hnode, hempty, by decide +kernel, by decide +kernel, by decide +kernel⟩

namespace Counted

/-- A function that fails for null, and else says whether the parameters are truthy. -/
def verdict : Partial Nat :=
  .function
    (fun params _ => match params with
      | .null => .validator fun _ _ count => (true, count)
      | params => .value params)
    (fun _ count => count) ⟨[], []⟩

/-- A path to the function. -/
def validator : Validator Nat := .path 0 "@v".toList

/-- Counts its renderings, and gives the count unless the parameters are falsy. -/
def body : Node Nat :=
  .onlyIf
    (.closure fun params count =>
      (if params.isFalsy then .error .registryDropped else .ok true, count + 1))
    (.callback fun _ count => (Text.ofNat count, count))

/-- The function in a registry, and a cell. -/
def store : Store Nat := (((Store.empty 0).newRegistry [("v".toList, verdict)]).2.newCell).2

/-- The stores that have the registry and the cell. -/
def Host (s : Store Nat) : Prop := s.registries = store.registries ∧ 0 < s.cells.length

theorem hosts : Hosts Host 0 where
  has _ hs := hs.2
  emit _ _ hs := hs
  keep s kept hs := by
    refine ⟨hs.1, ?_⟩
    rw [Store.keep, List.length_set]
    exact hs.2

theorem exec_body (params : Value) (s : Store Nat) : ∃ outcome,
    (body.render 0 params).exec s = (outcome, { s with caller := s.caller + 1 }) := by
  simp only [body, Node.render, Node.renderVia, Run.test, Run.exec_bind, Run.exec_act]
  cases params.isFalsy with
  | true => exact ⟨_, rfl⟩
  | false => exact ⟨_, rfl⟩

theorem leaves_body (params : Value) : Leaves Host 0 (body.render 0 params) := by
  intro s hs
  obtain ⟨outcome, hexec⟩ := exec_body params s
  rw [hexec]
  exact ⟨hs, rfl⟩

theorem exec_validator (params previous : Value) {s : Store Nat} (hs : Host s) : ∃ outcome,
    (Run.accepts (Node.renderReferred 0) params previous validator).exec s = (outcome, s) := by
  have hopen : s.open? 0 = store.open? 0 := by rw [Store.open?, hs.1]; rfl
  have hentry : (s.entries 0).get? "v".toList = some verdict := by
    rw [Store.entries, hs.1]
    rfl
  have hkind : ∀ accepts, verdict ≠ .validator accepts := by simp [verdict]
  rw [validator, Run.accepts, Run.exec_bind_ok (Run.exec_requireOpen hopen)]
  refine ⟨_, (Run.validate_eq hentry hkind).trans (Prod.ext rfl ?_)⟩
  cases params with
  | null => rfl
  | _ => rfl

theorem leaves_validator (params previous : Value) :
    Leaves Host 0 (Run.accepts (Node.renderReferred 0) params previous validator) := by
  intro s hs
  obtain ⟨outcome, hexec⟩ := exec_validator params previous hs
  rw [hexec]
  exact ⟨hs, rfl⟩

end Counted

/-- The first rendering evaluates the node below, the second fails in the validator, the third in
the node below, and the last gives the stored output again. -/
theorem Node.cached_history_counted :
    let calls : List CachedCall := [.render (.bool true), .render .null, .render (.bool false),
      .render (.string "x".toList)]
    let observed := Run.observe 0
      (some fun params previous => Run.accepts (renderReferred 0) params previous Counted.validator)
      (Counted.body.render 0)
    let log := (CachedCall.record observed 0 [] Counted.store calls).1
    let node := Node.cached 0 (some Counted.validator) Counted.body
    let result := CachedCall.run (node.render 0) 0 Counted.store calls
    result.1.map Except.toOption = [some "1".toList, none, none, some "1".toList] ∧
      result.2.caller = 2 ∧
      ((result.2.snapshot? 0).isSome = true ↔
        ∃ rendering ∈ Called.since log, rendering.outcome.isOk = true) := by
  intro calls observed log node result
  have hvalidator : ∀ v ∈ some Counted.validator, ∀ params previous,
      Leaves Counted.Host 0 (Run.accepts (renderReferred 0) params previous v) := by
    rintro v ⟨⟩ params previous
    exact Counted.leaves_validator params previous
  have hstore : Counted.Host Counted.store := ⟨rfl, Nat.one_pos⟩
  exact ⟨by decide +kernel, by decide +kernel,
    (Node.cached_history Counted.hosts hvalidator Counted.leaves_body hstore rfl calls).2.1⟩

end Templating
