import Templating.Proofs.Caching
import Templating.Proofs.Reference

/-!
# Verdicts of cached blocks

The parameter of a cached block is a path, and so is what a tag looks up, but the two are not read
alike. Behind `@` a tag takes the name up to the first point and walks the rest of the path into the
value of that partial. The verdict takes everything behind `@` for the name. As long as there is no
point the verdict is the truthiness of what a tag would find. With a point it is a refusal, unless a
partial is registered under just that text; the block is then rendered anew each time.

* `Run.validate_eq` — the verdict for an entry that is no validator;
* `Run.validate_names` — where the verdict is that of the look-up, and what it is elsewhere;
* `Node.render_cached_unnamed` — what a refusal each time means for a cached block.
-/

namespace Templating

variable {σ : Type}

/-- The path refers to a partial and walks on into its value. -/
def Value.WalksOn (path : Text) : Prop :=
  ∃ name rest, path = '@' :: (name ++ pathSeparator :: rest)

namespace Run

variable {below : Node σ → Value → Run σ Text} {r : RegistryId} {path name : Text}
  {params previous : Value} {entry : Partial σ} {s : Store σ}

-- ---------------------------------------------------------------------------
-- What a verdict and a look-up come to
-- ---------------------------------------------------------------------------

/-- A path into the parameters is judged by the value that it leads to. -/
theorem validate_of_head (h : path.head? ≠ some '@') :
    (validate below r path params previous).exec s =
      (.ok (Value.isTruthyAndPresent (Value.resolve? path params)), s) := by
  unfold validate
  split
  · exact absurd rfl h
  · rfl

/-- Without an entry the verdict is a refusal, and nothing is recorded. -/
theorem validate_of_none (h : (s.entries r).get? name = none) :
    (validate below r ('@' :: name) params previous).exec s = (.ok false, s) := by
  rw [validate, exec_bind_ok (exec_get s)]
  simp only [h]
  rfl

theorem lookup_of_none (hname : Value.pathSeparator ∉ name)
    (h : (s.entries r).get? name = none) :
    (lookup below r params ('@' :: name)).exec s = (.ok none, s.emit (.notRegistered name)) := by
  rw [lookup, exec_bind_ok (exec_get s)]
  simp only [splitReference_of_not_mem hname, h]
  rfl

/-- An entry that is no validator is judged by what it stands for. -/
theorem validate_eq (h : (s.entries r).get? name = some entry)
    (hentry : ∀ accepts, entry ≠ .validator accepts) :
    (validate below r ('@' :: name) params previous).exec s =
      (((resolvePartial below params entry).exec s).1.map Value.isTruthyAndPresent,
        ((resolvePartial below params entry).exec s).2) := by
  rw [validate, exec_bind_ok (exec_get s)]
  simp only [h]
  exact exec_map ..

-- ---------------------------------------------------------------------------
-- Where the two agree
-- ---------------------------------------------------------------------------

/-- **A verdict goes by whole names.** Where the path does not walk on behind the name of a partial,
the verdict fails exactly if the look-up does, with the same failure, and else is the truthiness of
what the look-up finds. Where it does, the verdict is a refusal whatever the look-up finds, unless a
partial is registered under the whole text behind `@`. -/
theorem validate_names (below : Node σ → Value → Run σ Text) (r : RegistryId) (path : Text)
    (params previous : Value) (s : Store σ)
    (hentry : ∀ name accepts, path = '@' :: name →
      (s.entries r).get? name ≠ some (.validator accepts)) :
    (¬ Value.WalksOn path →
      ((validate below r path params previous).exec s).1 =
        ((lookup below r params path).exec s).1.map Value.isTruthyAndPresent) ∧
    (∀ name, path = '@' :: name → (s.entries r).get? name = none →
      (validate below r path params previous).exec s = (.ok false, s)) := by
  refine ⟨fun hwhole => ?_, ?_⟩
  · by_cases hhead : path.head? = some '@'
    · obtain ⟨name, rfl⟩ := List.head?_eq_some_iff.mp hhead
      have hname : Value.pathSeparator ∉ name := by
        intro hmem
        obtain ⟨before, rest, rfl⟩ := List.append_of_mem hmem
        exact hwhole ⟨before, rest, rfl⟩
      cases hget : (s.entries r).get? name with
      | none => rw [validate_of_none hget, lookup_of_none hname hget]; rfl
      | some entry =>
        have hkind : ∀ accepts, entry ≠ .validator accepts := by
          rintro accepts rfl
          exact hentry name accepts rfl hget
        rw [validate_eq hget hkind, lookup_eq hname hget]
    · rw [validate_of_head hhead, lookup_of_head hhead]
      rfl
  · rintro name rfl hnone
    exact validate_of_none hnone

/-- A partial that holds an object is truthy. -/
theorem validate_names_object :
    let s := ((Store.empty ()).newRegistry [("p".toList, .value (.object []))]).2
    let below : Node Unit → Value → Run Unit Text := fun _ _ => throw .tooDeep
    ((validate below 0 "@p".toList .null .null).exec s).1 = .ok true := by
  intro s below
  have hentry : ∀ name accepts, "@p".toList = '@' :: name →
      (s.entries 0).get? name ≠ some (.validator accepts) := by
    rintro name accepts hname hget
    obtain ⟨-, rfl⟩ := List.cons.inj hname
    cases hget
  have hwhole : ¬ Value.WalksOn "@p".toList := by
    rintro ⟨name, rest, heq⟩
    have hmem : '.' ∈ "@p".toList := by
      rw [heq]
      simp [Value.pathSeparator]
    exact absurd hmem (by decide)
  exact (validate_names below 0 "@p".toList .null .null s hentry).1 hwhole

/-- Behind a point a tag finds `true` and the verdict is a refusal. -/
theorem validate_ne_lookup :
    let s := ((Store.empty ()).newRegistry
      [("p".toList, .value (.object [("key".toList, .bool true)]))]).2
    let below : Node Unit → Value → Run Unit Text := fun _ _ => throw .tooDeep
    ((lookup below 0 .null "@p.key".toList).exec s).1 = .ok (some (.bool true)) ∧
      ((validate below 0 "@p.key".toList .null .null).exec s).1 = .ok false ∧
      ((validate below 0 "@p.key".toList .null .null).exec s).1 ≠
        ((lookup below 0 .null "@p.key".toList).exec s).1.map Value.isTruthyAndPresent := by
  intro s below
  have hfound : ((lookup below 0 .null "@p.key".toList).exec s).1 = .ok (some (.bool true)) := rfl
  have hverdict : ((validate below 0 "@p.key".toList .null .null).exec s).1 = .ok false := rfl
  refine ⟨hfound, hverdict, ?_⟩
  rw [hfound, hverdict]
  intro h
  cases h

end Run

-- ---------------------------------------------------------------------------
-- Refusals
-- ---------------------------------------------------------------------------

/-- A cached block never gives its stored output again while nothing is registered under the whole
text behind `@` in its parameter. -/
theorem Node.render_cached_unnamed {cell : CellId} {r : RegistryId} {name : Text} {body : Node σ}
    {depth : Nat} {params : Value} {s : Store σ} {registry : Registry σ}
    (hopen : s.open? r = some registry) (hname : (s.entries r).get? name = none) :
    ((cached cell (some (.path r ('@' :: name))) body).render depth params).exec s =
      (Run.giveOutput cell (body.render depth) params none).exec s := by
  have hstored : (Run.storedOutput (some fun params previous =>
      Run.accepts (renderReferred depth) params previous (.path r ('@' :: name))) params
      (s.snapshot? cell)).exec s = (.ok none, s) := by
    cases s.snapshot? cell with
    | none => rfl
    | some snapshot =>
      have hverdict : (Run.accepts (renderReferred depth) params snapshot.params
          (.path r ('@' :: name))).exec s = (.ok false, s) := by
        rw [Run.accepts, Run.exec_bind_ok (Run.exec_requireOpen hopen), Run.validate_of_none hname]
      rw [Run.storedOutput, Run.exec_bind_ok hverdict]
      rfl
  rw [render_cached, Run.renderCached_eq, Run.exec_bind_ok (Run.exec_get s)]
  exact Run.exec_bind_ok hstored _

end Templating
