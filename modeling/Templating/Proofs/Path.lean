import Templating.Proofs.Scope
import Templating.Proofs.Reference

/-!
# Paths in two parts

A path can be followed in two parts: as far as any of its points first, and from there on. This
holds of paths into the parameters and of paths behind the name of a partial, although the two are
split in different ways: at every point the one, at its first point the other. Loops and the
partials that tags walk into rely on it. A partial is evaluated for the path as a whole, however far
the path goes on into its value, so it is evaluated once.

* `Text.splitOn_append_cons`, `Value.resolve?_append` — a path into a value in two parts;
* `Run.splitReference_append` — only the first point ends the name of a partial;
* `Run.lookup_of_referred` — looking up is evaluating a partial once and following a path;
* `Run.lookup_append` — so a path can be looked up in two parts.
-/

namespace Templating

-- ---------------------------------------------------------------------------
-- Paths into values
-- ---------------------------------------------------------------------------

/-- The pieces on both sides of an occurrence, whichever it is. -/
theorem Text.splitOn_append_cons (c : Char) (after : Text) : ∀ before : Text,
    splitOn c (before ++ c :: after) = splitOn c before ++ splitOn c after
  | [] => splitOn_append List.not_mem_nil after
  | d :: before => by
    obtain ⟨piece, pieces, hpieces⟩ := List.exists_cons_of_ne_nil (splitOn_ne_nil c before)
    have hrest := splitOn_append_cons c after before
    rw [hpieces] at hrest
    rw [List.cons_append, splitOn, splitOn, hrest, hpieces]
    by_cases hd : d = c
    · simp [hd]
    · simp [hd]

namespace Value

theorem walk?_append : ∀ (segments rest : List Text) (value : Value),
    walk? (segments ++ rest) value = (walk? segments value).bind (walk? rest)
  | [], _, _ => rfl
  | segment :: segments, rest, value => by
    rw [List.cons_append, walk?, walk?, Option.bind_assoc]
    exact Option.bind_congr fun next _ => walk?_append segments rest next

/-- A path into a value can be followed in two parts; a part that leads nowhere ends it. -/
theorem resolve?_append (p q : Text) (value : Value) :
    resolve? (p ++ pathSeparator :: q) value = (resolve? p value).bind (resolve? q) := by
  rw [resolve?, Text.splitOn_append_cons, walk?_append]
  rfl

/-- The rest of a path that goes on with `q`. -/
theorem follow?_append (rest : Option Text) (q : Text) (value : Value) :
    follow? (some (rest.elim q fun rest => rest ++ pathSeparator :: q)) value =
      (follow? rest value).bind (resolve? q) := by
  cases rest with
  | none => rfl
  | some rest => exact resolve?_append rest q value

end Value

namespace Run

variable {σ : Type} {below : Node σ → Value → Run σ Text} {r : RegistryId} {params : Value}
  {s : Store σ} {entry : Partial σ}

-- ---------------------------------------------------------------------------
-- Paths into partials
-- ---------------------------------------------------------------------------

/-- What is put behind a point belongs to the rest of a path, and the name stays the same. -/
theorem splitReference_append (reference q : Text) :
    splitReference (reference ++ Value.pathSeparator :: q) = ((splitReference reference).1,
      some ((splitReference reference).2.elim q fun rest => rest ++ Value.pathSeparator :: q)) := by
  cases hcut : Text.cut? Value.pathSeparator reference with
  | none =>
    have hname := Text.cut?_eq_none_iff.mp hcut
    rw [splitReference, splitReference, Text.cut?_append hname, hcut]
    rfl
  | some parts =>
    obtain ⟨name, rest⟩ := parts
    obtain ⟨rfl, hname⟩ := Text.cut?_eq_some_iff.mp hcut
    rw [splitReference, splitReference, hcut, List.append_assoc, List.cons_append,
      Text.cut?_append hname]
    rfl

/-- The partial that a path refers to, if it begins with `@` and there is one. -/
def referred? (s : Store σ) (r : RegistryId) : Text → Option (Partial σ)
  | '@' :: reference => (s.entries r).get? (splitReference reference).1
  | _ => none

/-- The way that a path takes into the value of the partial that it refers to. -/
def behind? : Text → Option Text
  | '@' :: reference => (splitReference reference).2
  | _ => none

/-- Looking up a path that refers to a partial evaluates the partial once. The rest of the path is
followed into the value that this gives, and nothing else happens. -/
theorem lookup_of_referred {path : Text} (h : referred? s r path = some entry) :
    (lookup below r params path).exec s =
      (((resolvePartial below params entry).exec s).1.map
          fun value => value.bind (Value.follow? (behind? path)),
        ((resolvePartial below params entry).exec s).2) := by
  unfold referred? at h
  split at h
  · next reference =>
    rw [lookup, exec_bind_ok (exec_get s)]
    simp only [h]
    rw [behind?]
    cases (splitReference reference).2 with
    | none =>
      have hwhole : (fun value : Option Value => value.bind (Value.follow? none)) = id :=
        funext fun value => Option.bind_fun_some value
      rw [hwhole]
      exact exec_map _ id s
    | some rest => exact exec_map ..
  · cases h

/-- Without the partial the result is absent, and what is missing is recorded. -/
theorem lookup_of_not_referred {reference : Text} (h : referred? s r ('@' :: reference) = none) :
    (lookup below r params ('@' :: reference)).exec s =
      (.ok none, s.emit (.notRegistered (splitReference reference).1)) := by
  have hget : (s.entries r).get? (splitReference reference).1 = none := h
  rw [lookup, exec_bind_ok (exec_get s)]
  simp only [hget]
  rfl

theorem referred?_of_head {path : Text} (h : path.head? ≠ some '@') :
    referred? s r path = none := by
  unfold referred?
  split
  · exact absurd rfl h
  · rfl

theorem head?_append_ne {p : Text} (h : p.head? ≠ some '@') (q : Text) :
    (p ++ Value.pathSeparator :: q).head? ≠ some '@' := by
  cases p with
  | nil => exact fun heq => absurd (Option.some.inj heq) (by decide)
  | cons c p => exact h

/-- What goes on behind a point refers to the same partial. -/
theorem referred?_append (s : Store σ) (r : RegistryId) (reference q : Text) :
    referred? s r ('@' :: (reference ++ Value.pathSeparator :: q)) =
      referred? s r ('@' :: reference) := by
  rw [referred?, referred?, splitReference_append]

/-- It is followed into what the part before it leads to. -/
theorem follow?_behind?_append (reference q : Text) (value : Value) :
    Value.follow? (behind? ('@' :: (reference ++ Value.pathSeparator :: q))) value =
      (Value.follow? (behind? ('@' :: reference)) value).bind (Value.resolve? q) := by
  rw [behind?, splitReference_append]
  exact Value.follow?_append ..

/-- **A path can be looked up in two parts**, whatever stands in them. Where the first part fails,
so does the path, with the same failure; where the first part is absent, so is the path; else the
second part is followed into the value of the first. What happens on the way is the same. If the
path refers to a partial, then for the first part and for the path alike it is evaluated once, and
nothing else happens. -/
theorem lookup_append (below : Node σ → Value → Run σ Text) (r : RegistryId) (params : Value)
    (p q : Text) (s : Store σ) :
    let path := p ++ Value.pathSeparator :: q
    let part := (lookup below r params p).exec s
    (∀ value, Value.resolve? path value = (Value.resolve? p value).bind (Value.resolve? q)) ∧
    (lookup below r params path).exec s =
      (part.1.map fun value => value.bind (Value.resolve? q), part.2) ∧
    (∀ entry, referred? s r p = some entry →
      let evaluated := (resolvePartial below params entry).exec s
      let follow := Value.follow? (behind? p)
      part = (evaluated.1.map fun value => value.bind follow, evaluated.2) ∧
      (lookup below r params path).exec s =
        (evaluated.1.map fun value => (value.bind follow).bind (Value.resolve? q),
          evaluated.2)) := by
  intro path part
  -- the path refers to the partial that its first part refers to
  have honce : ∀ entry, referred? s r p = some entry →
      (lookup below r params path).exec s =
        (((resolvePartial below params entry).exec s).1.map fun value =>
          (value.bind (Value.follow? (behind? p))).bind (Value.resolve? q),
          ((resolvePartial below params entry).exec s).2) := by
    intro entry hentry
    by_cases hhead : p.head? = some '@'
    · obtain ⟨reference, rfl⟩ := List.head?_eq_some_iff.mp hhead
      have hpath : referred? s r path = some entry :=
        (referred?_append s r reference q).trans hentry
      have hfollow (value : Option Value) : value.bind (Value.follow? (behind? path)) =
          (value.bind (Value.follow? (behind? ('@' :: reference)))).bind (Value.resolve? q) := by
        rw [Option.bind_assoc]
        exact Option.bind_congr fun value _ => follow?_behind?_append reference q value
      rw [lookup_of_referred hpath]
      simp only [hfollow]
    · rw [referred?_of_head hhead] at hentry
      cases hentry
  refine ⟨Value.resolve?_append p q, ?_, fun entry hentry =>
    ⟨lookup_of_referred hentry, honce entry hentry⟩⟩
  by_cases hhead : p.head? = some '@'
  · obtain ⟨reference, rfl⟩ := List.head?_eq_some_iff.mp hhead
    cases hentry : referred? s r ('@' :: reference) with
    | none =>
      have hpath : referred? s r ('@' :: (reference ++ Value.pathSeparator :: q)) = none :=
        (referred?_append s r reference q).trans hentry
      show (lookup below r params ('@' :: (reference ++ Value.pathSeparator :: q))).exec s = _
      rw [lookup_of_not_referred hpath, splitReference_append]
      simp only [part, lookup_of_not_referred hentry]
      rfl
    | some entry =>
      rw [honce entry hentry]
      simp only [part, lookup_of_referred hentry]
      cases ((resolvePartial below params entry).exec s).1 <;> rfl
  · rw [lookup_of_head (head?_append_ne hhead q), Value.resolve?_append]
    simp only [part, lookup_of_head hhead]
    rfl

/-- A function that counts its calls is called once for a path of three segments. -/
theorem lookup_append_counted :
    let answer : Value := .object [("a".toList, .object [("b".toList, .bool true)])]
    let entry : Partial Nat :=
      .function (fun _ _ => .value answer) (fun _ calls => calls + 1) ⟨[], []⟩
    let s := ((Store.empty 0).newRegistry [("f".toList, entry)]).2
    let below : Node Nat → Value → Run Nat Text := fun _ _ => throw .tooDeep
    let result := (lookup below 0 .null "@f.a.b".toList).exec s
    result.1 = .ok (some (.bool true)) ∧ result.2.caller = 1 := by
  intro answer entry s below result
  obtain ⟨-, -, honce⟩ := lookup_append below 0 .null "@f.a".toList "b".toList s
  obtain ⟨-, hpath⟩ := honce entry rfl
  have hresult : result = _ := hpath
  rw [hresult]
  exact ⟨rfl, rfl⟩

end Run

end Templating
