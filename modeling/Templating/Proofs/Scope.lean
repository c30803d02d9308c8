import Templating.Proofs.Caching
import Templating.Proofs.Text.Search

/-!
# The scopes of a loop

The body of a loop is rendered once for each item. The parameters it sees are made of three layers:
the context of the loop over what the item contributes over the outer parameters. Which layer
a path goes into is decided by its first segment alone, and the rest of the path is followed there.

* `Value.DistinctKeys` — values in which no object has a key twice, as all that JSON can write;
* `Members.get?_insert`, `Members.get?_overlay` — one layer over another;
* `Value.resolve?_joined` — a path by its first segment;
* `Run.resolve?_loopParams` — where a path leads in the parameters of an item;
* `Run.InTurn`, `Node.render_repeating` — the rounds of a loop, and the parameters that the body
  sees.
-/

namespace Templating

variable {σ α : Type}

-- ---------------------------------------------------------------------------
-- Objects
-- ---------------------------------------------------------------------------

/-- In no object of the value a key occurs twice. -/
inductive Value.DistinctKeys : Value → Prop
  | null : DistinctKeys .null
  | bool (b : Bool) : DistinctKeys (.bool b)
  | number (n : Number) : DistinctKeys (.number n)
  | string (text : Text) : DistinctKeys (.string text)
  | array {items : List Value} : (∀ item ∈ items, DistinctKeys item) → DistinctKeys (.array items)
  | object {members : Members} : (members.map Prod.fst).Nodup →
      (∀ member ∈ members, DistinctKeys member.2) → DistinctKeys (.object members)

/-- The keys of the members of such a value are distinct. -/
theorem Value.DistinctKeys.members_nodup {value : Value} (h : value.DistinctKeys) :
    (value.members.map Prod.fst).Nodup := by
  cases h with
  | object hnodup _ => exact hnodup
  | _ => exact List.nodup_nil

namespace Members

theorem get?_insert (name key : Text) (value : Value) : ∀ members : Members,
    get? key (insert name value members) = if name = key then some value else get? key members
  | [] => by by_cases h : name = key <;> simp [insert, get?, h]
  | (k, v) :: rest => by
    rw [insert]
    by_cases hname : k = name
    · subst hname
      by_cases h : k = key <;> simp [get?, h]
    · rw [if_neg (by simpa using hname)]
      split
      · by_cases h : name = key <;> simp [get?, h]
      · by_cases h : k = key
        · subst h
          simp [get?, Ne.symm hname]
        · simp [get?, h, get?_insert name key value rest]

theorem get?_eq_none_of_not_mem {key : Text} : ∀ {members : Members},
    key ∉ members.map Prod.fst → get? key members = none
  | [], _ => rfl
  | (k, v) :: rest, h => by
    rw [List.map_cons, List.mem_cons, not_or] at h
    rw [get?, if_neg (by simpa using Ne.symm h.1), get?_eq_none_of_not_mem h.2]

theorem mem_of_get? {key : Text} {value : Value} : ∀ {members : Members},
    get? key members = some value → (key, value) ∈ members
  | [], h => by cases h
  | (k, v) :: rest, h => by
    rw [get?] at h
    by_cases hkey : k = key
    · rw [if_pos (by simpa using hkey), Option.some.injEq] at h
      simp [hkey, h]
    · rw [if_neg (by simpa using hkey)] at h
      exact List.mem_cons_of_mem _ (mem_of_get? h)

/-- A key of the layer above hides the key below. -/
theorem get?_overlay (key : Text) : ∀ (scope outer : Members), (scope.map Prod.fst).Nodup →
    get? key (overlay outer scope) = (get? key scope).or (get? key outer)
  | [], _, _ => rfl
  | (k, v) :: rest, outer, hnodup => by
    rw [List.map_cons, List.nodup_cons] at hnodup
    have hrest := get?_overlay key rest (insert k v outer) hnodup.2
    rw [show overlay outer ((k, v) :: rest) = overlay (insert k v outer) rest from rfl, hrest,
      get?_insert, get?]
    by_cases h : k = key
    · -- a key that was inserted does not come again
      subst h
      simp [get?_eq_none_of_not_mem hnodup.1]
    · simp [h]

end Members

-- ---------------------------------------------------------------------------
-- Paths
-- ---------------------------------------------------------------------------

namespace Value

/-- Whether a value is an object. -/
def isObject : Value → Bool
  | object _ => true
  | _ => false

/-- A path: a first segment and, where there is more, the rest of the path. -/
def joined (head : Text) : (rest : Option Text) → Text
  | none => head
  | some rest => head ++ pathSeparator :: rest

/-- What the rest of a path leads to. -/
def follow? (rest : Option Text) (value : Value) : Option Value :=
  match rest with
  | none => some value
  | some rest => resolve? rest value

/-- The first segment takes one step, and the rest is followed from there. -/
theorem resolve?_joined {head : Text} (hhead : pathSeparator ∉ head) (rest : Option Text)
    (value : Value) :
    resolve? (joined head rest) value = (value.step? head).bind (follow? rest) := by
  cases rest with
  | none => rw [joined, resolve?, Text.splitOn_of_not_mem hhead]; rfl
  | some rest => rw [joined, resolve?, Text.splitOn_append hhead]; rfl

theorem DistinctKeys.step? {value value' : Value} {segment : Text} (h : value.DistinctKeys)
    (hstep : value.step? segment = some value') : value'.DistinctKeys := by
  cases h with
  | array hitems =>
    obtain ⟨index, -, hitem⟩ := Option.bind_eq_some_iff.mp hstep
    exact hitems value' (List.mem_of_getElem? hitem)
  | object _ hmembers => exact hmembers _ (Members.mem_of_get? hstep)
  | null => cases hstep
  | bool => cases hstep
  | number => cases hstep
  | string => cases hstep

theorem DistinctKeys.walk? : ∀ {segments : List Text} {value value' : Value},
    value.DistinctKeys → Value.walk? segments value = some value' → value'.DistinctKeys
  | [], _, _, h, hwalk => by
    cases hwalk
    exact h
  | _ :: _, _, _, h, hwalk => by
    obtain ⟨next, hstep, hrest⟩ := Option.bind_eq_some_iff.mp hwalk
    exact (h.step? hstep).walk? hrest

/-- Values within a value are as the value. -/
theorem DistinctKeys.resolve? {path : Text} {value value' : Value} (h : value.DistinctKeys)
    (hresolve : Value.resolve? path value = some value') : value'.DistinctKeys :=
  h.walk? hresolve

end Value

-- ---------------------------------------------------------------------------
-- The scope of an item
-- ---------------------------------------------------------------------------

namespace Run

open Value

/-- What `loop` stands for in the `i`-th of `n` scopes. -/
def loopRecord (i n : Nat) : Value :=
  .object [("first".toList, .bool (i = 0)), ("index".toList, .ofNat i),
    ("last".toList, .bool (i = n - 1)), ("number".toList, .ofNat (i + 1)),
    ("size".toList, .ofNat n)]

theorem loopContext_eq {i n : Nat} (h : i < n) : loopContext i n = loopRecord i n := by
  have hfirst : (i == 0) = decide (i = 0) := rfl
  have hlast : (i + 1 == n) = decide (i = n - 1) := by
    rw [Bool.eq_iff_iff, beq_iff_eq, decide_eq_true_eq]
    omega
  rw [loopContext, hfirst, hlast, loopRecord]
  rfl

/-- What a path leads to in the parameters of an item, by its first segment: the context of the
loop, else what the item contributes if that is an object that has the segment as a key, else the
outer parameters if they are an object. -/
theorem resolve?_loopParams {params scope : Value} {i n : Nat} (hi : i < n)
    (hscope : scope.DistinctKeys) {head : Text} (hhead : pathSeparator ∉ head)
    (rest : Option Text) :
    resolve? (joined head rest) (loopParams params scope i n) =
      if head = loopKey then follow? rest (loopRecord i n)
      else if (scope.member? head).isSome then resolve? (joined head rest) scope
      else if params.isObject then resolve? (joined head rest) params
      else none := by
  have hstep : ∀ members : Members, step? (.object members) head = Members.get? head members :=
    fun _ => rfl
  rw [resolve?_joined hhead, loopParams, hstep, Members.get?_insert, loopContext_eq hi]
  by_cases hloop : head = loopKey
  · rw [if_pos hloop.symm, if_pos hloop, Option.bind_some]
  · rw [if_neg (Ne.symm hloop), if_neg hloop, overlay,
      Members.get?_overlay head _ _ hscope.members_nodup, resolve?_joined hhead,
      resolve?_joined hhead]
    -- the outer parameters count where the item has nothing under the segment
    have houter : (Members.get? head params.members).bind (follow? rest) =
        if params.isObject then (params.step? head).bind (follow? rest) else none := by
      cases params <;> rfl
    cases scope with
    | object members =>
      show ((Members.get? head members).or (Members.get? head params.members)).bind _ =
        if (Members.get? head members).isSome then (Members.get? head members).bind _ else _
      cases Members.get? head members with
      | none => exact houter
      | some value => rfl
    | _ => exact houter

theorem distinctKeys_namedItem {item : Value} (hitem : item.DistinctKeys) :
    ∀ itemName, (namedItem itemName item).DistinctKeys
  | none => hitem
  | some name => by
    have hwrapped : (Value.object [(name, item)]).DistinctKeys :=
      .object (List.pairwise_singleton _ name) fun member hmember => by
        rw [List.mem_singleton] at hmember
        rw [hmember]
        exact hitem
    show (if name = [] then item else Value.object [(name, item)]).DistinctKeys
    split
    · exact hitem
    · exact hwrapped

/-- What the transform makes of an item, wrapped or not, has no key twice if nothing that it is
given and nothing that it makes does. -/
theorem distinctKeys_itemScope {itemName : Option Text}
    {transform : Option (Value → Value → Action σ Value)} {params item : Value}
    (hitem : item.DistinctKeys)
    (htransform : ∀ f ∈ transform, ∀ (v : Value) (caller : σ), v.DistinctKeys →
      (f v params caller).1.DistinctKeys) (caller : σ) :
    (itemScope itemName transform params item caller).1.DistinctKeys := by
  have hnamed := distinctKeys_namedItem hitem itemName
  cases transform with
  | none => exact hnamed
  | some f => exact htransform f rfl _ caller hnamed

-- ---------------------------------------------------------------------------
-- One rendering after the other
-- ---------------------------------------------------------------------------

/-- The rounds for all the items, one after the other, give these outputs. -/
inductive Rounds (round : α → Run σ Text) : List α → Store σ → List Text → Store σ → Prop
  | nil {s : Store σ} : Rounds round [] s [] s
  | cons {item : α} {items : List α} {output : Text} {outputs : List Text} {s s' s'' : Store σ} :
      (round item).exec s = (.ok output, s') → Rounds round items s' outputs s'' →
      Rounds round (item :: items) s (output :: outputs) s''

/-- What comes of the rounds for the items in turn: the outputs put together, or the first failure,
and then there is no round behind that one. -/
inductive InTurn (round : α → Run σ Text) (items : List α) (s : Store σ) :
    Except Failure Text × Store σ → Prop
  | all {outputs : List Text} {s' : Store σ} : Rounds round items s outputs s' →
      InTurn round items s (.ok outputs.flatten, s')
  | stopped {before after : List α} {item : α} {outputs : List Text} {failure : Failure}
      {s' s'' : Store σ} : items = before ++ item :: after → Rounds round before s outputs s' →
      (round item).exec s' = (.error failure, s'') → InTurn round items s (.error failure, s'')

/-- The body for one item, as soon as its parameters are made. -/
def itemRound (body : Value → Run σ Text) (scope : Value → Nat → Run σ Value) :
    Value × Nat → Run σ Text
  | (item, index) => do body (← scope item index)

theorem inTurn_renderItems (body : Value → Run σ Text) (scope : Value → Nat → Run σ Value) :
    ∀ (items : List Value) (index : Nat) (s : Store σ),
      InTurn (itemRound body scope) (items.zipIdx index) s
        ((renderItems body scope index items).exec s)
  | [], _, s => .all .nil
  | item :: rest, index, s => by
    rw [List.zipIdx_cons, renderItems, ← bind_assoc]
    rcases hfirst : (scope item index >>= body).exec s with ⟨outcome, s'⟩
    cases outcome with
    | error failure =>
      rw [exec_bind_error hfirst]
      exact .stopped (List.nil_append _).symm .nil hfirst
    | ok output =>
      rw [exec_bind_ok hfirst]
      have hround : (itemRound body scope (item, index)).exec s = (.ok output, s') := hfirst
      have hrest := inTurn_renderItems body scope rest (index + 1) s'
      rcases hexec : (renderItems body scope (index + 1) rest).exec s' with ⟨outcome, s''⟩
      rw [hexec] at hrest
      cases hrest with
      | all hrounds =>
        rw [exec_bind_ok hexec]
        exact .all (.cons hround hrounds)
      | stopped hsplit hrounds hfailed =>
        rw [exec_bind_error hexec, hsplit]
        exact .stopped (List.cons_append ..).symm (.cons hround hrounds) hfailed

end Run

-- ---------------------------------------------------------------------------
-- Loops
-- ---------------------------------------------------------------------------

/-- **The body of a loop sees each item over the outer parameters, and the loop over both.** If the
path leads to an array, there is a round for each item in turn up to the first failure: the
transform acts on the state of the caller and the body is rendered with the parameters that come of
it, where the first segment of a path decides where it leads. If the path leads nowhere or to
anything else, that is the error, and the body is not rendered. -/
theorem Node.render_repeating (path : Text) (itemName : Option Text)
    {transform : Option (Value → Value → Action σ Value)} (body : Node σ) {params : Value}
    (hparams : params.DistinctKeys)
    (htransform : ∀ f ∈ transform, ∀ (v : Value) (caller : σ), v.DistinctKeys →
      (f v params caller).1.DistinctKeys)
    (depth : Nat) (s : Store σ) :
    (∀ items, Value.resolve? path params = some (.array items) →
      ∃ scope : Value → Nat → Action σ Value,
        Run.InTurn (fun (item, i) => do body.render depth (← Run.act (scope item i))) items.zipIdx s
          (((repeatingWith path itemName transform body).render depth params).exec s) ∧
        ∀ i item, items[i]? = some item → ∀ caller,
          let made := Run.itemScope itemName transform params item caller
          (scope item i caller).2 = made.2 ∧
          ∀ head rest, Value.pathSeparator ∉ head →
            Value.resolve? (Value.joined head rest) (scope item i caller).1 =
              if head = "loop".toList then
                Value.follow? rest (Run.loopRecord i items.length)
              else if (made.1.member? head).isSome then
                Value.resolve? (Value.joined head rest) made.1
              else if params.isObject then Value.resolve? (Value.joined head rest) params
              else none) ∧
    ((∀ items, Value.resolve? path params ≠ some (.array items)) →
      ((repeatingWith path itemName transform body).render depth params).exec s =
        (.error (.error (.notIterable path)), s) ∧ (Error.notIterable path).kind = .typeError) := by
  rw [render_eq, renderVia, ← render_eq]
  constructor
  · intro items hitems
    have hproper : (Value.array items).DistinctKeys := hparams.resolve? hitems
    refine ⟨fun item i caller => ((Run.loopParams params
        (Run.itemScope itemName transform params item caller).1 i items.length),
      (Run.itemScope itemName transform params item caller).2), ?_, ?_⟩
    · rw [Run.renderRepeating, hitems]
      exact Run.inTurn_renderItems (body.render depth)
        (fun item i => Run.itemParams itemName transform params item i items.length) items 0 s
    · intro i item hitem caller
      obtain ⟨hlt, -⟩ := List.getElem?_eq_some_iff.mp hitem
      have hdistinct : item.DistinctKeys := by
        cases hproper with
        | array hall => exact hall item (List.mem_of_getElem? hitem)
      exact ⟨rfl, fun head rest hhead => Run.resolve?_loopParams hlt
        (Run.distinctKeys_itemScope hdistinct htransform caller) hhead rest⟩
  · intro hno
    refine ⟨?_, rfl⟩
    rw [Run.renderRepeating]
    split
    · rename_i items hitems
      exact absurd hitems (hno items)
    · rfl

/-- The transform puts the item under `in`, and under `n` a number that it keeps with the caller and
that the body doubles. Under `x` stands the item where it is named, and the outer value elsewhere;
an item's own key `loop` is behind both names. -/
theorem Node.render_repeating_clash :
    let own : Value := .object [("loop".toList, .bool false), ("x".toList, .string "own".toList)]
    let params : Value := .object
      [("n".toList, .bool false), ("x".toList, .bool true), ("xs".toList, .array [own, .null])]
    let number : Value → Value → Action Nat Value := fun item _ n =>
      (.object [("in".toList, item), ("n".toList, .ofNat n)], n + 1)
    let body : Node Nat := .sequence
      (.template ⟨"%{loop.number}:%{n}%{in.x.x}%{x} ".toList, 0, true, .default⟩)
      (.callback fun _ n => ([], 2 * n))
    let loop : Node Nat := .repeatingWith "xs".toList (some "x".toList) (some number) body
    let s : Store Nat := ((Store.empty 5).newRegistry []).2
    ((loop.render 0 params).exec s).1 = .ok "1:5owntrue 2:12true ".toList ∧
    ∃ scope : Value → Nat → Action Nat Value,
      Run.InTurn (fun (item, i) => do body.render 0 (← Run.act (scope item i)))
        [(own, 0), (.null, 1)] s ((loop.render 0 params).exec s) ∧
      (scope own 0 5).2 = 6 ∧
      Value.resolve? "in.x.x".toList (scope own 0 5).1 = some (.string "own".toList) ∧
      Value.resolve? "loop.last".toList (scope own 0 5).1 = some (.bool false) ∧
      Value.resolve? "n".toList (scope .null 1 12).1 = some (.ofNat 12) ∧
      Value.resolve? "x".toList (scope .null 1 12).1 = some (.bool true) ∧
      Value.resolve? "xs.0.loop".toList (scope .null 1 12).1 = some (.bool false) := by
  intro own params number body loop s
  have hown : own.DistinctKeys := .object (by decide) (by simpa using ⟨.bool false, .string _⟩)
  have hitems : (Value.array [own, .null]).DistinctKeys := .array (by simpa using ⟨hown, .null⟩)
  have hparams : params.DistinctKeys :=
    .object (by decide) (by simpa using ⟨.bool false, .bool true, hitems⟩)
  have hnumber : ∀ f ∈ some number, ∀ (v : Value) (n : Nat), v.DistinctKeys →
      (f v params n).1.DistinctKeys := by
    rintro f ⟨⟩ v n hv
    have hkeys : ["in".toList, "n".toList].Nodup := by decide
    exact .object hkeys (by simpa using ⟨hv, .number _⟩)
  obtain ⟨scope, hturn, hscope⟩ := (render_repeating "xs".toList (some "x".toList) body
    hparams hnumber 0 s).1 _ rfl
  obtain ⟨hcaller, hfirst⟩ := hscope 0 own rfl 5
  obtain ⟨-, hsecond⟩ := hscope 1 .null rfl 12
  exact ⟨by decide +kernel, scope, hturn, hcaller,
    (hfirst "in".toList (some "x.x".toList) (by decide)).trans rfl,
    (hfirst "loop".toList (some "last".toList) (by decide)).trans rfl,
    (hsecond "n".toList none (by decide)).trans rfl,
    (hsecond "x".toList none (by decide)).trans rfl,
    (hsecond "xs".toList (some "0.loop".toList) (by decide)).trans rfl⟩

end Templating
