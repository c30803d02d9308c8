import Mathlib.Data.List.Induction
import Templating.Proofs.Builder
import Templating.Proofs.References
import Templating.Session

/-!
# The order of a registry

Entries are kept in the order in which their names came. A name that is bound again stays where it
is; a name that was dropped and comes back comes last. This is said of the entries by what happened
to them, change by change, and then of a registry by the calls of its caller: a compilation binds
the names of the blocks that it takes out, in the order of their numbers.

* `Change`, `Entries.changed` — the changes of entries;
* `Standing`, `FirstSince`, `Latest` — which names there should be, since when, and bound to what;
* `Entries.After`, `Entries.after_changed` — entries are as their changes say;
* `RegistryCall`, `changes` — the calls on a registry, and the changes that they make;
* `Session.registry_after_calls` — a registry is as the calls on it say.
-/

namespace Templating

-- ---------------------------------------------------------------------------
-- What happened to a name
-- ---------------------------------------------------------------------------

/-- Something that happens to entries. -/
inductive Change (α : Type) where
  | bound (name : Text) (entry : α)
  | dropped (name : Text)

section Changes

variable {α : Type}

/-- The name was once bound, to an entry and after changes of which `there` holds, and of every
change after that `since` holds. -/
def BoundThen (there : List (Change α) → α → Prop) (since : Change α → Prop)
    (changes : List (Change α)) (name : Text) : Prop :=
  ∃ before entry after, changes = before ++ .bound name entry :: after ∧
    there before entry ∧ ∀ c ∈ after, since c

/-- The name was bound, and has not been dropped since. -/
def Standing (changes : List (Change α)) (name : Text) : Prop :=
  BoundThen (fun _ _ => True) (fun c => c ≠ .dropped name) changes name

/-- At this place among the changes, the name was bound for the first time since it was last
dropped: it was not there before, and has not been dropped since. -/
def FirstSince (changes : List (Change α)) (name : Text) (place : Nat) : Prop :=
  BoundThen (fun before _ => before.length = place ∧ ¬ Standing before name)
    (fun c => c ≠ .dropped name) changes name

/-- The last that happened to the name is that it was bound to the entry. -/
def Latest (changes : List (Change α)) (name : Text) (entry : α) : Prop :=
  BoundThen (fun _ latest => latest = entry)
    (fun c => c ≠ .dropped name ∧ ∀ other, c ≠ .bound name other) changes name

variable {there : List (Change α) → α → Prop} {since : Change α → Prop}
variable {changes : List (Change α)} {name other : Text} {entry new : α} {place : Nat}

theorem not_boundThen_nil : ¬ BoundThen there since [] name := by
  rintro ⟨before, entry, after, heq, -⟩
  exact absurd heq.symm (by simp)

/-- One more change is the one that bound the name, or comes after it. -/
theorem boundThen_concat (last : Change α) : BoundThen there since (changes ++ [last]) name ↔
    (∃ entry, last = .bound name entry ∧ there changes entry) ∨
      (since last ∧ BoundThen there since changes name) := by
  constructor
  · rintro ⟨before, entry, after, heq, hthere, hsince⟩
    rcases List.eq_nil_or_concat after with rfl | ⟨after, c, rfl⟩
    · obtain ⟨rfl, hlast⟩ := List.append_inj' heq rfl
      exact .inl ⟨entry, (List.cons.inj hlast).1, hthere⟩
    · have heq' : changes ++ [last] = (before ++ .bound name entry :: after) ++ [c] := by
        rw [heq, List.concat_eq_append, List.append_assoc, List.cons_append]
      obtain ⟨rfl, hlast⟩ := List.append_inj' heq' rfl
      obtain rfl := (List.cons.inj hlast).1
      rw [List.concat_eq_append, List.forall_mem_append, List.forall_mem_singleton] at hsince
      exact .inr ⟨hsince.2, before, entry, after, rfl, hthere, hsince.1⟩
  · rintro (⟨entry, rfl, hthere⟩ | ⟨hlast, before, entry, after, rfl, hthere, hsince⟩)
    · exact ⟨changes, entry, [], rfl, hthere, List.forall_mem_nil _⟩
    · refine ⟨before, entry, after ++ [last], ?_, hthere, ?_⟩
      · rw [List.append_assoc, List.cons_append]
      · rw [List.forall_mem_append, List.forall_mem_singleton]
        exact ⟨hsince, hlast⟩

theorem standing_bound :
    Standing (changes ++ [.bound other new]) name ↔ name = other ∨ Standing changes name := by
  rw [Standing, boundThen_concat]
  simp [Standing, eq_comm]

theorem standing_dropped :
    Standing (changes ++ [.dropped other]) name ↔ name ≠ other ∧ Standing changes name := by
  rw [Standing, boundThen_concat]
  simp [Standing, eq_comm]

theorem FirstSince.standing (h : FirstSince changes name place) : Standing changes name := by
  obtain ⟨before, entry, after, heq, -, hsince⟩ := h
  exact ⟨before, entry, after, heq, trivial, hsince⟩

theorem FirstSince.lt (h : FirstSince changes name place) : place < changes.length := by
  obtain ⟨before, entry, after, rfl, ⟨rfl, -⟩, -⟩ := h
  simp

theorem firstSince_bound : FirstSince (changes ++ [.bound other new]) name place ↔
    (name = other ∧ place = changes.length ∧ ¬ Standing changes name) ∨
      FirstSince changes name place := by
  rw [FirstSince, boundThen_concat]
  simp [FirstSince, eq_comm]

theorem firstSince_bound_of_standing (h : Standing changes name) :
    FirstSince (changes ++ [.bound other new]) name place ↔ FirstSince changes name place := by
  rw [firstSince_bound]
  simp [h]

theorem firstSince_bound_of_not_standing (h : ¬ Standing changes name) :
    FirstSince (changes ++ [.bound name new]) name place ↔ place = changes.length := by
  rw [firstSince_bound]
  simp [h, mt FirstSince.standing h]

theorem firstSince_dropped : FirstSince (changes ++ [.dropped other]) name place ↔
    name ≠ other ∧ FirstSince changes name place := by
  rw [FirstSince, boundThen_concat]
  simp [FirstSince, eq_comm]

theorem latest_bound : Latest (changes ++ [.bound other new]) name entry ↔
    (name = other ∧ entry = new) ∨ (name ≠ other ∧ Latest changes name entry) := by
  rw [Latest, boundThen_concat]
  simp [Latest, eq_comm]

theorem latest_dropped : Latest (changes ++ [.dropped other]) name entry ↔
    name ≠ other ∧ Latest changes name entry := by
  rw [Latest, boundThen_concat]
  simp [Latest, eq_comm]

end Changes

-- ---------------------------------------------------------------------------
-- Entries
-- ---------------------------------------------------------------------------

namespace Entries

variable {α : Type} {name other : Text}

theorem names_erase (name : Text) : ∀ entries : Entries α,
    (entries.erase name).names = entries.names.erase name
  | [] => rfl
  | (key, entry) :: rest => by
    by_cases hkey : key = name
    · simp [erase, hkey]
    · simp [erase, hkey, names_erase name rest]

theorem mem_of_get? {entry : α} : ∀ {entries : Entries α},
    entries.get? name = some entry → (name, entry) ∈ entries
  | (key, old) :: rest, h => by
    by_cases hkey : key = name
    · subst hkey
      rw [get?, if_pos (beq_self_eq_true key)] at h
      cases h
      exact List.mem_cons_self ..
    · rw [get?, if_neg (by simpa using hkey)] at h
      exact List.mem_cons_of_mem _ (mem_of_get? h)

/-- The entries after a change. -/
def change (entries : Entries α) : Change α → Entries α
  | .bound name entry => entries.insert name entry
  | .dropped name => entries.erase name

/-- The entries after changes, one after the other. -/
def changed (entries : Entries α) (changes : List (Change α)) : Entries α :=
  changes.foldl change entries

theorem changed_append (entries : Entries α) (changes changes' : List (Change α)) :
    entries.changed (changes ++ changes') = (entries.changed changes).changed changes' :=
  List.foldl_append

/-- Entries that are given one after the other, as changes. -/
def given (pairs : List (Text × α)) : List (Change α) :=
  pairs.map fun (name, entry) => .bound name entry

theorem changed_given : ∀ (pairs : List (Text × α)) (entries : Entries α),
    entries.changed (given pairs) = entries.insertAll pairs
  | [], _ => rfl
  | (name, entry) :: pairs, entries => changed_given pairs (entries.insert name entry)

/-- The entries are as the changes say. -/
structure After (changes : List (Change α)) (entries : Entries α) : Prop where
  nodup : entries.names.Nodup
  mem : ∀ name, name ∈ entries.names ↔ Standing changes name
  first : ∀ name ∈ entries.names, ∃! place, FirstSince changes name place
  /-- The names stand in the order in which they came. -/
  order : entries.names.Pairwise fun a b =>
    ∀ i j, FirstSince changes a i → FirstSince changes b j → i < j
  get? : ∀ name entry, entries.get? name = some entry ↔ Latest changes name entry

variable {changes : List (Change α)} {entries : Entries α}

theorem after_nil : After [] ([] : Entries α) where
  nodup := .nil
  mem := fun _ => ⟨nofun, fun h => absurd h not_boundThen_nil⟩
  first := nofun
  order := .nil
  get? := fun _ _ => ⟨nofun, fun h => absurd h not_boundThen_nil⟩

theorem After.bound (h : After changes entries) (name : Text) (entry : α) :
    After (changes ++ [.bound name entry]) (entries.insert name entry) where
  nodup := Entries.nodup_names_insert h.nodup
  mem := fun other => by rw [Entries.mem_names_insert, standing_bound, h.mem]
  first := by
    intro other hmem
    by_cases hstanding : Standing changes other
    · simp only [firstSince_bound_of_standing hstanding]
      exact h.first other ((h.mem other).mpr hstanding)
    · obtain rfl : other = name :=
        (Entries.mem_names_insert.mp hmem).resolve_right (mt (h.mem other).mp hstanding)
      simp only [firstSince_bound_of_not_standing hstanding, existsUnique_eq]
  order := by
    have hold : entries.names.Pairwise fun a b => ∀ i j,
        FirstSince (changes ++ [.bound name entry]) a i →
          FirstSince (changes ++ [.bound name entry]) b j → i < j := by
      refine h.order.imp_of_mem fun ha hb hab i j hi hj => ?_
      rw [firstSince_bound_of_standing ((h.mem _).mp ha)] at hi
      rw [firstSince_bound_of_standing ((h.mem _).mp hb)] at hj
      exact hab i j hi hj
    rw [Entries.names_insert]
    split
    · exact hold
    · next hnew =>
      -- the name comes last, and its place is behind all changes of before
      refine List.pairwise_append.mpr ⟨hold, List.pairwise_singleton .., ?_⟩
      intro a ha b hb i j hi hj
      obtain rfl := List.mem_singleton.mp hb
      rw [firstSince_bound_of_standing ((h.mem a).mp ha)] at hi
      rw [firstSince_bound_of_not_standing (mt (h.mem b).mpr hnew)] at hj
      rw [hj]
      exact hi.lt
  get? := by
    intro other entry'
    rw [Entries.get?_insert, latest_bound]
    split
    · next heq => simp [heq, eq_comm]
    · next hne => simp [h.get?, Ne.symm hne]

theorem After.dropped (h : After changes entries) (name : Text) :
    After (changes ++ [.dropped name]) (entries.erase name) where
  nodup := by
    rw [Entries.names_erase]
    exact h.nodup.erase name
  mem := fun other => by
    rw [Entries.names_erase, h.nodup.mem_erase_iff, standing_dropped, h.mem]
  first := by
    intro other hmem
    rw [Entries.names_erase, h.nodup.mem_erase_iff] at hmem
    simp only [firstSince_dropped, hmem.1, ne_eq, not_false_iff, true_and]
    exact h.first other hmem.2
  order := by
    rw [Entries.names_erase]
    refine (h.order.sublist List.erase_sublist).imp ?_
    intro a b hab i j hi hj
    exact hab i j (firstSince_dropped.mp hi).2 (firstSince_dropped.mp hj).2
  get? := by
    intro other entry
    rw [latest_dropped]
    by_cases heq : other = name
    · subst heq
      have hgone : (entries.erase other).get? other = none := by
        rw [Entries.get?_eq_none_iff]
        show other ∉ (entries.erase other).names
        rw [Entries.names_erase]
        exact h.nodup.not_mem_erase
      simp [hgone]
    · rw [Entries.get?_erase_of_ne (Ne.symm heq), h.get?]
      simp [heq]

/-- **Entries are as their changes say.** -/
theorem after_changed (changes : List (Change α)) :
    After changes (Entries.changed [] changes) := by
  induction changes using List.reverseRecOn with
  | nil => exact after_nil
  | append_singleton changes c ih =>
    rw [Entries.changed_append]
    cases c with
    | bound name entry => exact ih.bound name entry
    | dropped name => exact ih.dropped name

/-- A name that is bound again keeps its place, and one that comes back comes last. -/
example : Entries.changed [] [.bound ['a'] 1, .bound ['b'] 2, .bound ['c'] 3, .bound ['a'] 4,
    .dropped ['b'], .bound ['b'] 5] = [(['a'], 4), (['c'], 3), (['b'], 5)] := by
  decide

end Entries

-- ---------------------------------------------------------------------------
-- Calls
-- ---------------------------------------------------------------------------

variable {σ α β : Type}

/-- A call on a registry. -/
inductive RegistryCall (σ : Type) where
  | insert (name : Text) (entry : Partial σ)
  | remove (name : Text)
  | compile (config : Config) (content : Text)

namespace RegistryCall

/-- The step that makes the call on the registry with a name. It answers what the name of the call
was bound to before; a compilation has no such answer. -/
def step (id : Text) : RegistryCall σ → SessionM σ (Option (Partial σ))
  | insert name entry => do Session.insert (← Session.registry id) name entry
  | remove name => do Session.remove (← Session.registry id) name
  | compile config content => do
    let _ ← Session.compile content (some id) [] config
    return none

/-- A session after calls on the registry with a name, one after the other. -/
def run (id : Text) (calls : List (RegistryCall σ)) (s : Session σ) : Session σ :=
  calls.foldl (fun s call => (Session.perform (call.step id) s).2) s

/-- How many blocks the call takes out, where `next` is the number of the next one. -/
def taken (next : Nat) : RegistryCall σ → Nat
  | compile _ content => (Extraction.ofText next content).blocks.length
  | _ => 0

/-- The changes that the call makes in the registry `r`. -/
def changes (r : RegistryId) (next : Nat) : RegistryCall σ → List (Change (Partial σ))
  | insert name entry => [.bound name entry]
  | remove name => [.dropped name]
  | compile _ content =>
    (List.range' next (Extraction.ofText next content).blocks.length).map fun number =>
      .bound (Block.reference number) (.deferred ⟨r, number⟩)

/-- The changes that calls make, one call after the other. -/
def allChanges (r : RegistryId) : Nat → List (RegistryCall σ) → List (Change (Partial σ))
  | _, [] => []
  | next, call :: calls => call.changes r next ++ allChanges r (next + call.taken next) calls

/-- What the call answers. -/
def answer (entries : Entries (Partial σ)) : RegistryCall σ → Option (Partial σ)
  | insert name _ => entries.get? name
  | remove name => entries.get? name
  | compile .. => none

/-- What the call makes of the registry `r`. -/
def apply (r : RegistryId) (registry : Registry σ) : RegistryCall σ → Registry σ
  | insert name entry => { registry with entries := registry.entries.insert name entry }
  | remove name => { registry with entries := registry.entries.erase name }
  | compile config content => registry.extract r config content

end RegistryCall

/-- To issue blocks is to bind their names, one after the other. -/
theorem Registry.issueAll_entries {r : RegistryId} {config : Config} : ∀ (blocks : List Block)
    (registry : Registry σ), (registry.issueAll r config blocks).entries =
      registry.entries.changed ((List.range' registry.issued.length blocks.length).map
        fun number => .bound (Block.reference number) (.deferred ⟨r, number⟩))
  | [], _ => rfl
  | block :: blocks, registry => by
    rw [issueAll_cons, issueAll_entries blocks, issue, List.length_append]
    rfl

namespace RegistryCall

variable {r : RegistryId}

theorem apply_entries (call : RegistryCall σ) (registry : Registry σ) :
    (call.apply r registry).entries =
      registry.entries.changed (call.changes r registry.issued.length) := by
  cases call with
  | insert name entry => rfl
  | remove name => rfl
  | compile config content => exact Registry.issueAll_entries _ registry

theorem apply_issued (call : RegistryCall σ) (registry : Registry σ) :
    (call.apply r registry).issued.length =
      registry.issued.length + call.taken registry.issued.length := by
  cases call with
  | insert name entry => rfl
  | remove name => rfl
  | compile config content =>
    rw [apply, Registry.extract, Registry.issueAll_issued, List.length_append, List.length_map,
      taken]

end RegistryCall

-- ---------------------------------------------------------------------------
-- Steps
-- ---------------------------------------------------------------------------

theorem Holdings.mem_concat {r : RegistryId} : ∀ {all : List Holdings},
    r ∈ (Holdings.concat all).registries ↔ ∃ held ∈ all, r ∈ held.registries
  | [] => ⟨nofun, nofun⟩
  | held :: all => by
    show r ∈ held.registries ++ (Holdings.concat all).registries ↔ _
    rw [List.mem_append, mem_concat]
    simp

namespace Store

variable {s : Store σ} {r : RegistryId} {registry : Registry σ} {roots : Holdings}

theorem closeRounds_held (hheld : r ∈ roots.registries) : ∀ (rounds : Nat) {s : Store σ},
    s.registries[r]? = some registry →
      (closeRounds roots rounds s).registries[r]? = some registry
  | 0, _, h => h
  | rounds + 1, s, h => by
    have hclosed : (s.closeUnheld roots).registries[r]? = some registry := by
      have hcontains : (s.heldRegistries roots).contains r = true :=
        List.contains_iff_mem.mpr (List.mem_append_left _ (List.mem_append_left _ hheld))
      show (s.registries.mapIdx _)[r]? = _
      rw [List.getElem?_mapIdx, h, Option.map_some, hcontains, Bool.and_true]
    rw [closeRounds]
    split
    · exact closeRounds_held hheld rounds hclosed
    · exact h

/-- What is held stays as it is. -/
theorem release_held (hheld : r ∈ roots.registries) (h : s.registries[r]? = some registry) :
    (s.release roots).registries[r]? = some registry :=
  closeRounds_held hheld s.registries.length h

end Store

namespace Session

variable {s s' : Session σ} {id : Text} {r : RegistryId} {registry : Registry σ}

theorem run_bind_ok {x : SessionM σ α} {a : α} (h : x.run.run s = (.ok a, s'))
    (f : α → SessionM σ β) : (x >>= f).run.run s = (f a).run.run s' := by
  show (ExceptT.bindCont f (x.run.run s).1).run (x.run.run s).2 = _
  rw [h]
  rfl

theorem run_get (s : Session σ) : (get : SessionM σ (Session σ)).run.run s = (.ok s, s) := rfl

theorem run_lift_ok {x : Run σ α} {a : α} {store : Store σ} (h : x.exec s.store = (.ok a, store)) :
    (lift x).run.run s = (.ok a, { s with store := store }) := by
  rw [lift, run_bind_ok (run_get s)]
  simp only [h]
  rfl

theorem run_insert (r : RegistryId) (name : Text) (new : Partial σ) (s : Session σ) :
    (insert r name new).run.run s =
      (.ok ((s.store.entries r).get? name), { s with store := s.store.insert r name new }) := rfl

theorem run_remove (r : RegistryId) (name : Text) (s : Session σ) :
    (remove r name).run.run s =
      (.ok ((s.store.entries r).get? name), { s with store := s.store.erase r name }) := rfl

theorem run_newRegistry (id : Text) (partials : Entries (Partial σ)) (s : Session σ) :
    (newRegistry id partials).run.run s = (.ok s.store.registries.length,
      { s with
        objects := s.objects.insert id (.registry s.store.registries.length)
        store := (s.store.newRegistry partials).2 }) := rfl

/-- An object of the session is the registry, which is open. -/
structure Held (id : Text) (r : RegistryId) (registry : Registry σ) (s : Session σ) : Prop where
  object : s.objects.get? id = some (.registry r)
  here : s.store.registries[r]? = some registry
  isOpen : registry.isOpen = true

namespace Held

/-- What a caller holds stays open when the step is over. -/
theorem release (h : Held id r registry s) :
    Held id r registry { s with store := s.store.release s.holdings } := by
  refine ⟨h.object, Store.release_held ?_ h.here, h.isOpen⟩
  rw [holdings, Holdings.mem_concat]
  exact ⟨_, List.mem_map.mpr ⟨_, Entries.mem_of_get? h.object, rfl⟩, List.mem_singleton.mpr rfl⟩

theorem perform {step : SessionM σ α} {a : α} (hrun : step.run.run s = (.ok a, s'))
    (h' : Held id r registry s') :
    (Session.perform step s).1 = .ok a ∧ Held id r registry (Session.perform step s).2 := by
  rw [Session.perform, hrun]
  exact ⟨rfl, h'.release⟩

theorem run_registry (h : Held id r registry s) :
    (Session.registry id).run.run s = (.ok r, s) := by
  rw [Session.registry, lookUp, run_bind_ok (run_get s), h.object]
  rfl

theorem entries (h : Held id r registry s) : s.store.entries r = registry.entries :=
  Store.entries_eq h.here

theorem run_compile (h : Held id r registry s) (config : Config) (content : Text) :
    ∃ t s', (compile content (some id) [] config).run.run s = (.ok t, s') ∧
      Held id r (registry.extract r config content) s' := by
  obtain ⟨store, hexec, hreplaced⟩ := Run.compile_open h.here h.isOpen true config content
  refine ⟨_, _, (run_bind_ok h.run_registry _).trans (run_lift_ok hexec), ?_⟩
  exact ⟨h.object, hreplaced.here, (Registry.extract_isOpen registry content).trans h.isOpen⟩

/-- **One call** answers what its name was bound to, and the registry stays in the hands of its
caller. -/
theorem perform_step (h : Held id r registry s) (call : RegistryCall σ) :
    (Session.perform (call.step id) s).1 = .ok (call.answer registry.entries) ∧
      Held id r (call.apply r registry) (Session.perform (call.step id) s).2 := by
  cases call with
  | insert name entry =>
    have hrun := (run_bind_ok h.run_registry fun r => insert r name entry).trans
      (run_insert r name entry s)
    rw [h.entries] at hrun
    exact perform hrun ⟨h.object, ((Store.Replaced.refl h.here).modify _).here, h.isOpen⟩
  | remove name =>
    have hrun := (run_bind_ok h.run_registry fun r => remove r name).trans (run_remove r name s)
    rw [h.entries] at hrun
    exact perform hrun ⟨h.object, ((Store.Replaced.refl h.here).modify _).here, h.isOpen⟩
  | compile config content =>
    obtain ⟨t, s', hrun, h'⟩ := h.run_compile config content
    exact perform (run_bind_ok hrun _) h'

/-- **Calls in a row** make their changes in the registry. -/
theorem run : ∀ (calls : List (RegistryCall σ)) {s : Session σ} {registry : Registry σ},
    Held id r registry s → ∃ registry', Held id r registry' (RegistryCall.run id calls s) ∧
      registry'.entries =
        registry.entries.changed (RegistryCall.allChanges r registry.issued.length calls)
  | [], _, registry, h => ⟨registry, h, rfl⟩
  | call :: calls, s, registry, h => by
    obtain ⟨registry', hheld, hentries⟩ := run calls (h.perform_step call).2
    rw [call.apply_issued, call.apply_entries, ← Entries.changed_append] at hentries
    exact ⟨registry', hheld, hentries⟩

end Held

theorem held_newRegistry (id : Text) (partials : Entries (Partial σ)) (s : Session σ) :
    Held id s.store.registries.length ⟨partials, [], true⟩
      (perform (newRegistry id partials) s).2 := by
  refine (Held.perform (run_newRegistry id partials s) ⟨?_, ?_, rfl⟩).2
  · rw [Entries.get?_insert, if_pos rfl]
  · exact List.getElem?_concat_length

-- ---------------------------------------------------------------------------
-- What a caller sees
-- ---------------------------------------------------------------------------

/-- The names that the registry with a name lists, and what it gives for each. -/
structure Lists (id : Text) (entries : Entries (Partial σ)) (s : Session σ) : Prop where
  names : (Session.perform (do names (← Session.registry id)) s).1 = .ok entries.names
  get? : ∀ name,
    (Session.perform (do get? (← Session.registry id) name none) s).1 = .ok (entries.get? name)

/-- The registry with a name lists the entries, and answers every further call by them. -/
structure Answers (id : Text) (entries : Entries (Partial σ)) (s : Session σ) : Prop where
  lists : Lists id entries s
  /-- To insert gives what the name was bound to. A name that is there keeps its place. -/
  insert : ∀ name entry,
    let inserted := Session.perform (do insert (← Session.registry id) name entry) s
    inserted.1 = .ok (entries.get? name) ∧ ∃ entries', Lists id entries' inserted.2 ∧
      entries'.names = if name ∈ entries.names then entries.names else entries.names ++ [name]
  /-- To remove gives what the name was bound to. The others keep their order. -/
  remove : ∀ name,
    let removed := Session.perform (do remove (← Session.registry id) name) s
    removed.1 = .ok (entries.get? name) ∧ ∃ entries', Lists id entries' removed.2 ∧
      entries'.names = entries.names.filter (· != name)
  compile : ∀ config content,
    ∃ t, (Session.perform (compile content (some id) [] config) s).1 = .ok t

theorem run_get? (r : RegistryId) (name : Text) (s : Session σ) :
    (get? r name none).run.run s = (.ok ((s.store.entries r).get? name), s) := by
  rw [get?, run_bind_ok (run_get s)]
  cases (s.store.entries r).get? name with
  | none => rfl
  | some entry => rfl

theorem Held.lists (h : Held id r registry s) : Lists id registry.entries s where
  names := by
    rw [← h.entries]
    exact (perform (run_bind_ok h.run_registry names) h).1
  get? name := by
    rw [← h.entries]
    exact (perform ((run_bind_ok h.run_registry _).trans (run_get? r name s)) h).1

theorem Held.answers (h : Held id r registry s) (hnodup : registry.entries.names.Nodup) :
    Answers id registry.entries s where
  lists := h.lists
  insert name entry := by
    obtain ⟨hanswer, h'⟩ := h.perform_step (.insert name entry)
    exact ⟨hanswer, _, h'.lists, Entries.names_insert ..⟩
  remove name := by
    obtain ⟨hanswer, h'⟩ := h.perform_step (.remove name)
    refine ⟨hanswer, _, h'.lists, ?_⟩
    show (registry.entries.erase name).names = _
    rw [Entries.names_erase, hnodup.erase_eq_filter]
  compile config content := by
    obtain ⟨t, s', hrun, h'⟩ := h.run_compile config content
    exact ⟨t, (perform hrun h').1⟩

/-- **A registry is as the calls on it say.** A caller makes a registry of partials and then makes
calls on it, in any order and number. Its names are those that were bound, by the caller or for a
block, and have not been dropped since; they are listed once each and in the order in which they
came, and each has the entry to which it was last bound. -/
theorem registry_after_calls (s : Session σ) (id : Text) (given : List (Text × Partial σ))
    (calls : List (RegistryCall σ)) :
    let r := s.store.registries.length
    let s' := (perform (newRegistry id (Entries.ofList given)) s).2
    ∃ entries, Entries.After (Entries.given given ++ RegistryCall.allChanges r 0 calls) entries ∧
      Answers id entries (RegistryCall.run id calls s') := by
  intro r s'
  obtain ⟨registry, hheld, hentries⟩ := (held_newRegistry id (Entries.ofList given) s).run calls
  have hafter := Entries.after_changed (Entries.given given ++ RegistryCall.allChanges r 0 calls)
  rw [Entries.changed_append, Entries.changed_given] at hafter
  have hsame : registry.entries = Entries.changed (Entries.ofList given)
      (RegistryCall.allChanges r 0 calls) := hentries
  rw [← Entries.ofList, ← hsame] at hafter
  exact ⟨registry.entries, hafter, hheld.answers hafter.nodup⟩

end Session

end Templating
