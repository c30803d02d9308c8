import Mathlib.Data.List.Basic
import Mathlib.Tactic.Common
import Templating.Proofs.Run
import Templating.Proofs.Text.Search

/-!
# Changes of the store

What an operation on the store changes, and that it changes nothing else.

* `Entries.get?_insert`, `Entries.filter_insert` — an insertion changes one name;
* `Block.reference_injective` — no two numbers have one name;
* `Registry.issueAll` — what issuing blocks does to their registry, field by field;
* `Store.issueAll_registry`, `Store.issueAll_other` — it does this to one registry only;
* `Store.issued?_issueAll_cases`, `Store.issued?_memoize_self` — which blocks are on record after
  blocks were issued, or the node of one was kept.
-/

namespace Templating

-- ---------------------------------------------------------------------------
-- Entries
-- ---------------------------------------------------------------------------

namespace Entries

variable {α : Type}

theorem get?_insert (name other : Text) (entry : α) : ∀ entries : Entries α,
    (entries.insert name entry).get? other =
      if name = other then some entry else entries.get? other
  | [] => by
    by_cases h : name = other <;> simp [insert, get?, h]
  | (key, old) :: rest => by
    by_cases hkey : key = name
    · subst hkey
      by_cases h : key = other <;> simp [insert, get?, h]
    · by_cases h : key = other
      · subst h
        simp [insert, get?, hkey, Ne.symm hkey]
      · simp [insert, get?, hkey, h, get?_insert name other entry rest]

theorem get?_singleton (name other : Text) (entry : α) :
    get? other [(name, entry)] = if name = other then some entry else none := by
  by_cases h : name = other <;> simp [get?, h]

theorem get?_eq_none_iff {name : Text} : ∀ {entries : Entries α},
    entries.get? name = none ↔ name ∉ entries.map Prod.fst
  | [] => by simp [get?]
  | (key, entry) :: entries => by
    rw [get?, List.map_cons, List.mem_cons, not_or, ← get?_eq_none_iff]
    by_cases hkey : key = name
    · simp [hkey]
    · simp [hkey, Ne.symm hkey]

theorem filter_insert (keep : Text → Bool) {name : Text} (h : keep name = false) (entry : α) :
    ∀ entries : Entries α, (entries.insert name entry).filter (fun e => keep e.1) =
      entries.filter fun e => keep e.1
  | [] => by simp [insert, h]
  | (key, old) :: rest => by
    by_cases hkey : key = name
    · subst hkey
      simp [insert, h]
    · rw [insert, if_neg (by simpa using hkey), List.filter_cons, List.filter_cons,
        filter_insert keep h entry rest]

/-- A name that is kept has the same entry among those that are. -/
theorem get?_filter (keep : Text → Bool) {name : Text} (h : keep name = true) :
    ∀ entries : Entries α, get? name (entries.filter fun e => keep e.1) = entries.get? name
  | [] => rfl
  | (key, entry) :: rest => by
    rw [List.filter_cons]
    by_cases hkey : key = name
    · subst hkey
      simp [get?, h]
    · cases hkeep : keep key with
      | true => simp [get?, hkey, get?_filter keep h rest]
      | false => simp [get?, hkey, get?_filter keep h rest]

end Entries

-- ---------------------------------------------------------------------------
-- The names of blocks
-- ---------------------------------------------------------------------------

theorem Block.reference_eq (number : Nat) :
    Block.reference number = "block_".toList ++ Text.ofNat number := rfl

theorem Block.reference_injective {m n : Nat} (h : Block.reference m = Block.reference n) :
    m = n :=
  Text.ofNat_injective (List.append_cancel_left h)

-- ---------------------------------------------------------------------------
-- Issuing blocks
-- ---------------------------------------------------------------------------

variable {σ : Type}

namespace Registry

/-- A registry after a block has been issued in it. -/
def issue (r : RegistryId) (config : Config) (registry : Registry σ) (block : Block) :
    Registry σ :=
  { registry with
    entries := registry.entries.insert (Block.reference registry.issued.length)
      (.deferred ⟨r, registry.issued.length⟩)
    issued := registry.issued ++ [⟨block, config, none⟩] }

/-- A registry after blocks have been issued in it, one after the other. -/
def issueAll (r : RegistryId) (config : Config) (registry : Registry σ) (blocks : List Block) :
    Registry σ :=
  blocks.foldl (issue r config) registry

variable {r : RegistryId} {config : Config} {registry : Registry σ}

@[simp] theorem issueAll_nil : registry.issueAll r config [] = registry := rfl

theorem issueAll_cons (block : Block) (blocks : List Block) :
    registry.issueAll r config (block :: blocks) =
      (registry.issue r config block).issueAll r config blocks := rfl

theorem issueAll_issued : ∀ (blocks : List Block) (registry : Registry σ),
    (registry.issueAll r config blocks).issued =
      registry.issued ++ blocks.map fun block => ⟨block, config, none⟩
  | [], registry => by simp
  | block :: blocks, registry => by
    rw [issueAll_cons, issueAll_issued blocks, issue]
    simp

theorem issueAll_isOpen : ∀ (blocks : List Block) (registry : Registry σ),
    (registry.issueAll r config blocks).isOpen = registry.isOpen
  | [], _ => rfl
  | block :: blocks, registry => by
    rw [issueAll_cons, issueAll_isOpen blocks]
    rfl

/-- A name that none of the numbers has keeps its place and its entry. -/
theorem issueAll_filter (keep : Text → Bool) : ∀ (blocks : List Block) (registry : Registry σ),
    (∀ i < blocks.length, keep (Block.reference (registry.issued.length + i)) = false) →
      (registry.issueAll r config blocks).entries.filter (fun e => keep e.1) =
        registry.entries.filter fun e => keep e.1
  | [], _, _ => rfl
  | block :: blocks, registry, h => by
    have hfirst : keep (Block.reference registry.issued.length) = false :=
      h 0 (Nat.zero_lt_succ _)
    have hrest : ∀ i < blocks.length,
        keep (Block.reference ((registry.issue r config block).issued.length + i)) = false := by
      intro i hi
      have hnext := h (i + 1) (Nat.succ_lt_succ hi)
      rw [issue, List.length_append, List.length_singleton, Nat.add_assoc, Nat.add_comm 1]
      exact hnext
    rw [issueAll_cons, issueAll_filter keep blocks _ hrest, issue,
      Entries.filter_insert keep hfirst]

theorem issueAll_get?_of_ne {name : Text} {blocks : List Block}
    (h : ∀ i < blocks.length, name ≠ Block.reference (registry.issued.length + i)) :
    (registry.issueAll r config blocks).entries.get? name = registry.entries.get? name := by
  have hself : decide (name = name) = true := decide_eq_true rfl
  rw [← Entries.get?_filter (fun key => decide (key = name)) hself,
    issueAll_filter (fun key => decide (key = name)) blocks registry
      fun i hi => by simpa using (h i hi).symm,
    Entries.get?_filter (fun key => decide (key = name)) hself]

/-- Each block is registered under its number. -/
theorem issueAll_get?_reference : ∀ (blocks : List Block) (registry : Registry σ) (i : Nat),
    i < blocks.length →
      (registry.issueAll r config blocks).entries.get?
          (Block.reference (registry.issued.length + i)) =
        some (.deferred ⟨r, registry.issued.length + i⟩)
  | [], _, _, h => absurd h (Nat.not_lt_zero _)
  | block :: blocks, registry, 0, _ => by
    have hlater : ∀ i < blocks.length, Block.reference registry.issued.length ≠
        Block.reference ((registry.issue r config block).issued.length + i) := by
      intro i _ heq
      have hnumber := Block.reference_injective heq
      rw [issue, List.length_append, List.length_singleton] at hnumber
      omega
    rw [issueAll_cons, Nat.add_zero, issueAll_get?_of_ne hlater, issue, Entries.get?_insert,
      if_pos rfl]
  | block :: blocks, registry, i + 1, h => by
    have hlength : registry.issued.length + (i + 1) =
        (registry.issue r config block).issued.length + i := by
      rw [issue, List.length_append, List.length_singleton]
      omega
    rw [issueAll_cons, hlength]
    exact issueAll_get?_reference blocks _ i (Nat.lt_of_succ_lt_succ h)

end Registry

namespace Store

/-- A store after blocks have been issued in a registry, one after the other. -/
def issueAll (s : Store σ) (r : RegistryId) (config : Config) (blocks : List Block) : Store σ :=
  blocks.foldl (fun s block => s.issue r config block) s

variable {s : Store σ} {r r' : RegistryId} {registry : Registry σ} {config : Config}

theorem issueAll_cons (block : Block) (blocks : List Block) :
    s.issueAll r config (block :: blocks) = (s.issue r config block).issueAll r config blocks :=
  rfl

theorem nextNumber_eq (h : s.registries[r]? = some registry) :
    s.nextNumber r = registry.issued.length := by
  rw [nextNumber, h]

theorem entries_eq (h : s.registries[r]? = some registry) : s.entries r = registry.entries := by
  rw [entries, h]

theorem open?_eq (h : s.registries[r]? = some registry) (hopen : registry.isOpen = true) :
    s.open? r = some registry := by
  rw [open?, h]
  exact Option.filter_some_pos hopen

theorem open?_eq_none (h : s.registries[r]? = some registry) (hclosed : ¬ registry.isOpen = true) :
    s.open? r = none := by
  rw [open?, h]
  exact Option.filter_some_neg (eq_false_of_ne_true hclosed)

theorem issued?_eq (h : s.registries[r]? = some registry) (number : Nat) :
    s.issued? ⟨r, number⟩ = registry.issued[number]? := by
  rw [issued?, h]
  rfl

/-- Only numbers that were given out are on record. -/
theorem lt_nextNumber_of_issued? {number : Nat} {record : Issued σ}
    (h : s.issued? ⟨r, number⟩ = some record) : number < s.nextNumber r := by
  obtain ⟨registry, hregistry, hrecord⟩ := Option.bind_eq_some_iff.mp h
  rw [nextNumber_eq hregistry]
  exact (List.getElem?_eq_some_iff.mp hrecord).1

theorem issue_registry (h : s.registries[r]? = some registry) (block : Block) :
    (s.issue r config block).registries[r]? = some (registry.issue r config block) := by
  show (s.registries.modify r _)[r]? = _
  rw [List.getElem?_modify_eq, h, nextNumber_eq h]
  rfl

theorem issue_other (h : r' ≠ r) (block : Block) :
    (s.issue r config block).registries[r']? = s.registries[r']? := by
  show (s.registries.modify r _)[r']? = _
  rw [List.getElem?_modify_ne _ _ (Ne.symm h)]

theorem issueAll_registry : ∀ (blocks : List Block) {s : Store σ} {registry : Registry σ},
    s.registries[r]? = some registry →
      (s.issueAll r config blocks).registries[r]? = some (registry.issueAll r config blocks)
  | [], _, _, h => h
  | block :: blocks, _, _, h => issueAll_registry blocks (issue_registry h block)

theorem issueAll_other (hne : r' ≠ r) : ∀ (blocks : List Block) (s : Store σ),
    (s.issueAll r config blocks).registries[r']? = s.registries[r']?
  | [], _ => rfl
  | block :: blocks, s => by
    rw [issueAll_cons, issueAll_other hne blocks, issue_other hne]

section Issued

variable (h : s.registries[r]? = some registry) (config : Config) (blocks : List Block)

include h

theorem nextNumber_issueAll :
    (s.issueAll r config blocks).nextNumber r = s.nextNumber r + blocks.length := by
  rw [nextNumber_eq (issueAll_registry blocks h), nextNumber_eq h, Registry.issueAll_issued,
    List.length_append, List.length_map]

theorem issued?_issueAll_of_lt {number : Nat} (hlt : number < s.nextNumber r) :
    (s.issueAll r config blocks).issued? ⟨r, number⟩ = s.issued? ⟨r, number⟩ := by
  rw [nextNumber_eq h] at hlt
  rw [issued?_eq (issueAll_registry blocks h), issued?_eq h, Registry.issueAll_issued,
    List.getElem?_append_left hlt]

/-- The new records are those of the blocks, without a node. -/
theorem issued?_issueAll_add (i : Nat) :
    (s.issueAll r config blocks).issued? ⟨r, s.nextNumber r + i⟩ =
      blocks[i]?.map fun block => ⟨block, config, none⟩ := by
  rw [issued?_eq (issueAll_registry blocks h), nextNumber_eq h, Registry.issueAll_issued,
    List.getElem?_append_right (Nat.le_add_right ..), Nat.add_sub_cancel_left, List.getElem?_map]

/-- So a record is one of before, or that of a new block. -/
theorem issued?_issueAll_cases {number : Nat} {record : Issued σ}
    (hrecord : (s.issueAll r config blocks).issued? ⟨r, number⟩ = some record) :
    s.issued? ⟨r, number⟩ = some record ∨ ∃ block ∈ blocks, record = ⟨block, config, none⟩ := by
  rcases Nat.lt_or_ge number (s.nextNumber r) with hlt | hge
  · rw [issued?_issueAll_of_lt h config blocks hlt] at hrecord
    exact .inl hrecord
  · obtain ⟨i, rfl⟩ := Nat.exists_eq_add_of_le hge
    rw [issued?_issueAll_add h, Option.map_eq_some_iff] at hrecord
    obtain ⟨block, hblock, rfl⟩ := hrecord
    exact .inr ⟨block, List.mem_of_getElem? hblock, rfl⟩

theorem entries_issueAll_filter {keep : Text → Bool}
    (hkeep : ∀ i < blocks.length, keep (Block.reference (s.nextNumber r + i)) = false) :
    ((s.issueAll r config blocks).entries r).filter (fun e => keep e.1) =
      (s.entries r).filter fun e => keep e.1 := by
  rw [nextNumber_eq h] at hkeep
  rw [entries_eq (issueAll_registry blocks h), entries_eq h]
  exact Registry.issueAll_filter keep blocks registry hkeep

theorem get?_issueAll_of_ne {name : Text}
    (hname : ∀ i < blocks.length, name ≠ Block.reference (s.nextNumber r + i)) :
    ((s.issueAll r config blocks).entries r).get? name = (s.entries r).get? name := by
  rw [nextNumber_eq h] at hname
  rw [entries_eq (issueAll_registry blocks h), entries_eq h]
  exact Registry.issueAll_get?_of_ne hname

theorem get?_issueAll_add {i : Nat} (hi : i < blocks.length) :
    ((s.issueAll r config blocks).entries r).get? (Block.reference (s.nextNumber r + i)) =
      some (.deferred ⟨r, s.nextNumber r + i⟩) := by
  rw [entries_eq (issueAll_registry blocks h), nextNumber_eq h]
  exact Registry.issueAll_get?_reference blocks registry i hi

end Issued

-- ---------------------------------------------------------------------------
-- Keeping nodes
-- ---------------------------------------------------------------------------

section Memoize

variable (h : s.registries[r]? = some registry) (number : Nat) (node : Shared (Node σ))

include h

theorem memoize_registry : (s.memoize ⟨r, number⟩ node).registries[r]? = some
    { registry with
      issued := registry.issued.modify number fun issued =>
        { issued with node := some node } } := by
  show (s.registries.modify r _)[r]? = _
  rw [List.getElem?_modify_eq, h]
  rfl

theorem entries_memoize : (s.memoize ⟨r, number⟩ node).entries r = s.entries r := by
  rw [entries_eq (memoize_registry h number node), entries_eq h]

theorem nextNumber_memoize : (s.memoize ⟨r, number⟩ node).nextNumber r = s.nextNumber r := by
  rw [nextNumber_eq (memoize_registry h number node), nextNumber_eq h]
  exact List.length_modify ..

theorem issued?_memoize_self : (s.memoize ⟨r, number⟩ node).issued? ⟨r, number⟩ =
    (s.issued? ⟨r, number⟩).map fun issued => { issued with node := some node } := by
  rw [issued?_eq (memoize_registry h number node), issued?_eq h]
  exact List.getElem?_modify_eq ..

theorem issued?_memoize_of_ne {other : Nat} (hne : other ≠ number) :
    (s.memoize ⟨r, number⟩ node).issued? ⟨r, other⟩ = s.issued? ⟨r, other⟩ := by
  rw [issued?_eq (memoize_registry h number node), issued?_eq h]
  exact List.getElem?_modify_ne _ _ (Ne.symm hne)

end Memoize

end Store

end Templating
