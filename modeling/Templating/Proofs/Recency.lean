import Mathlib.Data.List.Nodup
import Templating.Proofs.Store
import Templating.TemplateCache

/-!
# Least recently used

The cache of compiled templates keeps times, not an order: an entry bears the time of its last
request, and the one with the smallest time has to leave. What it amounts to is a list of bindings,
the one requested last in front.

* `Recency` — such a list, with the outcomes of the requests so far, and what the calls do to it;
* `TemplateCache.serve` — any number of calls, where the entries may come in another order before
  each call, as those of a hash map do;
* `RankedBy` — the entries in the order of their times, the latest first;
* `TemplateCache.serve_recency` — the cache gives the answers that the list gives, whatever the
  order of its entries.
-/

namespace Templating

variable {σ α : Type}

-- ---------------------------------------------------------------------------
-- Calls
-- ---------------------------------------------------------------------------

/-- A call on a cache. A compilation may fail and may change the store. -/
inductive CacheCall (σ α : Type) where
  | getOrCompile (content : Text) (compile : Run σ α)
  | contains (content : Text)
  | remove (content : Text)
  | clear
  | stats

/-- What a call answers. -/
inductive CacheAnswer (α : Type) where
  | template (outcome : Except Failure α)
  | contained (found : Bool)
  | removed (template : Option α)
  | cleared
  | stats (stats : CacheStats)

namespace TemplateCache

/-- One call. -/
def perform (cache : TemplateCache α) (s : Store σ) :
    CacheCall σ α → CacheAnswer α × TemplateCache α × Store σ
  | .getOrCompile content compile =>
    let (outcome, cache, s) := cache.getOrCompile content compile s
    (.template outcome, cache, s)
  | .contains content => (.contained (cache.contains content), cache, s)
  | .remove content =>
    let (template, cache) := cache.remove content
    (.removed template, cache, s)
  | .clear => (.cleared, cache.clear, s)
  | .stats => (.stats cache.stats, cache, s)

/-- Calls one after the other. Before a call with `n` more to follow, `order n` is applied to the
entries. -/
def serve (order : Nat → List (CacheEntry α) → List (CacheEntry α)) (cache : TemplateCache α)
    (s : Store σ) : List (CacheCall σ α) → List (CacheAnswer α) × TemplateCache α × Store σ
  | [] => ([], cache, s)
  | call :: calls =>
    let (answer, cache, s) :=
      perform { cache with entries := order calls.length cache.entries } s call
    let (answers, cache, s) := serve order cache s calls
    (answer :: answers, cache, s)

end TemplateCache

-- ---------------------------------------------------------------------------
-- The list ordered by recency
-- ---------------------------------------------------------------------------

/-- Templates by their texts, the one requested last in front, and for each request since the
beginning or the last time that all was cleared whether it was a hit. -/
structure Recency (α : Type) where
  entries : Entries α
  requests : List Bool

namespace Recency

/-- The list without entries. -/
def new : Recency α := ⟨[], []⟩

/-- A hit comes to the front. -/
def request (recent : Recency α) (content : Text) : Option α × Recency α :=
  match recent.entries.get? content with
  | some template =>
    (some template,
      ⟨(content, template) :: recent.entries.erase content, true :: recent.requests⟩)
  | none => (none, { recent with requests := false :: recent.requests })

/-- A new template comes to the front, and the last one leaves a list that is full. -/
def store (maxEntries : Nat) (recent : Recency α) (content : Text) (template : α) :
    Option Text × Recency α :=
  if recent.entries.length = maxEntries then
    (recent.entries.getLast?.map Prod.fst,
      { recent with entries := (content, template) :: recent.entries.dropLast })
  else (none, { recent with entries := (content, template) :: recent.entries })

/-- The template of a text, compiled if there is none. -/
def getOrCompile (maxEntries : Nat) (recent : Recency α) (content : Text) (compile : Run σ α)
    (s : Store σ) : Except Failure α × Recency α × Store σ :=
  let bytes := Text.byteSize content
  match recent.request content with
  | (some template, recent) => (.ok template, recent, s.emit (.templateHit bytes))
  | (none, recent) =>
    match compile.exec (s.emit (.templateMiss bytes)) with
    | (.error failure, s) => (.error failure, recent, s)
    | (.ok template, s) =>
      match recent.store maxEntries content template with
      | (some evicted, recent) =>
        (.ok template, recent, s.emit (.templateEvicted (Text.byteSize evicted)))
      | (none, recent) => (.ok template, recent, s)

/-- The numbers that describe the use of the list. -/
def stats (maxEntries : Nat) (recent : Recency α) : CacheStats :=
  let hits := recent.requests.count true
  let misses := recent.requests.count false
  { hits, misses, maxEntries
    hitRate :=
      if 0 < hits + misses then Double.ofRatio false hits (hits + misses) else Double.zero
    entries := recent.entries.length }

/-- One call. -/
def perform (maxEntries : Nat) (recent : Recency α) (s : Store σ) :
    CacheCall σ α → CacheAnswer α × Recency α × Store σ
  | .getOrCompile content compile =>
    let (outcome, recent, s) := recent.getOrCompile maxEntries content compile s
    (.template outcome, recent, s)
  | .contains content => (.contained (recent.entries.contains content), recent, s)
  | .remove content =>
    (.removed (recent.entries.get? content),
      { recent with entries := recent.entries.erase content }, s)
  | .clear => (.cleared, new, s)
  | .stats => (.stats (recent.stats maxEntries), recent, s)

/-- Calls one after the other. -/
def serve (maxEntries : Nat) (recent : Recency α) (s : Store σ) :
    List (CacheCall σ α) → List (CacheAnswer α) × Recency α × Store σ
  | [] => ([], recent, s)
  | call :: calls =>
    let (answer, recent, s) := recent.perform maxEntries s call
    let (answers, recent, s) := serve maxEntries recent s calls
    (answer :: answers, recent, s)

end Recency

-- ---------------------------------------------------------------------------
-- Entries by their times
-- ---------------------------------------------------------------------------

/-- The text and the template of an entry. -/
def CacheEntry.binding (e : CacheEntry α) : Text × α := (e.content, e.template)

/-- `ranked` are the entries in the order of their times, the latest first. The times differ and
are earlier than `now`, and the texts differ. -/
structure RankedBy (now : Nat) (entries ranked : List (CacheEntry α)) : Prop where
  perm : entries.Perm ranked
  latest : ranked.Pairwise fun e e' => e'.lastUsed < e.lastUsed
  past : ∀ e ∈ ranked, e.lastUsed < now
  distinct : (ranked.map (·.content)).Nodup

/-! ## Texts -/

/-- Where texts differ, the entry of a text is the one that is found. -/
theorem find?_content_eq_some_iff {entries : List (CacheEntry α)}
    (hdistinct : (entries.map (·.content)).Nodup) (content : Text) (e : CacheEntry α) :
    (entries.find? fun e => e.content = content) = some e ↔ e ∈ entries ∧ e.content = content := by
  constructor
  · intro hfound
    exact ⟨List.mem_of_find?_eq_some hfound, by simpa using List.find?_some hfound⟩
  · rintro ⟨hmem, hcontent⟩
    have hsome : (entries.find? fun e => e.content = content).isSome := by
      rw [List.find?_isSome]
      exact ⟨e, hmem, decide_eq_true hcontent⟩
    obtain ⟨e', hfound⟩ := Option.isSome_iff_exists.mp hsome
    have hcontent' : e'.content = content := by simpa using List.find?_some hfound
    have heq : e' = e := List.inj_on_of_nodup_map hdistinct (List.mem_of_find?_eq_some hfound) hmem
      (hcontent'.trans hcontent.symm)
    rw [hfound, heq]

theorem get?_bindings (content : Text) : ∀ entries : List (CacheEntry α),
    Entries.get? content (entries.map CacheEntry.binding) =
      (entries.find? fun e => e.content = content).map (·.template)
  | [] => rfl
  | e :: entries => by
    rw [List.map_cons, CacheEntry.binding, Entries.get?, List.find?_cons]
    by_cases hcontent : e.content = content
    · simp [hcontent]
    · simp [hcontent, get?_bindings content entries]

theorem filter_content_of_not_mem {content : Text} {entries : List (CacheEntry α)}
    (h : content ∉ entries.map (·.content)) :
    (entries.filter fun e => e.content ≠ content) = entries := by
  rw [List.filter_eq_self]
  intro e he
  refine decide_eq_true fun heq => h ?_
  exact List.mem_map.mpr ⟨e, he, heq⟩

theorem erase_bindings (content : Text) : ∀ {entries : List (CacheEntry α)},
    (entries.map (·.content)).Nodup →
      Entries.erase content (entries.map CacheEntry.binding) =
        (entries.filter fun e => e.content ≠ content).map CacheEntry.binding
  | [], _ => rfl
  | e :: entries, hdistinct => by
    obtain ⟨hnew, hdistinct⟩ := List.nodup_cons.mp hdistinct
    rw [List.map_cons, CacheEntry.binding, Entries.erase]
    by_cases hcontent : e.content = content
    · subst hcontent
      rw [if_pos (beq_self_eq_true _), List.filter_cons_of_neg (by simp),
        filter_content_of_not_mem hnew]
    · rw [if_neg (by simpa using hcontent), List.filter_cons_of_pos (by simpa using hcontent),
        erase_bindings content hdistinct]
      rfl

/-- Renewing the entry of a text brings it forward from where it was. -/
theorem renew_perm {content : Text} {e : CacheEntry α} (now : Nat)
    (hcontent : e.content = content) : ∀ {entries : List (CacheEntry α)},
      (entries.map (·.content)).Nodup → e ∈ entries →
      (entries.map fun e => if e.content = content then { e with lastUsed := now } else e).Perm
        ({ e with lastUsed := now } :: entries.filter fun e => e.content ≠ content)
  | first :: entries, hdistinct, hmem => by
    obtain ⟨hnew, hdistinct⟩ := List.nodup_cons.mp hdistinct
    rw [List.map_cons]
    rcases List.mem_cons.mp hmem with rfl | hmem
    · subst hcontent
      have hsame : (entries.map fun e' =>
          if e'.content = e.content then { e' with lastUsed := now } else e') = entries := by
        refine (List.map_congr_left fun e' he' => if_neg fun heq => hnew ?_).trans (List.map_id _)
        exact List.mem_map.mpr ⟨e', he', heq⟩
      rw [if_pos rfl, hsame, List.filter_cons_of_neg (by simp), filter_content_of_not_mem hnew]
    · have hne : first.content ≠ content := fun heq =>
        hnew (List.mem_map.mpr ⟨e, hmem, hcontent.trans heq.symm⟩)
      rw [if_neg hne, List.filter_cons_of_pos (by simpa using hne)]
      exact ((renew_perm now hcontent hdistinct hmem).cons first).trans (.swap ..)

/-! ## Times -/

theorem TemplateCache.oldest?_eq_none_iff {entries : List (CacheEntry α)} :
    oldest? entries = none ↔ entries = [] := by
  cases entries with
  | nil => simp [oldest?]
  | cons e entries =>
    rw [oldest?]
    split <;> simp
    split <;> simp

theorem TemplateCache.oldest?_le : ∀ {entries : List (CacheEntry α)} {e : CacheEntry α},
    oldest? entries = some e → e ∈ entries ∧ ∀ e' ∈ entries, e.lastUsed ≤ e'.lastUsed
  | first :: entries, e, h => by
    rw [oldest?] at h
    split at h
    next hnone =>
      obtain rfl := oldest?_eq_none_iff.mp hnone
      cases h
      simp
    next other hother =>
      obtain ⟨hmem, hle⟩ := oldest?_le hother
      split at h
      · next hfirst =>
        cases h
        refine ⟨List.mem_cons_self, fun e' he' => ?_⟩
        rcases List.mem_cons.mp he' with rfl | he'
        · exact Nat.le_refl _
        · exact Nat.le_trans hfirst (hle e' he')
      · next hfirst =>
        cases h
        refine ⟨List.mem_cons_of_mem _ hmem, fun e' he' => ?_⟩
        rcases List.mem_cons.mp he' with rfl | he'
        · omega
        · exact hle e' he'

namespace RankedBy

variable {now now' : Nat} {entries entries' ranked : List (CacheEntry α)} {content : Text}

/-- **The order of the entries does not matter**: the oldest is the last of those ranked. -/
theorem oldest? (h : RankedBy now entries ranked) :
    TemplateCache.oldest? entries = ranked.getLast? := by
  rcases List.eq_nil_or_concat ranked with rfl | ⟨newer, last, rfl⟩
  · rw [List.Perm.eq_nil h.perm]
    rfl
  · rw [List.concat_eq_append] at h ⊢
    rw [List.getLast?_concat]
    obtain ⟨e, he⟩ : ∃ e, TemplateCache.oldest? entries = some e := by
      rw [← Option.ne_none_iff_exists', Ne, TemplateCache.oldest?_eq_none_iff]
      rintro rfl
      have hnil := h.perm.symm.eq_nil
      simp at hnil
    obtain ⟨hmem, hle⟩ := TemplateCache.oldest?_le he
    have hlast : e.lastUsed ≤ last.lastUsed := hle last (h.perm.mem_iff.mpr (by simp))
    rw [he]
    rcases List.mem_append.mp (h.perm.mem_iff.mp hmem) with hnewer | hlast'
    · have hlt := (List.pairwise_append.mp h.latest).2.2 e hnewer last (by simp)
      omega
    · rw [List.mem_singleton.mp hlast']

theorem reorder (h : RankedBy now entries ranked) (hperm : entries'.Perm entries) :
    RankedBy now entries' ranked := ⟨hperm.trans h.perm, h.latest, h.past, h.distinct⟩

theorem mono (h : RankedBy now entries ranked) (hle : now ≤ now') :
    RankedBy now' entries ranked :=
  ⟨h.perm, h.latest, fun e he => Nat.lt_of_lt_of_le (h.past e he) hle, h.distinct⟩

theorem find? (h : RankedBy now entries ranked) (content : Text) :
    (entries.find? fun e => e.content = content) = ranked.find? fun e => e.content = content := by
  have hdistinct : (entries.map (·.content)).Nodup := (h.perm.map _).nodup_iff.mpr h.distinct
  ext e
  rw [find?_content_eq_some_iff hdistinct, find?_content_eq_some_iff h.distinct, h.perm.mem_iff]

theorem erase (h : RankedBy now entries ranked) (content : Text) :
    RankedBy now (entries.filter fun e => e.content ≠ content)
      (ranked.filter fun e => e.content ≠ content) where
  perm := h.perm.filter _
  latest := h.latest.filter _
  past := fun e he => h.past e (List.mem_of_mem_filter he)
  distinct := h.distinct.sublist (List.filter_sublist.map _)

/-- Renewing an entry brings it to the front. -/
theorem renew (h : RankedBy now entries ranked) {e : CacheEntry α} (hmem : e ∈ ranked)
    (hcontent : e.content = content) :
    RankedBy (now + 1)
      (entries.map fun e => if e.content = content then { e with lastUsed := now } else e)
      ({ e with lastUsed := now } :: ranked.filter fun e => e.content ≠ content) := by
  have herased := h.erase content
  constructor
  · exact (h.perm.map _).trans (renew_perm now hcontent h.distinct hmem)
  · exact List.pairwise_cons.mpr ⟨herased.past, herased.latest⟩
  · intro e' he'
    rcases List.mem_cons.mp he' with rfl | he'
    · exact Nat.lt_succ_self now
    · exact Nat.lt_succ_of_lt (herased.past e' he')
  · refine List.nodup_cons.mpr ⟨fun hother => ?_, herased.distinct⟩
    obtain ⟨e', he', heq⟩ := List.mem_map.mp hother
    have hne : e'.content ≠ content := by simpa using (List.mem_filter.mp he').2
    exact hne (heq.trans hcontent)

/-- A new entry comes to the front. -/
theorem push (h : RankedBy now entries ranked) (hnew : content ∉ ranked.map (·.content))
    (template : α) :
    RankedBy (now + 1) (entries ++ [⟨content, template, now⟩])
      (⟨content, template, now⟩ :: ranked) := by
  constructor
  · exact (List.perm_append_singleton _ _).trans (h.perm.cons _)
  · exact List.pairwise_cons.mpr ⟨h.past, h.latest⟩
  · intro e he
    rcases List.mem_cons.mp he with rfl | he
    · exact Nat.lt_succ_self now
    · exact Nat.lt_succ_of_lt (h.past e he)
  · exact List.nodup_cons.mpr ⟨hnew, h.distinct⟩

/-- Without the text of the last of them, the others are left. -/
theorem eraseLast (h : RankedBy now entries ranked) {last : CacheEntry α}
    (hlast : ranked.getLast? = some last) :
    RankedBy now (entries.filter fun e => e.content ≠ last.content) ranked.dropLast := by
  have hsplit : ranked = ranked.dropLast ++ [last] := by
    obtain ⟨newer, hnewer⟩ := List.getLast?_eq_some_iff.mp hlast
    rw [hnewer, List.dropLast_concat]
  have hnew : last.content ∉ ranked.dropLast.map (·.content) := by
    have hdistinct := h.distinct
    rw [hsplit, List.map_append, List.nodup_append] at hdistinct
    exact fun hmem => hdistinct.2.2 _ hmem _ (by simp) rfl
  have hleft : (ranked.filter fun e => e.content ≠ last.content) = ranked.dropLast := by
    conv_lhs => rw [hsplit]
    rw [List.filter_append, filter_content_of_not_mem hnew]
    simp
  rw [← hleft]
  exact h.erase last.content

end RankedBy

-- ---------------------------------------------------------------------------
-- The cache and the list
-- ---------------------------------------------------------------------------

/-- The cache keeps at most `maxEntries` entries. It holds what the list says, all of it from before
`now`. -/
structure Recency.Describes (maxEntries : Nat) (recent : Recency α) (now : Nat)
    (cache : TemplateCache α) : Prop where
  ranked : ∃ ranked, RankedBy now cache.entries ranked ∧
    ranked.map CacheEntry.binding = recent.entries
  capacity : cache.maxEntries = maxEntries
  bounded : cache.entries.length ≤ maxEntries
  hits : cache.hits = recent.requests.count true
  misses : cache.misses = recent.requests.count false

/-- Calls on a cache have the result that they have on the list. -/
structure Recency.Matches {β : Type} (maxEntries : Nat) (expected : β × Recency α × Store σ)
    (result : β × TemplateCache α × Store σ) : Prop where
  answer : result.1 = expected.1
  store : result.2.2 = expected.2.2
  describes : expected.2.1.Describes maxEntries (result.2.1.clock + 1) result.2.1

namespace Recency.Describes

variable {maxEntries now now' : Nat} {recent : Recency α} {cache : TemplateCache α}

/-! ## What does not look at the times -/

theorem mono (h : recent.Describes maxEntries now cache) (hle : now ≤ now') :
    recent.Describes maxEntries now' cache := by
  obtain ⟨ranked, hranked, hbindings⟩ := h.ranked
  exact ⟨⟨ranked, hranked.mono hle, hbindings⟩, h.capacity, h.bounded, h.hits, h.misses⟩

theorem reorder (h : recent.Describes maxEntries now cache) {entries : List (CacheEntry α)}
    (hperm : entries.Perm cache.entries) :
    recent.Describes maxEntries now { cache with entries := entries } := by
  obtain ⟨ranked, hranked, hbindings⟩ := h.ranked
  have hbounded := hperm.length_eq ▸ h.bounded
  exact ⟨⟨ranked, hranked.reorder hperm, hbindings⟩, h.capacity, hbounded, h.hits, h.misses⟩

theorem length (h : recent.Describes maxEntries now cache) :
    cache.entries.length = recent.entries.length := by
  obtain ⟨ranked, hranked, hbindings⟩ := h.ranked
  rw [← hbindings, List.length_map, hranked.perm.length_eq]

theorem find? (h : recent.Describes maxEntries now cache) (content : Text) :
    cache.find? content = recent.entries.get? content := by
  obtain ⟨ranked, hranked, hbindings⟩ := h.ranked
  rw [TemplateCache.find?, hranked.find?, ← hbindings, get?_bindings]

theorem erase (h : recent.Describes maxEntries now cache) (content : Text) :
    Describes maxEntries { recent with entries := recent.entries.erase content } now
      (cache.erase content) := by
  obtain ⟨ranked, hranked, hbindings⟩ := h.ranked
  refine ⟨⟨_, hranked.erase content, ?_⟩, h.capacity, ?_, h.hits, h.misses⟩
  · rw [← hbindings, erase_bindings content hranked.distinct]
  · exact Nat.le_trans (List.length_filter_le ..) h.bounded

theorem clear (cache : TemplateCache α) (h : cache.maxEntries = maxEntries) :
    Recency.new.Describes maxEntries now cache.clear where
  ranked := ⟨[], ⟨.nil, .nil, by simp, .nil⟩, rfl⟩
  capacity := h
  bounded := Nat.zero_le _
  hits := rfl
  misses := rfl

theorem stats (h : recent.Describes maxEntries now cache) :
    cache.stats = recent.stats maxEntries := by
  rw [TemplateCache.stats, Recency.stats, h.hits, h.misses, h.length, h.capacity]

/-! ## Requests -/

/-- A request for a text that is there renews its entry. -/
theorem hit (h : recent.Describes maxEntries now cache) {content : Text} {template : α}
    (hfound : recent.entries.get? content = some template) :
    Describes maxEntries
      ⟨(content, template) :: recent.entries.erase content, true :: recent.requests⟩ (now + 1)
      { cache with
        entries := cache.entries.map fun e =>
          if e.content = content then { e with lastUsed := now } else e
        clock := now
        hits := cache.hits + 1 } := by
  obtain ⟨ranked, hranked, hbindings⟩ := h.ranked
  rw [← hbindings, get?_bindings, Option.map_eq_some_iff] at hfound
  obtain ⟨e, hfound, rfl⟩ := hfound
  obtain ⟨hmem, rfl⟩ := (find?_content_eq_some_iff hranked.distinct content e).mp hfound
  refine ⟨⟨_, hranked.renew hmem rfl, ?_⟩, h.capacity, ?_, ?_, ?_⟩
  · rw [List.map_cons, ← hbindings, erase_bindings _ hranked.distinct]
    rfl
  · rw [List.length_map]
    exact h.bounded
  · rw [List.count_cons_self, h.hits]
  · rw [List.count_cons_of_ne (by decide), h.misses]

/-- A request for a text that is not there takes a time that no entry bears. -/
theorem miss (h : recent.Describes maxEntries now cache) :
    Describes maxEntries { recent with requests := false :: recent.requests } now
      { cache with clock := now, misses := cache.misses + 1 } := by
  refine ⟨h.ranked, h.capacity, h.bounded, ?_, ?_⟩
  · rw [List.count_cons_of_ne (by decide), h.hits]
  · rw [List.count_cons_self, h.misses]

/-- The last of the list leaves if and only if the list is full. -/
theorem makeRoom (h : recent.Describes maxEntries now cache) (hmax : 1 ≤ maxEntries) :
    ∃ ranked entries, cache.makeRoom =
        (if recent.entries.length = maxEntries then recent.entries.getLast?.map Prod.fst
          else none, { cache with entries := entries }) ∧
      RankedBy now entries ranked ∧ entries.length < maxEntries ∧
      ranked.map CacheEntry.binding =
        if recent.entries.length = maxEntries then recent.entries.dropLast else recent.entries := by
  obtain ⟨ranked, hranked, hbindings⟩ := h.ranked
  have hlength := h.length
  have hbounded := h.bounded
  have hcapacity := h.capacity
  rw [TemplateCache.makeRoom]
  by_cases hfull : recent.entries.length = maxEntries
  · rw [if_pos (by omega), hranked.oldest?, if_pos hfull, if_pos hfull, ← hbindings,
      List.getLast?_map]
    cases hlast : ranked.getLast? with
    | none =>
      -- a list that is full has a last element
      rw [List.getLast?_eq_none_iff] at hlast
      rw [← hbindings, hlast] at hfull
      have hempty : 0 = maxEntries := hfull
      omega
    | some last =>
      have herased := hranked.eraseLast hlast
      refine ⟨_, _, rfl, herased, ?_, List.map_dropLast⟩
      have hranked_length : ranked.length = recent.entries.length := by
        rw [← hbindings, List.length_map]
      have hshorter := herased.perm.length_eq
      rw [List.length_dropLast] at hshorter
      omega
  · rw [if_neg (by omega), if_neg hfull, if_neg hfull]
    exact ⟨ranked, cache.entries, rfl, hranked, by omega, hbindings⟩

/-- A new template takes the time of the request. -/
theorem store (h : recent.Describes maxEntries now cache) (hnow : now = cache.clock)
    (hmax : 1 ≤ maxEntries) {content : Text} (hnew : recent.entries.get? content = none)
    (template : α) :
    ∃ cache', cache.store content template =
        ((recent.store maxEntries content template).1, cache') ∧
      (recent.store maxEntries content template).2.Describes maxEntries (cache'.clock + 1)
        cache' := by
  obtain ⟨ranked, entries, hroom, hranked, hless, hbindings⟩ := h.makeRoom hmax
  have hcontents : ranked.map (·.content) = (ranked.map CacheEntry.binding).map Prod.fst := by
    rw [List.map_map]
    rfl
  have hother : content ∉ ranked.map (·.content) := by
    rw [hcontents, hbindings]
    intro hmem
    refine Entries.get?_eq_none_iff.mp hnew ?_
    split at hmem
    · exact List.map_subset _ (List.dropLast_subset _) hmem
    · exact hmem
  have hstored : (recent.store maxEntries content template) =
      (if recent.entries.length = maxEntries then recent.entries.getLast?.map Prod.fst else none,
        { recent with entries := (content, template) :: ranked.map CacheEntry.binding }) := by
    rw [hbindings, Recency.store]
    split <;> rfl
  rw [TemplateCache.store, hroom, hstored]
  subst hnow
  refine ⟨_, rfl, ⟨_, hranked.push hother template, rfl⟩, h.capacity, ?_, h.hits, h.misses⟩
  rw [List.length_append]
  exact hless

theorem getOrCompile (h : recent.Describes maxEntries now cache) (hnow : now = cache.clock + 1)
    (hmax : 1 ≤ maxEntries) (content : Text) (compile : Run σ α) (s : Store σ) :
    Matches maxEntries (recent.getOrCompile maxEntries content compile s)
      (cache.getOrCompile content compile s) := by
  subst hnow
  unfold TemplateCache.getOrCompile TemplateCache.request Recency.getOrCompile Recency.request
  rw [h.find? content]
  cases hfound : recent.entries.get? content with
  | some template => exact ⟨rfl, rfl, h.hit hfound⟩
  | none =>
    have hmissed := h.miss
    simp only
    rcases compile.exec (s.emit (.templateMiss (Text.byteSize content))) with
      ⟨failure | template, s⟩
    · exact ⟨rfl, rfl, hmissed.mono (Nat.le_succ _)⟩
    · obtain ⟨cache', hstored, hdescribes⟩ := hmissed.store rfl hmax hfound template
      simp only [hstored]
      revert hdescribes
      rcases Recency.store maxEntries _ content template with ⟨evicted | evicted, recent'⟩
      · exact fun hdescribes => ⟨rfl, rfl, hdescribes⟩
      · exact fun hdescribes => ⟨rfl, rfl, hdescribes⟩

/-! ## Calls -/

/-- **One call** has the answer that it has on the list. -/
theorem perform (h : recent.Describes maxEntries now cache) (hnow : now = cache.clock + 1)
    (hmax : 1 ≤ maxEntries) (s : Store σ) (call : CacheCall σ α) :
    Matches maxEntries (recent.perform maxEntries s call) (cache.perform s call) := by
  cases call with
  | getOrCompile content compile =>
    obtain ⟨hanswer, hstore, hdescribes⟩ := h.getOrCompile hnow hmax content compile s
    exact ⟨congrArg CacheAnswer.template hanswer, hstore, hdescribes⟩
  | contains content =>
    have hfound : cache.contains content = recent.entries.contains content := by
      rw [TemplateCache.contains, h.find?, Entries.contains]
    exact ⟨congrArg CacheAnswer.contained hfound, rfl, hnow ▸ h⟩
  | remove content =>
    exact ⟨congrArg CacheAnswer.removed (h.find? content), rfl, hnow ▸ h.erase content⟩
  | clear => exact ⟨rfl, rfl, clear cache h.capacity⟩
  | stats => exact ⟨congrArg CacheAnswer.stats h.stats, rfl, hnow ▸ h⟩

/-- So has any number of calls, by induction on them. -/
theorem serve {order : Nat → List (CacheEntry α) → List (CacheEntry α)}
    (horder : ∀ n entries, (order n entries).Perm entries) (hmax : 1 ≤ maxEntries) :
    ∀ (calls : List (CacheCall σ α)) {recent : Recency α} {cache : TemplateCache α} (s : Store σ),
      recent.Describes maxEntries (cache.clock + 1) cache →
      Matches maxEntries (recent.serve maxEntries s calls) (cache.serve order s calls)
  | [], _, _, _, h => ⟨rfl, rfl, h⟩
  | call :: calls, recent, cache, s, h => by
    have hreordered := h.reorder (horder calls.length cache.entries)
    have hcall := hreordered.perform rfl hmax s call
    rw [Recency.serve, TemplateCache.serve]
    revert hcall
    generalize recent.perform maxEntries s call = expected
    generalize TemplateCache.perform _ s call = result
    rintro ⟨hanswer, hstore, hdescribes⟩
    obtain ⟨answer, recent', s'⟩ := expected
    obtain ⟨_, cache', _⟩ := result
    cases hanswer
    cases hstore
    obtain ⟨hanswers, hstores, hend⟩ := serve horder hmax calls s' hdescribes
    exact ⟨congrArg (answer :: ·) hanswers, hstores, hend⟩

end Recency.Describes

/-- **The cache is one of the least recently used.** Let it keep at least one entry. Then any number
of calls on a new cache have the answers, and leave the store, that they have on the list ordered by
recency, whatever order the entries take before each call; and the cache they leave holds what the
list holds, ranked by its times as the list is by recency, and at most `maxEntries` of it. -/
theorem TemplateCache.serve_recency {maxEntries : Nat} (hmax : 1 ≤ maxEntries) (config : Config)
    {order : Nat → List (CacheEntry α) → List (CacheEntry α)}
    (horder : ∀ n entries, (order n entries).Perm entries) (calls : List (CacheCall σ α))
    (s : Store σ) :
    Recency.Matches maxEntries (Recency.new.serve maxEntries s calls)
      ((TemplateCache.new maxEntries config).serve order s calls) :=
  have hnew := Recency.Describes.clear (TemplateCache.new maxEntries config) rfl
  Recency.Describes.serve horder hmax calls s hnew

/-- A cache of two entries, whose entries are turned around before each call: `a` is requested again
before `c` comes, so `b` leaves. -/
theorem TemplateCache.serve_recency_reversed :
    let calls : List (CacheCall Unit Nat) := [.getOrCompile "a".toList (pure 1),
      .getOrCompile "b".toList (pure 2), .getOrCompile "a".toList (pure 3),
      .getOrCompile "c".toList (pure 4)]
    let expected := Recency.new.serve 2 (Store.empty ()) calls
    expected.2.1.entries = [("c".toList, 4), ("a".toList, 1)] ∧
      Recency.Matches 2 expected
        ((TemplateCache.new 2 .default).serve (fun _ => List.reverse) (Store.empty ()) calls) :=
  ⟨rfl, TemplateCache.serve_recency (by decide) .default (fun _ => List.reverse_perm) _ _⟩

end Templating
