import Templating.Proofs.Recency

/-!
# The size of a cache

A full cache makes room before it stores a template: the entry with the oldest time leaves. A cache
that is to keep no entry at all is full from the beginning, but then there is nothing that could
leave, and the template is stored all the same. So one entry is the least that a cache keeps.

* `TemplateCache.Bounded` — at most `maxEntries` entries, or one where `maxEntries` is zero;
* `TemplateCache.Bounded.perform` — a call keeps to the bound, whether it compiles, fails, removes
  or clears;
* `TemplateCache.serve_length` — so does any number of calls on a new cache, and `maxEntries` itself
  is exceeded if and only if it is zero and something is stored;
* `TemplateCache.exceeds` — which happens.
-/

namespace Templating

variable {σ α : Type}

namespace TemplateCache

/-- The number of entries to keep is `maxEntries`, and there are no more than that, or than one. -/
structure Bounded (maxEntries : Nat) (cache : TemplateCache α) : Prop where
  capacity : cache.maxEntries = maxEntries
  length : cache.entries.length ≤ max maxEntries 1

/-! ## Entries that leave and entries that come -/

theorem erase_length_le (cache : TemplateCache α) (content : Text) :
    (cache.erase content).entries.length ≤ cache.entries.length := List.length_filter_le ..

theorem erase_length_lt {cache : TemplateCache α} {e : CacheEntry α} (h : e ∈ cache.entries) :
    (cache.erase e.content).entries.length < cache.entries.length := by
  refine List.length_filter_lt_length_iff_exists.mpr ⟨e, h, ?_⟩
  simp

/-- Where an entry is found that can leave, one leaves a full cache; otherwise there is none. -/
theorem makeRoom_length_lt {cache : TemplateCache α}
    (h : cache.entries.length ≤ max cache.maxEntries 1) :
    cache.makeRoom.2.entries.length < max cache.maxEntries 1 := by
  rw [makeRoom]
  by_cases hfull : cache.maxEntries ≤ cache.entries.length
  · rw [if_pos hfull]
    cases holdest : oldest? cache.entries with
    | some e =>
      have hless := erase_length_lt (oldest?_le holdest).1
      exact Nat.lt_of_lt_of_le hless h
    | none =>
      rw [oldest?_eq_none_iff.mp holdest, List.length_nil]
      omega
  · rw [if_neg hfull]
    dsimp only
    omega

@[simp] theorem makeRoom_maxEntries (cache : TemplateCache α) :
    cache.makeRoom.2.maxEntries = cache.maxEntries := by
  rw [makeRoom]
  split
  · split <;> rfl
  · rfl

theorem makeRoom_subset (cache : TemplateCache α) :
    cache.makeRoom.2.entries ⊆ cache.entries := by
  rw [makeRoom]
  split
  · split
    · exact List.filter_subset_self ..
    · exact List.Subset.refl _
  · exact List.Subset.refl _

/-! ## What was stored is found -/

theorem find?_store {cache : TemplateCache α} {content : Text} (hnew : cache.find? content = none)
    (template : α) : (cache.store content template).2.find? content = some template := by
  rw [find?, Option.map_eq_none_iff, List.find?_eq_none] at hnew
  have hother : (cache.makeRoom.2.entries.find? fun e => e.content = content) = none :=
    List.find?_eq_none.mpr fun e he => hnew e (cache.makeRoom_subset he)
  simp [store, find?, List.find?_append, hother]

theorem find?_request (cache : TemplateCache α) (content : Text) :
    (cache.request content).1 = cache.find? content ∧
      (cache.request content).2.find? content = cache.find? content := by
  rw [request]
  cases hfound : cache.find? content with
  | none => exact ⟨rfl, hfound⟩
  | some template =>
    refine ⟨rfl, ?_⟩
    -- renewing an entry changes neither its text nor its template
    have hcontent : ((fun e : CacheEntry α => decide (e.content = content)) ∘ fun e =>
        if e.content = content then { e with lastUsed := cache.clock + 1 } else e) =
        fun e => decide (e.content = content) := by
      funext e
      rw [Function.comp_apply]
      split <;> rfl
    have htemplate : (CacheEntry.template ∘ fun e : CacheEntry α =>
        if e.content = content then { e with lastUsed := cache.clock + 1 } else e) =
        CacheEntry.template := by
      funext e
      rw [Function.comp_apply]
      split <;> rfl
    dsimp only
    rw [find?, List.find?_map, Option.map_map, hcontent, htemplate]
    exact hfound

/-- A text that is answered with a template is in the cache afterwards, with this template. -/
theorem find?_getOrCompile {cache : TemplateCache α} {content : Text} {compile : Run σ α}
    {s : Store σ} {template : α}
    (h : (cache.getOrCompile content compile s).1 = .ok template) :
    (cache.getOrCompile content compile s).2.1.find? content = some template := by
  obtain ⟨hanswer, hkept⟩ := cache.find?_request content
  rw [getOrCompile] at h ⊢
  revert h hanswer hkept
  rcases cache.request content with ⟨found | found, requested⟩
  · intro h hanswer hkept
    have hnew : requested.find? content = none := hkept.trans hanswer.symm
    revert h
    dsimp only
    rcases compile.exec _ with ⟨failure | compiled, s'⟩
    · exact nofun
    · have hstored := find?_store hnew compiled
      revert hstored
      dsimp only
      rcases requested.store content compiled with ⟨evicted | _, stored⟩ <;>
        exact fun hstored h => hstored.trans (congrArg some (Except.ok.inj h))
  · intro h hanswer hkept
    exact (hkept.trans hanswer.symm).trans (congrArg some (Except.ok.inj h))

namespace Bounded

variable {maxEntries : Nat} {cache : TemplateCache α}

theorem new (maxEntries : Nat) (config : Config) :
    Bounded maxEntries (TemplateCache.new maxEntries config : TemplateCache α) :=
  ⟨rfl, Nat.zero_le _⟩

theorem reorder (h : Bounded maxEntries cache) {entries : List (CacheEntry α)}
    (hperm : entries.Perm cache.entries) : Bounded maxEntries { cache with entries := entries } :=
  ⟨h.capacity, hperm.length_eq ▸ h.length⟩

theorem request (h : Bounded maxEntries cache) (content : Text) :
    Bounded maxEntries (cache.request content).2 := by
  rw [TemplateCache.request]
  cases cache.find? content with
  | some template => exact ⟨h.capacity, by simpa using h.length⟩
  | none => exact ⟨h.capacity, h.length⟩

theorem erase (h : Bounded maxEntries cache) (content : Text) :
    Bounded maxEntries (cache.erase content) :=
  ⟨h.capacity, Nat.le_trans (erase_length_le cache content) h.length⟩

theorem store (h : Bounded maxEntries cache) (content : Text) (template : α) :
    Bounded maxEntries (cache.store content template).2 := by
  obtain ⟨rfl, hlength⟩ := h
  refine ⟨makeRoom_maxEntries cache, ?_⟩
  have hless := makeRoom_length_lt hlength
  rw [TemplateCache.store, List.length_append]
  exact hless

/-- A template that is found changes no more than the times; one that cannot be compiled is not
stored. -/
theorem getOrCompile (h : Bounded maxEntries cache) (content : Text) (compile : Run σ α)
    (s : Store σ) : Bounded maxEntries (cache.getOrCompile content compile s).2.1 := by
  have hrequested := h.request content
  rw [TemplateCache.getOrCompile]
  revert hrequested
  rcases cache.request content with ⟨template | _, requested⟩
  · intro hrequested
    dsimp only
    rcases compile.exec _ with ⟨failure | template, s⟩
    · exact hrequested
    · have hstored := hrequested.store content template
      revert hstored
      dsimp only
      rcases requested.store content template with ⟨evicted | _, stored⟩ <;> exact id
  · exact id

/-- **One call** keeps to the bound. -/
theorem perform (h : Bounded maxEntries cache) (s : Store σ) (call : CacheCall σ α) :
    Bounded maxEntries (cache.perform s call).2.1 := by
  cases call with
  | getOrCompile content compile => exact h.getOrCompile content compile s
  | contains content => exact h
  | remove content => exact h.erase content
  | clear => exact ⟨h.capacity, Nat.zero_le _⟩
  | stats => exact h

/-- So does any number of calls, by induction on them. -/
theorem serve {order : Nat → List (CacheEntry α) → List (CacheEntry α)}
    (horder : ∀ n entries, (order n entries).Perm entries) :
    ∀ (calls : List (CacheCall σ α)) {cache : TemplateCache α} (s : Store σ),
      Bounded maxEntries cache → Bounded maxEntries (cache.serve order s calls).2.1
  | [], _, _, h => h
  | call :: calls, cache, s, h =>
    have hcall := (h.reorder (horder calls.length cache.entries)).perform s call
    serve horder calls _ hcall

end Bounded

end TemplateCache

/-- **A cache keeps to its size, but keeps one entry at least.** Take any number of calls on a new
cache, with compilations that succeed and that fail, whatever order the entries take before each
call. There are then at most `maxEntries` entries, or one where `maxEntries` is zero; so there are
more than `maxEntries` if and only if that is zero and there are any. And there are: whatever text
is requested next, if the answer is a template, it is then in the cache. -/
theorem TemplateCache.serve_length (maxEntries : Nat) (config : Config)
    {order : Nat → List (CacheEntry α) → List (CacheEntry α)}
    (horder : ∀ n entries, (order n entries).Perm entries) (calls : List (CacheCall σ α))
    (s : Store σ) :
    let cache := ((TemplateCache.new maxEntries config).serve order s calls).2.1
    cache.entries.length ≤ max maxEntries 1 ∧
      (maxEntries < cache.entries.length ↔ maxEntries = 0 ∧ cache.entries ≠ []) ∧
      ∀ (content : Text) (compile : Run σ α) (s' : Store σ) (template : α),
        (cache.getOrCompile content compile s').1 = .ok template →
          (cache.getOrCompile content compile s').2.1.find? content = some template := by
  intro cache
  have hbounded : Bounded maxEntries cache :=
    Bounded.serve horder calls s (Bounded.new maxEntries config)
  refine ⟨hbounded.length, ?_, fun _ _ _ _ => find?_getOrCompile⟩
  have hlength := hbounded.length
  rw [← List.length_pos_iff]
  omega

/-- Two requests to a cache that is to keep no entry: the second template takes the place of the
first. -/
theorem TemplateCache.serve_length_zero :
    let calls : List (CacheCall Unit Nat) :=
      [.getOrCompile "a".toList (pure 1), .getOrCompile "b".toList (pure 2)]
    let cache := ((TemplateCache.new 0 .default).serve (fun _ => List.reverse) (Store.empty ())
      calls).2.1
    cache.entries.map CacheEntry.binding = [("b".toList, 2)] ∧ 0 < cache.entries.length := by
  intro calls cache
  have hentries : cache.entries.map CacheEntry.binding = [("b".toList, 2)] := rfl
  have hbound := TemplateCache.serve_length 0 .default (fun _ => List.reverse_perm) calls
    (Store.empty ())
  refine ⟨hentries, hbound.2.1.mpr ⟨rfl, ?_⟩⟩
  exact nofun

/-- `maxEntries` is not a bound for every cache. -/
theorem TemplateCache.exceeds :
    ¬ ∀ (maxEntries : Nat) (calls : List (CacheCall Unit Nat)),
      ((TemplateCache.new maxEntries .default).serve (fun _ => id) (Store.empty ())
        calls).2.1.entries.length ≤ maxEntries := by
  intro hbound
  have hzero := hbound 0 [.getOrCompile "a".toList (pure 1)]
  exact absurd hzero (by decide)

end Templating
