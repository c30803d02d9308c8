import Mathlib.Data.List.Nodup
import Templating.Builder
import Templating.Folder
import Templating.Proofs.Building

/-!
# Building is all or nothing

A builder collects what its calls give. When it builds, it reads the source first and touches
nothing before it has a text; after that nothing can fail, since every text compiles.

* `Entries.names_insertAll`, `Entries.get?_insertAll` — the names and the entries after insertions;
* `BuilderCall`, `Builder.ofCalls` — the calls and what they collect;
* `Builder.Built` — the registry after a build;
* `Builder.build_atomic` — a build succeeds with this, or fails without a trace.
-/

namespace Templating

-- ---------------------------------------------------------------------------
-- Insertions
-- ---------------------------------------------------------------------------

namespace Entries

variable {α : Type} {name : Text}

@[simp] theorem names_cons (name : Text) (entry : α) (entries : Entries α) :
    names ((name, entry) :: entries) = name :: entries.names := rfl

theorem names_insert (name : Text) (entry : α) : ∀ entries : Entries α,
    (entries.insert name entry).names =
      if name ∈ entries.names then entries.names else entries.names ++ [name]
  | [] => rfl
  | (key, old) :: rest => by
    by_cases hkey : key = name
    · simp [insert, hkey]
    · rw [insert, if_neg (by simpa using hkey), names_cons, names_cons,
        names_insert name entry rest]
      by_cases hmem : name ∈ names rest
      · simp [hmem]
      · simp [hmem, Ne.symm hkey]

theorem mem_names_insert {name other : Text} {entry : α} {entries : Entries α} :
    other ∈ (entries.insert name entry).names ↔ other = name ∨ other ∈ entries.names := by
  rw [names_insert]
  split
  · next hmem =>
    exact ⟨.inr, fun h => h.elim (fun heq => heq ▸ hmem) id⟩
  · rw [List.mem_append, List.mem_singleton, or_comm]

theorem nodup_names_insert {entry : α} {entries : Entries α} (h : entries.names.Nodup) :
    (entries.insert name entry).names.Nodup := by
  rw [names_insert]
  split
  · exact h
  · next hnew => exact List.nodup_append.mpr ⟨h, List.nodup_singleton name, by
      rintro a ha b hb rfl
      exact hnew (List.mem_singleton.mp hb ▸ ha)⟩

theorem insertAll_cons (name : Text) (entry : α) (new entries : Entries α) :
    entries.insertAll ((name, entry) :: new) = (entries.insert name entry).insertAll new := rfl

theorem insertAll_append (new new' entries : Entries α) :
    entries.insertAll (new ++ new') = (entries.insertAll new).insertAll new' := List.foldl_append

/-- **The order of the entries**: names that are there keep their places, and the others follow in
the order in which they are first given. -/
theorem names_insertAll : ∀ new entries : Entries α, (entries.insertAll new).names =
    entries.names ++ (new.names.filter fun name => name ∉ entries.names).eraseDups
  | [], entries => (List.append_nil _).symm
  | (name, entry) :: new, entries => by
    rw [insertAll_cons, names_insertAll new, names_insert]
    show _ = entries.names ++ ((name :: names new).filter _).eraseDups
    by_cases hmem : name ∈ entries.names
    · rw [if_pos hmem, List.filter_cons_of_neg (by simpa using hmem)]
    · have hlater : (names new).filter (fun other => other ∉ entries.names ++ [name]) =
          (names new).filter fun other => !other == name && decide (other ∉ entries.names) :=
        List.filter_congr fun other _ => by
          rw [Bool.eq_iff_iff]
          simp [and_comm]
      rw [if_neg hmem, List.filter_cons_of_pos (by simpa using hmem), List.eraseDups_cons,
        List.filter_filter, List.append_assoc, hlater]
      rfl

theorem get?_append (name : Text) : ∀ entries entries' : Entries α,
    get? name (entries ++ entries') = (entries.get? name).or (entries'.get? name)
  | [], _ => rfl
  | (key, entry) :: rest, entries' => by
    by_cases hkey : key = name
    · simp [get?, hkey]
    · simp [get?, hkey, get?_append name rest entries']

/-- **The last entry given for a name counts.** -/
theorem get?_insertAll (name : Text) : ∀ new entries : Entries α,
    (entries.insertAll new).get? name = (get? name new.reverse).or (entries.get? name)
  | [], _ => rfl
  | (key, entry) :: new, entries => by
    rw [insertAll_cons, get?_insertAll name new, get?_insert, List.reverse_cons, get?_append,
      get?_singleton, Option.or_assoc]
    split <;> rfl

/-! ## Collecting first -/

theorem insert_insert (name : Text) (entry entry' : α) : ∀ entries : Entries α,
    (entries.insert name entry).insert name entry' = entries.insert name entry'
  | [] => by simp [insert]
  | (key, old) :: rest => by
    by_cases hkey : key = name
    · simp [insert, hkey]
    · simp [insert, hkey, insert_insert name entry entry' rest]

/-- A name that is there is replaced in its place, before or after another is inserted. -/
theorem insert_comm {other : Text} (hne : other ≠ name) (entry entry' : α) :
    ∀ {entries : Entries α}, name ∈ entries.names →
      (entries.insert other entry').insert name entry =
        (entries.insert name entry).insert other entry'
  | (key, old) :: rest, hmem => by
    by_cases hkey : key = name
    · subst hkey
      simp [insert, Ne.symm hne]
    · have hrest : name ∈ names rest := by
        rcases List.mem_cons.mp hmem with heq | hrest
        · exact absurd heq.symm hkey
        · exact hrest
      by_cases hother : key = other
      · subst hother
        simp [insert, hkey]
      · simp [insert, hkey, hother, insert_comm hne entry entry' hrest]

theorem insert_insertAll (entry : α) : ∀ {new entries : Entries α},
    name ∈ entries.names → name ∉ new.names →
      (entries.insertAll new).insert name entry = (entries.insert name entry).insertAll new
  | [], _, _, _ => rfl
  | (other, entry') :: new, entries, hmem, hnew => by
    rw [names_cons, List.mem_cons, not_or] at hnew
    obtain ⟨hne, hnew⟩ := hnew
    rw [insertAll_cons, insertAll_cons, insert_insertAll entry (mem_names_insert.mpr (.inr hmem))
      hnew, insert_comm (Ne.symm hne) entry entry' hmem]

theorem insertAll_insert (entry : α) : ∀ {new : Entries α}, new.names.Nodup →
    ∀ entries : Entries α,
      entries.insertAll (new.insert name entry) = (entries.insertAll new).insert name entry
  | [], _, _ => rfl
  | (key, old) :: new, hnodup, entries => by
    obtain ⟨hkey, hnodup⟩ := List.nodup_cons.mp hnodup
    by_cases heq : key = name
    · subst heq
      rw [insert, if_pos (beq_self_eq_true key), insertAll_cons, insertAll_cons,
        insert_insertAll entry (mem_names_insert.mpr (.inl rfl)) hkey, insert_insert]
    · rw [insert, if_neg (by simpa using heq), insertAll_cons, insertAll_cons,
        insertAll_insert entry hnodup]

/-- Inserting what was collected in the order of insertion is inserting it one by one. -/
theorem insertAll_insertAll (entries : Entries α) : ∀ (given : Entries α) {collected : Entries α},
    collected.names.Nodup → entries.insertAll (collected.insertAll given) =
      (entries.insertAll collected).insertAll given
  | [], _, _ => rfl
  | (name, entry) :: given, collected, hnodup => by
    rw [insertAll_cons, insertAll_cons,
      insertAll_insertAll entries given (nodup_names_insert hnodup),
      insertAll_insert entry hnodup]

end Entries

variable {σ : Type}

-- ---------------------------------------------------------------------------
-- Calls
-- ---------------------------------------------------------------------------

/-- A call on a builder before the template is built. -/
inductive BuilderCall (σ : Type) where
  | fromText (content : Text)
  | fromFile (path : Text)
  | withPartial (name : Text) (entry : Partial σ)
  | withPartials (partials : Entries (Partial σ))
  | withRegistry (r : RegistryId)
  | withConfig (config : Config)
  | strict

namespace BuilderCall

/-- The source that a call sets. -/
def source? : BuilderCall σ → Option Source
  | fromText content => some (.text content)
  | fromFile path => some (.file path)
  | _ => none

/-- The registry that a call sets. -/
def registry? : BuilderCall σ → Option RegistryId
  | withRegistry r => some r
  | _ => none

/-- The partials that a call gives, in order. -/
def given : BuilderCall σ → Entries (Partial σ)
  | withPartial name entry => [(name, entry)]
  | withPartials partials => partials
  | _ => []

end BuilderCall

namespace Builder

/-- The builder after a call. -/
def call (b : Builder σ) : BuilderCall σ → Builder σ
  | .fromText content => b.fromText content
  | .fromFile path => b.fromFile path
  | .withPartial name entry => b.withPartial name entry
  | .withPartials partials => b.withPartials partials
  | .withRegistry r => b.withRegistry r
  | .withConfig config => b.withConfig config
  | .strict => b.strict

/-- A builder after calls in a row. -/
def ofCalls (calls : List (BuilderCall σ)) : Builder σ := calls.foldl call empty

/-- The last of the sources set. -/
def lastSource (calls : List (BuilderCall σ)) : Option Source :=
  (calls.filterMap BuilderCall.source?).getLast?

/-- The last of the registries set. -/
def lastRegistry (calls : List (BuilderCall σ)) : Option RegistryId :=
  (calls.filterMap BuilderCall.registry?).getLast?

/-- All partials given, in order. -/
def given (calls : List (BuilderCall σ)) : Entries (Partial σ) := calls.flatMap BuilderCall.given

theorem getLast?_filterMap_cons {β γ : Type} (f : β → Option γ) (b : β) (bs : List β) :
    ((b :: bs).filterMap f).getLast? = ((bs.filterMap f).getLast?).or (f b) := by
  rw [List.filterMap_cons]
  cases f b with
  | none => exact (Option.or_none).symm
  | some c =>
    rw [List.getLast?_cons]
    cases (bs.filterMap f).getLast? with
    | none => rfl
    | some last => rfl

theorem call_source (b : Builder σ) (c : BuilderCall σ) :
    (b.call c).source = c.source?.or b.source := by
  cases c <;> rfl

theorem call_registry (b : Builder σ) (c : BuilderCall σ) :
    (b.call c).registry = c.registry?.or b.registry := by
  cases c <;> rfl

theorem call_partials (b : Builder σ) (c : BuilderCall σ) :
    (b.call c).partials = b.partials.insertAll c.given := by
  cases c <;> rfl

theorem lastSource_cons (c : BuilderCall σ) (calls : List (BuilderCall σ)) :
    lastSource (c :: calls) = (lastSource calls).or c.source? := getLast?_filterMap_cons ..

theorem lastRegistry_cons (c : BuilderCall σ) (calls : List (BuilderCall σ)) :
    lastRegistry (c :: calls) = (lastRegistry calls).or c.registry? := getLast?_filterMap_cons ..

/-- What is set again replaces what was set before, and what is given is added to it. -/
theorem foldl_call : ∀ (calls : List (BuilderCall σ)) (b : Builder σ),
    (calls.foldl call b).source = (lastSource calls).or b.source ∧
      (calls.foldl call b).registry = (lastRegistry calls).or b.registry ∧
      (calls.foldl call b).partials = b.partials.insertAll (given calls)
  | [], _ => ⟨rfl, rfl, rfl⟩
  | c :: calls, b => by
    obtain ⟨hsource, hregistry, hpartials⟩ := foldl_call calls (b.call c)
    rw [call_source, ← Option.or_assoc, ← lastSource_cons] at hsource
    rw [call_registry, ← Option.or_assoc, ← lastRegistry_cons] at hregistry
    rw [call_partials, ← Entries.insertAll_append] at hpartials
    exact ⟨hsource, hregistry, hpartials⟩

theorem ofCalls_source (calls : List (BuilderCall σ)) :
    (ofCalls calls).source = lastSource calls :=
  (foldl_call calls empty).1.trans Option.or_none

theorem ofCalls_registry (calls : List (BuilderCall σ)) :
    (ofCalls calls).registry = lastRegistry calls :=
  (foldl_call calls empty).2.1.trans Option.or_none

theorem ofCalls_partials (calls : List (BuilderCall σ)) :
    (ofCalls calls).partials = Entries.ofList (given calls) := (foldl_call calls empty).2.2

end Builder

-- ---------------------------------------------------------------------------
-- Registries
-- ---------------------------------------------------------------------------

/-- Blocks whose names are free follow the entries in the order of their numbers. -/
theorem Registry.names_issueAll {r : RegistryId} {config : Config} : ∀ (blocks : List Block)
    (registry : Registry σ),
    (∀ number ≥ registry.issued.length, Block.reference number ∉ registry.entries.names) →
      (registry.issueAll r config blocks).entries.names = registry.entries.names ++
        (List.range' registry.issued.length blocks.length).map Block.reference
  | [], _, _ => (List.append_nil _).symm
  | block :: blocks, registry, hfree => by
    have hnames : (registry.issue r config block).entries.names =
        registry.entries.names ++ [Block.reference registry.issued.length] := by
      rw [issue, Entries.names_insert, if_neg (hfree _ (Nat.le_refl _))]
    have hlength : (registry.issue r config block).issued.length = registry.issued.length + 1 := by
      rw [issue, List.length_append, List.length_singleton]
    have hlater : ∀ number ≥ (registry.issue r config block).issued.length,
        Block.reference number ∉ (registry.issue r config block).entries.names := by
      intro number hge hmem
      rw [hlength] at hge
      rw [hnames, List.mem_append, List.mem_singleton] at hmem
      rcases hmem with hold | hsame
      · exact hfree number (by omega) hold
      · have hnumber := Block.reference_injective hsame
        omega
    rw [issueAll_cons, names_issueAll blocks _ hlater, hnames, hlength, List.append_assoc]
    rfl

namespace Store

variable {r : RegistryId} {registry : Registry σ} {s : Store σ}

/-- Partials inserted one after the other change the entries of one registry. -/
theorem replaced_insertAll : ∀ (partials : Entries (Partial σ)) {s : Store σ}
    {registry : Registry σ}, s.registries[r]? = some registry →
      Replaced r { registry with entries := registry.entries.insertAll partials } s
        (partials.foldl (fun s (name, entry) => s.insert r name entry) s)
  | [], _, _, h => .refl h
  | (name, entry) :: partials, s, registry, h => by
    have hfirst : Replaced r { registry with entries := registry.entries.insert name entry } s
        (s.insert r name entry) := (Replaced.refl h).modify fun registry =>
      { registry with entries := registry.entries.insert name entry }
    exact hfirst.trans (replaced_insertAll partials hfirst.here)

/-- A registry that is open, with partials given beside the entries of before; there may have been
no such registry. The rest of the store is the same. -/
structure Filled (given : Entries (Partial σ)) (r : RegistryId) (s s' : Store σ)
    (registry : Registry σ) : Prop where
  replaced : Replaced r registry s s'
  isOpen : registry.isOpen = true
  entries : registry.entries = (s.entries r).insertAll given
  next : registry.issued.length = s.nextNumber r
  issued : ∀ number, registry.issued[number]? = s.issued? ⟨r, number⟩

theorem filled_insertAll (h : s.registries[r]? = some registry) (hopen : registry.isOpen = true)
    (given : Entries (Partial σ)) :
    Filled given r s
      ((Entries.ofList given).foldl (fun s (name, entry) => s.insert r name entry) s)
      { registry with entries := registry.entries.insertAll (Entries.ofList given) } where
  replaced := replaced_insertAll _ h
  isOpen := hopen
  entries := by
    rw [entries_eq h]
    exact Entries.insertAll_insertAll registry.entries given .nil
  next := (nextNumber_eq h).symm
  issued := fun number => (issued?_eq h number).symm

theorem filled_newRegistry (s : Store σ) (given : Entries (Partial σ)) :
    Filled given s.registries.length s (s.newRegistry (Entries.ofList given)).2
      ⟨Entries.ofList given, [], true⟩ := by
  have hnone : s.registries[s.registries.length]? = none := List.getElem?_eq_none (Nat.le_refl _)
  constructor
  · refine ⟨List.getElem?_concat_length, fun r' hne => ?_⟩
    show (s.registries ++ [_])[r']? = _
    rcases Nat.lt_or_ge r' s.registries.length with hlt | hge
    · exact List.getElem?_append_left hlt
    · have hgt : s.registries.length + 1 ≤ r' := Nat.lt_of_le_of_ne hge (Ne.symm hne)
      rw [List.getElem?_eq_none hge, List.getElem?_eq_none]
      rwa [List.length_append, List.length_singleton]
  · rfl
  · rw [Store.entries, hnone]
    rfl
  · rw [nextNumber, hnone]
    rfl
  · intro number
    rw [issued?, hnone]
    rfl

end Store

-- ---------------------------------------------------------------------------
-- Building
-- ---------------------------------------------------------------------------

namespace Builder

variable {read : Text → Except Error Text} {calls : List (BuilderCall σ)} {s : Store σ}

/-- The registry that a template is built in: the last one set, or else the next new one. -/
def home (calls : List (BuilderCall σ)) (s : Store σ) : RegistryId :=
  (lastRegistry calls).getD s.registries.length

/-- The calls give a text to compile: the last source is this text, or a file that holds it. -/
def Gives (read : Text → Except Error Text) (calls : List (BuilderCall σ)) (content : Text) :
    Prop :=
  lastSource calls = some (.text content) ∨
    ∃ path, lastSource calls = some (.file path) ∧ read path = .ok content

/-- A template was built in a registry, into which partials were given and blocks were extracted:
what is different from before. -/
structure Built (given : Entries (Partial σ)) (config : Config) (extraction : Extraction)
    (r : RegistryId) (s s' : Store σ) (t : Template) : Prop where
  template : t = ⟨extraction.residual, r, true, config⟩
  /-- The entries of before keep their places; the new partials follow in the order in which they
  are first given, and then the blocks in the order of their numbers. -/
  names : (s'.entries r).names = (s.entries r).names ++
    (given.names.filter fun name => name ∉ (s.entries r).names).eraseDups ++
    (List.range' (s.nextNumber r) extraction.blocks.length).map Block.reference
  /-- Of the partials given for a name the last one counts. -/
  bound : ∀ name entry, Entries.get? name given.reverse = some entry →
    (s'.entries r).get? name = some entry
  blocks : ∀ i < extraction.blocks.length,
    (s'.entries r).get? (Block.reference (s.nextNumber r + i)) =
      some (.deferred ⟨r, s.nextNumber r + i⟩)
  /-- Every other name has the entry that it had. -/
  kept : ∀ name ∉ given.names,
    (∀ i < extraction.blocks.length, name ≠ Block.reference (s.nextNumber r + i)) →
      (s'.entries r).get? name = (s.entries r).get? name
  next : s'.nextNumber r = s.nextNumber r + extraction.blocks.length
  records : ∀ i, s'.issued? ⟨r, s.nextNumber r + i⟩ =
    extraction.blocks[i]?.map fun block => ⟨block, config, none⟩
  older : ∀ number < s.nextNumber r, s'.issued? ⟨r, number⟩ = s.issued? ⟨r, number⟩
  others : ∀ r' ≠ r, s'.registries[r']? = s.registries[r']?

theorem content_eq_error_iff {e : Error} : (ofCalls calls).content read = .error e ↔
    (lastSource calls = none ∧ e = .noSource) ∨
      ∃ path, lastSource calls = some (.file path) ∧ read path = .error e := by
  rw [content, ofCalls_source]
  rcases lastSource calls with _ | ⟨content⟩ | ⟨path⟩ <;> simp [eq_comm]

theorem exists_content_error_iff : (∃ e, (ofCalls calls).content read = .error e) ↔
    lastSource calls = none ∨
      ∃ path e, lastSource calls = some (.file path) ∧ read path = .error e := by
  simp only [content_eq_error_iff]
  constructor
  · rintro ⟨e, ⟨hnone, -⟩ | ⟨path, hfile, herror⟩⟩
    · exact .inl hnone
    · exact .inr ⟨path, e, hfile, herror⟩
  · rintro (hnone | ⟨path, e, hfile, herror⟩)
    · exact ⟨.noSource, .inl ⟨hnone, rfl⟩⟩
    · exact ⟨e, .inr ⟨path, hfile, herror⟩⟩

theorem content_eq_ok_iff {content : Text} :
    (ofCalls calls).content read = .ok content ↔ Gives read calls content := by
  rw [Builder.content, ofCalls_source, Gives]
  rcases lastSource calls with _ | ⟨content⟩ | ⟨path⟩ <;> simp

/-- Without a text nothing is touched. -/
theorem build_error {e : Error} (h : (ofCalls calls).content read = .error e) :
    ((ofCalls calls).build read).exec s = (.error (.error e), s) := by
  have hcontent : (Run.ofExcept ((ofCalls calls).content read) : Run σ Text).exec s =
      (.error (.error e), s) := by
    rw [h]
    rfl
  exact Run.exec_bind_error hcontent _

/-- With a text the partials are inserted, and then the text is compiled. -/
theorem build_compile {content : Text} (h : (ofCalls calls).content read = .ok content)
    (hopen : ∀ r, lastRegistry calls = some r →
      ∃ registry, s.registries[r]? = some registry ∧ registry.isOpen = true) :
    ∃ registry s₁, Store.Filled (given calls) (home calls s) s s₁ registry ∧
      ((ofCalls calls).build read).exec s =
        (Run.compile (home calls s) true (ofCalls calls).config content).exec s₁ := by
  have hcontent : (Run.ofExcept ((ofCalls calls).content read) : Run σ Text).exec s =
      (.ok content, s) := by
    rw [h]
    rfl
  rw [build, Run.exec_bind_ok hcontent, ofCalls_registry, ofCalls_partials, home]
  cases hlast : lastRegistry calls with
  | some r =>
    obtain ⟨registry, hregistry, hisOpen⟩ := hopen r hlast
    have hfilled := Store.filled_insertAll hregistry hisOpen (given calls)
    exact ⟨_, _, hfilled, Run.exec_bind_ok (Run.exec_modify _ s) _⟩
  | none =>
    have hfilled := Store.filled_newRegistry s (given calls)
    exact ⟨_, _, hfilled, Run.exec_bind_ok (Run.exec_modifyGet _ s) _⟩

/-- Compiling in a registry that holds the partials adds the blocks of the text. -/
theorem built_of_filled {given : Entries (Partial σ)} {r : RegistryId} {s₁ : Store σ}
    {registry : Registry σ} (h : Store.Filled given r s s₁ registry)
    (hfree : ∀ number ≥ s.nextNumber r,
      Block.reference number ∉ (s.entries r).names ∧ Block.reference number ∉ given.names)
    (config : Config) (content : Text) :
    ∃ t s', (Run.compile r true config content).exec s₁ = (.ok t, s') ∧
      Built given config (Extraction.ofText (s.nextNumber r) content) r s s' t := by
  obtain ⟨s', hexec, hextracted⟩ := Run.compile_open h.replaced.here h.isOpen true config content
  rw [Store.nextNumber_eq h.replaced.here, h.next] at hexec
  rw [Registry.extract, h.next] at hextracted
  refine ⟨_, s', hexec, ?_⟩
  generalize Extraction.ofText (s.nextNumber r) content = extraction at hextracted
  have hentries := Store.entries_eq hextracted.here
  have hnames : registry.entries.names = (s.entries r).names ++
      (given.names.filter fun name => name ∉ (s.entries r).names).eraseDups := by
    rw [h.entries, Entries.names_insertAll]
  have hget? (name : Text) : registry.entries.get? name =
      (Entries.get? name given.reverse).or ((s.entries r).get? name) := by
    rw [h.entries, Entries.get?_insertAll]
  have habsent {name : Text} (hname : name ∉ given.names) :
      Entries.get? name given.reverse = none := by
    rw [Entries.get?_eq_none_iff, List.map_reverse, List.mem_reverse]
    exact hname
  refine
    { template := rfl
      names := ?_
      bound := ?_
      blocks := ?_
      kept := ?_
      next := ?_
      records := ?_
      older := ?_
      others := fun r' hne => (hextracted.others r' hne).trans (h.replaced.others r' hne) }
  · have hfree' : ∀ number ≥ registry.issued.length,
        Block.reference number ∉ registry.entries.names := by
      intro number hge hmem
      rw [h.next] at hge
      obtain ⟨hold, hgiven⟩ := hfree number hge
      rw [hnames, List.mem_append, List.mem_eraseDups, List.mem_filter] at hmem
      rcases hmem with hmem | ⟨hmem, -⟩
      · exact hold hmem
      · exact hgiven hmem
    rw [hentries, Registry.names_issueAll _ _ hfree', hnames, h.next]
  · intro name entry hentry
    rw [hentries, Registry.issueAll_get?_of_ne, hget?, hentry]
    · rfl
    · rintro i - rfl
      rw [h.next, habsent (hfree _ (Nat.le_add_right ..)).2] at hentry
      cases hentry
  · intro i hi
    rw [hentries, ← h.next]
    exact Registry.issueAll_get?_reference _ _ i hi
  · intro name hname hnew
    rw [← h.next] at hnew
    rw [hentries, Registry.issueAll_get?_of_ne hnew, hget?, habsent hname, Option.none_or]
  · rw [Store.nextNumber_eq hextracted.here, Registry.issueAll_issued, List.length_append,
      List.length_map, h.next]
  · intro i
    rw [Store.issued?_eq hextracted.here, Registry.issueAll_issued, ← h.next,
      List.getElem?_append_right (Nat.le_add_right ..), Nat.add_sub_cancel_left, List.getElem?_map]
  · intro number hlt
    rw [← h.next] at hlt
    rw [Store.issued?_eq hextracted.here, Registry.issueAll_issued,
      List.getElem?_append_left hlt, h.issued]

/-- A file of a folder that cannot be read is an error of this family. -/
theorem kind_of_read {folder : Folder} {path : Text} {e : Error}
    (h : folder.read path = .error e) : e.kind = .ioError := by
  rw [Folder.read] at h
  cases hcontent : folder.content path with
  | error fault =>
    rw [hcontent] at h
    cases h
    rfl
  | ok content =>
    rw [hcontent] at h
    cases h

/-- **Building is all or nothing.** Take any calls on a builder, and let the registry that they set
last, if any, be open, as it is while the builder holds it. The build fails if and only if there is
no source or the last one is a file that cannot be read; the error says which, and the store is as
it was. Otherwise there is a template of the text, whatever it is. If no name, of before or given,
is that of a number that is still to be issued, the partials are bound behind the entries of before,
each to the last one given for its name, the blocks of the text follow, and nothing else is
different. -/
theorem build_atomic (hread : ∀ path e, read path = .error e → e.kind = .ioError)
    (calls : List (BuilderCall σ)) (s : Store σ)
    (hopen : ∀ r, lastRegistry calls = some r →
      ∃ registry, s.registries[r]? = some registry ∧ registry.isOpen = true) :
    let result := ((ofCalls calls).build read).exec s
    let r := home calls s
    ((∃ failure s', result = (.error failure, s')) ↔ lastSource calls = none ∨
      ∃ path e, lastSource calls = some (.file path) ∧ read path = .error e) ∧
    (∀ failure s', result = (.error failure, s') → s' = s ∧ ∃ e, failure = .error e ∧
      e.kind = if lastSource calls = none then .configError else .ioError) ∧
    ((∀ number ≥ s.nextNumber r, Block.reference number ∉ (s.entries r).names ∧
        Block.reference number ∉ (given calls).names) →
      ∀ t s', result = (.ok t, s') → ∃ content, Gives read calls content ∧
        Built (given calls) (ofCalls calls).config
          (Extraction.ofText (s.nextNumber r) content) r s s' t) := by
  intro result r
  rw [← exists_content_error_iff]
  cases hcontent : (ofCalls calls).content read with
  | error e =>
    have hresult : result = (.error (.error e), s) := build_error hcontent
    rw [hresult]
    refine ⟨⟨fun _ => ⟨e, rfl⟩, fun _ => ⟨_, _, rfl⟩⟩, ?_, nofun⟩
    rintro failure s' hfailed
    cases hfailed
    refine ⟨rfl, e, rfl, ?_⟩
    rcases content_eq_error_iff.mp hcontent with ⟨hnone, rfl⟩ | ⟨path, hfile, herror⟩
    · rw [if_pos hnone]
      rfl
    · rw [hfile]
      exact hread path e herror
  | ok content =>
    obtain ⟨registry, s₁, hfilled, hresult⟩ := build_compile hcontent hopen
    obtain ⟨s₂, hcompiled, -⟩ := Run.compile_open hfilled.replaced.here hfilled.isOpen true
      (ofCalls calls).config content
    have hok : result = (.ok _, s₂) := hresult.trans hcompiled
    refine ⟨⟨?_, nofun⟩, ?_, ?_⟩
    · rintro ⟨failure, s', hfailed⟩
      cases hok.symm.trans hfailed
    · intro failure s' hfailed
      cases hok.symm.trans hfailed
    · intro hfree t s' hbuilt
      obtain ⟨t', s₃, hexec, hbuilt'⟩ :=
        built_of_filled hfilled hfree (ofCalls calls).config content
      cases hbuilt.symm.trans (hresult.trans hexec)
      exact ⟨content, content_eq_ok_iff.mp hcontent, hbuilt'⟩

/-- A partial is given twice, another one is there already, and the file set first is forgotten. -/
theorem build_atomic_twice :
    let value (n : Nat) : Partial Unit := .value (Value.ofNat n)
    let s := ((Store.empty ()).newRegistry [("z".toList, value 0)]).2
    let calls : List (BuilderCall Unit) := [.withPartial "a".toList (value 1), .withRegistry 0,
      .fromFile "none".toList, .withPartials [("z".toList, value 2), ("b".toList, value 3)],
      .withPartial "a".toList (value 4), .fromText "?{x}y?{/x}".toList]
    ∃ t s', ((ofCalls calls).build (Folder.read [])).exec s = (.ok t, s') ∧
      (s'.entries 0).names =
        ["z".toList, "a".toList, "b".toList, "block_0".toList] ∧
      (s'.entries 0).get? "a".toList = some (value 4) := by
  intro value s calls
  have hopen : ∀ r, lastRegistry calls = some r →
      ∃ registry, s.registries[r]? = some registry ∧ registry.isOpen = true := by
    intro r hr
    cases hr
    exact ⟨_, rfl, rfl⟩
  have hread : ∀ path e, Folder.read [] path = .error e → e.kind = .ioError :=
    fun _ _ => kind_of_read
  obtain ⟨hfails, -, hbuilt⟩ := build_atomic hread calls s hopen
  have hfree (names : List Text) (hshort : ∀ name ∈ names, name.length = 1) (number : Nat) :
      Block.reference number ∉ names := by
    intro hmem
    have hlength := hshort _ hmem
    simp [Block.reference] at hlength
  rcases hresult : ((ofCalls calls).build (Folder.read [])).exec s with ⟨failure | t, s'⟩
  · rcases hfails.mp ⟨failure, s', hresult⟩ with hnone | ⟨path, e, hfile, -⟩
    · cases hnone
    · cases hfile
  · obtain ⟨content, hgives, hbuilt⟩ := hbuilt
      (fun number _ => ⟨hfree _ (by decide) number, hfree _ (by decide) number⟩) t s' hresult
    rcases hgives with htext | ⟨path, hfile, -⟩
    · cases htext
      exact ⟨t, s', rfl, hbuilt.names.trans (by decide), hbuilt.bound _ _ rfl⟩
    · cases hfile

end Builder

end Templating
