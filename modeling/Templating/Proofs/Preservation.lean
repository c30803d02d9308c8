import Templating.Proofs.Building
import Templating.Proofs.Tidy

/-!
# Registries stay tidy

Documents are compiled against a registry, and nodes are rendered, whatever they are, with whatever
parameters and at whatever depth, and whether they succeed or fail. A registry that was tidy is tidy
afterwards, and templates that were compiled before are still compiled; so it is with the registry
that the documents are compiled against, and with every other one. Values may bring tags that refer
to blocks by their numbers; such a tag finds a block of a document or nothing.

* `Store.LeadsTo` — the stores that are reached on the way;
* `LeadsTo.render` — what is rendered reaches no other;
* `LeadsTo.follows` — in all of them a tidy registry is tidy.
-/

namespace Templating

variable {σ : Type} {r r' : RegistryId} {partials : Entries (Partial σ)}

/-- The stores that a store leads to while documents are compiled against a registry and anything is
rendered. Blocks are built, in any registry, and what is not kept in registries may be anything. -/
inductive Store.LeadsTo (r : RegistryId) (start : Store σ) : Store σ → Prop
  | start : LeadsTo r start start
  | same {s s' : Store σ} : LeadsTo r start s → s'.registries = s.registries → LeadsTo r start s'
  | build {s : Store σ} (b : BlockId) : LeadsTo r start s →
      LeadsTo r start ((Run.build b).exec s).2
  | compile {s : Store σ} {doc : Document} (ownsRegistry : Bool) (config : Config) :
      LeadsTo r start s → doc.WellFormed →
      LeadsTo r start ((Run.compile r ownsRegistry config doc.source).exec s).2

/-- Building a block of a tidy registry leaves it tidy, and so does building one of another. -/
theorem Tidy.build {s : Store σ} (h : Tidy r partials s) (b : BlockId) :
    Follows r partials s ((Run.build b).exec s).2 := by
  obtain ⟨r', number⟩ := b
  by_cases hr : r = r'
  · subst hr
    cases hissued : s.issued? ⟨r, number⟩ with
    | none =>
      have hfails : (Run.build ⟨r, number⟩).exec s = (.error (.error .registryDropped), s) := by
        rw [Run.build, Run.exec_bind_ok (Run.exec_get s), hissued]
        rfl
      rw [hfails]
      exact h.follows
    | some record =>
      obtain ⟨node, s', hexec, hfollows, -⟩ := Run.build_spec h hissued
      rw [hexec]
      exact hfollows
  · rcases Run.build_cases ⟨r', number⟩ s with ⟨hsame, -⟩ | ⟨_, _, _, -, -, -, hreplaced⟩
    · exact h.of_same (by rw [hsame])
    · exact h.of_same (hreplaced.others r hr)

/-- Compiling a document against a registry leaves it tidy, and so does compiling one against
another. -/
theorem Tidy.compile {s : Store σ} (h : Tidy r' partials s) (r : RegistryId) {doc : Document}
    (hdoc : doc.WellFormed) (ownsRegistry : Bool) (config : Config) :
    Follows r' partials s ((Run.compile r ownsRegistry config doc.source).exec s).2 := by
  by_cases hr : r' = r
  · subst hr
    obtain ⟨t, s', hexec, hfollows, -⟩ := Run.compile_spec h hdoc ownsRegistry config
    rw [hexec]
    exact hfollows
  · cases hopen : s.open? r with
    | none =>
      rw [Run.compile_closed hopen]
      exact h.follows
    | some registry =>
      obtain ⟨s', hexec, hsame⟩ := Run.compile_exec hopen ownsRegistry config doc.source
      rw [hexec]
      exact h.of_same (by rw [hsame, Store.issueAll_other hr])

namespace Store.LeadsTo

variable {s s' s'' : Store σ}

theorem trans (h : s.LeadsTo r s') (h' : s'.LeadsTo r s'') : s.LeadsTo r s'' := by
  induction h' with
  | start => exact h
  | same _ hsame ih => exact ih.same hsame
  | build b _ ih => exact ih.build b
  | compile ownsRegistry config _ hdoc ih => exact ih.compile ownsRegistry config hdoc

theorem spans (r : RegistryId) : Spans fun s s' : Store σ => s.LeadsTo r s' where
  trans := trans
  same := fun hsame => .same .start hsame
  build := fun b _ => .build b .start

theorem render (r : RegistryId) (depth : Nat) (node : Node σ) (params : Value) (s : Store σ) :
    s.LeadsTo r ((node.render depth params).exec s).2 :=
  Node.within_render (spans r) depth node params s

/-- **A registry stays tidy**, whichever it is. -/
theorem follows (h : s.LeadsTo r s') (htidy : Tidy r' partials s) : Follows r' partials s s' := by
  induction h with
  | start => exact htidy.follows
  | same _ hsame ih => exact ih.trans (ih.tidy.of_same (by rw [hsame]))
  | build b _ ih => exact ih.trans (ih.tidy.build b)
  | compile ownsRegistry config _ hdoc ih =>
    exact ih.trans (ih.tidy.compile r hdoc ownsRegistry config)

theorem tidy (h : s.LeadsTo r s') (htidy : Tidy r' partials s) : Tidy r' partials s' :=
  (h.follows htidy).tidy

/-- What was made from a document before is made from it still. -/
theorem compiled (h : s.LeadsTo r s') (htidy : Tidy r' partials s) {config : Config}
    {text : Text} {t : Template} (ht : Compiled s r' config text t) :
    Compiled s' r' config text t :=
  ht.mono (h.follows htidy).grows

end Store.LeadsTo

end Templating
