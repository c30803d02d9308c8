import Templating.Compilation
import Templating.Proofs.Block
import Templating.Proofs.Store

/-!
# Taking blocks out

Extraction ends with a text that has no block left. Neither the length of the text nor the number
of openings in it goes down on the way: a reference can be longer than the block that it stands
for, and it can close an opening that nothing closed before. What goes down is the number of closing
braces, since a block has two of its own and its reference has one.

* `Block.count_referenceTag_lt` — a replacement takes away a closing brace;
* `Extraction.find?_run` — so there are at most as many as there are closing braces, and no block
  is left;
* `Run.Extracted`, `Run.extract_extracted` — what an extraction does to the text and to the store.
-/

namespace Templating

namespace Block

-- ---------------------------------------------------------------------------
-- The measure
-- ---------------------------------------------------------------------------

theorem not_mem_reference {c : Char} (hdigit : c.isDigit = false) (h : c ∉ "block_".toList)
    (number : Nat) : c ∉ reference number := by
  rw [reference_eq, List.mem_append, not_or]
  refine ⟨h, fun hmem => ?_⟩
  rw [Text.isDigit_of_mem_ofNat hmem] at hdigit
  cases hdigit

theorem count_referenceTag (number : Nat) : (referenceTag number).count '}' = 1 := by
  have hreference : (reference number).count '}' = 0 :=
    List.count_eq_zero.mpr (not_mem_reference (by decide) (by decide) number)
  simp [referenceTag, hreference]

/-- A block has two closing braces around its content. -/
theorem count_content_add_two_le (b : Block) : b.content.count '}' + 2 ≤ b.text.count '}' := by
  have hopening : 1 ≤ b.opening.text.count '}' := by
    rw [Nat.succ_le_iff, List.count_pos_iff]
    simp [Opening.text]
  have hclosing : 1 ≤ b.opening.closing.count '}' := by
    rw [Nat.succ_le_iff, List.count_pos_iff]
    simp [Opening.closing]
  rw [text, List.count_append, List.count_append]
  omega

/-- A reference in place of a block leaves fewer closing braces. -/
theorem count_referenceTag_lt {t : Text} {found : Found} (h : find? t = some found)
    (number : Nat) :
    (found.before ++ referenceTag number ++ found.after).count '}' < t.count '}' := by
  obtain ⟨before, b, after⟩ := found
  obtain ⟨rfl, -, -⟩ := find?_eq_some_iff.mp h
  have htext := count_content_add_two_le b
  simp only [List.count_append, count_referenceTag]
  omega

/-- In a text in which no block begins no opening has a closing behind it. -/
theorem nowhere_begins_nil_iff {t : Text} :
    Text.Nowhere Begins t [] ↔
      ∀ before (o : Opening) rest, o.WellFormed → t = before ++ o.text ++ rest →
        ¬ o.closing <:+: rest := by
  rw [Text.nowhere_iff]
  constructor
  · rintro h before o rest hwf rfl hclosing
    have hsplit : before ++ o.text ++ rest =
        before ++ o.kind.mark :: ('{' :: (o.body ++ ['}']) ++ rest) := by
      rw [Opening.text_eq]
      simp
    refine h before o.kind.mark _ hsplit ⟨o, rest, hwf, ?_, hclosing⟩
    rw [Opening.text_eq]
    simp
  · rintro h u c v rfl ⟨o, rest, hwf, heq, hclosing⟩
    rw [List.append_nil] at heq
    exact h u o rest hwf (by rw [heq, List.append_assoc]) hclosing

-- ---------------------------------------------------------------------------
-- The two parts of a content
-- ---------------------------------------------------------------------------

/-- The tag that divides a content stands between its parts. -/
theorem branches_eq_of_split {b : Block} {onTrue onFalse : Text}
    (hcontent : b.content = onTrue ++ b.elseTag ++ onFalse)
    (hbefore : Text.Nowhere (b.elseTag <+: ·) onTrue (b.elseTag ++ onFalse))
    (hbehind : ¬ b.elseTag <:+: onFalse) : b.branches = (onTrue, some onFalse) := by
  have hfirst : Text.cutAt? b.elseTag b.content = some (onTrue, onFalse) :=
    (Text.cutAt?_eq_some_iff (Opening.text_ne_nil _)).mpr ⟨hcontent, hbefore⟩
  rw [branches, hfirst]
  simp only [Text.cutAt?_eq_none_iff.mpr hbehind]

end Block

namespace Extraction

-- ---------------------------------------------------------------------------
-- The loop
-- ---------------------------------------------------------------------------

theorem run_of_find?_eq_none {t : Text} (h : Block.find? t = none) :
    ∀ fuel number, run fuel number t = ⟨t, []⟩
  | 0, _ => rfl
  | fuel + 1, number => by rw [run, h]

theorem run_of_find?_eq_some {t : Text} {found : Block.Found} (h : Block.find? t = some found)
    (fuel number : Nat) :
    run (fuel + 1) number t =
      ⟨(run fuel (number + 1)
          (found.before ++ Block.referenceTag number ++ found.after)).residual,
        found.block :: (run fuel (number + 1)
          (found.before ++ Block.referenceTag number ++ found.after)).blocks⟩ := by
  rw [run, h]

/-- No more blocks are taken out than the loop has turns. -/
theorem length_run_le : ∀ fuel number t, (run fuel number t).blocks.length ≤ fuel
  | 0, _, _ => Nat.le_refl 0
  | fuel + 1, number, t => by
    cases h : Block.find? t with
    | none =>
      rw [run_of_find?_eq_none h]
      exact Nat.zero_le _
    | some found =>
      rw [run_of_find?_eq_some h, List.length_cons]
      exact Nat.succ_le_succ (length_run_le fuel (number + 1) _)

/-- With a turn for each closing brace the loop leaves no block. -/
theorem find?_run : ∀ {fuel : Nat} {t : Text}, t.count '}' ≤ fuel →
    ∀ number, Block.find? (run fuel number t).residual = none
  | 0, t, hfuel, number => by
    cases h : Block.find? t with
    | none =>
      rw [run_of_find?_eq_none h]
      exact h
    | some found =>
      have hless := Block.count_referenceTag_lt h number
      omega
  | fuel + 1, t, hfuel, number => by
    cases h : Block.find? t with
    | none =>
      rw [run_of_find?_eq_none h]
      exact h
    | some found =>
      have hless := Block.count_referenceTag_lt h number
      rw [run_of_find?_eq_some h]
      exact find?_run (by omega) (number + 1)

/-- The loop has ended by itself: more turns give the same. -/
theorem run_eq_run : ∀ {fuel fuel' : Nat} {t : Text}, t.count '}' ≤ fuel → t.count '}' ≤ fuel' →
    ∀ number, run fuel number t = run fuel' number t
  | fuel, fuel', t, hfuel, hfuel', number => by
    cases h : Block.find? t with
    | none => rw [run_of_find?_eq_none h, run_of_find?_eq_none h]
    | some found =>
      have hless := Block.count_referenceTag_lt h number
      obtain ⟨left, rfl⟩ : ∃ left, fuel = left + 1 := ⟨fuel - 1, by omega⟩
      obtain ⟨left', rfl⟩ : ∃ left', fuel' = left' + 1 := ⟨fuel' - 1, by omega⟩
      have hrest : run left (number + 1)
            (found.before ++ Block.referenceTag number ++ found.after) =
          run left' (number + 1) (found.before ++ Block.referenceTag number ++ found.after) :=
        run_eq_run (by omega) (by omega) (number + 1)
      rw [run_of_find?_eq_some h, run_of_find?_eq_some h, hrest]

theorem length_ofText_le (number : Nat) (t : Text) :
    (ofText number t).blocks.length ≤ t.count '}' :=
  length_run_le _ number t

theorem find?_ofText (number : Nat) (t : Text) :
    Block.find? (ofText number t).residual = none :=
  find?_run (Nat.le_refl _) number

theorem ofText_of_find?_eq_none {t : Text} (h : Block.find? t = none) (number : Nat) :
    ofText number t = ⟨t, []⟩ :=
  run_of_find?_eq_none h _ number

end Extraction

namespace Run

-- ---------------------------------------------------------------------------
-- The store
-- ---------------------------------------------------------------------------

variable {σ : Type}

/-- Extraction never fails; it issues the blocks that it takes out. -/
theorem extract_exec (r : RegistryId) (config : Config) (content : Text) (s : Store σ) :
    (extract r config content).exec s =
      (.ok (Extraction.ofText (s.nextNumber r) content),
        s.issueAll r config (Extraction.ofText (s.nextNumber r) content).blocks) := by
  rw [extract, exec_bind_ok (exec_get s), exec_bind_ok (exec_modify _ s)]
  rfl

/-- A text without blocks compiles to a template of itself, and nothing changes. -/
theorem compile_plain {r : RegistryId} {s : Store σ} {registry : Registry σ}
    (hopen : s.open? r = some registry) {content : Text} (hplain : Block.find? content = none)
    (ownsRegistry : Bool) (config : Config) :
    (compile r ownsRegistry config content).exec s =
      (.ok ⟨content, r, ownsRegistry, config⟩, s) := by
  rw [compile, exec_bind_ok (exec_requireOpen hopen), exec_bind_ok (extract_exec ..),
    Extraction.ofText_of_find?_eq_none hplain]
  rfl

/-- Against an open registry every text compiles. What happens beside the extraction is an event. -/
theorem compile_exec {r : RegistryId} {s : Store σ} {registry : Registry σ}
    (hopen : s.open? r = some registry) (ownsRegistry : Bool) (config : Config) (content : Text) :
    ∃ s', (compile r ownsRegistry config content).exec s =
        (.ok ⟨(Extraction.ofText (s.nextNumber r) content).residual, r, ownsRegistry, config⟩,
          s') ∧
      s'.registries =
        (s.issueAll r config (Extraction.ofText (s.nextNumber r) content).blocks).registries := by
  rw [compile, exec_bind_ok (exec_requireOpen hopen), exec_bind_ok (extract_exec ..)]
  split
  · exact ⟨_, rfl, rfl⟩
  · exact ⟨_, rfl, rfl⟩

/-- Against a closed one none does. -/
theorem compile_closed {r : RegistryId} {s : Store σ} (hclosed : s.open? r = none)
    (ownsRegistry : Bool) (config : Config) (content : Text) :
    (compile r ownsRegistry config content).exec s = (.error (.error .registryDropped), s) :=
  exec_bind_error (exec_requireOpen_closed hclosed) _

/-- What an extraction from `content` that started in `s` has done when it leaves `s'`. -/
structure Extracted (r : RegistryId) (content : Text) (s s' : Store σ) (e : Extraction) :
    Prop where
  /-- There are at most as many blocks as closing braces. -/
  bound : e.blocks.length ≤ content.count '}'
  /-- The search has ended by itself; more turns of it would give the same. -/
  ended : ∀ fuel ≥ content.count '}', Extraction.run fuel (s.nextNumber r) content = e
  /-- No opening that is left has a closing behind it. -/
  free : ∀ before (o : Opening) rest, o.WellFormed → e.residual = before ++ o.text ++ rest →
    ¬ o.closing <:+: rest
  /-- A second extraction takes out nothing and changes nothing. -/
  again : ∀ config, (extract r config e.residual).exec s' = (.ok ⟨e.residual, []⟩, s')
  /-- Each block takes one number. -/
  next : s'.nextNumber r = s.nextNumber r + e.blocks.length
  /-- The entries of all names but those of the new numbers are the same, in the same order. -/
  entries : ∀ keep : Text → Bool,
    (∀ number, s.nextNumber r ≤ number → number < s'.nextNumber r →
      keep (Block.reference number) = false) →
    (s'.entries r).filter (fun entry => keep entry.1) =
      (s.entries r).filter fun entry => keep entry.1
  /-- So each of these names has the entry that it had. -/
  get? : ∀ name, (∀ number, s.nextNumber r ≤ number → number < s'.nextNumber r →
      name ≠ Block.reference number) → (s'.entries r).get? name = (s.entries r).get? name
  /-- The blocks issued before keep their records. -/
  issued : ∀ number < s.nextNumber r, s'.issued? ⟨r, number⟩ = s.issued? ⟨r, number⟩
  /-- No other registry changes. -/
  others : ∀ r' ≠ r, s'.registries[r']? = s.registries[r']?

/-- **Extraction settles.** Whatever the text, and whatever is registered already, extraction
succeeds and leaves a text without blocks. -/
theorem extract_extracted {r : RegistryId} {s : Store σ} {registry : Registry σ}
    (h : s.registries[r]? = some registry) (config : Config) (content : Text) :
    ∃ e s', (extract r config content).exec s = (.ok e, s') ∧ Extracted r content s s' e := by
  refine ⟨_, _, extract_exec r config content s, ?_⟩
  generalize he : Extraction.ofText (s.nextNumber r) content = e
  have hnext := Store.nextNumber_issueAll h config e.blocks
  have hfind : Block.find? e.residual = none := he ▸ Extraction.find?_ofText _ content
  refine
    { bound := he ▸ Extraction.length_ofText_le _ content
      ended := fun fuel hfuel => he ▸ Extraction.run_eq_run hfuel (Nat.le_refl _) _
      free := Block.nowhere_begins_nil_iff.mp (Block.find?_eq_none_iff.mp hfind)
      again := ?_
      next := hnext
      entries := ?_
      get? := ?_
      issued := fun number hlt => Store.issued?_issueAll_of_lt h config e.blocks hlt
      others := fun r' hr' => Store.issueAll_other hr' e.blocks s }
  · intro config'
    rw [extract_exec, Extraction.ofText_of_find?_eq_none hfind]
    rfl
  · intro keep hkeep
    refine Store.entries_issueAll_filter h config e.blocks fun i hi => hkeep _ ?_ ?_
    · omega
    · omega
  · intro name hname
    refine Store.get?_issueAll_of_ne h config e.blocks fun i hi => hname _ ?_ ?_
    · omega
    · omega

/-- One block of two is taken out, because the other is never closed: `#{a}?{b}x?{/b}`. -/
theorem extract_extracted_unclosed :
    let content := "#{a}?{b}x?{/b}".toList
    ((Store.empty ()).newRegistry []).2.registries[0]? = some ⟨[], [], true⟩ ∧
      ∃ e s', (extract 0 Config.default content).exec ((Store.empty ()).newRegistry []).2 =
          (.ok e, s') ∧
        Extracted 0 content ((Store.empty ()).newRegistry []).2 s' e :=
  ⟨rfl, extract_extracted rfl Config.default _⟩

end Run

end Templating
