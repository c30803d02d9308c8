import Mathlib.Data.List.TakeWhile
import Templating.Proofs.Block.Alternatives
import Templating.Proofs.Building
import Templating.Proofs.Caching
import Templating.Proofs.Leniency
import Templating.Proofs.Reference
import Templating.Proofs.Tag.Lines

/-!
# Two ways to indent

    _{name:4}%{x}_{/name}            ␣␣␣␣%{x}

A block indents every line of what is inside it; a tag that stands behind an indent indents every
line of its value but the first. The two texts take different ways. The block is taken out and
rendered as a template of its own, its output is indented, and that is put in place of the tag that
refers to the block, where it is searched for tags once more. The other text is rendered in one
pass. As indenting makes no tags, the outputs are the same.

* `Block.indentCount_ofNat` — a count is read back as it was written;
* `IndentedTag` — an indent and a name of a block that the grammar allows;
* `IndentedTag.renderTags_tag` — the tag behind an indent;
* `IndentedTag.Holds` — a store that has the block, built or not;
* `Node.render_indented` — an indented node inside another;
* `IndentedTag.render_indents` — the two texts, in every sequence of renderings.
-/

namespace Templating

variable {σ : Type}

-- ---------------------------------------------------------------------------
-- Counts
-- ---------------------------------------------------------------------------

theorem Text.isWhiteSpace_of_isDigit {c : Char} (h : isDigit c = true) :
    isWhiteSpace c = false := by
  rw [isDigit, Bool.and_eq_true, decide_eq_true_eq, decide_eq_true_eq, Char.le_def, Char.le_def,
    UInt32.le_iff_toNat_le, UInt32.le_iff_toNat_le] at h
  have hlow : 48 ≤ c.toNat := h.1
  have hhigh : c.toNat ≤ 57 := h.2
  unfold isWhiteSpace
  simp only [Bool.or_eq_false_iff, Bool.and_eq_false_iff, decide_eq_false_iff_not,
    beq_eq_false_iff_ne]
  omega

/-- A count below the limit is read back as it was written. -/
theorem Block.indentCount_ofNat {count : Nat} (h : count < Text.indexLimit) :
    indentCount (Text.ofNat count) = count := by
  obtain ⟨hne, hdigits⟩ := Text.decimal_ofNat count
  have hread := Text.natOfDigits_ofNat count
  rw [indentCount]
  generalize Text.ofNat count = digits at hne hdigits hread
  obtain ⟨c, rest, rfl⟩ := List.exists_cons_of_ne_nil hne
  have hc := hdigits c (List.mem_cons_self ..)
  have htrim : Text.trimStart (c :: rest) = c :: rest := by
    rw [Text.trimStart, List.dropWhile_cons_of_neg]
    rw [Text.isWhiteSpace_of_isDigit hc]
    exact Bool.false_ne_true
  have htake : (c :: rest).takeWhile Text.isDigit = c :: rest :=
    List.takeWhile_eq_self_iff.mpr hdigits
  rw [htrim]
  -- a digit is no sign
  split
  · next heq =>
    obtain ⟨rfl, -⟩ := List.cons.inj heq
    cases hc
  · next heq =>
    obtain ⟨rfl, -⟩ := List.cons.inj heq
    cases hc
  · simp only [htake, hread]
    exact if_pos h

-- ---------------------------------------------------------------------------
-- Indented nodes
-- ---------------------------------------------------------------------------

theorem Node.render_indented (unit : IndentUnit) (count : Nat) (body : Node σ) (depth : Nat)
    (params : Value) :
    (Node.indented unit count body).render depth params = (do
      let output ← body.render depth params
      return Text.indentLines (unit.repeated count) output) := by
  rw [render_eq, renderVia]

theorem IndentUnit.blank_repeated (unit : IndentUnit) (count : Nat) :
    Text.Blank (unit.repeated count) := by
  intro c hc
  rw [List.eq_of_mem_replicate hc]
  cases unit <;> rfl

/-- An indented node inside another is one with both indents. -/
theorem Node.render_indented_indented (outer inner : IndentUnit) (count count' : Nat)
    (body : Node σ) (depth : Nat) (params : Value) :
    (Node.indented outer count (.indented inner count' body)).render depth params = (do
      let output ← body.render depth params
      return Text.indentLines (outer.repeated count ++ inner.repeated count') output) := by
  rw [render_indented, render_indented, bind_assoc]
  congr 1
  funext output
  rw [pure_bind, Text.indentLines_indentLines (inner.blank_repeated count').newline_not_mem]

-- ---------------------------------------------------------------------------
-- The two texts
-- ---------------------------------------------------------------------------

/-- The kind of the blocks that indent by a unit. -/
def IndentUnit.kind : IndentUnit → BlockKind
  | space => .spaceIndented
  | tab => .tabIndented

/-- An indent, and a name of a block that the grammar allows. -/
structure IndentedTag where
  unit : IndentUnit
  count : Nat
  name : Text
  count_lt : count < Text.indexLimit
  name_colon : ':' ∉ name
  name_brace : '}' ∉ name
  name_bang : name.head? ≠ some '!'

namespace IndentedTag

/-- The tag `%{x}`. -/
def tag : Tag := ⟨false, "x".toList, none⟩

variable (e : IndentedTag)

/-- The indent. -/
def indent : Text := e.unit.repeated e.count

/-- The tag inside a block, as in `_{name:4}%{x}_{/name}`. -/
def blockText : Text :=
  e.unit.kind.mark :: '{' :: (e.name ++ ':' :: Text.ofNat e.count ++ ['}'] ++ tag.text ++
    e.unit.kind.mark :: '{' :: '/' :: (e.name ++ ['}']))

/-- The tag behind the indent. -/
def plainText : Text := e.indent ++ tag.text

/-- The opening of the block. -/
def opening : Opening :=
  ⟨e.unit.kind, false, e.name ++ ':' :: Text.ofNat e.count, e.name⟩

/-- The block. -/
def block : Block := e.opening.block tag.text

theorem blockText_eq : e.blockText = e.block.text := by
  show _ = e.opening.text ++ tag.text ++ e.opening.closing
  rw [blockText, Opening.text, Opening.closing]
  simp [opening]

theorem wellFormed_opening : e.opening.WellFormed := by
  have hdigits := Text.decimal_ofNat e.count
  refine ⟨?_, e.name_colon, .inr ⟨_, hdigits.1, rfl⟩, fun _ => ?_⟩
  · have hbrace := hdigits.not_mem (show Text.isDigit '}' = false by decide)
    show '}' ∉ e.name ++ ':' :: Text.ofNat e.count
    simp [e.name_brace, hbrace]
  · have hbang := e.name_bang
    show (e.name ++ ':' :: Text.ofNat e.count).head? ≠ some '!'
    cases hname : e.name with
    | nil => exact fun h => absurd (Option.some.inj h) (by decide)
    | cons c rest =>
      rw [hname] at hbang
      exact hbang

theorem wellFormed_block : e.block.WellFormed := by
  refine ⟨e.wellFormed_opening, rfl, ?_⟩
  obtain ⟨init, hinit, hclosing⟩ := Opening.closing_eq_append e.wellFormed_opening
  have hno : ¬ e.opening.closing <:+: tag.text := by
    intro hoccurs
    have hmem : e.unit.kind.mark ∈ tag.text := hoccurs.subset (List.mem_cons_self ..)
    revert hmem
    cases e.unit <;> decide
  rw [hclosing] at hno
  show Text.Nowhere (e.opening.closing <+: ·) tag.text e.opening.closing
  rw [hclosing]
  exact Text.nowhere_of_last hinit hno

theorem find?_tag : Block.find? tag.text = none := by decide

theorem blank_indent : Text.Blank e.indent := e.unit.blank_repeated e.count

theorem find?_plainText : Block.find? e.plainText = none := by
  have hbefore : Text.Nowhere Text.Bracing e.indent (tag.text ++ []) :=
    Text.nowhere_bracing (by decide) (e.blank_indent.not_mem rfl)
  exact Block.find?_eq_none_iff.mpr (Text.nowhere_append.mpr
    ⟨hbefore.mono fun _ h => h.marked.bracing, Block.find?_eq_none_iff.mp find?_tag⟩)

/-- The parameter is the count. -/
theorem param_block : e.block.param.elim 0 Block.indentCount = e.count := by
  have hcolon := (Text.decimal_ofNat e.count).not_mem (show Text.isDigit ':' = false by decide)
  have hparam : e.opening.param = some (Text.ofNat e.count) := by
    show (Text.cut? ':' (e.name ++ ':' :: Text.ofNat e.count)).map _ = _
    rw [Text.cut?_append e.name_colon, Option.map_some]
    simp only [Text.cut?_eq_none_iff.mpr hcolon]
  show e.opening.param.elim 0 Block.indentCount = e.count
  rw [hparam]
  exact Block.indentCount_ofNat e.count_lt

-- ---------------------------------------------------------------------------
-- The tag behind an indent
-- ---------------------------------------------------------------------------

variable {indent text : Text} {params : Value}

theorem wellFormed_tag : tag.WellFormed := ⟨by decide, by decide, fun _ h => by cases h⟩

/-- Behind an indent the tag is the first one. -/
theorem firstBehind_tag (hindent : Text.Blank indent) :
    tag.FirstBehind indent (indent ++ tag.text) :=
  Tag.find?_iff_firstBehind.mp ⟨[], Tag.find?_eq_some_iff.mpr
    ⟨(List.append_nil _).symm, wellFormed_tag, Tag.nowhere_begins_blank _ hindent⟩⟩

theorem replaceAll_tag (hindent : Text.Blank indent) (value : Text) :
    Text.replaceAll tag.text value (indent ++ tag.text) = indent ++ value := by
  have hbefore : Text.Nowhere (tag.text <+: ·) indent tag.text :=
    (Tag.nowhere_begins_blank tag.text hindent).mono fun _ h => ⟨tag, wellFormed_tag, h⟩
  have hwhole := Text.replaceAll_prefix tag.text_ne_nil value []
  rw [List.append_nil] at hwhole
  rw [Text.replaceAll_append_of_nowhere value hbefore, hwhole]
  exact congrArg (indent ++ ·) (List.append_nil value)

theorem trailingIndent_blank (hindent : Text.Blank indent) :
    Text.trailingIndent indent = indent := by
  have hreverse : ∀ c ∈ indent.reverse, Text.isIndent c = true := fun c hc =>
    hindent c (List.mem_reverse.mp hc)
  rw [Text.trailingIndent, Text.indentOfReversed, List.takeWhile_eq_self_iff.mpr hreverse,
    List.reverse_reverse]

/-- **Behind an indent** the value takes the place of the tag, and every line but the first follows
the indent, so that every line stands behind it. -/
theorem renderTags_tag (hindent : Text.Blank indent) {config : Config}
    (hpasses : 1 ≤ config.maxPasses)
    (hvalue : Value.resolve? "x".toList params = some (.string text))
    (hfree : ∀ (tag : Tag) i, ¬ tag.StandsAt text i) (below : Node σ → Value → Run σ Text)
    (r : RegistryId) (s : Store σ) :
    (Run.renderTags below r config (indent ++ tag.text) params).exec s =
      (.ok (Text.indentLines indent text), s) := by
  have hlookup : (Run.lookup below r params tag.path).exec s = (.ok (some (.string text)), s) := by
    rw [Run.lookup_of_head (by decide), show tag.path = "x".toList from rfl, hvalue]
  have heval : (Run.evaluateTag (Run.lookup below r params) config tag
      (Text.trailingIndent indent)).exec s = (.ok (Text.indentContinuation indent text), s) := by
    rw [Run.evaluateTag_exec hlookup, trailingIndent_blank hindent]
    rfl
  have hfree' := Tag.free_indentLines hindent hfree
  have hself : ¬ tag.text <:+: Text.indentContinuation indent text := fun hoccurs =>
    Tag.not_infix_of_free hfree' wellFormed_tag
      (hoccurs.trans (List.suffix_append indent _).isInfix)
  obtain ⟨left, hleft⟩ : ∃ left, config.maxPasses = left + 1 := ⟨config.maxPasses - 1, by omega⟩
  refine Run.renderTags_iff_settles.mpr ?_
  rw [hleft]
  refine .pass (firstBehind_tag hindent) heval hself ?_
  rw [replaceAll_tag hindent]
  exact .done hfree'

-- ---------------------------------------------------------------------------
-- The block
-- ---------------------------------------------------------------------------

/-- The node of the block: a template that is the tag, indented. -/
def node (config : Config) (r : RegistryId) : Node σ :=
  .indented e.unit e.count (.template ⟨tag.text, r, false, config⟩)

/-- The store has the block on record, in a registry that is open, with its node if it is built. -/
structure Holds (config : Config) (b : BlockId) (identity : Option Nat) (s : Store σ) : Prop where
  record : s.issued? b = some ⟨e.block, config, identity.map (⟨·, e.node config b.registry⟩)⟩
  entry : (s.entries b.registry).get? (Block.reference b.number) = some (.deferred b)
  isOpen : ∃ registry, s.open? b.registry = some registry

variable {e} {config : Config} {b : BlockId} {identity : Option Nat} {r : RegistryId} {s : Store σ}
  {registry : Registry σ}

theorem holds_issue (hopen : s.open? r = some registry) (config : Config) :
    e.Holds config ⟨r, s.nextNumber r⟩ none
      ((s.issue r config e.block).emit (.extractedAll 1)) := by
  obtain ⟨hregistry, hisOpen⟩ := Option.filter_eq_some_iff.mp hopen
  refine ⟨Store.issued?_issueAll_add hregistry config [e.block] 0,
    Store.get?_issueAll_add hregistry config [e.block] Nat.one_pos, ?_⟩
  exact ⟨_, Store.open?_eq (Store.issueAll_registry [e.block] hregistry)
    ((Registry.issueAll_isOpen [e.block] registry).trans hisOpen)⟩

theorem buildNode_block (hopen : s.open? r = some registry) (config : Config) :
    (Run.buildNode r config e.block).exec s =
      (.ok ⟨s.identities, e.node config r⟩, (s.share (e.node config r : Node σ)).2) := by
  have hkind : e.block.kind = e.unit.kind := rfl
  have hbody : (Run.nested r config e.block.content).exec s =
      (.ok (.template ⟨tag.text, r, false, config⟩), s) :=
    Run.nested_plain hopen find?_tag config
  rw [Run.buildNode, hkind]
  cases hunit : e.unit with
  | space =>
    simp only [IndentUnit.kind]
    rw [Run.exec_bind_ok hbody, e.param_block, node, hunit]
    rfl
  | tab =>
    simp only [IndentUnit.kind]
    rw [Run.exec_bind_ok hbody, e.param_block, node, hunit]
    rfl

/-- A build gives the node of the block, and leaves the block built. -/
theorem Holds.build (h : e.Holds config b identity s) :
    ∃ i s', (Run.build b).exec s = (.ok ⟨i, e.node config b.registry⟩, s') ∧
      e.Holds config b (some i) s' := by
  obtain ⟨r, number⟩ := b
  obtain ⟨registry, hopen⟩ := h.isOpen
  cases identity with
  | some i =>
    refine ⟨i, s, ?_, h⟩
    rw [Run.build, Run.exec_bind_ok (Run.exec_get s), h.record]
    rfl
  | none =>
    let started := s.emit (.building e.block.kind e.block.placeholder)
    let made := (started.share (e.node config r : Node σ)).2
    have hbuild : (Run.build ⟨r, number⟩).exec s = (.ok ⟨s.identities, e.node config r⟩,
        made.memoize ⟨r, number⟩ ⟨s.identities, e.node config r⟩) := by
      rw [Run.build, Run.exec_bind_ok (Run.exec_get s), h.record]
      simp only [Option.map_none]
      rw [Run.exec_bind_ok (Run.exec_emit ..)]
      exact Run.exec_bind_ok (buildNode_block (s := started) hopen config) _
    obtain ⟨hregistry, hisOpen⟩ := Option.filter_eq_some_iff.mp hopen
    have hmade : made.registries[r]? = some registry := hregistry
    refine ⟨_, _, hbuild, ?_, ?_, ?_⟩
    · rw [Store.issued?_memoize_self hmade]
      exact congrArg (Option.map _) h.record
    · rw [Store.entries_memoize hmade]
      exact h.entry
    · exact ⟨_, Store.open?_eq (Store.memoize_registry hmade ..) hisOpen⟩

-- ---------------------------------------------------------------------------
-- Renderings
-- ---------------------------------------------------------------------------

/-- Rendering the reference to the block gives the indented text, and leaves the block built. -/
theorem Holds.render (h : e.Holds config b identity s) (hpasses : 1 ≤ config.maxPasses)
    (hvalue : Value.resolve? "x".toList params = some (.string text))
    (hfree : ∀ (tag : Tag) i, ¬ tag.StandsAt text i) (ownsRegistry : Bool) (depth : Nat) :
    ∃ i s', ((Node.template ⟨Block.referenceTag b.number, b.registry, ownsRegistry,
        config⟩).render (depth + 1) params).exec s = (.ok (Text.indentLines e.indent text), s') ∧
      e.Holds config b (some i) s' := by
  obtain ⟨registry, hopen⟩ := h.isOpen
  obtain ⟨i, s', hbuild, hbuilt⟩ := h.build
  obtain ⟨registry', hopen'⟩ := hbuilt.isOpen
  have hself : Text.indentLines [] text = text := Text.indentContinuation_nil text
  have hbody : ((Node.template ⟨tag.text, b.registry, false, config⟩).render depth params).exec s' =
      (.ok text, s') := by
    rw [Node.render_template hopen', ← hself]
    exact renderTags_tag (fun c hc => absurd hc List.not_mem_nil) hpasses hvalue hfree ..
  have hnode : ((e.node config b.registry : Node σ).render depth params).exec s' =
      (.ok (Text.indentLines e.indent text), s') := by
    rw [node, Node.render_indented, Run.exec_bind_ok hbody]
    rfl
  have hwhole := Run.renderTags_reference h.entry hbuild config hnode
    (Tag.free_indentLines e.blank_indent hfree)
  rw [if_neg (by omega)] at hwhole
  refine ⟨i, s', ?_, hbuilt⟩
  rw [Node.render_template hopen]
  exact hwhole

/-- The parameters give a text for `x`, and no tag stands in it. -/
structure Gives (params : Value) (text : Text) : Prop where
  value : Value.resolve? "x".toList params = some (.string text)
  free : ∀ (tag : Tag) i, ¬ tag.StandsAt text i

/-- The outcomes for texts: each indented. -/
def outcomes (e : IndentedTag) (sequence : List (Value × Text)) : List (Except Failure Text) :=
  sequence.map fun call => .ok (Text.indentLines e.indent call.2)

theorem renderEach_block (hpasses : 1 ≤ config.maxPasses) (ownsRegistry : Bool) (depth : Nat) :
    ∀ {sequence : List (Value × Text)} {identity : Option Nat} {s : Store σ},
      (∀ call ∈ sequence, Gives call.1 call.2) → e.Holds config b identity s →
      (Node.template ⟨Block.referenceTag b.number, b.registry, ownsRegistry, config⟩).renderEach
        (depth + 1) (sequence.map Prod.fst) s = e.outcomes sequence
  | [], _, _, _, _ => rfl
  | call :: sequence, _, _, hgives, h => by
    obtain ⟨hvalue, hfree⟩ := hgives call (List.mem_cons_self ..)
    obtain ⟨i, s', hrender, hbuilt⟩ := h.render hpasses hvalue hfree ownsRegistry depth
    rw [List.map_cons, Node.renderEach, hrender, renderEach_block hpasses ownsRegistry depth
      (fun call hcall => hgives call (List.mem_cons_of_mem _ hcall)) hbuilt]
    rfl

theorem renderEach_plain (hpasses : 1 ≤ config.maxPasses) (ownsRegistry : Bool) (depth : Nat)
    (hopen : s.open? r = some registry) : ∀ {sequence : List (Value × Text)},
      (∀ call ∈ sequence, Gives call.1 call.2) →
      (Node.template ⟨e.plainText, r, ownsRegistry, config⟩).renderEach depth
        (sequence.map Prod.fst) s = e.outcomes sequence
  | [], _ => rfl
  | call :: sequence, hgives => by
    obtain ⟨hvalue, hfree⟩ := hgives call (List.mem_cons_self ..)
    have hrender : ((Node.template ⟨e.plainText, r, ownsRegistry, config⟩).render depth
        call.1).exec s = (.ok (Text.indentLines e.indent call.2), s) := by
      rw [Node.render_template hopen]
      exact renderTags_tag e.blank_indent hpasses hvalue hfree ..
    rw [List.map_cons, Node.renderEach, hrender, renderEach_plain hpasses ownsRegistry depth hopen
      fun call hcall => hgives call (List.mem_cons_of_mem _ hcall)]
    rfl

end IndentedTag

/-- **The two ways to indent agree.** Compiled against an open registry, from one state and with the
same options, which allow at least one pass, the tag `%{x}` in an indented block and the tag behind
the same indent have, in every sequence of renderings, the same outcomes: each text that is given
for `x` and that no tag stands in, indented. That is the indent and the line for every line of the
text, empty lines and the last one too, so that the text comes back when as many characters of each
line are taken away. Indented nodes inside each other are one that puts the outer indent and then
the inner one before every line. -/
theorem IndentedTag.render_indents (e : IndentedTag) {s : Store σ} {r : RegistryId}
    {registry : Registry σ} (hopen : s.open? r = some registry) (ownsRegistry : Bool)
    {config : Config} (hpasses : 1 ≤ config.maxPasses) :
    (∃ (t t' : Template) (s₁ : Store σ),
      (Run.compile r ownsRegistry config e.blockText).exec s = (.ok t, s₁) ∧
      (Run.compile r ownsRegistry config e.plainText).exec s = (.ok t', s) ∧
      ∀ depth (sequence : List (Value × Text)), (∀ call ∈ sequence, Gives call.1 call.2) →
        (Node.template t).renderEach (depth + 1) (sequence.map Prod.fst) s₁ =
          sequence.map (fun call => .ok (Text.indentLines e.indent call.2)) ∧
        (Node.template t').renderEach (depth + 1) (sequence.map Prod.fst) s =
          sequence.map (fun call => .ok (Text.indentLines e.indent call.2))) ∧
    (∀ text, Text.splitOn '\n' (Text.indentLines e.indent text) =
        (Text.splitOn '\n' text).map (e.indent ++ ·) ∧
      ['\n'].intercalate
        ((Text.splitOn '\n' (Text.indentLines e.indent text)).map (List.drop e.count)) = text) ∧
    ∀ (outer inner : IndentUnit) (count count' : Nat),
      let indent := outer.repeated count ++ inner.repeated count'
      (∀ (body : Node σ) (depth : Nat) (params : Value),
        (Node.indented outer count (.indented inner count' body)).render depth params = (do
          let output ← body.render depth params
          return Text.indentLines indent output)) ∧
      ∀ output, Text.splitOn '\n' (Text.indentLines indent output) =
        (Text.splitOn '\n' output).map (indent ++ ·) := by
  have hline := e.blank_indent.newline_not_mem
  have hlength : e.indent.length = e.count := List.length_replicate
  have hcompile := Run.compile_block e.wellFormed_block hopen ownsRegistry config
  rw [← e.blockText_eq] at hcompile
  refine ⟨⟨_, _, _, hcompile, Run.compile_plain hopen e.find?_plainText ownsRegistry config,
    fun depth sequence hgives => ⟨?_, ?_⟩⟩, fun text => ⟨Text.splitOn_indentLines hline text, ?_⟩,
    fun outer inner count count' => ⟨Node.render_indented_indented outer inner count count', ?_⟩⟩
  · exact renderEach_block hpasses ownsRegistry depth hgives (holds_issue hopen config)
  · exact renderEach_plain hpasses ownsRegistry (depth + 1) hopen hgives
  · rw [← hlength]
    exact Text.intercalate_drop_indentLines hline text
  · have hblank := (outer.blank_repeated count).append (inner.blank_repeated count')
    exact Text.splitOn_indentLines hblank.newline_not_mem

/-- Two spaces before four lines, the second and the last of which are empty. -/
theorem IndentedTag.render_indents_two :
    ∃ e : IndentedTag, e.blockText = "_{n:2}%{x}_{/n}".toList ∧
      e.plainText = "  %{x}".toList ∧
      ∃ (t t' : Template) (s₁ : Store Unit),
        let s : Store Unit := ((Store.empty ()).newRegistry []).2
        let params : Value := .object [("x".toList, .string "a\n\nb\n".toList)]
        (Run.compile 0 true .default e.blockText).exec s = (.ok t, s₁) ∧
        (Run.compile 0 true .default e.plainText).exec s = (.ok t', s) ∧
        (Node.template t).renderEach 1 [params] s₁ = [.ok "  a\n  \n  b\n  ".toList] ∧
        (Node.template t').renderEach 1 [params] s = [.ok "  a\n  \n  b\n  ".toList] := by
  let e : IndentedTag := ⟨.space, 2, "n".toList, by decide, by decide, by decide, by decide⟩
  let params : Value := .object [("x".toList, .string "a\n\nb\n".toList)]
  have hopen : ((Store.empty ()).newRegistry []).2.open? 0 = some ⟨[], [], true⟩ := rfl
  obtain ⟨⟨t, t', s₁, hcompile, hcompile', hrender⟩, -⟩ :=
    e.render_indents hopen true (show 1 ≤ Config.default.maxPasses by decide)
  have hgives : Gives params "a\n\nb\n".toList :=
    ⟨rfl, Tag.find?_eq_none_iff_standsAt.mp (by decide)⟩
  refine ⟨e, by decide, by decide, t, t', s₁, hcompile, hcompile', ?_⟩
  exact hrender 0 [(params, "a\n\nb\n".toList)] (by simpa using hgives)

end Templating
