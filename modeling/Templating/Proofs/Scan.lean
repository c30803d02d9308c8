import Templating.Proofs.Extraction

/-!
# Extraction as one scan

The search for blocks starts over after each replacement, so a reference that has just been put in
could in principle complete an opening before it, close one, or be swallowed by a block found
later. In a text that mentions no block by number none of this happens: the blocks that are taken
out are those that one scan finds, each behind the one before.

* `Block.Scan` — a scan that goes on behind each block it finds;
* `Block.nowhere_begins_referenceTag` — no block begins before or in a reference that takes the
  place of the leftmost block;
* `Scanned` — what has been passed: no block begins in it, and it mentions no later number;
* `Extraction.run_scanned` — the loop finds what the scan finds;
* `Block.restore_residual` — putting the blocks back in place of their references gives the text.
-/

namespace Templating

namespace Block

-- ---------------------------------------------------------------------------
-- The scan
-- ---------------------------------------------------------------------------

/-- A scan: the blocks found one behind the other, each with the text before it, and the text
behind the last. -/
inductive Scan : Text → List (Text × Block) → Text → Prop
  | done {t : Text} : find? t = none → Scan t [] t
  | next {t before after last : Text} {block : Block} {parts : List (Text × Block)} :
    find? t = some ⟨before, block, after⟩ → Scan after parts last →
      Scan t ((before, block) :: parts) last

/-- The text that a scan went through. -/
def source : List (Text × Block) → Text → Text
  | [], last => last
  | (before, block) :: parts, last => before ++ block.text ++ source parts last

/-- The same with references in place of the blocks, numbered from `number` on. -/
def residual : (number : Nat) → List (Text × Block) → Text → Text
  | _, [], last => last
  | number, (before, _) :: parts, last =>
    before ++ referenceTag number ++ residual (number + 1) parts last

/-- Puts blocks in place of their references, one after the other. -/
def restore : (number : Nat) → List Block → Text → Text
  | _, [], t => t
  | number, block :: blocks, t =>
    restore (number + 1) blocks (Text.replaceAll (referenceTag number) block.text t)

theorem Scan.source_eq {t last : Text} {parts : List (Text × Block)} (h : Scan t parts last) :
    source parts last = t := by
  induction h with
  | done => rfl
  | next hfind _ ih =>
    obtain ⟨rfl, -, -⟩ := find?_eq_some_iff.mp hfind
    rw [source, ih]

/-- The block as it is written, with its parts. -/
theorem text_eq (b : Block) :
    b.text = b.kind.mark :: '{' :: ((if b.negated then ['!'] else []) ++ b.placeholder ++
      '}' :: (b.content ++ b.kind.mark :: '{' :: '/' :: (b.name ++ ['}']))) := by
  rw [text, opening, Opening.text, Opening.closing]
  simp

-- ---------------------------------------------------------------------------
-- References in a text
-- ---------------------------------------------------------------------------

/-- What every reference begins with. -/
def referencePrefix : Text := '%' :: '{' :: '@' :: "block_".toList

/-- A reference with a character of choice in place of the closing brace. -/
def mention (number : Nat) (close : Char) : Text :=
  '%' :: '{' :: '@' :: (reference number ++ [close])

theorem referenceTag_eq_mention (number : Nat) : referenceTag number = mention number '}' := rfl

theorem mention_eq (number : Nat) (close : Char) :
    mention number close = referencePrefix ++ (Text.ofNat number ++ [close]) := by
  rw [mention, reference_eq, referencePrefix, List.append_assoc]
  rfl

theorem not_mention_of_plain {t : Text} (h : ¬ referencePrefix <:+: t) (number : Nat)
    (close : Char) : ¬ mention number close <:+: t := by
  intro hoccurs
  rw [mention_eq] at hoccurs
  exact h ((List.prefix_append ..).isInfix.trans hoccurs)

theorem referenceTag_ne_nil (number : Nat) : referenceTag number ≠ [] := List.cons_ne_nil _ _

theorem referenceTag_eq (number : Nat) :
    referenceTag number = '%' :: '{' :: '@' :: reference number ++ ['}'] := rfl

theorem brace_not_mem_opening (number : Nat) : '}' ∉ '%' :: '{' :: '@' :: reference number := by
  have hreference : '}' ∉ reference number := not_mem_reference (by decide) (by decide) number
  simp [hreference]

/-- A mention has its mark only at its beginning. -/
theorem percent_not_mem_tail {close : Char} (hclose : '%' ≠ close) (number : Nat) :
    '%' ∉ '{' :: '@' :: (reference number ++ [close]) := by
  have hreference : '%' ∉ reference number := not_mem_reference (by decide) (by decide) number
  simp [hreference, hclose]

/-- The digits and the character that ends them tell the numbers apart. -/
theorem digits_prefix_unique {a b rest : Text} {x y : Char} (ha : ∀ c ∈ a, c.isDigit = true)
    (hb : ∀ c ∈ b, c.isDigit = true) (hx : x.isDigit = false) (hy : y.isDigit = false)
    (h : a ++ [x] <+: b ++ y :: rest) : a = b := by
  induction a generalizing b with
  | nil =>
    cases b with
    | nil => rfl
    | cons d b =>
      obtain ⟨rfl, -⟩ := List.cons_prefix_cons.mp h
      rw [hb _ (List.mem_cons_self ..)] at hx
      cases hx
  | cons c a ih =>
    cases b with
    | nil =>
      obtain ⟨rfl, -⟩ := List.cons_prefix_cons.mp h
      rw [ha _ (List.mem_cons_self ..)] at hy
      cases hy
    | cons d b =>
      obtain ⟨rfl, htail⟩ := List.cons_prefix_cons.mp h
      rw [ih (fun c hc => ha c (List.mem_cons_of_mem _ hc))
        (fun c hc => hb c (List.mem_cons_of_mem _ hc)) htail]

theorem mention_prefix_referenceTag {m n : Nat} {close : Char} {rest : Text}
    (hclose : close.isDigit = false) (h : mention m close <+: referenceTag n ++ rest) : m = n := by
  rw [referenceTag_eq_mention, mention_eq, mention_eq, List.append_assoc,
    List.prefix_append_right_inj, List.append_assoc] at h
  exact Text.ofNat_injective (digits_prefix_unique (fun c => Text.isDigit_of_mem_ofNat)
    (fun c => Text.isDigit_of_mem_ofNat) hclose (by decide) h)

/-- A reference mentions no number but its own. -/
theorem nowhere_mention_referenceTag {m n : Nat} {close : Char} (hne : m ≠ n)
    (hclose : close.isDigit = false) (rest : Text) :
    Text.Nowhere (mention m close <+: ·) (referenceTag n) rest := by
  have hlater : ∀ {t : Text}, '%' ∉ t → Text.Nowhere (mention m close <+: ·) t rest := by
    intro t ht
    rw [Text.nowhere_iff]
    rintro u c v rfl hprefix
    obtain ⟨rfl, -⟩ := List.cons_prefix_cons.mp hprefix
    simp at ht
  refine ⟨fun hprefix => hne (mention_prefix_referenceTag hclose hprefix), hlater ?_⟩
  exact percent_not_mem_tail (by decide) n

-- ---------------------------------------------------------------------------
-- No block begins in a reference
-- ---------------------------------------------------------------------------

theorem marked_of_closing_prefix {o : Opening} {t : Text} : o.closing <+: t → Marked t
  | ⟨rest, heq⟩ => ⟨o.kind, '/' :: (o.name ++ ['}']) ++ rest, by rw [← heq, Opening.closing]; rfl⟩

/-- A reference has one opening brace, and the mark before it opens no block. -/
theorem nowhere_marked_referenceTag (number : Nat) (rest : Text) :
    Text.Nowhere Marked (referenceTag number) rest := by
  have hbrace : '{' ∉ '@' :: reference number := by
    have hreference : '{' ∉ reference number := not_mem_reference (by decide) (by decide) number
    simp [hreference]
  refine ⟨?_, ?_, ?_⟩
  · rintro ⟨kind, t, heq⟩
    exact kind.mark_plain.2.2.1 (List.cons.inj heq).1.symm
  · rintro ⟨kind, t, heq⟩
    exact kind.mark_plain.2.1 (List.cons.inj heq).1.symm
  · rw [Text.nowhere_iff]
    rintro u c v hsplit ⟨kind, t, heq⟩
    obtain ⟨rfl, hv⟩ := List.cons.inj heq
    have hwhole : '@' :: reference number ++ ['}'] = u ++ kind.mark :: v := hsplit
    cases v with
    | nil =>
      -- the mark would be the closing brace
      exact kind.mark_plain.1 (List.append_singleton_inj.mp hwhole).2.symm
    | cons d v =>
      obtain ⟨rfl, -⟩ := List.cons.inj hv
      have hmem : '{' ∈ '@' :: reference number ++ ['}'] := by
        rw [hwhole]
        simp
      rw [List.mem_append, List.mem_singleton] at hmem
      exact hmem.elim hbrace (by decide)

/-- A closing that occurs in a text with a reference occurs before it or behind it, or its name
ends with the opening of the reference. -/
theorem closing_infix_referenceTag {o : Opening} (hname : '}' ∉ o.name) {number : Nat}
    {before after : Text} (h : o.closing <:+: before ++ (referenceTag number ++ after)) :
    o.closing <:+: before ∨ o.closing <:+: after ∨
      ∃ name, o.name = name ++ '%' :: '{' :: '@' :: reference number := by
  have hbehind : o.closing <:+: referenceTag number ++ after → o.closing <:+: after :=
    Text.infix_of_nowhere ((nowhere_marked_referenceTag number after).mono
      fun _ => marked_of_closing_prefix)
  rcases List.infix_append_iff_ne_nil.mp h with h | h | ⟨left, right, hleft, hright, heq, hl, hr⟩
  · exact .inl h
  · exact .inr (.inl (hbehind h))
  · -- the closing ends with its only closing brace, so it ends where the reference does
    have hbrace : '}' ∉ o.kind.mark :: '{' :: '/' :: o.name := by
      simp [hname, Ne.symm o.kind.mark_plain.1]
    have hclosing : o.kind.mark :: '{' :: '/' :: o.name ++ ['}'] = left ++ right := heq
    rcases List.eq_nil_or_concat right with rfl | ⟨right, c, rfl⟩
    · exact absurd rfl hright
    rw [List.concat_eq_append] at hclosing hr
    rw [← List.append_assoc, List.append_singleton_inj] at hclosing
    obtain ⟨hopen, rfl⟩ := hclosing
    have hnone : '}' ∉ right := fun hmem => hbrace (hopen ▸ List.mem_append_right _ hmem)
    obtain ⟨more, hmore⟩ := hr
    rw [referenceTag_eq, List.append_assoc, List.append_assoc] at hmore
    obtain ⟨rfl, -⟩ := Text.append_cons_inj hnone (brace_not_mem_opening number) hmore
    -- what stands before the reference begins with the three characters of a closing
    rcases left with _ | ⟨a, _ | ⟨b, _ | ⟨c, left⟩⟩⟩
    · exact absurd rfl hleft
    · cases hopen
    · cases hopen
    · simp only [List.cons_append, List.cons.injEq] at hopen
      exact .inr (.inr ⟨left, hopen.2.2.2⟩)

/-- An opening whose name ends with the opening of a reference mentions the number of the
reference. -/
theorem mention_infix_text {o : Opening} (hwf : o.WellFormed) {number : Nat} {name : Text}
    (hname : o.name = name ++ '%' :: '{' :: '@' :: reference number) :
    mention number '}' <:+: o.text ∨ mention number ':' <:+: o.text := by
  rw [Opening.text_eq, Opening.body]
  rcases hwf.placeholder with heq | ⟨param, -, heq⟩
  · refine .inl ⟨o.kind.mark :: '{' :: ((if o.negated then ['!'] else []) ++ name), [], ?_⟩
    rw [heq, hname, mention]
    simp
  · refine .inr ⟨o.kind.mark :: '{' :: ((if o.negated then ['!'] else []) ++ name),
      param ++ ['}'], ?_⟩
    rw [heq, hname, mention]
    simp

/-- What the body of an opening ends with is what its placeholder ends with, if that does not begin
with the mark of negation. -/
theorem placeholder_of_body {o : Opening} {before tail : Text}
    (h : o.body = before ++ '%' :: tail) :
    ∃ middle, before = (if o.negated then ['!'] else []) ++ middle ∧
      o.placeholder = middle ++ '%' :: tail := by
  rw [Opening.body] at h
  cases hnegated : o.negated with
  | false =>
    rw [hnegated] at h
    exact ⟨before, rfl, h⟩
  | true =>
    rw [hnegated] at h
    cases before with
    | nil => cases (List.cons.inj h).1
    | cons c middle =>
      obtain ⟨rfl, hplaceholder⟩ := List.cons.inj h
      exact ⟨middle, rfl, hplaceholder⟩

/-- An opening that ends with a reference ends within its body. -/
theorem body_of_completed {o : Opening} {number : Nat} {before : Text}
    (htext : o.text = before ++ referenceTag number) (hne : before ≠ []) :
    ∃ front, before = o.kind.mark :: '{' :: front ∧
      o.body = front ++ '%' :: '{' :: '@' :: reference number := by
  rw [Opening.text_eq, referenceTag_eq] at htext
  have hopen : o.kind.mark :: '{' :: o.body =
      before ++ '%' :: '{' :: '@' :: reference number := by
    rw [← List.append_assoc] at htext
    exact (List.append_singleton_inj.mp htext).1
  rcases before with _ | ⟨c, _ | ⟨d, front⟩⟩
  · exact absurd rfl hne
  · cases hopen
  · simp only [List.cons_append, List.cons.injEq] at hopen
    obtain ⟨rfl, rfl, hbody⟩ := hopen
    exact ⟨front, rfl, hbody⟩

/-- A name and a parameter that end with a reference: the name ends before it, since a reference has
no colon. -/
theorem name_of_completed {name param middle : Text} {number : Nat}
    (h : name ++ ':' :: param = middle ++ '%' :: '{' :: '@' :: reference number) :
    ∃ rest, middle = name ++ ':' :: rest := by
  have hcolon : ':' ∉ '%' :: '{' :: '@' :: reference number := by
    have hmem : ':' ∉ reference number := not_mem_reference (by decide) (by decide) number
    simp [hmem]
  rcases List.append_eq_append_iff.mp h with ⟨tail, hsplit, htail⟩ | ⟨tail, -, htail⟩
  · cases tail with
    | nil => cases (List.cons.inj htail).1
    | cons c tail =>
      obtain ⟨rfl, -⟩ := List.cons.inj htail
      exact ⟨tail, hsplit⟩
  · exact absurd (htail ▸ List.mem_append_right _ (List.mem_cons_self ..)) hcolon

/-- An opening that a reference completes was completed by the block as well, with the same
closing: its name ends before the reference, since behind the reference nothing closes a name with a
reference in it. -/
theorem begins_of_completed {o : Opening} (hwf : o.WellFormed) {b : Block}
    (hb : b.opening.WellFormed) {number : Nat} {before after : Text}
    (htext : o.text = before ++ referenceTag number) (hne : before ≠ [])
    (hclosing : o.closing <:+: after) (hafter : ¬ referencePrefix <:+: after) :
    Begins (before ++ (b.text ++ after)) := by
  obtain ⟨front, rfl, hbody⟩ := body_of_completed htext hne
  obtain ⟨middle, rfl, hmiddle⟩ := placeholder_of_body hbody
  rcases hwf.placeholder with hname | ⟨param, -, hname⟩
  · -- the name goes up to the reference, so the closing mentions it
    refine absurd (List.IsInfix.trans ?_ hclosing) hafter
    refine ⟨o.kind.mark :: '{' :: '/' :: middle, Text.ofNat number ++ ['}'], ?_⟩
    rw [Opening.closing, ← hname, hmiddle, referencePrefix, reference_eq]
    simp
  · obtain ⟨rest, rfl⟩ := name_of_completed (hname.symm.trans hmiddle)
    have hrest : '}' ∉ rest ++ b.kind.mark :: '{' :: b.opening.body := by
      have hold := hwf.brace
      rw [hmiddle] at hold
      simp only [List.mem_append, List.mem_cons, not_or] at hold ⊢
      exact ⟨hold.1.2.2, Ne.symm b.kind.mark_plain.1, by decide, hb.body_brace⟩
    -- the same opening, with the opening of the block in place of the reference
    refine ⟨o.withParam (rest ++ b.kind.mark :: '{' :: b.opening.body),
      b.content ++ b.opening.closing ++ after, hwf.withParam (by simp) hrest, ?_,
      hclosing.trans (List.suffix_append ..).isInfix⟩
    have hother : (o.withParam (rest ++ b.kind.mark :: '{' :: b.opening.body)).text =
        o.kind.mark :: '{' :: ((if o.negated then ['!'] else []) ++ (o.name ++ ':' :: rest)) ++
          b.opening.text := by
      rw [Opening.text_eq b.opening]
      show o.kind.mark :: '{' :: ((if o.negated then ['!'] else []) ++
        (o.name ++ ':' :: (rest ++ b.kind.mark :: '{' :: b.opening.body)) ++ ['}']) = _
      simp [opening]
    rw [hother, text]
    simp only [List.append_assoc, List.cons_append]

/-- An opening before a reference that has a closing in the text with the reference has one in the
text with the block, unless it mentions the number itself. -/
theorem begins_of_closed {o : Opening} (hwf : o.WellFormed) {b : Block} {number : Nat}
    {tail after : Text} (hfresh : ∀ close ∈ ['}', ':'], ¬ mention number close <:+: o.text)
    (hclosing : o.closing <:+: tail ++ (referenceTag number ++ after)) :
    Begins (o.text ++ (tail ++ (b.text ++ after))) := by
  refine ⟨o, tail ++ (b.text ++ after), hwf, rfl, ?_⟩
  rcases closing_infix_referenceTag hwf.name_brace hclosing with h | h | ⟨name, hname⟩
  · exact h.trans (List.prefix_append ..).isInfix
  · exact h.trans ⟨tail ++ b.text, [], by simp⟩
  · rcases mention_infix_text hwf hname with h | h
    · exact absurd h (hfresh _ (by simp))
    · exact absurd h (hfresh _ (by simp))

/-- **No block begins before or in a reference that takes the place of the leftmost block.** -/
theorem nowhere_begins_referenceTag {before after : Text} {b : Block} {number : Nat}
    (hb : b.WellFormed) (hno : Text.Nowhere Begins before (b.text ++ after))
    (hfresh : ∀ close ∈ ['}', ':'], ¬ mention number close <:+: before)
    (hafter : ¬ referencePrefix <:+: after) :
    Text.Nowhere Begins (before ++ referenceTag number) after := by
  rw [Text.nowhere_append]
  refine ⟨?_, (nowhere_marked_referenceTag number after).mono fun _ => Begins.marked⟩
  rw [Text.nowhere_iff] at hno ⊢
  rintro u c v rfl ⟨o, rest, hwf, heq, hclosing⟩
  have hnot := hno u c v rfl
  have hwhole : c :: v ++ (referenceTag number ++ after) = o.text ++ rest := heq
  have hinside : ∀ tail, c :: v = o.text ++ tail → rest = tail ++ (referenceTag number ++ after) →
      False := by
    intro tail htext hrest
    refine hnot ?_
    rw [← List.cons_append, htext, List.append_assoc]
    refine begins_of_closed hwf (fun close hmem hoccurs => hfresh close hmem ?_) (hrest ▸ hclosing)
    rw [htext]
    exact hoccurs.trans ⟨u, tail, by simp⟩
  rcases List.append_eq_append_iff.mp hwhole with ⟨tail, htext, htail⟩ | ⟨tail, htext, hrest⟩
  · rcases List.eq_nil_or_concat tail with rfl | ⟨tail, d, rfl⟩
    · rw [List.append_nil] at htext
      exact hinside [] (by rw [htext, List.append_nil]) htail.symm
    · -- the opening goes on behind the place of the block, so it ends where the reference does
      rw [List.concat_eq_append] at htext htail
      have hend : o.kind.mark :: '{' :: o.body ++ ['}'] = c :: v ++ tail ++ [d] := by
        rw [List.append_assoc, ← htext, Opening.text_eq]
        rfl
      obtain ⟨hopen, rfl⟩ := List.append_singleton_inj.mp hend
      have hbrace : '}' ∉ tail := by
        intro hmem
        have hmem' : '}' ∈ o.kind.mark :: '{' :: o.body := hopen ▸ List.mem_append_right _ hmem
        simp [Ne.symm o.kind.mark_plain.1, hwf.body_brace] at hmem'
      rw [referenceTag_eq, List.append_assoc, List.append_assoc] at htail
      obtain ⟨rfl, rfl⟩ := Text.append_cons_inj (brace_not_mem_opening number) hbrace htail
      exact hnot (begins_of_completed hwf hb.opening htext (List.cons_ne_nil _ _) hclosing hafter)
  · exact hinside tail htext hrest

end Block

-- ---------------------------------------------------------------------------
-- The loop is the scan
-- ---------------------------------------------------------------------------

/-- What the loop has passed when it is to find the block with a number: no block begins in it, it
ends with a reference, and it mentions none of the numbers to come. -/
structure Scanned (number : Nat) (passed rest : Text) : Prop where
  free : Text.Nowhere Block.Begins passed rest
  closed : passed = [] ∨ ∃ front, passed = front ++ ['}']
  fresh : ∀ m ≥ number, ∀ close ∈ ['}', ':'], ¬ Block.mention m close <:+: passed

namespace Scanned

theorem start (number : Nat) (t : Text) : Scanned number [] t where
  free := trivial
  closed := .inl rfl
  fresh := by
    intro m _ close _ hoccurs
    cases List.infix_nil.mp hoccurs

variable {number : Nat} {passed before after : Text}

/-- Text without references adds no mention to what ends with a reference. -/
theorem fresh_append {rest : Text} (h : Scanned number passed rest)
    (hbefore : ¬ Block.referencePrefix <:+: before) {m : Nat} (hm : number ≤ m) {close : Char}
    (hclose : close ∈ ['}', ':']) : ¬ Block.mention m close <:+: passed ++ before := by
  intro hoccurs
  rcases List.infix_append_iff_ne_nil.mp hoccurs with
    h' | h' | ⟨left, right, hleft, hright, heq, hl, -⟩
  · exact h.fresh m hm close hclose h'
  · exact Block.not_mention_of_plain hbefore m close h'
  · -- a mention across the end of what was passed would have a closing brace before its end
    rcases h.closed with rfl | ⟨front, rfl⟩
    · exact hleft (List.suffix_nil.mp hl)
    · rcases List.suffix_concat_iff.mp hl with hnil | ⟨left, rfl, -⟩
      · exact hleft hnil
      · rcases List.eq_nil_or_concat right with rfl | ⟨right, c, rfl⟩
        · exact hright rfl
        · rw [List.concat_eq_append, ← List.append_assoc] at heq
          have hopen := (List.append_singleton_inj.mp
            (show '%' :: '{' :: '@' :: Block.reference m ++ [close] = _ from heq)).1
          refine Block.brace_not_mem_opening m ?_
          rw [hopen]
          simp

/-- One turn of the loop passes the text before the block and the reference in its place. -/
theorem next {b : Block} (h : Scanned number passed (before ++ b.text ++ after))
    (hb : b.WellFormed) (hno : Text.Nowhere Block.Begins before (b.text ++ after))
    (hplain : ¬ Block.referencePrefix <:+: before ++ b.text ++ after) :
    Scanned (number + 1) (passed ++ before ++ Block.referenceTag number) after where
  free := by
    have hbefore : ¬ Block.referencePrefix <:+: before := fun hoccurs =>
      hplain (hoccurs.trans ⟨[], b.text ++ after, by simp⟩)
    have hafter : ¬ Block.referencePrefix <:+: after := fun hoccurs =>
      hplain (hoccurs.trans ⟨before ++ b.text, [], by simp⟩)
    have hpassed := h.free
    rw [List.append_assoc] at hpassed
    exact Block.nowhere_begins_referenceTag hb (Text.nowhere_append.mpr ⟨hpassed, hno⟩)
      (fun close hclose => h.fresh_append hbefore (Nat.le_refl _) hclose) hafter
  closed := .inr ⟨passed ++ before ++ '%' :: '{' :: '@' :: Block.reference number, by
    rw [Block.referenceTag_eq, ← List.append_assoc]⟩
  fresh := by
    intro m hm close hclose hoccurs
    have hbefore : ¬ Block.referencePrefix <:+: before := fun hoccurs =>
      hplain (hoccurs.trans ⟨[], b.text ++ after, by simp⟩)
    have hdigit : close.isDigit = false ∧ '%' ≠ close := by
      rcases List.mem_pair.mp hclose with rfl | rfl
      · decide
      · decide
    obtain ⟨hdigit, hpercent⟩ := hdigit
    have hnew : Block.mention m close <:+: Block.referenceTag number :=
      Text.infix_of_nowhere (Text.nowhere_of_head (Block.percent_not_mem_tail hpercent m)
        (h.fresh_append hbefore (Nat.le_of_succ_le hm) hclose)) hoccurs
    have hnone := Block.nowhere_mention_referenceTag (Nat.ne_of_gt hm) hdigit []
    exact (Text.nowhere_prefix_nil_iff (List.cons_ne_nil _ _)).mp hnone hnew

end Scanned

/-- **The loop is the scan.** Started on a text that was passed up to some point, the loop finds
what a scan of the rest finds. -/
theorem Extraction.run_scanned {fuel number : Nat} {passed rest : Text}
    (h : Scanned number passed rest) (hplain : ¬ Block.referencePrefix <:+: rest)
    (hfuel : rest.count '}' ≤ fuel) :
    ∃ parts last, Block.Scan rest parts last ∧
      run fuel number (passed ++ rest) =
        ⟨passed ++ Block.residual number parts last, parts.map Prod.snd⟩ := by
  induction fuel generalizing number passed rest with
  | zero =>
    cases hfind : Block.find? rest with
    | none => exact ⟨[], rest, .done hfind, rfl⟩
    | some found =>
      have hless := Block.count_referenceTag_lt hfind number
      omega
  | succ fuel ih =>
    cases hfind : Block.find? rest with
    | none =>
      refine ⟨[], rest, .done hfind, ?_⟩
      have hnone : Block.find? (passed ++ rest) = none := by
        rw [Block.find?_append_of_nowhere h.free, hfind]
        rfl
      rw [run_of_find?_eq_none hnone]
      rfl
    | some found =>
      obtain ⟨before, b, after⟩ := found
      have hless := Block.count_referenceTag_lt hfind number
      obtain ⟨rfl, hwf, hno⟩ := Block.find?_eq_some_iff.mp hfind
      have hafter : ¬ Block.referencePrefix <:+: after := fun hoccurs =>
        hplain (hoccurs.trans ⟨before ++ b.text, [], by simp⟩)
      have hcount : after.count '}' ≤ fuel := by
        simp only [List.count_append] at hless hfuel
        omega
      obtain ⟨parts, last, hscan, hrun⟩ := ih (h.next hwf hno hplain) hafter hcount
      refine ⟨(before, b) :: parts, last, .next hfind hscan, ?_⟩
      have hsome : Block.find? (passed ++ (before ++ b.text ++ after)) =
          some ⟨passed ++ before, b, after⟩ := by
        rw [Block.find?_append_of_nowhere h.free, hfind]
        rfl
      rw [run_of_find?_eq_some hsome, hrun, Block.residual]
      simp

-- ---------------------------------------------------------------------------
-- Restoring the source
-- ---------------------------------------------------------------------------

namespace Block

/-- A reference does not begin in text without references that another follows. -/
theorem nowhere_referenceTag_of_plain {t : Text} (h : ¬ referencePrefix <:+: t) (m n : Nat)
    (rest : Text) : Text.Nowhere (referenceTag m <+: ·) t (referenceTag n ++ rest) :=
  Text.nowhere_of_head (percent_not_mem_tail (by decide) m) (not_mention_of_plain h m '}')

/-- A residual holds no reference with a number before its own. -/
theorem nowhere_residual {m : Nat} : ∀ {parts : List (Text × Block)} {number : Nat} {last : Text},
    m < number → ¬ referencePrefix <:+: source parts last →
      Text.Nowhere (referenceTag m <+: ·) (residual number parts last) []
  | [], _, _, _, h =>
    (Text.nowhere_prefix_nil_iff (List.cons_ne_nil _ _)).mpr (not_mention_of_plain h m '}')
  | (before, b) :: parts, number, last, hm, h => by
    have hbefore : ¬ referencePrefix <:+: before := fun hoccurs =>
      h (hoccurs.trans ⟨[], b.text ++ source parts last, by simp [source]⟩)
    have hrest : ¬ referencePrefix <:+: source parts last := fun hoccurs =>
      h (hoccurs.trans ⟨before ++ b.text, [], by simp [source]⟩)
    rw [residual, Text.nowhere_append, Text.nowhere_append]
    exact ⟨⟨nowhere_referenceTag_of_plain hbefore m number _,
      nowhere_mention_referenceTag (Nat.ne_of_lt hm) (by decide) _⟩,
      nowhere_residual (Nat.lt_succ_of_lt hm) hrest⟩

/-- Putting the blocks back in place of their references gives the source; `front` is what has been
put back already. -/
theorem restore_residual : ∀ {parts : List (Text × Block)} {number : Nat} {front last : Text},
    ¬ referencePrefix <:+: front ++ source parts last →
      restore number (parts.map Prod.snd) (front ++ residual number parts last) =
        front ++ source parts last
  | [], _, _, _, _ => rfl
  | (before, b) :: parts, number, front, last, h => by
    have hsource : front ++ source ((before, b) :: parts) last =
        front ++ before ++ b.text ++ source parts last := by
      simp [source]
    have hresidual : front ++ residual number ((before, b) :: parts) last =
        front ++ before ++ (referenceTag number ++ residual (number + 1) parts last) := by
      simp [residual]
    rw [hsource] at h ⊢
    have hfront : ¬ referencePrefix <:+: front ++ before := fun hoccurs =>
      h (hoccurs.trans ⟨[], b.text ++ source parts last, by simp⟩)
    have hrest : ¬ referencePrefix <:+: source parts last := fun hoccurs =>
      h (hoccurs.trans (List.suffix_append ..).isInfix)
    have hnone : ¬ referenceTag number <:+: residual (number + 1) parts last :=
      (Text.nowhere_prefix_nil_iff (referenceTag_ne_nil number)).mp
        (nowhere_residual (Nat.lt_succ_self number) hrest)
    rw [hresidual, List.map_cons, restore,
      Text.replaceAll_append_of_nowhere _ (nowhere_referenceTag_of_plain hfront number number _),
      Text.replaceAll_prefix (referenceTag_ne_nil number),
      Text.replaceAll_of_not_infix (referenceTag_ne_nil number) _ hnone, ← List.append_assoc]
    exact restore_residual h

end Block

-- ---------------------------------------------------------------------------
-- Extraction from a registry
-- ---------------------------------------------------------------------------

namespace Run

variable {σ : Type}

/-- **Extraction is a lossless scan.** In a text that mentions no block, the blocks taken out are
those of one scan; the text left over is the same with references in their places; each block is on
record and registered under its number; and putting the blocks back restores the text. -/
theorem extract_scan {r : RegistryId} {s : Store σ} {registry : Registry σ}
    (h : s.registries[r]? = some registry) (config : Config) {content : Text}
    (hplain : ¬ Block.referencePrefix <:+: content) :
    ∃ parts last s',
      (extract r config content).exec s =
        (.ok ⟨Block.residual (s.nextNumber r) parts last, parts.map Prod.snd⟩, s') ∧
      Block.Scan content parts last ∧
      content = Block.source parts last ∧
      (∀ part ∈ parts, part.2.text =
        part.2.kind.mark :: '{' :: ((if part.2.negated then ['!'] else []) ++
          part.2.placeholder ++ '}' :: (part.2.content ++
            part.2.kind.mark :: '{' :: '/' :: (part.2.name ++ ['}'])))) ∧
      (∀ i part, parts[i]? = some part →
        s'.issued? ⟨r, s.nextNumber r + i⟩ = some ⟨part.2, config, none⟩ ∧
          (s'.entries r).get? (Block.reference (s.nextNumber r + i)) =
            some (.deferred ⟨r, s.nextNumber r + i⟩)) ∧
      Block.restore (s.nextNumber r) (parts.map Prod.snd)
        (Block.residual (s.nextNumber r) parts last) = content := by
  obtain ⟨parts, last, hscan, hrun⟩ :=
    Extraction.run_scanned (Scanned.start (s.nextNumber r) content) hplain (Nat.le_refl _)
  have hextraction : Extraction.ofText (s.nextNumber r) content =
      ⟨Block.residual (s.nextNumber r) parts last, parts.map Prod.snd⟩ := hrun
  have hsource := hscan.source_eq
  refine ⟨parts, last, s.issueAll r config (parts.map Prod.snd), ?_, hscan, hsource.symm,
    fun part _ => part.2.text_eq, ?_, ?_⟩
  · rw [extract_exec, hextraction]
  · intro i part hpart
    have hblock : (parts.map Prod.snd)[i]? = some part.2 := by rw [List.getElem?_map, hpart]; rfl
    have hlt := (List.getElem?_eq_some_iff.mp hblock).1
    refine ⟨?_, Store.get?_issueAll_add h config _ hlt⟩
    rw [Store.issued?_issueAll_add h, hblock]
    rfl
  · have hrestore : Block.restore (s.nextNumber r) (parts.map Prod.snd)
        ([] ++ Block.residual (s.nextNumber r) parts last) = [] ++ Block.source parts last :=
      Block.restore_residual (by rw [List.nil_append, hsource]; exact hplain)
    exact hrestore.trans hsource

/-- A block between an opening that nothing closes and one that nothing ends:
`?{a}#{b}x#{/b}_{c`. -/
theorem extract_scan_between :
    let content := "?{a}#{b}x#{/b}_".toList ++ ['{', 'c']
    ((Store.empty ()).newRegistry []).2.registries[0]? = some ⟨[], [], true⟩ ∧
      ¬ Block.referencePrefix <:+: content ∧
      ∃ parts last s',
        (extract 0 Config.default content).exec ((Store.empty ()).newRegistry []).2 =
          (.ok ⟨Block.residual 0 parts last, parts.map Prod.snd⟩, s') ∧
        Block.Scan content parts last ∧
        Block.restore 0 (parts.map Prod.snd) (Block.residual 0 parts last) = content := by
  intro content
  have hplain : ¬ Block.referencePrefix <:+: content := Text.containsPattern_eq_false_iff.mp rfl
  have hregistry : ((Store.empty ()).newRegistry []).2.registries[0]? = some ⟨[], [], true⟩ := rfl
  obtain ⟨parts, last, s', hexec, hscan, -, -, -, hrestore⟩ :=
    extract_scan hregistry Config.default hplain
  exact ⟨hregistry, hplain, parts, last, s', hexec, hscan, hrestore⟩

end Run

end Templating
