import Templating.Compilation
import Templating.Proofs.Extraction
import Templating.Proofs.Piece

/-!
# Documents

A document is what a well-formed template stands for: a tree of literals, inline tags and blocks.
Its source is the text that it is printed to. This module says what extraction makes of a source;
what a document means is said in `Templating.Proofs.Meaning`.

* `Document`, `Document.source`, `Document.WellFormed` — the trees, their texts, and which of them
  are well-formed;
* `Token` — a text as characters and braced parts, which is as far as any search looks into it;
* `Document.ofText_source` — the blocks of a source are those of the document, and the text that is
  left is made of its literals, its tags, and a reference for each block;
* `Document.branches_block`, `Document.branches_ifElse` — the else tag of a conditional is found
  where it was printed.
-/

namespace Templating

-- ---------------------------------------------------------------------------
-- The trees
-- ---------------------------------------------------------------------------

/-- What the opening of a block says. -/
structure Heading where
  kind : BlockKind
  negated : Bool
  name : Text
  param : Option Text
  deriving DecidableEq

namespace Heading

def placeholder (h : Heading) : Text :=
  match h.param with
  | none => h.name
  | some param => h.name ++ ':' :: param

/-- The opening of the heading, with its own negation or with the opposite one. -/
def openingWith (h : Heading) (negated : Bool) : Opening := ⟨h.kind, negated, h.placeholder, h.name⟩

def opening (h : Heading) : Opening := h.openingWith h.negated

/-- The tag that stands between the two bodies of a conditional. -/
def elseTag (h : Heading) : Text := (h.openingWith (!h.negated)).text

/-- A name that cannot be taken for a negation or for a closing, and a parameter that is not empty,
both without the characters that end them. -/
structure WellFormed (h : Heading) : Prop where
  kind : h.kind ≠ .cached
  name : '{' ∉ h.name ∧ '}' ∉ h.name ∧ ':' ∉ h.name
  head : h.name.head? ≠ some '/' ∧ h.name.head? ≠ some '!'
  param : ∀ param ∈ h.param, param ≠ [] ∧ '{' ∉ param ∧ '}' ∉ param ∧ ':' ∉ param
  path : h.kind = .conditional → ¬ "@block_".toList <+: h.placeholder

instance (h : Heading) : Decidable h.WellFormed :=
  decidable_of_iff (h.kind ≠ .cached ∧ ('{' ∉ h.name ∧ '}' ∉ h.name ∧ ':' ∉ h.name) ∧
      (h.name.head? ≠ some '/' ∧ h.name.head? ≠ some '!') ∧
      (∀ param ∈ h.param, param ≠ [] ∧ '{' ∉ param ∧ '}' ∉ param ∧ ':' ∉ param) ∧
      (h.kind = .conditional → ¬ "@block_".toList <+: h.placeholder))
    ⟨fun ⟨hkind, hname, hhead, hparam, hpath⟩ => ⟨hkind, hname, hhead, hparam, hpath⟩,
      fun ⟨hkind, hname, hhead, hparam, hpath⟩ => ⟨hkind, hname, hhead, hparam, hpath⟩⟩

end Heading

/-- A document, item by item; a block holds the documents of its bodies. -/
inductive Document where
  | nil
  | literal (text : Text) (rest : Document)
  | inline (tag : Tag) (rest : Document)
  | block (heading : Heading) (body rest : Document)
  /-- A conditional block with an else body. -/
  | ifElse (heading : Heading) (onTrue onFalse rest : Document)

namespace Document

/-- The text that a document is printed to. -/
def source : Document → Text
  | nil => []
  | literal text rest => text ++ rest.source
  | inline tag rest => tag.text ++ rest.source
  | block h body rest =>
    h.opening.text ++ body.source ++ h.opening.closing ++ rest.source
  | ifElse h onTrue onFalse rest =>
    h.opening.text ++ (onTrue.source ++ h.elseTag ++ onFalse.source) ++ h.opening.closing ++
      rest.source

/-- The headings of all blocks, at any depth. -/
def headings : Document → List Heading
  | nil => []
  | literal _ rest | inline _ rest => rest.headings
  | block h body rest => h :: (body.headings ++ rest.headings)
  | ifElse h onTrue onFalse rest =>
    h :: (onTrue.headings ++ onFalse.headings ++ rest.headings)

/-- No block of the document, at any depth, has the kind and the name of the heading. -/
def Avoids (doc : Document) (h : Heading) : Prop :=
  ∀ other ∈ doc.headings, ¬ (other.kind = h.kind ∧ other.name = h.name)

instance (doc : Document) (h : Heading) : Decidable (doc.Avoids h) :=
  inferInstanceAs (Decidable (∀ other ∈ doc.headings, _))

/-- Which documents are well-formed: literals without braces, tags and headings that can be read
back, no path that names a block by its number, and no block inside one of its own kind and
name. -/
def WellFormed : Document → Prop
  | nil => True
  | literal text rest => '{' ∉ text ∧ rest.WellFormed
  | inline tag rest => (tag.Plain ∧ ¬ "@block_".toList <+: tag.path) ∧ rest.WellFormed
  | block h body rest => (h.WellFormed ∧ body.Avoids h) ∧ body.WellFormed ∧ rest.WellFormed
  | ifElse h onTrue onFalse rest =>
    (h.WellFormed ∧ h.kind = .conditional ∧ onTrue.Avoids h ∧ onFalse.Avoids h) ∧
      onTrue.WellFormed ∧ onFalse.WellFormed ∧ rest.WellFormed

instance decidableWellFormed : (doc : Document) → Decidable doc.WellFormed
  | nil => inferInstanceAs (Decidable True)
  | literal text rest =>
    have := decidableWellFormed rest
    inferInstanceAs (Decidable ('{' ∉ text ∧ rest.WellFormed))
  | inline tag rest =>
    have := decidableWellFormed rest
    inferInstanceAs (Decidable
      ((tag.Plain ∧ ¬ "@block_".toList <+: tag.path) ∧ rest.WellFormed))
  | block h body rest =>
    have := decidableWellFormed body
    have := decidableWellFormed rest
    inferInstanceAs (Decidable
      ((h.WellFormed ∧ body.Avoids h) ∧ body.WellFormed ∧ rest.WellFormed))
  | ifElse h onTrue onFalse rest =>
    have := decidableWellFormed onTrue
    have := decidableWellFormed onFalse
    have := decidableWellFormed rest
    inferInstanceAs (Decidable
      ((h.WellFormed ∧ h.kind = .conditional ∧ onTrue.Avoids h ∧ onFalse.Avoids h) ∧
        onTrue.WellFormed ∧ onFalse.WellFormed ∧ rest.WellFormed))

/-- The blocks of the uppermost level, as they stand in the source. -/
def blocks : Document → List Block
  | nil => []
  | literal _ rest | inline _ rest => rest.blocks
  | block h body rest => h.opening.block body.source :: rest.blocks
  | ifElse h onTrue onFalse rest =>
    h.opening.block (onTrue.source ++ h.elseTag ++ onFalse.source) :: rest.blocks

/-- The tag that refers to the block with a number. -/
def referenceTo (number : Nat) : Tag := ⟨false, '@' :: Block.reference number, none⟩

/-- The uppermost level in pieces, with references from `number` on for its blocks. -/
def pieces : (number : Nat) → Document → List Piece
  | _, nil => []
  | number, literal text rest => Piece.chars text ++ rest.pieces number
  | number, inline tag rest => .tag tag :: rest.pieces number
  | number, block _ _ rest | number, ifElse _ _ _ rest =>
    .tag (referenceTo number) :: rest.pieces (number + 1)

end Document

-- ---------------------------------------------------------------------------
-- Sources as tokens
-- ---------------------------------------------------------------------------

/-- A part of a source: a character that is not a brace that opens something, or a tag, an opening,
an else tag or a closing as a whole. -/
inductive Token where
  | char (c : Char)
  | braced (mark : Char) (body : Text)

namespace Token

def text : Token → Text
  | char c => [c]
  | braced mark body => mark :: '{' :: (body ++ ['}'])

def textOf (tokens : List Token) : Text := tokens.flatMap text

def Plain : Token → Prop
  | char c => c ≠ '{'
  | braced mark body => mark ≠ '{' ∧ '{' ∉ body ∧ '}' ∉ body

def chars (t : Text) : List Token := t.map char

@[simp] theorem textOf_nil : textOf [] = [] := rfl

@[simp] theorem textOf_cons (t : Token) (ts : List Token) :
    textOf (t :: ts) = t.text ++ textOf ts := rfl

@[simp] theorem textOf_append (ts us : List Token) : textOf (ts ++ us) = textOf ts ++ textOf us :=
  List.flatMap_append

@[simp] theorem textOf_chars : ∀ t : Text, textOf (chars t) = t
  | [] => rfl
  | c :: rest => congrArg (c :: ·) (textOf_chars rest)

theorem plain_chars {t : Text} (h : '{' ∉ t) : ∀ token ∈ chars t, token.Plain := by
  intro token htoken
  obtain ⟨c, hc, rfl⟩ := List.mem_map.mp htoken
  rintro rfl
  exact h hc

theorem head_textOf {tokens : List Token} (hplain : ∀ token ∈ tokens, token.Plain) {rest : Text}
    (hrest : rest.head? ≠ some '{') : (textOf tokens ++ rest).head? ≠ some '{' := by
  cases tokens with
  | nil => exact hrest
  | cons token tokens =>
    have htoken := hplain token (List.mem_cons_self ..)
    cases token with
    | char c =>
      intro heq
      cases heq
      exact htoken rfl
    | braced mark body =>
      intro heq
      cases heq
      exact htoken.1 rfl

/-- What begins with a character and a brace begins nowhere in a text of tokens unless it begins
with one of the braced tokens. -/
theorem nowhere_textOf {begins : Text → Prop} (hbracing : ∀ t, begins t → Text.Bracing t)
    {tokens : List Token} (hplain : ∀ token ∈ tokens, token.Plain) {rest : Text}
    (hrest : rest.head? ≠ some '{')
    (hnot : ∀ mark body, .braced mark body ∈ tokens →
      ∀ more, ¬ begins ((braced mark body).text ++ more)) :
    Text.Nowhere begins (textOf tokens) rest := by
  induction tokens with
  | nil => trivial
  | cons token tokens ih =>
    have htokens : ∀ other ∈ tokens, other.Plain := fun other hother =>
      hplain other (List.mem_cons_of_mem _ hother)
    have hhead := head_textOf htokens hrest
    rw [textOf_cons, Text.nowhere_append]
    refine ⟨?_, ih htokens fun mark body hmem => hnot mark body (List.mem_cons_of_mem _ hmem)⟩
    have htoken := hplain token (List.mem_cons_self ..)
    cases token with
    | char c => exact ⟨fun hbegins => Text.not_bracing_cons hhead (hbracing _ hbegins), trivial⟩
    | braced mark body =>
      have hfirst := hnot mark body (List.mem_cons_self ..) (textOf tokens ++ rest)
      have hbody : '{' ∉ body ++ ['}'] := by simpa using htoken.2.1
      have hinner := (Text.nowhere_bracing hhead hbody).mono hbracing
      -- behind the mark stands the brace, and behind it a character that is no brace
      refine ⟨hfirst, fun hbegins => Text.not_bracing_cons ?_ (hbracing _ hbegins), hinner⟩
      exact Text.head_append (by simp) hbody _

/-- A braced text occurs only as a token. -/
theorem nowhere_braced {mark : Char} {body : Text} (hbody : '}' ∉ body) {tokens : List Token}
    (hplain : ∀ token ∈ tokens, token.Plain) (hnot : .braced mark body ∉ tokens) {rest : Text}
    (hrest : rest.head? ≠ some '{') :
    Text.Nowhere ((braced mark body).text <+: ·) (textOf tokens) rest := by
  refine nowhere_textOf ?_ hplain hrest ?_
  · rintro t ⟨more, rfl⟩
    exact ⟨mark, body ++ ['}'] ++ more, rfl⟩
  · rintro mark' body' hmem more ⟨more', heq⟩
    simp only [text, List.cons_append, List.cons.injEq, true_and, List.append_assoc,
      List.nil_append] at heq
    obtain ⟨rfl, heq⟩ := heq
    obtain ⟨rfl, -⟩ := Text.append_cons_inj hbody (hplain _ hmem).2.2 heq
    exact hnot hmem

end Token

namespace Heading

variable {h : Heading}

theorem placeholder_eq (h : Heading) : h.placeholder = h.name ∨
    ∃ param, h.param = some param ∧ h.placeholder = h.name ++ ':' :: param := by
  rw [placeholder]
  cases h.param with
  | none => exact .inl rfl
  | some param => exact .inr ⟨param, rfl, rfl⟩

theorem WellFormed.placeholder_brace (hwf : h.WellFormed) :
    '{' ∉ h.placeholder ∧ '}' ∉ h.placeholder := by
  rcases h.placeholder_eq with heq | ⟨param, hparam, heq⟩
  · rw [heq]
    exact ⟨hwf.name.1, hwf.name.2.1⟩
  · obtain ⟨-, hopen, hclose, -⟩ := hwf.param param hparam
    rw [heq]
    simp [hwf.name.1, hwf.name.2.1, hopen, hclose]

/-- A placeholder begins as a name does, or with the colon of a parameter. -/
theorem WellFormed.placeholder_head (hwf : h.WellFormed) :
    h.placeholder.head? ≠ some '/' ∧ h.placeholder.head? ≠ some '!' := by
  rcases h.placeholder_eq with heq | ⟨param, -, heq⟩
  · rw [heq]
    exact hwf.head
  · rw [heq]
    cases hname : h.name with
    | nil => exact ⟨by simp, by simp⟩
    | cons c name =>
      have hhead := hwf.head
      rw [hname] at hhead
      exact hhead

theorem WellFormed.openingWith (hwf : h.WellFormed) (negated : Bool) :
    (h.openingWith negated).WellFormed where
  brace := hwf.placeholder_brace.2
  colon := hwf.name.2.2
  placeholder := by
    rcases h.placeholder_eq with heq | ⟨param, hparam, heq⟩
    · exact .inl heq
    · exact .inr ⟨param, (hwf.param param hparam).1, heq⟩
  negated := fun _ => hwf.placeholder_head.2

theorem WellFormed.body_brace (hwf : h.WellFormed) (negated : Bool) :
    '{' ∉ (h.openingWith negated).body ∧ '}' ∉ (h.openingWith negated).body := by
  obtain ⟨hopen, hclose⟩ := hwf.placeholder_brace
  rw [Opening.body]
  cases negated with
  | true => exact ⟨by simp [Heading.openingWith, hopen], by simp [Heading.openingWith, hclose]⟩
  | false => exact ⟨hopen, hclose⟩

/-- No opening looks like a closing. -/
theorem WellFormed.body_head (hwf : h.WellFormed) (negated : Bool) :
    (h.openingWith negated).body.head? ≠ some '/' := by
  rw [Opening.body]
  cases negated with
  | true => exact fun heq => by cases heq
  | false => exact hwf.placeholder_head.1

end Heading

namespace Document

theorem param_opening {h : Heading} (hwf : h.WellFormed) : h.opening.param = h.param := by
  rw [Opening.param]
  show (Text.cut? ':' h.placeholder).map _ = _
  rw [Heading.placeholder]
  cases hparam : h.param with
  | none =>
    simp only
    rw [Text.cut?_eq_none_iff.mpr hwf.name.2.2]
    rfl
  | some param =>
    simp only
    rw [Text.cut?_append hwf.name.2.2, Option.map_some,
      Text.cut?_eq_none_iff.mpr (hwf.param param hparam).2.2.2]

/-- The document as tokens. -/
def tokens : Document → List Token
  | nil => []
  | literal text rest => Token.chars text ++ rest.tokens
  | inline tag rest => .braced tag.mark tag.body :: rest.tokens
  | block h body rest =>
    .braced h.kind.mark h.opening.body :: (body.tokens ++
      .braced h.kind.mark ('/' :: h.name) :: rest.tokens)
  | ifElse h onTrue onFalse rest =>
    .braced h.kind.mark h.opening.body :: (onTrue.tokens ++
      .braced h.kind.mark (h.openingWith (!h.negated)).body :: (onFalse.tokens ++
        .braced h.kind.mark ('/' :: h.name) :: rest.tokens))

theorem text_braced_body (o : Opening) : (Token.braced o.kind.mark o.body).text = o.text :=
  o.text_eq.symm

theorem textOf_tokens : ∀ doc : Document, Token.textOf doc.tokens = doc.source
  | nil => rfl
  | literal text rest => by
    rw [tokens, source, Token.textOf_append, Token.textOf_chars, textOf_tokens rest]
  | inline tag rest => by
    rw [tokens, source, Token.textOf_cons, textOf_tokens rest]
    rfl
  | block h body rest => by
    rw [tokens, source, Token.textOf_cons, Token.textOf_append, Token.textOf_cons,
      textOf_tokens body, textOf_tokens rest, List.append_assoc, List.append_assoc,
      ← text_braced_body]
    rfl
  | ifElse h onTrue onFalse rest => by
    rw [tokens, source, Token.textOf_cons, Token.textOf_append, Token.textOf_cons,
      Token.textOf_append, Token.textOf_cons, textOf_tokens onTrue, textOf_tokens onFalse,
      textOf_tokens rest, Heading.elseTag, ← text_braced_body, ← text_braced_body]
    simp only [List.append_assoc]
    rfl

theorem plain_braced_opening {h : Heading} (hwf : h.WellFormed) (negated : Bool) :
    (Token.braced h.kind.mark (h.openingWith negated).body).Plain :=
  ⟨h.kind.mark_plain.2.1, hwf.body_brace negated⟩

theorem plain_braced_closing {h : Heading} (hwf : h.WellFormed) :
    (Token.braced h.kind.mark ('/' :: h.name)).Plain :=
  ⟨h.kind.mark_plain.2.1, by simp [hwf.name.1], by simp [hwf.name.2.1]⟩

theorem plain_braced_tag {tag : Tag} (hplain : tag.Plain) :
    (Token.braced tag.mark tag.body).Plain := by
  refine ⟨?_, hplain.brace, hplain.wellFormed.body_brace⟩
  show tag.mark ≠ '{'
  rw [Tag.mark]
  split <;> decide

theorem plain_tokens : ∀ {doc : Document}, doc.WellFormed → ∀ token ∈ doc.tokens, token.Plain
  | nil, _ => by simp [tokens]
  | literal text rest, ⟨htext, hrest⟩ => by
    rw [tokens]
    exact List.forall_mem_append.mpr ⟨Token.plain_chars htext, plain_tokens hrest⟩
  | inline tag rest, ⟨⟨htag, _⟩, hrest⟩ => by
    rw [tokens]
    exact List.forall_mem_cons.mpr ⟨plain_braced_tag htag, plain_tokens hrest⟩
  | block h body rest, ⟨⟨hh, _⟩, hbody, hrest⟩ => by
    rw [tokens]
    refine List.forall_mem_cons.mpr ⟨plain_braced_opening hh h.negated, ?_⟩
    refine List.forall_mem_append.mpr ⟨plain_tokens hbody, ?_⟩
    exact List.forall_mem_cons.mpr ⟨plain_braced_closing hh, plain_tokens hrest⟩
  | ifElse h onTrue onFalse rest, ⟨⟨hh, _⟩, htrue, hfalse, hrest⟩ => by
    rw [tokens]
    refine List.forall_mem_cons.mpr ⟨plain_braced_opening hh h.negated, ?_⟩
    refine List.forall_mem_append.mpr ⟨plain_tokens htrue, ?_⟩
    refine List.forall_mem_cons.mpr ⟨plain_braced_opening hh (!h.negated), ?_⟩
    refine List.forall_mem_append.mpr ⟨plain_tokens hfalse, ?_⟩
    exact List.forall_mem_cons.mpr ⟨plain_braced_closing hh, plain_tokens hrest⟩

/-- Where a braced token of a document comes from: an inline tag, or an opening, an else tag or a
closing of one of its headings. -/
theorem of_mem_tokens {mark : Char} {text : Text} : ∀ {doc : Document}, doc.WellFormed →
    .braced mark text ∈ doc.tokens →
      (∃ tag : Tag, mark = tag.mark) ∨ ∃ h ∈ doc.headings, h.WellFormed ∧ mark = h.kind.mark ∧
        ((∃ negated, text = (h.openingWith negated).body) ∨ text = '/' :: h.name)
  | nil, _, hmem => by cases hmem
  | literal t rest, ⟨_, hrest⟩, hmem => by
    rcases List.mem_append.mp hmem with hmem | hmem
    · obtain ⟨c, -, hc⟩ := List.mem_map.mp hmem
      cases hc
    · have horigin := of_mem_tokens hrest hmem
      exact horigin
  | inline tag rest, ⟨_, hrest⟩, hmem => by
    rcases List.mem_cons.mp hmem with heq | hmem
    · cases heq
      exact .inl ⟨tag, rfl⟩
    · have horigin := of_mem_tokens hrest hmem
      exact horigin
  | block h body rest, ⟨⟨hh, _⟩, hbody, hrest⟩, hmem => by
    simp only [tokens, List.mem_cons, List.mem_append, Token.braced.injEq] at hmem
    have hself : h ∈ (block h body rest).headings := List.mem_cons_self ..
    rcases hmem with ⟨rfl, rfl⟩ | hmem | ⟨rfl, rfl⟩ | hmem
    · exact .inr ⟨h, hself, hh, rfl, .inl ⟨h.negated, rfl⟩⟩
    · refine (of_mem_tokens hbody hmem).imp id ?_
      rintro ⟨other, hother, hrest⟩
      exact ⟨other, by simp [headings, hother], hrest⟩
    · exact .inr ⟨h, hself, hh, rfl, .inr rfl⟩
    · refine (of_mem_tokens hrest hmem).imp id ?_
      rintro ⟨other, hother, hrest⟩
      exact ⟨other, by simp [headings, hother], hrest⟩
  | ifElse h onTrue onFalse rest, ⟨⟨hh, _⟩, htrue, hfalse, hrest⟩, hmem => by
    simp only [tokens, List.mem_cons, List.mem_append, Token.braced.injEq] at hmem
    have hself : h ∈ (ifElse h onTrue onFalse rest).headings := List.mem_cons_self ..
    rcases hmem with ⟨rfl, rfl⟩ | hmem | ⟨rfl, rfl⟩ | hmem | ⟨rfl, rfl⟩ | hmem
    · exact .inr ⟨h, hself, hh, rfl, .inl ⟨h.negated, rfl⟩⟩
    · refine (of_mem_tokens htrue hmem).imp id ?_
      rintro ⟨other, hother, hrest⟩
      exact ⟨other, by simp [headings, hother], hrest⟩
    · exact .inr ⟨h, hself, hh, rfl, .inl ⟨!h.negated, rfl⟩⟩
    · refine (of_mem_tokens hfalse hmem).imp id ?_
      rintro ⟨other, hother, hrest⟩
      exact ⟨other, by simp [headings, hother], hrest⟩
    · exact .inr ⟨h, hself, hh, rfl, .inr rfl⟩
    · refine (of_mem_tokens hrest hmem).imp id ?_
      rintro ⟨other, hother, hrest⟩
      exact ⟨other, by simp [headings, hother], hrest⟩

-- ---------------------------------------------------------------------------
-- What occurs in a source
-- ---------------------------------------------------------------------------

theorem mark_ne_tag (kind : BlockKind) (tag : Tag) : kind.mark ≠ tag.mark := by
  obtain ⟨-, -, hpercent, hdollar⟩ := kind.mark_plain
  rw [Tag.mark]
  split
  · exact hdollar
  · exact hpercent

variable {doc : Document} {h : Heading}

/-- A document that avoids a heading has no closing of it. -/
theorem closing_not_mem (hdoc : doc.WellFormed) (havoids : doc.Avoids h) :
    .braced h.kind.mark ('/' :: h.name) ∉ doc.tokens := by
  intro hmem
  rcases of_mem_tokens hdoc hmem with
    ⟨tag, hmark⟩ | ⟨other, hother, hwf, hmark, ⟨negated, hbody⟩ | hbody⟩
  · exact mark_ne_tag h.kind tag hmark
  · exact hwf.body_head negated (by rw [← hbody]; rfl)
  · exact havoids other hother ⟨(BlockKind.mark_injective hmark).symm, (List.cons.inj hbody).2.symm⟩

/-- Nor an opening or an else tag of it. -/
theorem opening_not_mem (hh : h.WellFormed) (hdoc : doc.WellFormed) (havoids : doc.Avoids h)
    (negated : Bool) : .braced h.kind.mark (h.openingWith negated).body ∉ doc.tokens := by
  intro hmem
  rcases of_mem_tokens hdoc hmem with
    ⟨tag, hmark⟩ | ⟨other, hother, hwf, hmark, ⟨negated', hbody⟩ | hbody⟩
  · exact mark_ne_tag h.kind tag hmark
  · -- a body is read in one way, so the two openings are one
    have hkind := BlockKind.mark_injective hmark
    have hread := Opening.ofBody?_body (hh.openingWith negated)
    have hread' := Opening.ofBody?_body (hwf.openingWith negated')
    have hsame : h.openingWith negated = other.openingWith negated' := by
      rw [hbody] at hread
      have hkinds : (h.openingWith negated).kind = (other.openingWith negated').kind := hkind
      rw [hkinds, hread'] at hread
      exact (Option.some.inj hread).symm
    exact havoids other hother ⟨hkind.symm, (congrArg Opening.name hsame).symm⟩
  · refine hh.body_head negated ?_
    rw [hbody]
    rfl

theorem mark_head (kind : BlockKind) (t : Text) : (kind.mark :: t).head? ≠ some '{' :=
  fun heq => kind.mark_plain.2.1 (Option.some.inj heq)

theorem nowhere_closing (hh : h.WellFormed) {tokens : List Token}
    (hplain : ∀ token ∈ tokens, token.Plain)
    (hnot : .braced h.kind.mark ('/' :: h.name) ∉ tokens) :
    Text.Nowhere (h.opening.closing <+: ·) (Token.textOf tokens) h.opening.closing :=
  Token.nowhere_braced (plain_braced_closing hh).2.2 hplain hnot (mark_head _ _)

theorem nowhere_closing_block (hh : h.WellFormed) (hdoc : doc.WellFormed)
    (havoids : doc.Avoids h) :
    Text.Nowhere (h.opening.closing <+: ·) doc.source h.opening.closing := by
  have hno := nowhere_closing hh (plain_tokens hdoc) (closing_not_mem hdoc havoids)
  rw [textOf_tokens] at hno
  exact hno

theorem nowhere_closing_ifElse {onTrue onFalse : Document} (hh : h.WellFormed)
    (htrue : onTrue.WellFormed) (hfalse : onFalse.WellFormed) (havoidsTrue : onTrue.Avoids h)
    (havoidsFalse : onFalse.Avoids h) :
    Text.Nowhere (h.opening.closing <+: ·) (onTrue.source ++ h.elseTag ++ onFalse.source)
      h.opening.closing := by
  have hplain : ∀ token ∈ onTrue.tokens ++
      .braced h.kind.mark (h.openingWith (!h.negated)).body :: onFalse.tokens, token.Plain := by
    refine List.forall_mem_append.mpr ⟨plain_tokens htrue, ?_⟩
    exact List.forall_mem_cons.mpr ⟨plain_braced_opening hh _, plain_tokens hfalse⟩
  have hnot : .braced h.kind.mark ('/' :: h.name) ∉ onTrue.tokens ++
      .braced h.kind.mark (h.openingWith (!h.negated)).body :: onFalse.tokens := by
    rw [List.mem_append, List.mem_cons, not_or, not_or]
    refine ⟨closing_not_mem htrue havoidsTrue, ?_, closing_not_mem hfalse havoidsFalse⟩
    intro heq
    refine hh.body_head (!h.negated) ?_
    rw [← (Token.braced.inj heq).2]
    rfl
  have hno := nowhere_closing hh hplain hnot
  rw [Token.textOf_append, Token.textOf_cons, textOf_tokens, textOf_tokens,
    ← List.append_assoc] at hno
  rw [Heading.elseTag, ← text_braced_body]
  exact hno

theorem blocks_wellFormed : ∀ {doc : Document}, doc.WellFormed → ∀ b ∈ doc.blocks, b.WellFormed
  | nil, _ => by simp [blocks]
  | literal _ _, ⟨_, hrest⟩ => by
    have hblocks := blocks_wellFormed hrest
    exact hblocks
  | inline _ _, ⟨_, hrest⟩ => by
    have hblocks := blocks_wellFormed hrest
    exact hblocks
  | block h body rest, ⟨⟨hh, havoids⟩, hbody, hrest⟩ => by
    refine List.forall_mem_cons.mpr ⟨?_, blocks_wellFormed hrest⟩
    exact ⟨hh.openingWith h.negated, rfl, nowhere_closing_block hh hbody havoids⟩
  | ifElse h onTrue onFalse rest, ⟨⟨hh, _, htrue, hfalse⟩, htrueWf, hfalseWf, hrest⟩ => by
    refine List.forall_mem_cons.mpr ⟨?_, blocks_wellFormed hrest⟩
    exact ⟨hh.openingWith h.negated, rfl,
      nowhere_closing_ifElse hh htrueWf hfalseWf htrue hfalse⟩

-- ---------------------------------------------------------------------------
-- The two bodies of a conditional
-- ---------------------------------------------------------------------------

theorem elseTag_block (h : Heading) (content : Text) :
    (h.opening.block content).elseTag = h.elseTag := rfl

theorem content_block (h : Heading) (content : Text) :
    (h.opening.block content).content = content := rfl

theorem nowhere_elseTag (hh : h.WellFormed) (hdoc : doc.WellFormed) (havoids : doc.Avoids h)
    {rest : Text} (hrest : rest.head? ≠ some '{') :
    Text.Nowhere (h.elseTag <+: ·) doc.source rest := by
  have hno := Token.nowhere_braced (hh.body_brace (!h.negated)).2 (plain_tokens hdoc)
    (opening_not_mem hh hdoc havoids (!h.negated)) hrest
  have htext : (Token.braced h.kind.mark (h.openingWith (!h.negated)).body).text = h.elseTag :=
    text_braced_body (h.openingWith (!h.negated))
  rw [htext, textOf_tokens] at hno
  exact hno

theorem cutAt?_elseTag (hh : h.WellFormed) (hdoc : doc.WellFormed) (havoids : doc.Avoids h) :
    Text.cutAt? h.elseTag doc.source = none :=
  Text.cutAt?_eq_none_iff.mpr ((Text.nowhere_prefix_nil_iff (Opening.text_ne_nil _)).mp
    (nowhere_elseTag hh hdoc havoids (by simp)))

/-- Without an else tag the content is the first body. -/
theorem branches_block (hh : h.WellFormed) (hdoc : doc.WellFormed) (havoids : doc.Avoids h) :
    (h.opening.block doc.source).branches = (doc.source, none) := by
  rw [Block.branches, elseTag_block, content_block, cutAt?_elseTag hh hdoc havoids]

/-- The else tag divides the content where it was printed. -/
theorem branches_ifElse {onTrue onFalse : Document} (hh : h.WellFormed)
    (htrue : onTrue.WellFormed) (hfalse : onFalse.WellFormed) (havoidsTrue : onTrue.Avoids h)
    (havoidsFalse : onFalse.Avoids h) :
    (h.opening.block (onTrue.source ++ h.elseTag ++ onFalse.source)).branches =
      (onTrue.source, some onFalse.source) := by
  have hno : Text.Nowhere (h.elseTag <+: ·) onTrue.source (h.elseTag ++ onFalse.source) :=
    nowhere_elseTag hh htrue havoidsTrue (mark_head _ _)
  exact Block.branches_eq_of_split rfl hno
    (Text.cutAt?_eq_none_iff.mp (cutAt?_elseTag hh hfalse havoidsFalse))

-- ---------------------------------------------------------------------------
-- The extraction of a source
-- ---------------------------------------------------------------------------

end Document

namespace Token

/-- A token that extraction leaves alone. -/
def Inline : Token → Prop
  | char c => c ≠ '{'
  | braced mark body => (mark = '$' ∨ mark = '%') ∧ '{' ∉ body ∧ '}' ∉ body

theorem Inline.plain : ∀ {token : Token}, token.Inline → token.Plain
  | char _, h => h
  | braced _ _, ⟨hmark, hbody⟩ => by
    refine ⟨?_, hbody⟩
    rcases hmark with rfl | rfl
    · decide
    · decide

theorem nowhere_begins {tokens : List Token} (htokens : ∀ token ∈ tokens, token.Inline)
    {rest : Text} (hrest : rest.head? ≠ some '{') :
    Text.Nowhere Block.Begins (textOf tokens) rest := by
  refine nowhere_textOf (fun _ hbegins => hbegins.marked.bracing)
    (fun token htoken => (htokens token htoken).plain) hrest ?_
  intro mark body hmem more hbegins
  obtain ⟨kind, rest', heq⟩ := hbegins.marked
  obtain ⟨rfl, -⟩ := List.cons.inj heq
  obtain ⟨-, -, hpercent, hdollar⟩ := kind.mark_plain
  exact (htokens _ hmem).1.elim hdollar hpercent

theorem inline_chars {t : Text} (h : '{' ∉ t) : ∀ token ∈ chars t, token.Inline := by
  intro token htoken
  obtain ⟨c, hc, rfl⟩ := List.mem_map.mp htoken
  rintro rfl
  exact h hc

theorem inline_tag {tag : Tag} (h : tag.Plain) : (braced tag.mark tag.body).Inline := by
  refine ⟨?_, h.brace, h.wellFormed.body_brace⟩
  rw [Tag.mark]
  split
  · exact .inl rfl
  · exact .inr rfl

end Token

namespace Document

theorem referenceTo_text (number : Nat) : (referenceTo number).text = Block.referenceTag number :=
  rfl

theorem referenceTo_plain (number : Nat) : (referenceTo number).Plain := by
  have hnot : ∀ c : Char, c.isDigit = false → c ∉ "block_".toList → c ∉ Block.reference number :=
    fun c hdigit hname => Block.not_mem_reference hdigit hname number
  have hbrace : '}' ∉ Block.reference number := hnot '}' (by decide) (by decide)
  have hbar : '|' ∉ Block.reference number := hnot '|' (by decide) (by decide)
  have hopen : '{' ∉ Block.reference number := hnot '{' (by decide) (by decide)
  refine ⟨⟨?_, ?_, fun filter hfilter => by cases hfilter⟩, ?_⟩
  · simp [referenceTo, hbrace]
  · simp [referenceTo, hbar]
  · simp [referenceTo, Tag.body, hopen]

theorem inline_reference (number : Nat) :
    (Token.braced (referenceTo number).mark (referenceTo number).body).Inline :=
  Token.inline_tag (referenceTo_plain number)

theorem textOf_append_tag (front : List Token) (tag : Tag) :
    Token.textOf (front ++ [.braced tag.mark tag.body]) = Token.textOf front ++ tag.text := by
  rw [Token.textOf_append]
  simp [Token.text, Tag.text]

/-- A turn of the loop takes out the block behind the tokens passed and leaves a reference, which
is one more token to be passed by the turns that follow. -/
theorem run_block {b : Block} (hb : b.WellFormed) {front : List Token}
    (hfront : ∀ token ∈ front, token.Inline) {fuel number : Nat} {after residual : Text}
    {blocks : List Block} (hfuel : (b.text ++ after).count '}' ≤ fuel)
    (hafter : ∀ {front : List Token}, (∀ token ∈ front, token.Inline) →
      ∀ {fuel : Nat}, after.count '}' ≤ fuel →
        Extraction.run fuel (number + 1) (Token.textOf front ++ after) =
          ⟨Token.textOf front ++ residual, blocks⟩) :
    Extraction.run fuel number (Token.textOf front ++ (b.text ++ after)) =
      ⟨Token.textOf front ++ ((referenceTo number).text ++ residual), b :: blocks⟩ := by
  have hcount := Block.count_content_add_two_le b
  rw [List.count_append] at hfuel
  obtain ⟨left, rfl⟩ : ∃ left, fuel = left + 1 := ⟨fuel - 1, by omega⟩
  have hhead : (b.text ++ after).head? ≠ some '{' := mark_head b.kind _
  have hfind : Block.find? (Token.textOf front ++ (b.text ++ after)) =
      some ⟨Token.textOf front, b, after⟩ :=
    Block.find?_eq_some_iff.mpr
      ⟨(List.append_assoc ..).symm, hb, Token.nowhere_begins hfront hhead⟩
  have hpassed : ∀ token ∈ front ++
      [.braced (referenceTo number).mark (referenceTo number).body], token.Inline :=
    List.forall_mem_append.mpr
      ⟨hfront, List.forall_mem_singleton.mpr (inline_reference number)⟩
  have hrun := hafter hpassed (show after.count '}' ≤ left by omega)
  rw [textOf_append_tag] at hrun
  rw [Extraction.run_of_find?_eq_some hfind, ← referenceTo_text, hrun, List.append_assoc]

/-- The loop leaves what it has passed, and makes pieces and blocks of the rest. -/
theorem run_source : ∀ {doc : Document}, doc.WellFormed → ∀ {front : List Token},
    (∀ token ∈ front, token.Inline) → ∀ {fuel : Nat}, doc.source.count '}' ≤ fuel →
      ∀ number, Extraction.run fuel number (Token.textOf front ++ doc.source) =
        ⟨Token.textOf front ++ Piece.textOf (doc.pieces number), doc.blocks⟩
  | nil, _, front, hfront, fuel, _, number => by
    have hnone : Block.find? (Token.textOf front ++ []) = none := by
      rw [List.append_nil]
      exact Block.find?_eq_none_iff.mpr (Token.nowhere_begins hfront (by simp))
    exact Extraction.run_of_find?_eq_none hnone fuel number
  | literal text rest, ⟨htext, hrest⟩, front, hfront, fuel, hfuel, number => by
    rw [source, List.count_append] at hfuel
    have hpassed := List.forall_mem_append.mpr ⟨hfront, Token.inline_chars htext⟩
    have hrun := run_source hrest hpassed (show rest.source.count '}' ≤ fuel by omega) number
    rw [Token.textOf_append, Token.textOf_chars, List.append_assoc] at hrun
    rw [source, hrun, pieces, blocks, Piece.textOf_append, Piece.textOf_chars, List.append_assoc]
  | inline tag rest, ⟨⟨htag, _⟩, hrest⟩, front, hfront, fuel, hfuel, number => by
    rw [source, List.count_append] at hfuel
    have hpassed := List.forall_mem_append.mpr
      ⟨hfront, List.forall_mem_singleton.mpr (Token.inline_tag htag)⟩
    have hrun := run_source hrest hpassed (show rest.source.count '}' ≤ fuel by omega) number
    rw [textOf_append_tag, List.append_assoc] at hrun
    rw [source, hrun, pieces, blocks, Piece.textOf_cons, List.append_assoc]
    rfl
  | block h body rest, hdoc, front, hfront, fuel, hfuel, number => by
    have hb := blocks_wellFormed hdoc (h.opening.block body.source) (List.mem_cons_self ..)
    exact run_block hb hfront hfuel fun hpassed _ hleft =>
      run_source hdoc.2.2 hpassed hleft (number + 1)
  | ifElse h onTrue onFalse rest, hdoc, front, hfront, fuel, hfuel, number => by
    have hb := blocks_wellFormed hdoc
      (h.opening.block (onTrue.source ++ h.elseTag ++ onFalse.source)) (List.mem_cons_self ..)
    exact run_block hb hfront hfuel fun hpassed _ hleft =>
      run_source hdoc.2.2.2 hpassed hleft (number + 1)

/-- **Extraction takes a source apart as it was put together.** -/
theorem ofText_source {doc : Document} (hdoc : doc.WellFormed) (number : Nat) :
    Extraction.ofText number doc.source = ⟨Piece.textOf (doc.pieces number), doc.blocks⟩ := by
  have hnone : ∀ token ∈ ([] : List Token), token.Inline := fun _ hmem => by cases hmem
  exact run_source hdoc hnone (Nat.le_refl _) number

theorem plain_pieces : ∀ {doc : Document}, doc.WellFormed → ∀ number,
    ∀ p ∈ doc.pieces number, p.Plain
  | nil, _, _ => by simp [pieces]
  | literal text rest, ⟨htext, hrest⟩, number =>
    List.forall_mem_append.mpr ⟨Piece.plain_chars htext, plain_pieces hrest number⟩
  | inline tag rest, ⟨⟨htag, _⟩, hrest⟩, number =>
    List.forall_mem_cons.mpr ⟨htag, plain_pieces hrest number⟩
  | block _ _ rest, ⟨_, _, hrest⟩, number =>
    List.forall_mem_cons.mpr ⟨referenceTo_plain number, plain_pieces hrest (number + 1)⟩
  | ifElse _ _ _ rest, ⟨_, _, _, hrest⟩, number =>
    List.forall_mem_cons.mpr ⟨referenceTo_plain number, plain_pieces hrest (number + 1)⟩

end Document

end Templating
