import Templating.Proofs.Repetition

/-!
# More passes than tags

How often tags are brought back is bounded by no multiple of their number. Let the value of each of
`n` tags be the text of all tags before it. Every further tag brings back all that were replaced
before, so the passes double with each, and the limit that lets the rendering succeed does too.

* `Tag.numbered`, `Piece.stacked` — the tags, and the first ones in a row;
* `Run.Row.stacked` — the passes over them, by induction on their number;
* `Run.renderTags_doubling` — the limits under which the rendering succeeds.
-/

namespace Templating

-- ---------------------------------------------------------------------------
-- The tags
-- ---------------------------------------------------------------------------

/-- A tag for each number, told apart by the length of its path. -/
def Tag.numbered (k : Nat) : Tag := ⟨false, List.replicate (k + 1) 'a', none⟩

theorem Tag.not_mem_path_numbered (k : Nat) {c : Char} (hc : c ≠ 'a') :
    c ∉ (numbered k).path := fun h => hc (List.eq_of_mem_replicate h)

theorem Tag.plain_numbered (k : Nat) : (numbered k).Plain where
  wellFormed := ⟨not_mem_path_numbered k (by decide), not_mem_path_numbered k (by decide),
    fun _ h => by cases h⟩
  brace := not_mem_path_numbered k (by decide)

theorem Tag.path_numbered_inj {i k : Nat} : (numbered i).path = (numbered k).path ↔ i = k := by
  constructor
  · intro hpath
    have hlength := congrArg List.length hpath
    simpa [numbered] using hlength
  · rintro rfl
    rfl

namespace Piece

/-- The tags with the first `n` numbers, in a row. -/
def stacked (n : Nat) : List Piece := (List.range n).map fun k => tag (Tag.numbered k)

theorem stacked_succ (n : Nat) : stacked (n + 1) = stacked n ++ [tag (Tag.numbered n)] := by
  rw [stacked, List.range_succ, List.map_append]
  rfl

theorem plain_stacked (n : Nat) : ∀ p ∈ stacked n, p.Plain := by
  intro p hp
  obtain ⟨k, -, rfl⟩ := List.mem_map.mp hp
  exact Tag.plain_numbered k

theorem mem_stacked {k n : Nat} : tag (Tag.numbered k) ∈ stacked n ↔ k < n := by
  constructor
  · intro hmem
    obtain ⟨i, hi, heq⟩ := List.mem_map.mp hmem
    have hik : i = k := Tag.path_numbered_inj.mp (by rw [Piece.tag.inj heq])
    exact hik ▸ List.mem_range.mp hi
  · exact fun hlt => List.mem_map.mpr ⟨k, List.mem_range.mpr hlt, rfl⟩

/-- A tag is not in the text of those before it. -/
theorem not_infix_stacked (n : Nat) : ¬ (Tag.numbered n).text <:+: textOf (stacked n) :=
  fun hinfix => Nat.lt_irrefl n (mem_stacked.mp
    (mem_of_infix_textOf (Tag.plain_numbered n) (plain_stacked n) hinfix))

end Piece

/-- Parameters that give each of the tags the text of all tags before it. -/
def Members.stacked (n : Nat) : Members :=
  (List.range n).map fun k => ((Tag.numbered k).path, .string (Piece.textOf (Piece.stacked k)))

theorem Members.get?_map {α : Type} {key : α → Text} (hkey : ∀ {a b}, key a = key b ↔ a = b)
    (value : α → Value) {a : α} : ∀ {l : List α}, a ∈ l →
      get? (key a) (l.map fun b => (key b, value b)) = some (value a)
  | b :: l, h => by
    rw [List.map_cons, get?]
    by_cases heq : b = a
    · rw [if_pos (beq_iff_eq.mpr (hkey.mpr heq)), heq]
    · rw [if_neg fun hsame => heq (hkey.mp (beq_iff_eq.mp hsame))]
      exact get?_map hkey value (List.mem_of_ne_of_mem (Ne.symm heq) h)

theorem Members.get?_stacked {k n : Nat} (h : k < n) :
    get? (Tag.numbered k).path (stacked n) = some (.string (Piece.textOf (Piece.stacked k))) :=
  get?_map Tag.path_numbered_inj _ (List.mem_range.mpr h)

namespace Run

variable {σ : Type} {evaluate : Tag → Text → Run σ Text} {s s' s'' : Store σ}

-- ---------------------------------------------------------------------------
-- The passes
-- ---------------------------------------------------------------------------

theorem Row.append {t t' t'' : Text} {ps qs : List Pass} (h : Row evaluate t s ps t' s')
    (h' : Row evaluate t' s' qs t'' s'') : Row evaluate t s (ps ++ qs) t'' s'' := by
  induction h with
  | nil => exact h'
  | cons hfirst heval hself _ ih => exact .cons hfirst heval hself (ih h')

/-- The pass for a tag at the beginning of a text in which it does not occur again. -/
theorem Row.single {tag : Tag} {value : Text} {rest : List Piece} (htag : tag.Plain)
    (hrest : ∀ p ∈ rest, p.Plain) (hnew : .tag tag ∉ rest)
    (heval : (evaluate tag []).exec s = (.ok value, s')) (hself : ¬ tag.text <:+: value) :
    Row evaluate (Piece.textOf (.tag tag :: rest)) s
      [⟨Piece.textOf (.tag tag :: rest), tag, value⟩] (value ++ Piece.textOf rest) s' := by
  have hfound : Tag.find? (Piece.textOf (.tag tag :: rest)) = some ⟨[], tag, Piece.textOf rest⟩ :=
    Piece.find?_textOf List.not_mem_nil htag hrest
  have hfirst := Tag.find?_iff_firstBehind.mp ⟨_, hfound⟩
  have hreplace : Text.replaceAll tag.text value (Piece.textOf (.tag tag :: rest)) =
      value ++ Piece.textOf rest := by
    rw [Piece.textOf_cons, Piece.text, Text.replaceAll_prefix tag.text_ne_nil,
      Text.replaceAll_of_not_infix tag.text_ne_nil]
    exact fun hinfix => hnew (Piece.mem_of_infix_textOf htag hrest hinfix)
  exact .cons hfirst heval hself (hreplace ▸ .nil)

/-- The first `n` tags before others vanish in `2 ^ n - 1` passes. The last of them brings the ones
before it back, which takes as many passes as there were up to then. -/
theorem Row.stacked {n : Nat}
    (heval : ∀ k < n, ∀ s, (evaluate (Tag.numbered k) []).exec s =
      (.ok (Piece.textOf (Piece.stacked k)), s)) (s : Store σ) :
    ∀ {rest : List Piece}, (∀ p ∈ rest, p.Plain) → (∀ p ∈ Piece.stacked n, p ∉ rest) →
      ∃ ps, Row evaluate (Piece.textOf (Piece.stacked n ++ rest)) s ps (Piece.textOf rest) s ∧
        ps.length + 1 = Nat.pow 2 n ∧ ∀ p ∈ ps, .tag p.tag ∈ Piece.stacked n := by
  induction n with
  | zero => exact fun _ _ => ⟨[], .nil, rfl, fun _ h => absurd h List.not_mem_nil⟩
  | succ n ih =>
    intro rest hrest hnew
    have hn : n < n + 1 := Nat.lt_succ_self n
    have hlast : .tag (Tag.numbered n) ∈ Piece.stacked (n + 1) := Piece.mem_stacked.mpr hn
    have hearlier : ∀ p ∈ Piece.stacked n, p ∈ Piece.stacked (n + 1) := fun p hp =>
      Piece.stacked_succ n ▸ List.mem_append_left _ hp
    have hplain : ∀ p ∈ .tag (Tag.numbered n) :: rest, p.Plain :=
      List.forall_mem_cons.mpr ⟨Tag.plain_numbered n, hrest⟩
    have hlater : ∀ p ∈ Piece.stacked n, p ∉ .tag (Tag.numbered n) :: rest := by
      intro p hp hmem
      rcases List.mem_cons.mp hmem with rfl | hmem
      · exact Nat.lt_irrefl n (Piece.mem_stacked.mp hp)
      · exact hnew p (hearlier p hp) hmem
    -- the tags before the last one, the last one, and the tags before it once more
    have ih := fun rest => @ih (fun k hk => heval k (Nat.lt_succ_of_lt hk)) rest
    obtain ⟨ps, hps, hlength, htags⟩ := ih _ hplain hlater
    have hbrings := Row.single (Tag.plain_numbered n) hrest (hnew _ hlast) (heval n hn s)
      (Piece.not_infix_stacked n)
    obtain ⟨qs, hqs, hlength', htags'⟩ := ih _ hrest fun p hp => hnew p (hearlier p hp)
    rw [Piece.textOf_append] at hqs
    have hall := hps.append (hbrings.append hqs)
    rw [Piece.stacked_succ, List.append_assoc]
    refine ⟨_, hall, ?_, ?_⟩
    · rw [List.length_append, List.length_append, List.length_singleton]
      show _ = Nat.pow 2 n * 2
      omega
    · rw [← Piece.stacked_succ]
      refine List.forall_mem_append.mpr ⟨fun p hp => hearlier _ (htags p hp), ?_⟩
      exact List.forall_mem_cons.mpr ⟨hlast, fun p hp => hearlier _ (htags' p hp)⟩

/-- **With `n` tags rendering can take `2 ^ n - 1` passes.** The content is `n` different tags in a
row and nothing else, each pass replaces one of them, and whatever the registry and the options are,
the rendering succeeds if the limit is at least that, and fails if it is lower. -/
theorem renderTags_doubling (n : Nat) : ∃ (tags : List Tag) (params : Value),
    tags.length = n ∧ tags.Nodup ∧
    ∀ (below : Node σ → Value → Run σ Text) (r : RegistryId) (config : Config) (s : Store σ),
      let content := tags.flatMap Tag.text
      (∃ ps, Row (evaluateTag (lookup below r params) config) content s ps [] s ∧
        ps.length + 1 = Nat.pow 2 n ∧ ∀ p ∈ ps, p.tag ∈ tags) ∧
      (Nat.pow 2 n ≤ config.maxPasses + 1 →
        (renderTags below r config content params).exec s = (.ok [], s)) ∧
      (config.maxPasses + 1 < Nat.pow 2 n → ∃ s',
        (renderTags below r config content params).exec s =
          (.error (.error (.unsettled config.maxPasses)), s')) := by
  have hnodup : ((List.range n).map Tag.numbered).Nodup :=
    List.nodup_range.map fun _ _ heq => Tag.path_numbered_inj.mp (congrArg Tag.path heq)
  refine ⟨(List.range n).map Tag.numbered, .object (Members.stacked n), by simp, hnodup, ?_⟩
  intro below r config s content
  have hcontent : content = Piece.textOf (Piece.stacked n ++ []) := by
    rw [List.append_nil, Piece.textOf, Piece.stacked, List.flatMap_map]
    exact List.flatMap_map ..
  have heval : ∀ k < n, ∀ s, (evaluateTag (lookup below r (.object (Members.stacked n))) config
      (Tag.numbered k) []).exec s = (.ok (Piece.textOf (Piece.stacked k)), s) := by
    intro k hk s
    have hhead : (Tag.numbered k).path.head? ≠ some '@' := show some 'a' ≠ some '@' by decide
    have hpoint := Tag.not_mem_path_numbered k (show Value.pathSeparator ≠ 'a' by decide)
    exact evaluateTag_parameter below r config hhead hpoint (Members.get?_stacked hk) s
  have hnone : ∀ p ∈ ([] : List Piece), p.Plain := by simp
  obtain ⟨ps, hrow, hlength, htags⟩ := Row.stacked heval s hnone fun _ _ => List.not_mem_nil
  rw [← hcontent] at hrow
  refine ⟨⟨ps, hrow, hlength, ?_⟩, ?_, ?_⟩
  · intro p hp
    obtain ⟨k, hk, heq⟩ := List.mem_map.mp (htags p hp)
    exact List.mem_map.mpr ⟨k, hk, Piece.tag.inj heq⟩
  · intro hlimit
    have hfree : ∀ (tag : Tag) i, ¬ tag.StandsAt [] i := Tag.find?_eq_none_iff_standsAt.mp rfl
    exact renderTags_iff_settles.mpr (hrow.settles hfree (by omega))
  · intro hlimit
    obtain ⟨s', hsettles⟩ := hrow.unsettled (show config.maxPasses < ps.length by omega)
    exact ⟨s', renderTags_iff_settles.mpr hsettles⟩

end Run

end Templating
