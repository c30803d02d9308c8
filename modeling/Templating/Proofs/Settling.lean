import Templating.Proofs.Passes
import Templating.Proofs.Tag.Position

/-!
# Rendering ends when no tag stands

The passes over a text, said with the grammar of tags: each takes the tag that stands first, and the
last one is over when none stands anywhere. So what a rendering gives has no tag left, and nothing
that is rendered again becomes anything else, whatever the options, parameters and partials are.

* `Run.Settles` — a rendering, pass by pass;
* `Run.renderTags_iff_settles` — the loop of passes does this and nothing else;
* `Run.Settles.free` — no tag stands in the outcome;
* `Run.renderTags_settles` — rendering text, and rendering its outcome.
-/

namespace Templating.Run

variable {σ : Type}

/-- A rendering of a text that has `left` passes left, with the outcome and the store it leaves. As
long as a tag stands anywhere in the text, the first one is evaluated behind the indent before it,
and its value is put in place of all its occurrences. -/
inductive Settles (maxPasses : Nat) (evaluate : Tag → Text → Run σ Text) :
    (left : Nat) → Text → Store σ → Except Failure Text → Store σ → Prop
  | done {left : Nat} {t : Text} {s : Store σ} : (∀ (tag : Tag) i, ¬ tag.StandsAt t i) →
      Settles maxPasses evaluate left t s (.ok t) s
  | failed {left : Nat} {t before : Text} {tag : Tag} {failure : Failure} {s s' : Store σ} :
      tag.FirstBehind before t →
      (evaluate tag (Text.trailingIndent before)).exec s = (.error failure, s') →
      Settles maxPasses evaluate left t s (.error failure) s'
  | unsettled {t before value : Text} {tag : Tag} {s s' : Store σ} : tag.FirstBehind before t →
      (evaluate tag (Text.trailingIndent before)).exec s = (.ok value, s') →
      Settles maxPasses evaluate 0 t s (.error (.error (.unsettled maxPasses))) s'
  | selfExpanding {left : Nat} {t before value : Text} {tag : Tag} {s s' : Store σ} :
      tag.FirstBehind before t →
      (evaluate tag (Text.trailingIndent before)).exec s = (.ok value, s') →
      tag.text <:+: value →
      Settles maxPasses evaluate (left + 1) t s (.error (.error (.selfExpansion tag.text))) s'
  | pass {left : Nat} {t before value : Text} {tag : Tag} {s s' s'' : Store σ}
      {outcome : Except Failure Text} : tag.FirstBehind before t →
      (evaluate tag (Text.trailingIndent before)).exec s = (.ok value, s') →
      ¬ tag.text <:+: value →
      Settles maxPasses evaluate left (Text.replaceAll tag.text value t) s' outcome s'' →
      Settles maxPasses evaluate (left + 1) t s outcome s''

variable {maxPasses : Nat} {evaluate : Tag → Text → Run σ Text}

/-- The loop of passes is such a rendering. -/
theorem settles_passes : ∀ (left : Nat) (t : Text) (s : Store σ),
    Settles maxPasses evaluate left t s (passes maxPasses evaluate left t s).outcome
      (passes maxPasses evaluate left t s).store
  | left, t, s => by
    cases hfound : Tag.find? t with
    | none =>
      rw [passes_done hfound]
      exact .done (Tag.find?_eq_none_iff_standsAt.mp hfound)
    | some found =>
      have hfirst := Tag.find?_iff_firstBehind.mp ⟨found.after, hfound⟩
      rcases heval : (evaluate found.tag (Text.trailingIndent found.before)).exec s
        with ⟨outcome, s'⟩
      cases outcome with
      | error failure =>
        rw [passes_error hfound heval]
        exact .failed hfirst heval
      | ok value =>
        -- the number of passes left matters only once the tag has a value
        cases left with
        | zero =>
          rw [passes_unsettled hfound heval]
          exact .unsettled hfirst heval
        | succ left =>
          by_cases hself : found.tag.text <:+: value
          · rw [passes_self hfound heval hself]
            exact .selfExpanding hfirst heval hself
          · rw [passes_replace hfound heval hself]
            exact .pass hfirst heval hself (settles_passes left _ s')

/-- There is no other rendering of the text. -/
theorem Settles.eq_passes {left : Nat} {t : Text} {s s' : Store σ} {outcome : Except Failure Text}
    (h : Settles maxPasses evaluate left t s outcome s') :
    (passes maxPasses evaluate left t s).outcome = outcome ∧
      (passes maxPasses evaluate left t s).store = s' := by
  induction h with
  | done hfree =>
    rw [passes_done (Tag.find?_eq_none_iff_standsAt.mpr hfree)]
    exact ⟨rfl, rfl⟩
  | failed hfirst heval =>
    obtain ⟨after, hfound⟩ := Tag.find?_iff_firstBehind.mpr hfirst
    rw [passes_error hfound heval]
    exact ⟨rfl, rfl⟩
  | unsettled hfirst heval =>
    obtain ⟨after, hfound⟩ := Tag.find?_iff_firstBehind.mpr hfirst
    rw [passes_unsettled hfound heval]
    exact ⟨rfl, rfl⟩
  | selfExpanding hfirst heval hself =>
    obtain ⟨after, hfound⟩ := Tag.find?_iff_firstBehind.mpr hfirst
    rw [passes_self hfound heval hself]
    exact ⟨rfl, rfl⟩
  | pass hfirst heval hself _ ih =>
    obtain ⟨after, hfound⟩ := Tag.find?_iff_firstBehind.mpr hfirst
    rw [passes_replace hfound heval hself]
    exact ih

/-- No tag stands in what a rendering gives. -/
theorem Settles.free {left : Nat} {t : Text} {s s' : Store σ} {outcome : Except Failure Text}
    (h : Settles maxPasses evaluate left t s outcome s') {output : Text}
    (houtput : outcome = .ok output) : ∀ (tag : Tag) i, ¬ tag.StandsAt output i := by
  induction h with
  | done hfree =>
    cases houtput
    exact hfree
  | failed => cases houtput
  | unsettled => cases houtput
  | selfExpanding => cases houtput
  | pass _ _ _ _ ih => exact ih houtput

section Rendering

variable {below : Node σ → Value → Run σ Text} {r : RegistryId} {config : Config} {content : Text}
  {params : Value}

theorem renderTags_iff_settles {s s' : Store σ} {outcome : Except Failure Text} :
    (renderTags below r config content params).exec s = (outcome, s') ↔
      Settles config.maxPasses (evaluateTag (lookup below r params) config) config.maxPasses content
        s outcome s' := by
  rw [renderTags, settle_exec _ (Draft.sound_ofText content), Draft.text_ofText, Prod.mk.injEq]
  constructor
  · rintro ⟨rfl, rfl⟩
    exact settles_passes ..
  · exact Settles.eq_passes

/-- A text in which no tag stands is its own rendering. -/
theorem renderTags_of_free (hfree : ∀ (tag : Tag) i, ¬ tag.StandsAt content i) (s : Store σ) :
    (renderTags below r config content params).exec s = (.ok content, s) :=
  renderTags_iff_settles.mpr (.done hfree)

theorem free_of_renderTags {s s' : Store σ} {output : Text}
    (h : (renderTags below r config content params).exec s = (.ok output, s')) :
    ∀ (tag : Tag) i, ¬ tag.StandsAt output i :=
  (renderTags_iff_settles.mp h).free rfl

end Rendering

/-- **Rendering takes the first tag as long as one stands.** The reader reads exactly the tags of
the grammar; a rendering takes in each pass the one that stands first, and succeeds when none
stands. So a text in which no tag stands is its own rendering, and every output is, with any other
options, parameters and partials too. -/
theorem renderTags_settles (below : Node σ → Value → Run σ Text) (r : RegistryId) (config : Config)
    (content : Text) (params : Value) :
    (∀ i rest, Text.At content i rest → ∀ tag : Tag,
      (∃ after, Tag.at? rest = some (tag, after)) ↔ tag.StandsAt content i) ∧
    (∀ s outcome s', (renderTags below r config content params).exec s = (outcome, s') ↔
      Settles config.maxPasses (evaluateTag (lookup below r params) config) config.maxPasses content
        s outcome s') ∧
    ((∀ (tag : Tag) i, ¬ tag.StandsAt content i) →
      ∀ s, (renderTags below r config content params).exec s = (.ok content, s)) ∧
    ∀ s output s', (renderTags below r config content params).exec s = (.ok output, s') →
      ∀ {τ : Type} (below' : Node τ → Value → Run τ Text) (r' : RegistryId) (config' : Config)
        (params' : Value) (s'' : Store τ),
        (renderTags below' r' config' output params').exec s'' = (.ok output, s'') :=
  ⟨fun _ _ hat _ => Tag.at?_iff_standsAt hat, fun _ _ _ => renderTags_iff_settles,
    renderTags_of_free, fun _ _ _ hok _ _ _ _ _ => renderTags_of_free (free_of_renderTags hok)⟩

/-- Two bars hide nothing: the braces before them are no tag, and the tag inside is one. In
`${a|b|${c}` it is replaced, and the rest stays whatever it is rendered with. -/
theorem renderTags_settles_bars :
    let content := '$' :: '{' :: "a|b|${c}".toList
    let output := '$' :: '{' :: "a|b|x".toList
    ∃ s : Store Unit, (renderTags (Node.render 0) 0 ⟨false, [], 1⟩ content
        (.object [("c".toList, .string "x".toList)])).exec (Store.empty ()) = (.ok output, s) ∧
      ∀ (config : Config) (params : Value),
        (renderTags (Node.render 0) 0 config output params).exec s = (.ok output, s) := by
  intro content output
  have houtcome : ((renderTags (σ := Unit) (Node.render 0) 0 ⟨false, [], 1⟩ content
      (.object [("c".toList, .string "x".toList)])).exec (Store.empty ())).1 = .ok output := by
    decide +kernel
  rcases hexec : (renderTags (σ := Unit) (Node.render 0) 0 ⟨false, [], 1⟩ content
      (.object [("c".toList, .string "x".toList)])).exec (Store.empty ()) with ⟨outcome, s⟩
  rw [hexec] at houtcome
  obtain rfl : outcome = .ok output := houtcome
  exact ⟨s, rfl, fun config params =>
    (renderTags_settles _ 0 _ _ _).2.2.2 _ _ _ hexec (Node.render 0) 0 config params s⟩

end Templating.Run
