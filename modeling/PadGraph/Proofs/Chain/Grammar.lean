import Mathlib.Data.List.Basic
import PadGraph.Chain
import PadGraph.Proofs.Token.Split

/-!
# The grammar of chains

A chain is written `[source]…[source]filter[destination]…[destination]`. Here this is a type: a
`ChainForm` holds the tokens of every part together with what keeps the parts apart, and
`ChainForm.tokens` puts them in a row. Cutting a chain is the inverse of that.

* `Labels.read_eq_some_iff` — the labels at the front of a list are read exactly when they are
  written there and no bracket follows.
* `ChainForm`, `ChainForm.tokens`, `ChainForm.parts` — a chain by its parts, its tokens, and what is
  handed on of it.
* `decompose_tokens`, `exists_form_of_decompose` — every form is cut into its parts, and only forms
  are cut.
* **`decompose_eq_ok_iff`** — a chain is cut exactly when it has a form, and it has only one.
-/

namespace PadGraph

/-! ### Labels in brackets -/

def brackets : List Char := ['[', ']']

/-- The tokens of a label in its brackets. -/
def bracketed (label : List Token) : List Token := .plain '[' :: (label ++ [.plain ']'])

theorem isPlain_of_freeOf_brackets {t : Token} {ts : List Token} (h : FreeOf brackets (t :: ts)) :
    t.isPlain '[' = false ∧ t.isPlain ']' = false := by
  simpa [brackets] using h t (by simp)

namespace Labels

/-- Inside a label its tokens are read up to the closing bracket. -/
theorem readFrom_some_append {label : List Token} (h : FreeOf brackets label)
    (opened rest : List Token) :
    readFrom (some opened) (label ++ .plain ']' :: rest) =
      (readFrom none rest).map fun (labels, behind) =>
        ((opened.reverse ++ label) :: labels, behind) := by
  induction label generalizing opened with
  | nil => simp [readFrom, Token.isPlain]
  | cons t ts ih =>
      obtain ⟨ho, hc⟩ := isPlain_of_freeOf_brackets h
      rw [List.cons_append, readFrom, if_neg (by simp [hc]), if_neg (by simp [ho]),
        ih (h.subset (by simp))]
      simp

/-- A label in its brackets is read before the labels behind it. -/
theorem read_label_append {label : List Token} (h : FreeOf brackets label) (rest : List Token) :
    read (bracketed label ++ rest) =
      (read rest).map fun (labels, behind) => (label :: labels, behind) := by
  have hlabel : bracketed label ++ rest = .plain '[' :: (label ++ .plain ']' :: rest) := by
    simp [bracketed]
  rw [read, hlabel, readFrom, if_pos (by simp [Token.isPlain]), readFrom_some_append h]
  rfl

theorem read_bracketed {labels : List (List Token)} (h : ∀ label ∈ labels, FreeOf brackets label)
    {behind : List Token} (hb : FreeOf brackets (behind.take 1)) :
    read (labels.flatMap bracketed ++ behind) = some (labels, behind) := by
  induction labels with
  | nil =>
      cases behind with
      | nil => rfl
      | cons t ts =>
          obtain ⟨ho, hc⟩ := isPlain_of_freeOf_brackets hb
          simp [read, readFrom, ho, hc]
  | cons label labels ih =>
      have hlabel := h label (by simp)
      have hrest := ih fun l hl => h l (by simp [hl])
      rw [List.flatMap_cons, List.append_assoc, read_label_append hlabel, hrest]
      rfl

/-- The tokens of a label that has been opened, if one has. -/
def openedTokens : Option (List Token) → List Token
  | none => []
  | some label => .plain '[' :: label.reverse

/-- What has been read: the labels and what stands behind them make up the tokens, those of an open
label included. -/
theorem readFrom_sound {opened : Option (List Token)} {tokens behind : List Token}
    {labels : List (List Token)} :
    readFrom opened tokens = some (labels, behind) → (∀ front ∈ opened, FreeOf brackets front) →
      openedTokens opened ++ tokens = labels.flatMap bracketed ++ behind ∧
        (∀ label ∈ labels, FreeOf brackets label) ∧ FreeOf brackets (behind.take 1) := by
  fun_induction readFrom opened tokens generalizing labels with
  | case1 =>
      intro h _
      obtain ⟨rfl, rfl⟩ := by simpa using h
      simp [openedTokens]
  | case2 => simp
  | case3 t rest ho ih =>
      -- a bracket opens a label
      intro h _
      obtain rfl := Token.isPlain_iff.mp ho
      exact ih h (by simp)
  | case4 => simp
  | case5 t rest ho hc =>
      -- no label begins here
      intro h _
      obtain ⟨rfl, rfl⟩ := by simpa using h
      simp [openedTokens, brackets, ho, hc]
  | case6 front t rest hc ih =>
      -- the label is closed
      intro h hfront
      obtain rfl := Token.isPlain_iff.mp hc
      obtain ⟨⟨others, after⟩, hread, heq⟩ := Option.map_eq_some_iff.mp h
      obtain ⟨rfl, rfl⟩ := Prod.mk.inj heq
      obtain ⟨htokens, hothers, hb⟩ := ih hread (by simp)
      refine ⟨?_, fun label hl => ?_, hb⟩
      · simp only [openedTokens, List.nil_append] at htokens
        simp [openedTokens, bracketed, htokens]
      · rcases List.mem_cons.mp hl with rfl | hl
        · exact (hfront front rfl).subset (by simp)
        · exact hothers label hl
  | case7 => simp
  | case8 front t rest hc ho ih =>
      -- a token of the label
      intro h hfront
      have hfree : ∀ front' ∈ some (t :: front), FreeOf brackets front' := by
        simpa [brackets, ho, hc] using hfront
      simpa [openedTokens] using ih h hfree

/-- **What is read as labels.** The labels at the front of a list are found exactly when they stand
there in their brackets, hold no bracket themselves, and what follows begins with none. -/
theorem read_eq_some_iff {tokens behind : List Token} {labels : List (List Token)} :
    read tokens = some (labels, behind) ↔
      tokens = labels.flatMap bracketed ++ behind ∧ (∀ label ∈ labels, FreeOf brackets label) ∧
        FreeOf brackets (behind.take 1) := by
  constructor
  · intro h
    exact readFrom_sound h (by simp)
  · rintro ⟨rfl, hlabels, hb⟩
    exact read_bracketed hlabels hb

end Labels

/-! ### Chains by their parts -/

/-- A chain by its parts. Labels hold no brackets; the filter holds no opening bracket and does not
begin with a closing one; and behind an empty filter there are no destination labels, since they
would be source labels. -/
@[ext] structure ChainForm where
  /-- The tokens of the labels before the filter. -/
  sources : List (List Token)
  /-- The tokens of the filter. -/
  filter : List Token
  /-- The tokens of the labels behind the filter. -/
  destinations : List (List Token)
  sources_free : ∀ label ∈ sources, FreeOf brackets label
  filter_free : FreeOf ['['] filter
  filter_head : FreeOf [']'] (filter.take 1)
  destinations_free : ∀ label ∈ destinations, FreeOf brackets label
  destinations_nil : filter = [] → destinations = []

namespace ChainForm

/-- The tokens of a chain: its parts in a row. -/
def tokens (form : ChainForm) : List Token :=
  form.sources.flatMap bracketed ++ (form.filter ++ form.destinations.flatMap bracketed)

/-- What is handed on of a chain: its labels as they are written, and the tokens of its filter. -/
def parts (form : ChainForm) : ChainParts :=
  ⟨form.sources.map render, form.filter, form.destinations.map render⟩

/-- What stands behind the source labels does not begin with a bracket. -/
theorem behind_sources_free (form : ChainForm) :
    FreeOf brackets ((form.filter ++ form.destinations.flatMap bracketed).take 1) := by
  have hfree := form.filter_free
  have hhead := form.filter_head
  cases hf : form.filter with
  | nil => simp [form.destinations_nil hf]
  | cons t ts =>
      rw [hf] at hfree hhead
      have ho : t.isPlain '[' = false := (freeOf_cons.mp hfree).1 '[' (by simp)
      have hc : t.isPlain ']' = false := (freeOf_cons.mp hhead).1 ']' (by simp)
      simp [brackets, ho, hc]

theorem read_sources (form : ChainForm) :
    Labels.read form.tokens =
      some (form.sources, form.filter ++ form.destinations.flatMap bracketed) :=
  Labels.read_bracketed form.sources_free form.behind_sources_free

theorem read_destinations (form : ChainForm) :
    Labels.read (form.destinations.flatMap bracketed) = some (form.destinations, []) := by
  rw [← List.append_nil (form.destinations.flatMap bracketed)]
  exact Labels.read_bracketed form.destinations_free (by simp)

/-- Every label begins with the bracket at which a filter ends. -/
theorem filterPart_behind (form : ChainForm) :
    filterPart (form.filter ++ form.destinations.flatMap bracketed) = form.filter ∧
      behindFilter (form.filter ++ form.destinations.flatMap bracketed) =
        form.destinations.flatMap bracketed := by
  have hfree : ∀ t ∈ form.filter, (!t.isPlain '[') = true := fun t ht => by
    simpa using form.filter_free t ht
  rw [filterPart, behindFilter, List.takeWhile_append_of_pos hfree,
    List.dropWhile_append_of_pos hfree]
  cases form.destinations with
  | nil => simp
  | cons label labels => simp [bracketed, Token.isPlain]

end ChainForm

theorem decompose_tokens (form : ChainForm) : decompose form.tokens = .ok form.parts := by
  obtain ⟨hfilter, hbehind⟩ := form.filterPart_behind
  simp only [decompose, readSources, form.read_sources]
  show (do
    let destinations ← readDestinations form.tokens (behindFilter _)
    return ChainParts.mk _ (filterPart _) destinations) = _
  rw [hfilter, hbehind, readDestinations, form.read_destinations]
  rfl

theorem exists_form_of_decompose {chain : List Token} {parts : ChainParts}
    (h : decompose chain = .ok parts) :
    ∃ form : ChainForm, form.tokens = chain ∧ form.parts = parts := by
  rw [decompose, readSources] at h
  cases hs : Labels.read chain with
  | none => simp [hs, bind, Except.bind] at h
  | some found =>
      obtain ⟨sources, behind⟩ := found
      obtain ⟨rfl, hsources, hbehind⟩ := Labels.read_eq_some_iff.mp hs
      simp only [hs, readDestinations] at h
      cases hd : Labels.read (behindFilter behind) with
      | none => simp [hd, bind, Except.bind] at h
      | some found =>
          obtain ⟨destinations, rest⟩ := found
          cases rest with
          | cons t ts => simp [hd, bind, Except.bind] at h
          | nil =>
              obtain ⟨hrest, hdestinations, -⟩ := Labels.read_eq_some_iff.mp hd
              rw [List.append_nil] at hrest
              have hsplit : filterPart behind ++ destinations.flatMap bracketed = behind := by
                rw [← hrest]
                exact List.takeWhile_append_dropWhile
              refine ⟨⟨sources, filterPart behind, destinations, hsources,
                freeOf_takeWhile '[' behind, ?_, hdestinations, ?_⟩,
                by rw [ChainForm.tokens, hsplit], ?_⟩
              · -- the filter begins with what stands behind the source labels, if it begins at all
                cases behind with
                | nil => simp [filterPart]
                | cons t ts =>
                    obtain ⟨ho, hc⟩ := isPlain_of_freeOf_brackets hbehind
                    simp [filterPart, ho, hc]
              · intro hnil
                cases behind with
                | nil =>
                    cases destinations with
                    | nil => rfl
                    | cons label labels => simp [bracketed] at hsplit
                | cons t ts =>
                    obtain ⟨ho, -⟩ := isPlain_of_freeOf_brackets hbehind
                    simp [filterPart, ho] at hnil
              · simpa [hd, bind, Except.bind, pure, Except.pure, ChainForm.parts] using h

theorem ChainForm.tokens_injective : Function.Injective ChainForm.tokens := by
  intro form other h
  have hread := form.read_sources
  rw [h, other.read_sources] at hread
  obtain ⟨hsources, hbehind⟩ := Prod.mk.inj (Option.some.inj hread)
  have hfilter : other.filter = form.filter := by
    rw [← other.filterPart_behind.1, hbehind, form.filterPart_behind.1]
  have hlabels : other.destinations.flatMap bracketed = form.destinations.flatMap bracketed := by
    rw [← other.filterPart_behind.2, hbehind, form.filterPart_behind.2]
  have hdestinations := other.read_destinations
  rw [hlabels, form.read_destinations] at hdestinations
  ext1
  · exact hsources.symm
  · exact hfilter.symm
  · exact (Prod.mk.inj (Option.some.inj hdestinations)).1

/-- **The chains that can be cut.** A chain is cut into some parts exactly when it has a form with
these parts, and no chain has two forms. -/
theorem decompose_eq_ok_iff (chain : List Token) (parts : ChainParts) :
    (decompose chain = .ok parts ↔
      ∃ form : ChainForm, form.tokens = chain ∧ form.parts = parts) ∧
    Function.Injective ChainForm.tokens := by
  refine ⟨⟨exists_form_of_decompose, ?_⟩, ChainForm.tokens_injective⟩
  rintro ⟨form, rfl, rfl⟩
  exact decompose_tokens form

end PadGraph
