import TreeDump.Proofs.Token.Boundary

/-! Layouts: tokens in order with gaps before, between and behind them. A dump is written as a layout,
and what a reader has consumed of a dump is one. -/
namespace TreeDump

/-- A gap, and then any number of tokens with a gap behind each. -/
inductive Layout where
  | last (gap : Text)
  | next (gap : Text) (token : Token) (more : Layout)
  deriving DecidableEq, Repr

namespace Layout

def text : Layout → Text
  | last gap => gap
  | next gap token more => gap ++ (token.text ++ more.text)

def tokens : Layout → List Token
  | last _ => []
  | next _ token more => token :: more.tokens

def finalGap : Layout → Text
  | last gap => gap
  | next _ _ more => more.finalGap

def GapsOnly : Layout → Prop
  | last gap => Text.GapOnly gap
  | next gap _ more => Text.GapOnly gap ∧ more.GapsOnly

/-- No token runs on into what is written behind it. -/
def KeptApart : Layout → Prop
  | last _ => True
  | next _ token more => token.EndsBefore more.text ∧ more.KeptApart

instance decidableGapsOnly : (layout : Layout) → Decidable layout.GapsOnly
  | last gap => inferInstanceAs (Decidable (Text.GapOnly gap))
  | next _ _ more => @instDecidableAnd _ _ _ (decidableGapsOnly more)

instance decidableKeptApart : (layout : Layout) → Decidable layout.KeptApart
  | last _ => isTrue trivial
  | next _ _ more => @instDecidableAnd _ _ _ (decidableKeptApart more)

/-- There is something in the gap that stands before the first token, if there is a token. -/
def Leads : Layout → Prop
  | last _ => True
  | next gap _ _ => gap ≠ []

/-- There is something in every gap between two tokens. -/
def Spaced : Layout → Prop
  | last _ => True
  | next _ _ more => more.Leads ∧ more.Spaced

instance decidableLeads : (layout : Layout) → Decidable layout.Leads
  | last _ => isTrue trivial
  | next gap _ _ => inferInstanceAs (Decidable (gap ≠ []))

instance decidableSpaced : (layout : Layout) → Decidable layout.Spaced
  | last _ => isTrue trivial
  | next _ _ more => @instDecidableAnd _ _ _ (decidableSpaced more)

def prepend (gap : Text) : Layout → Layout
  | last g => last (gap ++ g)
  | next g token more => next (gap ++ g) token more

@[simp] lemma text_prepend (gap : Text) (layout : Layout) :
    (layout.prepend gap).text = gap ++ layout.text := by
  cases layout <;> simp [prepend, text]

@[simp] lemma tokens_prepend (gap : Text) (layout : Layout) :
    (layout.prepend gap).tokens = layout.tokens := by
  cases layout <;> simp [prepend, tokens]

lemma GapsOnly.prepend {gap : Text} (hg : Text.GapOnly gap) {layout : Layout} (h : layout.GapsOnly) :
    (layout.prepend gap).GapsOnly := by
  cases layout with
  | last g => exact hg.append h
  | next g token more => exact ⟨hg.append h.1, h.2⟩

lemma GapsOnly.finalGap {layout : Layout} (h : layout.GapsOnly) : Text.GapOnly layout.finalGap := by
  induction layout with
  | last gap => exact h
  | next gap token more ih => exact ih h.2

/-- All that a layout has but gaps stands in its tokens. -/
lemma mem_text_iff {layout : Layout} (hg : layout.GapsOnly) {c : Char} (hc : Text.isGap c = false) :
    c ∈ layout.text ↔ ∃ token ∈ layout.tokens, c ∈ token.text := by
  have hnot : ∀ {gap : Text}, Text.GapOnly gap → c ∉ gap := by
    intro gap hgap hm
    rw [hgap c hm] at hc
    cases hc
  induction layout with
  | last gap => simp [text, tokens, hnot hg]
  | next gap token more ih => simp [text, tokens, hnot hg.1, ih hg.2]

/-- A gap keeps every token apart from what follows it. -/
lemma endsBefore_of_gap {rest : Text} (h : ∀ c ∈ rest.head?, Text.isGap c = true) (token : Token) :
    token.EndsBefore rest := by
  have hd : ∀ c ∈ rest.head?, c.isDigit = false := by
    intro c hc
    rcases (Text.isGap_iff c).1 (h c hc) with rfl | rfl <;> rfl
  cases token with
  | identifier name => exact fun c hc => Or.inl (h c hc)
  | location place => exact hd
  | declaration declared => exact hd
  | _ => trivial

lemma Leads.isGap_head {layout : Layout} (hl : layout.Leads) (hg : layout.GapsOnly) :
    ∀ c ∈ layout.text.head?, Text.isGap c = true := by
  cases layout with
  | last gap => exact fun c hc => hg c (List.mem_of_mem_head? hc)
  | next gap token more =>
    obtain ⟨d, r, rfl⟩ := List.exists_cons_of_ne_nil hl
    intro c hc
    simp only [text, List.cons_append, List.head?_cons, Option.mem_some_iff] at hc
    exact hg.1 c (hc ▸ List.mem_cons_self)

lemma Spaced.keptApart {layout : Layout} (hs : layout.Spaced) (hg : layout.GapsOnly) :
    layout.KeptApart := by
  induction layout with
  | last gap => trivial
  | next gap token more ih =>
    exact ⟨endsBefore_of_gap (hs.1.isGap_head hg.2) token, ih hs.2 hg.2⟩

end Layout
end TreeDump
