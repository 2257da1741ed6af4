import TreeDump.Text.Basic

/-! Strings between delimiters. A string ends at the first closing delimiter after the opening one,
has no escapes and at least one character. -/
namespace TreeDump

/-- A pair of delimiters. They may be the same character. -/
structure Delimiters where
  opening : Char
  closing : Char
  deriving DecidableEq, Repr

namespace Delimiters

def doubleQuotes : Delimiters := ⟨'"', '"'⟩

def singleQuotes : Delimiters := ⟨'\'', '\''⟩

def brackets : Delimiters := ⟨'[', ']'⟩

def wrap (d : Delimiters) (content : Text) : Text := d.opening :: (content ++ [d.closing])

/-- Whether a delimited string stands at the start of a text: an opening delimiter, a character that
does not close, and a closing delimiter somewhere after it. -/
def starts (d : Delimiters) : Text → Bool
  | o :: c :: r => o == d.opening && c != d.closing && r.contains d.closing
  | _ => false

/-- The content of the delimited string at the start of a text, and what follows the string. -/
def read? (d : Delimiters) : Text → Option (Text × Text)
  | [] => none
  | o :: r =>
    if o = d.opening then
      match r.takeWhile (· != d.closing), r.dropWhile (· != d.closing) with
      | c :: content, _ :: rest => some (c :: content, rest)
      | _, _ => none
    else none

/-- Dropping everything before a character leaves nothing only where there is no such character. -/
theorem dropWhile_ne_eq_nil_iff (c : Char) (t : Text) : t.dropWhile (· != c) = [] ↔ c ∉ t := by
  induction t with
  | nil => simp
  | cons d r ih =>
    by_cases hd : d = c
    · simp [hd]
    · have hc : ¬ c = d := fun h => hd h.symm
      simp [hd, hc, ih]

theorem read?_isSome (d : Delimiters) (t : Text) : (d.read? t).isSome = d.starts t := by
  cases t with
  | nil => rfl
  | cons o r =>
    by_cases ho : o = d.opening
    · cases r with
      | nil => simp [read?, starts]
      | cons c s =>
        by_cases hc : c = d.closing
        · simp [read?, starts, hc]
        · have hn := dropWhile_ne_eq_nil_iff d.closing s
          cases hd : s.dropWhile (· != d.closing) with
          | nil => simp [read?, starts, ho, hc, hd, hn.1 hd]
          | cons e rest =>
            have hin : d.closing ∈ s :=
              Classical.byContradiction fun h => by simp [hn.2 h] at hd
            simp [read?, starts, ho, hc, hd, hin]
    · cases r <;> simp [read?, starts, ho]

/-- A reading takes the string with its delimiters off the front of the text. -/
theorem wrap_append_of_read? {d : Delimiters} {t content rest : Text}
    (h : d.read? t = some (content, rest)) : d.wrap content ++ rest = t := by
  cases t with
  | nil => cases h
  | cons o r =>
    simp only [read?] at h
    split at h
    · next ho =>
      split at h
      · next c tail e last hc hl =>
        cases h
        have hd := List.head?_dropWhile_not (· != d.closing) r
        have hr := List.takeWhile_append_dropWhile (p := (· != d.closing)) (l := r)
        simp only [hl, List.head?_cons, bne_eq_false_iff_eq] at hd
        rw [hc, hl, hd] at hr
        simp [wrap, ← hr, ho]
      · cases h
    · cases h

end Delimiters
end TreeDump
