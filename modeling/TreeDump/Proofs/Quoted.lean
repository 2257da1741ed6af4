import TreeDump.Proofs.Gap
import TreeDump.Text.Quoted

/-! Quoted texts and numbers delimit themselves. Each is told from whatever follows it, a number as long as
no digit does, so that what is quoted trades no character with the words around it. -/
namespace TreeDump
namespace Text

/-- A number is told from words behind it that begin with no digit. -/
lemma decimal_append_inj {words : Text} (h : words.head?.map Char.isDigit = some false) {m n : Nat}
    {x y : Text} :
    decimal m ++ (words ++ x) = decimal n ++ (words ++ y) ↔ m = n ∧ x = y := by
  have hend : ∀ z : Text, ∀ c ∈ (words ++ z).head?, c.isDigit = false := by
    intro z
    cases words with
    | nil => cases h
    | cons c r =>
      rintro _ ⟨⟩
      exact Option.some.inj h
  rw [run_append_inj (fun _ => isDigit_of_mem_decimal) (fun _ => isDigit_of_mem_decimal) (hend x)
    (hend y), decimal_inj, List.append_cancel_left_eq]

lemma decimal_ne_minus (m n : Nat) : decimal m ≠ '-' :: decimal n := by
  intro h
  have hdigit := isDigit_of_mem_decimal (h ▸ List.mem_cons_self : '-' ∈ decimal m)
  cases hdigit

lemma signedDecimal_inj {a b : Int} : signedDecimal a = signedDecimal b ↔ a = b := by
  cases a with
  | ofNat m =>
    cases b with
    | ofNat n => rw [signedDecimal, signedDecimal, decimal_inj, Int.ofNat.injEq]
    | negSucc n => exact iff_of_false (decimal_ne_minus m (n + 1)) Int.noConfusion
  | negSucc m =>
    cases b with
    | ofNat n => exact iff_of_false (decimal_ne_minus n (m + 1)).symm Int.noConfusion
    | negSucc n =>
      rw [signedDecimal, signedDecimal, List.cons.injEq, decimal_inj, Int.negSucc.injEq,
        Nat.succ_inj]
      exact and_iff_right rfl

lemma hexadecimal_of_lt {n : Nat} (h : n < 16) : hexadecimal n = [n.digitChar] :=
  Nat.toDigits_of_lt_base h

lemma hexadecimal_of_le {n : Nat} (h : 16 ≤ n) :
    hexadecimal n = hexadecimal (n / 16) ++ [(n % 16).digitChar] :=
  Nat.toDigits_of_base_le (by decide) h

lemma hexadecimal_ne_nil (n : Nat) : hexadecimal n ≠ [] := Nat.toDigits_ne_nil

lemma digitChar_inj : ∀ a < 16, ∀ b < 16, Nat.digitChar a = Nat.digitChar b → a = b := by
  decide

/-- One digit is not the end of a longer numeral. -/
lemma hexadecimal_ne_of_lt {m n : Nat} (hm : m < 16) (hn : 16 ≤ n) : hexadecimal m ≠ hexadecimal n := by
  intro h
  rw [hexadecimal_of_lt hm, hexadecimal_of_le hn] at h
  have hlength := congrArg List.length h
  have hpos := List.length_pos_iff.2 (hexadecimal_ne_nil (n / 16))
  simp only [List.length_append, List.length_singleton] at hlength
  omega

lemma hexadecimal_inj {m n : Nat} : hexadecimal m = hexadecimal n ↔ m = n := by
  refine ⟨fun h => ?_, congrArg hexadecimal⟩
  -- the induction is on the number, since all but its last digit are those of the quotient
  induction m using Nat.strongRecOn generalizing n with
  | ind m ih =>
    rcases Nat.lt_or_ge m 16 with hm | hm <;> rcases Nat.lt_or_ge n 16 with hn | hn
    · rw [hexadecimal_of_lt hm, hexadecimal_of_lt hn] at h
      exact digitChar_inj m hm n hn (List.cons.inj h).1
    · exact absurd h (hexadecimal_ne_of_lt hm hn)
    · exact absurd h.symm (hexadecimal_ne_of_lt hn hm)
    · rw [hexadecimal_of_le hm, hexadecimal_of_le hn] at h
      obtain ⟨hinit, hlast⟩ := List.append_inj' h rfl
      have hquotient := ih (m / 16) (by omega) hinit
      have hdigit := digitChar_inj (m % 16) (Nat.mod_lt m (by decide)) (n % 16)
        (Nat.mod_lt n (by decide)) (List.cons.inj hlast).1
      omega

lemma brace_not_mem_hexadecimal (n : Nat) : '\x7d' ∉ hexadecimal n := by
  induction n using Nat.strongRecOn with
  | ind n ih =>
    have hdigit : ∀ d : Nat, '\x7d' ≠ d.digitChar := fun d => (Nat.digitChar_ne '\x7d' rfl).symm
    rcases Nat.lt_or_ge n 16 with hn | hn
    · rw [hexadecimal_of_lt hn, List.mem_singleton]
      exact hdigit n
    · rw [hexadecimal_of_le hn, List.mem_append, List.mem_singleton, not_or]
      exact ⟨ih (n / 16) (by omega), hdigit _⟩

/-- The three ways in which quoted text shows a character. -/
inductive Shows : Char → Text → Prop
  | letter {c e : Char} (h : escapeLetter? c = some e) : Shows c ['\\', e]
  | number (c : Char) : Shows c (quoteByNumber c)
  | itself {c : Char} (quote : c ≠ '"') (backslash : c ≠ '\\') : Shows c [c]

lemma shows_quoteChar (c : Char) : Shows c (quoteChar c) := by
  unfold quoteChar
  split
  · next letter h => exact .letter h
  · next h =>
    split
    · exact .number c
    · refine .itself ?_ ?_
      · rintro rfl
        cases h
      · rintro rfl
        cases h

lemma eq_of_escapeLetter? {c d e : Char} (hc : escapeLetter? c = some e)
    (hd : escapeLetter? d = some e) : c = d := by
  unfold escapeLetter? at hc hd
  split at hc <;> cases hc <;> split at hd <;> cases hd <;> rfl

/-- No letter passes for the one that begins a number. -/
lemma escapeLetter?_ne_u (c : Char) : escapeLetter? c ≠ some 'u' := by
  unfold escapeLetter?
  split <;> simp

lemma quoteByNumber_append_inj {c d : Char} {x y : Text}
    (h : quoteByNumber c ++ x = quoteByNumber d ++ y) : c = d ∧ x = y := by
  have hbrace : ∀ z : Text, ∀ b ∈ ('\x7d' :: z).head?, (b != '\x7d') = false := by
    rintro z _ ⟨⟩
    rfl
  simp only [quoteByNumber, List.cons_append, List.append_assoc, List.nil_append, List.cons.injEq,
    true_and] at h
  obtain ⟨hnumber, hrest⟩ := (run_append_inj (bne_of_not_mem (brace_not_mem_hexadecimal c.toNat))
    (bne_of_not_mem (brace_not_mem_hexadecimal d.toNat)) (hbrace x) (hbrace y)).1 h
  exact ⟨Char.toNat_inj.1 (hexadecimal_inj.1 hnumber), (List.cons.inj hrest).2⟩

/-- What a character is shown as is told from what follows. -/
lemma Shows.append_inj {c d : Char} {part part' x y : Text} (hc : Shows c part) (hd : Shows d part')
    (h : part ++ x = part' ++ y) : c = d ∧ x = y := by
  cases hc with
  | letter hc =>
    cases hd with
    | letter hd =>
      simp only [List.cons_append, List.nil_append, List.cons.injEq, true_and] at h
      obtain ⟨rfl, rfl⟩ := h
      exact ⟨eq_of_escapeLetter? hc hd, rfl⟩
    | number =>
      obtain rfl := (List.cons.inj (List.cons.inj h).2).1
      exact absurd hc (escapeLetter?_ne_u c)
    | itself quote backslash => exact absurd (List.cons.inj h).1.symm backslash
  | number =>
    cases hd with
    | letter hd =>
      obtain rfl := (List.cons.inj (List.cons.inj h).2).1
      exact absurd hd (escapeLetter?_ne_u d)
    | number => exact quoteByNumber_append_inj h
    | itself quote backslash => exact absurd (List.cons.inj h).1.symm backslash
  | itself quote backslash =>
    cases hd with
    | letter hd => exact absurd (List.cons.inj h).1 backslash
    | number => exact absurd (List.cons.inj h).1 backslash
    | itself quote' backslash' => exact List.cons.inj h

/-- Nothing between the quotes looks like the closing one. -/
lemma Shows.append_ne {c : Char} {part : Text} (h : Shows c part) (x y : Text) :
    part ++ x ≠ '"' :: y := by
  cases h with
  | letter h => exact fun he => absurd (List.cons.inj he).1 (by decide)
  | number => exact fun he => absurd (List.cons.inj he).1 (by decide)
  | itself quote backslash => exact fun he => quote (List.cons.inj he).1

lemma flatMap_quoteChar_append_inj {s t x y : Text}
    (h : s.flatMap quoteChar ++ '"' :: x = t.flatMap quoteChar ++ '"' :: y) : s = t ∧ x = y := by
  induction s generalizing t with
  | nil =>
    cases t with
    | nil => exact ⟨rfl, (List.cons.inj h).2⟩
    | cons d t =>
      rw [flatMap_quoteChar_cons, List.append_assoc] at h
      exact absurd h.symm ((shows_quoteChar d).append_ne _ _)
  | cons c s ih =>
    rw [flatMap_quoteChar_cons, List.append_assoc] at h
    cases t with
    | nil => exact absurd h ((shows_quoteChar c).append_ne _ _)
    | cons d t =>
      rw [flatMap_quoteChar_cons, List.append_assoc] at h
      obtain ⟨rfl, hrest⟩ := (shows_quoteChar c).append_inj (shows_quoteChar d) h
      obtain ⟨rfl, hxy⟩ := ih hrest
      exact ⟨rfl, hxy⟩

/-- A quoted text is told from what follows it, whatever it holds and whatever follows. -/
theorem quoted_append_inj {s t x y : Text} : quoted s ++ x = quoted t ++ y ↔ s = t ∧ x = y := by
  constructor
  · intro h
    simp only [quoted, List.cons_append, List.append_assoc, List.nil_append, List.cons.injEq,
      true_and] at h
    exact flatMap_quoteChar_append_inj h
  · rintro ⟨rfl, rfl⟩
    rfl

lemma quoted_inj {s t : Text} : quoted s = quoted t ↔ s = t := by
  have h := quoted_append_inj (s := s) (t := t) (x := []) (y := [])
  rwa [List.append_nil, List.append_nil, and_iff_left rfl] at h

end Text
end TreeDump
