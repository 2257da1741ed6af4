import TreeDump.Proofs.Json.Skipping
import TreeDump.Proofs.Settings.Verdict

/-! The members of an object with settings. One of them has the composed keys, and the others are passed
over, whatever their values are. -/
namespace TreeDump
namespace Settings

open Json

/-- The member has this name, in any of its spellings. -/
def Named (name : Text) (e : Entry) : Prop :=
  ∃ p : Padded, SpellsString name p.core ∧ e.lead = p.text ++ [':']

lemma named_bare {name spelled : Text} (h : SpellsString name spelled) (value : Padded) :
    Named name ⟨spelled ++ [':'], value⟩ := by
  refine ⟨.bare spelled, h, ?_⟩
  rw [Padded.text_bare]

/-- A member that settings do not know, with any value. -/
def Unknown (e : Entry) : Prop := Value e.value.core ∧ ∃ name, name ≠ keysName ∧ Named name e

/-- The member with the composed keys. -/
def Lists (keys : List Text) (e : Entry) : Prop := Named keysName e ∧ SpellsStrings keys e.value.core

/-- What is known of the composed keys in front of a member and behind it. They are listed only once. -/
inductive Finds : Option (List Text) → Entry → Option (List Text) → Prop
  | unknown {keys : Option (List Text)} {e : Entry} (h : Unknown e) : Finds keys e keys
  | own {keys : List Text} {e : Entry} (h : Lists keys e) : Finds none e (some keys)

inductive FindsAll : Option (List Text) → List Entry → Option (List Text) → Prop
  | nil {keys : Option (List Text)} : FindsAll keys [] keys
  | cons {keys found last : Option (List Text)} {e : Entry} {others : List Entry}
    (head : Finds keys e found) (tail : FindsAll found others last) : FindsAll keys (e :: others) last

lemma findsAll_unknown {members : List Entry} (h : ∀ e ∈ members, Unknown e)
    (keys : Option (List Text)) : FindsAll keys members keys := by
  induction members with
  | nil => exact .nil
  | cons e others ih =>
    obtain ⟨he, hothers⟩ := List.forall_mem_cons.1 h
    exact .cons (.unknown he) (ih hothers)

lemma FindsAll.append {keys found last : Option (List Text)} {earlier later : List Entry}
    (h : FindsAll keys earlier found) (h' : FindsAll found later last) :
    FindsAll keys (earlier ++ later) last := by
  induction h with
  | nil => exact h'
  | cons head _ ih => exact .cons head (ih h')

/-- Where a member begins: behind the opening bracket, or behind another member and a comma. -/
inductive Begins (e : Entry) (rest : Text) : Bool → Text → Prop
  | first {blanks : Text} (h : Blanks blanks) : Begins e rest true (blanks ++ (e.text ++ rest))
  | next {blanks : Text} (h : Blanks blanks) : Begins e rest false (blanks ++ ',' :: (e.text ++ rest))

variable {first : Bool} {keys found : Option (List Text)} {t name rest blanks : Text} {e : Entry}

lemma Named.scanMember_begins (h : Named name e) (hb : Begins e rest first t) :
    ∃ r, scanMember first t = .ok (some name, r) ∧ scanColon r = .ok (e.value.text ++ rest) := by
  obtain ⟨p, hname, hlead⟩ := h
  obtain ⟨r, hquote, hscan⟩ := hname.scanString_tail (p.after ++ ':' :: (e.value.text ++ rest))
  have htext : e.text ++ rest = p.before ++ '"' :: r := by
    rw [← hquote]
    simp [Entry.text, hlead, Padded.text]
  refine ⟨p.after ++ ':' :: (e.value.text ++ rest), ?_, ?_⟩
  · cases hb with
    | first hblanks =>
      rw [htext, ← List.append_assoc, scanMember,
        skipBlanks_append_cons (hblanks.append p.blanks_before) (by decide)]
      simp [hscan, Except.map]
    | next hblanks =>
      rw [htext, scanMember, skipBlanks_append_cons hblanks (by decide)]
      simp [skipBlanks_append_cons p.blanks_before (show isBlank '"' = false by decide), hscan,
        Except.map]
  · have hcolon : isBlank ':' = false := by decide
    simp only [scanColon, skipBlanks_append_cons p.blanks_after hcolon, if_true]

lemma scanMember_closing (first : Bool) (h : Blanks blanks) (rest : Text) :
    scanMember first (blanks ++ '\x7d' :: rest) = .ok (none, rest) := by
  simp [scanMember, skipBlanks_append_cons h (show isBlank '\x7d' = false by decide)]

lemma scanMemberValue_unknown {r : Text} (hname : name ≠ keysName) (h : Value e.value.core)
    (hr : EndsNumber (e.value.after ++ rest)) (hcolon : scanColon r = .ok (e.value.text ++ rest))
    (keys : Option (List Text)) :
    scanMemberValue name keys r = .ok (keys, e.value.after ++ rest) := by
  have hskip : skipValue (e.value.text ++ rest) = .ok (e.value.after ++ rest) := by
    rw [skipValue, skipValues_padded]
    exact h.skipValue_append hr
  simp only [scanMemberValue, if_neg hname, hcolon, hskip]
  rfl

lemma scanMemberValue_own {keys : List Text} {r : Text} (h : SpellsStrings keys e.value.core)
    (hcolon : scanColon r = .ok (e.value.text ++ rest)) :
    scanMemberValue keysName none r = .ok (some keys, e.value.after ++ rest) := by
  have hlist : scanStringList (e.value.text ++ rest) = .ok (keys, e.value.after ++ rest) := by
    rw [Padded.text_append]
    exact scanStringList_of_spells h e.value.blanks_before _
  simp only [scanMemberValue, hcolon, hlist]
  rfl

lemma scanMembers_next {last : Text} (hm : scanMember first t = .ok (some name, rest))
    (hv : scanMemberValue name keys rest = .ok (found, last)) :
    scanMembers first keys t = scanMembers false found last := by
  rw [scanMembers]
  split
  · next he => cases hm.symm.trans he
  · next he => cases hm.symm.trans he
  · next he =>
    cases hm.symm.trans he
    split
    · next he => cases hv.symm.trans he
    · next he =>
      cases hv.symm.trans he
      rfl

lemma scanMembers_closing (first : Bool) (keys : Option (List Text)) (h : Blanks blanks)
    (rest : Text) : scanMembers first keys (blanks ++ '\x7d' :: rest) = .ok (keys, rest) := by
  have hend := scanMember_closing first h rest
  rw [scanMembers]
  split
  · next he => cases hend.symm.trans he
  · next he =>
    cases hend.symm.trans he
    rfl
  · next he => cases hend.symm.trans he

/-- A scan takes one member, and goes on behind its value with what it found there. -/
lemma Finds.scanMembers_begins (h : Finds keys e found) (hb : Begins e rest first t)
    (hr : EndsNumber (e.value.after ++ rest)) :
    scanMembers first keys t = scanMembers false found (e.value.after ++ rest) := by
  cases h with
  | unknown h =>
    obtain ⟨hvalue, name, hne, hname⟩ := h
    obtain ⟨r, hm, hcolon⟩ := hname.scanMember_begins hb
    exact scanMembers_next hm (scanMemberValue_unknown hne hvalue hr hcolon keys)
  | own h =>
    obtain ⟨r, hm, hcolon⟩ := h.1.scanMember_begins hb
    exact scanMembers_next hm (scanMemberValue_own h.2 hcolon)

/-- Behind a member a scan takes the others, one after the other, and the end of the object. -/
theorem FindsAll.scanMembers_remainder {members : List Entry} (h : FindsAll keys members found)
    (hb : Blanks blanks) (rest : Text) :
    scanMembers false keys (blanks ++ Bracket.object.remainder members rest) = .ok (found, rest) := by
  induction h generalizing blanks with
  | nil => exact scanMembers_closing false _ hb rest
  | @cons _ _ _ e others head _ ih =>
    rw [Bracket.remainder_cons, head.scanMembers_begins (.next hb)
      (endsNumber_remainder e.value.blanks_after others rest)]
    exact ih e.value.blanks_after

/-- Settings are scanned from an object by its members, whatever follows it. -/
theorem FindsAll.scan_group {members : List Entry} (h : FindsAll none members found)
    {before : Text} (hbefore : Blanks before) (hb : Blanks blanks) (rest : Text) :
    scan (before ++ (Bracket.object.group blanks members ++ rest)) =
      .ok (⟨found.getD standardKeys⟩, rest) := by
  have hopening : isBlank '\x7b' = false := by decide
  cases h with
  | nil =>
    rw [Bracket.group_nil_append, Bracket.opening]
    simp only [scan, skipBlanks_append_cons hbefore hopening]
    rw [Bracket.closing, scanMembers_closing true none hb]
    rfl
  | @cons _ _ _ e others head tail =>
    rw [Bracket.group_cons_append, Bracket.opening]
    simp only [scan, skipBlanks_append_cons hbefore hopening]
    rw [head.scanMembers_begins (.first hb) (endsNumber_remainder e.value.blanks_after others rest),
      tail.scanMembers_remainder e.value.blanks_after]
    rfl

/-- The text is an object with these members. Blanks may stand around it. -/
def IsObject (members : List Entry) (t : Text) : Prop :=
  ∃ (p : Padded) (blanks : Text), Blanks blanks ∧ p.core = Bracket.object.group blanks members ∧
    t = p.text

lemma isObject_group (members : List Entry) : IsObject members (Bracket.object.group [] members) :=
  ⟨.bare (Bracket.object.group [] members), [], blanks_nil, rfl, (Padded.text_bare _).symm⟩

/-- Settings that are read from an object have the keys that its members list, if these are valid. -/
theorem FindsAll.ofJson_object {members : List Entry} (h : FindsAll none members found)
    (ht : IsObject members t) :
    ofJson t = (⟨found.getD standardKeys⟩ : Settings).validate.map fun _ =>
      ⟨found.getD standardKeys⟩ := by
  obtain ⟨p, blanks, hb, hcore, rfl⟩ := ht
  have hscan : scan p.text = .ok (⟨found.getD standardKeys⟩, p.after) := by
    rw [Padded.text, hcore]
    exact h.scan_group p.blanks_before hb p.after
  have hend : scanEnd p.after = .ok () := by rw [scanEnd, skipBlanks_of_blanks p.blanks_after]
  simp only [ofJson, hscan, hend]
  cases validate ⟨found.getD standardKeys⟩ <;> rfl

/-- Members that settings do not know change nothing, wherever they stand and whatever they hold. With them
in front of the composed keys and behind these, settings are read as from the composed keys alone:
the keys are taken if all are valid, or else the first that is not is reported. Where no member
lists any, the standard ones are taken. -/
theorem ofJson_ignores_unknown {keys : List Text} {earlier later : List Entry} {own : Entry}
    {json : Text} (unknown : ∀ e ∈ earlier ++ later, Unknown e) (lists : Lists keys own)
    (object : IsObject (earlier ++ own :: later) json) :
    (∀ other alone, Lists keys other → IsObject [other] alone → ofJson json = ofJson alone) ∧
    ((∀ key ∈ keys, ComposedKey.Written key) → ofJson json = .ok ⟨keys⟩) ∧
    (∀ key fault, KeyFault.First keys key fault →
      ofJson json = .error (.invalidComposedKey key fault.message.toList)) ∧
    ∀ without, IsObject (earlier ++ later) without → ofJson without = .ok standard := by
  obtain ⟨hearlier, hlater⟩ := List.forall_mem_append.1 unknown
  have hfinds : FindsAll none (earlier ++ own :: later) (some keys) :=
    (findsAll_unknown hearlier none).append (.cons (.own lists) (findsAll_unknown hlater _))
  have hjson : ofJson json = (⟨keys⟩ : Settings).validate.map fun _ => ⟨keys⟩ :=
    hfinds.ofJson_object object
  refine ⟨?_, ?_, ?_, ?_⟩
  · intro other alone hother halone
    have hlists : FindsAll none [other] (some keys) := .cons (.own hother) .nil
    exact hjson.trans (hlists.ofJson_object halone).symm
  · intro hwritten
    rw [hjson, validate_of_written hwritten]
    rfl
  · intro key fault hfirst
    rw [hjson, validate_of_first hfirst]
    rfl
  · intro without hwithout
    exact (findsAll_unknown unknown none).ofJson_object hwithout

/-- A member with a value that holds brackets in brackets, a number with an exponent, the name of the
composed keys where it must not be taken, and an escape that stands for no character. -/
def nested : Entry where
  lead := "\"keys\":".toList
  value := .mk " ".toList "[\x7b\"composed_keys\" : -1e+2\x7d, \"\\ud800]\"]".toList "\n".toList

def listed : Entry where
  lead := "\"composed_keys\":".toList
  value := .bare "[\"a=\", \"=\"]".toList

lemma unknown_nested : Unknown nested := by
  have hplain : ∀ c ∈ keysName, c ≠ '"' ∧ c ≠ '\\' ∧ ' ' ≤ c := by decide
  have hname : IsString "\"composed_keys\"".toList :=
    @IsString.mk (keysName.map fun c => [c]) (List.forall_mem_map.2 fun c hc =>
      .plain (hplain c hc).1 (hplain c hc).2.1 (hplain c hc).2.2)
  have hnumber : Value "-1e+2".toList :=
    .number (@Number.mk ['-'] ['1'] [] ['e', '+', '2'] (.inr rfl) (by decide) .none
      (@Exponent.some 'e' ['+'] ['2'] (.inl rfl) (.inr (.inl rfl)) (by decide)))
  have hobject : Value "\x7b\"composed_keys\" : -1e+2\x7d".toList := by
    refine @Value.group .object [] [⟨"\"composed_keys\" :".toList, .mk " ".toList "-1e+2".toList []⟩]
      blanks_nil ?_ ?_
    · exact List.forall_mem_singleton.2 (@Lead.object (.mk [] _ " ".toList) hname)
    · exact List.forall_mem_singleton.2 hnumber
  have hescape : IsString "\"\\ud800]\"".toList :=
    @IsString.mk ["\\ud800".toList, "]".toList] (List.forall_mem_cons.2
      ⟨@Character.number "d800".toList rfl (by decide), List.forall_mem_singleton.2
        (.plain (by decide) (by decide) (by decide))⟩)
  refine ⟨?_, "keys".toList, by decide, named_bare (spellsString_writeString _) _⟩
  refine @Value.group .list [] [⟨[], .bare "\x7b\"composed_keys\" : -1e+2\x7d".toList⟩,
    ⟨[], .mk " ".toList "\"\\ud800]\"".toList []⟩] blanks_nil ?_ ?_
  · exact List.forall_mem_cons.2 ⟨.list, List.forall_mem_singleton.2 .list⟩
  · exact List.forall_mem_cons.2 ⟨hobject, List.forall_mem_singleton.2 (.string hescape)⟩

/-- Here the second key is the first that is not valid. -/
theorem ofJson_ignores_nested :
    ofJson ("\x7b\"keys\": [\x7b\"composed_keys\" : -1e+2\x7d, \"\\ud800]\"]\n".toList ++
        ",\"composed_keys\":[\"a=\", \"=\"]\x7d ".toList) =
        .error (.invalidComposedKey "=".toList "key has no name before '='".toList) ∧
      ofJson "\x7b\"keys\": [\x7b\"composed_keys\" : -1e+2\x7d, \"\\ud800]\"]\n\x7d".toList =
        .ok standard := by
  have hkeys : SpellsStrings ["a=".toList, "=".toList] "[\"a=\", \"=\"]".toList :=
    @SpellsStrings.mk _ [] [.bare "\"a=\"".toList, .mk " ".toList "\"=\"".toList []] blanks_nil
      (.cons (spellsString_writeString _) (.cons (spellsString_writeString _) .nil))
  have hown : Lists ["a=".toList, "=".toList] listed :=
    ⟨named_bare (spellsString_writeString keysName) _, hkeys⟩
  have hobject : IsObject [nested, listed]
      ("\x7b\"keys\": [\x7b\"composed_keys\" : -1e+2\x7d, \"\\ud800]\"]\n".toList ++
        ",\"composed_keys\":[\"a=\", \"=\"]\x7d ".toList) :=
    ⟨.mk [] _ " ".toList, [], blanks_nil, rfl, by decide⟩
  have halone : IsObject [nested]
      "\x7b\"keys\": [\x7b\"composed_keys\" : -1e+2\x7d, \"\\ud800]\"]\n\x7d".toList :=
    ⟨.mk [] _ [], [], blanks_nil, rfl, by decide⟩
  have h := @ofJson_ignores_unknown _ [nested] [] _ _ (List.forall_mem_singleton.2 unknown_nested) hown
    hobject
  have hfirst : KeyFault.First ["a=".toList, "=".toList] "=".toList .noName :=
    ⟨["a=".toList], [], rfl, List.forall_mem_singleton.2 ⟨['a'], by decide, rfl⟩,
      @KeyFault.Of.noName [] (by decide)⟩
  exact ⟨h.2.2.1 _ _ hfirst, h.2.2.2 _ halone⟩

end Settings
end TreeDump
