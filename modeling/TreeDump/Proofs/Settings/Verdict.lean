import Mathlib.Tactic.Lemma
import TreeDump.Reader.Session
import TreeDump.Settings

/-! The verdict on a list of keys. It is passed in several ways, with a table made or without one, and
all of them agree: the first text that is no composed key is reported. -/
namespace TreeDump

/-- How a composed key is written: a name, and then its final equals sign. -/
def ComposedKey.Written (key : Text) : Prop := ∃ name, name ≠ [] ∧ key = name ++ ['=']

namespace KeyFault

/-- What is wrong with a text that is no composed key. The equals sign takes one byte, so a key of one
byte has no name in front of it. -/
inductive Of : Text → KeyFault → Prop
  | empty : Of [] .empty
  | noTerminator (start : Text) {c : Char} (other : c ≠ '=') : Of (start ++ [c]) .noTerminator
  | noName {name : Text} (one : Text.utf8Size (name ++ ['=']) = 1) : Of (name ++ ['=']) .noName

/-- The first text of a list that is no composed key, with what is wrong with it. -/
def First (keys : List Text) (key : Text) (fault : KeyFault) : Prop :=
  ∃ earlier later, keys = earlier ++ key :: later ∧
    (∀ k ∈ earlier, ComposedKey.Written k) ∧ Of key fault

lemma utf8Size_name_equals (name : Text) : Text.utf8Size (name ++ ['=']) = 1 ↔ name = [] := by
  have hlength := Text.length_le_utf8Size name
  have hequals : Text.utf8Size ['='] = 1 := by decide
  rw [Text.utf8Size_append, hequals, ← List.length_eq_zero_iff]
  constructor
  · omega
  · intro h
    rw [List.length_eq_zero_iff] at h
    rw [h, Text.utf8Size_nil]

/-- A text is a composed key, or something is wrong with it. -/
lemma of?_spec (key : Text) :
    (of? key = none ∧ ComposedKey.Written key) ∨ ∃ fault, of? key = some fault ∧ Of key fault := by
  rcases List.eq_nil_or_concat key with rfl | ⟨start, c, rfl⟩
  · exact .inr ⟨.empty, rfl, .empty⟩
  · rw [List.concat_eq_append, of?_append]
    by_cases hc : c = '='
    · subst hc
      by_cases hs : start = []
      · exact .inr ⟨.noName, by simp [hs], .noName ((utf8Size_name_equals start).2 hs)⟩
      · exact .inl ⟨by simp [hs], start, hs, rfl⟩
    · exact .inr ⟨.noTerminator, by simp [hc], .noTerminator start hc⟩

lemma of?_of_written {key : Text} (h : ComposedKey.Written key) : of? key = none := by
  obtain ⟨name, hne, rfl⟩ := h
  exact ComposedKey.of?_text ⟨name, hne⟩

lemma of?_of_fault {key : Text} {fault : KeyFault} (h : Of key fault) : of? key = some fault := by
  cases h with
  | empty => rfl
  | noTerminator start other => simp [of?_append, other]
  | noName one =>
    rw [of?_append]
    simp [(utf8Size_name_equals _).1 one]

/-- Every text of a list is a composed key, or one is the first that is none. -/
lemma written_or_first (keys : List Text) :
    (∀ key ∈ keys, ComposedKey.Written key) ∨ ∃ key fault, First keys key fault := by
  induction keys with
  | nil => exact .inl nofun
  | cons key more ih =>
    rcases of?_spec key with ⟨-, hkey⟩ | ⟨fault, -, hfault⟩
    · rcases ih with hmore | ⟨bad, fault, earlier, later, rfl, hearlier, hfault⟩
      · exact .inl (List.forall_mem_cons.2 ⟨hkey, hmore⟩)
      · exact .inr ⟨bad, fault, key :: earlier, later, rfl,
          List.forall_mem_cons.2 ⟨hkey, hearlier⟩, hfault⟩
    · exact .inr ⟨key, fault, [], more, rfl, nofun, hfault⟩

lemma First.not_written {keys : List Text} {key : Text} {fault : KeyFault} (h : First keys key fault) :
    ¬ ∀ k ∈ keys, ComposedKey.Written k := by
  obtain ⟨earlier, later, rfl, -, hfault⟩ := h
  intro hall
  have hnone := of?_of_written (hall key (by simp))
  rw [of?_of_fault hfault] at hnone
  cases hnone

end KeyFault

namespace ComposedKey

lemma ofText_of_written {key : Text} (h : Written key) : ∃ k, ofText key = .ok k := by
  obtain ⟨name, hne, rfl⟩ := h
  exact ⟨⟨name, hne⟩, ofText_text ⟨name, hne⟩⟩

end ComposedKey

namespace KeyTable

lemma exists_ofTexts {keys : List Text} (h : ∀ key ∈ keys, ComposedKey.Written key) :
    ∃ table, ofTexts keys = .ok table := by
  induction keys with
  | nil => exact ⟨empty, rfl⟩
  | cons key more ih =>
    obtain ⟨hkey, hmore⟩ := List.forall_mem_cons.1 h
    obtain ⟨k, hk⟩ := ComposedKey.ofText_of_written hkey
    obtain ⟨table, htable⟩ := ih hmore
    exact ⟨⟨k :: table.keys⟩, by simp only [ofTexts, hk, htable]⟩

lemma ofTexts_of_first {keys : List Text} {key : Text} {fault : KeyFault}
    (h : KeyFault.First keys key fault) : ofTexts keys = .error (fault.error key) := by
  obtain ⟨earlier, later, rfl, hearlier, hfault⟩ := h
  induction earlier with
  | nil => simp only [List.nil_append, ofTexts, ComposedKey.ofText_of_fault (KeyFault.of?_of_fault hfault)]
  | cons first more ih =>
    obtain ⟨hfirst, hmore⟩ := List.forall_mem_cons.1 hearlier
    obtain ⟨k, hk⟩ := ComposedKey.ofText_of_written hfirst
    simp only [List.cons_append, ofTexts, hk, ih hmore]

end KeyTable

namespace Settings

lemma validate_cons (key : Text) (more : List Text) :
    validate ⟨key :: more⟩ =
      match KeyFault.of? key with
      | some fault => .error (fault.error key)
      | none => validate ⟨more⟩ := by
  change (match KeyFault.of? key with
    | some fault => .error (fault.error key)
    | none => .ok () : Except Error Unit) >>= (fun _ => validate ⟨more⟩) = _
  cases KeyFault.of? key <;> rfl

lemma validate_cons_of_written {key : Text} (h : ComposedKey.Written key) (more : List Text) :
    validate ⟨key :: more⟩ = validate ⟨more⟩ := by
  rw [validate_cons, KeyFault.of?_of_written h]

lemma validate_of_written {settings : Settings}
    (h : ∀ key ∈ settings.composedKeys, ComposedKey.Written key) : settings.validate = .ok () := by
  obtain ⟨keys⟩ := settings
  induction keys with
  | nil => rfl
  | cons key more ih =>
    obtain ⟨hkey, hmore⟩ := List.forall_mem_cons.1 h
    rw [validate_cons_of_written hkey, ih hmore]

lemma validate_of_first {settings : Settings} {key : Text} {fault : KeyFault}
    (h : KeyFault.First settings.composedKeys key fault) :
    settings.validate = .error (fault.error key) := by
  obtain ⟨keys⟩ := settings
  obtain ⟨earlier, later, rfl, hearlier, hfault⟩ := h
  induction earlier with
  | nil =>
    rw [List.nil_append, validate_cons, KeyFault.of?_of_fault hfault]
  | cons first more ih =>
    obtain ⟨hfirst, hmore⟩ := List.forall_mem_cons.1 hearlier
    rw [List.cons_append, validate_cons_of_written hfirst, ih hmore]

lemma exists_first_of_validate {settings : Settings} {e : Error} (h : settings.validate = .error e) :
    ∃ key fault, KeyFault.First settings.composedKeys key fault ∧ e = fault.error key := by
  rcases KeyFault.written_or_first settings.composedKeys with hall | ⟨key, fault, hfirst⟩
  · rw [validate_of_written hall] at h
    cases h
  · rw [validate_of_first hfirst] at h
    exact ⟨key, fault, hfirst, (Except.error.inj h).symm⟩

lemma validate_of_ofJson {json : Text} {settings : Settings} (h : ofJson json = .ok settings) :
    settings.validate = .ok () := by
  unfold ofJson at h
  split at h
  · cases h
  · split at h
    · cases h
    · split at h
      · cases h
      · next hv =>
        cases h
        exact hv

/-- The ways to have the keys of some settings checked, which come to one verdict: with no table
made, by the table of the settings or of their list, and by a reader, which is then the one that has
this table, so that no session can tell the two apart. -/
structure Checks (settings : Settings) (verdict : Except Error KeyTable) : Prop where
  validate : settings.validate = verdict.map fun _ => ()
  table : settings.table = verdict
  ofTexts : KeyTable.ofTexts settings.composedKeys = verdict
  reader : ∀ dump sink, Reader.ofSettings dump settings sink =
    verdict.map fun keys => Reader.ofText dump keys sink

lemma checks_of_ofTexts {settings : Settings} {verdict : Except Error KeyTable}
    (ofTexts : KeyTable.ofTexts settings.composedKeys = verdict)
    (validate : settings.validate = verdict.map fun _ => ()) : settings.Checks verdict where
  validate := validate
  table := ofTexts
  ofTexts := ofTexts
  reader dump sink := by rw [Reader.ofSettings, table, ofTexts]

/-- All ways to check a list of keys agree. The list is accepted exactly if each of its texts is a
name and a final equals sign, and its table then has these texts, in this order. Otherwise the first
text that is none is reported, whatever follows it. Settings that JSON is read into are accepted. -/
theorem checks_agree (settings : Settings) :
    ∃ verdict, settings.Checks verdict ∧
      ((∃ table, verdict = .ok table) ↔ ∀ key ∈ settings.composedKeys, ComposedKey.Written key) ∧
      (∀ table, verdict = .ok table →
        table.texts = settings.composedKeys ∧ table.size = settings.composedKeys.length) ∧
      (∀ e, verdict = .error e ↔ ∃ key fault, KeyFault.First settings.composedKeys key fault ∧
        e = .invalidComposedKey key fault.message.toList) ∧
      ∀ json, ofJson json = .ok settings → ∃ table, verdict = .ok table := by
  rcases KeyFault.written_or_first settings.composedKeys with hall | ⟨key, fault, hfirst⟩
  · obtain ⟨table, htable⟩ := KeyTable.exists_ofTexts hall
    have htexts := KeyTable.texts_of_ofTexts htable
    have hsize : table.size = settings.composedKeys.length := by
      rw [← htexts, KeyTable.texts, List.length_map, KeyTable.size]
    refine ⟨.ok table, checks_of_ofTexts htable (validate_of_written hall), ?_, ?_, ?_, ?_⟩
    · exact ⟨fun _ => hall, fun _ => ⟨table, rfl⟩⟩
    · rintro _ ⟨⟩
      exact ⟨htexts, hsize⟩
    · intro e
      constructor
      · intro he
        cases he
      · rintro ⟨key, fault, hfirst, -⟩
        exact absurd hall hfirst.not_written
    · exact fun _ _ => ⟨table, rfl⟩
  · have htexts := KeyTable.ofTexts_of_first hfirst
    have hvalidate := validate_of_first hfirst
    refine ⟨_, checks_of_ofTexts htexts hvalidate, ?_, ?_, ?_, ?_⟩
    · refine ⟨?_, fun hall => absurd hall hfirst.not_written⟩
      rintro ⟨table, he⟩
      cases he
    · intro table he
      cases he
    · intro e
      constructor
      · intro he
        exact ⟨key, fault, hfirst, (Except.error.inj he).symm⟩
      · rintro ⟨other, wrong, hother, rfl⟩
        exact htexts.symm.trans (KeyTable.ofTexts_of_first hother)
    · intro json hjson
      rw [validate_of_ofJson hjson] at hvalidate
      cases hvalidate

end Settings
end TreeDump
