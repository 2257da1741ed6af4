import TreeDump.Proofs.Settings.Members

/-! Settings through JSON. What was written is read back, and only then are the keys checked, so that
settings that are not valid come back as the error that they deserve. -/
namespace TreeDump
namespace Settings

open Json

/-- The only member of settings that are written. -/
def written (keys : List Text) : Entry :=
  ⟨writeString keysName ++ [':'], .bare (writeStrings keys)⟩

lemma lists_written (keys : List Text) : Lists keys (written keys) :=
  ⟨named_bare (spellsString_writeString keysName) _, spellsStrings_writeStrings keys⟩

lemma toJson_eq (settings : Settings) :
    settings.toJson = Bracket.object.group [] [written settings.composedKeys] := by
  simp [toJson, written, Bracket.group, Bracket.opening, Bracket.closing, Text.separatedBy,
    Entry.text]

lemma isObject_toJson (settings : Settings) :
    IsObject [written settings.composedKeys] settings.toJson := by
  rw [toJson_eq]
  exact isObject_group _

lemma findsAll_written (keys : List Text) : FindsAll none [written keys] (some keys) :=
  .cons (.own (lists_written keys)) .nil

/-- Settings are scanned as they were written, valid or not. -/
lemma scan_toJson (settings : Settings) : scan settings.toJson = .ok (settings, []) := by
  have h := (findsAll_written settings.composedKeys).scan_group blanks_nil blanks_nil []
  rwa [← toJson_eq, List.append_nil, List.nil_append] at h

lemma ofJson_toJson_eq (settings : Settings) :
    ofJson settings.toJson = settings.validate.map fun _ => settings :=
  (findsAll_written settings.composedKeys).ofJson_object settings.isObject_toJson

/-- Settings come back from JSON as they were written. If they are not valid then the error is the one
that checking them gives, about the first text that is no composed key, and never a fault of the JSON.
Different settings are written differently, even where no reader would take them. -/
theorem ofJson_toJson (settings : Settings) :
    (settings.validate = .ok () → ofJson settings.toJson = .ok settings) ∧
    (∀ e, settings.validate = .error e → ofJson settings.toJson = .error e ∧
      ∃ key fault, KeyFault.First settings.composedKeys key fault ∧
        e = .invalidComposedKey key fault.message.toList) ∧
    ∀ other : Settings, other.toJson = settings.toJson → other = settings := by
  refine ⟨?_, ?_, ?_⟩
  · intro h
    rw [ofJson_toJson_eq, h]
    rfl
  · intro e h
    rw [ofJson_toJson_eq, h]
    exact ⟨rfl, exists_first_of_validate h⟩
  · intro other h
    have hscan := scan_toJson other
    rw [h, scan_toJson] at hscan
    cases hscan
    rfl

/-- Keys of quotes, backslashes, control characters and characters beyond the basic plane, and a list
with two texts that are no keys. -/
theorem ofJson_toJson_odd_keys :
    ofJson (toJson ⟨["\"\\\n\x01=".toList, "\x7f𝒯=".toList, "\x7f𝒯=".toList]⟩) =
        .ok ⟨["\"\\\n\x01=".toList, "\x7f𝒯=".toList, "\x7f𝒯=".toList]⟩ ∧
      ofJson (toJson ⟨["𝒯=".toList, "\"".toList, []]⟩) =
        .error (.invalidComposedKey "\"".toList "key must end with '='".toList) :=
  ⟨(ofJson_toJson ⟨["\"\\\n\x01=".toList, "\x7f𝒯=".toList, "\x7f𝒯=".toList]⟩).1 (by rfl),
    ((ofJson_toJson ⟨["𝒯=".toList, "\"".toList, []]⟩).2.1 _ (by rfl)).1⟩

end Settings
end TreeDump
