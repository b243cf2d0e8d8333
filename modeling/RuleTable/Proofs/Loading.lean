import RuleTable.Directory
import RuleTable.Grammar
import RuleTable.Proofs.Encoding

/-!
What is read from the bytes of a file. A file that holds the encoding of a text is read as that
text and without a warning; any other file is read with one warning before all else. Either way
the ASCII characters of what is read are the ASCII bytes of the file, so nothing that parts lines,
labels or operands is lost or made up.
-/
namespace RuleTable.Loading

open Decoding Encoding

/-- The event says that bytes were replaced. -/
def WarnsOfReplacement (e : Event) : Prop :=
  e.message = "Grammar is not valid UTF-8, invalid bytes were replaced".toList ∧ e.level = .warn

theorem head?_message_of_warn {e : Event} (h : e.level = .warn) :
    e.message.head? = some 'G' ↔ ∃ path, e = .replacedBytes path := by
  cases e with
  | notDefinition line raw =>
    have hhead : (Event.notDefinition line raw).message.head? = some 'N' := rfl
    simp [hhead]
  | missingPart line raw =>
    have hhead : (Event.missingPart line raw).message.head? = some 'R' := rfl
    simp [hhead]
  | noOperands line label =>
    have hhead : (Event.noOperands line label).message.head? = some 'R' := rfl
    simp [hhead]
  | mixedMarkers line label used =>
    have hhead : (Event.mixedMarkers line label used).message.head? = some 'R' := rfl
    simp [hhead]
  | replacedBytes path => exact ⟨fun _ => ⟨path, rfl⟩, fun _ => rfl⟩
  | parsedRule => cases h
  | parsedGrammar => cases h
  | generatedCode => cases h
  | aborting => cases h

theorem warnsOfReplacement_iff (e : Event) :
    WarnsOfReplacement e ↔ ∃ path, e = .replacedBytes path := by
  constructor
  · rintro ⟨hmessage, hlevel⟩
    rw [← head?_message_of_warn hlevel, hmessage]
    rfl
  · rintro ⟨path, rfl⟩
    exact ⟨rfl, rfl⟩

/-- No line reports that bytes were replaced. -/
theorem not_warnsOfReplacement_of_mem_parseEvents {s : Text} {e : Event}
    (h : e ∈ Grammar.parseEvents s) : ¬WarnsOfReplacement e := by
  obtain ⟨numbered, -, he⟩ := List.mem_flatMap.mp h
  rw [warnsOfReplacement_iff]
  rintro ⟨path, rfl⟩
  unfold Line.events at he
  cases hreading : Line.reading numbered.2 with
  | blank => simp [hreading, Reading.events] at he
  | notDefinition => simp [hreading, Reading.events] at he
  | missingPart => simp [hreading, Reading.events] at he
  | noOperands label => simp [hreading, Reading.events] at he
  | defines d => simp [hreading, Reading.events, Definition.events] at he

theorem map_toNat_decode (bytes : Bytes) :
    ((Utf8.decode bytes).map Char.toNat).filter (· < 0x80) =
      (bytes.map UInt8.toNat).filter (· < 0x80) := by
  have hread := congrArg (List.map Char.toNat) (filter_decode bytes)
  have hsame : ∀ b ∈ bytes.filter (fun b => b.toNat < 0x80),
      (Char.toNat ∘ fun b => Char.ofNat b.toNat) b = b.toNat := by
    intro b hb
    have hascii : b.toNat < 0x80 := by simpa using (List.mem_filter.mp hb).2
    exact toNat_ofNat (Or.inl (by omega))
  unfold asciiBytes at hread
  rw [List.map_map, List.map_congr_left (g := UInt8.toNat) hsame] at hread
  rw [List.filter_map, List.filter_map]
  exact hread

/-- Behind the warning, if there is one, nothing more is said of replaced bytes. -/
theorem events_load {read : FileReader} {path : Text} {bytes : Bytes}
    (hread : read path = .ok bytes) :
    ∃ rest, (∀ e ∈ rest, ¬WarnsOfReplacement e) ∧ (Grammar.load read path).events =
      if Utf8.isWellFormed bytes then rest else .replacedBytes path :: rest := by
  refine ⟨Grammar.parseEvents (Utf8.decode bytes) ++ [.parsedGrammar path
    (Grammar.ofBytes bytes).length (Grammar.ofBytes bytes).rules.length], ?_, ?_⟩
  · intro e he
    rcases List.mem_append.mp he with hline | hsummary
    · exact not_warnsOfReplacement_of_mem_parseEvents hline
    · rw [List.mem_singleton.mp hsummary, warnsOfReplacement_iff]
      rintro ⟨path', hsame⟩
      cases hsame
  · unfold Grammar.load
    rw [hread]
    dsimp only
    unfold Grammar.ofBytesEvents
    rw [List.append_assoc]
    by_cases hwell : Utf8.isWellFormed bytes = true
    · rw [if_pos hwell, if_pos hwell, List.nil_append]
    · rw [if_neg hwell, if_neg hwell, List.singleton_append]

/-- The lines are those of the decoded text. A warning is the first event and the only one of its
kind, and there is one exactly for bytes that encode no text. -/
theorem load_faithful {read : FileReader} {path : Text} {bytes : Bytes}
    (hread : read path = .ok bytes) :
    ((∃ e ∈ (Grammar.load read path).events, WarnsOfReplacement e) ↔
      ¬∃ s, bytes = Utf8.encode s) ∧
    (∀ e ∈ (Grammar.load read path).events, WarnsOfReplacement e →
      ∃ rest, (Grammar.load read path).events = e :: rest ∧
        ∀ later ∈ rest, ¬WarnsOfReplacement later) ∧
    (∀ s, bytes = Utf8.encode s → (Grammar.load read path).result = .ok (Grammar.parse s)) ∧
    (Grammar.load read path).result = .ok (Grammar.parse (Utf8.decode bytes)) ∧
    ((Utf8.decode bytes).map Char.toNat).filter (· < 0x80) =
      (bytes.map UInt8.toNat).filter (· < 0x80) := by
  have hresult : (Grammar.load read path).result = .ok (Grammar.parse (Utf8.decode bytes)) := by
    unfold Grammar.load
    rw [hread]
    rfl
  obtain ⟨rest, hrest, hevents⟩ := events_load hread
  refine ⟨?_, ?_, ?_, hresult, map_toNat_decode bytes⟩
  · rw [← isWellFormed_iff, hevents]
    by_cases hwell : Utf8.isWellFormed bytes = true
    · rw [if_pos hwell]
      exact iff_of_false (fun ⟨e, he, hwarns⟩ => hrest e he hwarns) (fun hno => hno hwell)
    · rw [if_neg hwell]
      refine iff_of_true ⟨.replacedBytes path, List.mem_cons_self .., ?_⟩ hwell
      exact (warnsOfReplacement_iff _).mpr ⟨path, rfl⟩
  · rw [hevents]
    intro e he hwarns
    by_cases hwell : Utf8.isWellFormed bytes = true
    · rw [if_pos hwell] at he
      exact absurd hwarns (hrest e he)
    · rw [if_neg hwell] at he ⊢
      rcases List.mem_cons.mp he with rfl | hlater
      · exact ⟨rest, rfl, hrest⟩
      · exact absurd hwarns (hrest e hlater)
  · rintro s rfl
    rw [hresult, decode_encode]

/-- An overlong slash, a surrogate and a character cut short by the end of its line. -/
def damaged : Directory :=
  .ofFiles [(['g'], [0x41, 0x3A, 0x42, 0xC0, 0xAF, 0x2F, 0xED, 0xA0, 0x80, 0xE2, 0x82, 0x0A, 0x43])]

theorem load_faithful_damaged :
    (¬∃ s, [0x41, 0x3A, 0x42, 0xC0, 0xAF, 0x2F, 0xED, 0xA0, 0x80, 0xE2, 0x82, 0x0A, 0x43] =
      Utf8.encode s) ∧
    ∃ s, (Grammar.load damaged.read ['g']).result = .ok (Grammar.parse s) ∧
      (s.map Char.toNat).filter (· < 0x80) = [0x41, 0x3A, 0x42, 0x2F, 0x0A, 0x43] := by
  have hread : damaged.read ['g'] =
      .ok [0x41, 0x3A, 0x42, 0xC0, 0xAF, 0x2F, 0xED, 0xA0, 0x80, 0xE2, 0x82, 0x0A, 0x43] := rfl
  obtain ⟨hwarns, -, -, hresult, hascii⟩ := load_faithful hread
  refine ⟨hwarns.mp ⟨.replacedBytes ['g'], List.mem_cons_self .., rfl, rfl⟩, _, hresult, ?_⟩
  rw [hascii]
  decide

end RuleTable.Loading
