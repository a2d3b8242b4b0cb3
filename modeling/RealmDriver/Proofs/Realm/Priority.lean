import RealmDriver.Proofs.Realm.Verdict

namespace RealmDriver

open Text (HasPhrase)

namespace Verdict

variable {s t : String} {p q : String × Verdict}

theorem ofText_of_decides (h : Decides p s) : ofText s = p.2 := by
  rw [ofText, find?_phrases_iff.2 h]

theorem ofText_of_none (h : ∀ p ∈ phrases, ¬HasPhrase p.1 s) : ofText s = .failed .internal := by
  have hnone : phrases.find? (fun p ↦ Text.mentions p.1 s) = none :=
    List.find?_eq_none.2 fun p hp ↦ mt (mentions_phrase_iff hp).1 (h p hp)
  rw [ofText, hnone]

theorem exists_decides (hp : p ∈ phrases) (h : HasPhrase p.1 s) : ∃ q, Decides q s := by
  have hsome : (phrases.find? fun p ↦ Text.mentions p.1 s).isSome = true :=
    List.find?_isSome.2 ⟨p, hp, (mentions_phrase_iff hp).2 h⟩
  obtain ⟨q, hq⟩ := Option.isSome_iff_exists.1 hsome
  exact ⟨q, find?_phrases_iff.1 hq⟩

theorem above_total : ∀ p ∈ phrases, ∀ q ∈ phrases, q = p ∨ q ∈ above p.1 ∨ p ∈ above q.1 := by decide

/-- A text that has the phrases of another one is decided by a phrase that stands no lower. -/
theorem Decides.exists_of_subset (h : Decides p s)
    (hsub : ∀ q ∈ phrases, HasPhrase q.1 s → HasPhrase q.1 t) :
    ∃ q, (q = p ∨ q ∈ above p.1) ∧ Decides q t := by
  have hphrase : HasPhrase p.1 t := hsub p h.1 h.2.1
  obtain ⟨q, hq⟩ := exists_decides h.1 hphrase
  rcases above_total p h.1 q hq.1 with heq | habove | hbelow
  · exact ⟨q, .inl heq, hq⟩
  · exact ⟨q, .inr habove, hq⟩
  · exact absurd hphrase (hq.2.2 p hbelow)

theorem decides_congr (h : ∀ q ∈ phrases, HasPhrase q.1 s ↔ HasPhrase q.1 t) :
    Decides p s ↔ Decides p t := by
  refine and_congr_right fun hp ↦ and_congr (h p hp) (forall₂_congr fun q hq ↦ not_congr ?_)
  exact h q (mem_phrases_of_above hq)

theorem ofText_congr (h : ∀ q ∈ phrases, HasPhrase q.1 s ↔ HasPhrase q.1 t) : ofText s = ofText t := by
  by_cases hsome : ∃ p ∈ phrases, HasPhrase p.1 s
  · obtain ⟨p, hp, hphrase⟩ := hsome
    obtain ⟨q, hq⟩ := exists_decides hp hphrase
    rw [ofText_of_decides hq, ofText_of_decides ((decides_congr h).1 hq)]
  · have hnone : ∀ p ∈ phrases, ¬HasPhrase p.1 s := fun p hp hphrase ↦ hsome ⟨p, hp, hphrase⟩
    rw [ofText_of_none hnone, ofText_of_none fun p hp ↦ mt (h p hp).2 (hnone p hp)]

/-- The search that decides may as well go through the text in lower case, however that was made. -/
theorem find?_lowered {ds : List Char} (hl : Text.Lowered s.toList ds) :
    phrases.find? (fun p ↦ Text.occursIn p.1.toList ds) =
      phrases.find? fun p ↦ Text.mentions p.1 s := by
  have hsame : ∀ p ∈ phrases, Text.occursIn p.1.toList ds = Text.mentions p.1 s := by
    intro p hp
    rw [Bool.eq_iff_iff, Text.occursIn_iff, hl.infix_iff (phrases_isPlain p hp), mentions_phrase_iff hp]
  rw [← List.head?_filter, ← List.head?_filter, List.filter_congr hsame]

theorem decides_already_exists (h : HasPhrase "already exists" s) :
    Decides ("already exists", .failed .alreadyExists) s :=
  ⟨by decide, h, by simp [above, phrases]⟩

theorem decides_no_volume (h : HasPhrase "no volume with name" s) (hnot : ¬HasPhrase "already exists" s) :
    Decides ("no volume with name", .failed .notFound) s :=
  ⟨by decide, h, by simpa [above, phrases] using hnot⟩

end Verdict

theorem classify_eq_error_iff {s : String} {e : RealmError} :
    classify s = .error e ↔ Verdict.ofText s = .failed e.kind ∧ e.text = Text.trim s := by
  rw [classify]
  obtain ⟨kind, text⟩ := e
  split <;> simp [*, eq_comm]

namespace Verdict

/-- The verdict on any text is that of the first phrase of the table that stands in the text in lower case, and
so the same in all letter cases. Whatever the text is put into, it is then decided by that phrase or by one
further up: what says that something is there already always means that, and else what says that there is no
volume of a name means that. A failure tells the text, without the blanks around it. -/
theorem surroundings_promote (s : String) :
    (∀ ds, Text.Lowered s.toList ds → ∀ p,
      phrases.find? (fun q ↦ Text.occursIn q.1.toList ds) = some p ↔ Decides p s) ∧
    (∀ t, t.toList.map Char.toLower = s.toList.map Char.toLower → ofText t = ofText s) ∧
    (∀ p, Decides p s → ofText s = p.2 ∧ ∀ before after, ∃ q, (q = p ∨ q ∈ above p.1) ∧
      Decides q (before ++ s ++ after) ∧ ofText (before ++ s ++ after) = q.2) ∧
    (HasPhrase "already exists" s → classify s = .error ⟨.alreadyExists, Text.trim s⟩) ∧
    (HasPhrase "no volume with name" s → ¬HasPhrase "already exists" s →
      classify s = .error ⟨.notFound, Text.trim s⟩) ∧
    (classify s = .ok () ↔ ofText s = .done) ∧
    (∀ e, classify s = .error e ↔ ofText s = .failed e.kind ∧ e.text = Text.trim s) ∧
    Text.IsTrimmed (Text.trim s).toList ∧ ∃ before after,
      s.toList = before ++ (Text.trim s).toList ++ after ∧ ∀ c ∈ before ++ after, Text.isBlank c = true := by
  refine ⟨?_, ?_, ?_, ?_, ?_, classify_ok_iff, fun e ↦ classify_eq_error_iff, Text.isTrimmed_trim s,
    Text.exists_eq_append_trim s⟩
  · intro ds hl p
    rw [find?_lowered hl, find?_phrases_iff]
  · intro t hcase
    exact ofText_congr fun q _ ↦ Text.hasPhrase_congr hcase
  · intro p hp
    refine ⟨ofText_of_decides hp, fun before after ↦ ?_⟩
    obtain ⟨q, habove, hq⟩ := hp.exists_of_subset fun _ _ hphrase ↦ hphrase.surrounded before after
    exact ⟨q, habove, hq, ofText_of_decides hq⟩
  · intro h
    exact classify_eq_error_iff.2 ⟨ofText_of_decides (decides_already_exists h), rfl⟩
  · intro h hnot
    exact classify_eq_error_iff.2 ⟨ofText_of_decides (decides_no_volume h hnot), rfl⟩

def greekAnswer : String := "ΑΣ: NO VOLUME WITH NAME /a, Successfully"

theorem surroundings_promote_of_sigma :
    ∃ p, Text.Lowered greekAnswer.toList "ας: no volume with name /a, successfully".toList ∧
      Decides p greekAnswer ∧ p.1 = "no volume with name" ∧
      ofText "ΑΣ: No Volume With Name /a, SUCCESSFULLY" = ofText greekAnswer ∧
      (∃ q, (q = p ∨ q ∈ above p.1) ∧ ofText ("It ALREADY exists: " ++ greekAnswer ++ "!") = q.2) ∧
      ¬HasPhrase "already exists" greekAnswer ∧ HasPhrase "no volume with name" greekAnswer ∧
      classify greekAnswer = .error ⟨.notFound, Text.trim greekAnswer⟩ ∧
      HasPhrase "already exists" ("It ALREADY exists: " ++ greekAnswer) ∧
      classify ("It ALREADY exists: " ++ greekAnswer) =
        .error ⟨.alreadyExists, Text.trim ("It ALREADY exists: " ++ greekAnswer)⟩ := by
  have hlowered : Text.Lowered greekAnswer.toList "ας: no volume with name /a, successfully".toList := by
    have hanswer : greekAnswer.toList = 'Α' :: 'Σ' :: ": NO VOLUME WITH NAME /a, Successfully".toList := by
      decide +kernel
    have hlower : "ας: no volume with name /a, successfully".toList = ['α'] ++ (['ς'] ++
        ": NO VOLUME WITH NAME /a, Successfully".toList.flatMap Text.lowerAscii) := by
      decide +kernel
    rw [hanswer, hlower]
    exact .cons (.foreign (by decide) (by decide) (by decide))
      (.cons (.foreign (by decide) (by decide) (by decide)) (.flatMap _))
  obtain ⟨hsearch, hcase, hpromote, -, habsent, -⟩ := surroundings_promote greekAnswer
  have hp := (hsearch _ hlowered ("no volume with name", .failed .notFound)).1 (by decide +kernel)
  have hexists : HasPhrase "already exists" ("It ALREADY exists: " ++ greekAnswer) :=
    (Text.mentions_iff_hasPhrase (by decide)).1 (by decide +kernel)
  obtain ⟨-, hsurround⟩ := hpromote _ hp
  obtain ⟨q, hq, -, hverdict⟩ := hsurround "It ALREADY exists: " "!"
  have hnot : ¬HasPhrase "already exists" greekAnswer :=
    hp.2.2 ("already exists", .failed .alreadyExists) (by decide)
  exact ⟨_, hlowered, hp, rfl, hcase _ (by decide +kernel), ⟨q, hq, hverdict⟩, hnot, hp.2.1,
    habsent hp.2.1 hnot, hexists, (surroundings_promote _).2.2.2.1 hexists⟩

end Verdict

end RealmDriver
