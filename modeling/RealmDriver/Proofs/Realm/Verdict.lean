import RealmDriver.Machine.Script
import RealmDriver.Proofs.Realm.Session
import RealmDriver.Proofs.Text.LetterCase

namespace RealmDriver

open Text (HasPhrase)

namespace Verdict

def above (phrase : String) : List (String × Verdict) := phrases.takeWhile (·.1 ≠ phrase)

/-- Of the phrases of the table that are in a text, in any letter case, this is the first. -/
def Decides (p : String × Verdict) (s : String) : Prop :=
  p ∈ phrases ∧ HasPhrase p.1 s ∧ ∀ q ∈ above p.1, ¬HasPhrase q.1 s

theorem phrases_isPlain : ∀ p ∈ phrases, Text.IsPlain p.1.toList := by decide

theorem phrases_split :
    ∀ p ∈ phrases, phrases = above p.1 ++ p :: phrases.drop ((above p.1).length + 1) := by decide

variable {s : String} {p q : String × Verdict} {v : Verdict}

theorem mentions_phrase_iff (hp : p ∈ phrases) : Text.mentions p.1 s = true ↔ HasPhrase p.1 s :=
  Text.mentions_iff_hasPhrase (phrases_isPlain p hp)

theorem mem_phrases_of_above {phrase : String} (hq : q ∈ above phrase) : q ∈ phrases :=
  (List.takeWhile_prefix _).subset hq

theorem find?_phrases_iff : phrases.find? (fun p ↦ Text.mentions p.1 s) = some p ↔ Decides p s := by
  constructor
  · intro h
    have hmem := List.mem_of_find?_eq_some h
    obtain ⟨hmentions, before, after, hsplit, hbefore⟩ := List.find?_eq_some_iff_append.1 h
    have hphrase := (mentions_phrase_iff hmem).1 hmentions
    have hother : ∀ q ∈ before, ¬HasPhrase q.1 s := by
      intro q hq hphrase
      have hmentions := (mentions_phrase_iff (hsplit ▸ List.mem_append_left _ hq)).2 hphrase
      simpa [hmentions] using hbefore q hq
    have habove : above p.1 = before := by
      rw [above, hsplit, List.takeWhile_append_of_pos, List.takeWhile_cons_of_neg (by simp),
        List.append_nil]
      intro q hq
      exact decide_eq_true fun heq ↦ hother q hq (heq ▸ hphrase)
    exact ⟨hmem, hphrase, habove ▸ hother⟩
  · rintro ⟨hmem, hphrase, habove⟩
    refine List.find?_eq_some_iff_append.2
      ⟨(mentions_phrase_iff hmem).2 hphrase, _, _, phrases_split p hmem, ?_⟩
    intro q hq
    rw [Bool.not_eq_true', Bool.eq_false_iff]
    exact fun hmentions ↦ habove q hq ((mentions_phrase_iff (mem_phrases_of_above hq)).1 hmentions)

theorem ofText_iff (hv : v ≠ .failed .internal) : ofText s = v ↔ ∃ p, Decides p s ∧ p.2 = v := by
  rw [ofText]
  constructor
  · intro h
    split at h
    · exact ⟨_, find?_phrases_iff.1 ‹_›, h⟩
    · exact absurd h.symm hv
  · rintro ⟨p, hp, rfl⟩
    rw [find?_phrases_iff.2 hp]

theorem ofText_unavailable_iff : ofText s = .failed .unavailable ↔
    HasPhrase "status 255" s ∧ ∀ q ∈ above "status 255", ¬HasPhrase q.1 s := by
  have honly : ∀ p ∈ phrases, p.2 = .failed .unavailable → p.1 = "status 255" := by decide
  rw [ofText_iff (by decide)]
  constructor
  · rintro ⟨p, ⟨hmem, hphrase, habove⟩, hp⟩
    rw [← honly p hmem hp]
    exact ⟨hphrase, habove⟩
  · rintro ⟨hphrase, habove⟩
    exact ⟨("status 255", .failed .unavailable), ⟨by decide, hphrase, habove⟩, rfl⟩

end Verdict

theorem classify_ok_iff {s : String} : classify s = .ok () ↔ Verdict.ofText s = .done := by
  rw [classify]
  split <;> simp [*]

theorem classify_error_iff {s : String} {kind : RealmError.Kind} :
    (∃ e, classify s = .error e ∧ e.kind = kind) ↔ Verdict.ofText s = .failed kind := by
  rw [classify]
  split <;> simp [*]

namespace Session

variable {ω : Type} {typed : Bool} {f : Finished}

/-- What the verdict on a command that failed goes by. -/
def testimony (f : Finished) : String :=
  s!"{Text.trim (Text.decodeLossy f.output)}: exit status {exitCode f.ending}"

/-- The realm did not let the driver in: it said so, or the program that types the password did. -/
def Refused (typed : Bool) (f : Finished) : Prop :=
  HasPhrase "permission denied" (Text.decodeLossy f.output) ∨ typed = true ∧ f.ending = .exited 5

theorem outcome_exited_zero (hend : f.ending = .exited 0) :
    outcome typed f = .ok (Text.decodeLossy f.output) := by
  rw [outcome, hend]
  rfl

theorem isSuccess_iff {e : Ending} : e.isSuccess = true ↔ e = .exited 0 := by
  cases e <;> simp [Ending.isSuccess]

theorem exitCode_eq_five_iff {e : Ending} : exitCode e = refusedPassword ↔ e = .exited 5 := by
  cases e with
  | killed signal => simp [exitCode, refusedPassword]
  | exited code =>
    rw [exitCode, refusedPassword, Ending.exited.injEq]
    omega

theorem refused_iff : ((typed && exitCode f.ending = refusedPassword) ||
    Text.mentions "permission denied" (Text.decodeLossy f.output)) = true ↔ Refused typed f := by
  rw [Bool.or_eq_true, Bool.and_eq_true, decide_eq_true_eq, exitCode_eq_five_iff,
    Text.mentions_iff_hasPhrase (by decide), Refused, or_comm]

theorem outcome_refused (hend : f.ending ≠ .exited 0) (h : Refused typed f) :
    outcome typed f = .error ⟨.unauthenticated, Text.trim (Text.decodeLossy f.output)⟩ := by
  simp only [outcome]
  rw [if_neg (mt isSuccess_iff.1 hend), if_pos (refused_iff.2 h)]

theorem outcome_judged (hend : f.ending ≠ .exited 0) (h : ¬Refused typed f) :
    outcome typed f = (classify (testimony f)).map fun _ ↦ Text.decodeLossy f.output := by
  simp only [outcome]
  rw [if_neg (mt isSuccess_iff.1 hend), if_neg (mt refused_iff.1 h)]
  rfl

theorem outcome_error_iff (hend : f.ending ≠ .exited 0) (h : ¬Refused typed f)
    {kind : RealmError.Kind} : (∃ e, outcome typed f = .error e ∧ e.kind = kind) ↔
      Verdict.ofText (testimony f) = .failed kind := by
  rw [outcome_judged hend h, ← classify_error_iff]
  cases classify (testimony f) <;> simp [Except.map]

theorem outcome_ok_iff {text : String} : outcome typed f = .ok text ↔
    text = Text.decodeLossy f.output ∧ (f.ending = .exited 0 ∨
      ¬Refused typed f ∧ ∃ p, Verdict.Decides p (testimony f) ∧ p.2 = .done) := by
  by_cases hend : f.ending = .exited 0
  · simp [outcome_exited_zero hend, hend, eq_comm]
  · by_cases hrefused : Refused typed f
    · simp [outcome_refused hend hrefused, hend, hrefused]
    · rw [outcome_judged hend hrefused, ← Verdict.ofText_iff (by decide), ← classify_ok_iff]
      cases classify (testimony f) <;> simp [Except.map, hend, hrefused, eq_comm]

theorem outcome_unauthenticated_iff :
    (∃ e, outcome typed f = .error e ∧ e.kind = .unauthenticated) ↔
      f.ending ≠ .exited 0 ∧ Refused typed f := by
  have hnever : ∀ p ∈ Verdict.phrases, p.2 ≠ .failed .unauthenticated := by decide
  by_cases hend : f.ending = .exited 0
  · simp [outcome_exited_zero hend, hend]
  · by_cases hrefused : Refused typed f
    · simp [outcome_refused hend hrefused, hend, hrefused]
    · rw [outcome_error_iff hend hrefused, Verdict.ofText_iff (by decide)]
      simp only [hrefused, and_false, iff_false]
      rintro ⟨p, hp, hkind⟩
      exact hnever p hp.1 hkind

theorem hasPhrase_testimony (hend : f.ending = .exited 255) {q : String × Verdict}
    (hq : q ∈ Verdict.above "status 255") :
    HasPhrase q.1 (testimony f) ↔ HasPhrase q.1 (Text.decodeLossy f.output) := by
  have hplain : ∀ q ∈ Verdict.above "status 255", ':' ∉ q.1.toList ∧ Text.IsTrimmed q.1.toList ∧
      Text.mentions q.1 " exit status 255" = false := by decide
  obtain ⟨hcolon, htrimmed, hbehind⟩ := hplain q hq
  have hnot : ¬HasPhrase q.1 " exit status 255" := by
    rw [← Verdict.mentions_phrase_iff (Verdict.mem_phrases_of_above hq), hbehind]
    exact Bool.false_ne_true
  have hsplit : (testimony f).toList =
      (Text.trim (Text.decodeLossy f.output)).toList ++ ':' :: " exit status 255".toList := by
    rw [testimony, hend]
    have hcode : toString (exitCode (.exited 255)) = "255" := by decide
    rw [hcode, String.toList_append, String.toList_append, List.append_assoc]
    rfl
  rw [Text.hasPhrase_iff_of_toList hsplit (by decide) hcolon, Text.hasPhrase_trim htrimmed]
  exact or_iff_left hnot

theorem outcome_unavailable_iff (hend : f.ending = .exited 255) (h : ¬Refused typed f) :
    (∃ e, outcome typed f = .error e ∧ e.kind = .unavailable) ↔
      ∀ q ∈ Verdict.above "status 255", ¬HasPhrase q.1 (Text.decodeLossy f.output) := by
  have hlast : HasPhrase "status 255" (testimony f) := by
    rw [← Text.mentions_iff_hasPhrase (by decide), testimony, hend, String.append_assoc]
    exact Text.mentions_append_left (by decide) _
  rw [outcome_error_iff (by rw [hend]; decide) h, Verdict.ofText_unavailable_iff, and_iff_right hlast]
  exact forall₂_congr fun q hq ↦ not_congr (hasPhrase_testimony hend hq)

/-- A command that was started and has ended. It is a success just if its exit code is zero, or it failed, the
realm let the driver in, and a mark of success is the first of the phrases in what it said and how it ended.
It is refused for who one is just if it failed and the realm did not let the driver in, whatever else it said;
and with an exit code of 255 and the driver let in, the realm counts as unavailable just if the command said
none of the phrases that come before that code. -/
theorem exec_judges {m : Machine ω} {h h' : Host ω} {i : Invocation} {f : Finished}
    (hstart : (m.start i).outcome h = (.ok f, h')) :
    let answer := (exec m i).outcome h
    let refused := Refused i.password.isSome f
    (∀ text, answer.1 = .ok text ↔ text = Text.decodeLossy f.output ∧
      (f.ending = .exited 0 ∨ ¬refused ∧ ∃ p, Verdict.Decides p (testimony f) ∧ p.2 = .done)) ∧
    ((∃ e, answer.1 = .error e ∧ e.kind = .unauthenticated) ↔ f.ending ≠ .exited 0 ∧ refused) ∧
    (f.ending = .exited 255 → ¬refused → ((∃ e, answer.1 = .error e ∧ e.kind = .unavailable) ↔
      ∀ q ∈ Verdict.above "status 255", ¬HasPhrase q.1 (Text.decodeLossy f.output))) ∧
    answer.2 = h' := by
  have hanswer : (exec m i).outcome h = (outcome i.password.isSome f, h') := by
    rw [exec, Action.outcome_bind, Action.outcome_rephrase, hstart]
    rfl
  rw [hanswer]
  exact ⟨fun text ↦ outcome_ok_iff, outcome_unauthenticated_iff, outcome_unavailable_iff, rfl⟩

def failing (output : String) (code : Nat) : Host Script where
  files := {}
  outside :=
    { programs := [], table := [], endings := [⟨output.toUTF8.data.toList, .exited code⟩] }

def bare : Invocation := ⟨"ssh", [], none⟩

theorem exec_judges_of_failures :
    (∃ text, ((exec Script.machine bare).outcome (failing "Created Successfully" 1)).1 = .ok text) ∧
    (∃ e, ((exec Script.machine bare).outcome (failing "Permission DENIED, successfully" 1)).1 =
      .error e ∧ e.kind = .unauthenticated) ∧
    ∃ e, ((exec Script.machine bare).outcome (failing "" 255)).1 = .error e ∧ e.kind = .unavailable := by
  have hstart (output : String) (code : Nat) : (Script.machine.start bare).outcome (failing output code) =
      (.ok ⟨output.toUTF8.data.toList, .exited code⟩,
        ((Script.machine.start bare).outcome (failing output code)).2) := rfl
  have hsilent : ∀ q ∈ Verdict.above "status 255", Text.mentions q.1 (Text.decodeLossy []) = false := by
    decide +kernel
  refine ⟨⟨_, ((exec_judges (hstart _ _)).1 _).2 ⟨rfl, .inr ⟨?_, ("successfully", .done), ?_, rfl⟩⟩⟩,
    (exec_judges (hstart _ _)).2.1.2 ⟨by decide, .inl ?_⟩,
    ((exec_judges (hstart _ _)).2.2.1 rfl ?_).2 ?_⟩
  · rw [← refused_iff]
    decide +kernel
  · exact Verdict.find?_phrases_iff.1 (by decide +kernel)
  · exact (Text.mentions_iff_hasPhrase (by decide)).1 (by decide +kernel)
  · rw [← refused_iff]
    decide +kernel
  · intro q hq
    rw [← Verdict.mentions_phrase_iff (Verdict.mem_phrases_of_above hq)]
    exact Bool.eq_false_iff.1 (hsilent q hq)

end Session

end RealmDriver
