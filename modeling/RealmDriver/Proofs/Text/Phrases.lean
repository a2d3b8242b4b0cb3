import Mathlib.Data.List.Infix
import RealmDriver.Realm.Error

namespace RealmDriver

namespace Text

theorem occursIn_iff (needle cs : List Char) : occursIn needle cs = true ↔ needle <:+: cs := by
  induction cs with
  | nil => simp [occursIn]
  | cons c cs ih =>
    rw [occursIn, Bool.or_eq_true, List.isPrefixOf_iff_prefix, ih, List.infix_cons_iff]

theorem mentions_iff (phrase s : String) :
    mentions phrase s = true ↔ phrase.toList <:+: s.toList.flatMap lowerAscii :=
  occursIn_iff _ _

theorem mentions_append_left {phrase t : String} (h : mentions phrase t = true) (s : String) :
    mentions phrase (s ++ t) = true := by
  rw [mentions_iff] at h ⊢
  rw [String.toList_append, List.flatMap_append]
  exact List.infix_append_of_infix_right h

theorem mentions_append_right {phrase s : String} (h : mentions phrase s = true) (t : String) :
    mentions phrase (s ++ t) = true := by
  rw [mentions_iff] at h ⊢
  rw [String.toList_append, List.flatMap_append]
  exact List.infix_append_of_infix_left h

theorem infix_left {n a b : List Char} {c : Char} (hc : c ∉ b) (h : n ++ [c] <:+: a ++ b) :
    n ++ [c] <:+: a := by
  obtain ⟨before, after, he⟩ := h
  rcases List.append_eq_append_iff.1 he with ⟨m, ha, -⟩ | ⟨m, hn, hb⟩
  · exact ⟨before, m, ha.symm⟩
  · rcases List.eq_nil_or_concat m with rfl | ⟨m, d, rfl⟩
    · exact ⟨before, [], by simpa using hn⟩
    · have hlast : c = d := by simpa using congrArg List.getLast? hn
      exact absurd (by simp [hb, hlast]) hc

theorem mentions_of_append {phrase s t : String} {n : List Char} {c : Char}
    (hp : phrase.toList = n ++ [c]) (hc : c ∉ t.toList.flatMap lowerAscii)
    (h : mentions phrase (s ++ t) = true) : mentions phrase s = true := by
  rw [mentions_iff, String.toList_append, List.flatMap_append, hp] at h
  rw [mentions_iff, hp]
  exact infix_left hc h

theorem trimEnd_prefix_self (cs : List Char) : trimEnd cs <+: cs := by
  have h := List.reverse_prefix.2 (List.dropWhile_suffix isBlank (l := cs.reverse))
  rwa [List.reverse_reverse] at h

theorem isInfix_of_trim (s : String) : (trim s).toList <:+: s.toList := by
  rw [trim, String.toList_ofList]
  exact (trimEnd_prefix_self _).isInfix.trans (List.dropWhile_suffix isBlank).isInfix

theorem mentions_of_trim {phrase s : String} (h : mentions phrase (trim s) = true) :
    mentions phrase s = true := by
  rw [mentions_iff] at h ⊢
  exact h.trans ((isInfix_of_trim s).flatMap lowerAscii)

end Text

namespace Verdict

/-- Whether a text has a mark of success, which a command may print although it fails. -/
def marksSuccess (s : String) : Bool :=
  Text.mentions "successfully" s || Text.mentions "<volumes>" s

theorem marks_of_done : ∀ p ∈ phrases, p.2 = .done → p.1 = "successfully" ∨ p.1 = "<volumes>" := by
  decide

theorem marksSuccess_of_done {s : String} (h : ofText s = .done) : marksSuccess s = true := by
  rw [ofText] at h
  cases hfind : phrases.find? fun p ↦ Text.mentions p.1 s with
  | none => simp [hfind] at h
  | some p =>
    rw [hfind] at h
    have hmentions : Text.mentions p.1 s = true := by
      simpa using List.find?_some hfind
    rw [marksSuccess, Bool.or_eq_true]
    rcases marks_of_done p (List.mem_of_find?_eq_some hfind) h with hp | hp
    · exact .inl (hp ▸ hmentions)
    · exact .inr (hp ▸ hmentions)

theorem marksSuccess_of_append {s t : String} (hy : 'y' ∉ t.toList.flatMap Text.lowerAscii)
    (hangle : '>' ∉ t.toList.flatMap Text.lowerAscii) (h : marksSuccess (s ++ t) = true) :
    marksSuccess s = true := by
  rw [marksSuccess, Bool.or_eq_true] at h ⊢
  refine h.imp (Text.mentions_of_append (n := "successfull".toList) (by decide) hy) ?_
  exact Text.mentions_of_append (n := "<volumes".toList) (by decide) hangle

theorem marksSuccess_of_trim {s : String} (h : marksSuccess (Text.trim s) = true) :
    marksSuccess s = true := by
  rw [marksSuccess, Bool.or_eq_true] at h ⊢
  exact h.imp Text.mentions_of_trim Text.mentions_of_trim

theorem ofText_already_exists {s : String} (h : Text.mentions "already exists" s = true) :
    ofText s = .failed .alreadyExists := by
  simp only [ofText, phrases, List.find?_cons, h]

theorem ofText_no_volume {s : String} (h : Text.mentions "no volume with name" s = true) :
    ∃ kind, ofText s = .failed kind := by
  simp only [ofText, phrases, List.find?_cons, h]
  cases Text.mentions "already exists" s <;> exact ⟨_, rfl⟩

end Verdict

theorem classify_already_exists (name : String) :
    classify s!"Error: volume /{name} already exists" = .error
      ⟨.alreadyExists, Text.trim s!"Error: volume /{name} already exists"⟩ := by
  have hmark : Text.mentions "already exists" " already exists" = true := by decide
  have hverdict := Verdict.ofText_already_exists
    (s := s!"Error: volume /{name} already exists") (Text.mentions_append_left hmark _)
  rw [classify, hverdict]

theorem classify_no_volume (name : String) :
    ∃ e, classify s!"No volume with name /{name}" = .error e := by
  have hmark : Text.mentions "no volume with name" "No volume with name /" = true := by decide
  have hmentions : Text.mentions "no volume with name" s!"No volume with name /{name}" = true :=
    Text.mentions_append_right hmark _
  obtain ⟨kind, hkind⟩ := Verdict.ofText_no_volume hmentions
  rw [classify, hkind]
  exact ⟨_, rfl⟩

theorem classify_missing : classify "Error: volume(s) do not exist" =
    .error ⟨.notFound, "Error: volume(s) do not exist"⟩ := by
  decide +kernel

theorem classify_of_unmarked {s : String} (h : Verdict.marksSuccess s = false) :
    ∃ e, classify s = .error e := by
  rw [classify]
  cases hv : Verdict.ofText s with
  | done => simp [Verdict.marksSuccess_of_done hv] at h
  | failed kind => exact ⟨_, rfl⟩

end RealmDriver
