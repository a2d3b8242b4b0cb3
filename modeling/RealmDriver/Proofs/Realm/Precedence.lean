import RealmDriver.Proofs.Realm.Field

namespace RealmDriver

namespace Listing

/-- What a volume's elements with a tag, closed by the same one, tell, in their order. -/
def Section.values (part : Section) (tag : String) : List String :=
  valuesOf tag (findAll element? 0 part.body)

variable {part : Section} {r r' : VolumeRecord} {e : Element} {es : List Element} {vs : List String}

theorem foldl_firstFilled (vs : List String) (old : String) :
    vs.foldl firstFilled old = if old = "" then (vs.find? (· ≠ "")).getD "" else old := by
  induction vs generalizing old with
  | nil =>
    split_ifs with hold
    · exact hold
    · rfl
  | cons v vs ih =>
    rw [List.foldl_cons, ih, firstFilled]
    by_cases hold : old = ""
    · by_cases hv : v = ""
      · simp [hold, hv]
      · simp [hold, hv]
    · simp [hold]

theorem getD_find?_eq_empty_iff : (vs.find? (· ≠ "")).getD "" = "" ↔ ∀ v ∈ vs, v = "" := by
  induction vs with
  | nil => simp
  | cons v vs ih =>
    rw [List.forall_mem_cons]
    by_cases hv : v = ""
    · simpa [hv] using ih
    · simp [hv]

theorem getD_find?_eq_headD_iff : (vs.find? (· ≠ "")).getD "" = vs.headD "" ↔
    (vs.headD "" = "" → ∀ v ∈ vs, v = "") := by
  by_cases hhead : vs.headD "" = ""
  · rw [hhead, getD_find?_eq_empty_iff]
    exact ⟨fun h _ ↦ h, fun h ↦ h rfl⟩
  · refine iff_of_true ?_ fun h ↦ absurd h hhead
    cases vs with
    | nil => exact absurd rfl hhead
    | cons v vs =>
      rw [List.headD_cons] at hhead
      simp [hhead]

theorem foldl_quota {b : Bound} (hvs : ∀ v ∈ vs, ∃ q, quota b v = .ok q) {old : String} {q : Quota}
    (hold : quota b old = .ok q) :
    quota b (vs.getLastD old) = .ok (vs.foldl (fun q v ↦ (quota b v).toOption.getD q) q) := by
  induction vs generalizing old q with
  | nil => exact hold
  | cons v vs ih =>
    rw [List.forall_mem_cons] at hvs
    obtain ⟨⟨q', hq'⟩, hvs⟩ := hvs
    rw [List.getLastD_cons, List.foldl_cons, hq']
    exact ih hvs hq'

theorem readable_of_absorb (h : absorb r e = .ok r') : Readable [e] := by
  intro b v hv
  by_cases htag : e.tag = b.tag ∧ e.close = b.tag
  · rw [valuesOf_cons_of_eq htag] at hv
    obtain rfl := List.mem_singleton.1 hv
    rw [absorb_quota htag.1 htag.2] at h
    cases hread : quota b e.text with
    | ok q => exact ⟨q, rfl⟩
    | error fault =>
      rw [hread] at h
      cases h
  · rw [valuesOf_cons_of_ne htag] at hv
    cases hv

theorem readable_of_foldlM (h : es.foldlM absorb r = .ok r') : Readable es := by
  induction es generalizing r with
  | nil =>
    intro b v hv
    cases hv
  | cons e es ih =>
    rw [List.foldlM_cons] at h
    obtain ⟨next, hnext, hrest⟩ := Except.bind_ok_iff.1 h
    intro b v hv
    rw [← List.singleton_append, valuesOf_append] at hv
    rcases List.mem_append.1 hv with hv | hv
    · exact readable_of_absorb hnext b v hv
    · exact ih hrest b v hv

theorem of_record_ok (h : record part = .ok r) :
    (∀ f : Field, f ≠ .name → r.text f = ((part.values f.tag).find? (· ≠ "")).getD "") ∧
    (r.name = VolumeName.strip (((part.values Field.name.tag).find? (· ≠ "")).getD "") ∧ r.name ≠ "") ∧
    ∀ b : Bound, quota b ((part.values b.tag).getLastD "") = .ok (r.quota b) := by
  rw [record] at h
  obtain ⟨taken, htaken, h⟩ := Except.bind_ok_iff.1 h
  have hreadable := readable_of_foldlM htaken
  obtain ⟨taken', htaken', habsorbed⟩ := foldlM_absorb hreadable _
  cases htaken.symm.trans htaken'
  have htext (f : Field) : taken.text f = ((part.values f.tag).find? (· ≠ "")).getD "" := by
    have hstart (id : String) : VolumeRecord.text { name := "", id } f = "" := by
      cases f <;> rfl
    rw [habsorbed.text f, foldl_firstFilled, if_pos (hstart _)]
    rfl
  have hquota (b : Bound) : quota b ((part.values b.tag).getLastD "") = .ok (taken.quota b) := by
    rw [habsorbed.quota b]
    refine foldl_quota (hreadable b) ?_
    cases b <;> rfl
  obtain ⟨hnamed, h⟩ := Except.guard_ok_iff.1 h
  cases h
  refine ⟨fun f hf ↦ ?_, ?_, fun b ↦ ?_⟩
  · rw [← htext f]
    cases f with
    | name => exact absurd rfl hf
    | state => rfl
    | of a => rfl
  · rw [← htext .name]
    exact ⟨rfl, hnamed⟩
  · rw [hquota b]
    cases b <;> rfl

/-- Of each text but the name a record keeps the first that is not empty, and of the name that without the
slashes in front. That is the first text of all unless this is empty. Of a quota it keeps the last text as
it reads, which is the first one just if both read the same. -/
theorem record_keeps_filled_and_last (h : record part = .ok r) :
    (∀ f : Field, f ≠ .name →
      r.text f = ((part.values f.tag).find? (· ≠ "")).getD "" ∧
      (r.text f = (part.values f.tag).headD "" ↔
        ((part.values f.tag).headD "" = "" → ∀ v ∈ part.values f.tag, v = ""))) ∧
    (r.name = VolumeName.strip (((part.values Field.name.tag).find? (· ≠ "")).getD "") ∧
      (r.name = VolumeName.strip ((part.values Field.name.tag).headD "") ↔
        (part.values Field.name.tag).headD "" ≠ "")) ∧
    ∀ b : Bound, quota b ((part.values b.tag).getLastD "") = .ok (r.quota b) ∧
      (quota b ((part.values b.tag).headD "") = .ok (r.quota b) ↔
        quota b ((part.values b.tag).headD "") = quota b ((part.values b.tag).getLastD "")) := by
  obtain ⟨htext, ⟨hname, hne⟩, hquota⟩ := of_record_ok h
  refine ⟨fun f hf ↦ ⟨htext f hf, ?_⟩, ⟨hname, ?_⟩, fun b ↦ ⟨hquota b, ?_⟩⟩
  · rw [htext f hf, getD_find?_eq_headD_iff]
  · constructor
    · intro hfirst hempty
      rw [hempty] at hfirst
      exact hne hfirst
    · intro hfirst
      rw [hname, getD_find?_eq_headD_iff.2 fun hempty ↦ absurd hempty hfirst]
  · rw [hquota b]

def nested : Section where
  attributes := []
  body := ("<name>/a</name><softQuotaGB>10</softQuotaGB><user></user>" ++
    "<snapshot><softQuotaGB>5</softQuotaGB><user>7</user></snapshot>").toList

theorem exists_record_nested : ∃ r, record nested = .ok r := by
  have hok : (record nested).isOk = true := by decide +kernel
  cases h : record nested with
  | ok r => exact ⟨r, rfl⟩
  | error e =>
    rw [h] at hok
    cases hok

theorem values_nested : nested.values Bound.soft.tag = ["10", "5"] ∧
    nested.values (Field.of .user).tag = ["", "7"] := by
  decide +kernel

theorem record_keeps_filled_and_last_of_nested :
    ∃ r, record nested = .ok r ∧ r.text (.of .user) = "7" ∧ r.name = "a" ∧
      quota .soft "5" = .ok (r.quota .soft) := by
  obtain ⟨r, hr⟩ := exists_record_nested
  obtain ⟨htext, ⟨hname, -⟩, hquota⟩ := record_keeps_filled_and_last hr
  have huser := (htext (.of .user) (by decide)).1
  have hsoft := (hquota .soft).1
  rw [values_nested.2] at huser
  rw [values_nested.1] at hsoft
  exact ⟨r, hr, huser, hname.trans (by decide +kernel), hsoft⟩

/-- What the snapshot tells replaces the quota that the volume told first, and the owner that it told to be
none. -/
theorem not_first_of_nested : ∃ r, record nested = .ok r ∧
    quota .soft ((nested.values Bound.soft.tag).headD "") ≠ .ok (r.quota .soft) ∧
    r.text (.of .user) ≠ (nested.values (Field.of .user).tag).headD "" := by
  obtain ⟨r, hr⟩ := exists_record_nested
  obtain ⟨htext, -, hquota⟩ := of_record_ok hr
  refine ⟨r, hr, ?_, ?_⟩
  · rw [← hquota .soft, values_nested.1]
    decide +kernel
  · rw [htext (.of .user) (by decide), values_nested.2]
    decide +kernel

end Listing

end RealmDriver
