import Mathlib.Data.List.Nodup
import RealmDriver.Proofs.Action
import RealmDriver.Realm.Listing

namespace RealmDriver

inductive Field where
  | name
  | state
  | of (a : Attribute)
  deriving DecidableEq, Repr

namespace Field

def tag : Field → String
  | name => "name"
  | state => "state"
  | of a => a.tag

def all : List Field := name :: state :: Attribute.all.map of

theorem mem_all (f : Field) : f ∈ all := by
  cases f with
  | name => decide
  | state => decide
  | of a =>
    exact List.mem_cons_of_mem _ (List.mem_cons_of_mem _ (List.mem_map_of_mem (Attribute.mem_all a)))

theorem tag_injective : Function.Injective tag := by
  have hnodup : (all.map tag).Nodup := by decide +kernel
  exact fun f g h ↦ List.inj_on_of_nodup_map hnodup (mem_all f) (mem_all g) h

theorem tag_ne_bound (f : Field) (b : Bound) : f.tag ≠ b.tag := by
  have hall : ∀ b ∈ [Bound.soft, .hard], ∀ f ∈ all, f.tag ≠ b.tag := by decide +kernel
  exact hall b (by cases b <;> decide) f (mem_all f)

end Field

theorem Bound.tag_injective : Function.Injective Bound.tag := by
  intro b b' h
  cases b with
  | soft => cases b' with
    | soft => rfl
    | hard => exact absurd h (by decide)
  | hard => cases b' with
    | soft => exact absurd h (by decide)
    | hard => rfl

namespace VolumeRecord

variable (r : VolumeRecord)

def text : Field → String
  | .name => r.name
  | .state => r.state
  | .of a => r.value a

def setText (t : String) : Field → VolumeRecord
  | .name => { r with name := t }
  | .state => { r with state := t }
  | .of a => r.setValue a t

def quota : Bound → Quota
  | .soft => r.soft
  | .hard => r.hard

def setQuota (q : Quota) : Bound → VolumeRecord
  | .soft => { r with soft := q }
  | .hard => { r with hard := q }

@[simp] theorem text_setText (t : String) (f g : Field) :
    (r.setText t f).text g = if g = f then t else r.text g := by
  cases f with
  | name => cases g <;> simp [setText, text]
  | state => cases g <;> simp [setText, text]
  | of a => cases g <;> simp [setText, setValue, text]

@[simp] theorem quota_setText (t : String) (f : Field) (b : Bound) : (r.setText t f).quota b = r.quota b := by
  cases f <;> cases b <;> rfl

@[simp] theorem id_setText (t : String) (f : Field) : (r.setText t f).id = r.id := by
  cases f <;> rfl

@[simp] theorem text_setQuota (q : Quota) (b : Bound) (f : Field) : (r.setQuota q b).text f = r.text f := by
  cases b <;> cases f <;> rfl

@[simp] theorem quota_setQuota (q : Quota) (b b' : Bound) :
    (r.setQuota q b).quota b' = if b' = b then q else r.quota b' := by
  cases b <;> cases b' <;> simp [setQuota, quota]

@[simp] theorem id_setQuota (q : Quota) (b : Bound) : (r.setQuota q b).id = r.id := by
  cases b <;> rfl

variable {r} in
theorem ext_fields {r' : VolumeRecord} (hid : r.id = r'.id) (htext : ∀ f, r.text f = r'.text f)
    (hquota : ∀ b, r.quota b = r'.quota b) : r = r' :=
  VolumeRecord.ext (htext .name) hid (htext .state) (funext fun a ↦ htext (.of a)) (hquota .soft)
    (hquota .hard)

end VolumeRecord

namespace Listing

def Element.text (e : Element) : String := String.ofList (unescape e.value)

/-- The texts of the elements with a tag that are closed by the same one. -/
def valuesOf (tag : String) (es : List Element) : List String :=
  (es.filter fun e ↦ e.tag = tag ∧ e.close = tag).map Element.text

def Readable (es : List Element) : Prop := ∀ b, ∀ v ∈ valuesOf b.tag es, ∃ q, quota b v = .ok q

structure Absorbed (r : VolumeRecord) (es : List Element) (r' : VolumeRecord) : Prop where
  id : r'.id = r.id
  text : ∀ f, r'.text f = (valuesOf f.tag es).foldl firstFilled (r.text f)
  quota : ∀ b, r'.quota b =
    (valuesOf b.tag es).foldl (fun q v ↦ (quota b v).toOption.getD q) (r.quota b)

variable {r r' : VolumeRecord} {e : Element} {es : List Element}

theorem valuesOf_append (tag : String) (es es' : List Element) :
    valuesOf tag (es ++ es') = valuesOf tag es ++ valuesOf tag es' := by
  rw [valuesOf, valuesOf, valuesOf, List.filter_append, List.map_append]

theorem valuesOf_cons_of_ne {tag : String} (h : ¬(e.tag = tag ∧ e.close = tag)) (es : List Element) :
    valuesOf tag (e :: es) = valuesOf tag es := by
  rw [valuesOf, List.filter_cons_of_neg (by simpa using h), valuesOf]

theorem valuesOf_cons_of_eq {tag : String} (h : e.tag = tag ∧ e.close = tag) (es : List Element) :
    valuesOf tag (e :: es) = e.text :: valuesOf tag es := by
  rw [valuesOf, List.filter_cons_of_pos (by simpa using h), List.map_cons, valuesOf]

theorem Absorbed.trans {r'' : VolumeRecord} {es' : List Element} (h : Absorbed r es r')
    (h' : Absorbed r' es' r'') : Absorbed r (es ++ es') r'' where
  id := h'.id.trans h.id
  text f := by rw [h'.text, h.text, valuesOf_append, List.foldl_append]
  quota b := by rw [h'.quota, h.quota, valuesOf_append, List.foldl_append]

theorem absorbed_of_unknown (hfield : ∀ f : Field, ¬(e.tag = f.tag ∧ e.close = f.tag))
    (hbound : ∀ b : Bound, ¬(e.tag = b.tag ∧ e.close = b.tag)) : Absorbed r [e] r where
  id := rfl
  text f := by
    rw [valuesOf_cons_of_ne (hfield f)]
    rfl
  quota b := by
    rw [valuesOf_cons_of_ne (hbound b)]
    rfl

theorem absorb_quota {b : Bound} (htag : e.tag = b.tag) (hclose : e.close = b.tag) :
    absorb r e = (quota b e.text).map fun q ↦ r.setQuota q b := by
  have hsame : e.tag = e.close := htag.trans hclose.symm
  cases b with
  | soft =>
    rw [absorb, if_neg (not_not_intro hsame), if_pos htag]
    rfl
  | hard =>
    have hsoft : ¬e.tag = Bound.soft.tag := by
      rw [htag]
      decide
    rw [absorb, if_neg (not_not_intro hsame), if_neg hsoft, if_pos htag]
    rfl

theorem find?_tag {tag : String} {a : Attribute} (h : tag = a.tag) :
    Attribute.all.find? (fun a ↦ a.tag = tag) = some a := by
  have hsome : (Attribute.all.find? fun a ↦ a.tag = tag).isSome :=
    List.find?_isSome.2 ⟨a, Attribute.mem_all a, decide_eq_true h.symm⟩
  obtain ⟨a', ha'⟩ := Option.isSome_iff_exists.1 hsome
  have htag : a'.tag = tag := by simpa using List.find?_some ha'
  have hof : Field.of a' = .of a := Field.tag_injective (htag.trans h)
  rw [ha', Field.of.inj hof]

theorem absorb_field {f : Field} (htag : e.tag = f.tag) (hclose : e.close = f.tag) :
    absorb r e = .ok (r.setText (firstFilled (r.text f) e.text) f) := by
  have hsame : e.tag = e.close := htag.trans hclose.symm
  have hbound (b : Bound) : ¬e.tag = b.tag := htag ▸ Field.tag_ne_bound f b
  rw [absorb, if_neg (not_not_intro hsame), if_neg (hbound .soft), if_neg (hbound .hard)]
  cases f with
  | name =>
    have hname : e.tag = "name" := htag
    rw [if_pos hname]
    rfl
  | state =>
    have hname : ¬e.tag = "name" := by
      rw [htag]
      decide
    have hstate : e.tag = "state" := htag
    rw [if_neg hname, if_pos hstate]
    rfl
  | of a =>
    have hname : ¬e.tag = "name" := fun h ↦
      nomatch Field.tag_injective (htag.symm.trans h : Field.tag (.of a) = Field.tag .name)
    have hstate : ¬e.tag = "state" := fun h ↦
      nomatch Field.tag_injective (htag.symm.trans h : Field.tag (.of a) = Field.tag .state)
    rw [if_neg hname, if_neg hstate, find?_tag htag]
    rfl

theorem absorb_unknown (hfield : ∀ f : Field, ¬(e.tag = f.tag ∧ e.close = f.tag))
    (hbound : ∀ b : Bound, ¬(e.tag = b.tag ∧ e.close = b.tag)) : absorb r e = .ok r := by
  rw [absorb]
  by_cases hsame : e.tag = e.close
  · rw [← hsame] at hfield hbound
    simp only [and_self] at hfield hbound
    have hnone : Attribute.all.find? (fun a ↦ a.tag = e.tag) = none :=
      List.find?_eq_none.2 fun a _ ha ↦ hfield (.of a) (of_decide_eq_true ha).symm
    have hname : ¬e.tag = "name" := hfield .name
    have hstate : ¬e.tag = "state" := hfield .state
    rw [if_neg (not_not_intro hsame), if_neg (hbound .soft), if_neg (hbound .hard), if_neg hname,
      if_neg hstate, hnone]
  · rw [if_pos hsame]

theorem absorb_spec (hreadable : Readable [e]) (r : VolumeRecord) :
    ∃ r', absorb r e = .ok r' ∧ Absorbed r [e] r' := by
  by_cases hfield : ∃ f : Field, e.tag = f.tag ∧ e.close = f.tag
  · obtain ⟨f, htag, hclose⟩ := hfield
    refine ⟨_, absorb_field htag hclose, by simp, fun g ↦ ?_, fun b ↦ ?_⟩
    · rw [VolumeRecord.text_setText]
      split_ifs with hg
      · rw [hg, valuesOf_cons_of_eq ⟨htag, hclose⟩ []]
        rfl
      · rw [valuesOf_cons_of_ne fun h ↦ hg (Field.tag_injective (h.1.symm.trans htag))]
        rfl
    · rw [VolumeRecord.quota_setText, valuesOf_cons_of_ne fun h ↦ Field.tag_ne_bound f b (htag.symm.trans h.1)]
      rfl
  · by_cases hbound : ∃ b : Bound, e.tag = b.tag ∧ e.close = b.tag
    · obtain ⟨b, htag, hclose⟩ := hbound
      have hvalues := valuesOf_cons_of_eq ⟨htag, hclose⟩ []
      obtain ⟨q, hq⟩ := hreadable b e.text (hvalues ▸ List.mem_singleton.2 rfl)
      refine ⟨r.setQuota q b, by rw [absorb_quota htag hclose, hq]; rfl, by simp, fun f ↦ ?_, fun b' ↦ ?_⟩
      · rw [VolumeRecord.text_setQuota, valuesOf_cons_of_ne fun h ↦ Field.tag_ne_bound f b (h.1.symm.trans htag)]
        rfl
      · rw [VolumeRecord.quota_setQuota]
        split_ifs with hb
        · rw [hb, hvalues, List.foldl_cons, hq]
          rfl
        · rw [valuesOf_cons_of_ne fun h ↦ hb (Bound.tag_injective (h.1.symm.trans htag))]
          rfl
    · rw [not_exists] at hfield hbound
      exact ⟨r, absorb_unknown hfield hbound, absorbed_of_unknown hfield hbound⟩

theorem foldlM_absorb (hreadable : Readable es) (r : VolumeRecord) :
    ∃ r', es.foldlM absorb r = .ok r' ∧ Absorbed r es r' := by
  induction es generalizing r with
  | nil => exact ⟨r, rfl, rfl, fun _ ↦ rfl, fun _ ↦ rfl⟩
  | cons e es ih =>
    have hcons (b : Bound) : valuesOf b.tag (e :: es) = valuesOf b.tag [e] ++ valuesOf b.tag es :=
      valuesOf_append _ [e] es
    obtain ⟨r', hr', habsorbed⟩ := absorb_spec
      (fun b v hv ↦ hreadable b v (by rw [hcons]; exact List.mem_append_left _ hv)) r
    obtain ⟨r'', hr'', hrest⟩ := ih
      (fun b v hv ↦ hreadable b v (by rw [hcons]; exact List.mem_append_right _ hv)) r'
    refine ⟨r'', ?_, habsorbed.trans hrest⟩
    rw [List.foldlM_cons, hr']
    exact hr''

end Listing

end RealmDriver
