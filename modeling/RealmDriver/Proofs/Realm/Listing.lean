import Mathlib.Data.String.Basic
import RealmDriver.Proofs.Number.Decimal
import RealmDriver.Proofs.Realm.Document
import RealmDriver.Proofs.Realm.Entity
import RealmDriver.Proofs.Realm.Field

namespace RealmDriver.Listing

/-- What a piece holds, if it is an element with a tag. -/
def Item.contentOf? (tag : String) : Item → Option (List Char)
  | text _ _ => none
  | leaf l => if l.tag = tag.toList then some l.content else none

def contentsOf (tag : String) (items : List Item) : List (List Char) := items.filterMap (Item.contentOf? tag)

/-- A volume's element tells a record: each text that is not empty once, with entities, the name behind
any number of slashes, and each quota as a decimal, or with nothing if it sets no bound. -/
structure Renders (r : VolumeRecord) (v : Volume) : Prop where
  id : String.ofList v.id = r.id
  name : ∃ slashes, contentsOf Field.name.tag v.items =
      [escape (List.replicate slashes '/' ++ r.name.toList)] ∧
    Text.IsTrimmed (List.replicate slashes '/' ++ r.name.toList)
  name_ne : r.name ≠ ""
  name_head : ∀ c ∈ r.name.toList.head?, c ≠ '/'
  text : ∀ f ≠ Field.name, contentsOf f.tag v.items =
      (if r.text f = "" then [] else [escape (r.text f).toList]) ∧ Text.IsTrimmed (r.text f).toList
  quota : ∀ b : Bound,
    (contentsOf b.tag v.items = [] ∨ contentsOf b.tag v.items = [[]]) ∧ r.quota b = Binary64.zero ∨
      ∃ d : DecimalText, contentsOf b.tag v.items = [d.text] ∧ r.quota b = d.value

section Reading

variable {r : VolumeRecord} {v : Volume}

theorem found?_named {l : Leaf} (hl : l.IsNamed) : Item.found? (.leaf l) = some l.element := if_pos hl

theorem valuesOf_found {tag : String} (hnamed : name? tag.toList = some tag.toList) (items : List Item) :
    valuesOf tag (items.filterMap Item.found?) =
      (contentsOf tag items).map fun cs ↦ String.ofList (unescape cs) := by
  induction items with
  | nil => rfl
  | cons item items ih =>
    cases item with
    | text cs plain => exact ih
    | leaf l =>
      by_cases htag : l.tag = tag.toList
      · have hl : l.IsNamed := by rw [Leaf.IsNamed, htag, hnamed]
        have hsame : l.element.tag = tag ∧ l.element.close = tag :=
          ⟨String.ofList_eq.2 htag, String.ofList_eq.2 htag⟩
        have hcontent : Item.contentOf? tag (.leaf l) = some l.content := if_pos htag
        rw [List.filterMap_cons_some (found?_named hl), contentsOf, List.filterMap_cons_some hcontent,
          List.map_cons, ← contentsOf, ← ih, valuesOf_cons_of_eq hsame]
        rfl
      · have hother : ¬(l.element.tag = tag ∧ l.element.close = tag) := fun h ↦ htag (String.ofList_eq.1 h.1)
        have hnone : Item.contentOf? tag (.leaf l) = none := if_neg htag
        rw [contentsOf, List.filterMap_cons_none hnone, ← contentsOf, ← ih]
        by_cases hl : l.IsNamed
        · rw [List.filterMap_cons_some (found?_named hl), valuesOf_cons_of_ne hother]
        · have hunfound : Item.found? (.leaf l) = none := if_neg hl
          rw [List.filterMap_cons_none hunfound]

theorem named_field (f : Field) : name? f.tag.toList = some f.tag.toList := by
  have hall : ∀ f ∈ Field.all, name? f.tag.toList = some f.tag.toList := by decide +kernel
  exact hall f (Field.mem_all f)

theorem named_bound (b : Bound) : name? b.tag.toList = some b.tag.toList := by
  cases b with
  | soft => decide +kernel
  | hard => decide +kernel

theorem unescape_decimal (d : DecimalText) : unescape d.text = d.text := by
  have hplain : escape d.text = d.text := escape_of_plain fun c hc e he ↦ by
    rintro rfl
    rcases d.of_mem_text hc with hdigit | hmark
    · have hno : ∀ e ∈ entities, Numeral.isDigit e.2 = false := by decide
      exact Bool.false_ne_true ((hno e he).symm.trans hdigit)
    · have hno : ∀ e ∈ entities, e.2 ∉ ['+', '-', '.'] := by decide
      exact hno e he hmark
  have htrimmed : Text.IsTrimmed d.text := Text.IsTrimmed.of_forall fun c hc ↦ by
    rcases d.of_mem_text hc with hdigit | hmark
    · exact Numeral.not_isBlank_of_isDigit hdigit
    · have hno : ∀ c ∈ ['+', '-', '.'], Text.isBlank c = false := by decide
      exact hno c hmark
  exact (congrArg unescape hplain).symm.trans (unescape_escape htrimmed)

theorem quota_decimal (b : Bound) (d : DecimalText) : quota b (String.ofList d.text) = .ok d.value := by
  obtain ⟨c, cs, hcs, -⟩ := Binary64.unsigned_head d
  have hne : String.ofList d.text ≠ "" := fun h ↦ by
    have hnil : d.text = [] := String.ofList_eq.1 h
    simp [DecimalText.text, hcs] at hnil
  rw [quota, if_neg hne, Quota.read?, Binary64.read?_decimal]

theorem quota_values (h : Renders r v) (b : Bound) :
    (∀ t ∈ (contentsOf b.tag v.items).map fun cs ↦ String.ofList (unescape cs), ∃ q, quota b t = .ok q) ∧
      ((contentsOf b.tag v.items).map fun cs ↦ String.ofList (unescape cs)).foldl
        (fun q t ↦ (quota b t).toOption.getD q) Binary64.zero = r.quota b := by
  rcases h.quota b with ⟨hcontents | hcontents, hzero⟩ | ⟨d, hcontents, hd⟩
  · rw [hcontents, hzero]
    exact ⟨fun t ht ↦ (nomatch ht), rfl⟩
  · rw [hcontents, hzero]
    have hempty : quota b (String.ofList (unescape [])) = .ok Binary64.zero := if_pos rfl
    rw [List.map_singleton, List.foldl_cons, List.foldl_nil, hempty]
    exact ⟨fun t ht ↦ ⟨_, List.mem_singleton.1 ht ▸ hempty⟩, rfl⟩
  · rw [hcontents, hd, List.map_singleton, unescape_decimal, List.foldl_cons, List.foldl_nil, quota_decimal]
    exact ⟨fun t ht ↦ ⟨_, List.mem_singleton.1 ht ▸ quota_decimal b d⟩, rfl⟩

theorem text_value (h : Renders r v) {f : Field} (hf : f ≠ .name) :
    ((contentsOf f.tag v.items).map fun cs ↦ String.ofList (unescape cs)).foldl firstFilled "" =
      r.text f := by
  obtain ⟨hcontents, htrimmed⟩ := h.text f hf
  rw [hcontents]
  split_ifs with hempty
  · exact hempty.symm
  · rw [List.map_singleton, unescape_escape htrimmed, String.ofList_toList]
    rfl

theorem strip_slashes {name : String} (hname : ∀ c ∈ name.toList.head?, c ≠ '/') (slashes : Nat) :
    VolumeName.strip (String.ofList (List.replicate slashes '/' ++ name.toList)) = name := by
  rw [VolumeName.strip, String.toList_ofList, List.dropWhile_append_of_pos (by simp)]
  cases hcs : name.toList with
  | nil => rw [List.dropWhile_nil, ← hcs, String.ofList_toList]
  | cons c cs =>
    rw [hcs] at hname
    rw [List.dropWhile_cons_of_neg (by simpa using hname c rfl), ← hcs, String.ofList_toList]

theorem record_found (h : Renders r v) : record v.found = .ok r := by
  obtain ⟨slashes, hname, htrimmed⟩ := h.name
  have hvalues (f : Field) := valuesOf_found (named_field f) v.items
  have hquotas (b : Bound) := valuesOf_found (named_bound b) v.items
  have hreadable : Readable (v.items.filterMap Item.found?) :=
    fun b t ht ↦ (quota_values h b).1 t (hquotas b ▸ ht)
  obtain ⟨r', hr', habsorbed⟩ := foldlM_absorb hreadable { name := "", id := String.ofList v.id }
  have hstripped : VolumeName.strip r'.name = r.name := by
    have htext := habsorbed.text .name
    rw [hvalues, hname, List.map_singleton, unescape_escape htrimmed] at htext
    exact (congrArg VolumeName.strip htext).trans (strip_slashes h.name_head slashes)
  have hrecord : { r' with name := VolumeName.strip r'.name } = r := by
    refine VolumeRecord.ext_fields (habsorbed.id.trans h.id) (fun f ↦ ?_) fun b ↦ ?_
    · by_cases hf : f = .name
      · rw [hf]
        exact hstripped
      · rw [← text_value h hf, ← hvalues]
        cases f with
        | name => exact absurd rfl hf
        | state => exact habsorbed.text .state
        | of a => exact habsorbed.text (.of a)
    · rw [← (quota_values h b).2, ← hquotas]
      cases b with
      | soft => exact habsorbed.quota .soft
      | hard => exact habsorbed.quota .hard
  have hfound : findAll element? 0 v.found.body = v.items.filterMap Item.found? :=
    findAll_element?_written v.items
  have hid : id? false v.found.attributes = some v.id := id?_attributes v
  rw [record, hid, hfound, Option.getD_some, hr']
  simp only [bind, Except.bind, hstripped, if_neg h.name_ne]
  rw [← hstripped, hrecord]
  rfl

/-- Reading a document gives the records that its volumes tell, in order, whatever stands around them. -/
theorem read_document {front : List Char} {parts : List (VolumeRecord × Volume × List Char)}
    (hfront : IsQuiet front) (hparts : ∀ p ∈ parts, Renders p.1 p.2.1 ∧ IsQuiet p.2.2) :
    read (String.ofList (document front (parts.map Prod.snd))) = .ok (parts.map Prod.fst) := by
  have hquiet : ∀ p ∈ parts.map Prod.snd, IsQuiet p.2 := by
    intro p hp
    obtain ⟨q, hq, rfl⟩ := List.mem_map.1 hp
    exact (hparts q hq).2
  rw [read, String.toList_ofList, findAll_section?_document hfront hquiet, List.map_map, List.mapM_map]
  exact Except.mapM_of_forall fun p hp ↦ record_found (hparts p hp).1

def tenAndHalf : DecimalText where
  sign := []
  whole := "10".toList
  fraction := some "50".toList
  sign_mem := by decide
  digits := by decide
  digits_ne_nil := by decide

def scratchRecord : VolumeRecord where
  name := "scratch"
  id := "7"
  state := "Online"
  value a := if a = .description then "a & b" else ""
  soft := tenAndHalf.value

def bare (tag content : String) (htag : ('<' ∉ tag.toList ∧ '>' ∉ tag.toList ∧ '/' ∉ tag.toList) ∧
    tag.toList ≠ "volume".toList) (hcontent : '<' ∉ content.toList) : Item :=
  .leaf ⟨tag.toList, [], content.toList, htag.1, htag.2, by simp, by simp, hcontent⟩

def scratchVolume : Volume where
  id := "7".toList
  items := [
    bare "state" "Online" (by decide) (by decide),
    .text "and more".toList (by decide),
    .leaf ⟨"name".toList, " id=\"1\"".toList, "//scratch".toList, by decide, by decide, by decide, by decide,
      by decide⟩,
    bare "used" "3" (by decide) (by decide),
    bare "hardQuotaGB" "" (by decide) (by decide),
    bare "softQuotaGB" "10.50" (by decide) (by decide),
    bare "description" "a &amp; b" (by decide) (by decide)]
  id_plain := by decide

theorem renders_scratch : Renders scratchRecord scratchVolume where
  id := rfl
  name := ⟨2, by decide +kernel⟩
  name_ne := by decide
  name_head := by decide
  text := by
    have hall : ∀ f ∈ Field.all, f ≠ Field.name → contentsOf f.tag scratchVolume.items =
        (if scratchRecord.text f = "" then [] else [escape (scratchRecord.text f).toList]) ∧
          Text.IsTrimmed (scratchRecord.text f).toList := by decide +kernel
    exact fun f ↦ hall f (Field.mem_all f)
  quota b := by
    cases b with
    | soft => exact .inr ⟨tenAndHalf, by decide +kernel, rfl⟩
    | hard => exact .inl ⟨by decide +kernel, rfl⟩

theorem read_document_of_scratch :
    IsQuiet "<volumes>".toList ∧ Renders scratchRecord scratchVolume ∧ IsQuiet "</volumes>".toList ∧
      read ("<volumes><volume id=\"7\"><state>Online</state>and more<name id=\"1\">//scratch</name>" ++
        "<used>3</used><hardQuotaGB></hardQuotaGB><softQuotaGB>10.50</softQuotaGB>" ++
        "<description>a &amp; b</description></volume></volumes>") = .ok [scratchRecord] := by
  have hfront : IsQuiet "<volumes>".toList := by decide
  have hback : IsQuiet "</volumes>".toList := by decide
  have hparts : ∀ p ∈ [(scratchRecord, scratchVolume, "</volumes>".toList)],
      Renders p.1 p.2.1 ∧ IsQuiet p.2.2 := fun p hp ↦ by
    rw [List.mem_singleton.1 hp]
    exact ⟨renders_scratch, hback⟩
  refine ⟨hfront, renders_scratch, hback, Eq.trans (congrArg read ?_) (read_document hfront hparts)⟩
  decide +kernel

end Reading

end RealmDriver.Listing
