import RealmDriver.Proofs.Dictionary
import RealmDriver.Realm.Record

namespace RealmDriver.VolumeRecord

theorem keys_nodup :
    (Attribute.all.map Attribute.key ++ [Bound.soft.key, Bound.hard.key]).Nodup := by
  decide

def told (r : VolumeRecord) : List (String × String) :=
  Attribute.all.filterMap fun a ↦ if r.reported a = "" then none else some (a.key, r.reported a)

theorem context_eq (r : VolumeRecord) : r.context =
    Dictionary.ofList (r.told ++ [(Bound.soft.key, r.soft.text), (Bound.hard.key, r.hard.text)]) := rfl

theorem told_sublist (r : VolumeRecord) :
    (r.told.map Prod.fst).Sublist (Attribute.all.map Attribute.key) := by
  rw [told]
  induction Attribute.all with
  | nil => exact .slnil
  | cons a as ih =>
    rw [List.filterMap_cons]
    split_ifs
    · exact ih.cons _
    · exact ih.cons_cons _

theorem mem_told {r : VolumeRecord} {a : Attribute} {text : String} :
    (a.key, text) ∈ r.told ↔ r.reported a = text ∧ text ≠ "" := by
  have hinj : ∀ b, Attribute.key b = a.key → b = a := fun b ↦
    List.inj_on_of_nodup_map keys_nodup.of_append_left (Attribute.mem_all b) (Attribute.mem_all a)
  rw [told, List.mem_filterMap]
  constructor
  · rintro ⟨b, -, hb⟩
    split_ifs at hb with hempty
    obtain ⟨hkey, htext⟩ := Prod.mk.inj (Option.some.inj hb)
    rw [hinj b hkey] at hempty htext
    exact ⟨htext, htext ▸ hempty⟩
  · rintro ⟨rfl, hne⟩
    exact ⟨a, Attribute.mem_all a, if_neg hne⟩

theorem told_nodup (r : VolumeRecord) :
    ((r.told ++ [(Bound.soft.key, r.soft.text), (Bound.hard.key, r.hard.text)]).map Prod.fst).Nodup := by
  rw [List.map_append]
  exact keys_nodup.sublist (r.told_sublist.append_right _)

theorem mem_context {r : VolumeRecord} {key text : String} : r.context[key]? = some text ↔
    (key, text) ∈ r.told ++ [(Bound.soft.key, r.soft.text), (Bound.hard.key, r.hard.text)] := by
  rw [context_eq, Dictionary.getElem?_ofList r.told_nodup]

theorem context_getElem? (r : VolumeRecord) (a : Attribute) :
    r.context[a.key]? = if r.reported a = "" then none else some (r.reported a) := by
  have hbound : ∀ text, (a.key, text) ∉ [(Bound.soft.key, r.soft.text), (Bound.hard.key, r.hard.text)] := by
    intro text hmem
    have hkey : a.key ∈ [Bound.soft.key, Bound.hard.key] := List.mem_map_of_mem (f := Prod.fst) hmem
    exact List.disjoint_of_nodup_append keys_nodup
      (List.mem_map_of_mem (Attribute.mem_all a)) hkey
  have hiff : ∀ text, r.context[a.key]? = some text ↔ r.reported a = text ∧ text ≠ "" := by
    intro text
    rw [mem_context, List.mem_append, mem_told]
    exact or_iff_left (hbound text)
  split_ifs with hempty
  · rw [Option.eq_none_iff_forall_ne_some]
    intro text htext
    exact ((hiff text).1 htext).2 (((hiff text).1 htext).1 ▸ hempty)
  · exact (hiff _).2 ⟨rfl, hempty⟩

theorem context_getD (r : VolumeRecord) (a : Attribute) : r.context.getD a.key "" = r.reported a := by
  rw [Std.ExtTreeMap.getD_eq_getD_getElem?, context_getElem?]
  split_ifs with hempty
  · exact hempty.symm
  · rfl

end RealmDriver.VolumeRecord
