import Mathlib.Data.List.Perm.Basic
import RealmDriver.Proofs.Number.Text
import RealmDriver.Proofs.Realm.Command
import RealmDriver.Proofs.Realm.Context
import RealmDriver.Proofs.Realm.Soundness

namespace RealmDriver

theorem driverKey_injective : Function.Injective driverKey :=
  fun _ _ ↦ (String.append_right_inj _).1

namespace Command

theorem options_eq :
    options = Attribute.all.map Attribute.name ++ [Bound.soft, Bound.hard].map Bound.name := rfl

theorem options_nodup : options.Nodup := by decide

theorem chosen_perm {d : Dictionary}
    (h : ∀ key text, d[key]? = some text → ∃ option ∈ options, driverKey option = key) :
    ((chosen d).map fun p ↦ (driverKey p.1, p.2)).Perm d.toList := by
  have hchosen : ((chosen d).map fun p ↦ (driverKey p.1, p.2)).Nodup := by
    refine List.Nodup.of_map Prod.fst ?_
    rw [List.map_map]
    have hnames := (options_nodup.sublist (chosen_sublist d)).map driverKey_injective
    rwa [List.map_map] at hnames
  have hentries : d.toList.Nodup := by
    refine Std.ExtTreeMap.distinct_keys_toList.imp fun hne ↦ ?_
    rintro rfl
    exact hne Std.ReflCmp.compare_self
  refine (List.perm_ext_iff_of_nodup hchosen hentries).2 ?_
  rintro ⟨key, text⟩
  rw [Std.ExtTreeMap.mem_toList_iff_getElem?_eq_some, List.mem_map]
  constructor
  · rintro ⟨⟨option, value⟩, hmem, hpair⟩
    obtain ⟨rfl, rfl⟩ := Prod.mk.inj hpair
    exact ((mem_chosen d option value).1 hmem).2
  · intro htext
    obtain ⟨option, hoption, rfl⟩ := h key text htext
    exact ⟨(option, text), (mem_chosen d option text).2 ⟨hoption, htext⟩, rfl⟩

end Command

namespace VolumeRecord

variable {r r' : VolumeRecord} {key text : String}

theorem context_bound (r : VolumeRecord) (b : Bound) : r.context[b.key]? = some (r.quota b).text := by
  rw [mem_context]
  cases b <;> simp [quota]

theorem option_of_context (h : r.context[key]? = some text) :
    ∃ option ∈ Command.options, driverKey option = key := by
  have hkey : key ∈ Attribute.all.map Attribute.key ++ [Bound.soft.key, Bound.hard.key] := by
    have hmem := List.mem_map_of_mem (f := Prod.fst) (mem_context.1 h)
    rw [List.map_append] at hmem
    exact (r.told_sublist.append_right _).subset hmem
  rcases List.mem_append.1 hkey with hattribute | hbound
  · obtain ⟨a, ha, rfl⟩ := List.mem_map.1 hattribute
    refine ⟨a.name, ?_, rfl⟩
    rw [Command.options_eq]
    exact List.mem_append_left _ (List.mem_map_of_mem ha)
  · obtain ⟨b, hb, rfl⟩ : ∃ b ∈ [Bound.soft, Bound.hard], Bound.key b = key := List.mem_map.1 hbound
    refine ⟨b.name, ?_, rfl⟩
    rw [Command.options_eq]
    exact List.mem_append_right _ (List.mem_map_of_mem hb)

theorem context_congr (hreported : r'.reported = r.reported) (hquota : r'.quota = r.quota) :
    r'.context = r.context := by
  have hsoft : r'.soft = r.soft := congrFun hquota .soft
  have hhard : r'.hard = r.hard := congrFun hquota .hard
  rw [context_eq, context_eq, told, told, hreported, hsoft, hhard]

theorem reported_eq (r : VolumeRecord) (a : Attribute) :
    r.reported a = if a = .encryption ∧ r.value a = "" then "off" else r.value a := by
  cases a with
  | encryption =>
    simp only [reported, encryption, true_and]
    split <;> simp_all
  | _ => simp [reported]

/-- Two volumes that differ by what the realm knows them by at most, and by the word for no encryption. -/
structure CopyOf (r copy : VolumeRecord) : Prop where
  value : ∀ a, copy.value a = if a = .encryption ∧ r.value a = "" then "off" else r.value a
  quota : ∀ b, copy.quota b = r.quota b
  context : copy.context = r.context

theorem CopyOf.of_reported {copy : VolumeRecord} (hvalue : copy.value = r.reported)
    (hquota : copy.quota = r.quota) : CopyOf r copy := by
  have hreported : copy.reported = r.reported := by
    funext a
    -- a mode of encryption that is told is never empty, so it is told as it is
    rw [reported_eq, hvalue, reported_eq]
    split_ifs <;> simp_all
  refine ⟨fun a ↦ ?_, congrFun hquota, context_congr hreported hquota⟩
  rw [hvalue, reported_eq]

end VolumeRecord

namespace RealmMemory

variable {m : RealmMemory} {name : String}

theorem quota_context (r : VolumeRecord) (b : Bound) : quota r.context b = .ok (r.quota b) := by
  have hread : Quota.read? (r.quota b).text = some (r.quota b) := Binary64.read?_text _
  rw [quota, r.context_bound]
  simp only [hread]

theorem newRecord_copyOf (hmode : m.reportedEncryption = none) (name : String) (r : VolumeRecord) :
    r.CopyOf (m.newRecord name r.context (r.quota .soft) (r.quota .hard)) := by
  apply VolumeRecord.CopyOf.of_reported
  · funext a
    rw [newRecord, hmode]
    exact r.context_getD a
  · exact newRecord_quota m name _ r.quota

/-- What is told of a volume serves to create it again, under any name that is free. The new volume has the
attributes and the quotas of the old one, with no encryption spelt out, and the same is told of it; and a
realm behind a remote shell is given each entry of what is told once, and nothing else. -/
theorem context_makes_copy (r : VolumeRecord) (secrets : Dictionary) (hm : m.failure = none)
    (hmode : m.reportedEncryption = none) (habsent : m.record? name = none) :
    (∃ copy, (realm.create name r.context secrets).outcome m = (.ok copy, insert copy m.attempted) ∧
      copy.name = VolumeName.strip name ∧ r.CopyOf copy) ∧
    ∃ pairs : List (String × String),
      Command.create name r.context = "volume" :: "create" :: VolumeName.path name ::
        pairs.flatMap (fun p ↦ [p.1, p.2]) ∧
      (pairs.map fun p ↦ (driverKey p.1, p.2)).Perm r.context.toList := by
  refine ⟨⟨_, ?_, newRecord_name m _ _ _ _, newRecord_copyOf hmode (VolumeName.strip name) r⟩,
    Command.chosen r.context, Command.create_eq name r.context,
    Command.chosen_perm fun _ _ ↦ VolumeRecord.option_of_context⟩
  change (create name r.context).outcome m = _
  rw [create_outcome, created_of_absent (admission_of_no_failure hm) habsent (quota_context r .soft)
    (quota_context r .hard)]

def odd : VolumeRecord where
  name := "a"
  value a := if a = .layout then "raid6+" else ""
  soft := .nan
  hard := .ofRank true 0

theorem context_makes_copy_of_odd :
    (({} : RealmMemory).failure = none ∧ ({} : RealmMemory).reportedEncryption = none ∧
      ({} : RealmMemory).record? "/b" = none) ∧
    ∃ copy, ((realm.create "/b" odd.context ∅).outcome {}).1 = .ok copy ∧ copy.name = "b" ∧
      copy.value .layout = "raid6+" ∧ copy.value .encryption = "off" ∧ copy.quota .soft = .nan ∧
      copy.quota .hard = .ofRank true 0 := by
  have habsent : ({} : RealmMemory).record? "/b" = none := rfl
  obtain ⟨⟨copy, houtcome, hname, hcopy⟩, -⟩ := context_makes_copy odd ∅ rfl rfl habsent
  exact ⟨⟨rfl, rfl, habsent⟩, copy, congrArg Prod.fst houtcome, hname.trans (by decide),
    hcopy.value .layout, hcopy.value .encryption, hcopy.quota .soft, hcopy.quota .hard⟩

end RealmMemory

end RealmDriver
