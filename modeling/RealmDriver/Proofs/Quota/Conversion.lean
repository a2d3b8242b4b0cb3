import RealmDriver.Proofs.Creation.Outcome
import RealmDriver.Proofs.Quota.Amount

namespace RealmDriver

namespace Quota

variable {q q' : Quota}

theorem toBytes_le_maxBytes (q : Quota) : q.toBytes ≤ maxBytes := by
  cases q with
  | nan => exact Nat.zero_le _
  | signed negative r =>
    cases negative with
    | true => exact Nat.zero_le _
    | false => exact Nat.min_le_left _ _

theorem toBytes_of_place_nonpos {t : Int} (hplace : q.place = some t) (ht : t ≤ 0) : q.toBytes = 0 := by
  cases q with
  | nan => rfl
  | signed negative r =>
    cases negative with
    | true => rfl
    | false =>
      cases hplace
      rw [← Binary64.ofRank_val, show r.val = 0 by omega]
      rfl

theorem toBytes_le_of_le (h : q.le q' = true) : q.toBytes ≤ q'.toBytes := by
  obtain ⟨t, t', ht, ht', hle⟩ := Binary64.le_iff.1 h
  rcases le_or_gt t 0 with hnonpos | hpos
  · rw [toBytes_of_place_nonpos ht hnonpos]
    exact Nat.zero_le _
  · cases q with
    | nan => cases ht
    | signed negative r =>
      cases q' with
      | nan => cases ht'
      | signed negative' r' =>
        cases negative <;> cases negative' <;> cases ht <;> cases ht'
        · rw [← Binary64.ofRank_val, ← Binary64.ofRank_val]
          exact toBytes_mono (by omega)
        all_goals omega

theorem bytes_read_back {b : Int} (hb : 0 ≤ b) (hsmall : b ≤ 2 ^ 53) : ((ofBytes b).toBytes : Int) = b := by
  lift b to Nat using hb
  exact congrArg Nat.cast (stored_of_le (by exact_mod_cast hsmall))

end Quota

theorem Creation.toMessage_volume (record : VolumeRecord) : ∃ message,
    (volume record).toMessage = .ok message ∧ message.capacity = record.softBytes := by
  refine ⟨_, if_neg (Nat.not_lt.2 ?_), rfl⟩
  exact Quota.toBytes_le_maxBytes _

theorem Creation.toMessage_of_run_ok {σ : Type} {realm : Realm σ} {r : CreateRequest} {s : σ} {c : Created}
    (h : ((run realm r).outcome s).1 = .ok c) : ∃ message,
    c.volume.toMessage = .ok message ∧ message.capacity = c.volume.capacity := by
  obtain ⟨record, hvolume, -⟩ := exists_record_of_run_ok (I := fun _ ↦ True) (Q := fun _ ↦ True)
    (fun _ _ ↦ trivial) (fun _ _ _ _ _ ↦ trivial) (fun _ _ _ _ _ ↦ trivial) trivial h
  rw [hvolume]
  exact toMessage_volume record

namespace Quota

/-- Up to 2^53 bytes come back as they were, be the quota written and read in between or not. More bytes
never come back as less, nor does a larger quota make less of them, and there is no quota, nor a volume that
is handed back, that a message could not carry. -/
theorem bytes_come_back :
    (∀ b : Int, 0 ≤ b → b ≤ 2 ^ 53 →
      (read? (ofBytes b).text).map (fun q ↦ (q.toBytes : Int)) = some b ∧ ((ofBytes b).toBytes : Int) = b) ∧
    (∀ a b : Int64, a ≤ b → (ofBytes a.toInt).toBytes ≤ (ofBytes b.toInt).toBytes) ∧
    (∀ b : Int64, b ≤ 0 → (ofBytes b.toInt).toBytes = 0) ∧
    (∀ q q' : Quota, q.le q' = true → q.toBytes ≤ q'.toBytes) ∧
    (∀ q : Quota, q.toBytes ≤ maxBytes) ∧
    ∀ {σ : Type} (realm : Realm σ) (r : CreateRequest) (s : σ) (c : Creation.Created),
      ((Creation.run realm r).outcome s).1 = .ok c → ∃ message,
        c.volume.toMessage = .ok message ∧ message.capacity = c.volume.capacity := by
  refine ⟨fun b hb hsmall ↦ ?_, fun a b h ↦ ?_, fun b h ↦ ?_, fun q q' ↦ toBytes_le_of_le,
    toBytes_le_maxBytes, fun realm r s c ↦ Creation.toMessage_of_run_ok⟩
  · rw [read?_text, Option.map_some, bytes_read_back hb hsmall]
    exact ⟨rfl, rfl⟩
  · exact stored_mono (Int64.le_iff_toInt_le.1 h)
  · exact stored_of_nonpos (Int64.le_iff_toInt_le.1 h)

theorem bytes_come_back_of_limits :
    let r := Creation.bare "a" ⟨9007199254740992, 0⟩
    ((read? (ofBytes (2 ^ 53)).text).map (fun q ↦ (q.toBytes : Int)) = some (2 ^ 53) ∧
      ((ofBytes (2 ^ 53)).toBytes : Int) = 2 ^ 53) ∧
    (ofBytes (9223372036854775806 : Int64).toInt).toBytes ≤
      (ofBytes (9223372036854775807 : Int64).toInt).toBytes ∧
    (ofBytes (-9223372036854775808 : Int64).toInt).toBytes = 0 ∧
    toBytes (Binary64.infinity true) ≤ toBytes (Binary64.infinity false) ∧
    toBytes .nan ≤ maxBytes ∧
    ∃ c message, ((Creation.run RealmMemory.realm r).outcome {}).1 = .ok c ∧
      c.volume.toMessage = .ok message ∧ message.capacity = c.volume.capacity := by
  obtain ⟨record, -, hrun⟩ := Creation.exists_run_bare (m := {}) "a" ⟨9007199254740992, 0⟩ (by decide)
    rfl rfl Std.ExtTreeMap.getElem?_empty
  obtain ⟨hread, hmono, hnone, hle, hmax, hcreated⟩ := bytes_come_back
  obtain ⟨message, hmessage, hcapacity⟩ := hcreated _ _ _ _ (congrArg Prod.fst hrun)
  exact ⟨hread _ (by decide) le_rfl, hmono _ _ (by decide), hnone _ (by decide), hle _ _ (by decide +kernel),
    hmax _, _, message, congrArg Prod.fst hrun, hmessage, hcapacity⟩

end Quota

end RealmDriver
