import RealmDriver.Text.Utf8

namespace RealmDriver.Text

variable (p : Char → Prop) [DecidablePred p]

-- without these, one might go through all characters that there are
instance decidableForallMem (cs : List Char) : Decidable (∀ c ∈ cs, p c) := List.decidableBAll p cs

instance decidableForallMemOption (c? : Option Char) : Decidable (∀ c ∈ c?, p c) :=
  Option.decidableForallMem c?

theorem decode_toByteArray (s : String) : decode s.toByteArray.data.toList = .ok s := by
  have hread : String.fromUTF8? s.toByteArray = some s := by
    rw [String.fromUTF8?, dif_pos s.isValidUTF8]
    rfl
  rw [decode, Array.toArray_toList, hread]

theorem decode_ok_iff {bytes : List UInt8} {text : String} :
    decode bytes = .ok text ↔ text.toByteArray.data.toList = bytes := by
  constructor
  · intro h
    rw [decode, String.fromUTF8?] at h
    split at h
    · rename_i hread
      split at hread
      · cases h
        cases hread
        rfl
      · cases hread
    · cases h
  · rintro rfl
    exact decode_toByteArray text

theorem map_toList_ofList (pieces : List (List Char)) :
    (pieces.map String.ofList).map String.toList = pieces := by
  rw [List.map_map]
  exact (List.map_congr_left fun _ _ ↦ String.toList_ofList).trans (List.map_id pieces)

theorem map_ofList_toList (pieces : List String) :
    (pieces.map String.toList).map String.ofList = pieces := by
  rw [List.map_map]
  exact (List.map_congr_left fun _ _ ↦ String.ofList_toList).trans (List.map_id pieces)

end RealmDriver.Text
