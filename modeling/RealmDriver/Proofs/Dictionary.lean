import Mathlib.Data.List.Nodup
import RealmDriver.Dictionary

namespace RealmDriver.Dictionary

variable {entries : List (String × String)} {key text : String}

theorem getElem?_foldl_insert (h : (entries.map Prod.fst).Nodup) (d : Dictionary) :
    (entries.foldl (fun d e ↦ d.insert e.1 e.2) d)[key]? = some text ↔
      (key, text) ∈ entries ∨ key ∉ entries.map Prod.fst ∧ d[key]? = some text := by
  -- over all dictionaries, since each entry is put into one that has those before it
  induction entries generalizing d with
  | nil => simp
  | cons e entries ih =>
    obtain ⟨name, value⟩ := e
    rw [List.map_cons, List.nodup_cons] at h
    rw [List.foldl_cons, ih h.2, Std.ExtTreeMap.getElem?_insert]
    simp only [Std.LawfulEqOrd.compare_eq_iff_eq]
    by_cases hkey : name = key
    · subst hkey
      have hnot : (name, text) ∉ entries := fun hmem ↦ h.1 (List.mem_map.2 ⟨_, hmem, rfl⟩)
      simp [h.1, hnot, eq_comm]
    · simp [hkey, Ne.symm hkey]

theorem getElem?_ofList (h : (entries.map Prod.fst).Nodup) :
    (ofList entries)[key]? = some text ↔ (key, text) ∈ entries := by
  rw [ofList, getElem?_foldl_insert h]
  simp

end RealmDriver.Dictionary
