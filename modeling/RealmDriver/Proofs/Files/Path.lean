import RealmDriver.Files.Tree
import RealmDriver.Proofs.Text.Blank

namespace RealmDriver

namespace Path

structure IsName (name : String) : Prop where
  ne_empty : name ≠ ""
  ne_dot : name ≠ "."
  ne_dots : name ≠ ".."
  no_slash : '/' ∉ name.toList

def IsCanonical (p : Path) : Prop := ∃ l : Location, (∀ n ∈ l, IsName n) ∧ p = l.path

end Path

namespace Location

variable {l : Location}

theorem toList_path (l : Location) :
    l.path.toList = '/' :: ['/'].intercalate (l.map String.toList) := by
  rw [path, String.toList_append, String.toList_intercalate]
  rfl

theorem parts_path (hl : ∀ n ∈ l, Path.IsName n) :
    Path.parts l.path = "" :: if l = [] then [""] else l := by
  have hsplit : Text.splitAt (· = '/') l.path.toList =
      [] :: Text.splitAt (· = '/') (['/'].intercalate (l.map String.toList)) := by
    rw [toList_path]
    exact Text.splitAt_append (by decide) [] _
  rw [Path.parts, hsplit, List.map_cons]
  split
  · rename_i hnil
    rw [hnil]
    rfl
  · rename_i hne
    rw [Text.splitAt_intercalate (by decide) (by simpa using hne), List.map_map]
    · simp [Function.comp_def, String.ofList_toList]
    · intro p hp c hc
      obtain ⟨n, hn, rfl⟩ := List.mem_map.1 hp
      exact decide_eq_false fun h ↦ (hl n hn).no_slash (h ▸ hc)

theorem not_isIdle {name : String} (h : Path.IsName name) : Path.isIdle name = false := by
  simp [Path.isIdle, h.ne_empty, h.ne_dot]

theorem components_path (hl : ∀ n ∈ l, Path.IsName n) : Path.components l.path = "/" :: l := by
  have habsolute : Path.isAbsolute l.path = true := by
    rw [Path.isAbsolute, toList_path]
    rfl
  have hkept : l.filter (!Path.isIdle ·) = l :=
    List.filter_eq_self.2 fun n hn ↦ by rw [not_isIdle (hl n hn), Bool.not_false]
  rw [Path.components, parts_path hl]
  simp only [habsolute, if_true]
  split
  · rename_i hnil
    rw [hnil]
    rfl
  · rw [hkept, List.singleton_append]

theorem path_inj {l' : Location} (hl : ∀ n ∈ l, Path.IsName n) (hl' : ∀ n ∈ l', Path.IsName n)
    (h : l.path = l'.path) : l = l' := by
  have hcomponents := components_path hl
  rw [h, components_path hl'] at hcomponents
  exact (List.cons.inj hcomponents).2.symm

end Location

theorem Path.same_iff {p q : Path} (hp : IsCanonical p) (hq : IsCanonical q) :
    same p q = true ↔ p = q := by
  obtain ⟨l, hl, rfl⟩ := hp
  obtain ⟨l', hl', rfl⟩ := hq
  rw [same, decide_eq_true_iff, Location.components_path hl, Location.components_path hl']
  constructor
  · intro h
    rw [(List.cons.inj h).2]
  · intro h
    rw [Location.path_inj hl hl' h]

end RealmDriver
