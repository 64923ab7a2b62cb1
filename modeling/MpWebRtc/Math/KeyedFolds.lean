import MpWebRtc.Math.OrderedMap

/-!
# Maps with an entry for each element of a list

The elements of a list have different keys, and a map has one entry for each of them. Such a map is
filled by a loop over the list, has as many entries as the list has elements, and when one entry is
changed a total over the elements changes by what that entry adds to it.
-/

namespace Math.OrderedMap

variable {Element Key Value : Type} [LinearOrder Key] {key : Element → Key}
  {elements : List Element} {map : OrderedMap Key Value}

/-- The map has an entry for each key of the elements, and no other. -/
def Covers (map : OrderedMap Key Value) (key : Element → Key) (elements : List Element) : Prop :=
  ∀ k, (map.find k).isSome ↔ k ∈ elements.map key

/-- There are as many entries as elements. -/
theorem Covers.length_entries (covers : map.Covers key elements)
    (distinct : (elements.map key).Nodup) : map.entries.length = elements.length := by
  have keysNodup : (map.entries.map Prod.fst).Nodup :=
    List.pairwise_map.mpr (map.sorted.imp fun before => before.ne)
  have perm : (map.entries.map Prod.fst).Perm (elements.map key) := by
    refine (List.perm_ext_iff_of_nodup keysNodup distinct).mpr fun k => ?_
    rw [← covers k, Option.isSome_iff_exists, List.mem_map]
    constructor
    · rintro ⟨⟨_, value⟩, member, rfl⟩
      exact ⟨value, find_eq_some_iff.mpr member⟩
    · rintro ⟨value, found⟩
      exact ⟨(k, value), find_eq_some_iff.mp found, rfl⟩
  have length := perm.length_eq
  rwa [List.length_map, List.length_map] at length

/-- Changing the entry of an element leaves the same keys. -/
theorem Covers.insert (covers : map.Covers key elements) {element : Element}
    (member : element ∈ elements) (value : Value) :
    (map.insert (key element) value).Covers key elements := by
  intro k
  rw [find_insert]
  split
  · next same => exact iff_of_true rfl (same ▸ List.mem_map_of_mem member)
  · exact covers k

/-- Filling a map: what is found under a key that is not in the list. -/
theorem find_foldl_insert_of_not_mem (value : Element → Value) {k : Key}
    (absent : k ∉ elements.map key) (map : OrderedMap Key Value) :
    (elements.foldl (fun map element => map.insert (key element) (value element)) map).find k =
      map.find k := by
  induction elements generalizing map with
  | nil => rfl
  | cons element rest ih =>
      rw [List.map_cons, List.mem_cons, not_or] at absent
      rw [List.foldl_cons, ih absent.2, find_insert, if_neg absent.1]

variable {element : Element}

/-- Filling a map: what is found under the key of an element. -/
theorem find_foldl_insert (distinct : (elements.map key).Nodup) (value : Element → Value)
    (map : OrderedMap Key Value) (member : element ∈ elements) :
    (elements.foldl (fun map element => map.insert (key element) (value element)) map).find
      (key element) = some (value element) := by
  induction elements generalizing map with
  | nil => cases member
  | cons first rest ih =>
      rw [List.map_cons, List.nodup_cons] at distinct
      rw [List.foldl_cons]
      rcases List.mem_cons.mp member with rfl | inRest
      · rw [find_foldl_insert_of_not_mem value distinct.1, find_insert, if_pos rfl]
      · exact ih distinct.2 _ inRest

/-- Changing the entries of a list: what is found under other keys. -/
theorem find_foldl_modify_of_not_mem (change : Element → Value → Value) {k : Key}
    (absent : k ∉ elements.map key) (map : OrderedMap Key Value) :
    (elements.foldl (fun map element => map.modify (key element) (change element)) map).find k =
      map.find k := by
  induction elements generalizing map with
  | nil => rfl
  | cons element rest ih =>
      rw [List.map_cons, List.mem_cons, not_or] at absent
      rw [List.foldl_cons, ih absent.2, find_modify, if_neg absent.1]

/-- Changing the entries of a list: what is found under the key of an element. -/
theorem find_foldl_modify (distinct : (elements.map key).Nodup)
    (change : Element → Value → Value) (map : OrderedMap Key Value) (member : element ∈ elements) :
    (elements.foldl (fun map element => map.modify (key element) (change element)) map).find
      (key element) = (map.find (key element)).map (change element) := by
  induction elements generalizing map with
  | nil => cases member
  | cons first rest ih =>
      rw [List.map_cons, List.nodup_cons] at distinct
      rw [List.foldl_cons]
      rcases List.mem_cons.mp member with rfl | inRest
      · rw [find_foldl_modify_of_not_mem change distinct.1, find_modify, if_pos rfl]
      · have apart : key element ≠ key first := fun same =>
          distinct.1 (same ▸ List.mem_map_of_mem inRest)
        rw [ih distinct.2 _ inRest, find_modify, if_neg apart]

/-- A map that is filled has the keys of the list. -/
theorem covers_foldl_insert (distinct : (elements.map key).Nodup) (value : Element → Value) :
    (elements.foldl (fun map element => map.insert (key element) (value element))
      ({} : OrderedMap Key Value)).Covers key elements := by
  intro k
  by_cases isKey : k ∈ elements.map key
  · obtain ⟨element, member, rfl⟩ := List.mem_map.mp isKey
    rw [find_foldl_insert distinct value _ member]
    exact iff_of_true rfl isKey
  · rw [find_foldl_insert_of_not_mem value isKey]
    exact iff_of_false (by rintro ⟨⟩) isKey

omit [LinearOrder Key] in
/-- A total over the elements, when only what one of them adds is changed. -/
theorem sum_map_change (before after : Element → Nat) (distinct : (elements.map key).Nodup)
    (member : element ∈ elements)
    (same : ∀ other ∈ elements, key other ≠ key element → after other = before other) :
    (elements.map after).sum + before element = (elements.map before).sum + after element := by
  induction elements with
  | nil => cases member
  | cons first rest ih =>
      rw [List.map_cons, List.nodup_cons] at distinct
      rw [List.map_cons, List.map_cons, List.sum_cons, List.sum_cons]
      rcases List.mem_cons.mp member with rfl | inRest
      · have rest : rest.map after = rest.map before := by
          refine List.map_congr_left fun other isOther => ?_
          refine same other (.tail _ isOther) fun equal => distinct.1 ?_
          rw [← equal]
          exact List.mem_map_of_mem isOther
        rw [rest]
        omega
      · have first := same first List.mem_cons_self fun equal => distinct.1 (by
          rw [equal]
          exact List.mem_map_of_mem inRest)
        have rest := ih distinct.2 inRest fun other isOther => same other (.tail _ isOther)
        omega

end Math.OrderedMap
