import AiGateway.Lib.Json
import Mathlib.Data.List.Nodup

/- Object literals whose members are known by name. A member may be undefined, and
   `JSON.stringify` leaves it out; no name stands twice, so a property reads back as it was
   given (`get?_toValue`), undefined where it was left out. -/
namespace Json

/-- The members of an object literal, undefined ones as `none`. -/
structure Record where
  fields : List (String × Option Value)
  distinct : (fields.map Prod.fst).Nodup

namespace Record

/-- The members that are written. -/
def members (fields : List (String × Option Value)) : List (String × Value) :=
  fields.filterMap fun field => field.2.map fun v => (field.1, v)

def toValue (r : Record) : Value := .obj (members r.fields)

theorem mem_members {fields : List (String × Option Value)} {key : String} {v : Value} :
    (key, v) ∈ members fields ↔ (key, some v) ∈ fields := by
  constructor
  · intro h
    obtain ⟨⟨name, o⟩, hmem, heq⟩ := List.mem_filterMap.mp h
    cases o with
    | none => cases heq
    | some w => cases heq; exact hmem
  · intro h
    exact List.mem_filterMap.mpr ⟨(key, some v), h, rfl⟩

/-- A name that stands once has what stands there. -/
theorem lookup_eq_of_mem {fields : List (String × Option Value)} (hdistinct : (fields.map Prod.fst).Nodup)
    {key : String} {o : Option Value} (hmem : (key, o) ∈ fields) : fields.lookup key = some o := by
  induction fields with
  | nil => cases hmem
  | cons field fields ih =>
    rw [List.map_cons, List.nodup_cons] at hdistinct
    obtain rfl | hmem := List.mem_cons.mp hmem
    · exact List.lookup_cons_self
    · have hne : (key == field.1) = false := by
        rw [beq_eq_false_iff_ne]
        intro heq
        exact hdistinct.1 (List.mem_map.mpr ⟨(key, o), hmem, heq⟩)
      rw [List.lookup_cons, hne]
      exact ih hdistinct.2 hmem

theorem lookup_eq_none {fields : List (String × Option Value)} {key : String}
    (h : ∀ o, (key, o) ∉ fields) : fields.lookup key = none := by
  rw [List.lookup_eq_none_iff]
  intro field hfield
  rw [bne_iff_ne]
  rintro rfl
  exact h field.2 hfield

/-- The property of an object that was written from a literal. -/
theorem get?_toValue (r : Record) (key : String) : r.toValue.get? key = (r.fields.lookup key).join := by
  show ((members r.fields).reverse.find? (·.1 = key)).map (·.2) = _
  cases hfind : (members r.fields).reverse.find? (·.1 = key) with
  | some m =>
    obtain ⟨name, v⟩ := m
    have hname : name = key := by simpa using List.find?_some hfind
    have hmem : (key, some v) ∈ r.fields := by
      rw [← hname, ← mem_members, ← List.mem_reverse]
      exact List.mem_of_find?_eq_some hfind
    rw [lookup_eq_of_mem r.distinct hmem]
    rfl
  | none =>
    have hnone : ∀ v, (key, some v) ∉ r.fields := by
      intro v hmem
      have hwritten : (key, v) ∈ (members r.fields).reverse := List.mem_reverse.mpr (mem_members.mpr hmem)
      simpa using List.find?_eq_none.mp hfind (key, v) hwritten
    by_cases hundefined : (key, none) ∈ r.fields
    · rw [lookup_eq_of_mem r.distinct hundefined]
      rfl
    · have habsent : ∀ o, (key, o) ∉ r.fields := by
        intro o
        cases o with
        | none => exact hundefined
        | some v => exact hnone v
      rw [lookup_eq_none habsent]
      rfl

end Record

end Json
