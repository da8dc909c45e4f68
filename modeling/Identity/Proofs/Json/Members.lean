/-
Identity/Proofs/Json/Members.lean

What the readers of members have seen in a value.
-/
import Identity.Json.Value
import Mathlib.Tactic.Common

namespace Identity.Json

/-- What was read from each value on its own was mapped from it. -/
theorem eq_map_of_mapM {α β : Type} {f : α → Option β} {g : β → α}
    (hinverse : ∀ x y, f x = some y → x = g y) {xs : List α} {ys : List β}
    (h : xs.mapM f = some ys) : xs = ys.map g := by
  induction xs generalizing ys with
  | nil =>
    rw [List.mapM_nil] at h
    obtain rfl := Option.some.inj h
    rfl
  | cons x xs ih =>
    simp only [List.mapM_cons, Option.bind_eq_bind, Option.bind_eq_some_iff] at h
    obtain ⟨y, hy, ys, hys, h⟩ := h
    obtain rfl := Option.some.inj h
    rw [List.map_cons, ← hinverse x y hy, ← ih hys]

theorem bool?_eq_some {value : Value} {b : Bool} : value.bool? = some b ↔ value = .bool b := by
  cases value with
  | bool found => simp [Value.bool?]
  | _ => exact iff_of_false nofun nofun

/-- Members can be read from the objects whose keys are texts. -/
theorem members?_eq_some {value : Value} {members : List (String × Value)} :
    value.members? = some members ↔ value = .object (members.map fun m => (some m.1, m.2)) := by
  constructor
  · intro h
    cases value with
    | object found =>
      refine congrArg Value.object (eq_map_of_mapM ?_ h)
      rintro ⟨name, value⟩ member hmember
      obtain ⟨key, hkey, rfl⟩ := Option.map_eq_some_iff.mp hmember
      exact Prod.ext hkey rfl
    | _ => cases h
  · rintro rfl
    rw [Value.members?, List.mapM_map]
    exact (List.mapM_pure ..).trans (congrArg some (List.map_id members))

/-- A member is found when it is the only one of its name. -/
theorem single?_eq_some {name : String} {members : List (String × Value)} {value : Value} :
    single? name members = some (some value) ↔
      members.filter (·.1 == name) = [(name, value)] := by
  unfold single?
  split
  · next hfilter => exact iff_of_false nofun (by rw [hfilter]; nofun)
  · next member hfilter =>
    have hname : member.1 = name := by
      have hmem : member ∈ members.filter (·.1 == name) := hfilter ▸ List.mem_singleton_self _
      simpa using (List.mem_filter.mp hmem).2
    rw [hfilter, ← hname, Option.some.injEq, Option.some.injEq, List.singleton_inj]
    exact ⟨fun h => Prod.ext rfl h, fun h => congrArg Prod.snd h⟩
  · next hnil hone =>
    refine iff_of_false nofun fun h => ?_
    exact hone _ h

end Identity.Json
