/-
  Values that differ in the order of members.

  * `Reordered v w`: members were moved, in any number of objects and at any
    depth.
  * `reordered_rebuild`: an operation that moves the members of every object
    yields a reordering.
-/
import CasperProof.Lib.Json.Sorted

namespace CasperProof.Json

variable {N S : Type}

/-- `w` is `v` with the members of its objects in another order. -/
inductive Reordered : Json N S → Json N S → Prop
  | refl (v) : Reordered v v
  | members {ms ns} : ms.Perm ns → Reordered (.obj ms) (.obj ns)
  | element (xs) {x y} (ys) : Reordered x y → Reordered (.arr (xs ++ x :: ys)) (.arr (xs ++ y :: ys))
  | member (ms k) {x y} (ns) : Reordered x y → Reordered (.obj (ms ++ (k, x) :: ns)) (.obj (ms ++ (k, y) :: ns))
  | trans {u v w} : Reordered u v → Reordered v w → Reordered u w

namespace Reordered

theorem symm {v w : Json N S} (h : Reordered v w) : Reordered w v := by
  induction h with
  | refl v => exact .refl v
  | members hp => exact .members hp.symm
  | element xs ys _ ih => exact .element xs ys ih
  | member ms k ns _ ih => exact .member ms k ns ih
  | trans _ _ ih ih' => exact ih'.trans ih

/-- The elements of an array, one after the other. -/
theorem arr {xs ys : List (Json N S)} (h : List.Forall₂ Reordered xs ys) : Reordered (.arr xs) (.arr ys) := by
  suffices hzs : ∀ zs, Reordered (.arr (zs ++ xs)) (.arr (zs ++ ys)) from hzs []
  induction h with
  | nil => exact fun zs => .refl _
  | @cons x y xs ys hxy _ ih =>
    intro zs
    have hrest := ih (zs ++ [y])
    rw [List.append_assoc, List.append_assoc] at hrest
    exact (element zs xs hxy).trans hrest

/-- The members of an object, one after the other. -/
theorem obj {ms : Members N S} {f : Json N S → Json N S} (h : ∀ m ∈ ms, Reordered m.2 (f m.2)) :
    Reordered (.obj ms) (.obj (ms.map fun m => (m.1, f m.2))) := by
  suffices hns : ∀ ns, Reordered (.obj (ns ++ ms)) (.obj (ns ++ ms.map fun m => (m.1, f m.2))) from hns []
  induction ms with
  | nil => exact fun ns => .refl _
  | cons m ms ih =>
    intro ns
    have hrest := ih (fun m' hm' => h m' (List.mem_cons_of_mem _ hm')) (ns ++ [(m.1, f m.2)])
    rw [List.append_assoc, List.append_assoc] at hrest
    exact (member ns m.1 ms (h m (List.mem_cons_self ..))).trans hrest

/-- Moving members keeps the keys distinct. -/
theorem distinct {v w : Json N S} (h : Reordered v w) (hv : v.Distinct) : w.Distinct := by
  induction h with
  | refl v => exact hv
  | members hp =>
    obtain ⟨hkeys, hms⟩ := (every_obj _).1 hv
    exact (every_obj _).2 ⟨(hp.map Prod.fst).nodup_iff.1 hkeys, fun m hm => hms m (hp.mem_iff.2 hm)⟩
  | element xs ys _ ih =>
    rw [Distinct, every_arr] at hv ⊢
    intro z hz
    rcases List.mem_append.1 hz with hz | hz
    · exact hv z (List.mem_append_left _ hz)
    rcases List.mem_cons.1 hz with rfl | hz
    · exact ih (hv _ (by simp))
    · exact hv z (by simp [hz])
  | member ms k ns _ ih =>
    rw [Distinct, every_obj] at hv ⊢
    refine ⟨by simpa using hv.1, fun m hm => ⟨trivial, ?_⟩⟩
    rcases List.mem_append.1 hm with hm | hm
    · exact (hv.2 m (List.mem_append_left _ hm)).2
    rcases List.mem_cons.1 hm with rfl | hm
    · exact ih (hv.2 (k, _) (by simp)).2
    · exact (hv.2 m (by simp [hm])).2
  | trans _ _ ih ih' => exact ih' (ih hv)

end Reordered

/-- **An operation that moves members** yields a reordering. -/
theorem reordered_rebuild {h : Members N S → Members N S} (hperm : ∀ ms, (keys ms).Nodup → (h ms).Perm ms)
    {v : Json N S} (hv : v.Distinct) : Reordered v (v.rebuild id id h) := by
  induction v with
  | null | bool | num | str => exact .refl _
  | arr xs ih =>
    rw [Distinct, every_arr] at hv
    rw [rebuild_arr]
    refine .arr (List.forall₂_map_right_iff.2 (List.forall₂_same.2 ?_))
    exact fun x hx => ih x hx (hv x hx)
  | obj ms ih =>
    rw [Distinct, every_obj] at hv
    have hms : Reordered (.obj ms) (.obj (ms.map fun m => (m.1, rebuild id id h m.2))) :=
      .obj fun m hm => ih m hm (hv.2 m hm).2
    have hkeys : (keys (ms.map fun m => (m.1, rebuild id id h m.2))).Nodup := by
      rw [keys, List.map_map]
      exact hv.1
    rw [rebuild_obj]
    exact hms.trans (.members (hperm _ hkeys).symm)

end CasperProof.Json
