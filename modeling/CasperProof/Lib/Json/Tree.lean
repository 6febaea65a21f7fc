/-
  JSON trees — over any type of numbers and any type of strings.

  * `Json N S`: the six kinds of values; an object is the list of its members,
    in order.
  * `Json.rebuild f g h`: the bottom-up map that applies `f` to the numbers, `g`
    to the strings and keys, and `h` to the members of every object.  Sorting
    keys, building objects and translating strings are all of this form.
  * `Json.Every pn ps pk`: every number satisfies `pn`, every string `ps`, and
    the list of keys of every object `pk`.
-/
import Mathlib.Logic.Basic
import Mathlib.Tactic.Common
import Mathlib.Data.List.Sort

namespace CasperProof

/-- A JSON value with numbers in `N` and strings in `S`. -/
inductive Json (N S : Type) where
  | null
  | bool (b : Bool)
  | num (n : N)
  | str (s : S)
  | arr (xs : List (Json N S))
  | obj (ms : List (S × Json N S))

namespace Json

/-- The members of an object. -/
abbrev Members (N S : Type) := List (S × Json N S)

variable {N N' N'' S S' S'' : Type}

/-! ## Induction -/

/-- Induction on a value, with hypotheses for the elements of arrays and the
    members of objects. -/
@[induction_eliminator]
theorem induct {P : Json N S → Prop} (null : P .null) (bool : ∀ b, P (.bool b)) (num : ∀ n, P (.num n))
    (str : ∀ s, P (.str s)) (arr : ∀ xs, (∀ x ∈ xs, P x) → P (.arr xs))
    (obj : ∀ ms, (∀ m ∈ ms, P m.2) → P (.obj ms)) (v : Json N S) : P v := by
  refine @Json.rec N S P (fun xs => ∀ x ∈ xs, P x) (fun ms => ∀ m ∈ ms, P m.2) (fun m => P m.2)
    null bool num str arr obj ?_ ?_ ?_ ?_ (fun _ _ h => h) v
  · simp
  · intro x xs hx hxs
    exact List.forall_mem_cons.2 ⟨hx, hxs⟩
  · simp
  · intro m ms hm hms
    exact List.forall_mem_cons.2 ⟨hm, hms⟩

/-! ## Bottom-up maps -/

mutual

def rebuild (f : N → N') (g : S → S') (h : Members N' S' → Members N' S') : Json N S → Json N' S'
  | .null => .null
  | .bool b => .bool b
  | .num n => .num (f n)
  | .str s => .str (g s)
  | .arr xs => .arr (rebuildElements f g h xs)
  | .obj ms => .obj (h (rebuildMembers f g h ms))

def rebuildElements (f : N → N') (g : S → S') (h : Members N' S' → Members N' S') :
    List (Json N S) → List (Json N' S')
  | [] => []
  | x :: xs => rebuild f g h x :: rebuildElements f g h xs

def rebuildMembers (f : N → N') (g : S → S') (h : Members N' S' → Members N' S') :
    Members N S → Members N' S'
  | [] => []
  | (k, v) :: ms => (g k, rebuild f g h v) :: rebuildMembers f g h ms

end

/-- The same tree with other numbers and strings. -/
def map (f : N → N') (g : S → S') : Json N S → Json N' S' := rebuild f g id

section
variable {f : N → N'} {g : S → S'} {h : Members N' S' → Members N' S'}

theorem rebuildElements_eq (xs : List (Json N S)) : rebuildElements f g h xs = xs.map (rebuild f g h) := by
  induction xs with
  | nil => rfl
  | cons x xs ih => rw [rebuildElements, ih, List.map_cons]

theorem rebuildMembers_eq (ms : Members N S) :
    rebuildMembers f g h ms = ms.map fun m => (g m.1, rebuild f g h m.2) := by
  induction ms with
  | nil => rfl
  | cons m ms ih => rw [rebuildMembers, ih, List.map_cons]

@[simp] theorem rebuild_null : rebuild f g h .null = .null := rfl
@[simp] theorem rebuild_bool (b : Bool) : rebuild f g h (.bool b) = .bool b := rfl
@[simp] theorem rebuild_num (n : N) : rebuild f g h (.num n) = .num (f n) := rfl
@[simp] theorem rebuild_str (s : S) : rebuild f g h (.str s) = .str (g s) := rfl

@[simp] theorem rebuild_arr (xs : List (Json N S)) :
    rebuild f g h (.arr xs) = .arr (xs.map (rebuild f g h)) := by
  rw [rebuild, rebuildElements_eq]

@[simp] theorem rebuild_obj (ms : Members N S) :
    rebuild f g h (.obj ms) = .obj (h (ms.map fun m => (g m.1, rebuild f g h m.2))) := by
  rw [rebuild, rebuildMembers_eq]

end

/-- An operation on members that looks at the keys only. -/
def Keywise (S : Type) (h : ∀ A : Type, List (S × A) → List (S × A)) : Prop :=
  ∀ (A B : Type) (φ : A → B) (ms : List (S × A)),
    h B (ms.map fun m => (m.1, φ m.2)) = (h A ms).map fun m => (m.1, φ m.2)

/-- **Fusion.**  A keywise operation may be done before the values are
    rebuilt. -/
theorem rebuild_rebuild {f : N → N'} {f' : N' → N''} {g : S → S'} {h : ∀ A : Type, List (S' × A) → List (S' × A)}
    {h' : Members N'' S' → Members N'' S'} (hk : Keywise S' h) (v : Json N S) :
    rebuild f' id h' (rebuild f g (h _) v) = rebuild (f' ∘ f) g (fun ms => h' (h _ ms)) v := by
  induction v with
  | null | bool | num | str => rfl
  | arr xs ih =>
    simp only [rebuild_arr, List.map_map]
    exact congrArg _ (List.map_congr_left ih)
  | obj ms ih =>
    have hms : (ms.map fun m => (g m.1, rebuild f' id h' (rebuild f g (h _) m.2))) =
        ms.map fun m => (g m.1, rebuild (f' ∘ f) g (fun ms => h' (h _ ms)) m.2) :=
      List.map_congr_left fun m hm => by rw [ih m hm]
    have hcomm := hk _ _ (rebuild f' id h') (ms.map fun m => (g m.1, rebuild f g (h _) m.2))
    simp only [rebuild_obj, id_eq]
    rw [← hcomm, List.map_map]
    exact congrArg (fun ms => Json.obj (h' (h _ ms))) hms

theorem rebuild_id (v : Json N S) : rebuild id id id v = v := by
  induction v with
  | null | bool | num | str => rfl
  | arr xs ih =>
    rw [rebuild_arr]
    exact congrArg _ ((List.map_congr_left ih).trans (List.map_id xs))
  | obj ms ih =>
    rw [rebuild_obj]
    have hms : ms.map (fun m => (id m.1, rebuild id id id m.2)) = ms.map id :=
      List.map_congr_left fun m hm => Prod.ext rfl (ih m hm)
    exact congrArg _ (hms.trans (List.map_id ms))

theorem map_injective [Nonempty N] {f : N → N'} (hf : Function.Injective f) :
    Function.Injective (map f (id : S → S)) := by
  obtain ⟨f', hf'⟩ := hf.hasLeftInverse
  have hback : ∀ v : Json N S, rebuild f' id id (map f id v) = v := by
    intro v
    rw [map, rebuild_rebuild (h := fun _ => id) (fun _ _ _ _ => rfl), hf'.comp_eq_id]
    exact rebuild_id v
  intro v w h
  rw [← hback v, h, hback w]

/-! ## Properties of every node -/

mutual

def Every (pn : N → Prop) (ps : S → Prop) (pk : List S → Prop) : Json N S → Prop
  | .null | .bool _ => True
  | .num n => pn n
  | .str s => ps s
  | .arr xs => EveryElement pn ps pk xs
  | .obj ms => pk (ms.map Prod.fst) ∧ EveryMember pn ps pk ms

def EveryElement (pn : N → Prop) (ps : S → Prop) (pk : List S → Prop) : List (Json N S) → Prop
  | [] => True
  | x :: xs => Every pn ps pk x ∧ EveryElement pn ps pk xs

def EveryMember (pn : N → Prop) (ps : S → Prop) (pk : List S → Prop) : Members N S → Prop
  | [] => True
  | (k, v) :: ms => (ps k ∧ Every pn ps pk v) ∧ EveryMember pn ps pk ms

end

section
variable (pn : N → Prop) (ps : S → Prop) (pk : List S → Prop) [DecidablePred pn] [DecidablePred ps] [DecidablePred pk]

mutual

def decideEvery : (v : Json N S) → Decidable (Every pn ps pk v)
  | .null | .bool _ => .isTrue trivial
  | .num n => inferInstanceAs (Decidable (pn n))
  | .str s => inferInstanceAs (Decidable (ps s))
  | .arr xs => decideElements xs
  | .obj ms => @instDecidableAnd _ _ (inferInstanceAs (Decidable (pk _))) (decideMembers ms)

def decideElements : (xs : List (Json N S)) → Decidable (EveryElement pn ps pk xs)
  | [] => .isTrue trivial
  | x :: xs => @instDecidableAnd _ _ (decideEvery x) (decideElements xs)

def decideMembers : (ms : Members N S) → Decidable (EveryMember pn ps pk ms)
  | [] => .isTrue trivial
  | (k, v) :: ms =>
    @instDecidableAnd _ _ (@instDecidableAnd _ _ (inferInstanceAs (Decidable (ps k))) (decideEvery v))
      (decideMembers ms)

end

instance (v : Json N S) : Decidable (Every pn ps pk v) := decideEvery pn ps pk v

end

section
variable {pn : N → Prop} {ps : S → Prop} {pk : List S → Prop}

@[simp] theorem every_null : Every pn ps pk .null := trivial
@[simp] theorem every_bool (b : Bool) : Every pn ps pk (.bool b) := trivial
@[simp] theorem every_num (n : N) : Every pn ps pk (.num n) ↔ pn n := Iff.rfl
@[simp] theorem every_str (s : S) : Every pn ps pk (.str s) ↔ ps s := Iff.rfl

@[simp] theorem every_arr (xs : List (Json N S)) : Every pn ps pk (.arr xs) ↔ ∀ x ∈ xs, Every pn ps pk x := by
  have h : EveryElement pn ps pk xs ↔ ∀ x ∈ xs, Every pn ps pk x := by
    induction xs with
    | nil => simp [EveryElement]
    | cons x xs ih => rw [EveryElement, ih, List.forall_mem_cons]
  exact h

@[simp] theorem every_obj (ms : Members N S) :
    Every pn ps pk (.obj ms) ↔ pk (ms.map Prod.fst) ∧ ∀ m ∈ ms, ps m.1 ∧ Every pn ps pk m.2 := by
  have h : EveryMember pn ps pk ms ↔ ∀ m ∈ ms, ps m.1 ∧ Every pn ps pk m.2 := by
    induction ms with
    | nil => simp [EveryMember]
    | cons m ms ih => rw [EveryMember, ih, List.forall_mem_cons]
  rw [Every, h]

theorem Every.mono {pn' : N → Prop} {ps' : S → Prop} {pk' : List S → Prop} {v : Json N S}
    (h : Every pn ps pk v) (hn : ∀ n, pn n → pn' n) (hs : ∀ s, ps s → ps' s) (hk : ∀ ks, pk ks → pk' ks) :
    Every pn' ps' pk' v := by
  induction v with
  | null | bool => trivial
  | num n => exact hn n h
  | str s => exact hs s h
  | arr xs ih =>
    rw [every_arr] at h ⊢
    exact fun x hx => ih x hx (h x hx)
  | obj ms ih =>
    rw [every_obj] at h ⊢
    exact ⟨hk _ h.1, fun m hm => ⟨hs _ (h.2 m hm).1, ih m hm (h.2 m hm).2⟩⟩

theorem Every.and {pn' : N → Prop} {ps' : S → Prop} {pk' : List S → Prop} {v : Json N S}
    (h : Every pn ps pk v) (h' : Every pn' ps' pk' v) :
    Every (fun n => pn n ∧ pn' n) (fun s => ps s ∧ ps' s) (fun ks => pk ks ∧ pk' ks) v := by
  induction v with
  | null | bool => trivial
  | num n => exact ⟨h, h'⟩
  | str s => exact ⟨h, h'⟩
  | arr xs ih =>
    rw [every_arr] at *
    exact fun x hx => ih x hx (h x hx) (h' x hx)
  | obj ms ih =>
    rw [every_obj] at *
    refine ⟨⟨h.1, h'.1⟩, fun m hm => ⟨⟨(h.2 m hm).1, (h'.2 m hm).1⟩, ?_⟩⟩
    exact ih m hm (h.2 m hm).2 (h'.2 m hm).2

/-- Every number of the value satisfies `p`. -/
abbrev EveryNumber (p : N → Prop) (v : Json N S) : Prop := Every p (fun _ => True) (fun _ => True) v

/-- Every string and every key of the value satisfies `p`. -/
abbrev EveryString (p : S → Prop) (v : Json N S) : Prop := Every (fun _ => True) p (fun _ => True) v

/-- The list of keys of every object satisfies `p`. -/
abbrev EveryKeys (p : List S → Prop) (v : Json N S) : Prop := Every (fun _ => True) (fun _ => True) p v

/-- A property of the lists of keys, after members are dropped or moved. -/
theorem every_rebuild {f : N → N'} {pk' : List S → Prop} {h : Members N' S → Members N' S} {v : Json N S}
    (hv : EveryKeys pk v) (hmem : ∀ ms, h ms ⊆ ms)
    (hk : ∀ ms, pk (ms.map Prod.fst) → pk' ((h ms).map Prod.fst)) :
    EveryKeys pk' (rebuild f id h v) := by
  induction v with
  | null | bool | num | str => trivial
  | arr xs ih =>
    rw [rebuild_arr]
    exact (every_arr _).2 (List.forall_mem_map.2 fun x hx => ih x hx ((every_arr xs).1 hv x hx))
  | obj ms ih =>
    obtain ⟨hkeys, hvs⟩ := (every_obj ms).1 hv
    rw [rebuild_obj]
    refine (every_obj _).2 ⟨hk _ (by simpa [Function.comp_def] using hkeys), fun m hm => ⟨trivial, ?_⟩⟩
    obtain ⟨m', hm', rfl⟩ := List.mem_map.1 (hmem _ hm)
    exact ih m' hm' (hvs m' hm').2

/-- The same for all nodes, when no member is dropped. -/
theorem every_of_rebuild {f : N → N'} {pk' : List S → Prop} {h : Members N' S → Members N' S} {v : Json N S}
    (hv : EveryKeys pk' (rebuild f id h v)) (hmem : ∀ ms, ms ⊆ h ms)
    (hk : ∀ ms, pk' ((h ms).map Prod.fst) → pk (ms.map Prod.fst)) :
    EveryKeys pk v := by
  induction v with
  | null | bool | num | str => trivial
  | arr xs ih =>
    rw [rebuild_arr] at hv
    exact (every_arr xs).2 fun x hx => ih x hx ((every_arr _).1 hv _ (List.mem_map_of_mem hx))
  | obj ms ih =>
    rw [rebuild_obj] at hv
    obtain ⟨hkeys, hvs⟩ := (every_obj _).1 hv
    refine (every_obj ms).2 ⟨by simpa [Function.comp_def] using hk _ hkeys, fun m hm => ⟨trivial, ih m hm ?_⟩⟩
    exact (hvs _ (hmem _ (List.mem_map_of_mem (f := fun m => (id m.1, rebuild f id h m.2)) hm))).2

end

theorem everyNumber_rebuild {f : N → N'} {g : S → S'} {h : Members N' S' → Members N' S'} {p : N' → Prop}
    (hf : ∀ n, p (f n)) (hmem : ∀ ms, h ms ⊆ ms) (v : Json N S) : EveryNumber p (rebuild f g h v) := by
  induction v with
  | null | bool | str => trivial
  | num n => exact hf n
  | arr xs ih =>
    rw [rebuild_arr]
    exact (every_arr _).2 (List.forall_mem_map.2 ih)
  | obj ms ih =>
    rw [rebuild_obj]
    refine (every_obj _).2 ⟨trivial, fun m hm => ⟨trivial, ?_⟩⟩
    obtain ⟨m', hm', rfl⟩ := List.mem_map.1 (hmem _ hm)
    exact ih m' hm'

theorem everyKeys_true (v : Json N S) : EveryKeys (fun _ => True) v := by
  induction v with
  | null | bool | num | str => trivial
  | arr xs ih => exact (every_arr xs).2 ih
  | obj ms ih => exact (every_obj ms).2 ⟨trivial, fun m hm => ⟨trivial, ih m hm⟩⟩

theorem everyNumber_true (v : Json N S) : EveryNumber (fun _ => True) v := everyKeys_true v

/-- Rebuilding agrees where the parts agree. -/
theorem rebuild_congr {pn : N → Prop} {pk : List S → Prop} {f f' : N → N'} {h h' : Members N' S → Members N' S}
    {v : Json N S} (hn : v.EveryNumber pn) (hk : v.EveryKeys pk) (hf : ∀ n, pn n → f n = f' n)
    (hh : ∀ ms, pk (ms.map Prod.fst) → h ms = h' ms) : rebuild f id h v = rebuild f' id h' v := by
  induction v with
  | null | bool | str => rfl
  | num n => exact congrArg _ (hf n hn)
  | arr xs ih =>
    rw [rebuild_arr, rebuild_arr]
    refine congrArg _ (List.map_congr_left fun x hx => ?_)
    exact ih x hx ((every_arr xs).1 hn x hx) ((every_arr xs).1 hk x hx)
  | obj ms ih =>
    obtain ⟨-, hns⟩ := (every_obj ms).1 hn
    obtain ⟨hkeys, hks⟩ := (every_obj ms).1 hk
    have hms : (ms.map fun m => (id m.1, rebuild f id h m.2)) = ms.map fun m => (id m.1, rebuild f' id h' m.2) :=
      List.map_congr_left fun m hm => by rw [ih m hm (hns m hm).2 (hks m hm).2]
    rw [rebuild_obj, rebuild_obj, hms]
    refine congrArg _ (hh _ ?_)
    rw [List.map_map]
    simpa [Function.comp_def] using hkeys

/-! ## Two ways to rebuild -/

/-- The keys after a keywise operation depend on the keys only. -/
theorem Keywise.keys_eq {h : ∀ A : Type, List (S × A) → List (S × A)} (hh : Keywise S h) {A B : Type}
    {ms : List (S × A)} {ns : List (S × B)} (hkeys : ms.map Prod.fst = ns.map Prod.fst) :
    (h A ms).map Prod.fst = (h B ns).map Prod.fst := by
  have hunit : ∀ (A : Type) (ms : List (S × A)),
      (h A ms).map Prod.fst = (h Unit ((ms.map Prod.fst).map fun k => (k, ()))).map Prod.fst := by
    intro A ms
    have := hh A Unit (fun _ => ()) ms
    rw [List.map_map]
    simp only [Function.comp_def]
    rw [this, List.map_map]
    rfl
  rw [hunit A ms, hunit B ns, hkeys]

/-- **Two ways to rebuild agree** on a value iff they put the keys of every
    object in the same places; `p` says when they do. -/
theorem rebuild_eq_iff {f : N → N'} {g : S → S'} {h k : ∀ A : Type, List (S' × A) → List (S' × A)}
    {p : List S' → Prop} (hq : Keywise S' k)
    (hp : ∀ (A : Type) (ms : List (S' × A)), (ms.map Prod.fst).Nodup →
      (h A ms).map Prod.fst = (k A ms).map Prod.fst → p (ms.map Prod.fst))
    (heq : ∀ (A : Type) (ms : List (S' × A)), (ms.map Prod.fst).Nodup → p (ms.map Prod.fst) →
      h A ms = k A ms ∧ (h A ms).Perm ms)
    {v : Json N S} (hv : v.EveryKeys fun ks => (ks.map g).Nodup) :
    rebuild f g (h _) v = rebuild f g (k _) v ↔ v.EveryKeys fun ks => p (ks.map g) := by
  induction v with
  | null | bool | num | str => exact iff_of_true rfl trivial
  | arr xs ih =>
    have hxs := (every_arr xs).1 hv
    rw [rebuild_arr, rebuild_arr, Json.arr.injEq, List.map_inj_left]
    refine Iff.trans ?_ (every_arr xs).symm
    exact forall₂_congr fun x hx => ih x hx (hxs x hx)
  | obj ms ih =>
    obtain ⟨hnodup, hms⟩ := (every_obj ms).1 hv
    let F : S × Json N S → S' × Json N' S' := fun m => (g m.1, rebuild f g (h _) m.2)
    let F' : S × Json N S → S' × Json N' S' := fun m => (g m.1, rebuild f g (k _) m.2)
    have hF : (ms.map F).map Prod.fst = (ms.map Prod.fst).map g := by simp [F, Function.comp_def]
    have hF' : (ms.map F').map Prod.fst = (ms.map Prod.fst).map g := by simp [F', Function.comp_def]
    rw [rebuild_obj, rebuild_obj, Json.obj.injEq]
    change h _ (ms.map F) = k _ (ms.map F') ↔ _
    refine Iff.trans ?_ (every_obj ms).symm
    constructor
    · intro heq'
      have hpk : p ((ms.map Prod.fst).map g) := by
        rw [← hF]
        refine hp _ _ (hF ▸ hnodup) ?_
        rw [heq', hq.keys_eq (hF'.trans hF.symm)]
      refine ⟨hpk, fun m hm => ⟨trivial, (ih m hm (hms m hm).2).1 ?_⟩⟩
      -- The image of `m` is among both lists of members, at the same key.
      have hmem : F m ∈ h _ (ms.map F) :=
        (heq _ _ (hF ▸ hnodup) (hF ▸ hpk)).2.mem_iff.2 (List.mem_map_of_mem hm)
      have hsame := heq _ (ms.map F') (hF' ▸ hnodup) (hF' ▸ hpk)
      rw [heq', ← hsame.1, hsame.2.mem_iff] at hmem
      obtain ⟨m', hm', hmm⟩ := List.mem_map.1 hmem
      have hkey : g m'.1 = g m.1 := congrArg Prod.fst hmm
      rw [List.map_map] at hnodup
      cases List.inj_on_of_nodup_map hnodup hm' hm hkey
      exact (congrArg Prod.snd hmm).symm
    · rintro ⟨hpk, hmp⟩
      have hmap : ms.map F = ms.map F' := List.map_congr_left fun m hm =>
        Prod.ext rfl ((ih m hm (hms m hm).2).2 (hmp m hm).2)
      rw [hmap]
      exact (heq _ _ (hF' ▸ hnodup) (hF' ▸ hpk)).1

end Json

end CasperProof
