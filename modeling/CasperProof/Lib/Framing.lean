/-
  Texts put together without separators.

  A tag, a field of fixed width and a rest can be told apart if no tag is the
  beginning of another (`frame_inj`).
-/
import Mathlib.Data.List.Basic

namespace CasperProof

variable {α : Type} {tags : List (List α)} {a b x y u v : List α}

/-- No tag is the beginning of another. -/
def PrefixFree (tags : List (List α)) : Prop := ∀ a ∈ tags, ∀ b ∈ tags, a <+: b → a = b

theorem PrefixFree.append_inj (htags : PrefixFree tags) (ha : a ∈ tags) (hb : b ∈ tags) (h : a ++ u = b ++ v) :
    a = b ∧ u = v := by
  have hab : a = b := by
    have hprefix : b <+: a ++ u := h ▸ List.prefix_append b v
    rcases List.prefix_or_prefix_of_prefix (List.prefix_append a u) hprefix with hle | hle
    · exact htags a ha b hb hle
    · exact (htags b hb a ha hle).symm
  subst hab
  exact ⟨rfl, List.append_cancel_left h⟩

/-- The tag, the field and the rest are determined. -/
theorem frame_inj (htags : PrefixFree tags) (ha : a ∈ tags) (hb : b ∈ tags) (hwidth : x.length = y.length)
    (h : a ++ (x ++ u) = b ++ (y ++ v)) : a = b ∧ x = y ∧ u = v := by
  obtain ⟨hab, hrest⟩ := htags.append_inj ha hb h
  exact ⟨hab, List.append_inj hrest hwidth⟩

end CasperProof
