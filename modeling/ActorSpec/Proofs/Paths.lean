import ActorSpec.Lint.Issues
import Mathlib.Data.List.Lex
import Mathlib.Data.String.Basic

/-!
# Paths as texts, and their order

The characters of a joined path are those of its tokens, so a path gets shorter when tokens are left
out (`SpecPath.length_join_of_sublist`). The order of the lint is the lexicographic one on tokens
(`Lint.pathLe_iff`), a total preorder, and sorting by it is stable (`filter_mergeSort`).
-/

namespace ActorSpec

/-! ## Texts -/

namespace SpecPath

theorem toList_push (path token : String) :
    (push path token).toList = path.toList ++ '/' :: token.toList.flatMap escapeChar := by
  simp [push, escape]

theorem toList_join (base : String) (tokens : List String) :
    (join base tokens).toList =
      base.toList ++ tokens.flatMap fun t => '/' :: t.toList.flatMap escapeChar := by
  induction tokens generalizing base with
  | nil => exact (List.append_nil _).symm
  | cons t rest ih =>
      rw [join, List.foldl_cons, ← join, ih, toList_push, List.flatMap_cons, List.append_assoc]

/-- Every token that is left out makes the text shorter. -/
theorem length_join_of_sublist {tokens all : List String} (h : tokens.Sublist all) :
    tokens = all ∨ (join "" tokens).toList.length < (join "" all).toList.length := by
  simp only [toList_join, List.length_append, Nat.add_lt_add_iff_left]
  induction h with
  | slnil => exact .inl rfl
  | cons t _ ih =>
      right
      rw [List.flatMap_cons, List.length_append, List.length_cons]
      rcases ih with rfl | hlt
      · omega
      · omega
  | cons_cons t _ ih =>
      rcases ih with rfl | hlt
      · exact .inl rfl
      · right
        simp only [List.flatMap_cons, List.length_append]
        omega

end SpecPath

/-! ## Order -/

namespace Lint

theorem pathLe_cons (a b : String) (as bs : List String) :
    pathLe (a :: as) (b :: bs) = true ↔ a < b ∨ (a = b ∧ pathLe as bs = true) := by
  rw [pathLe]
  split
  · next h => simp [h]
  · next h => simp [h]

theorem pathLe_total (as bs : List String) : (pathLe as bs || pathLe bs as) = true := by
  induction as generalizing bs with
  | nil => cases bs <;> rfl
  | cons a as ih =>
      cases bs with
      | nil => rfl
      | cons b bs =>
          rw [Bool.or_eq_true, pathLe_cons, pathLe_cons]
          rcases lt_trichotomy a b with h | rfl | h
          · exact .inl (.inl h)
          · rcases Bool.or_eq_true_iff.mp (ih bs) with h | h
            · exact .inl (.inr ⟨rfl, h⟩)
            · exact .inr (.inr ⟨rfl, h⟩)
          · exact .inr (.inl h)

theorem pathLe_refl (as : List String) : pathLe as as = true := by
  have h := pathLe_total as as
  rwa [Bool.or_self] at h

theorem pathLe_trans {as bs cs : List String} (h : pathLe as bs = true)
    (h' : pathLe bs cs = true) : pathLe as cs = true := by
  induction as generalizing bs cs with
  | nil => cases cs <;> rfl
  | cons a as ih =>
      cases bs with
      | nil => cases h
      | cons b bs =>
          cases cs with
          | nil => cases h'
          | cons c cs =>
              rw [pathLe_cons] at h h' ⊢
              rcases h with hab | ⟨rfl, hab⟩
              · rcases h' with hbc | ⟨rfl, -⟩
                · exact .inl (lt_trans hab hbc)
                · exact .inl hab
              · rcases h' with hbc | ⟨rfl, hbc⟩
                · exact .inl hbc
                · exact .inr ⟨rfl, ih hab hbc⟩

/-- A path is not after another one if the other is not lexicographically before it. -/
theorem pathLe_iff (as bs : List String) :
    pathLe as bs = true ↔ ¬ List.Lex (· < ·) bs as := by
  induction as generalizing bs with
  | nil => exact iff_of_true (by cases bs <;> rfl) fun h => nomatch h
  | cons a as ih =>
      cases bs with
      | nil => exact iff_of_false (fun h => nomatch h) fun h => h .nil
      | cons b bs =>
          rw [pathLe_cons, ih, List.cons_lex_cons_iff]
          rcases lt_trichotomy a b with h | rfl | h
          · simp [h, h.not_gt, h.ne']
          · simp
          · simp [h, h.not_gt, h.ne']

end Lint

/-- Sorting keeps the elements that share a key in their order, if all of them are equal to the
order. -/
theorem filter_mergeSort {α κ : Type} [DecidableEq κ] {le : α → α → Bool} (key : α → κ)
    (trans : ∀ a b c, le a b → le b c → le a c) (total : ∀ a b, le a b || le b a)
    (hkey : ∀ a b, key a = key b → le a b = true) (l : List α) (k : κ) :
    (l.mergeSort le).filter (key · = k) = l.filter (key · = k) := by
  have hpairwise : (l.filter (key · = k)).Pairwise fun a b => le a b = true := by
    refine List.pairwise_iff_forall_sublist.mpr fun {a b} hab => hkey a b ?_
    have ha := List.mem_filter.mp (hab.subset (List.mem_cons_self ..))
    have hb := List.mem_filter.mp (hab.subset (List.mem_cons_of_mem _ (List.mem_cons_self ..)))
    exact (of_decide_eq_true ha.2).trans (of_decide_eq_true hb.2).symm
  have hsublist : (l.filter (key · = k)).Sublist ((l.mergeSort le).filter (key · = k)) := by
    have h := (List.sublist_mergeSort trans total hpairwise List.filter_sublist).filter
      (key · = k)
    rwa [List.filter_filter, funext fun a => Bool.and_self _] at h
  exact (hsublist.eq_of_length ((List.mergeSort_perm l le).filter _).length_eq.symm).symm

end ActorSpec
