/-!
How many of a list of keys are still to be seen. The count shrinks with every new key, which is
why walks that see no key twice end.
-/

namespace SceneScript

universe u
variable {Key : Type u} [DecidableEq Key]

def unseen (all seen : List Key) : Nat := all.countP fun key => decide (key ∉ seen)

theorem unseen_cons_le (all seen : List Key) (key : Key) :
    unseen all (key :: seen) ≤ unseen all seen :=
  List.countP_mono_left fun other _ hidden => by
    simp only [List.mem_cons, not_or, decide_eq_true_eq] at hidden ⊢
    exact hidden.2

theorem unseen_cons_lt {all seen : List Key} {key : Key} (listed : key ∈ all)
    (fresh : key ∉ seen) : unseen all (key :: seen) < unseen all seen := by
  induction all with
  | nil => cases listed
  | cons first rest ih =>
    have weaker := unseen_cons_le rest seen key
    simp only [unseen, List.countP_cons, List.mem_cons, not_or, decide_eq_true_eq] at ih weaker ⊢
    by_cases same : first = key
    · subst same
      simp only [fresh, not_true_eq_false, not_false_eq_true, false_and, ite_false, ite_true]
      omega
    · have smaller := ih ((List.mem_cons.1 listed).resolve_left (Ne.symm same))
      by_cases old : first ∈ seen
      · simp only [old, same, not_true_eq_false, not_false_eq_true, and_false, ite_false]
        omega
      · simp only [old, same, not_false_eq_true, and_self, ite_true]
        omega

end SceneScript
