/-!
# Traversal

Applying a function that may fail to every element of a list; the first failure ends it.
-/

namespace TableDiff

variable {ε α β : Type}

/-- The results of `f` on all elements, or its first error. -/
def traverse (f : α → Except ε β) : List α → Except ε (List β)
  | [] => .ok []
  | a :: rest =>
    match f a with
    | .error e => .error e
    | .ok b =>
      match traverse f rest with
      | .error e => .error e
      | .ok bs => .ok (b :: bs)

theorem length_of_traverse {f : α → Except ε β} {as : List α} {bs : List β}
    (h : traverse f as = .ok bs) : bs.length = as.length := by
  induction as generalizing bs with
  | nil => cases h; rfl
  | cons a rest ih =>
    unfold traverse at h
    cases hf : f a with
    | error e => simp [hf] at h
    | ok b =>
      cases hr : traverse f rest with
      | error e => simp [hf, hr] at h
      | ok bs' =>
        simp only [hf, hr, Except.ok.injEq] at h
        subst h
        simp [ih hr]

theorem traverse_ok {f : α → Except ε β} {g : α → β} {as : List α}
    (h : ∀ a ∈ as, f a = .ok (g a)) : traverse f as = .ok (as.map g) := by
  induction as with
  | nil => rfl
  | cons a rest ih =>
    have hr := ih fun x hx => h x (List.mem_cons_of_mem _ hx)
    simp [traverse, h a (List.mem_cons_self), hr]

end TableDiff
