import TableDiff.Reporting

/-!
# Findings

A comparison can be taken by itself, without anyone who is told of the differences. What comes out
are its findings: the differences in the order in which they are met, and the result or the error
at which the comparison ends.
-/

namespace TableDiff

/-- Differences, and how the comparison that met them ends. -/
structure Findings (α : Type) where
  differences : List Difference
  outcome : Except CheckError α

namespace Findings

variable {α β γ : Type}

/-- Nothing is met. -/
protected def pure (a : α) : Findings α := ⟨[], .ok a⟩

/-- What follows an error is not met. -/
protected def bind (m : Findings α) (f : α → Findings β) : Findings β :=
  match m.outcome with
  | .error e => ⟨m.differences, .error e⟩
  | .ok a => ⟨m.differences ++ (f a).differences, (f a).outcome⟩

instance : Reporting Findings where
  pure := Findings.pure
  bind := Findings.bind
  report d := ⟨[d], .ok ()⟩
  fail e := ⟨[], .error e⟩

@[simp] theorem pure_eq (a : α) : (pure a : Findings α) = ⟨[], .ok a⟩ := rfl

@[simp] theorem report_eq (d : Difference) :
    (Reporting.report d : Findings Unit) = ⟨[d], .ok ()⟩ := rfl

@[simp] theorem fail_eq (e : CheckError) :
    (Reporting.fail e : Findings α) = ⟨[], .error e⟩ := rfl

@[simp] theorem ofExcept_eq (r : Except CheckError α) :
    (Reporting.ofExcept r : Findings α) = ⟨[], r⟩ := by
  cases r <;> rfl

@[simp] theorem ok_bind (ds : List Difference) (a : α) (f : α → Findings β) :
    ((⟨ds, .ok a⟩ : Findings α) >>= f) = ⟨ds ++ (f a).differences, (f a).outcome⟩ := rfl

@[simp] theorem error_bind (ds : List Difference) (e : CheckError) (f : α → Findings β) :
    ((⟨ds, .error e⟩ : Findings α) >>= f) = ⟨ds, .error e⟩ := rfl

theorem pure_bind (a : α) (f : α → Findings β) : Findings.bind (Findings.pure a) f = f a := by
  simp [Findings.pure, Findings.bind]

theorem bind_pure (m : Findings α) : Findings.bind m Findings.pure = m := by
  obtain ⟨ds, r⟩ := m
  cases r <;> simp [Findings.pure, Findings.bind]

theorem bind_assoc (m : Findings α) (f : α → Findings β) (g : β → Findings γ) :
    Findings.bind (Findings.bind m f) g = Findings.bind m fun a => Findings.bind (f a) g := by
  obtain ⟨ds, r⟩ := m
  cases r with
  | error e => rfl
  | ok a =>
    simp only [Findings.bind]
    cases (f a).outcome <;> simp

instance : LawfulMonad Findings :=
  LawfulMonad.mk' Findings bind_pure pure_bind bind_assoc

/-! ## Steps in turn -/

section Steps

variable {step : β → Findings Unit} {xs : List β}

/-- Steps in turn come to their end if each of them does, and find what they find together. -/
theorem forM_eq_ok_iff {ds : List Difference} :
    forM xs step = ⟨ds, .ok ()⟩ ↔
      (∀ x ∈ xs, (step x).outcome = .ok ()) ∧ ds = xs.flatMap fun x => (step x).differences := by
  induction xs generalizing ds with
  | nil => simp [eq_comm]
  | cons x xs ih =>
    rw [List.forM_cons, List.forall_mem_cons, List.flatMap_cons]
    rcases hx : step x with ⟨found, outcome⟩
    cases outcome with
    | error e => simp
    | ok u =>
      rw [ok_bind]
      constructor
      · intro h
        obtain ⟨hds, hrest⟩ := Findings.mk.inj h
        have hafter : forM xs step = ⟨(forM xs step).differences, .ok ()⟩ := by rw [← hrest]
        obtain ⟨hall, hfound⟩ := ih.mp hafter
        exact ⟨⟨rfl, hall⟩, by rw [← hds, hfound]⟩
      · rintro ⟨⟨-, hall⟩, rfl⟩
        rw [ih.mpr ⟨hall, rfl⟩]

/-- Steps in turn end with the first error of a step. -/
theorem outcome_forM_eq_error_iff {e : CheckError} :
    (forM xs step).outcome = .error e ↔
      ∃ before x after, xs = before ++ x :: after ∧
        (∀ y ∈ before, (step y).outcome = .ok ()) ∧ (step x).outcome = .error e := by
  induction xs with
  | nil => simp
  | cons x xs ih =>
    rw [List.forM_cons]
    rcases hx : step x with ⟨found, outcome⟩
    cases outcome with
    | error e' =>
      rw [error_bind]
      constructor
      · intro h
        exact ⟨[], x, xs, rfl, by simp, by rw [hx]; exact h⟩
      · rintro ⟨before, y, after, hxs, hbefore, hy⟩
        cases before with
        | nil =>
          obtain ⟨rfl, rfl⟩ := List.cons.inj hxs
          rw [hx] at hy
          exact hy
        | cons z before =>
          -- The first step would have to succeed.
          obtain ⟨rfl, -⟩ := List.cons.inj hxs
          simp [hx] at hbefore
    | ok u =>
      rw [ok_bind]
      constructor
      · intro h
        obtain ⟨before, y, after, rfl, hbefore, hy⟩ := ih.mp h
        exact ⟨x :: before, y, after, rfl, List.forall_mem_cons.mpr ⟨by rw [hx], hbefore⟩, hy⟩
      · rintro ⟨before, y, after, hxs, hbefore, hy⟩
        cases before with
        | nil =>
          obtain ⟨rfl, rfl⟩ := List.cons.inj hxs
          simp [hx] at hy
        | cons z before =>
          obtain ⟨rfl, rfl⟩ := List.cons.inj hxs
          exact ih.mpr ⟨before, y, after, rfl, (List.forall_mem_cons.mp hbefore).2, hy⟩

end Steps

end Findings

end TableDiff
