/-!
# Computations that may fail

What is known of the parts of a computation in `Except` that succeeded or failed: of two steps, of a
step and a function behind it, and of a traversal of a list, which stops at the first element that
fails.

## Main results

* `bind_eq_ok`, `map_eq_ok`, `map_eq_error` — two steps
* `mem_of_mapM`, `exists_mapM_iff` — a traversal that succeeds
* `exists_of_mapM_eq_error` — a traversal that fails
-/

namespace Isolation

variable {ε α β : Type} {f : α → Except ε β} {x : Except ε α} {xs : List α} {ys : List β} {y : β}
  {error : ε}

theorem eq_ok_of_toOption {a : α} (h : x.toOption = some a) : x = .ok a := by
  cases x with
  | error error => cases h
  | ok found =>
    cases h
    rfl

theorem bind_eq_ok (h : x >>= f = .ok y) : ∃ a, x = .ok a ∧ f a = .ok y := by
  cases x with
  | error error => cases h
  | ok a => exact ⟨a, rfl, h⟩

theorem map_eq_ok {g : α → β} (h : x.map g = .ok y) : ∃ a, x = .ok a ∧ g a = y := by
  cases x with
  | error error => cases h
  | ok a => exact ⟨a, rfl, Except.ok.inj h⟩

theorem map_eq_error {g : α → β} (h : x.map g = .error error) : x = .error error := by
  cases x with
  | error other => exact congrArg _ (Except.error.inj h)
  | ok a => cases h

/-- A traversal that succeeds does so at each place. -/
theorem mem_of_mapM (h : xs.mapM f = .ok ys) : y ∈ ys ↔ ∃ x ∈ xs, f x = .ok y := by
  induction xs generalizing ys with
  | nil =>
    obtain rfl : [] = ys := Except.ok.inj h
    simp
  | cons x xs ih =>
    rw [List.mapM_cons] at h
    obtain ⟨first, hx, h⟩ := bind_eq_ok h
    obtain ⟨rest, hxs, h⟩ := bind_eq_ok h
    obtain rfl : first :: rest = ys := Except.ok.inj h
    simp [ih hxs, hx, eq_comm]

theorem exists_mapM_iff : (∃ ys, xs.mapM f = .ok ys) ↔ ∀ x ∈ xs, ∃ y, f x = .ok y := by
  induction xs with
  | nil => exact ⟨nofun, fun _ => ⟨[], rfl⟩⟩
  | cons x xs ih =>
    rw [List.forall_mem_cons, ← ih, List.mapM_cons]
    cases f x with
    | error error => simp [bind, Except.bind]
    | ok first => cases xs.mapM f <;> simp [bind, Except.bind, pure, Except.pure]

/-- A traversal that fails does so at the first element that does. -/
theorem exists_of_mapM_eq_error (h : xs.mapM f = .error error) :
    ∃ before x after, xs = before ++ x :: after ∧ (∀ earlier ∈ before, ∃ y, f earlier = .ok y) ∧
      f x = .error error := by
  induction xs with
  | nil => cases h
  | cons x xs ih =>
    rw [List.mapM_cons] at h
    cases hx : f x with
    | error other =>
      rw [hx] at h
      cases h
      exact ⟨[], x, xs, rfl, nofun, hx⟩
    | ok first =>
      cases hxs : xs.mapM f with
      | ok rest =>
        rw [hx, hxs] at h
        cases h
      | error other =>
        rw [hx, hxs] at h
        cases h
        obtain ⟨before, x', after, rfl, hbefore, herror⟩ := ih hxs
        exact ⟨x :: before, x', after, rfl, List.forall_mem_cons.2 ⟨⟨first, hx⟩, hbefore⟩, herror⟩

end Isolation
