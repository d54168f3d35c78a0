/-
# Outcomes opened from behind

A computation that may fail is opened from its outcome: a sequence of steps
came to a value exactly if each of its steps did, and it failed exactly if one
of them failed and those before it did not.  The same holds of a list of steps.
Log records and the state of collaborators change nothing about that.
-/

import Mathlib.Data.List.Forall2
import RecordBridge.Flow

namespace RecordBridge
namespace Outcome

variable {ε δ α β : Type}

theorem ok_ne_error {a : α} {e : ε} : (.ok a : Except ε α) ≠ .error e := by
  intro h
  cases h

theorem bind_eq_ok_iff {x : Except ε α} {f : α → Except ε β} {b : β} :
    x >>= f = .ok b ↔ ∃ a, x = .ok a ∧ f a = .ok b := by
  constructor
  · intro h
    cases x with
    | error e => cases h
    | ok a => exact ⟨a, rfl, h⟩
  · rintro ⟨a, rfl, h⟩
    exact h

/-- A sequence of two steps failed exactly if one of them did, the second behind a
first that did not. -/
theorem bind_eq_error_iff {x : Except ε α} {f : α → Except ε β} {e : ε} :
    x >>= f = .error e ↔ x = .error e ∨ ∃ a, x = .ok a ∧ f a = .error e := by
  cases x with
  | error e' => exact ⟨fun h => .inl (congrArg _ (Except.error.inj h)), fun
      | .inl h => congrArg _ (Except.error.inj h)
      | .inr ⟨_, h, _⟩ => nomatch h⟩
  | ok a => exact ⟨fun h => .inr ⟨a, rfl, h⟩, fun
      | .inl h => nomatch h
      | .inr ⟨_, h, hf⟩ => Except.ok.inj h ▸ hf⟩

/-- A second step that cannot fail leaves the failures to the first. -/
theorem bind_ok_eq_error_iff {x : Except ε α} {f : α → β} {e : ε} :
    (x >>= fun a => Except.ok (f a)) = .error e ↔ x = .error e := by
  rw [bind_eq_error_iff, or_iff_left]
  rintro ⟨_, -, h⟩
  exact nomatch h

theorem map_eq_ok_iff {x : Except ε α} {f : α → β} {b : β} :
    x.map f = .ok b ↔ ∃ a, x = .ok a ∧ f a = b := by
  constructor
  · intro h
    cases x with
    | error e => cases h
    | ok a => exact ⟨a, rfl, Except.ok.inj h⟩
  · rintro ⟨a, rfl, rfl⟩
    rfl

theorem mapError_eq_ok_iff {x : Except ε α} {f : ε → δ} {a : α} :
    x.mapError f = .ok a ↔ x = .ok a := by
  constructor
  · intro h
    cases x with
    | error e => cases h
    | ok b => exact congrArg Except.ok (Except.ok.inj h)
  · rintro rfl
    rfl

theorem mapError_eq_error_iff {x : Except ε α} {f : ε → δ} {d : δ} :
    x.mapError f = .error d ↔ ∃ e, x = .error e ∧ f e = d := by
  constructor
  · intro h
    cases x with
    | error e => exact ⟨e, rfl, Except.error.inj h⟩
    | ok b => cases h
  · rintro ⟨e, rfl, rfl⟩
    rfl

/-- What fails alike comes to a value alike. -/
theorem exists_ok_iff_of_error_iff {x : Except ε α} {y : Except ε β}
    (h : ∀ e, x = .error e ↔ y = .error e) : (∃ a, x = .ok a) ↔ ∃ b, y = .ok b := by
  cases hx : x with
  | error e => simp [(h e).1 hx]
  | ok a =>
    cases hy : y with
    | error e => exact nomatch hx.symm.trans ((h e).2 hy)
    | ok b => exact iff_of_true ⟨a, rfl⟩ ⟨b, rfl⟩

/-! ### Lists of steps -/

theorem mapM_congr {f g : α → Except ε β} {xs : List α} (h : ∀ x ∈ xs, f x = g x) :
    xs.mapM f = xs.mapM g := by
  induction xs with
  | nil => rfl
  | cons x xs ih =>
    obtain ⟨hx, hxs⟩ := List.forall_mem_cons.1 h
    rw [List.mapM_cons, List.mapM_cons, hx, ih hxs]

theorem exists_mapM_eq_ok_iff {f : α → Except ε β} {xs : List α} :
    (∃ ys, xs.mapM f = .ok ys) ↔ ∀ x ∈ xs, ∃ y, f x = .ok y := by
  induction xs with
  | nil => exact ⟨fun _ => List.forall_mem_nil _, fun _ => ⟨[], rfl⟩⟩
  | cons x xs ih =>
    rw [List.mapM_cons, List.forall_mem_cons, ← ih]
    constructor
    · rintro ⟨_, h⟩
      obtain ⟨y, hy, h⟩ := bind_eq_ok_iff.1 h
      obtain ⟨ys, hys, -⟩ := bind_eq_ok_iff.1 h
      exact ⟨⟨y, hy⟩, ys, hys⟩
    · rintro ⟨⟨y, hy⟩, ys, hys⟩
      exact ⟨y :: ys, bind_eq_ok_iff.2 ⟨y, hy, bind_eq_ok_iff.2 ⟨ys, hys, rfl⟩⟩⟩

/-- A list of steps fails as the first of them that fails does. -/
theorem mapM_eq_error_iff {f : α → Except ε β} {xs : List α} {e : ε} :
    xs.mapM f = .error e ↔ ∃ before x after, xs = before ++ x :: after ∧
      (∀ y ∈ before, ∃ b, f y = .ok b) ∧ f x = .error e := by
  constructor
  · intro h
    induction xs with
    | nil => exact nomatch h
    | cons x xs ih =>
      rw [List.mapM_cons] at h
      cases hx : f x with
      | error e' =>
        rw [hx] at h
        obtain rfl := Except.error.inj h
        exact ⟨[], x, xs, rfl, List.forall_mem_nil _, hx⟩
      | ok y =>
        cases hxs : xs.mapM f with
        | ok ys =>
          rw [hx, hxs] at h
          exact nomatch h
        | error e' =>
          rw [hx, hxs] at h
          obtain rfl := Except.error.inj h
          obtain ⟨before, z, after, rfl, hbefore, hz⟩ := ih hxs
          exact ⟨x :: before, z, after, rfl, List.forall_mem_cons.2 ⟨⟨y, hx⟩, hbefore⟩, hz⟩
  · rintro ⟨before, x, after, rfl, hbefore, hx⟩
    induction before with
    | nil =>
      rw [List.nil_append, List.mapM_cons, hx]
      rfl
    | cons y before ih =>
      obtain ⟨⟨b, hb⟩, hrest⟩ := List.forall_mem_cons.1 hbefore
      rw [List.cons_append, List.mapM_cons, hb]
      show Except.bind _ _ = _
      rw [ih hrest]
      rfl

/-- Steps that consist of smaller steps fail as the smaller steps do, all in a row. -/
theorem mapM_flatMap_eq_error_iff {γ ζ : Type} {f : α → Except ε β} {g : γ → Except ε ζ}
    {parts : γ → List α} {xs : List γ} {e : ε}
    (h : ∀ x ∈ xs, ∀ e, g x = .error e ↔ (parts x).mapM f = .error e) :
    xs.mapM g = .error e ↔ (xs.flatMap parts).mapM f = .error e := by
  induction xs with
  | nil => exact iff_of_false nofun nofun
  | cons x xs ih =>
    obtain ⟨hx, hxs⟩ := List.forall_mem_cons.1 h
    have hok := exists_ok_iff_of_error_iff hx
    rw [List.mapM_cons, List.flatMap_cons, List.mapM_append, bind_eq_error_iff, bind_eq_error_iff,
      hx e]
    refine or_congr_right ?_
    simp only [bind_eq_error_iff, ih hxs, pure, Except.pure, reduceCtorEq, and_false, exists_false,
      or_false, exists_and_right, hok]

/-- Steps that are taken one behind another come to their values one behind another. -/
theorem forall₂_of_steps {f : α → Except ε β} (steps : List α → Except ε (List β))
    (hnil : steps [] = .ok [])
    (hcons : ∀ x xs, steps (x :: xs) = do
      let y ← f x
      let ys ← steps xs
      .ok (y :: ys)) {xs : List α} {ys : List β} (h : steps xs = .ok ys) :
    List.Forall₂ (fun x y => f x = .ok y) xs ys := by
  induction xs generalizing ys with
  | nil =>
    obtain rfl := Except.ok.inj (hnil.symm.trans h)
    exact .nil
  | cons x xs ih =>
    rw [hcons] at h
    obtain ⟨y, hy, h⟩ := bind_eq_ok_iff.1 h
    obtain ⟨zs, hzs, h⟩ := bind_eq_ok_iff.1 h
    obtain rfl := Except.ok.inj h
    exact .cons hy (ih hzs)

/-- Where every step comes to what a function says, the list does. -/
theorem eq_map_of_mapM {f : α → Except ε β} {g : α → β} {xs : List α} {ys : List β}
    (h : xs.mapM f = .ok ys) (hg : ∀ x ∈ xs, ∀ y, f x = .ok y → y = g x) : ys = xs.map g := by
  induction xs generalizing ys with
  | nil => exact (Except.ok.inj h).symm
  | cons x xs ih =>
    rw [List.mapM_cons] at h
    obtain ⟨y, hy, h⟩ := bind_eq_ok_iff.1 h
    obtain ⟨zs, hzs, h⟩ := bind_eq_ok_iff.1 h
    obtain rfl := Except.ok.inj h
    obtain ⟨hx, hxs⟩ := List.forall_mem_cons.1 hg
    rw [List.map_cons, ← hx y hy, ← ih hzs hxs]

theorem map_eq_error_iff {x : Except ε α} {f : α → β} {e : ε} :
    x.map f = .error e ↔ x = .error e := by
  cases x with
  | error e' => exact ⟨fun h => congrArg Except.error (Except.error.inj h), fun h => by rw [h]; rfl⟩
  | ok a => exact ⟨fun h => (nomatch h), fun h => nomatch h⟩

/-! ### Faults -/

/-- Whether a computation stopped without an error of the directive. -/
def IsFault (x : Except Failure α) : Prop := ∃ fault, x = .error (.fault fault)

theorem not_isFault_ok {a : α} : ¬ IsFault (.ok a) := fun ⟨_, h⟩ => nomatch h

theorem not_isFault_error {d : DirectiveError} : ¬ IsFault (.error (.error d) : Except Failure α) :=
  fun ⟨_, h⟩ => nomatch h

/-- A sequence of two steps is a fault exactly if one of them is, the second behind a first
that came to a value. -/
theorem isFault_bind_iff {x : Except Failure α} {f : α → Except Failure β} :
    IsFault (x >>= f) ↔ IsFault x ∨ ∃ a, x = .ok a ∧ IsFault (f a) := by
  simp only [IsFault, bind_eq_error_iff, exists_or]
  refine or_congr_right ⟨?_, ?_⟩
  · rintro ⟨fault, a, ha, hfault⟩
    exact ⟨a, ha, fault, hfault⟩
  · rintro ⟨a, ha, fault, hfault⟩
    exact ⟨fault, a, ha, hfault⟩

theorem isFault_bind_ok_iff {x : Except Failure α} {f : α → β} :
    IsFault (x >>= fun a => Except.ok (f a)) ↔ IsFault x := by
  simp only [IsFault, bind_ok_eq_error_iff]

/-- Failures that are errors of the directive are no faults. -/
theorem not_isFault_mapError {x : Except ε α} {g : ε → DirectiveError} :
    ¬ IsFault (x.mapError fun e => .error (g e)) := by
  rintro ⟨fault, h⟩
  obtain ⟨_, -, h⟩ := mapError_eq_error_iff.1 h
  exact nomatch h

/-- What is no fault came to a value or to an error of the directive. -/
theorem not_isFault_iff {x : Except Failure α} :
    ¬ IsFault x ↔ (∃ a, x = .ok a) ∨ ∃ d, x = .error (.error d) := by
  cases x with
  | ok a => exact iff_of_true not_isFault_ok (.inl ⟨a, rfl⟩)
  | error e =>
    cases e with
    | error d => exact iff_of_true not_isFault_error (.inr ⟨d, rfl⟩)
    | fault f =>
      refine iff_of_false (fun h => h ⟨f, rfl⟩) ?_
      rintro (⟨_, h⟩ | ⟨_, h⟩)
      · exact nomatch h
      · exact nomatch h

end Outcome

namespace Traced

variable {α β : Type}

theorem result_bind (x : Traced α) (f : α → Traced β) :
    (x >>= f).result = x.result >>= fun a => (f a).result := by
  show (Traced.andThen x f).result = _
  unfold Traced.andThen
  cases x.result <;> rfl

/-- A sequence came to a value exactly if both of its parts did. -/
theorem bind_result_eq_ok_iff {x : Traced α} {f : α → Traced β} {b : β} :
    (x >>= f).result = .ok b ↔ ∃ a, x.result = .ok a ∧ (f a).result = .ok b := by
  rw [result_bind]
  exact Outcome.bind_eq_ok_iff

end Traced

namespace Flow

variable {σ α β γ : Type}

/-- Sequences may be bracketed either way. -/
theorem bind_assoc (x : Flow σ α) (f : α → Flow σ β) (g : β → Flow σ γ) :
    x >>= f >>= g = x >>= fun a => f a >>= g := by
  funext s
  show andThen (andThen x f) g s = andThen x (fun a => andThen (f a) g) s
  simp only [andThen]
  cases (x s).1.result with
  | error e => rfl
  | ok a =>
    dsimp only
    cases (f a (x s).2).1.result with
    | error e => rfl
    | ok b => simp only [List.append_assoc]

/-- A sequence, opened at a known outcome of its first part. -/
theorem andThen_apply {x : Flow σ α} {f : α → Flow σ β} {s s' : σ} {out : Traced α}
    (h : x s = (out, s')) :
    (x >>= f) s = match out.result with
      | .ok a => (⟨(f a s').1.result, out.log ++ (f a s').1.log⟩, (f a s').2)
      | .error e => (⟨.error e, out.log⟩, s') := by
  obtain ⟨result, log⟩ := out
  show Flow.andThen x f s = _
  cases result with
  | error e => simp only [Flow.andThen, h]
  | ok a => simp only [Flow.andThen, h]

theorem pure_bind (a : α) (f : α → Flow σ β) : pure a >>= f = f a := rfl

theorem bind_pure (x : Flow σ α) : x >>= pure = x := by
  funext s
  obtain ⟨⟨result, log⟩, s', h⟩ : ∃ out s', x s = (out, s') := ⟨_, _, rfl⟩
  rw [andThen_apply h, h]
  cases result with
  | error e => rfl
  | ok a =>
    show ((⟨.ok a, log ++ []⟩, s') : Traced α × σ) = _
    rw [List.append_nil]

/-- Behind an outcome only its value counts. -/
theorem ofTraced_bind_congr {t : Traced α} {f g : α → Flow σ β}
    (h : ∀ a, t.result = .ok a → f a = g a) : ofTraced t >>= f = ofTraced t >>= g := by
  obtain ⟨result, log⟩ := t
  funext s
  have ht : ofTraced ⟨result, log⟩ s = (⟨result, log⟩, s) := rfl
  rw [andThen_apply ht, andThen_apply ht]
  cases result with
  | error e => rfl
  | ok a =>
    dsimp only
    rw [h a rfl]

/-- What a computation comes to and the state afterwards, without its log. -/
def outcome (x : Flow σ α) (s : σ) : Except Failure α × σ := ((x s).1.result, (x s).2)

/-- A sequence comes to what its second part comes to, unless its first part
fails. -/
theorem outcome_bind (x : Flow σ α) (f : α → Flow σ β) (s : σ) :
    outcome (x >>= f) s = match outcome x s with
      | (.ok a, s') => outcome (f a) s'
      | (.error e, s') => (.error e, s') := by
  obtain ⟨⟨result, log⟩, s', h⟩ : ∃ out s', x s = (out, s') := ⟨_, _, rfl⟩
  rw [outcome, outcome, andThen_apply h, h]
  cases result <;> rfl

/-- An error of the directive becomes a value, and a fault stays. -/
theorem outcome_attempt (x : Flow σ α) (s : σ) :
    outcome x.attempt s = match outcome x s with
      | (.ok a, s') => (.ok (.ok a), s')
      | (.error (.error d), s') => (.ok (.error d), s')
      | (.error (.fault f), s') => (.error (.fault f), s') := by
  obtain ⟨⟨result, log⟩, s', h⟩ : ∃ out s', x s = (out, s') := ⟨_, _, rfl⟩
  simp only [outcome, attempt, h]
  cases result with
  | ok a => rfl
  | error e => cases e <;> rfl

end Flow
end RecordBridge
