/-
# Directives that are left without an answer

A bridge answers every error of a directive with an envelope, also the errors
with which the compilation refuses it.  But a directive that strays is not
refused: its compilation is a fault, and the fault passes through the bridge
(`compile_ends`).
-/

import RecordBridge.Bridge.Basic
import RecordBridge.Proofs.Compile.Strays

namespace RecordBridge
namespace Bridge

variable {σ : Type} {b : Bridge σ} {submission : Submission} {d : Directive} {catalog : Catalog}
  {now : Int} {s s₁ s₂ : σ} {e : Failure}

/-- What a bridge makes of a failure: an error of the directive is answered with an
envelope, and a fault passes. -/
def answerTo : Failure → Except Failure Envelope
  | .error err => .ok (Envelope.failure err)
  | .fault fault => .error (.fault fault)

/-- A directive that is not compiled fails for the bridge, before anything is sent. -/
theorem outcome_work_of_compile (hread : submission.read = .ok d)
    (hresolve : Flow.outcome (b.resolve d) s = (.ok (some catalog), s₁))
    (hclock : Flow.outcome b.clock s₁ = (.ok now, s₂))
    (h : (Compile.compile b.settings catalog now d).result = .error e) :
    Flow.outcome (b.work submission) s = (.error e, s₂) := by
  have hsubmitted : Flow.outcome (Flow.ofExcept (submission.read.mapError Failure.directive)) s
      = (.ok d, s) := by
    rw [hread]
    rfl
  have hcompile : Flow.outcome (Flow.ofTraced (Compile.compile b.settings catalog now d)) s₂
      = (.error e, s₂) := congrArg (·, s₂) h
  rw [work, Flow.outcome_bind, hsubmitted]
  dsimp only
  rw [Flow.outcome_bind, hresolve]
  dsimp only
  rw [workOn, Flow.outcome_bind, hclock]
  dsimp only
  rw [Flow.outcome_bind, hcompile]

theorem outcome_handle_of_work (h : Flow.outcome (b.work submission) s = (.error e, s₂)) :
    Flow.outcome (b.handle submission) s = (answerTo e, s₂) := by
  have hlog : ∀ (level : Level) (text : String) (s : σ),
      Flow.outcome (Flow.log level .engine text) s = (.ok (), s) := fun _ _ _ => rfl
  rw [handle, Flow.outcome_bind, hlog]
  dsimp only
  rw [Flow.outcome_bind, Flow.outcome_attempt, h]
  cases e with
  | error err => rfl
  | fault fault => rfl

end Bridge

namespace Compile

open Outcome (IsFault)

/-- How the compilation of a directive ends, and the bridge that compiles it. -/
structure Ends (settings : Settings) (catalog : Catalog) (now : Int) (d : Directive) : Prop where
  /-- It ends with a compiled directive or with an error of the directive exactly if the
  directive does not stray. -/
  answered : ((∃ c, (compile settings catalog now d).result = .ok c) ∨
    ∃ e, (compile settings catalog now d).result = .error (.error e)) ↔
      ¬ Strays settings catalog now d
  /-- An error of the directive becomes the answer of the bridge. -/
  enveloped : ∀ {σ : Type} (b : Bridge σ) (submission : Submission) (s s₁ s₂ : σ) (e),
    b.settings = settings → submission.read = .ok d →
    Flow.outcome (b.resolve d) s = (.ok (some catalog), s₁) →
    Flow.outcome b.clock s₁ = (.ok now, s₂) →
    (compile settings catalog now d).result = .error (.error e) →
      Flow.outcome (b.handle submission) s = (.ok (Envelope.failure e), s₂)
  /-- For a directive that strays the bridge has no answer. -/
  unanswered : ∀ {σ : Type} (b : Bridge σ) (submission : Submission) (s s₁ s₂ : σ),
    b.settings = settings → submission.read = .ok d →
    Flow.outcome (b.resolve d) s = (.ok (some catalog), s₁) →
    Flow.outcome b.clock s₁ = (.ok now, s₂) → Strays settings catalog now d →
      ∃ fault, Flow.outcome (b.handle submission) s = (.error (.fault fault), s₂)

/-- **Compilation ends with a compiled directive or with an error of the directive, unless
the directive strays.**  Then the bridge that compiles it is left without an answer. -/
theorem compile_ends (settings : Settings) (catalog : Catalog) (now : Int) (d : Directive) :
    Ends settings catalog now d where
  answered := by rw [← isFault_compile_iff, Outcome.not_isFault_iff]
  enveloped b submission s s₁ s₂ e hsettings hread hresolve hclock h := by
    subst hsettings
    exact Bridge.outcome_handle_of_work (Bridge.outcome_work_of_compile hread hresolve hclock h)
  unanswered b submission s s₁ s₂ hsettings hread hresolve hclock h := by
    subst hsettings
    obtain ⟨fault, h⟩ := h.isFault
    exact ⟨fault,
      Bridge.outcome_handle_of_work (Bridge.outcome_work_of_compile hread hresolve hclock h)⟩

/-- A selection with a lower bound that is moved out of the calendar, as it is handed
in. -/
def earliestSubmission : Value :=
  .object [("op", .text "SELECT"), ("targetType", .text "Account"),
    ("properties", .list [.text "Name"]),
    ("where", .object
      [("SystemModstamp", .object [("$gt", .text "0001-01-01T00:00:00+23:59")])])]

/-- That selection. -/
def earliestSelection : Directive :=
  { op := "SELECT"
    targetType := "Account"
    properties := some ["Name"]
    filter := some [("SystemModstamp", .object [("$gt", .text "0001-01-01T00:00:00+23:59")])] }

/-- A selection of what was reviewed in the year 10000. -/
def lateSelection : Directive :=
  { op := "SELECT"
    targetType := "Account"
    properties := some ["Name"]
    filter := some [("ReviewedAt", .int 253402300800000)] }

/-- An update that sets the year 10000. -/
def lateUpdate : Directive :=
  { op := "UPDATE"
    targetType := "Account"
    filter := some [("externalId", .text "001")]
    values := some [("ReviewedAt", .int 253402300800000)] }

/-- **A bound, an operand and a value of a field of times can each be a fault.**  So a
directive is not always compiled or refused with an error. -/
theorem compile_strays :
    (Submission.raw earliestSubmission).read = .ok earliestSelection ∧
      (∃ fault, (compile {} writableCatalog 0 earliestSelection).result = .error (.fault fault)) ∧
      (∃ fault, (compile {} writableCatalog 0 lateSelection).result = .error (.fault fault)) ∧
      (∃ fault, (compile {} writableCatalog 0 lateUpdate).result = .error (.fault fault)) ∧
      ¬ ∀ (settings : Settings) (catalog : Catalog) (now : Int) (d : Directive),
        (∃ c, (compile settings catalog now d).result = .ok c) ∨
          ∃ e, (compile settings catalog now d).result = .error (.error e) := by
  have hlate : Value.OutOfRange (.int 253402300800000) := .int (by decide)
  have hreviewed : ∃ f, writableCatalog.get? "ReviewedAt" = some f ∧
      (f.isDateTime || f.isDate) = true :=
    ⟨_, rfl, by decide⟩
  have hearliest : IsFault (compile {} writableCatalog 0 earliestSelection).result := by
    have hasks : AsksQuery {} writableCatalog earliestSelection :=
      ⟨rfl, fun _ h => (nomatch h), ["Name"], rfl, by decide⟩
    exact Strays.isFault (.bound hasks rfl Value.overflows_firstMidnight.1)
  have hselection : IsFault (compile {} writableCatalog 0 lateSelection).result := by
    obtain ⟨f, hf, htime⟩ := hreviewed
    have hastray : Filter.Astray writableCatalog ⟨"ReviewedAt", .eq, .int 253402300800000⟩ :=
      .operand hf htime nofun (.inr rfl) List.mem_cons_self hlate
    have hunwritten : ∀ text, Filter.renderComparison writableCatalog
        ⟨"ReviewedAt", .eq, .int 253402300800000⟩ ≠ .ok text := by
      obtain ⟨fault, h⟩ := Filter.exists_fault_iff.2 hastray
      exact fun _ h' => nomatch h.symm.trans h'
    have hasks : AsksQuery {} writableCatalog lateSelection :=
      ⟨rfl, fun _ h => (nomatch h), ["Name"], rfl, by decide⟩
    exact Strays.isFault
      (.comparison hasks rfl rfl ⟨⟨[], rfl⟩, List.forall_mem_nil _, hunwritten⟩ hastray)
  have hupdate : IsFault (compile {} writableCatalog 0 lateUpdate).result := by
    have hwrites : Writes lateUpdate .updatable :=
      ⟨.update, rfl, rfl, fun _ => ⟨"001", rfl, by decide⟩⟩
    exact Strays.isFault (.value hwrites List.mem_cons_self (by decide) ⟨hreviewed, rfl, hlate⟩)
  refine ⟨rfl, hearliest, hselection, hupdate, fun hall => ?_⟩
  exact Outcome.not_isFault_iff.2 (hall {} writableCatalog 0 earliestSelection) hearliest

end Compile
end RecordBridge
