/-
# The work in stages

A list of stages is run with an attempt for each of them: what fails with an error
of the directive ends the run with that error.  That is one attempt of all of them
in a row (`inStages_eq_attempt`), by induction on the stages, since an attempt of a
sequence is an attempt of its first part and, behind a value, one of its second part
(`attempt_bind`).

So a bridge that works on a submission as a whole and attempts that once does what
it does stage by stage (`handle_eq_inStages`).  In particular no stage is ever run
out of order.  What later stages look at is there, and an invocation, which has
neither an answer nor a lower bound, goes through the last two of them unchanged.
-/

import RecordBridge.Bridge.Stages
import RecordBridge.Proofs.Bridge.Watching
import RecordBridge.Proofs.Compile.Requests

namespace RecordBridge

namespace Flow

variable {σ α β : Type}

/-- An attempt, opened at a known outcome. -/
theorem attempt_apply {x : Flow σ α} {s s' : σ} {out : Traced α} (h : x s = (out, s')) :
    x.attempt s = (⟨attempted out.result, out.log⟩, s') := by
  obtain ⟨result, log⟩ := out
  simp only [attempt, h]
  rcases result with (e | f) | a <;> rfl

/-- An attempt of a sequence is an attempt of its first part and, behind a value, one of
its second part. -/
theorem attempt_bind (x : Flow σ α) (f : α → Flow σ β) :
    (x >>= f).attempt = x.attempt >>= fun
      | .ok a => (f a).attempt
      | .error e => pure (.error e) := by
  funext s
  obtain ⟨⟨result, log⟩, s', h⟩ : ∃ out s', x s = (out, s') := ⟨_, _, rfl⟩
  have hseq := andThen_apply (f := f) h
  have hfirst := attempt_apply h
  cases result with
  | ok a =>
    -- the attempt of the whole and that of the second part look at the same outcome
    obtain ⟨⟨result, more⟩, s'', hf⟩ : ∃ out s'', f a s' = (out, s'') := ⟨_, _, rfl⟩
    dsimp only at hseq
    rw [hf] at hseq
    rw [attempt_apply hseq, andThen_apply hfirst]
    show _ = ((⟨((f a).attempt s').1.result, log ++ ((f a).attempt s').1.log⟩,
      ((f a).attempt s').2) : Traced (Except DirectiveError β) × σ)
    rw [attempt_apply hf]
  | error e =>
    cases e with
    | error e =>
      rw [attempt_apply hseq, andThen_apply hfirst]
      show ((⟨.ok (.error e), log⟩, s') : Traced (Except DirectiveError β) × σ)
        = (⟨.ok (.error e), log ++ []⟩, s')
      rw [List.append_nil]
    | fault f =>
      rw [attempt_apply hseq, andThen_apply hfirst]
      rfl

/-- **Stages are run as one attempt of all of them in a row.** -/
theorem inStages_eq_attempt (stages : List (α → Flow σ α)) (a : α) :
    inStages stages a = (stages.foldlM (fun a (stage : α → Flow σ α) => stage a) a).attempt := by
  induction stages generalizing a with
  | nil => rfl
  | cons stage stages ih =>
    rw [List.foldlM_cons, attempt_bind, inStages]
    refine congrArg _ (funext fun out => ?_)
    cases out with
    | ok b => exact ih b
    | error e => rfl

theorem attempt_bind_pure (x : Flow σ α) (f : α → β) :
    (x >>= fun a => pure (f a)).attempt = x.attempt >>= fun out => pure (out.map f) := by
  rw [attempt_bind]
  refine congrArg _ (funext fun out => ?_)
  cases out <;> rfl

end Flow

namespace Bridge

variable {σ : Type} {c : Compiled}

/-- The stages behind the compilation. -/
def finishing (b : Bridge σ) (ctx : Context) : Flow σ Context := do
  let ctx ← b.sending ctx
  let ctx ← b.takingOver ctx
  b.burying ctx

/-- An operation on a document goes through the stages behind it unchanged. -/
theorem finishing_invoke (b : Bridge σ) {ctx : Context} {i : DocumentInvoke}
    (hc : ctx.compiled = some c) (hi : c.action = .invoke i) (hsince : c.deltaSince = none)
    (hanswer : ctx.answer = none) :
    (b.finishing ctx >>= fun ctx => pure ctx.envelope) = b.runDocument ctx.envelope i := by
  have hsending : b.sending ctx =
      b.runDocument ctx.envelope i >>= fun e => pure { ctx with envelope := e } := by
    rw [sending, hc, require, Flow.pure_bind, hi]
  -- there is no answer to take over, and no bound since when to bury
  have hrest : ∀ e, (b.takingOver { ctx with envelope := e } >>= b.burying) =
      pure { ctx with envelope := e } := by
    intro e
    have htaking : b.takingOver { ctx with envelope := e } = pure { ctx with envelope := e } := by
      simp only [takingOver, hc, hanswer, require, Flow.pure_bind]
    rw [htaking, Flow.pure_bind]
    simp only [burying, hc, require, Flow.pure_bind, addDeletions, hsince]
  rw [finishing, hsending, Flow.bind_assoc, Flow.bind_assoc]
  simp only [Flow.pure_bind, hrest]
  exact Flow.bind_pure _

/-- A request is sent, its answer is taken over, and deletions are added. -/
theorem finishing_request (b : Bridge σ) {ctx : Context} {catalog : Catalog} {r : Request}
    (hc : ctx.compiled = some c) (hr : c.action = .request r)
    (hcatalog : ctx.catalog = some catalog) :
    (b.finishing ctx >>= fun ctx => pure ctx.envelope) =
      (b.send r >>= fun answer =>
        b.takeOver catalog c r answer ctx.envelope >>= b.addDeletions c) := by
  have hsending : b.sending ctx =
      b.send r >>= fun answer => pure { ctx with answer := some answer } := by
    rw [sending, hc, require, Flow.pure_bind, hr]
  have htaking : ∀ answer, b.takingOver { ctx with answer := some answer } =
      b.takeOver catalog c r answer ctx.envelope >>= fun e =>
        pure { ctx with answer := some answer, envelope := e } := by
    intro answer
    have hrequest : c.request? = some r := by rw [Compiled.request?, hr]
    simp only [takingOver, hc, hrequest, hcatalog, require, Flow.pure_bind, takeOver,
      Flow.bind_assoc]
    refine congrArg _ (funext fun _ => ?_)
    split <;> rfl
  have hburying : ∀ answer e, (b.burying { ctx with answer := some answer, envelope := e } >>=
      fun ctx => pure ctx.envelope) = b.addDeletions c e := by
    intro answer e
    simp only [burying, hc, require, Flow.pure_bind, Flow.bind_assoc]
    exact Flow.bind_pure _
  rw [finishing, hsending]
  simp only [Flow.bind_assoc, Flow.pure_bind, htaking, hburying]

/-- The context of a directive before it is compiled. -/
def resolved (s : Submission) (d : Directive) (catalog : Option Catalog) : Context :=
  { submission := s, directive := some d, catalog }

/-- Without a catalog, the stages from the compilation on are an invocation. -/
theorem compiling_none (b : Bridge σ) (s : Submission) (d : Directive) :
    (b.compiling (resolved s d none) >>= fun ctx => b.finishing ctx >>= fun ctx =>
      pure ctx.envelope) = b.workInvocation d := by
  rw [compiling, resolved, require, Flow.pure_bind, workInvocation, Flow.bind_assoc]
  refine Flow.ofTraced_bind_congr fun c hc => ?_
  obtain ⟨i, -, rfl⟩ := Compile.compileInvoke_eq_ok_iff.1 hc
  rw [Flow.pure_bind]
  exact finishing_invoke b rfl rfl rfl rfl

/-- With a catalog, they are the work on a directive on its type. -/
theorem compiling_some (b : Bridge σ) (s : Submission) (d : Directive) (catalog : Catalog) :
    (b.compiling (resolved s d (some catalog)) >>= fun ctx => b.finishing ctx >>= fun ctx =>
      pure ctx.envelope) = b.workOn catalog d := by
  rw [compiling, resolved, require, Flow.pure_bind, workOn, compilation, Flow.bind_assoc,
    Flow.bind_assoc]
  refine congrArg _ (funext fun now => Flow.ofTraced_bind_congr fun c hc => ?_)
  rw [Flow.pure_bind]
  cases ha : c.action with
  | invoke i => exact finishing_invoke b rfl ha (Compile.deltaSince_of_invoke ha hc) rfl
  | request r => exact finishing_request b rfl ha rfl

/-- **The work on a submission is its stages in a row.** -/
theorem work_eq_foldlM (b : Bridge σ) (s : Submission) :
    b.work s = (b.stages.foldlM (fun ctx stage => stage ctx) { submission := s }) >>= fun ctx =>
      pure ctx.envelope := by
  have hstages : b.stages.foldlM (fun ctx stage => stage ctx) { submission := s } =
      reading { submission := s } >>= fun ctx => b.resolving ctx >>= fun ctx =>
        b.compiling ctx >>= b.finishing := by
    simp only [stages, List.foldlM_cons, List.foldlM_nil, Flow.bind_pure]
    rfl
  rw [hstages, work, reading]
  simp only [Flow.bind_assoc, Flow.pure_bind, resolving, require]
  refine congrArg _ (funext fun d => congrArg _ (funext fun catalog => ?_))
  cases catalog with
  | none => exact (compiling_none b s d).symm
  | some catalog => exact (compiling_some b s d catalog).symm

/-- **A submission is handled in stages.**  What a bridge answers, what it logs and what
it does to its collaborators are those of the stages, run one after another until the
first error. -/
theorem handle_eq_inStages (b : Bridge σ) (s : Submission) :
    b.handle s = (do
      Flow.log .info .engine ("Handling " ++ s.subject)
      match ← Flow.inStages b.stages { submission := s } with
      | .ok ctx =>
        Flow.log .info .engine (s.subject ++ " completed in #ms")
        pure ctx.envelope
      | .error err =>
        Flow.log .warning .engine
          (s.subject ++ " failed after #ms: [" ++ err.code ++ "] " ++ err.message)
        pure (Envelope.failure err)) := by
  rw [handle, work_eq_foldlM, Flow.attempt_bind_pure, ← Flow.inStages_eq_attempt]
  refine congrArg _ (funext fun _ => ?_)
  rw [Flow.bind_assoc]
  refine congrArg _ (funext fun out => ?_)
  cases out <;> rfl

end Bridge
end RecordBridge
