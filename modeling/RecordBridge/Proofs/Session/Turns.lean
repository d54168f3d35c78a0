/-
# The turns of a session

A session works off calls one after the other.  A turn is one call with the
session before and after it, what was exchanged for it, and how it ended
(`turns`).  `Step` has one rule for each way in which a turn can go:

| call                     | exchanges       | session afterwards                 |
| ------------------------ | --------------- | ---------------------------------- |
| catalog, known           | none            | the same                           |
| catalog, name refused    | none            | the same                           |
| catalog, not described   | one description | the same                           |
| catalog, described       | one description | the catalog is kept under its name |
| credentials              | none            | the credentials, and no catalogs   |
| any other                | its own         | the same                           |

Every turn goes by one of these rules (`Call.talks`), so whatever is said of
sessions over time is a matter of the rules (`chained_turns`).
-/

import RecordBridge.Proofs.Session.Conduct

namespace RecordBridge
namespace Session

variable {τ : Type}

/-- An operation of a session. -/
inductive Call
  | request (method resource : String) (body : Option Object)
  | catalog (typeName : Option String)
  | deletedBetween (typeName start stop : String)
  | fetchDocument (name : Option String)
  | upsertDocument (name : Option String) (contentType content : String)
  | updateCredentials (accessToken : String) (instanceUrl : Option String)

/-- What an operation comes to. -/
inductive Returned
  | answer (a : Answer)
  | catalog (c : Catalog)
  | identifiers (ids : List Value)
  | document (d : Option Document)
  | identifier (id : String)
  | nothing

namespace Call

/-- The operation as a computation. -/
def run (t : Transport τ) : Call → Over τ Returned
  | .request method resource body => do
    let a ← Session.request t method resource body
    pure (.answer a)
  | .catalog typeName => do
    let c ← catalogOf? t typeName
    pure (.catalog c)
  | .deletedBetween typeName start stop => do
    let ids ← Session.deletedBetween t typeName start stop
    pure (.identifiers ids)
  | .fetchDocument name => do
    let d ← Session.fetchDocument t name
    pure (.document d)
  | .upsertDocument name contentType content => do
    let id ← Session.upsertDocument t name contentType content
    pure (.identifier id)
  | .updateCredentials accessToken instanceUrl => do
    Session.updateCredentials accessToken instanceUrl
    pure .nothing

/-- Whether the operation replaces the credentials. -/
def isLogin : Call → Bool
  | .updateCredentials _ _ => true
  | _ => false

/-- Whether the operation asks for a catalog. -/
def asksCatalog : Call → Bool
  | .catalog _ => true
  | _ => false

end Call

/-- The request for the description of a type. -/
def describeRequest (s : Session) (typeName : String) : HttpRequest :=
  s.httpRequest "GET" (describeResource typeName) none

/-- How a turn of a session can go. -/
inductive Step (s : Session) :
    Call → List Exchange → Except Failure Returned → Session → Prop
  | known {name : String} {info : Catalog} (hknown : s.catalogs.get? name = some info) :
    Step s (.catalog (some name)) [] (.ok (.catalog info)) s
  | refused {name : String} (hunknown : s.catalogs.get? name = none)
    (hname : isTypeName name = false) :
    Step s (.catalog (some name)) [] (.error (.session (.invalidTypeName (some name)))) s
  | nameless : Step s (.catalog none) [] (.error (.session (.invalidTypeName none))) s
  | failed {name : String} {answer : Except Failure (Except NoAnswer Reply)} {f : Failure}
    (hunknown : s.catalogs.get? name = none) (hname : isTypeName name = true) :
    Step s (.catalog (some name)) [⟨s.describeRequest name, answer⟩] (.error f) s
  | described {name : String} {info : Catalog} {reply : Reply} {description : Value}
    (hunknown : s.catalogs.get? name = none) (hname : isTypeName name = true)
    (hstatus : reply.status = 200) (hbody : Json.parseBytes? reply.body = some description)
    (hinfo : Catalog.ofDescription description = .ok info) :
    Step s (.catalog (some name)) [⟨s.describeRequest name, .ok (.ok reply)⟩]
      (.ok (.catalog info)) (s.keep name info)
  | login {accessToken : String} {instanceUrl : Option String} :
    Step s (.updateCredentials accessToken instanceUrl) [] (.ok .nothing)
      (s.withCredentials accessToken instanceUrl)
  | other {call : Call} {exchanges : List Exchange} {r : Except Failure Returned}
    (hlogin : call.isLogin = false) (hcatalog : call.asksCatalog = false)
    (hsent : ∀ e ∈ exchanges, s.Sent e) : Step s call exchanges r s

/-- Null describes no type. -/
theorem ofDescription_null (info : Catalog) : Catalog.ofDescription .null ≠ .ok info := nofun

namespace Talks

variable {s : Session}

/-- A catalog that was described is kept. -/
theorem accept {name : String} {description : Value}
    {P : List Exchange → Except Failure Catalog → Session → Prop}
    (hok : ∀ info, Catalog.ofDescription description = .ok info →
      P [] (.ok info) (s.keep name info))
    (herror : ∀ f, P [] (.error f) s) :
    Talks (τ := τ) s (Session.accept name description) (Session.accept name description) P := by
  refine ofTraced_bind (fun info hinfo => ?_) fun e _ => herror e
  have hdescribed := Outcome.mapError_eq_ok_iff.1 (Outcome.mapError_eq_ok_iff.1 hinfo)
  exact update_bind (log_bind (ofTraced (hok info hdescribed)))

/-- A catalog is described at most once. -/
theorem catalog (t : Transport τ) (name : String) :
    Talks s (Session.catalog t.watched name) (Session.catalog t name) fun new r s' =>
      Step s (.catalog (some name)) new (r.map .catalog) s' := by
  refine current_bind ?_
  cases hget : s.catalogs.get? name with
  | some info =>
    simp only [lookUp, hget]
    exact ofTraced (.known hget)
  | none =>
    cases hname : isTypeName name with
    | false =>
      simp only [lookUp, hget, hname]
      exact ofTraced (.refused hget hname)
    | true =>
      simp only [lookUp, hget, hname]
      refine bind (expect t "GET" (describeResource name) 200 none) ?_ ?_
      · rintro _ body _ ⟨rfl, answer, rfl, hr⟩
        refine accept (fun info hinfo => ?_) fun f => .failed hget hname
        obtain ⟨reply, rfl, hstatus, hbody⟩ := bodyIn_eq_ok_iff.1 hr.symm
        obtain rfl | hbody := hbody.null_or_parse
        · exact absurd hinfo (ofDescription_null info)
        · exact .described hget hname hstatus hbody hinfo
      · rintro _ f _ ⟨rfl, answer, rfl, -⟩
        exact .failed hget hname

end Talks

/-- **Every turn of a session goes by the rules.** -/
theorem Call.talks (t : Transport τ) (call : Call) (s : Session) :
    Talks s (call.run t.watched) (call.run t) (Step s call) := by
  have hother : ∀ {α : Type} {x : Over (τ × List Exchange) α} {y : Over τ α} {k : α → Returned},
      call.isLogin = false → call.asksCatalog = false → Keeps s.asItIs x y →
      Talks s (x >>= fun a => pure (k a)) (y >>= fun a => pure (k a)) (Step s call) := by
    intro α x y k hlogin hcatalog hkeeps
    refine (hkeeps.bind fun _ => Keeps.ofTraced).speaks.mono ?_
    rintro new r _ ⟨rfl, hsent⟩
    exact .other hlogin hcatalog hsent
  cases call with
  | request method resource body => exact hother rfl rfl (Keeps.request t (s.permits_asItIs _ _ _))
  | catalog typeName =>
    cases typeName with
    | none => exact Talks.ofTraced .nameless
    | some name =>
      refine Talks.bind (Talks.catalog t name) ?_ fun _ _ _ h => h
      rintro first c s' h
      refine Talks.ofTraced ?_
      rwa [List.append_nil]
  | deletedBetween typeName start stop =>
    exact hother rfl rfl (Keeps.deletedBetween t (s.permits_asItIs _ _ _))
  | fetchDocument name =>
    exact hother rfl rfl (Keeps.fetchDocument t s.permitsBelow_asItIs s.permitsContent_asItIs _)
  | upsertDocument name contentType content =>
    exact hother rfl rfl (Keeps.upsertDocument t s.permitsBelow_asItIs _ _ _)
  | updateCredentials accessToken instanceUrl =>
    refine Talks.bind
      (Q := fun first r s' =>
        first = [] ∧ r = .ok () ∧ s' = s.withCredentials accessToken instanceUrl)
      (Talks.update_bind (Talks.ofTraced ⟨rfl, rfl, rfl⟩)) ?_ ?_
    · rintro _ _ _ ⟨rfl, -, rfl⟩
      exact Talks.ofTraced .login
    · rintro _ _ _ ⟨-, he, -⟩
      exact nomatch he

/-! ### Many turns -/

/-- One operation of a session with what came of it. -/
structure Turn where
  call : Call
  before : Session
  exchanges : List Exchange
  outcome : Except Failure Returned
  after : Session

/-- The turn of an operation, from a state of the transport on. -/
def turn (t : Transport τ) (call : Call) (s : Session) (u : τ) : Turn where
  call := call
  before := s
  exchanges := (call.run t.watched (s, (u, []))).2.2.2
  outcome := (call.run t (s, u)).1.result
  after := (call.run t (s, u)).2.1

/-- The turns of a session that works off operations one after the other. -/
def turns (t : Transport τ) : List Call → Session → τ → List Turn
  | [], _, _ => []
  | call :: calls, s, u =>
    turn t call s u :: turns t calls (call.run t (s, u)).2.1 (call.run t (s, u)).2.2

/-- The session after turns. -/
def sessionAfter (s : Session) : List Turn → Session
  | [] => s
  | turn :: later => sessionAfter turn.after later

/-- Whether turns go by the rules, each from where the one before it ended. -/
def Chained (s : Session) : List Turn → Prop
  | [] => True
  | turn :: later =>
    turn.before = s ∧ Step s turn.call turn.exchanges turn.outcome turn.after ∧
      Chained turn.after later

theorem step_turn (t : Transport τ) (call : Call) (s : Session) (u : τ) :
    Step s (turn t call s u).call (turn t call s u).exchanges (turn t call s u).outcome
      (turn t call s u).after := by
  obtain ⟨new, s', u', hwatched, hstate, hstep⟩ := call.talks t s u []
  rw [turn, hwatched, hstate]
  exact hstep

/-- **The turns of a session go by the rules.** -/
theorem chained_turns (t : Transport τ) : ∀ (calls : List Call) (s : Session) (u : τ),
    Chained s (turns t calls s u)
  | [], _, _ => trivial
  | call :: calls, s, u => ⟨rfl, step_turn t call s u, chained_turns t calls _ _⟩

theorem sessionAfter_append (s : Session) (past later : List Turn) :
    sessionAfter s (past ++ later) = sessionAfter (sessionAfter s past) later := by
  induction past generalizing s with
  | nil => rfl
  | cons turn past ih => exact ih turn.after

theorem chained_append {s : Session} {past later : List Turn} :
    Chained s (past ++ later) ↔ Chained s past ∧ Chained (sessionAfter s past) later := by
  induction past generalizing s with
  | nil => exact ⟨fun h => ⟨trivial, h⟩, fun h => h.2⟩
  | cons turn past ih =>
    rw [List.cons_append, Chained, Chained, ih, and_assoc, and_assoc]
    rfl

end Session
end RecordBridge
