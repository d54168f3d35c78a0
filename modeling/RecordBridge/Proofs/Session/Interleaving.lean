/-
# Calls of a session that overlap

A call for a catalog that is not known sends its request and waits.  Until it is
answered other calls come and go, and so may the credentials.  When the answer
is there its catalog is kept, by whatever session there is then.

`Busy` is a session with the calls that wait, and `Busy.next` what one moment
does to it: a call begins, a call is answered, or new credentials are given.
Beside each catalog stands the request that it was the answer to.

Each catalog was asked for at one moment and told at a later one, and no
credentials were given since it was told.  But they may have been given in
between, and then the catalog is one for the old credentials.  Exactly such an
answer makes what a session knows out of date (`accounted`).
-/

import RecordBridge.Proofs.Session.Coherence

namespace RecordBridge
namespace Session

variable {τ : Type}

/-! ### The two halves of a call -/

/-- The catalog that the answer to a request for a description holds. -/
def heard (typeName : String) (answer : Except Failure (Except NoAnswer Reply)) :
    Except Failure Catalog := do
  let description ← bodyIn "GET" (describeResource typeName) 200 answer
  (describedCatalog typeName description).mapError Failure.session

/-- A catalog is heard exactly in a reply with status 200 whose body is the JSON
description of one. -/
theorem heard_eq_ok_iff {typeName : String} {answer : Except Failure (Except NoAnswer Reply)}
    {info : Catalog} :
    heard typeName answer = .ok info ↔ ∃ reply description, answer = .ok (.ok reply) ∧
      reply.status = 200 ∧ Json.parseBytes? reply.body = some description ∧
      Catalog.ofDescription description = .ok info := by
  constructor
  · intro h
    obtain ⟨description, hdescription, h⟩ := Outcome.bind_eq_ok_iff.1 h
    have hinfo := Outcome.mapError_eq_ok_iff.1 (Outcome.mapError_eq_ok_iff.1 h)
    obtain ⟨reply, hreply, hstatus, hbody⟩ := bodyIn_eq_ok_iff.1 hdescription
    obtain rfl | hbody := hbody.null_or_parse
    · exact absurd hinfo (ofDescription_null info)
    · exact ⟨reply, _, hreply, hstatus, hbody, hinfo⟩
  · rintro ⟨reply, description, rfl, hstatus, hbody, hinfo⟩
    have hdescription : bodyIn "GET" (describeResource typeName) 200 (.ok (.ok reply))
        = .ok description :=
      bodyIn_eq_ok_iff.2 ⟨reply, rfl, hstatus, Reply.holds_of_parse hbody⟩
    have hdescribed : (describedCatalog typeName description).mapError Failure.session
        = .ok info := Outcome.mapError_eq_ok_iff.2 (Outcome.mapError_eq_ok_iff.2 hinfo)
    exact Outcome.bind_eq_ok_iff.2 ⟨description, hdescription, hdescribed⟩

/-- The session that keeps what was heard, if it is a catalog. -/
def hear (s : Session) (typeName : String) : Except Failure Catalog → Session
  | .ok info => s.keep typeName info
  | .error _ => s

section Outcome

variable {t : Transport τ} {s : Session} {u u' : τ} {typeName : String}
  {answer : Except Failure (Except NoAnswer Reply)}

theorem outcome_exchange {method resource : String} {body : Option Object}
    (h : Flow.outcome (t.send (s.httpRequest method resource body)) u = (answer, u')) :
    Flow.outcome (exchange t method resource body) (s, u)
      = (replyIn method resource answer, (s, u')) := by
  obtain ⟨⟨result, log⟩, v, hsend⟩ :
      ∃ out v, t.send (s.httpRequest method resource body) u = (out, v) := ⟨_, _, rfl⟩
  rw [Flow.outcome, hsend] at h
  obtain ⟨rfl, rfl⟩ := Prod.mk.inj h
  rw [Flow.outcome, exchange_apply hsend]

theorem outcome_request {method resource : String} {body : Option Object}
    (h : Flow.outcome (t.send (s.httpRequest method resource body)) u = (answer, u')) :
    Flow.outcome (request t method resource body) (s, u)
      = (answerIn method resource answer, (s, u')) := by
  rw [request, Flow.outcome_bind, outcome_exchange h, answerIn]
  cases replyIn method resource answer with
  | error f => rfl
  | ok reply => rfl

theorem outcome_expect {method resource : String} {expected : Int} {body : Option Object}
    (h : Flow.outcome (t.send (s.httpRequest method resource body)) u = (answer, u')) :
    Flow.outcome (expect t method resource expected body) (s, u)
      = (bodyIn method resource expected answer, (s, u')) := by
  rw [expect, Flow.outcome_bind, outcome_request h, bodyIn]
  cases answerIn method resource answer with
  | error f => rfl
  | ok a => rfl

theorem outcome_accept {description : Value} {info : Except Failure Catalog}
    (h : (describedCatalog typeName description).mapError Failure.session = info) :
    Flow.outcome (accept typeName description) (s, u) = (info, (s.hear typeName info, u)) := by
  rw [accept, Flow.outcome_bind, h]
  cases info with
  | error f => rfl
  | ok c => rfl

/-- **A call in two halves.**  A call for a catalog that is not known sends its
request and hears the answer. -/
theorem outcome_catalog_unknown (hunknown : s.lookUp typeName = .unknown)
    (h : Flow.outcome (t.send (s.describeRequest typeName)) u = (answer, u')) :
    Flow.outcome (catalog t typeName) (s, u)
      = (heard typeName answer, (s.hear typeName (heard typeName answer), u')) := by
  have hcurrent : Flow.outcome (current (τ := τ)) (s, u) = (.ok s, (s, u)) := rfl
  rw [catalog, Flow.outcome_bind, hcurrent]
  dsimp only
  rw [hunknown]
  dsimp only
  rw [Flow.outcome_bind, outcome_expect h, heard]
  cases bodyIn "GET" (describeResource typeName) 200 answer with
  | error f => rfl
  | ok description => exact outcome_accept rfl

end Outcome

/-! ### Moments -/

/-- A call that waits for the answer to its request. -/
structure Waiting where
  typeName : String
  request : HttpRequest

/-- A session with the calls that wait, in the order in which they began. -/
structure Busy where
  session : Session
  waiting : List Waiting := []
  /-- For each catalog of the session the request that it was told in answer to. -/
  origins : Entries HttpRequest := []

/-- What can happen to a session. -/
inductive Moment
  /-- A call for a catalog begins. -/
  | asks (typeName : String)
  /-- The call in that place among those that wait is answered. -/
  | answered (place : Nat) (answer : Except Failure (Except NoAnswer Reply))
  | login (accessToken : String) (instanceUrl : Option String)

/-- Whether new credentials are given. -/
def Moment.isLogin : Moment → Bool
  | .login _ _ => true
  | _ => false

namespace Busy

/-- The session and its calls behind a moment. -/
def next (b : Busy) : Moment → Busy
  | .asks typeName =>
    match b.session.lookUp typeName with
    | .unknown =>
      { b with waiting := b.waiting ++ [⟨typeName, b.session.describeRequest typeName⟩] }
    | _ => b
  | .answered place answer =>
    match b.waiting[place]? with
    | none => b
    | some w =>
      { session := b.session.hear w.typeName (heard w.typeName answer)
        waiting := b.waiting.eraseIdx place
        origins := match heard w.typeName answer with
          | .ok _ => b.origins.set w.typeName w.request
          | .error _ => b.origins }
  | .login accessToken instanceUrl =>
    { b with session := b.session.withCredentials accessToken instanceUrl, origins := [] }

/-- What a call that ends at a moment comes to. -/
def ended? (b : Busy) : Moment → Option (Except Failure Catalog)
  | .asks typeName =>
    match b.session.lookUp typeName with
    | .known info => some (.ok info)
    | .refused => some (.error (.session (.invalidTypeName (some typeName))))
    | .unknown => none
  | .answered place answer => b.waiting[place]?.map fun w => heard w.typeName answer
  | .login _ _ => none

/-- The session and its calls behind a history. -/
def after (config : Config) (history : List Moment) : Busy :=
  history.foldl next { session := ofConfig config }

/-- Whether each catalog was asked for with the credentials that the session has. -/
def Fresh (b : Busy) : Prop :=
  ∀ typeName request, b.origins.get? typeName = some request →
    request = b.session.describeRequest typeName

/-- Whether a moment tells a catalog that was asked for with other credentials than
the session has. -/
def Late (b : Busy) (m : Moment) : Prop :=
  ∃ place answer w info, m = .answered place answer ∧ b.waiting[place]? = some w ∧
    heard w.typeName answer = .ok info ∧ w.request ≠ b.session.describeRequest w.typeName

variable {t : Transport τ} {b : Busy} {u u' : τ} {typeName : String}
  {answer : Except Failure (Except NoAnswer Reply)}

/-- A call that does not wait is over at once. -/
theorem outcome_catalog_of_ended {info : Except Failure Catalog}
    (h : b.ended? (.asks typeName) = some info) :
    Flow.outcome (catalog t typeName) (b.session, u)
      = (info, ((b.next (.asks typeName)).session, u)) := by
  have hcurrent : Flow.outcome (current (τ := τ)) (b.session, u)
      = (.ok b.session, (b.session, u)) := rfl
  rw [catalog, Flow.outcome_bind, hcurrent]
  rw [ended?] at h
  rw [next]
  dsimp only
  split at h
  · next hknown =>
    obtain rfl := Option.some.inj h
    rw [hknown]
    rfl
  · next hrefused =>
    obtain rfl := Option.some.inj h
    rw [hrefused]
    rfl
  · exact nomatch h

/-- A call that waits and is answered before anything else happens is the call as
a whole. -/
theorem outcome_catalog_of_waiting (h : b.ended? (.asks typeName) = none)
    (hsend : Flow.outcome (t.send (b.session.describeRequest typeName)) u = (answer, u')) :
    ∃ info, (b.next (.asks typeName)).ended? (.answered b.waiting.length answer) = some info ∧
      Flow.outcome (catalog t typeName) (b.session, u)
        = (info, (((b.next (.asks typeName)).next (.answered b.waiting.length answer)).session,
            u')) := by
  have hunknown : b.session.lookUp typeName = .unknown := by
    rw [ended?] at h
    split at h
    · exact nomatch h
    · exact nomatch h
    · assumption
  refine ⟨heard typeName answer, ?_, ?_⟩
  · simp [next, ended?, hunknown]
  · rw [outcome_catalog_unknown hunknown hsend]
    simp [next, hunknown]

/-! ### What a moment can do -/

/-- How a moment can go. -/
inductive Move (b : Busy) : Moment → Busy → Prop
  /-- A call is over at once, or there is no call that is answered. -/
  | idle {m : Moment} (hlogin : m.isLogin = false) : Move b m b
  | waits {typeName : String} :
    Move b (.asks typeName)
      { b with waiting := b.waiting ++ [⟨typeName, b.session.describeRequest typeName⟩] }
  | failed {place : Nat} {answer : Except Failure (Except NoAnswer Reply)} {w : Waiting}
    (hw : b.waiting[place]? = some w) :
    Move b (.answered place answer) { b with waiting := b.waiting.eraseIdx place }
  | told {place : Nat} {answer : Except Failure (Except NoAnswer Reply)} {w : Waiting}
    {info : Catalog} (hw : b.waiting[place]? = some w)
    (hheard : heard w.typeName answer = .ok info) :
    Move b (.answered place answer)
      { session := b.session.keep w.typeName info
        waiting := b.waiting.eraseIdx place
        origins := b.origins.set w.typeName w.request }
  | login {accessToken : String} {instanceUrl : Option String} :
    Move b (.login accessToken instanceUrl)
      { b with session := b.session.withCredentials accessToken instanceUrl, origins := [] }

/-- Every moment goes in one of these ways. -/
theorem move_next (b : Busy) (m : Moment) : Move b m (b.next m) := by
  cases m with
  | asks typeName =>
    rw [next]
    split
    · exact .waits
    · exact .idle rfl
  | answered place answer =>
    rw [next]
    split
    · exact .idle rfl
    · next w hw =>
      cases hheard : heard w.typeName answer with
      | error f => exact .failed hw
      | ok info => exact .told hw hheard
  | login accessToken instanceUrl => exact .login

theorem after_concat (config : Config) (past : List Moment) (m : Moment) :
    after config (past ++ [m]) = (after config past).next m := by
  rw [after, List.foldl_append]
  rfl

theorem move_after (config : Config) (past : List Moment) (m : Moment) :
    Move (after config past) m (after config (past ++ [m])) := by
  rw [after_concat]
  exact move_next _ m

/-! ### Up to date -/

theorem Fresh.next {m : Moment} (h : b.Fresh) (hm : ¬ b.Late m) : (b.next m).Fresh := by
  have hmove := move_next b m
  generalize b.next m = b' at hmove ⊢
  cases hmove with
  | idle => exact h
  | waits => exact h
  | failed => exact h
  | login => exact fun _ _ hget => nomatch hget
  | @told place answer w info hw hheard =>
    have hcurrent : w.request = b.session.describeRequest w.typeName := by
      by_contra hne
      exact hm ⟨place, answer, w, info, rfl, hw, hheard, hne⟩
    intro typeName request hget
    by_cases hname : typeName = w.typeName
    · subst hname
      rw [Entries.get?_set_self] at hget
      obtain rfl := Option.some.inj hget
      exact hcurrent
    · rw [Entries.get?_set_of_ne _ _ hname] at hget
      exact h typeName request hget

/-- A catalog that is heard is kept beside the request of the call. -/
theorem next_of_heard {place : Nat} {w : Waiting} {info : Catalog}
    (hw : b.waiting[place]? = some w) (hheard : heard w.typeName answer = .ok info) :
    b.next (.answered place answer) =
      { session := b.session.keep w.typeName info
        waiting := b.waiting.eraseIdx place
        origins := b.origins.set w.typeName w.request } := by
  simp only [next, hw, hheard, hear]

theorem Late.not_fresh_next {m : Moment} (h : b.Late m) : ¬ (b.next m).Fresh := by
  obtain ⟨place, answer, w, info, rfl, hw, hheard, hne⟩ := h
  intro hfresh
  rw [next_of_heard hw hheard] at hfresh
  exact hne (hfresh w.typeName w.request (Entries.get?_set_self _ _ _))

/-- A session is up to date throughout a history exactly if no catalog was told
late. -/
theorem fresh_throughout_iff (config : Config) (history : List Moment) :
    (∀ past later, history = past ++ later → (after config past).Fresh) ↔
      ∀ past m later, history = past ++ m :: later → ¬ (after config past).Late m := by
  constructor
  · rintro h past m later rfl hlate
    have hfresh := h (past ++ [m]) later (List.append_cons past m later)
    rw [after_concat] at hfresh
    exact hlate.not_fresh_next hfresh
  · intro h past
    induction past using List.reverseRecOn with
    | nil => exact fun _ _ _ _ hget => nomatch hget
    | append_singleton past m ih =>
      rintro later rfl
      have hpast : (after config past).Fresh := ih (m :: later) (List.append_cons past m later).symm
      rw [after_concat]
      exact hpast.next (h past m later (List.append_cons past m later).symm)

/-! ### Where what is known comes from -/

/-- Each call that waits began at a moment, and its request is that of the session
then. -/
theorem exists_asks_of_waiting {config : Config} {history : List Moment} {w : Waiting}
    (hw : w ∈ (after config history).waiting) :
    ∃ older newer, history = older ++ .asks w.typeName :: newer ∧
      w.request = (after config older).session.describeRequest w.typeName := by
  induction history using List.reverseRecOn with
  | nil => exact nomatch hw
  | append_singleton past m ih =>
    have hkept : w ∈ (after config past).waiting → ∃ older newer,
        past ++ [m] = older ++ .asks w.typeName :: newer ∧
          w.request = (after config older).session.describeRequest w.typeName := by
      intro hold
      obtain ⟨older, newer, rfl, hrequest⟩ := ih hold
      exact ⟨older, newer ++ [m], by rw [List.append_assoc, List.cons_append], hrequest⟩
    have hmove := move_after config past m
    generalize after config (past ++ [m]) = b' at hw hmove
    cases hmove with
    | idle => exact hkept hw
    | login => exact hkept hw
    | failed => exact hkept (List.mem_of_mem_eraseIdx hw)
    | told => exact hkept (List.mem_of_mem_eraseIdx hw)
    | waits =>
      obtain hold | hnew := List.mem_append.1 hw
      · exact hkept hold
      · obtain rfl := List.mem_singleton.1 hnew
        exact ⟨past, [], rfl, rfl⟩

/-- Whether a catalog comes from the answer to a request: asked for at one moment
with the credentials of that moment, told at a later one, and followed by no new
credentials. -/
def Told (config : Config) (history : List Moment) (typeName : String) (info : Catalog)
    (request : HttpRequest) : Prop :=
  ∃ older between place answer newer,
    history = older ++ .asks typeName :: (between ++ .answered place answer :: newer) ∧
      request = (after config older).session.describeRequest typeName ∧
      (after config (older ++ .asks typeName :: between)).waiting[place]?
        = some ⟨typeName, request⟩ ∧
      heard typeName answer = .ok info ∧ ∀ m ∈ newer, m.isLogin = false

theorem Told.concat {config : Config} {past : List Moment} {info : Catalog} {request : HttpRequest}
    {m : Moment} (h : Told config past typeName info request) (hm : m.isLogin = false) :
    Told config (past ++ [m]) typeName info request := by
  obtain ⟨older, between, place, answer, newer, rfl, hrequest, hwaiting, hheard, hnewer⟩ := h
  refine ⟨older, between, place, answer, newer ++ [m], ?_, hrequest, hwaiting, hheard, ?_⟩
  · simp
  · intro x hx
    obtain hx | hx := List.mem_append.1 hx
    · exact hnewer x hx
    · rwa [List.mem_singleton.1 hx]

/-- Each catalog was told in answer to the request that stands beside it. -/
theorem exists_told {config : Config} {history : List Moment} {info : Catalog}
    (h : (after config history).session.catalogs.get? typeName = some info) :
    ∃ request, (after config history).origins.get? typeName = some request ∧
      Told config history typeName info request := by
  induction history using List.reverseRecOn with
  | nil => exact nomatch h
  | append_singleton past m ih =>
    have hmove := move_after config past m
    generalize after config (past ++ [m]) = b' at h hmove ⊢
    cases hmove with
    | idle hlogin =>
      obtain ⟨request, horigin, htold⟩ := ih h
      exact ⟨request, horigin, htold.concat hlogin⟩
    | waits =>
      obtain ⟨request, horigin, htold⟩ := ih h
      exact ⟨request, horigin, htold.concat rfl⟩
    | failed =>
      obtain ⟨request, horigin, htold⟩ := ih h
      exact ⟨request, horigin, htold.concat rfl⟩
    | login => exact nomatch h
    | @told place answer w info' hw hheard =>
      by_cases hname : typeName = w.typeName
      · subst hname
        rw [keep, Entries.get?_set_self] at h
        obtain rfl := Option.some.inj h
        obtain ⟨older, newer, rfl, hrequest⟩ := exists_asks_of_waiting (List.mem_of_getElem? hw)
        refine ⟨w.request, Entries.get?_set_self _ _ _, older, newer, place, answer, [], ?_,
          hrequest, hw, hheard, fun _ hx => nomatch hx⟩
        rw [List.append_assoc, List.cons_append]
      · rw [keep, Entries.get?_set_of_ne _ _ hname] at h
        obtain ⟨request, horigin, htold⟩ := ih h
        rw [Entries.get?_set_of_ne _ _ hname]
        exact ⟨request, horigin, htold.concat rfl⟩

/-! ### New credentials between calls -/

/-- Where new credentials are given between calls only, each call that waits asked
with the credentials that the session has. -/
theorem request_of_waiting {config : Config} {history : List Moment}
    (h : ∀ past m later, history = past ++ m :: later → m.isLogin = true →
      (after config past).waiting = []) :
    ∀ w ∈ (after config history).waiting,
      w.request = (after config history).session.describeRequest w.typeName := by
  induction history using List.reverseRecOn with
  | nil => exact fun _ hw => nomatch hw
  | append_singleton past m ih =>
    have hpast := ih fun older x later hsplit hlogin =>
      h older x (later ++ [m]) (by rw [hsplit, List.append_assoc, List.cons_append]) hlogin
    have hnone : m.isLogin = true → (after config past).waiting = [] := h past m [] rfl
    have hmove := move_after config past m
    generalize after config (past ++ [m]) = b' at hmove ⊢
    cases hmove with
    | idle => exact hpast
    | failed => exact fun w hw => hpast w (List.mem_of_mem_eraseIdx hw)
    | told => exact fun w hw => hpast w (List.mem_of_mem_eraseIdx hw)
    | login =>
      intro w hw
      rw [hnone rfl] at hw
      exact nomatch hw
    | waits =>
      intro w hw
      obtain hold | hnew := List.mem_append.1 hw
      · exact hpast w hold
      · obtain rfl := List.mem_singleton.1 hnew
        rfl

end Busy

/-- Whether what a session knows can be accounted for throughout a history of calls
that may overlap. -/
structure Accounted (config : Config) (history : List Moment) : Prop where
  /-- At every point a call that does not wait comes to what the operation does. -/
  at_once : ∀ {τ : Type} (t : Transport τ) (u : τ) past later, history = past ++ later →
    ∀ typeName info, (Busy.after config past).ended? (.asks typeName) = some info →
      Flow.outcome (catalog t typeName) ((Busy.after config past).session, u)
        = (info, (((Busy.after config past).next (.asks typeName)).session, u))
  /-- So does a call that waits, if it is answered before anything else happens. -/
  undisturbed : ∀ {τ : Type} (t : Transport τ) (u u' : τ) past later, history = past ++ later →
    ∀ typeName answer, (Busy.after config past).ended? (.asks typeName) = none →
      Flow.outcome (t.send ((Busy.after config past).session.describeRequest typeName)) u
        = (answer, u') →
      let b := (Busy.after config past).next (.asks typeName)
      let answered := .answered (Busy.after config past).waiting.length answer
      ∃ info, b.ended? answered = some info ∧
        Flow.outcome (catalog t typeName) ((Busy.after config past).session, u)
          = (info, ((b.next answered).session, u'))
  /-- At every point each catalog was told in answer to a request that was made with
  the credentials of the moment in which it was asked for, and no credentials were
  given since it was told. -/
  told : ∀ past later, history = past ++ later → ∀ typeName info,
    (Busy.after config past).session.catalogs.get? typeName = some info →
    ∃ request, (Busy.after config past).origins.get? typeName = some request ∧
      Busy.Told config past typeName info request
  /-- At every point each catalog was asked for with the credentials of that point,
  exactly if no catalog was told after other credentials than those it was asked for
  with were given. -/
  fresh_iff : (∀ past later, history = past ++ later → (Busy.after config past).Fresh) ↔
    ∀ past m later, history = past ++ m :: later → ¬ (Busy.after config past).Late m
  /-- So it is if no credentials are given while a call waits. -/
  fresh : (∀ past m later, history = past ++ m :: later → m.isLogin = true →
      (Busy.after config past).waiting = []) →
    ∀ past later, history = past ++ later → (Busy.after config past).Fresh

/-- **Calls that overlap.**  Whatever calls for catalogs a session has under way,
whenever they are answered and whenever it is given new credentials, what it knows
can be accounted for. -/
theorem accounted (config : Config) (history : List Moment) : Accounted config history where
  at_once _ _ _ _ _ _ _ h := Busy.outcome_catalog_of_ended h
  undisturbed _ _ _ _ _ _ _ _ h hsend := Busy.outcome_catalog_of_waiting h hsend
  told _ _ _ _ _ h := Busy.exists_told h
  fresh_iff := Busy.fresh_throughout_iff config history
  fresh := by
    intro hquiet
    refine (Busy.fresh_throughout_iff config history).2 ?_
    rintro past m later rfl ⟨place, answer, w, info, rfl, hw, -, hne⟩
    refine hne (Busy.request_of_waiting ?_ w (List.mem_of_getElem? hw))
    rintro older x newer rfl hlogin
    exact hquiet older x (newer ++ .answered place answer :: later)
      (by rw [List.append_assoc, List.cons_append]) hlogin

/-- A description of a type without fields. -/
def accountReply : Reply :=
  ⟨200, "\x7b\"name\":\"Account\",\"fields\":[]\x7d".toList.flatMap String.utf8EncodeChar⟩

/-- A history in which new credentials come between a request and its answer. -/
def overtaken : List Moment :=
  [.asks "Account", .login "next" none, .answered 0 (.ok (.ok accountReply))]

/-- After that history the session has the new token, but the catalog that it gives
at once was asked for with the old one. -/
theorem overtaken_stale :
    let b := Busy.after { instanceUrl := "https://x", accessToken := "first" } overtaken
    b.session.accessToken = "next" ∧
      b.ended? (.asks "Account") = some (.ok ⟨.text "Account", []⟩) ∧
      (b.origins.get? "Account").map (·.headers)
        = some [("Authorization", "Bearer first"), ("Accept", "application/json")] ∧
      ¬ b.Fresh := by
  have hbody : Json.parseBytes? accountReply.body
      = some (.object [("name", .text "Account"), ("fields", .list [])]) := by decide +kernel
  have hheard : heard "Account" (.ok (.ok accountReply)) = .ok ⟨.text "Account", []⟩ :=
    heard_eq_ok_iff.2 ⟨accountReply, _, rfl, rfl, hbody, rfl⟩
  have hlate : (Busy.after { instanceUrl := "https://x", accessToken := "first" }
      [.asks "Account", .login "next" none]).Late (.answered 0 (.ok (.ok accountReply))) := by
    refine ⟨0, _, _, _, rfl, rfl, hheard, fun hsame => ?_⟩
    exact absurd (congrArg HttpRequest.headers hsame) (by decide)
  have hafter : Busy.after { instanceUrl := "https://x", accessToken := "first" } overtaken
      = (Busy.after { instanceUrl := "https://x", accessToken := "first" }
          [.asks "Account", .login "next" none]).next (.answered 0 (.ok (.ok accountReply))) :=
    Busy.after_concat _ [.asks "Account", .login "next" none] _
  have hstale := hlate.not_fresh_next
  rw [Busy.next_of_heard (w := ⟨"Account", _⟩) rfl hheard] at hafter hstale
  rw [hafter]
  exact ⟨rfl, rfl, rfl, hstale⟩

end Session
end RecordBridge
