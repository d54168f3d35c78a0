/-
# What a session exchanges

A session talks to the remote system by exchanges: a request goes out, and a
reply comes back or none does.  A watched transport carries requests as the
transport does and notes each of them with what came of it.

`Talks s x y P` says of one computation of the session `s` that the watched `x`
comes to the same outcome and state as `y`, and that the exchanges it adds, its
outcome and the session afterwards are as `P` says.  It is closed under
sequencing.
-/

import RecordBridge.Proofs.Outcome
import RecordBridge.Session.Documents

namespace RecordBridge
namespace Session

variable {τ α β : Type}

/-- A request and what came of it. -/
structure Exchange where
  request : HttpRequest
  answer : Except Failure (Except NoAnswer Reply)

/-- The transport with a record of its exchanges. -/
def Transport.watched (t : Transport τ) : Transport (τ × List Exchange) where
  send r := fun s =>
    let (out, u) := t.send r s.1
    (out, (u, s.2 ++ [⟨r, out.result⟩]))

/-- A watched computation of a session beside the computation itself. -/
def Talks (s : Session) (x : Over (τ × List Exchange) α) (y : Over τ α)
    (P : List Exchange → Except Failure α → Session → Prop) : Prop :=
  ∀ u events, ∃ new s' u', x (s, (u, events)) = ((y (s, u)).1, (s', (u', events ++ new))) ∧
    (y (s, u)).2 = (s', u') ∧ P new (y (s, u)).1.result s'

/-- The reply in what came of a request; without one the session fails. -/
def replyIn (method resource : String) :
    Except Failure (Except NoAnswer Reply) → Except Failure Reply
  | .ok (.ok reply) => .ok reply
  | .ok (.error e) => .error (.session (.noAnswer method resource e.reason e.detail))
  | .error f => .error f

/-- Whether a value is what a reply holds: null if its body is empty, and otherwise the
JSON value in it. -/
def Reply.Holds (reply : Reply) (v : Value) : Prop :=
  if reply.body = [] then v = .null else Json.parseBytes? reply.body = some v

theorem Reply.Holds.null_or_parse {reply : Reply} {v : Value} (h : reply.Holds v) :
    v = .null ∨ Json.parseBytes? reply.body = some v := by
  unfold Reply.Holds at h
  split at h
  · exact .inl h
  · exact .inr h

theorem Reply.holds_of_parse {reply : Reply} {v : Value}
    (h : Json.parseBytes? reply.body = some v) : reply.Holds v := by
  unfold Reply.Holds
  split
  · next hempty =>
    have hnone : Json.parseBytes? [] = none := by decide
    rw [hempty, hnone] at h
    exact absurd h.symm (Option.some_ne_none v)
  · exact h

theorem replyIn_eq_ok_iff {method resource : String}
    {answer : Except Failure (Except NoAnswer Reply)} {reply : Reply} :
    replyIn method resource answer = .ok reply ↔ answer = .ok (.ok reply) := by
  rcases answer with f | e | r <;> simp [replyIn]

theorem answerOf_eq_ok_iff {method resource : String} {reply : Reply} {a : Answer} :
    answerOf method resource reply = .ok a ↔ a.status = reply.status ∧ reply.Holds a.body := by
  obtain ⟨status, body⟩ := a
  unfold answerOf Reply.Holds
  by_cases hempty : reply.body = []
  · simp [hempty, eq_comm]
  · have hbody : reply.body.isEmpty = false := by simpa using hempty
    cases hparse : Json.parseBytes? reply.body <;> simp [hempty, hbody, eq_comm]

theorem bodyOf_eq_ok_iff {method resource : String} {expected : Int} {a : Answer} {body : Value} :
    bodyOf method resource expected a = .ok body ↔ a.status = expected ∧ a.body = body := by
  unfold bodyOf
  split
  · next hstatus => simp [hstatus]
  · next hstatus =>
    refine iff_of_false (fun h => ?_) fun h => hstatus h.1
    split at h
    all_goals exact nomatch h

/-- The answer in what came of a request. -/
def answerIn (method resource : String) (answer : Except Failure (Except NoAnswer Reply)) :
    Except Failure Answer := do
  let reply ← replyIn method resource answer
  (answerOf method resource reply).mapError Failure.session

/-- The body in what came of a request, where a status is expected. -/
def bodyIn (method resource : String) (expected : Int)
    (answer : Except Failure (Except NoAnswer Reply)) : Except Failure Value := do
  let a ← answerIn method resource answer
  bodyOf method resource expected a

/-- An expected body is what a reply with the expected status holds. -/
theorem bodyIn_eq_ok_iff {method resource : String} {expected : Int}
    {answer : Except Failure (Except NoAnswer Reply)} {body : Value} :
    bodyIn method resource expected answer = .ok body ↔
      ∃ reply, answer = .ok (.ok reply) ∧ reply.status = expected ∧ reply.Holds body := by
  simp only [bodyIn, answerIn, Outcome.bind_eq_ok_iff, Outcome.mapError_eq_ok_iff,
    replyIn_eq_ok_iff, answerOf_eq_ok_iff, bodyOf_eq_ok_iff]
  constructor
  · rintro ⟨a, ⟨reply, hanswer, hstatus, hbody⟩, hexpected, rfl⟩
    exact ⟨reply, hanswer, hstatus.symm.trans hexpected, hbody⟩
  · rintro ⟨reply, hanswer, hstatus, hbody⟩
    exact ⟨⟨reply.status, body⟩, ⟨reply, hanswer, rfl, hbody⟩, hstatus, rfl⟩

/-- A request is sent once, by the session as it is. -/
theorem exchange_apply {t : Transport τ} {method resource : String} {body : Option Object}
    {s : Session} {u u' : τ} {answer : Except Failure (Except NoAnswer Reply)}
    {log : List LogRecord}
    (h : t.send (s.httpRequest method resource body) u = (⟨answer, log⟩, u')) :
    exchange t method resource body (s, u) = (⟨replyIn method resource answer, log⟩, (s, u')) := by
  rcases answer with f | e | reply
  · simp only [exchange, bind, Flow.andThen, current, Flow.get, pure, Flow.onSnd, h, replyIn,
      List.nil_append]
  · simp only [exchange, bind, Flow.andThen, current, Flow.get, pure, Flow.onSnd, h, replyIn,
      List.nil_append, Flow.fail, Flow.ofTraced, Traced.fail, List.append_nil]
  · simp only [exchange, bind, Flow.andThen, current, Flow.get, pure, Flow.onSnd, h, replyIn,
      List.nil_append, List.append_nil]

namespace Talks

variable {s : Session} {P : List Exchange → Except Failure β → Session → Prop}
  {x : Over (τ × List Exchange) β} {y : Over τ β} {f : α → Over (τ × List Exchange) β}
  {g : α → Over τ β}

theorem ofTraced {out : Traced β} (h : P [] out.result s) :
    Talks (τ := τ) s (Flow.ofTraced out) (Flow.ofTraced out) P := by
  intro u events
  refine ⟨[], s, u, ?_, rfl, h⟩
  rw [List.append_nil]
  rfl

/-- A weaker description is a description. -/
theorem mono {Q : List Exchange → Except Failure β → Session → Prop} (h : Talks s x y Q)
    (hQ : ∀ new r s', Q new r s' → P new r s') : Talks s x y P := by
  intro u events
  obtain ⟨new, s', u', hx, hy, hnew⟩ := h u events
  exact ⟨new, s', u', hx, hy, hQ new _ s' hnew⟩

/-- Two descriptions are a description. -/
theorem and {Q : List Exchange → Except Failure β → Session → Prop} (h : Talks s x y P)
    (h' : Talks s x y Q) : Talks s x y fun new r s' => P new r s' ∧ Q new r s' := by
  intro u events
  obtain ⟨new, s', u', hx, hy, hP⟩ := h u events
  obtain ⟨new', s'', u'', hx', hy', hQ⟩ := h' u events
  have hstate : s' = s'' ∧ u' = u'' := Prod.mk.inj (hy.symm.trans hy')
  have hevents : (u', events ++ new) = (u'', events ++ new') :=
    (Prod.mk.inj (Prod.mk.inj (hx.symm.trans hx')).2).2
  obtain rfl : new = new' := List.append_cancel_left (Prod.mk.inj hevents).2
  obtain ⟨rfl, rfl⟩ := hstate
  exact ⟨new, s', u', hx, hy, hP, hQ⟩

/-- **Talk goes through a sequence.**  The exchanges of the second part are
behind those of the first; a failure of the first is the end. -/
theorem bind {Q : List Exchange → Except Failure α → Session → Prop}
    {x : Over (τ × List Exchange) α} {y : Over τ α} (hx : Talks s x y Q)
    (hok : ∀ first a s', Q first (.ok a) s' →
      Talks s' (f a) (g a) fun new r s'' => P (first ++ new) r s'')
    (herror : ∀ first e s', Q first (.error e) s' → P first (.error e) s') :
    Talks s (x >>= f) (y >>= g) P := by
  intro u events
  obtain ⟨first, s', u', hfirst, hstate, hQ⟩ := hx u events
  have hy : y (s, u) = ((y (s, u)).1, (s', u')) := by rw [← hstate]
  rw [Flow.andThen_apply hfirst, Flow.andThen_apply hy]
  cases hr : (y (s, u)).1.result with
  | error e =>
    rw [hr] at hQ
    exact ⟨first, s', u', rfl, rfl, herror first e s' hQ⟩
  | ok a =>
    rw [hr] at hQ
    obtain ⟨new, s'', u'', hnew, hstate', hP⟩ := hok first a s' hQ u' (events ++ first)
    refine ⟨first ++ new, s'', u'', ?_, hstate', hP⟩
    simp only [hnew, List.append_assoc]

/-- Sequencing behind an outcome without exchanges. -/
theorem ofTraced_bind {out : Traced α} (hok : ∀ a, out.result = .ok a → Talks s (f a) (g a) P)
    (herror : ∀ e, out.result = .error e → P [] (.error e) s) :
    Talks s (Flow.ofTraced out >>= f) (Flow.ofTraced out >>= g) P := by
  refine bind (Q := fun first r s' => first = [] ∧ r = out.result ∧ s' = s)
    (ofTraced ⟨rfl, rfl, rfl⟩) ?_ ?_
  · rintro first a s' ⟨rfl, ha, rfl⟩
    exact hok a ha.symm
  · rintro first e s' ⟨rfl, he, rfl⟩
    exact herror e he.symm

/-- Sequencing behind a log record. -/
theorem log_bind {level : Level} {source : Source} {text : String}
    {f : Unit → Over (τ × List Exchange) β} {g : Unit → Over τ β} (h : Talks s (f ()) (g ()) P) :
    Talks s (Flow.log level source text >>= f) (Flow.log level source text >>= g) P :=
  ofTraced_bind (fun _ _ => h) fun _ he => nomatch he

/-- Looking at the session is no exchange. -/
theorem current_bind {f : Session → Over (τ × List Exchange) β} {g : Session → Over τ β}
    (h : Talks s (f s) (g s) P) : Talks s (current >>= f) (current >>= g) P := by
  intro u events
  rw [Flow.andThen_apply (show current (s, (u, events)) = (⟨.ok s, []⟩, (s, (u, events))) from rfl),
    Flow.andThen_apply (show current (s, u) = (⟨.ok s, []⟩, (s, u)) from rfl)]
  exact h u events

/-- A change of the session is no exchange. -/
theorem update_bind {change : Session → Session} {f : Unit → Over (τ × List Exchange) β}
    {g : Unit → Over τ β} (h : Talks (change s) (f ()) (g ()) P) :
    Talks s (update change >>= f) (update change >>= g) P := by
  intro u events
  rw [Flow.andThen_apply
      (show update change (s, (u, events)) = (⟨.ok (), []⟩, (change s, (u, events))) from rfl),
    Flow.andThen_apply (show update change (s, u) = (⟨.ok (), []⟩, (change s, u)) from rfl)]
  exact h u events

/-- A request is one exchange, and its reply is the outcome. -/
theorem exchange (t : Transport τ) (method resource : String) (body : Option Object) :
    Talks s (Session.exchange t.watched method resource body)
      (Session.exchange t method resource body) fun new r s' =>
        s' = s ∧ ∃ answer, new = [⟨s.httpRequest method resource body, answer⟩] ∧
          r = replyIn method resource answer := by
  intro u events
  obtain ⟨⟨answer, log⟩, u', hsend⟩ :
      ∃ out u', t.send (s.httpRequest method resource body) u = (out, u') := ⟨_, _, rfl⟩
  have hwatched : t.watched.send (s.httpRequest method resource body) (u, events)
      = (⟨answer, log⟩, (u', events ++ [⟨s.httpRequest method resource body, answer⟩])) := by
    simp only [Transport.watched, hsend]
  rw [exchange_apply hsend, exchange_apply hwatched]
  exact ⟨_, s, u', rfl, rfl, rfl, answer, rfl, rfl⟩

/-- The answer to a request comes from the reply of one exchange. -/
theorem request (t : Transport τ) (method resource : String) (body : Option Object) :
    Talks s (Session.request t.watched method resource body)
      (Session.request t method resource body) fun new r s' =>
        s' = s ∧ ∃ answer, new = [⟨s.httpRequest method resource body, answer⟩] ∧
          r = answerIn method resource answer := by
  refine bind (exchange t method resource body) ?_ ?_
  · rintro _ reply _ ⟨rfl, answer, rfl, hr⟩
    refine ofTraced_bind (fun _ _ => ofTraced ⟨rfl, answer, rfl, ?_⟩) fun _ he => nomatch he
    rw [answerIn, ← hr]
    rfl
  · rintro _ e _ ⟨rfl, answer, rfl, hr⟩
    refine ⟨rfl, answer, rfl, ?_⟩
    rw [answerIn, ← hr]
    rfl

/-- The expected body comes from the reply of one exchange. -/
theorem expect (t : Transport τ) (method resource : String) (expected : Int)
    (body : Option Object) :
    Talks s (Session.expect t.watched method resource expected body)
      (Session.expect t method resource expected body) fun new r s' =>
        s' = s ∧ ∃ answer, new = [⟨s.httpRequest method resource body, answer⟩] ∧
          r = bodyIn method resource expected answer := by
  refine bind (request t method resource body) ?_ ?_
  · rintro _ a _ ⟨rfl, answer, rfl, hr⟩
    refine ofTraced ⟨rfl, answer, rfl, ?_⟩
    rw [bodyIn, ← hr]
    rfl
  · rintro _ e _ ⟨rfl, answer, rfl, hr⟩
    refine ⟨rfl, answer, rfl, ?_⟩
    rw [bodyIn, ← hr]
    rfl

end Talks

/-- What a watched computation of a session exchanges, from a state of the transport on. -/
def exchangesOf (x : Over (τ × List Exchange) α) (s : Session) (u : τ) : List Exchange :=
  (x (s, (u, []))).2.2.2

/-- A description holds of what is exchanged, of the outcome and of the session afterwards. -/
theorem Talks.exchangesOf {s : Session} {x : Over (τ × List Exchange) α} {y : Over τ α}
    {P : List Exchange → Except Failure α → Session → Prop} (h : Talks s x y P) (u : τ) :
    P (Session.exchangesOf x s u) (y (s, u)).1.result (y (s, u)).2.1 := by
  obtain ⟨new, s', u', hx, hy, hP⟩ := h u []
  rw [Session.exchangesOf, hx, hy]
  exact hP

end Session
end RecordBridge
