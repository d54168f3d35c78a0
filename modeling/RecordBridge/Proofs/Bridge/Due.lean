/-
# When deletions are asked for

The call for deletions stands behind everything else: behind the answer to the
compiled request, with the expected status, whose records could all be made
generic (`Works.due`).  This holds of every submission, also of one that fails
in the end.
-/

import RecordBridge.Proofs.Bridge.Delivery

namespace RecordBridge

namespace Bridge

variable {settings : Settings} {submission : Submission} {catalog : Catalog} {c : Compiled}
  {r : Request} {e : Envelope} {events : List Event}

/-- Events behind which the deletions of a delta are due: the compiled request
was answered as expected, and the records in the answer could be made generic. -/
inductive Due (settings : Settings) (submission : Submission) : List Event → Prop
  | intro {sent : List Event} {catalog : Catalog} {c : Compiled} {r : Request} {answer : Answer}
    {since now : Int} {records : List Object}
    (hsent : Sent settings submission sent catalog c r answer)
    (hstatus : answer.status = r.expectedStatus)
    (hrecords : Record.materialize settings.recordMapping catalog (answer.field "records")
      = .ok records)
    (hsince : c.deltaSince = some since) : Due settings submission (sent ++ [.clock (.ok now)])

/-- The one call for deletions at the end of events is behind all the others. -/
theorem eq_of_append_feed {x y : Event} (hx : x.isFeed = true) {front before after : List Event}
    (hfront : front.any Event.isFeed = false) (h : front ++ [y] = before ++ x :: after) :
    before = front := by
  induction front generalizing before with
  | nil =>
    cases before with
    | nil => rfl
    | cons z zs =>
      obtain ⟨-, hnil⟩ := List.cons.inj h
      exact absurd hnil.symm (by simp)
  | cons w ws ih =>
    rw [List.any_cons, Bool.or_eq_false_iff] at hfront
    cases before with
    | nil =>
      obtain ⟨rfl, -⟩ := List.cons.inj h
      exact nomatch hx.symm.trans hfront.1
    | cons z zs =>
      obtain ⟨rfl, htail⟩ := List.cons.inj h
      rw [ih hfront.2 htail]

theorem Due.of_events {sent before after : List Event} {answer : Answer} {records : List Object}
    {since now : Int} {x y : Event} (hsent : Sent settings submission sent catalog c r answer)
    (hstatus : answer.status = r.expectedStatus)
    (hrecords : Record.materialize settings.recordMapping catalog (answer.field "records")
      = .ok records)
    (hsince : c.deltaSince = some since) (hx : x.isFeed = true)
    (h : sent ++ [.clock (.ok now)] ++ [y] = before ++ x :: after) :
    Due settings submission before := by
  have hfront : (sent ++ [Event.clock (.ok now)]).any Event.isFeed = false := by
    obtain ⟨_, _, _⟩ := hsent
    rfl
  rw [eq_of_append_feed hx hfront h]
  exact .intro hsent hstatus hrecords hsince

/-- An answer that was taken over for a delta holds records. -/
theorem TakesOver.materialized {answer : Answer} {e' : Envelope} {typeName : String}
    {o : Operation} {since : Int} (h : TakesOver settings catalog r answer e (.ok e'))
    (hrequest : Compile.IsRequest typeName (Compile.methodOf? o) c) (ha : c.action = .request r)
    (hsince : c.deltaSince = some since) :
    ∃ records, Record.materialize settings.recordMapping catalog (answer.field "records")
      = .ok records := by
  cases h with
  | page _ hrecords => exact ⟨_, hrecords⟩
  | written hmethod =>
    obtain ⟨r', hr, hm⟩ := hrequest.action_eq
    obtain rfl := Action.request.inj (ha.symm.trans hr)
    have hne : Compile.methodOf? o ≠ some .get := by
      rw [← hm]
      intro hget
      exact hmethod (Option.some.inj hget)
    exact nomatch (hrequest.full hne).symm.trans hsince

/-- **Deletions are asked for only when they are due**, whatever comes of the
submission. -/
theorem Works.due {before after : List Event} {x : Event} {outcome : Except Failure Envelope}
    (h : Works settings submission events outcome) (hx : x.isFeed = true)
    (hevents : events = before ++ x :: after) : Due settings submission before := by
  have hany : events.any Event.isFeed = true := by
    rw [hevents, List.any_append, List.any_cons, hx, Bool.true_or, Bool.or_true]
  cases h with
  | malformed _ => exact absurd hany Bool.false_ne_true
  | unknown _ _ => exact absurd hany Bool.false_ne_true
  | invocation _ _ h =>
    cases h with
    | refused _ => exact absurd hany Bool.false_ne_true
    | compiled _ _ h => cases h <;> exact absurd hany Bool.false_ne_true
  | unresolved _ _ _ => exact absurd hany Bool.false_ne_true
  | resolved hread ho hne h =>
    cases h with
    | clockFailed => exact absurd hany Bool.false_ne_true
    | refused _ => exact absurd hany Bool.false_ne_true
    | compiled hc ha h =>
      cases h with
      | unsent h => cases h <;> exact absurd hany Bool.false_ne_true
      | unreadable h _ =>
        obtain ⟨rfl, -⟩ := h.of_ok
        exact absurd hany Bool.false_ne_true
      | answered h ht hadd =>
        obtain ⟨rfl, hstatus⟩ := h.of_ok
        have hrequest := Compile.compile_isRequest ho hne hc
        cases hadd with
        | full _ => exact absurd hany Bool.false_ne_true
        | clockFailed _ => exact absurd hany Bool.false_ne_true
        | windowFailed _ _ => exact absurd hany Bool.false_ne_true
        | feedFailed hsince _ =>
          obtain ⟨records, hrecords⟩ := ht.materialized hrequest ha hsince
          exact .of_events (.intro hread hc ha) hstatus hrecords hsince hx hevents
        | merged hsince _ =>
          obtain ⟨records, hrecords⟩ := ht.materialized hrequest ha hsince
          exact .of_events (.intro hread hc ha) hstatus hrecords hsince hx hevents

end Bridge
end RecordBridge
