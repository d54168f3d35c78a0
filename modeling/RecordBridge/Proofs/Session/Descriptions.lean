/-
# A description is kept or refused

A session asks for the description of a type that it does not know, and whatever
JSON value comes back, or none, one of two things happens.  If it describes a type,
its catalog is given and kept under the name of the type.  If it does not, the call
fails with an error of the session that tells the first flaw, and the session stays
as it was (`described_or_malformed`).
-/

import RecordBridge.Proofs.Catalog.Descriptions
import RecordBridge.Proofs.Session.Interleaving
import RecordBridge.Proofs.Session.TypeNames

namespace RecordBridge
namespace Session

variable {τ : Type} {t : Transport τ} {s : Session} {u u' : τ} {name : String}

/-- A description comes to its catalog, or to an error with its first flaw. -/
theorem describedCatalog_cases (name : String) (description : Value) :
    (Catalog.IsDescription description ∧ ∃ info, Catalog.ofDescription description = .ok info ∧
      describedCatalog name description = .ok info) ∨
    ∃ flaw, Catalog.FirstFlaw description flaw ∧
      describedCatalog name description = .error (.malformedDescription name flaw) := by
  unfold describedCatalog
  cases h : Catalog.ofDescription description with
  | ok info => exact .inl ⟨Catalog.exists_ofDescription_iff.1 ⟨info, h⟩, info, rfl, rfl⟩
  | error flaw => exact .inr ⟨flaw, Catalog.ofDescription_eq_error_iff.1 h, rfl⟩

/-- **A description is kept or refused.**  A type of a proper name that is not known is
asked for once, and whatever a reply with status 200 holds, its catalog is given and kept,
or the call fails with an error of the session and the session stays as it was. -/
theorem described_or_malformed {reply : Reply} {description : Value} (hname : IsProperName name)
    (hunknown : s.catalogs.get? name = none)
    (hsent : Flow.outcome (t.send (s.describeRequest name)) u = (.ok (.ok reply), u'))
    (hstatus : reply.status = 200) (hbody : reply.Holds description) :
    (Catalog.IsDescription description ∧ ∃ info, Catalog.ofDescription description = .ok info ∧
      Flow.outcome (catalog t name) (s, u) = (.ok info, (s.keep name info, u')) ∧
        (s.keep name info).catalogs.get? name = some info) ∨
    ∃ flaw, Catalog.FirstFlaw description flaw ∧
      Flow.outcome (catalog t name) (s, u)
        = (.error (.session (.malformedDescription name flaw)), (s, u')) := by
  have hlookUp : s.lookUp name = .unknown := by
    simp only [lookUp, hunknown, isTypeName_iff.2 (.inl hname), if_true]
  have hheard : heard name (.ok (.ok reply))
      = (describedCatalog name description).mapError Failure.session := by
    rw [heard, bodyIn_eq_ok_iff.2 ⟨reply, rfl, hstatus, hbody⟩]
    rfl
  rw [outcome_catalog_unknown hlookUp hsent, hheard]
  obtain ⟨hshape, info, hinfo, hdescribed⟩ | ⟨flaw, hflaw, hdescribed⟩ :=
    describedCatalog_cases name description
  · rw [hdescribed]
    exact .inl ⟨hshape, info, hinfo, rfl, Entries.get?_set_self _ _ _⟩
  · rw [hdescribed]
    exact .inr ⟨flaw, hflaw, rfl⟩

/-- A description in which the second field has a list for a name. -/
def listedName : Value :=
  .object [("name", .text "Account"),
    ("fields", .list [.object [("name", .text "Id")], .object [("name", .list [.text "x"])]])]

/-- The reply that holds it. -/
def listedNameReply : Reply where
  status := 200
  body :=
    let text :=
      "\x7b\"name\":\"Account\",\"fields\":[\x7b\"name\":\"Id\"\x7d,\x7b\"name\":[\"x\"]\x7d]\x7d"
    text.toList.flatMap String.utf8EncodeChar

/-- A transport that has this reply for every request. -/
def listedNameTransport : Transport Unit := ⟨fun _ => pure (.ok listedNameReply)⟩

/-- A session that knows nothing yet. -/
def freshSession : Session := ofConfig { instanceUrl := "https://x", accessToken := "first" }

/-- `described_or_malformed` for that description: the session fails and knows nothing. -/
theorem described_or_malformed_listedName :
    IsProperName "Account" ∧ freshSession.catalogs.get? "Account" = none ∧
      Flow.outcome (listedNameTransport.send (freshSession.describeRequest "Account")) ()
        = (.ok (.ok listedNameReply), ()) ∧
      listedNameReply.status = 200 ∧ listedNameReply.Holds listedName ∧
      Flow.outcome (catalog listedNameTransport "Account") (freshSession, ())
        = (.error (.session (.malformedDescription "Account" (.notAKey "list"))),
            (freshSession, ())) := by
  have hname : IsProperName "Account" := by decide
  have hholds : listedNameReply.Holds listedName := Reply.holds_of_parse (by decide +kernel)
  have hflaw : Catalog.ofDescription listedName = .error (.notAKey "list") := rfl
  refine ⟨hname, rfl, rfl, rfl, hholds, ?_⟩
  obtain ⟨-, info, hinfo, -⟩ | ⟨flaw, hfirst, houtcome⟩ :=
    described_or_malformed (s := freshSession) (t := listedNameTransport) (u := ()) hname rfl rfl
      rfl hholds
  · exact absurd (hinfo.symm.trans hflaw) Outcome.ok_ne_error
  · obtain rfl := Except.error.inj (hflaw.symm.trans (Catalog.ofDescription_eq_error_iff.2 hfirst))
    exact houtcome

end Session
end RecordBridge
