/-
# What a session knows about types was told to it

The catalogs of a session are what the remote system says about types to the
caller with the credentials of the session.  `Coherent` says so of a history of
turns: at every point each catalog comes from a description that was asked for
and answered since the credentials were given, and with these credentials; a
type is not described again while they last; and nothing else, and no failure,
touches the catalogs.

`coherent_turns` proves it for whatever operations a session works off and
whatever is answered.  The invariant (`exists_describes`) is proved turn by
turn, from the last one.
-/

import Mathlib.Data.List.Induction
import RecordBridge.Proofs.Session.Turns
import RecordBridge.Proofs.Value.Entries

namespace RecordBridge
namespace Session

variable {τ : Type}

/-! ### Credentials -/

/-- Who a session speaks for, and where. -/
structure Credentials where
  accessToken : String
  instanceUrl : String

/-- The credentials that a session is opened with. -/
def Config.credentials (c : Config) : Credentials := ⟨c.accessToken, dropFinalSlashes c.instanceUrl⟩

/-- The credentials behind an operation: new ones bring a token, and an address
unless it is empty. -/
def Credentials.after (c : Credentials) : Call → Credentials
  | .updateCredentials accessToken none => ⟨accessToken, c.instanceUrl⟩
  | .updateCredentials accessToken (some url) =>
    ⟨accessToken, if url = "" then c.instanceUrl else dropFinalSlashes url⟩
  | _ => c

/-- The credentials behind turns of a session. -/
def credentialsAfter (config : Config) (past : List Turn) : Credentials :=
  (past.map (·.call)).foldl Credentials.after config.credentials

/-- The credentials of a session. -/
def credentials (s : Session) : Credentials := ⟨s.accessToken, s.instanceUrl⟩

variable {s s' : Session} {call : Call} {exchanges : List Exchange} {r : Except Failure Returned}

theorem Credentials.after_of_not_login (c : Credentials) (h : call.isLogin = false) :
    c.after call = c := by
  cases call with
  | updateCredentials => exact nomatch h
  | _ => rfl

/-- New credentials are those that were given. -/
theorem credentials_step (h : Step s call exchanges r s') :
    s'.credentials = s.credentials.after call ∧ s'.resourceRoot = s.resourceRoot := by
  cases h with
  | @login accessToken url =>
    refine ⟨?_, rfl⟩
    cases url with
    | none => rfl
    | some url => simp only [credentials, withCredentials, Credentials.after, String.isEmpty_iff]
  | other hlogin => exact ⟨(Credentials.after_of_not_login _ hlogin).symm, rfl⟩
  | _ => exact ⟨rfl, rfl⟩

theorem credentialsAfter_append_singleton (config : Config) (past : List Turn) (turn : Turn) :
    credentialsAfter config (past ++ [turn]) = (credentialsAfter config past).after turn.call := by
  rw [credentialsAfter, List.map_append, List.foldl_append]
  rfl

/-- The credentials of a session are the last ones that were given. -/
theorem credentials_sessionAfter {config : Config} {past : List Turn}
    (h : Chained (ofConfig config) past) :
    (sessionAfter (ofConfig config) past).credentials = credentialsAfter config past ∧
      (sessionAfter (ofConfig config) past).resourceRoot = config.resourceRoot := by
  induction past using List.reverseRecOn with
  | nil => exact ⟨rfl, rfl⟩
  | append_singleton past turn ih =>
    obtain ⟨hpast, -, hstep, -⟩ := chained_append.1 h
    obtain ⟨hcredentials, hroot⟩ := ih hpast
    obtain ⟨hafter, hsame⟩ := credentials_step hstep
    rw [sessionAfter_append, credentialsAfter_append_singleton, ← hcredentials, ← hroot]
    exact ⟨hafter, hsame⟩

/-! ### Descriptions -/

/-- The request for the description of a type, made with credentials. -/
def descriptionRequest (c : Credentials) (apiVersion typeName : String) : HttpRequest where
  method := "GET"
  url := c.instanceUrl ++ "/services/data/v" ++ apiVersion ++ "/sobjects/" ++ typeName
    ++ "/describe/"
  headers := [("Authorization", "Bearer " ++ c.accessToken), ("Accept", "application/json")]

/-- Whether a turn asked for the description of a type with credentials, was
answered, and the description is that of a catalog. -/
def Describes (c : Credentials) (apiVersion typeName : String) (info : Catalog) (turn : Turn) :
    Prop :=
  turn.call = .catalog (some typeName) ∧ ∃ reply description,
    turn.exchanges = [⟨descriptionRequest c apiVersion typeName, .ok (.ok reply)⟩] ∧
      reply.status = 200 ∧ Json.parseBytes? reply.body = some description ∧
      Catalog.ofDescription description = .ok info

theorem url_describeResource (s : Session) (typeName : String) :
    s.url (describeResource typeName)
      = s.instanceUrl ++ (s.resourceRoot ++ describeResource typeName) := by
  have hchars : (describeResource typeName).toList
      = 's' :: ("objects/".toList ++ typeName.toList ++ "/describe/".toList) := by
    rw [describeResource, String.toList_append, String.toList_append]
    rfl
  rw [url, isAbsolute, hchars]
  rfl

theorem describeRequest_eq {config : Config} (h : s.resourceRoot = config.resourceRoot)
    (typeName : String) :
    s.describeRequest typeName = descriptionRequest s.credentials config.apiVersion typeName := by
  have hjoin : ∀ instanceUrl apiVersion : String,
      instanceUrl ++ (("/services/data/v" ++ apiVersion ++ "/")
          ++ ("sobjects/" ++ typeName ++ "/describe/"))
        = instanceUrl ++ "/services/data/v" ++ apiVersion ++ "/sobjects/" ++ typeName
          ++ "/describe/" := by
    intro instanceUrl apiVersion
    have hslash : ("/" : String) ++ "sobjects/" = "/sobjects/" := rfl
    simp only [← hslash, String.append_assoc]
  have hurl : s.url (describeResource typeName)
      = (descriptionRequest s.credentials config.apiVersion typeName).url := by
    rw [url_describeResource, h]
    exact hjoin _ _
  rw [describeRequest, httpRequest, hurl]
  rfl

/-- **Each catalog was described.**  What a session knows about a type comes from
a turn since its credentials were given, and was asked for with them. -/
theorem exists_describes {config : Config} {past : List Turn}
    (h : Chained (ofConfig config) past) {name : String} {info : Catalog}
    (hmem : (name, info) ∈ (sessionAfter (ofConfig config) past).catalogs) :
    ∃ older turn newer, past = older ++ turn :: newer ∧ (∀ x ∈ newer, x.call.isLogin = false) ∧
      Describes (credentialsAfter config past) config.apiVersion name info turn := by
  induction past using List.reverseRecOn with
  | nil => exact nomatch hmem
  | append_singleton past turn ih =>
    obtain ⟨hpast, -, hstep, -⟩ := chained_append.1 h
    obtain ⟨hcredentials, hroot⟩ := credentials_sessionAfter hpast
    -- a catalog that was there before, after a turn without new credentials
    have hkept : turn.call.isLogin = false →
        (name, info) ∈ (sessionAfter (ofConfig config) past).catalogs →
        ∃ older described newer, past ++ [turn] = older ++ described :: newer ∧
          (∀ x ∈ newer, x.call.isLogin = false) ∧
          Describes (credentialsAfter config (past ++ [turn])) config.apiVersion name info
            described := by
      intro hlogin hold
      obtain ⟨older, described, newer, hsplit, hnewer, hdescribes⟩ := ih hpast hold
      refine ⟨older, described, newer ++ [turn], ?_, ?_, ?_⟩
      · rw [hsplit, List.append_assoc, List.cons_append]
      · intro x hx
        obtain hx | hx := List.mem_append.1 hx
        · exact hnewer x hx
        · rwa [List.mem_singleton.1 hx]
      · rwa [credentialsAfter_append_singleton, Credentials.after_of_not_login _ hlogin]
    rw [sessionAfter_append] at hmem
    obtain ⟨call, before, exchanges, outcome, after⟩ := turn
    cases hstep with
    | known hknown => exact hkept rfl hmem
    | refused => exact hkept rfl hmem
    | nameless => exact hkept rfl hmem
    | failed => exact hkept rfl hmem
    | other hlogin => exact hkept hlogin hmem
    | login => exact nomatch hmem
    | described hunknown hname hstatus hbody hinfo =>
      obtain hnew | hold := Entries.mem_set hmem
      · obtain ⟨rfl, rfl⟩ := Prod.mk.inj hnew
        refine ⟨past, _, [], rfl, fun _ hx => (nomatch hx), rfl, _, _, ?_, hstatus, hbody, hinfo⟩
        rw [credentialsAfter_append_singleton, ← hcredentials, describeRequest_eq hroot]
        rfl
      · exact hkept rfl hold

/-! ### Asking once -/

/-- What is known about a type stays known in a turn without new credentials. -/
theorem get?_step {name : String} {info : Catalog} (h : Step s call exchanges r s')
    (hlogin : call.isLogin = false) (hknown : s.catalogs.get? name = some info) :
    s'.catalogs.get? name = some info := by
  cases h with
  | login => exact nomatch hlogin
  | @described other _ _ _ hunknown =>
    have hne : name ≠ other := by
      rintro rfl
      exact nomatch hunknown.symm.trans hknown
    exact (Entries.get?_set_of_ne _ _ hne).trans hknown
  | _ => exact hknown

/-- What is known about a type stays known while the credentials last. -/
theorem get?_sessionAfter {past : List Turn} {name : String} {info : Catalog}
    (h : Chained s past) (hlogin : ∀ x ∈ past, x.call.isLogin = false)
    (hknown : s.catalogs.get? name = some info) :
    (sessionAfter s past).catalogs.get? name = some info := by
  induction past generalizing s with
  | nil => exact hknown
  | cons turn past ih =>
    obtain ⟨-, hstep, hpast⟩ := h
    exact ih hpast (fun x hx => hlogin x (List.mem_cons_of_mem _ hx))
      (get?_step hstep (hlogin turn List.mem_cons_self) hknown)

/-- A catalog that was asked for with success is known afterwards. -/
theorem get?_of_step {name : String} {info : Catalog}
    (h : Step s (.catalog (some name)) exchanges (.ok (.catalog info)) s') :
    s'.catalogs.get? name = some info := by
  cases h with
  | known hknown => exact hknown
  | described => exact Entries.get?_set_self _ _ _
  | other _ hcatalog => exact nomatch hcatalog

/-- What is known is answered without an exchange. -/
theorem step_of_known {name : String} {info : Catalog}
    (hknown : s.catalogs.get? name = some info)
    (h : Step s (.catalog (some name)) exchanges r s') :
    exchanges = [] ∧ r = .ok (.catalog info) := by
  cases h with
  | known h => rw [Option.some.inj (hknown.symm.trans h)]; exact ⟨rfl, rfl⟩
  | refused hunknown => exact nomatch hunknown.symm.trans hknown
  | failed hunknown => exact nomatch hunknown.symm.trans hknown
  | described hunknown => exact nomatch hunknown.symm.trans hknown
  | other _ hcatalog => exact nomatch hcatalog

/-- The requests for a type: one for its description if the type is not known and
may have that name, and none otherwise. -/
def requestsFor (s : Session) : Option String → List HttpRequest
  | some name =>
    if s.catalogs.get? name = none ∧ isTypeName name = true then [s.describeRequest name] else []
  | none => []

theorem requests_step {name : Option String} (h : Step s (.catalog name) exchanges r s') :
    exchanges.map (·.request) = s.requestsFor name := by
  cases h with
  | known hknown =>
    rw [requestsFor, if_neg (fun h => nomatch h.1.symm.trans hknown), List.map_nil]
  | refused hunknown hname =>
    rw [requestsFor, if_neg (fun h => nomatch h.2.symm.trans hname), List.map_nil]
  | nameless => rfl
  | failed hunknown hname => rw [requestsFor, if_pos ⟨hunknown, hname⟩, List.map_singleton]
  | described hunknown hname => rw [requestsFor, if_pos ⟨hunknown, hname⟩, List.map_singleton]
  | other _ hcatalog => exact nomatch hcatalog

/-! ### Coherence -/

/-- A failed turn leaves the catalogs alone. -/
theorem catalogs_of_failure {f : Failure} (h : Step s call exchanges (.error f) s') :
    s'.catalogs = s.catalogs := by
  cases h with
  | _ => rfl

/-- Only a turn about a catalog and one with new credentials touch the catalogs. -/
theorem catalogs_of_other (h : Step s call exchanges r s') (hne : s'.catalogs ≠ s.catalogs) :
    call.asksCatalog = true ∨ call.isLogin = true := by
  cases h with
  | described => exact .inl rfl
  | login => exact .inr rfl
  | _ => exact absurd rfl hne

/-- Whether the catalogs of a session were told to it, throughout a history of
turns from its opening on. -/
structure Coherent (config : Config) (history : List Turn) : Prop where
  /-- Each turn starts from the session behind the turns before it. -/
  before_eq : ∀ past turn later, history = past ++ turn :: later →
    turn.before = sessionAfter (ofConfig config) past
  /-- At every point each catalog is that of a description which was asked for
  with the credentials of that point, after they were given, and answered. -/
  described : ∀ past later, history = past ++ later → ∀ name info,
    (name, info) ∈ (sessionAfter (ofConfig config) past).catalogs →
    ∃ older turn newer, past = older ++ turn :: newer ∧ (∀ x ∈ newer, x.call.isLogin = false) ∧
      Describes (credentialsAfter config past) config.apiVersion name info turn
  /-- A catalog costs one request if its type is not known and may have that
  name, and none otherwise. -/
  asked : ∀ turn ∈ history, ∀ name, turn.call = .catalog name →
    turn.exchanges.map (·.request) = turn.before.requestsFor name
  /-- A catalog that was given is given again without a request while the
  credentials last, so no type is described twice under them. -/
  once : ∀ older first between second newer,
    history = older ++ first :: (between ++ second :: newer) →
    (∀ x ∈ between, x.call.isLogin = false) → ∀ name info,
    first.call = .catalog (some name) → first.outcome = .ok (.catalog info) →
    second.call = .catalog (some name) →
    second.exchanges = [] ∧ second.outcome = .ok (.catalog info)
  /-- A failed turn leaves the catalogs alone. -/
  failed : ∀ turn ∈ history, ∀ f, turn.outcome = .error f →
    turn.after.catalogs = turn.before.catalogs
  /-- So does every turn that neither is about a catalog nor brings credentials. -/
  changed : ∀ turn ∈ history, turn.after.catalogs ≠ turn.before.catalogs →
    turn.call.asksCatalog = true ∨ turn.call.isLogin = true

/-- In turns that go by the rules each one does. -/
theorem step_of_mem {history : List Turn} (h : Chained s history) {turn : Turn}
    (hturn : turn ∈ history) :
    Step turn.before turn.call turn.exchanges turn.outcome turn.after := by
  induction history generalizing s with
  | nil => exact nomatch hturn
  | cons first history ih =>
    obtain ⟨hbefore, hstep, hlater⟩ := h
    obtain rfl | hturn := List.mem_cons.1 hturn
    · rwa [hbefore]
    · exact ih hlater hturn

theorem coherent_of_chained {config : Config} {history : List Turn}
    (h : Chained (ofConfig config) history) : Coherent config history where
  before_eq := by
    rintro past turn later rfl
    exact (chained_append.1 h).2.1
  described := by
    rintro past later rfl name info hmem
    exact exists_describes (chained_append.1 h).1 hmem
  asked := by
    intro turn hturn name hcall
    have hstep := step_of_mem h hturn
    rw [hcall] at hstep
    exact requests_step hstep
  once := by
    rintro older first between second newer rfl hlogin name info hfirst hgiven hsecond
    obtain ⟨-, -, hstep, hlater⟩ := chained_append.1 h
    obtain ⟨hbetween, -, hagain, -⟩ := chained_append.1 hlater
    rw [hfirst, hgiven] at hstep
    rw [hsecond] at hagain
    exact step_of_known (get?_sessionAfter hbetween hlogin (get?_of_step hstep)) hagain
  failed := by
    intro turn hturn f hfailed
    have hstep := step_of_mem h hturn
    rw [hfailed] at hstep
    exact catalogs_of_failure hstep
  changed _ hturn := catalogs_of_other (step_of_mem h hturn)

/-- **The catalogs of a session are coherent.**  Whatever operations a session
works off from its opening on, and whatever is answered to its requests or not
answered, its catalogs were told to it. -/
theorem coherent_turns (config : Config) (t : Transport τ) (calls : List Call) (u : τ) :
    Coherent config (turns t calls (ofConfig config) u) :=
  coherent_of_chained (chained_turns t calls (ofConfig config) u)

/-- A transport that has one description for every request. -/
def accountTransport : Transport Unit where
  send _ :=
    let text := "\x7b\"name\":\"Account\",\"fields\":[]\x7d"
    pure (.ok ⟨200, text.toList.flatMap String.utf8EncodeChar⟩)

/-- A type is described again only after new credentials. -/
example :
    (turns accountTransport
        [.catalog (some "Account"), .catalog (some "Account"), .updateCredentials "next" none,
          .catalog (some "Account")]
        (ofConfig { instanceUrl := "https://x/", accessToken := "first" }) ()).map
      (fun turn => (turn.exchanges.length, turn.after.catalogs.keys))
      = [(1, ["Account"]), (0, ["Account"]), (0, []), (1, ["Account"])] := by
  decide +kernel

end Session
end RecordBridge
