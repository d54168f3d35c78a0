/-
# Where a request goes

A request goes below the address of the remote system (`Below`), unless its
resource is an address of its own.  What a directive is compiled to asks for such
a resource only as the cursor of a selection (`Compile.Resolves`).
-/

import RecordBridge.Proofs.Compile.Requests
import RecordBridge.Compile.Basic
import RecordBridge.Proofs.Session.Coherence

namespace RecordBridge

namespace Compile

variable {settings : Settings} {catalog : Catalog} {now : Int} {d : Directive} {c : Compiled}

/-- Whether what a directive was compiled to asks for a resource of an address of its
own only as the cursor of a selection, and invokes what the directive does. -/
structure Resolves (settings : Settings) (d : Directive) (c : Compiled) : Prop where
  cursor : ∀ r, c.action = .request r → Session.isAbsolute r.resource = true →
    operationOf d = .ok .select ∧ d.options.cursorId = some r.resource
  invoked : ∀ i, c.action = .invoke i →
    operationOf d = .ok .invoke ∧ invocation settings d = .ok i

theorem Resolves.ofRelative {r : Request} (h : c.action = .request r)
    (hrelative : Session.isAbsolute r.resource = false) : Resolves settings d c where
  cursor r' h' habsolute := by
    obtain rfl := Action.request.inj (h.symm.trans h')
    exact nomatch hrelative.symm.trans habsolute
  invoked i h' := nomatch h.symm.trans h'

theorem isAbsolute_recordResource (typeName id : String) :
    Session.isAbsolute (recordResource typeName id) = false := by
  simp only [recordResource, String.append_assoc]
  exact Session.isAbsolute_sobjects _

theorem resolves_compileSelect {properties : Option (List String)} {warnings : List Warning}
    (ho : operationOf d = .ok .select)
    (h : (compileSelect settings catalog now d properties warnings).result = .ok c) :
    Resolves settings d c := by
  obtain ⟨cursor, hcursor, h⟩ | ⟨-, ps, -, -, h⟩ := compileSelect_eq_ok_iff.1 h
  · obtain rfl := Except.ok.inj h
    refine ⟨fun r hr _ => ?_, fun i hi => nomatch hi⟩
    obtain rfl := Action.request.inj hr
    exact ⟨ho, (Option.filter_eq_some_iff.1 hcursor).1⟩
  · obtain ⟨bound, condition, -, -, rfl⟩ := eq_firstPage_of_compileQuery h
    exact .ofRelative rfl (Session.isAbsolute_query _)

theorem resolves_compileWrite {properties : Option (List String)} {warnings : List Warning}
    {capability : Catalog.Capability} {method : Method} {resource : String} {status : Int}
    (hrelative : Session.isAbsolute resource = false)
    (h : (compileWrite catalog d properties warnings capability method resource status).result
      = .ok c) : Resolves settings d c := by
  obtain ⟨values, -, rfl⟩ := compileWrite_eq_ok_iff.1 h
  exact .ofRelative rfl hrelative

theorem resolves_compileInvoke (ho : operationOf d = .ok .invoke)
    (h : (compileInvoke settings d).result = .ok c) : Resolves settings d c := by
  obtain ⟨i, hi, rfl⟩ := compileInvoke_eq_ok_iff.1 h
  refine ⟨fun r hr => (nomatch hr), fun i' hi' => ?_⟩
  obtain rfl := Action.invoke.inj hi'
  exact ⟨ho, hi⟩

theorem resolves_compile (h : (compile settings catalog now d).result = .ok c) :
    Resolves settings d c := by
  cases ho : operationOf d with
  | error e =>
    rw [result_unknown ho] at h
    cases h
  | ok o =>
    cases o with
    | select =>
      rw [result_select ho] at h
      exact resolves_compileSelect ho h
    | insert =>
      rw [result_insert ho] at h
      refine resolves_compileWrite ?_ h
      rw [String.append_assoc]
      exact Session.isAbsolute_sobjects _
    | update =>
      rw [result_update ho] at h
      obtain ⟨id, -, h⟩ := Outcome.bind_eq_ok_iff.1 h
      exact resolves_compileWrite (isAbsolute_recordResource _ _) h
    | delete =>
      rw [result_delete ho] at h
      obtain ⟨id, -, h⟩ := Outcome.bind_eq_ok_iff.1 h
      obtain rfl := Except.ok.inj h
      exact .ofRelative rfl (isAbsolute_recordResource _ _)
    | invoke =>
      rw [result_invoke ho] at h
      exact resolves_compileInvoke ho h

end Compile

namespace Session

/-- Whether an address is below another one. -/
def Below (base url : String) : Prop := ∃ rest, url = base ++ "/" ++ rest

theorem Below.toList {base url : String} (h : Below base url) :
    base.toList <+: url.toList := by
  obtain ⟨rest, rfl⟩ := h
  rw [String.append_assoc, String.toList_append]
  exact List.prefix_append _ _

/-- The headers of every request with credentials. -/
def Credentials.headers (c : Credentials) : List (String × String) :=
  [("Authorization", "Bearer " ++ c.accessToken), ("Accept", "application/json")]

/-- Whether a request with credentials goes below their address, or to an address of
its own that was given. -/
def Aimed (c : Credentials) (given : String → Prop) (r : HttpRequest) : Prop :=
  r.headers = c.headers ∧
    (Below c.instanceUrl r.url ∨ isAbsolute r.url = true ∧ given r.url)

theorem Config.resourceRoot_eq (config : Config) :
    config.resourceRoot = "/" ++ ("services/data/v" ++ config.apiVersion ++ "/") := by
  have hslash : ("/" : String) ++ "services/data/v" = "/services/data/v" := rfl
  -- by `rfl`, as Lean takes long to make the equation lemma of the definition
  have hroot : config.resourceRoot = "/services/data/v" ++ config.apiVersion ++ "/" := rfl
  simp only [hroot, ← hslash, String.append_assoc]

theorem aimed_httpRequest {s : Session} {c : Credentials} {config : Config}
    {method resource : String} {body : Option Object} {given : String → Prop}
    (hs : s.credentials = c) (hroot : s.resourceRoot = config.resourceRoot)
    (h : isAbsolute resource = true → given resource) :
    Aimed c given (s.httpRequest method resource body) := by
  subst hs
  refine ⟨rfl, ?_⟩
  show Below s.instanceUrl (s.url resource) ∨ isAbsolute (s.url resource) = true ∧
    given (s.url resource)
  by_cases habsolute : isAbsolute resource = true
  · rw [url, if_pos habsolute]
    exact .inr ⟨habsolute, h habsolute⟩
  · left
    rw [url, if_neg habsolute]
    split
    · next hslash =>
      obtain ⟨rest, hrest⟩ := List.head?_eq_some_iff.1 hslash
      have hresource : resource = "/" ++ String.ofList rest := by
        rw [← String.toList_inj, String.toList_append, hrest]
        simp
      exact ⟨String.ofList rest, by rw [hresource, String.append_assoc]⟩
    · exact ⟨"services/data/v" ++ config.apiVersion ++ "/" ++ resource, by
        rw [hroot, config.resourceRoot_eq]
        simp only [String.append_assoc]⟩

end Session
end RecordBridge
