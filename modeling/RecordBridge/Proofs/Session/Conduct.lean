/-
# How a session conducts itself

A conduct says what stays true of a session while it talks, and which exchange
may come behind which.  `Keeps` says of a computation that it keeps to one.

Every operation of a session keeps to every conduct that lets it ask for
resources below its root, and for the content of a document at the address that
the answer before it names (`Conduct.PermitsBelow`, `Conduct.PermitsContent`).
One such conduct is that a session stays as it is and makes each request itself
(`Speaks`).
-/

import RecordBridge.Proofs.Session.Exchanges

namespace RecordBridge
namespace Session

variable {τ α β : Type}

/-! ### Resources -/

theorem isAbsolute_append {front : String} {c : Char} {cs : List Char}
    (h : front.toList = c :: cs) (hc : 'h' ≠ c) (rest : String) :
    isAbsolute (front ++ rest) = false := by
  have hchars : (front ++ rest).toList = c :: (cs ++ rest.toList) := by
    rw [String.toList_append, h, List.cons_append]
  have hhttp : "http://".toList = 'h' :: "ttp://".toList := rfl
  have hhttps : "https://".toList = 'h' :: "ttps://".toList := rfl
  rw [isAbsolute, hchars, hhttp, hhttps, List.isPrefixOf, List.isPrefixOf, beq_false_of_ne hc]
  rfl

theorem isAbsolute_sobjects (rest : String) : isAbsolute ("sobjects/" ++ rest) = false :=
  isAbsolute_append (c := 's') rfl (by decide) rest

theorem isAbsolute_query (rest : String) : isAbsolute ("query/?q=" ++ rest) = false :=
  isAbsolute_append (c := 'q') rfl (by decide) rest

theorem isAbsolute_describeResource (typeName : String) :
    isAbsolute (describeResource typeName) = false := by
  rw [describeResource, String.append_assoc]
  exact isAbsolute_sobjects _

theorem isAbsolute_deletedResource (typeName start stop : String) :
    isAbsolute (deletedResource typeName start stop) = false := by
  simp only [deletedResource, String.append_assoc]
  exact isAbsolute_sobjects _

theorem isAbsolute_documentResource (id : String) : isAbsolute (documentResource id) = false := by
  have hfront : "sobjects/Document/".toList = 's' :: "objects/Document/".toList := rfl
  exact isAbsolute_append hfront (by decide) _

/-! ### Records in answers -/

/-- Whether an answer to a query holds records. -/
def AnswersRecords (answer : Except Failure (Except NoAnswer Reply)) (records : List Object) :
    Prop :=
  ∃ reply body, answer = .ok (.ok reply) ∧ reply.status = 200 ∧
    (body = .null ∨ Json.parseBytes? reply.body = some body) ∧
      recordsUnder "records" body = .ok records

/-- Whether an answer to a query finds exactly some records: it has status 200, and these
are the records in what it holds. -/
def Finds (answer : Except Failure (Except NoAnswer Reply)) (records : List Object) : Prop :=
  ∃ reply body, answer = .ok (.ok reply) ∧ reply.status = 200 ∧ reply.Holds body ∧
    recordsUnder "records" body = .ok records

theorem finds_iff (resource : String) {answer : Except Failure (Except NoAnswer Reply)}
    {records : List Object} : Finds answer records ↔
      ∃ body, bodyIn "GET" resource 200 answer = .ok body ∧
        recordsUnder "records" body = .ok records := by
  simp only [bodyIn_eq_ok_iff, Finds]
  constructor
  · rintro ⟨reply, body, hanswer, hstatus, hbody, hrecords⟩
    exact ⟨body, ⟨reply, hanswer, hstatus, hbody⟩, hrecords⟩
  · rintro ⟨body, ⟨reply, hanswer, hstatus, hbody⟩, hrecords⟩
    exact ⟨reply, body, hanswer, hstatus, hbody, hrecords⟩

theorem Finds.unique {answer : Except Failure (Except NoAnswer Reply)}
    {records records' : List Object} (h : Finds answer records) (h' : Finds answer records') :
    records = records' := by
  obtain ⟨body, hbody, hrecords⟩ := (finds_iff "").1 h
  obtain ⟨body', hbody', hrecords'⟩ := (finds_iff "").1 h'
  obtain rfl := Except.ok.inj (hbody.symm.trans hbody')
  exact Except.ok.inj (hrecords.symm.trans hrecords')

theorem Finds.answersRecords {answer : Except Failure (Except NoAnswer Reply)}
    {records : List Object} (h : Finds answer records) : AnswersRecords answer records := by
  obtain ⟨reply, body, hanswer, hstatus, hbody, hrecords⟩ := h
  exact ⟨reply, body, hanswer, hstatus, hbody.null_or_parse, hrecords⟩

/-- Whether an answer names the address of the content of a document: in the first
of its records. -/
def NamesContent (answer : Except Failure (Except NoAnswer Reply)) (address : String) : Prop :=
  ∃ record records, AnswersRecords answer (record :: records) ∧
    record.get? "Body" = some (.text address)

/-- Whether a session asks for the content at an address, if there is one. -/
def AsksContent (s : Session) (url : Value) (new : List Exchange) : Prop :=
  new = [] ∨ ∃ address answer, url = .text address ∧
    new = [⟨s.httpRequest "GET" address none, answer⟩]

theorem get?_of_ofOption {found : Option Value} {address : String}
    (h : Value.ofOption found = .text address) : found = some (.text address) := by
  cases found with
  | none => exact nomatch h
  | some v => exact congrArg some h

namespace Talks

variable {s : Session} (t : Transport τ)

/-- A query is one exchange, and the records that it comes to are those that the answer
finds. -/
theorem query (text : String) :
    Talks s (Session.query t.watched text) (Session.query t text) fun new r s' =>
      s' = s ∧ ∃ answer, new = [⟨s.httpRequest "GET" (queryResource text) none, answer⟩] ∧
        ∀ records, r = .ok records ↔ Finds answer records := by
  refine bind (expect t "GET" (queryResource text) 200 none) ?_ ?_
  · rintro _ body _ ⟨rfl, answer, rfl, hr⟩
    refine ofTraced ⟨rfl, answer, rfl, fun records => ?_⟩
    rw [finds_iff (queryResource text), ← hr]
    exact ⟨fun h => ⟨body, rfl, h⟩, fun ⟨_, hbody, h⟩ => Except.ok.inj hbody ▸ h⟩
  · rintro _ e _ ⟨rfl, answer, rfl, hr⟩
    refine ⟨rfl, answer, rfl, fun records => ?_⟩
    rw [finds_iff (queryResource text), ← hr]
    exact ⟨fun h => (nomatch h), fun ⟨_, hbody, _⟩ => nomatch hbody⟩

/-- The query for a document is one exchange, if the identifier of the folder is a text;
the record of the document is the first that the answer finds. -/
theorem findDocument (folderId : Value) (document : String) :
    Talks s (Session.findDocument t.watched folderId document)
      (Session.findDocument t folderId document) fun new r s' => s' = s ∧
        ((new = [] ∧ (∃ e, r = .error e) ∧ ∀ id, folderId ≠ .text id) ∨
          ∃ id answer, folderId = .text id ∧
            new = [⟨s.httpRequest "GET" (queryResource (documentQuery id document)) none, answer⟩] ∧
              ∀ found, r = .ok found ↔
                ∃ records, Finds answer records ∧ records.head? = found) := by
  refine ofTraced_bind (fun id hid => ?_) fun e he => ⟨rfl, .inl ⟨rfl, ⟨e, rfl⟩, ?_⟩⟩
  · have hid : folderId = .text id := by
      have hok := Outcome.mapError_eq_ok_iff.1 hid
      unfold idText at hok
      split at hok
      · rw [Except.ok.inj hok]
      · exact nomatch hok
    refine bind (query t _) ?_ ?_
    · rintro _ records _ ⟨rfl, answer, rfl, hfound⟩
      refine ofTraced ⟨rfl, .inr ⟨id, answer, hid, rfl, fun found => ⟨fun h => ?_, ?_⟩⟩⟩
      · exact ⟨records, (hfound records).1 rfl, Except.ok.inj h⟩
      · rintro ⟨records', hrecords, rfl⟩
        rw [Except.ok.inj ((hfound records').2 hrecords)]
    · rintro _ e _ ⟨rfl, answer, rfl, hfound⟩
      refine ⟨rfl, .inr ⟨id, answer, hid, rfl, fun found => ⟨fun h => (nomatch h), ?_⟩⟩⟩
      rintro ⟨records, hrecords, -⟩
      exact nomatch (hfound records).2 hrecords
  · rintro id rfl
    exact nomatch he

/-- The content is asked for once, at its address. -/
theorem content (url : Value) :
    Talks s (Session.content t.watched url) (Session.content t url) fun new _ s' =>
      s' = s ∧ s.AsksContent url new := by
  by_cases h : url.isPresent
  · simp only [Session.content, if_pos h]
    refine ofTraced_bind (fun address haddress => ?_) fun _ _ => ⟨rfl, .inl rfl⟩
    have hurl : url = .text address := by
      have hok := Outcome.mapError_eq_ok_iff.1 haddress
      unfold contentAddress at hok
      split at hok
      · rw [Except.ok.inj hok]
      · exact nomatch hok
    refine bind (exchange t "GET" address none) ?_ ?_
    · rintro _ reply _ ⟨rfl, answer, rfl, -⟩
      refine ofTraced_bind (fun _ _ => ofTraced ⟨rfl, .inr ⟨address, answer, hurl, rfl⟩⟩) ?_
      exact fun _ _ => ⟨rfl, .inr ⟨address, answer, hurl, rfl⟩⟩
    · rintro _ e _ ⟨rfl, answer, rfl, -⟩
      exact ⟨rfl, .inr ⟨address, answer, hurl, rfl⟩⟩
  · simp only [Session.content, if_neg h]
    exact ofTraced ⟨rfl, .inl rfl⟩

end Talks

/-! ### Conduct -/

/-- What stays true of a session while it talks, and which exchange may come behind
which. -/
structure Conduct where
  holds : Session → Prop
  allows : List Exchange → Exchange → Prop
  /-- What may come behind some exchanges may come behind more of them. -/
  allows_append : ∀ first older e, allows older e → allows (first ++ older) e

namespace Conduct

variable {c : Conduct}

/-- Whether each of some exchanges may come behind those before it. -/
def AllowsAll (c : Conduct) (exchanges : List Exchange) : Prop :=
  ∀ older e newer, exchanges = older ++ e :: newer → c.allows older e

theorem allowsAll_nil : c.AllowsAll [] := by
  intro older e newer h
  exact absurd h.symm (by simp)

theorem AllowsAll.append {first new : List Exchange} (hfirst : c.AllowsAll first)
    (hnew : ∀ older e newer, new = older ++ e :: newer → c.allows (first ++ older) e) :
    c.AllowsAll (first ++ new) := by
  intro older e newer hsplit
  obtain ⟨between, rfl, hrest⟩ | ⟨between, rfl, hrest⟩ := List.append_eq_append_iff.1 hsplit
  · exact hnew between e newer hrest
  · cases between with
    | nil =>
      have h := hnew [] e newer hrest.symm
      rwa [List.append_nil, List.append_nil] at h
    | cons x xs =>
      obtain ⟨rfl, -⟩ := List.cons.inj hrest
      exact hfirst older _ xs rfl

/-- One more exchange, which may come behind the others. -/
theorem AllowsAll.concat {exchanges : List Exchange} {e : Exchange} (h : c.AllowsAll exchanges)
    (he : c.allows exchanges e) : c.AllowsAll (exchanges ++ [e]) := by
  refine h.append fun older e' newer hsplit => ?_
  cases older with
  | nil =>
    obtain ⟨rfl, -⟩ := List.cons.inj hsplit
    rwa [List.append_nil]
  | cons x xs => exact absurd (List.cons.inj hsplit).2.symm (by simp)

/-- Whether a session may ask for a resource at any time. -/
def Permits (c : Conduct) (method resource : String) (body : Option Object) : Prop :=
  ∀ s older answer, c.holds s →
    c.allows older ⟨s.httpRequest method resource body, answer⟩

/-- Whether a session may ask for whatever is no address of its own. -/
def PermitsBelow (c : Conduct) : Prop :=
  ∀ method resource body, isAbsolute resource = false → c.Permits method resource body

/-- Whether a session may ask for content behind an answer that names its
address. -/
def PermitsContent (c : Conduct) : Prop :=
  ∀ s older found address answer, c.holds s → NamesContent found.answer address →
    c.allows (older ++ [found]) ⟨s.httpRequest "GET" address none, answer⟩

/-- The content of a document that an answer names may come behind it. -/
theorem PermitsContent.allowsAll {s : Session} {found : Exchange} {record : Object}
    {records : List Object} {new : List Exchange} (hc : c.PermitsContent) (hs : c.holds s)
    (hfound : c.AllowsAll [found]) (hrecords : AnswersRecords found.answer (record :: records))
    (hnew : s.AsksContent (.ofOption (record.get? "Body")) new) :
    c.AllowsAll ([found] ++ new) := by
  obtain rfl | ⟨address, answer, hurl, rfl⟩ := hnew
  · rwa [List.append_nil]
  · have hnames : NamesContent found.answer address :=
      ⟨record, records, hrecords, get?_of_ofOption hurl⟩
    exact hfound.concat (hc s [] found address answer hs hnames)

end Conduct

/-- A computation that keeps to a conduct, beside the watched one. -/
def Keeps (c : Conduct) (x : Over (τ × List Exchange) α) (y : Over τ α) : Prop :=
  ∀ s, c.holds s → Talks s x y fun new _ s' => c.holds s' ∧ c.AllowsAll new

namespace Keeps

variable {c : Conduct} {x : Over (τ × List Exchange) α} {y : Over τ α}
  {f : α → Over (τ × List Exchange) β} {g : α → Over τ β}

theorem ofTraced {out : Traced α} :
    Keeps (τ := τ) c (Flow.ofTraced out) (Flow.ofTraced out) :=
  fun _ hs => Talks.ofTraced ⟨hs, Conduct.allowsAll_nil⟩

/-- Sequencing behind a computation of whose outcome something is known. -/
theorem bind_of {Q : Except Failure α → Prop} (hx : Keeps c x y)
    (hQ : ∀ s, c.holds s → Talks s x y fun _ r _ => Q r)
    (hf : ∀ a, Q (.ok a) → Keeps c (f a) (g a)) :
    Keeps c (x >>= f) (y >>= g) := by
  intro s hs
  refine Talks.bind ((hx s hs).and (hQ s hs)) ?_ fun _ _ _ hfirst => hfirst.1
  rintro first a s' ⟨⟨hs', hfirst⟩, ha⟩
  refine (hf a ha s' hs').mono ?_
  rintro new _ s'' ⟨hs'', hnew⟩
  refine ⟨hs'', hfirst.append fun older e newer hsplit => ?_⟩
  exact c.allows_append first older e (hnew older e newer hsplit)

theorem bind (hx : Keeps c x y) (hf : ∀ a, Keeps c (f a) (g a)) :
    Keeps c (x >>= f) (y >>= g) :=
  hx.bind_of (Q := fun _ => True) (fun s hs => (hx s hs).mono fun _ _ _ _ => trivial)
    fun a _ => hf a

/-- Sequencing behind an outcome without exchanges. -/
theorem ofTraced_bind {out : Traced α} (h : ∀ a, out.result = .ok a → Keeps c (f a) (g a)) :
    Keeps c (Flow.ofTraced out >>= f) (Flow.ofTraced out >>= g) :=
  ofTraced.bind_of (Q := fun r => r = out.result) (fun _ _ => Talks.ofTraced rfl)
    fun a ha => h a ha.symm

theorem ite {p : Prop} [Decidable p] {x' : Over (τ × List Exchange) α} {y' : Over τ α}
    (h : Keeps c x y) (h' : Keeps c x' y') :
    Keeps c (if p then x else x') (if p then y else y') := by
  split
  · exact h
  · exact h'

/-- Sequencing behind a log record that is written under a condition. -/
theorem log_if_bind {p : Prop} [Decidable p] {level : Level} {source : Source} {text : String}
    {f : Unit → Over (τ × List Exchange) β} {g : Unit → Over τ β} (h : Keeps c (f ()) (g ())) :
    Keeps c (if p then Flow.log level source text >>= f else f ())
      (if p then Flow.log level source text >>= g else g ()) :=
  ite (bind ofTraced fun _ => h) h

/-- What is attempted keeps to the conduct. -/
theorem attempt (h : Keeps c x y) : Keeps c (Flow.attempt x) (Flow.attempt y) := by
  intro s hs u events
  obtain ⟨new, s', u', hx, hy, hnew⟩ := h s hs u events
  refine ⟨new, s', u', ?_, ?_, hnew⟩
  · simp only [Flow.attempt, hx]
    rcases (y (s, u)).1.result with (e | f) | a <;> rfl
  · simp only [Flow.attempt, hy]
    rcases (y (s, u)).1.result with (e | f) | a <;> rfl

/-- What is done beside the session is no talk. -/
theorem beside (z : Flow τ α) :
    Keeps c (Flow.onSnd (Flow.onFst z)) (Flow.onSnd z) := by
  intro s hs u events
  refine ⟨[], s, (z u).2, ?_, rfl, hs, Conduct.allowsAll_nil⟩
  rw [List.append_nil]
  rfl

/-- A single exchange that is allowed. -/
theorem of_talks {P : Session → List Exchange → Except Failure α → Session → Prop}
    {method resource : String} {body : Option Object} (hc : c.Permits method resource body)
    (h : ∀ s, Talks s x y (P s))
    (hP : ∀ s new r s', P s new r s' →
      s' = s ∧ ∃ answer, new = [⟨s.httpRequest method resource body, answer⟩]) :
    Keeps c x y := by
  intro s hs
  refine (h s).mono fun new r s' hnew => ?_
  obtain ⟨rfl, answer, rfl⟩ := hP s new r s' hnew
  exact ⟨hs, Conduct.allowsAll_nil.concat (hc _ [] answer hs)⟩

variable (t : Transport τ)

theorem exchange {method resource : String} {body : Option Object}
    (hc : c.Permits method resource body) :
    Keeps c (Session.exchange t.watched method resource body)
      (Session.exchange t method resource body) :=
  of_talks hc (fun _ => Talks.exchange t method resource body)
    fun _ _ _ _ ⟨hs, answer, h, _⟩ => ⟨hs, answer, h⟩

theorem request {method resource : String} {body : Option Object}
    (hc : c.Permits method resource body) :
    Keeps c (Session.request t.watched method resource body)
      (Session.request t method resource body) :=
  of_talks hc (fun _ => Talks.request t method resource body)
    fun _ _ _ _ ⟨hs, answer, h, _⟩ => ⟨hs, answer, h⟩

theorem expect {method resource : String} {expected : Int} {body : Option Object}
    (hc : c.Permits method resource body) :
    Keeps c (Session.expect t.watched method resource expected body)
      (Session.expect t method resource expected body) :=
  of_talks hc (fun _ => Talks.expect t method resource expected body)
    fun _ _ _ _ ⟨hs, answer, h, _⟩ => ⟨hs, answer, h⟩

theorem deletedBetween {typeName start stop : String}
    (hc : c.Permits "GET" (deletedResource typeName start stop) none) :
    Keeps c (Session.deletedBetween t.watched typeName start stop)
      (Session.deletedBetween t typeName start stop) :=
  bind (expect t hc) fun _ => bind ofTraced fun _ => ofTraced

/-! ### Documents -/

section Documents

variable (hbelow : c.PermitsBelow)
include hbelow

theorem query (text : String) :
    Keeps c (Session.query t.watched text) (Session.query t text) :=
  bind (expect t (hbelow "GET" _ none (isAbsolute_query _))) fun _ => ofTraced

theorem folderId (folder : String) :
    Keeps c (Session.folderId t.watched folder) (Session.folderId t folder) :=
  bind (query t hbelow _) fun _ => ofTraced

theorem findDocument (folderId : Value) (document : String) :
    Keeps c (Session.findDocument t.watched folderId document)
      (Session.findDocument t folderId document) :=
  bind ofTraced fun _ => bind (query t hbelow _) fun _ => ofTraced

theorem replaceDocument (name : String) (found : Object) (contentType content : String) :
    Keeps c (Session.replaceDocument t.watched name found contentType content)
      (Session.replaceDocument t name found contentType content) :=
  bind ofTraced fun _ =>
    bind (expect t (hbelow "PATCH" _ _ (isAbsolute_documentResource _))) fun _ =>
      bind ofTraced fun _ => ofTraced

theorem createDocument (name : String) (folderId : Value)
    (document contentType content : String) :
    Keeps c (Session.createDocument t.watched name folderId document contentType content)
      (Session.createDocument t name folderId document contentType content) :=
  bind (expect t (hbelow "POST" _ _ (by decide))) fun _ =>
    bind ofTraced fun _ => bind ofTraced fun _ => ofTraced

theorem upsertDocument (name : Option String) (contentType content : String) :
    Keeps c (Session.upsertDocument t.watched name contentType content)
      (Session.upsertDocument t name contentType content) := by
  refine bind ofTraced fun (folder, document) => bind (folderId t hbelow folder) fun id => ?_
  cases id with
  | none => exact ofTraced
  | some id =>
    refine bind (findDocument t hbelow id document) fun found => ?_
    cases found with
    | none => exact createDocument t hbelow _ _ _ _ _
    | some found => exact replaceDocument t hbelow _ _ _ _

/-- The content of a document is asked for behind the answer that names its
address. -/
theorem fetchDocument (hcontent : c.PermitsContent) (name : Option String) :
    Keeps c (Session.fetchDocument t.watched name) (Session.fetchDocument t name) := by
  refine bind ofTraced fun (folder, document) => bind (folderId t hbelow folder) fun id => ?_
  cases id with
  | none => exact ofTraced
  | some id =>
    intro s hs
    refine Talks.bind ((findDocument t hbelow id document s hs).and
      (Talks.findDocument t id document)) ?_ fun _ _ _ hfirst => hfirst.1
    rintro first record s' ⟨⟨hs', hfirst⟩, hnamed⟩
    cases record with
    | none =>
      refine Talks.ofTraced ⟨hs', ?_⟩
      rwa [List.append_nil]
    | some record =>
      obtain ⟨-, ⟨-, ⟨e, he⟩, -⟩ | ⟨id, answer, -, rfl, hfound⟩⟩ := hnamed
      · exact nomatch he
      obtain ⟨all, hall, hfirst'⟩ := (hfound (some record)).1 rfl
      obtain ⟨records, rfl⟩ := List.head?_eq_some_iff.1 hfirst'
      have hrecords := hall.answersRecords
      refine Talks.bind (Talks.content t _) ?_ ?_
      · rintro new content _ ⟨rfl, hnew⟩
        refine Talks.ofTraced ⟨hs', ?_⟩
        rw [List.append_nil]
        exact hcontent.allowsAll hs' hfirst hrecords hnew
      · rintro new e _ ⟨rfl, hnew⟩
        exact ⟨hs', hcontent.allowsAll hs' hfirst hrecords hnew⟩

end Documents

end Keeps

/-! ### Speaking for oneself -/

/-- Whether a request was made by a session as it is: below its address and with
its token. -/
def Sent (s : Session) (e : Exchange) : Prop :=
  ∃ method resource body, e.request = s.httpRequest method resource body

/-- To stay as one is, and to make each request oneself. -/
def asItIs (s : Session) : Conduct where
  holds s' := s' = s
  allows _ e := s.Sent e
  allows_append _ _ _ h := h

theorem permits_asItIs (s : Session) (method resource : String) (body : Option Object) :
    s.asItIs.Permits method resource body := by
  rintro _ older answer rfl
  exact ⟨method, resource, body, rfl⟩

theorem permitsBelow_asItIs (s : Session) : s.asItIs.PermitsBelow :=
  fun method resource body _ => s.permits_asItIs method resource body

theorem permitsContent_asItIs (s : Session) : s.asItIs.PermitsContent := by
  rintro _ older found address answer rfl -
  exact ⟨"GET", address, none, rfl⟩

/-- Talk that leaves the session alone and in which every request is made by it. -/
def Speaks (s : Session) (x : Over (τ × List Exchange) α) (y : Over τ α) : Prop :=
  Talks s x y fun new _ s' => s' = s ∧ ∀ e ∈ new, s.Sent e

theorem Keeps.speaks {s : Session} {x : Over (τ × List Exchange) α} {y : Over τ α}
    (h : Keeps s.asItIs x y) : Speaks s x y := by
  refine (h s rfl).mono ?_
  rintro new _ _ ⟨rfl, hall⟩
  refine ⟨rfl, fun e he => ?_⟩
  obtain ⟨older, newer, hsplit⟩ := List.append_of_mem he
  exact hall older e newer hsplit

end Session
end RecordBridge
