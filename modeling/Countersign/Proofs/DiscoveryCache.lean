import Countersign.Proofs.Interleaving
import Countersign.Uma.Discovery
import Mathlib

/-!
# Discovery documents — what a sequence of calls fetches and keeps

A call for the discovery document of a server looks for the document under its location, and asks the
server only when there is none.  A document that came is kept.  Calls that follow each other share
what is kept, so what a call does is decided by the calls before it.  This file defines:

* `Url.Web` — a URL names a server that is reached by `http` or `https`;
* `Answers s t` — the store answers its part of a record as it is at each question;
* `Discovery.outcome`, `Discovery.conclude` — what an answer means, and the end of a call;
* `Discovery.Looked` — the three records that a call can leave;
* `Discovery.Call`, `Call.In s` — a call that is made while the store is `s`;
* `Call.EndsBy s` — what it ends in and keeps, by the answer that it got;
* `Discovery.History l s` — calls one after the other, and the store behind them.

`History.find?_iff` says what is kept behind a history: the documents of the calls that succeeded, and
nothing else.  From it follows, call by call, who goes to the network.
-/

namespace Countersign

open Program

/-! ## Servers on the web -/

namespace Url

/-- A query and a fragment change nothing in front of them. -/
theorem withTail_front (u : Url) (rest : List Char) :
    (withTail u rest).scheme = u.scheme ∧ (withTail u rest).authority = u.authority := by
  unfold withTail
  extract_lets encodeQuery encodeFragment
  split
  · -- behind a query there may be a fragment
    extract_lets v
    split
    · exact ⟨rfl, rfl⟩
    · exact ⟨rfl, rfl⟩
  · exact ⟨rfl, rfl⟩
  · exact ⟨rfl, rfl⟩

/-- What is read behind two slashes has an authority. -/
theorem afterSlashes_front {scheme : String} {cs : List Char} {u : Url}
    (h : afterSlashes scheme cs = .ok u) : u.scheme = scheme ∧ u.authority.isSome = true := by
  unfold afterSlashes at h
  -- the checks and the ways to read the host are passed one by one, down to the URL at the end
  rcases bind_eq_ok.1 h with ⟨⟨user, text⟩, -, htext⟩
  rcases of_either (of_refusal htext) with ⟨host, hhost⟩
  have hport := of_refusal hhost
  dsimp only at hport
  suffices hurl : ∃ port rest, withTail
      { scheme, authority := some { user with host, port }
        path := String.ofList (Path.readStart (SchemeKind.of scheme) false rest).path }
      (Path.readStart (SchemeKind.of scheme) false rest).rest = u by
    rcases hurl with ⟨port, rest, rfl⟩
    have hfront := withTail_front
      { scheme, authority := some { user with host, port }
        path := String.ofList (Path.readStart (SchemeKind.of scheme) false rest).path }
      (Path.readStart (SchemeKind.of scheme) false rest).rest
    exact ⟨hfront.1, by rw [hfront.2]; rfl⟩
  split at hport
  · rcases bind_eq_ok.1 hport with ⟨⟨port, rest⟩, -, hend⟩
    exact ⟨port, rest, Except.ok.inj (of_refusal hend)⟩
  · rcases bind_eq_ok.1 hport with ⟨⟨port, rest⟩, -, hend⟩
    exact ⟨port, rest, Except.ok.inj (of_refusal hend)⟩

/-- Whatever is read behind `file:` stays a file. -/
theorem readFile_scheme {cs : List Char} {u : Url} (h : readFile none cs = .ok u) :
    u.scheme = "file" := by
  have hkept (authority : Option Authority) (reading : Path.Reading) :
      (keepHost authority reading).scheme = "file" := (withTail_front _ _).1
  have hfile (host : String) (reading : Path.Reading) :
      (fileUrl host reading).scheme = "file" := (withTail_front _ _).1
  unfold readFile at h
  extract_lets base isSlash at h
  split at h
  · split at h
    · extract_lets text at h
      -- behind two slashes stands a drive, this machine, or another host
      split at h
      · cases h
        exact hfile _ _
      · split at h
        · cases h
        · split at h
          · cases h
            exact hfile _ _
          · cases h
            exact hfile _ _
    · split at h
      · cases h
        exact hkept _ _
      · cases h
        exact hkept _ _
  · split at h
    · cases h
      exact hkept _ _
    · cases h
      exact hkept _ _
  · cases h
    exact hkept _ _

/-- Whether a URL names a server that is reached by `http` or `https`. -/
structure Web (u : Url) : Prop where
  scheme : u.scheme = "http" ∨ u.scheme = "https"
  authority : u.authority.isSome = true

variable {u v : Url}

/-- Reading never gives an `http` or `https` URL without an authority. -/
theorem web_of_parse {s : String} (h : parse s = .ok u)
    (hscheme : u.scheme = "http" ∨ u.scheme = "https") : u.Web := by
  -- neither of the two schemes is read as a file or as one of the other schemes
  have hkind : SchemeKind.of u.scheme = .special := by
    rcases hscheme with hs | hs
    · rw [hs]
      decide
    · rw [hs]
      decide
  refine ⟨hscheme, ?_⟩
  unfold parse read at h
  extract_lets cs at h
  split at h
  · rename_i scheme rest _
    unfold readScheme at h
    split at h
    · rw [readFile_scheme h] at hkind
      cases hkind
    · exact (afterSlashes_front h).2
    · rename_i hother
      split at h
      · exact (afterSlashes_front h).2
      · cases h
        rw [(withTail_front _ _).1, hother] at hkind
        cases hkind
      · cases h
        rw [(withTail_front _ _).1, hother] at hkind
        cases hkind
  · cases h

/-- With an authority no path is opaque. -/
theorem isFixed_of_authority (h : u.authority.isSome = true) : u.isFixed = false := by
  rcases Option.isSome_iff_exists.1 h with ⟨a, ha⟩
  rw [isFixed, ha]
  rfl

theorem trimFixedPath_of_authority (h : u.authority.isSome = true) : u.trimFixedPath = u := by
  rw [trimFixedPath, isFixed_of_authority h]
  rfl

end Url

/-! ## Locations -/

namespace Discovery

open Url

variable {u v : Url}

/-- Where the document of a server on the web lies, part by part. -/
theorem location_eq (h : u.Web) :
    location u =
      { scheme := u.scheme, authority := u.authority
        path := String.ofList (Path.readStart u.kind true
          ((trimSlashes u.path ++ suffix).toList.filter fun c => !isDropped c)).path } := by
  have hpath := isFixed_of_authority h.authority
  rw [location, withPath, hpath]
  -- dropping the query and the fragment leaves the path alone, since it is not opaque
  calc
    withoutFragment (withoutQuery
        { u with path := String.ofList (Path.readStart u.kind true
            ((trimSlashes u.path ++ suffix).toList.filter fun c => !isDropped c)).path }) =
        withoutFragment
          { u with path := String.ofList (Path.readStart u.kind true
              ((trimSlashes u.path ++ suffix).toList.filter fun c => !isDropped c)).path
                   query := none } :=
      congrArg withoutFragment (trimFixedPath_of_authority h.authority)
    _ = _ := trimFixedPath_of_authority h.authority

/-- Servers that differ in their query, their fragment and the slashes at the end of their path
share a location. -/
theorem location_congr (hu : u.Web) (hv : v.Web) (hscheme : u.scheme = v.scheme)
    (hauthority : u.authority = v.authority) (hpath : trimSlashes u.path = trimSlashes v.path) :
    location u = location v := by
  rw [location_eq hu, location_eq hv, kind, kind, hscheme, hauthority, hpath]

/-- The location of a server's document is a matter of scheme, authority and path without the slashes
at its end. -/
structure Located (u : Url) : Prop where
  scheme : (location u).scheme = u.scheme
  authority : (location u).authority = u.authority
  query : (location u).query = none
  fragment : (location u).fragment = none
  shared : ∀ v : Url, v.Web → v.scheme = u.scheme → v.authority = u.authority →
    trimSlashes v.path = trimSlashes u.path → location v = location u

theorem located (h : u.Web) : Located u where
  scheme := by rw [location_eq h]
  authority := by rw [location_eq h]
  query := by rw [location_eq h]
  fragment := by rw [location_eq h]
  shared _ hv hscheme hauthority hpath := location_congr hv h hscheme hauthority hpath

/-! ## What one call leaves -/

/-- What the answer of the transport means to a call. -/
def outcome (server : Url) : Except TransportError Response → Except UmaError Metadata
  | .error e => .error (.transport e)
  | .ok r => read server r

theorem read_of_status {server : Url} {r : Response} (h : r.status ≠ 200) :
    read server r = .error (.discovery server.toString (.status r.status)) := by
  rw [read, if_pos (by simpa using h)]

theorem read_of_malformed {server : Url} {r : Response} (h : r.status = 200)
    (hbody : Metadata.parse? r.body = none) :
    read server r = .error (.discovery server.toString .malformed) := by
  rw [read, if_neg (by simpa using h), hbody]

theorem read_of_document {server : Url} {r : Response} {m : Metadata} (h : r.status = 200)
    (hbody : Metadata.parse? r.body = some m) : read server r = .ok m := by
  rw [read, if_neg (by simpa using h), hbody]

/-- The end of a call: a document is kept before it is given. -/
def conclude (place : String) : Except UmaError Metadata → Run (Except UmaError Metadata)
  | .error e => done (.error e)
  | .ok m => ask (I := World) (.keepDocument place m) fun _ => done (.ok m)

theorem document_eq (server : Url) :
    document server = ask (I := World) (.document (location server).toString) fun
      | some m => done (.ok m)
      | none => ask (I := World) (.transmit (request (location server))) fun answer =>
          conclude (location server).toString (outcome server answer) := by
  refine congrArg (ask (I := World) _) (funext fun found => ?_)
  cases found with
  | some m => rfl
  | none =>
      refine congrArg (ask (I := World) _) (funext fun answer => ?_)
      cases answer with
      | error e => rfl
      | ok r =>
          dsimp only [done_bind, outcome]
          cases read server r with
          | error e => rfl
          | ok m => rfl

/-- The records that a call can leave, with what it ends in. -/
inductive Looked (server : Url) : Transcript World → Except UmaError Metadata → Prop where
  /-- A document was there. -/
  | kept (m : Metadata) :
      Looked server [⟨.document (location server).toString, some m⟩] (.ok m)
  /-- There was none, and none came. -/
  | failed (answer : Except TransportError Response) (e : UmaError) :
      outcome server answer = .error e →
      Looked server [⟨.document (location server).toString, none⟩,
        ⟨.transmit (request (location server)), answer⟩] (.error e)
  /-- There was none, and one came. -/
  | fetched (answer : Except TransportError Response) (m : Metadata) :
      outcome server answer = .ok m →
      Looked server [⟨.document (location server).toString, none⟩,
        ⟨.transmit (request (location server)), answer⟩,
        ⟨.keepDocument (location server).toString m, ()⟩] (.ok m)

/-- These are the records of all complete calls. -/
theorem walk_document_iff {server : Url} {t : Transcript World} {x : Except UmaError Metadata} :
    Walk (document server) t (done x) ↔ Looked server t x := by
  rw [document_eq]
  constructor
  · intro h
    rcases walk_ask_iff.1 h with ⟨-, hend⟩ | ⟨found, t, rfl, hfound⟩
    · cases hend
    cases found with
    | some m =>
        rcases walk_done_iff.1 hfound with ⟨rfl, hend⟩
        cases hend
        exact .kept m
    | none =>
        rcases walk_ask_iff.1 hfound with ⟨-, hend⟩ | ⟨answer, t, rfl, hanswer⟩
        · cases hend
        -- what the answer means decides whether anything is kept
        cases houtcome : outcome server answer with
        | error e =>
            rw [houtcome] at hanswer
            rcases walk_done_iff.1 hanswer with ⟨rfl, hend⟩
            cases hend
            exact .failed answer e houtcome
        | ok m =>
            rw [houtcome] at hanswer
            rcases walk_ask_iff.1 hanswer with ⟨-, hend⟩ | ⟨⟨⟩, t, rfl, hkept⟩
            · cases hend
            rcases walk_done_iff.1 hkept with ⟨rfl, hend⟩
            cases hend
            exact .fetched answer m houtcome
  · intro h
    cases h with
    | kept m => exact .answered (.here _)
    | failed answer e houtcome =>
        refine .answered (.answered ?_)
        rw [houtcome]
        exact .here _
    | fetched answer m houtcome =>
        refine .answered (.answered ?_)
        rw [houtcome]
        exact .answered (.here _)

end Discovery

/-! ## Records against a store -/

/-- Whether the store answers its part of a record, at each question as it is then. -/
def Answers : Store → Transcript World → Prop
  | _, [] => True
  | s, x :: t => (∃ now, Act.Admits s now x.1 x.2) ∧ Answers (Act.onStore s x.1) t

/-- A program that runs alone leaves such a record. -/
theorem answers_of_alone {σ α : Type} (o : Outside σ) (p : Run α) (s : Store) (w : σ) :
    Answers s (p.transcript o.step (s, w)) := by
  induction p generalizing s w with
  | done a => trivial
  | ask op next ih => exact ⟨⟨_, Act.admits_answer o s w op⟩, ih _ _ _⟩

namespace Discovery

/-! ## Calls one after the other -/

/-- A call for the document of a server: what it asked, with the answers, and what it ended in. -/
structure Call where
  server : Url
  asked : Transcript World
  result : Except UmaError Metadata

namespace Call

/-- Where a call looks. -/
def place (c : Call) : String := (location c.server).toString

/-- What a call sent to the network, with the answers. -/
def exchanges (c : Call) : List (Request × Except TransportError Response) :=
  c.asked.filterMap fun
    | ⟨.transmit r, answer⟩ => some (r, answer)
    | _ => none

/-- The store behind a call. -/
def after (c : Call) (s : Store) : Store := storeAfter s (steps c.asked)

/-- Whether a call can be made while the store is this one, with nothing in between. The network
answers as it likes. -/
structure In (c : Call) (s : Store) : Prop where
  walk : Walk (document c.server) c.asked (done c.result)
  answers : Answers s c.asked

variable {c : Call} {s : Store}

/-- A call that finds a document ends in it, and changes nothing. -/
theorem In.of_some {m : Metadata} (h : c.In s) (hfound : s.documents.find? c.place = some m) :
    c.exchanges = [] ∧ c.result = .ok m ∧ c.after s = s := by
  rcases c with ⟨server, asked, result⟩
  have hanswers : Answers s asked := h.answers
  have hlooked : Looked server asked result := walk_document_iff.1 h.walk
  cases hlooked with
  | kept m' =>
      rcases hanswers with ⟨⟨now, hadmits⟩, -⟩
      -- the store answers with what it has
      have hm : some m' = some m := hadmits.trans hfound
      cases hm
      exact ⟨rfl, rfl, rfl⟩
  | failed answer e houtcome =>
      rcases hanswers with ⟨⟨now, hadmits⟩, -⟩
      cases hadmits.trans hfound
  | fetched answer m' houtcome =>
      rcases hanswers with ⟨⟨now, hadmits⟩, -⟩
      cases hadmits.trans hfound

/-- A call that finds none asks the server, once, and ends as the answer says. It keeps a document
that comes, and changes nothing otherwise. -/
theorem In.of_none (h : c.In s) (hnone : s.documents.find? c.place = none) :
    ∃ answer, c.exchanges = [(request (location c.server), answer)] ∧
      c.result = outcome c.server answer ∧
      (∀ e, c.result = .error e → c.after s = s) ∧
      ∀ m, c.result = .ok m →
        c.after s = { s with documents := s.documents.insert c.place m } := by
  rcases c with ⟨server, asked, result⟩
  have hanswers : Answers s asked := h.answers
  have hlooked : Looked server asked result := walk_document_iff.1 h.walk
  cases hlooked with
  | kept m' =>
      rcases hanswers with ⟨⟨now, hadmits⟩, -⟩
      cases hadmits.trans hnone
  | failed answer e houtcome =>
      refine ⟨answer, rfl, houtcome.symm, fun _ _ => rfl, ?_⟩
      intro m hm
      cases hm
  | fetched answer m houtcome =>
      refine ⟨answer, rfl, houtcome.symm, ?_, ?_⟩
      · intro e he
        cases he
      · intro m' hm
        cases hm
        rfl

/-- What a call ends in, and what is kept behind it, by the answer that it got from the network. -/
structure EndsBy (c : Call) (s : Store) (answer : Except TransportError Response) : Prop where
  unreachable : ∀ e, answer = .error e → c.result = .error (.transport e) ∧ c.after s = s
  refused : ∀ r, answer = .ok r → r.status ≠ 200 →
    c.result = .error (.discovery c.server.toString (.status r.status)) ∧ c.after s = s
  malformed : ∀ r, answer = .ok r → r.status = 200 → Metadata.parse? r.body = none →
    c.result = .error (.discovery c.server.toString .malformed) ∧ c.after s = s
  /-- A document that came is kept under the location of the call, and under no other. -/
  fetched : ∀ r m, answer = .ok r → r.status = 200 → Metadata.parse? r.body = some m →
    c.result = .ok m ∧ (c.after s).documents.find? c.place = some m ∧
      ∀ place ≠ c.place, (c.after s).documents.find? place = s.documents.find? place

theorem In.endsBy (h : c.In s) (hkeeps : s.documents.keeps = true)
    (hnone : s.documents.find? c.place = none) :
    ∃ answer, c.exchanges = [(request (location c.server), answer)] ∧ c.EndsBy s answer := by
  rcases h.of_none hnone with ⟨answer, hsent, hresult, hfailed, hfetched⟩
  have hfails {e : UmaError} (he : outcome c.server answer = .error e) :
      c.result = .error e ∧ c.after s = s :=
    ⟨hresult.trans he, hfailed e (hresult.trans he)⟩
  refine ⟨answer, hsent, ?_, ?_, ?_, ?_⟩
  · rintro e rfl
    exact hfails rfl
  · rintro r rfl hstatus
    exact hfails (read_of_status hstatus)
  · rintro r rfl hstatus hbody
    exact hfails (read_of_malformed hstatus hbody)
  · rintro r m rfl hstatus hbody
    have hok : c.result = .ok m := hresult.trans (read_of_document hstatus hbody)
    rw [hfetched m hok]
    refine ⟨hok, Keyed.find?_insert_self hkeeps _ _, ?_⟩
    intro place hplace
    exact Keyed.find?_insert_ne hplace m

/-- A call that runs alone is made while the store is as it finds it, and leaves the store behind it. -/
theorem in_of_alone {σ : Type} (o : Outside σ) (server : Url) (s : Store) (w : σ) :
    ∃ c : Call, c.server = server ∧ c.In s ∧
      ((document server).alone o (s, w)).1 = c.result ∧
      ((document server).alone o (s, w)).2.1 = c.after s := by
  have hwalk := walk_transcript o.step (document server) (s, w)
  have hanswers := answers_of_alone o (document server) s w
  have hstore := alone_store o (document server) s w
  exact ⟨⟨server, (document server).transcript o.step (s, w), _⟩, rfl, ⟨hwalk, hanswers⟩, rfl,
    hstore⟩

end Call

/-- Calls one after the other, the latest first, and the store behind them. At first no document is
kept, and a document that is put there stays. Between two calls anything may happen that puts no
document there. -/
inductive History : List Call → Store → Prop where
  | start {s : Store} : s.documents = {} → History [] s
  | meanwhile {l : List Call} {s : Store} {op : Act} :
      History l s → (∀ place m, op ≠ .keepDocument place m) → History l (op.onStore s)
  | call {l : List Call} {s : Store} {c : Call} :
      History l s → c.In s → History (c :: l) (c.after s)

/-- Whether one of the calls got this document from this place. -/
def Known (l : List Call) (place : String) (m : Metadata) : Prop :=
  ∃ d ∈ l, d.place = place ∧ d.result = .ok m

theorem known_cons {c : Call} {l : List Call} {place : String} {m : Metadata} :
    Known (c :: l) place m ↔ (c.place = place ∧ c.result = .ok m) ∨ Known l place m := by
  simp [Known]

theorem documents_onStore {op : Act} (h : ∀ place m, op ≠ .keepDocument place m) (s : Store) :
    (op.onStore s).documents = s.documents := by
  cases op with
  | keepDocument place m => exact absurd rfl (h place m)
  | _ => rfl

namespace History

variable {l : List Call} {s : Store}

theorem keeps (h : History l s) : s.documents.keeps = true := by
  induction h with
  | start hempty => rw [hempty]
  | meanwhile _ hop ih => rw [documents_onStore hop, ih]
  | @call l s c _ hc ih =>
      cases hfound : s.documents.find? c.place with
      | some m => rw [(hc.of_some hfound).2.2, ih]
      | none =>
          rcases hc.of_none hfound with ⟨answer, -, -, hfailed, hfetched⟩
          cases hresult : c.result with
          | error e => rw [hfailed e hresult, ih]
          | ok m => rw [hfetched m hresult, Keyed.keeps_insert, ih]

/-- Behind a history the documents of the calls that succeeded are kept, and no others. -/
theorem find?_iff (h : History l s) (place : String) (m : Metadata) :
    s.documents.find? place = some m ↔ Known l place m := by
  induction h generalizing place m with
  | start hempty =>
      rw [hempty]
      simp [Known, Keyed.find?]
  | meanwhile _ hop ih => rw [documents_onStore hop, ih]
  | @call l s c hl hc ih =>
      rw [known_cons]
      cases hfound : s.documents.find? c.place with
      | some found =>
          -- the call ends in what an earlier one got there
          rcases hc.of_some hfound with ⟨-, hresult, hafter⟩
          rw [hafter, ih place m, hresult]
          constructor
          · exact .inr
          · rintro (⟨rfl, hm⟩ | hknown)
            · cases hm
              exact (ih _ _).1 hfound
            · exact hknown
      | none =>
          rcases hc.of_none hfound with ⟨answer, -, -, hfailed, hfetched⟩
          cases hresult : c.result with
          | error e =>
              rw [hfailed e hresult, ih place m]
              constructor
              · exact .inr
              · rintro (⟨-, hm⟩ | hknown)
                · cases hm
                · exact hknown
          | ok got =>
              rw [hfetched got hresult]
              by_cases hplace : place = c.place
              · -- nothing was known of this place before the call
                subst hplace
                rw [Keyed.find?_insert_self hl.keeps]
                constructor
                · intro hm
                  cases hm
                  exact .inl ⟨rfl, rfl⟩
                · rintro (⟨-, hm⟩ | hknown)
                  · cases hm
                    rfl
                  · cases hfound.symm.trans ((ih _ _).2 hknown)
              · rw [Keyed.find?_insert_ne hplace, ih place m]
                constructor
                · exact .inr
                · rintro (⟨hc', -⟩ | hknown)
                  · exact absurd hc'.symm hplace
                  · exact hknown

end History

/-! ## Who goes to the network -/

/-- After any calls, a call for a server on the web goes to the network exactly if none of them got a
document from the same location; it then sends one `GET` to that location, and ends as the answer
says. A known document is given without the network. -/
theorem fetched_unless_known {l : List Call} {s : Store} {c : Call} (history : History l s)
    (call : c.In s) (web : c.server.Web) :
    Located c.server ∧
      (c.exchanges ≠ [] ↔ ¬ ∃ m, Known l c.place m) ∧
      c.exchanges.length ≤ 1 ∧
      (∀ x ∈ c.exchanges, x.1 = request (location c.server) ∧ x.1.method = "GET" ∧
        x.1.uri = location c.server ∧ c.EndsBy s x.2) ∧
      ∀ m, Known l c.place m → c.exchanges = [] ∧ c.result = .ok m ∧ c.after s = s := by
  refine ⟨located web, ?_⟩
  cases hfound : s.documents.find? c.place with
  | some m =>
      -- an earlier call got the document
      rcases call.of_some hfound with ⟨hnone, hresult, hafter⟩
      have hknown := (history.find?_iff c.place m).1 hfound
      refine ⟨?_, by simp [hnone], by simp [hnone], ?_⟩
      · exact ⟨fun h => absurd hnone h, fun h => absurd ⟨m, hknown⟩ h⟩
      · intro m' hm'
        cases hfound.symm.trans ((history.find?_iff c.place m').2 hm')
        exact ⟨hnone, hresult, hafter⟩
  | none =>
      rcases call.endsBy history.keeps hfound with ⟨answer, hsent, hends⟩
      have hunknown : ¬ ∃ m, Known l c.place m := by
        rintro ⟨m, hm⟩
        cases hfound.symm.trans ((history.find?_iff c.place m).2 hm)
      refine ⟨⟨fun _ => hunknown, fun _ => by simp [hsent]⟩, by simp [hsent], ?_, ?_⟩
      · intro x hx
        rw [hsent, List.mem_singleton] at hx
        subst hx
        exact ⟨rfl, rfl, rfl, hends⟩
      · intro m hm
        exact absurd ⟨m, hm⟩ hunknown

/-! ### A server under two names -/

/-- A server, named with a slash at the end of its path and with a query. -/
def longName : Url :=
  { scheme := "https", authority := some { host := "as.example" }, path := "/uma/"
    query := some "tenant=1" }

/-- The same server, named without both. -/
def shortName : Url :=
  { scheme := "https", authority := some { host := "as.example" }, path := "/uma" }

/-- What the server publishes. -/
def published : Metadata := { tokenEndpoint := { scheme := "urn", path := "t" } }

/-- The octets in which it publishes it. -/
def publication : Bytes :=
  "\x7b\"token_endpoint\":\"urn:t\"\x7d".toList.map fun c => UInt8.ofNat c.toNat

theorem parse?_publication : Metadata.parse? publication = some published := by
  have hjson : Json.parse? publication =
      some (.ofFields [("token_endpoint", .string "urn:t")]) := by cbv
  have hread : Metadata.ofJson? (.ofFields [("token_endpoint", .string "urn:t")]) =
      some published := by cbv
  simp only [Metadata.parse?, hjson, Option.bind_eq_bind, Option.bind_some, hread]

/-- The answer that brings it. -/
def arrival : Response := { uri := location longName, status := 200, body := publication }

/-- The first call, which gets the document. -/
def firstCall : Call where
  server := longName
  asked :=
    [⟨.document (location longName).toString, none⟩,
      ⟨.transmit (request (location longName)), .ok arrival⟩,
      ⟨.keepDocument (location longName).toString published, ()⟩]
  result := .ok published

/-- A later call, by the other name. -/
def laterCall : Call where
  server := shortName
  asked := [⟨.document (location shortName).toString, some published⟩]
  result := .ok published

theorem firstCall_in : firstCall.In {} := by
  have hread : read longName arrival = .ok published := read_of_document rfl parse?_publication
  have hlooked : Looked longName firstCall.asked (.ok published) := .fetched (.ok arrival) published hread
  exact ⟨walk_document_iff.2 hlooked, ⟨⟨0, 0⟩, rfl⟩, ⟨⟨0, 0⟩, trivial⟩, ⟨⟨0, 0⟩, trivial⟩, trivial⟩

/-- Both names lead to the same location. -/
theorem place_firstCall : firstCall.place = laterCall.place :=
  congrArg Url.toString (location_congr ⟨.inr rfl, rfl⟩ ⟨.inr rfl, rfl⟩ rfl rfl (by decide))

/-- The first call goes to the network, and the later one does not. -/
theorem fetched_unless_known_renamed :
    firstCall.exchanges ≠ [] ∧ Known [firstCall] laterCall.place published ∧
      laterCall.exchanges = [] ∧ laterCall.result = .ok published := by
  have hstart : History [] {} := .start rfl
  have hhistory : History [firstCall] (firstCall.after {}) := hstart.call firstCall_in
  have hknown : Known [firstCall] laterCall.place published :=
    ⟨firstCall, List.mem_singleton.2 rfl, place_firstCall, rfl⟩
  have hfound : ((firstCall.after {}).documents.find? laterCall.place) = some published :=
    (hhistory.find?_iff laterCall.place published).2 hknown
  have hlater : laterCall.In (firstCall.after {}) :=
    ⟨walk_document_iff.2 (.kept published), ⟨⟨0, 0⟩, hfound.symm⟩, trivial⟩
  have hgoes := (fetched_unless_known hstart firstCall_in ⟨.inr rfl, rfl⟩).2.1
  have hstays :=
    (fetched_unless_known hhistory hlater ⟨.inr rfl, rfl⟩).2.2.2.2 published hknown
  have hnothing : ¬ ∃ m, Known [] firstCall.place m := by
    rintro ⟨m, d, hd, -⟩
    cases hd
  exact ⟨hgoes.2 hnothing, hknown, hstays.1, hstays.2.1⟩

end Discovery
end Countersign
