import PackageDepot.Proofs.Http.RequestLine
import PackageDepot.Proofs.Router.Rules

/-! The protocol of the two routers that are deployed. What a text gets depends on the words of its
first line alone, and the answer to a target is read off one table for each router. -/

namespace PackageDepot.Router

open Http

/-- The answers of a catalog's router: its index, its packages, and nothing else. A package by the
name of the index is out of reach. -/
inductive CatalogTable (packages : Catalog) : String → Response → Prop
  | index : CatalogTable packages "/packages/list"
      (.ofText .ok (Reply.catalogIndexBody packages.list))
  | package {name body : String} (apart : name ≠ "list") (member : ⟨name, body⟩ ∈ packages.entries) :
      CatalogTable packages ("/packages/" ++ name) ⟨.ok, .textPlain, Utf8.octets body⟩
  | unknown {name : String} (named : name ≠ "") (apart : name ≠ "list")
      (absent : ∀ entry ∈ packages.entries, entry.name ≠ name) :
      CatalogTable packages ("/packages/" ++ name) (.ofText .notFound "Package not found\n")
  | elsewhere {target : String} (noPackage : ∀ name, name ≠ "" → target ≠ "/packages/" ++ name) :
      CatalogTable packages target (.ofText .notFound "Not Found\n")

/-- The answers of a directory's router: a sign of life, the listing, and what became of the look for
a name. -/
inductive DirectoryTable (fs : Filesystem) (root : Bytes) : String → Response → Prop
  | ping : DirectoryTable fs root "/ping" (.ofText .ok "pong\n")
  | index {target : String} (asked : target = "/packages" ∨ target = "/packages/") :
      DirectoryTable fs root target (.ofText .ok (Reply.directoryIndexBody (Directory.list fs root)))
  | found {name : String} {body : Bytes} {contentType : ContentType} (named : name ≠ "")
      (look : (Directory.fetch fs root name).value = .found body contentType) :
      DirectoryTable fs root ("/packages/" ++ name) ⟨.ok, contentType, body⟩
  | missing {name : String} (named : name ≠ "")
      (look : (Directory.fetch fs root name).value = .missing) :
      DirectoryTable fs root ("/packages/" ++ name) (.ofText .notFound "Package not found\n")
  | forbidden {name : String} (named : name ≠ "")
      (look : (Directory.fetch fs root name).value = .forbidden) :
      DirectoryTable fs root ("/packages/" ++ name) (.ofText .forbidden "Forbidden\n")
  | elsewhere {target : String} (noPing : target ≠ "/ping") (noIndex : target ≠ "/packages")
      (noPackage : ∀ name, target ≠ "/packages/" ++ name) :
      DirectoryTable fs root target (.ofText .notFound "Not Found\n")

/-- A router that keeps to the protocol: it says nothing to the empty text, refuses a first line of
fewer than two words and a first word other than GET, and otherwise answers the second word by its
table. -/
structure Follows (router : Router) (table : String → Response → Prop) : Prop where
  silent (raw : String) : (router.respond raw).value = none ↔ raw = ""
  malformed (raw : String) :
    (router.respond raw).value.map Response.status = some .badRequest ↔
      raw ≠ "" ∧ (Request.lineWords raw).length < 2
  refused (raw : String) :
    (router.respond raw).value.map Response.status = some .methodNotAllowed ↔
      2 ≤ (Request.lineWords raw).length ∧ (Request.lineWords raw).head? ≠ some "GET"
  answered (raw target : String) (more : List String)
    (line : Request.lineWords raw = "GET" :: target :: more) (response : Response) :
    (router.respond raw).value = some response ↔ table target response

/-- The four ways in which a text is dealt with. -/
theorem respond_cases (router : Router) (raw : String) :
    (raw = "" ∧ (router.respond raw).value = none) ∨
    (raw ≠ "" ∧ (Request.lineWords raw).length < 2 ∧
      (router.respond raw).value = some Reply.badRequest) ∨
    (∃ word target more, Request.lineWords raw = word :: target :: more ∧ word ≠ "GET" ∧
      (router.respond raw).value = some Reply.getOnly) ∨
    ∃ target more, Request.lineWords raw = "GET" :: target :: more ∧
      (router.respond raw).value = some (router.route target).value := by
  by_cases sent : raw = ""
  · exact .inl ⟨sent, value_respond_eq_none_iff.mpr sent⟩
  rcases Request.lineWords_cases raw with short | ⟨word, target, more, line⟩
  · have malformed := Request.parse_of_short short
    exact .inr (.inl ⟨sent, short, by simp [respond, sent, malformed]⟩)
  have parsed := Request.parse_of_lineWords line
  by_cases get : word = "GET"
  · subst get
    refine .inr (.inr (.inr ⟨target, more, line, ?_⟩))
    simp [respond_of_parse parsed, dispatch, Method.ofWord]
  · refine .inr (.inr (.inl ⟨word, target, more, line, get, ?_⟩))
    simp [respond_of_parse parsed, dispatch, Method.ofWord, get]

/-- A router keeps to the protocol if its table has an answer to every target, the one that is
given, and leaves the two refusals to the protocol. -/
theorem follows_of_table {router : Router} {table : String → Response → Prop}
    (total : ∀ target, ∃ response, table target response)
    (given : ∀ {target response}, table target response →
      (router.route target).value = response)
    (plain : ∀ {target response}, table target response →
      response.status ≠ .badRequest ∧ response.status ≠ .methodNotAllowed) :
    router.Follows table where
  silent raw := value_respond_eq_none_iff
  malformed raw := by
    rcases respond_cases router raw with ⟨rfl, reply⟩ | ⟨sent, short, reply⟩ |
      ⟨word, target, more, line, other, reply⟩ | ⟨target, more, line, reply⟩
    · simp [reply]
    · simp [reply, sent, short, Reply.badRequest, Response.ofText]
    · simp [reply, line, Reply.getOnly, Response.ofText]
    · obtain ⟨response, answer⟩ := total target
      simp [reply, line, given answer, (plain answer).1]
  refused raw := by
    rcases respond_cases router raw with ⟨rfl, reply⟩ | ⟨sent, short, reply⟩ |
      ⟨word, target, more, line, other, reply⟩ | ⟨target, more, line, reply⟩
    · simp [reply, Request.lineWords_empty]
    · simp [reply, Nat.not_le.mpr short, Reply.badRequest, Response.ofText]
    · simp [reply, line, other, Reply.getOnly, Response.ofText]
    · obtain ⟨response, answer⟩ := total target
      simp [reply, line, given answer, (plain answer).2]
  answered raw target more line response := by
    have reply : (router.respond raw).value = some (router.route target).value := by
      rcases respond_cases router raw with ⟨empty, reply⟩ | ⟨sent, short, reply⟩ |
        ⟨word, other, rest, words, method, reply⟩ | ⟨other, rest, words, reply⟩
      · simp [empty, Request.lineWords_empty] at line
      · simp only [line, List.length_cons] at short
        omega
      · exact absurd (List.cons.inj (words.symm.trans line)).1 method
      · rw [reply, (List.cons.inj (List.cons.inj (words.symm.trans line)).2).1]
    obtain ⟨answer, listed⟩ := total target
    rw [reply, given listed, Option.some_inj]
    constructor
    · rintro rfl
      exact listed
    · intro other
      rw [← given listed, given other]

/-- A reply is one of the two refusals or what the table has. -/
theorem Follows.cases_of_reply {router : Router} {table : String → Response → Prop} {raw : String}
    {response : Response} (follows : router.Follows table)
    (reply : (router.respond raw).value = some response) :
    response = Reply.badRequest ∨ response = Reply.getOnly ∨
      ∃ target more, Request.lineWords raw = "GET" :: target :: more ∧ table target response := by
  rcases respond_cases router raw with ⟨-, silent⟩ | ⟨-, -, malformed⟩ |
    ⟨word, target, more, -, -, refused⟩ | ⟨target, more, line, -⟩
  · cases silent.symm.trans reply
  · exact .inl (Option.some_inj.mp (reply.symm.trans malformed))
  · exact .inr (.inl (Option.some_inj.mp (reply.symm.trans refused)))
  · exact .inr (.inr ⟨target, more, line, (follows.answered raw target more line response).mp reply⟩)

namespace CatalogTable

variable {packages : Catalog} {target : String} {response : Response}

theorem total (packages : Catalog) (target : String) :
    ∃ response, CatalogTable packages target response := by
  by_cases package : ∃ name, name ≠ "" ∧ target = "/packages/" ++ name
  · obtain ⟨name, named, rfl⟩ := package
    by_cases asked : name = "list"
    · subst asked
      exact ⟨_, index⟩
    · cases looked : packages.get? name with
      | none => exact ⟨_, unknown named asked (Catalog.get?_eq_none_iff.mp looked)⟩
      | some body => exact ⟨_, .package asked (Catalog.get?_eq_some_iff.mp looked)⟩
  · exact ⟨_, elsewhere fun name named same => package ⟨name, named, same⟩⟩

theorem given (listed : CatalogTable packages target response) :
    ((catalog packages).route target).value = response := by
  cases listed with
  | index => rw [route_catalog_index, Logged.value_quiet]
  | package apart member =>
    have named := packages.name_ne_empty _ member
    rw [route_catalog_below packages named apart, Logged.value_quiet, Catalog.fetch,
      Catalog.get?_eq_some_iff.mpr member]
    rfl
  | unknown named apart absent =>
    rw [route_catalog_below packages named apart, Logged.value_quiet, Catalog.fetch,
      Catalog.get?_eq_none_iff.mpr absent]
    rfl
  | elsewhere noPackage =>
    rw [route_catalog_elsewhere packages noPackage, Logged.value_quiet]
    rfl

theorem status_eq (listed : CatalogTable packages target response) :
    response.status = .ok ∨ response.status = .notFound := by
  cases listed with
  | index => exact .inl rfl
  | package => exact .inl rfl
  | unknown => exact .inr rfl
  | elsewhere => exact .inr rfl

end CatalogTable

namespace DirectoryTable

variable {fs : Filesystem} {root : Bytes} {target : String} {response : Response}

theorem total (fs : Filesystem) (root : Bytes) (target : String) :
    ∃ response, DirectoryTable fs root target response := by
  by_cases ping : target = "/ping"
  · subst ping
    exact ⟨_, .ping⟩
  by_cases asked : target = "/packages" ∨ target = "/packages/"
  · exact ⟨_, index asked⟩
  obtain ⟨noIndex, noSlash⟩ := not_or.mp asked
  by_cases package : ∃ name, target = "/packages/" ++ name
  · obtain ⟨name, rfl⟩ := package
    have named : name ≠ "" := by
      rintro rfl
      exact noSlash rfl
    cases look : (Directory.fetch fs root name).value with
    | found body contentType => exact ⟨_, found named look⟩
    | missing => exact ⟨_, missing named look⟩
    | forbidden => exact ⟨_, forbidden named look⟩
  · exact ⟨_, elsewhere ping noIndex fun name same => package ⟨name, same⟩⟩

theorem given (listed : DirectoryTable fs root target response) :
    ((directory fs root).route target).value = response := by
  have fetched {name : String} (named : name ≠ "") :
      ((directory fs root).route ("/packages/" ++ name)).value =
        Reply.ofFinding (Directory.fetch fs root name).value := by
    simp [route_directory_below fs root named, Handler.fetch, Directory.source]
  cases listed with
  | ping => rw [route_directory_ping, Logged.value_quiet]; rfl
  | index asked => rw [route_directory_index fs root asked, Logged.value_quiet]
  | found named look => rw [fetched named, look]; rfl
  | missing named look => rw [fetched named, look]; rfl
  | forbidden named look => rw [fetched named, look]; rfl
  | elsewhere noPing noIndex noPackage =>
    rw [route_directory_elsewhere fs root noPing noIndex noPackage, Logged.value_quiet]
    rfl

theorem status_eq (listed : DirectoryTable fs root target response) :
    response.status = .ok ∨ response.status = .notFound ∨ response.status = .forbidden := by
  cases listed with
  | ping => exact .inl rfl
  | index => exact .inl rfl
  | found => exact .inl rfl
  | missing => exact .inr (.inl rfl)
  | forbidden => exact .inr (.inr rfl)
  | elsewhere => exact .inr (.inl rfl)

end DirectoryTable

theorem catalog_follows (packages : Catalog) :
    (catalog packages).Follows (CatalogTable packages) := by
  refine follows_of_table (CatalogTable.total packages) CatalogTable.given ?_
  intro target response listed
  rcases listed.status_eq with status | status
  · simp [status]
  · simp [status]

theorem directory_follows (fs : Filesystem) (root : Bytes) :
    (directory fs root).Follows (DirectoryTable fs root) := by
  refine follows_of_table (DirectoryTable.total fs root) DirectoryTable.given ?_
  intro target response listed
  rcases listed.status_eq with status | status | status
  · simp [status]
  · simp [status]
  · simp [status]

/-- What a catalog's router gives out is its index, or the text of a package whose name can be asked
for: not the index's, and one word. -/
theorem catalog_gives {packages : Catalog} {raw : String} {response : Response}
    (reply : ((catalog packages).respond raw).value = some response)
    (accepted : response.status = .ok) :
    response = .ofText .ok (Reply.catalogIndexBody packages.list) ∨
      ∃ name body, name ≠ "list" ∧ Text.Solid name.toList ∧ ⟨name, body⟩ ∈ packages.entries ∧
        (Request.lineWords raw)[1]? = some ("/packages/" ++ name) ∧
        response = ⟨.ok, .textPlain, Utf8.octets body⟩ := by
  rcases (catalog_follows packages).cases_of_reply reply with rfl | rfl | ⟨target, more, line, listed⟩
  · cases accepted
  · cases accepted
  · cases listed with
    | index => exact .inl rfl
    | @package name body apart member =>
      have asked : "/packages/" ++ name ∈ Request.lineWords raw := by simp [line]
      have solid := Request.solid_of_mem_lineWords asked
      rw [String.toList_append, Text.solid_append] at solid
      exact .inr ⟨name, body, apart, solid.2, member, by simp [line], rfl⟩
    | unknown => cases accepted
    | elsewhere => cases accepted

theorem catalog_not_forbidden {packages : Catalog} {raw : String} {response : Response}
    (reply : ((catalog packages).respond raw).value = some response) :
    response.status ≠ .forbidden := by
  rcases (catalog_follows packages).cases_of_reply reply with rfl | rfl | ⟨target, more, line, listed⟩
  · exact Status.noConfusion
  · exact Status.noConfusion
  · rcases listed.status_eq with ok | notFound
    · simp [ok]
    · simp [notFound]

end PackageDepot.Router
