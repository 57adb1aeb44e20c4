import PackageDepot.Http.Request
import PackageDepot.Http.Response
import PackageDepot.Package.Catalog
import PackageDepot.Package.Directory

namespace PackageDepot

/-- Which targets a rule is for. A target that is accepted leaves a remainder for the handler. -/
inductive Pattern where
  | exact (path : String)
  | below (stem : String)
deriving DecidableEq, Repr

namespace Pattern

/-- The remainder of an accepted target: nothing for an exact one, and the non-empty text after the
stem for one below it. -/
def remainder? : Pattern → String → Option String
  | exact path, target => if target = path then some "" else none
  | below stem, target =>
    if stem.toList <+: target.toList ∧ stem ≠ target then
      some (.ofList (target.toList.drop stem.toList.length))
    else none

end Pattern

/-- What a rule does: it answers from a source and the remainder of the target. -/
abbrev Handler := PackageSource → String → Logged Event Http.Response

namespace Reply

open Http

def notFound : Response := .ofText .notFound "Not Found\n"

def badRequest : Response := .ofText .badRequest "Bad Request\n"

def getOnly : Response := .ofText .methodNotAllowed "GET only\n"

def packageNotFound : Response := .ofText .notFound "Package not found\n"

def forbidden : Response := .ofText .forbidden "Forbidden\n"

def pong : Response := .ofText .ok "pong\n"

def catalogTitle : String := "Available Packages:\n"

/-- The index of a catalog: a title, and one line with a bullet for each name. -/
def catalogIndexBody (names : List String) : String :=
  catalogTitle ++ .join (names.map fun name => "- " ++ name ++ "\n")

/-- The index of a directory: the names with a line feed between each two. -/
def directoryIndexBody (names : List String) : String :=
  "\n".intercalate names

def ofFinding : Finding → Response
  | .found body contentType => .ofBytes .ok body contentType
  | .missing => packageNotFound
  | .forbidden => forbidden

end Reply

namespace Handler

def ping : Handler := fun _ _ =>
  .quiet Reply.pong

def catalogIndex : Handler := fun source _ =>
  .quiet (.ofText .ok (Reply.catalogIndexBody source.list))

def directoryIndex : Handler := fun source _ =>
  .quiet (.ofText .ok (Reply.directoryIndexBody source.list))

/-- Serves the package that the remainder names. A name that leads outside is reported. -/
def fetch : Handler := fun source name =>
  (source.fetch name).bind fun finding =>
    ⟨Reply.ofFinding finding, if finding = .forbidden then [.traversalRejected name] else []⟩

end Handler

structure Rule where
  pattern : Pattern
  handler : Handler

/-- A source of packages and the rules on it, in order of precedence. -/
structure Router where
  source : PackageSource
  rules : List Rule := []

namespace Router

def register (router : Router) (pattern : Pattern) (handler : Handler) : Router :=
  { router with rules := router.rules ++ [⟨pattern, handler⟩] }

def answer? (source : PackageSource) (target : String) :
    List Rule → Option (Logged Event Http.Response)
  | [] => none
  | rule :: rest =>
    match rule.pattern.remainder? target with
    | some remainder => some (rule.handler source remainder)
    | none => answer? source target rest

def route (router : Router) (target : String) : Logged Event Http.Response :=
  (answer? router.source target router.rules).getD (.quiet Reply.notFound)

/-- The answer to a request. A target that no rule accepts does not exist, and a method other than GET is
refused before any rule is asked. -/
def dispatch (router : Router) (request : Http.Request) : Logged Event Http.Response :=
  if request.method = .get then router.route request.target else .quiet Reply.getOnly

def catalog (catalog : Catalog) : Router :=
  (({ source := catalog.source } : Router).register (.exact "/packages/list") .catalogIndex)
    |>.register (.below "/packages/") .fetch

/-- The router of a root in a state of the filesystem: a sign of life, the listing, and the files. -/
def directory (fs : Filesystem) (root : Bytes) : Router :=
  (({ source := Directory.source fs root } : Router).register (.exact "/ping") .ping)
    |>.register (.exact "/packages") .directoryIndex
    |>.register (.exact "/packages/") .directoryIndex
    |>.register (.below "/packages/") .fetch

end Router

end PackageDepot
