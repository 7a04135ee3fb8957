import FeatureFlags.Panel.Percent

/-!
# Panel/Route — what a request is addressed to

A request names a method and a target, which is a path and, behind a question mark, a query.  The
path is decoded before it is compared, so a slash in it always separates segments.  A line feed at
the end of a path is overlooked where the path ends with a fixed word.  A path that is known only
without the slashes at its end is a redirection.

A query is a list of fields between ampersands.  A plus sign in it is a space, and of several values
of one name the last one counts.
-/

namespace FeatureFlags

/-- **What the panel shows.** -/
inductive Resource where
  | health
  | flags
  | flag (name : Text)
  | toggle (name : Text)
  | stream (name : Text)
deriving DecidableEq

/-- **What the panel can be asked to do.** -/
inductive Call where
  | health
  | list
  | create
  | clear
  | read (name : Text)
  | replace (name : Text)
  | toggle (name : Text)
  | stream (name : Text)
deriving DecidableEq

namespace Resource

/-- Whether a text is a fixed word, a line feed at its end being overlooked. -/
def isWord (word t : Text) : Bool := t = word || t = word ++ "\n"

/-- What stands below the list of flags. -/
def below (rest : Text) : Option Resource :=
  match rest.cut? (.scalar '/') with
  | none => if rest.isEmpty then none else some (.flag rest)
  | some (name, tail) =>
    if name.isEmpty then none
    else if isWord "toggle" tail then some (.toggle name)
    else if isWord "stream" tail then some (.stream name)
    else none

/-- **The resource of a path.** -/
def ofPath? (path : Text) : Option Resource :=
  if isWord "/health" path then some .health
  else if isWord "/api/features" path then some .flags
  else (path.after? "/api/features/").bind below

/-- What a method asks of a resource.  Methods are written in capitals. -/
def call? (method : Text) : Resource → Option Call
  | .health => if method = "GET" then some .health else none
  | .flags =>
    if method = "GET" then some .list
    else if method = "POST" then some .create
    else if method = "DELETE" then some .clear
    else none
  | .flag name =>
    if method = "GET" then some (.read name)
    else if method = "PUT" then some (.replace name)
    else none
  | .toggle name => if method = "POST" then some (.toggle name) else none
  | .stream name => if method = "GET" then some (.stream name) else none

end Resource

/-- **Where a request leads.** -/
inductive Route where
  | call (c : Call)
  | wrongMethod
  | redirection
  | unknown
deriving DecidableEq

namespace Route

/-- A path without the slashes at its end. -/
def withoutSlashes (path : Text) : Text := (path.reverse.dropWhile (· = .scalar '/')).reverse

/-- **The route of a method and a decoded path.** -/
def find (method path : Text) : Route :=
  match Resource.ofPath? path with
  | some resource => ((resource.call? method).map Route.call).getD .wrongMethod
  | none =>
    if path.getLast? = some (.scalar '/') ∧ (Resource.ofPath? (withoutSlashes path)).isSome then
      .redirection
    else .unknown

end Route

namespace Target

/-- The path of a target, decoded. -/
def path (target : Text) : Text :=
  Percent.decode (((target.cut? (.scalar '?')).map (·.1)).getD target)

/-- A part of a query, decoded. -/
def component (t : Text) : Text :=
  Percent.decode (t.map fun c => if c = .scalar '+' then .scalar ' ' else c)

/-- A field of a query; without an equals sign its value is empty. -/
def field (t : Text) : Text × Text :=
  let (name, value) := (t.cut? (.scalar '=')).getD (t, [])
  (component name, component value)

/-- **The fields of a query**, the last one first. -/
def query (target : Text) : List (Text × Text) :=
  let text := ((target.cut? (.scalar '?')).map (·.2)).getD []
  (((text.splitOn (.scalar '&')).filter fun t => !t.isEmpty).map field).reverse

/-- The value of a name in a query. -/
def value? (name target : Text) : Option Text := (query target).lookup name

end Target

end FeatureFlags
