import FeatureFlags.Fault
import FeatureFlags.Flag.Decoding
import FeatureFlags.Json.Encoding
import FeatureFlags.Json.Parser
import FeatureFlags.Json.Sending
import FeatureFlags.Panel.Route

/-!
# Panel/Message — requests and responses

The body of a request is a JSON document.  What is wrong with it, or with a query, is answered by
reports: each tells an issue, with its place in the request, and shows the data it lies in.  A
response has a status and, mostly, a document.
-/

namespace FeatureFlags

/-- **A request.** -/
structure Request where
  method : Text
  target : Text
  body : List UInt8

/-! ## Reports -/

namespace Segment

/-- A step into data as a value. -/
def toJson : Segment → Json
  | .field name => .str name
  | .index i => .int i

/-- The value a step leads to. -/
def follow? (v : Json) : Segment → Option Json
  | .field name => v.field? name
  | .index i => v.item? i

end Segment

/-- **A report**: an issue, the data it lies in, and what else is known of it. -/
structure Report where
  issue : Issue
  subject : Json
  context : List (Text × Json)

namespace Report

/-- The data an issue lies in: the value at its place, or what lacks the value. -/
def subjectOf (i : Issue) (v : Json) : Json :=
  let place := if i.kind = .missing then i.place.dropLast else i.place
  (place.foldlM Segment.follow? v).getD .null

/-- What is known of an issue besides its kind. -/
def contextOf : IssueKind → List (Text × Json)
  | .rejected _ => [("error", .obj [])]
  | .greaterThanEqual => [("ge", .int 0)]
  | _ => []

/-- The report of an issue of a part of a request, where the part is `v`. -/
def within (part : Text) (v : Json) (i : Issue) : Report :=
  ⟨⟨.field part :: i.place, i.kind⟩, subjectOf i v, contextOf i.kind⟩

/-- A report as a document. -/
def toJson (r : Report) : Json :=
  let context : List (Text × Json) :=
    if r.context.isEmpty then [] else [("ctx", .obj r.context)]
  let told : List (Text × Json) :=
    [("type", .str r.issue.kind.code), ("loc", .arr (r.issue.place.map Segment.toJson)),
      ("msg", .str r.issue.kind.message), ("input", r.subject)]
  .obj (told ++ context)

end Report

/-! ## Responses -/

/-- **What a response says**: nothing, a document, or what is wrong with the request. -/
inductive Body where
  | nothing
  | document (v : Json)
  | reports (rs : List Report)

/-- What goes with the word `detail`. -/
def Body.detail (v : Json) : Json := .obj [("detail", v)]

/-- **The characters that are sent.** -/
def Body.send : Body → Except Json.Unsendable (List Char)
  | .nothing => .ok []
  | .document v => v.send
  | .reports rs => (detail (.arr (rs.map Report.toJson))).sendReport

/-- **A response.** -/
structure Response where
  status : Nat
  body : Body

namespace Response

/-- A response with a document. -/
def of (status : Nat) (v : Json) : Response := ⟨status, .document v⟩

/-- A response that tells what went wrong. -/
def detail (status : Nat) (v : Json) : Response := of status (Body.detail v)

/-- **The response to a request that is reported on.** -/
def refusal (rs : List Report) : Response := ⟨422, .reports rs⟩

/-- **The response to a fault.** -/
def fault (f : Fault) : Response := detail f.status.toNat f.toJson

/-- Nothing is there. -/
def notFound : Response := detail 404 (.str "Not Found")

/-- Something is there, but not for this method. -/
def wrongMethod : Response := detail 405 (.str "Method Not Allowed")

/-- It is somewhere else. -/
def redirection : Response := ⟨307, .nothing⟩

/-- It is done, and there is nothing to say. -/
def done : Response := ⟨204, .nothing⟩

/-- The body cannot be read for another reason than the form of its document. -/
def unreadable : Response := detail 400 (.str "There was an error parsing the body")

end Response

namespace Request

/-- **The document of a body.** -/
def document (r : Request) : Except Response Json :=
  if r.body.isEmpty then .error (.refusal [.within "body" .null ⟨[], .missing⟩])
  else match Json.textOf? r.body with
    | none => .error .unreadable
    | some text =>
      match Json.parse text with
      | .ok v => .ok v
      | .error (.overlong _) => .error .unreadable
      | .error (.tooDeep _) => .error .unreadable
      | .error (.malformed defect offset) =>
        .error (.refusal [⟨⟨[.field "body", .index offset], .jsonInvalid⟩, .obj [],
          [("error", .str defect.message)]⟩])

/-- Whether a body is empty or has a document. -/
def isReadable (r : Request) : Bool := r.body.isEmpty || r.document.isOk

/-- **What the body of a request says.** -/
def read {α : Type} (decode : Json → Checked α) (r : Request) : Except Response α := do
  let v ← r.document
  (decode v).mapError fun issues => .refusal (issues.map (Report.within "body" v))

/-- A level asked for: an integer that is not negative. -/
def levelOfText (t : Text) : Except IssueKind Int :=
  match Reading.integerOfText t with
  | .error kind => .error kind
  | .ok n => if n < 0 then .error .greaterThanEqual else .ok n

/-- The level asked for, if one is. -/
def level (r : Request) : Except Response (Option Int) :=
  match Target.value? "level" r.target with
  | none => .ok none
  | some t =>
    match levelOfText t with
    | .error kind =>
      .error (.refusal [.within "query" (.obj [("level", .str t)]) ⟨[.field "level"], kind⟩])
    | .ok n => .ok (some n)

/-- The version asked for, if one is. -/
def version (r : Request) : Option Text := Target.value? "version" r.target

end Request

/-- **The new state of a flag**; without a condition the flag keeps its own. -/
structure Replacement where
  enabled : Bool
  condition : Option Condition

namespace Replacement

/-- A new state from a JSON value. -/
def decode (v : Json) : Checked Replacement := do
  let fields ← Reading.object .modelAttributesType v
  (Checked.both (Reading.required "enabled" Reading.truth fields)
    (Reading.defaulted "condition" (Reading.optional (Condition.decode .modelAttributesType)) none
      fields)).map fun (enabled, condition) => ⟨enabled, condition⟩

end Replacement

end FeatureFlags
