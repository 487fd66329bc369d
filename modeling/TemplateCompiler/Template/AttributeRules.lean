import TemplateCompiler.Template.Node

/-!
What the compiler knows about markup attributes: which ones are boolean on which tags, which ones hold
the identifier of another element, and where a reference into the same document is allowed.
-/

namespace TemplateCompiler.Template

/-- Attributes that are boolean, with the tags on which they are. No tags means every tag. -/
def booleanAttributes : List (String × List String) :=
  [("autofocus", ["button", "input", "keygen", "select", "textarea"]),
    ("autoplay", ["audio", "video"]),
    ("checked", ["command", "input"]),
    ("disabled",
      ["button", "command", "fieldset", "input", "keygen", "optgroup", "select", "textarea"]),
    ("formnovalidate", ["button"]),
    ("hidden", []),
    ("loop", ["audio", "bgsound", "marquee", "video"]),
    ("multiple", ["input", "select"]),
    ("muted", ["audio", "video"]),
    ("novalidate", ["form"]),
    ("open", ["details"]),
    ("readonly", ["input", "textarea"]),
    ("required", ["input", "select", "textarea"]),
    ("reversed", ["ol"]),
    ("selected", ["option"])]

def isBooleanAttribute (name tag : String) : Bool :=
  match booleanAttributes.lookup name with
  | some tags => tags.isEmpty || tags.contains tag
  | none => false

/-- Attributes that hold identifiers of other elements. -/
def idReferencingAttributes : List String :=
  ["aria-activedescendant", "aria-controls", "aria-describedby", "aria-details", "aria-errormessage",
    "aria-flowto", "aria-labelledby", "aria-owns", "for"]

def isIdReferencingAttribute (name : String) : Bool := idReferencingAttributes.contains name

/-- A reference to a fragment of the same document and nothing more; the fragment has a name. -/
def isFragmentOnlyUrl (url : String) : Bool :=
  match url.toList with
  | '#' :: _ :: _ => true
  | _ => false

/-- Where a link may hold a reference into the same document. -/
def allowsFragmentUrl (tag name namespaceName : String) : Bool :=
  name == "href" && ["a", "area"].contains tag && namespaceName == htmlNamespace

def isSvgUseReference (tag name namespaceName : String) : Bool :=
  tag == "use" && ["href", "xlink:href"].contains name && namespaceName == svgNamespace

end TemplateCompiler.Template
