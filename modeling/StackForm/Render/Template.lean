import StackForm.Json.Writer
import StackForm.KeyMap
import StackForm.Stack.Error

/-!
# Templates

A template declares resources under logical names and outputs that report on them. A name can be
declared once; outputs may be set again. Resources, outputs and properties are held in the order of
their names, so the text of a template does not depend on the order in which it was built.
-/

namespace StackForm

/-! ### Intrinsic functions -/

/-- The value of the resource with a logical name. -/
def reference (name : String) : Json :=
  .obj [("Ref", .str name)]

/-- An attribute of the resource with a logical name. -/
def attributeOf (name attr : String) : Json :=
  .obj [("Fn::GetAtt", .strings [name, attr])]

/-! ### Resources and outputs -/

structure Resource where
  type : String
  properties : KeyMap Json

namespace Resource

/-- A resource without properties. -/
def ofType (type : String) : Resource := ⟨type, .empty⟩

/-- Set a property. -/
def property (r : Resource) (key : String) (value : Json) : Resource :=
  { r with properties := r.properties.insert key value }

/-- A resource with the given properties. -/
def withProperties (type : String) (properties : List (String × Json)) : Resource :=
  properties.foldl (fun r p => r.property p.1 p.2) (ofType type)

def get? (r : Resource) (key : String) : Option Json :=
  r.properties.get? key

/-- The resource as a template shows it. -/
def document (r : Resource) : Json :=
  .obj [("Type", .str r.type), ("Properties", .obj r.properties.entries)]

end Resource

structure Output where
  description : Option String
  value : Json

/-- The output as a template shows it. -/
def Output.document (o : Output) : Json :=
  .obj ((match o.description with
    | some text => [("Description", .str text)]
    | none => []) ++ [("Value", o.value)])

/-! ### Templates -/

structure Template where
  formatVersion : String
  description : Option String
  resources : KeyMap Resource
  outputs : KeyMap Output

namespace Template

/-- The version of the template format. -/
def currentVersion : String := "2010-09-09"

/-- A template that declares nothing. -/
def empty : Template := ⟨currentVersion, none, .empty, .empty⟩

def withDescription (t : Template) (text : String) : Template :=
  { t with description := some text }

/-- Declare a resource in the template at hand; its name must be new. -/
def declare (name : String) (r : Resource) : ExceptT StackError (StateM Template) Unit := do
  let t ← get
  if t.resources.contains name then throw (.render ("duplicate resource '" ++ name ++ "'"))
  else set { t with resources := t.resources.insert name r }

/-- A refusal leaves the template at hand as it is. -/
theorem run_declare (t : Template) (name : String) (r : Resource) :
    (declare name r).run.run t =
      if t.resources.contains name then
        (.error (.render ("duplicate resource '" ++ name ++ "'")), t)
      else (.ok (), { t with resources := t.resources.insert name r }) := by
  show (if t.resources.contains name then throw _ else set _ :
    ExceptT StackError (StateM Template) Unit).run.run t = _
  split <;> rfl

/-- The template with one more resource, if it can be declared. -/
def addResource (t : Template) (name : String) (r : Resource) : Except StackError Template :=
  match (declare name r).run.run t with
  | (.ok (), t') => .ok t'
  | (.error e, _) => .error e

theorem addResource_of_not_contains {t : Template} {name : String} (r : Resource)
    (h : t.resources.contains name = false) :
    t.addResource name r = .ok { t with resources := t.resources.insert name r } := by
  rw [addResource, run_declare, h]
  rfl

/-- Declare resources one after the other. -/
def addResources (t : Template) (resources : List (String × Resource)) :
    Except StackError Template :=
  resources.foldlM (fun t r => t.addResource r.1 r.2) t

/-- Set an output. -/
def addOutput (t : Template) (name : String) (o : Output) : Template :=
  { t with outputs := t.outputs.insert name o }

/-- Set outputs one after the other. -/
def addOutputs (t : Template) (outputs : List (String × Output)) : Template :=
  outputs.foldl (fun t o => t.addOutput o.1 o.2) t

def resource? (t : Template) (name : String) : Option Resource :=
  t.resources.get? name

/-- The names of the resources of a type, in ascending order. -/
def resourcesOfType (t : Template) (type : String) : List String :=
  Keyed.keys (t.resources.entries.filter fun entry => entry.2.type == type)

/-- The template as a document, members in the order in which they are written. Outputs are shown
only if there are any. -/
def document (t : Template) : Json :=
  .obj ([("AWSTemplateFormatVersion", .str t.formatVersion)] ++
    (match t.description with
      | some text => [("Description", .str text)]
      | none => []) ++
    [("Resources", .obj (t.resources.entries.map fun entry => (entry.1, entry.2.document)))] ++
    (if t.outputs.isEmpty then []
     else [("Outputs", .obj (t.outputs.entries.map fun entry => (entry.1, entry.2.document)))]))

/-- The text of the template. -/
def text (t : Template) : String :=
  t.document.indented

end Template

end StackForm
